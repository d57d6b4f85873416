/-
**Guidance towards a principal.**

Somebody who types the resource name of an identity, character by character, is never let down:
whatever part of it has been typed, there is advice, and it is a hint or a word of success.  The
part that has been typed shows how far its last field has got, and the fields before it are those of
the finished name.  So there is one statement for each field here, about the beginnings of what the
field will be in the end.

Main definitions:

* `BucketAccess.Principal.HasCommonType` — the types of identities that advice is given on;
* `BucketAccess.Principal.Guides` — advice that is a hint or a word of success;
* `BucketAccess.Principal.TypedSoFar` — how far a resource name has been typed.

Main results:

* `BucketAccess.Principal.gives_hint_partitionAdvice`,
  `BucketAccess.Principal.gives_hint_serviceAdvice`,
  `BucketAccess.Principal.gives_hint_accountAdvice`,
  `BucketAccess.Principal.guides_resourceAdvice` — **advice on the beginnings of a field**;
* `BucketAccess.Principal.typedSoFar_of_prefix` — every beginning of a resource name is finished up
  to its last field;
* `BucketAccess.Principal.isPrincipal_of_succeeds` — a beginning with a complete resource is
  accepted, so no word of success is held back;
* `BucketAccess.Principal.guides_advise_of_prefix` — **every beginning of an accepted identity is
  answered with a hint or a word of success**.
-/

import BucketAccess.Proofs.Principal.Completion
import BucketAccess.Proofs.Principal.DeadEnd

set_option relaxedAutoImplicit false
set_option autoImplicit false

namespace BucketAccess.Principal

open BucketAccess.Text

/-! ### The way to an identity -/

/-- The types of identities that advice is given on: a user or a policy in the own partition, and
the whole account, a user, a role or a group in the others. -/
def HasCommonType (partition resource : List Char) : Prop :=
  (partition = "ipcld".toList ∧ String.ofList (resourceType resource) ∈ ["user", "policy"]) ∨
    (partition ≠ "ipcld".toList ∧ (resource = "root".toList ∨
      String.ofList (resourceType resource) ∈ ["user", "role", "group"]))

/-- Advice that keeps somebody going: a hint or a word of success. -/
def Guides (advice : Option Advice) : Prop :=
  Gives .hint advice ∨ Gives .success advice

theorem guides_iff {advice : Option Advice} :
    Guides advice ↔ ∃ a, advice = some a ∧ (a.kind = .hint ∨ a.kind = .success) := by
  simp only [Guides, Gives, ← exists_or, ← and_or_left]

@[simp] theorem guides_some {a : Advice} :
    Guides (some a) ↔ a.kind = .hint ∨ a.kind = .success := by
  simp [Guides]

theorem guides_ite {c : Prop} [Decidable c] {advice other : Option Advice} :
    Guides (if c then advice else other) ↔ (c ∧ Guides advice) ∨ (¬ c ∧ Guides other) := by
  by_cases h : c <;> simp [h]

theorem Guides.or {advice : Option Advice} (h : Guides advice) (other : Option Advice) :
    Guides (advice.or other) :=
  h.imp (fun hhint => hhint.or other) (fun hsuccess => hsuccess.or other)

/-- Holding back words of success leaves hints alone. -/
theorem Gives.bind_holdBack {s : List Char} {advice : Option Advice} (h : Gives .hint advice) :
    Gives .hint (advice.bind (holdBack s)) := by
  obtain ⟨a, rfl, hkind⟩ := h
  exact ⟨a, by simp [holdBack, hkind], hkind⟩

/-- A word of success is not held back on what is accepted. -/
theorem guides_bind_holdBack {s : List Char} {advice : Option Advice} (h : Guides advice)
    (hvalid : Gives .success advice → IsPrincipal s) : Guides (advice.bind (holdBack s)) := by
  rcases h with hhint | hsuccess
  · exact .inl hhint.bind_holdBack
  · have haccepted := (isValid_review_iff s).2 (hvalid hsuccess)
    obtain ⟨a, rfl, hkind⟩ := hsuccess
    exact .inr ⟨a, by simp [holdBack, haccepted], hkind⟩

/-! ### Beginnings of fields -/

theorem completes_iff {token : List Char} {candidates : List String} :
    completes token candidates = true ↔ ∃ c ∈ candidates, token <+: c.toList := by
  simp [completes]

/-- **The beginnings of a partition** are answered with a hint. -/
theorem gives_hint_partitionAdvice {cur : Cursor} {partition : String}
    (hpartition : partition = "ipcld" ∨ partition ∈ Catalog.partitions)
    (htoken : cur.token <+: partition.toList) : Gives .hint (partitionAdvice cur) := by
  have hcompletes : completes cur.token [Catalog.ownPartition] = true ∨
      completes cur.token Catalog.partitions = true := by
    rcases hpartition with rfl | hmem
    · exact .inl (completes_iff.2 ⟨_, by simp [Catalog.ownPartition], htoken⟩)
    · exact .inr (completes_iff.2 ⟨_, hmem, htoken⟩)
  simp only [partitionAdvice, gives_ite, gives_some, not_gives_none, and_true, and_false, or_false]
  tauto

/-- A beginning of the service of identities is no service of the other cloud alone. -/
theorem not_mem_foreignServices {token : List Char} (h : token <+: identityService) :
    String.ofList token ∉ Catalog.foreignServices := by
  have hnone : ∀ service ∈ Catalog.foreignServices, ¬ service.toList <+: identityService := by
    decide
  intro hmem
  exact hnone _ hmem (by simpa using h)

/-- **The beginnings of the service of identities** are answered with a hint. -/
theorem gives_hint_serviceAdvice {cur : Cursor} (htoken : cur.token <+: identityService) :
    Gives .hint (serviceAdvice cur) := by
  have hcompletes : completes cur.token Catalog.identityServices = true :=
    completes_iff.2 ⟨"iam", by decide, htoken⟩
  have hservice : Catalog.foreignServices.contains (String.ofList cur.token) = false := by
    simpa using not_mem_foreignServices htoken
  cases hown : cur.isOwn with
  | true => simp [serviceAdvice, hown, kind_ownServiceAdvice, htoken]
  | false =>
      simp only [serviceAdvice, hown, foreignServiceAdvice, hservice, hcompletes, gives_ite,
        gives_some]
      tauto

/-- **The beginnings of an account** are answered with a hint. -/
theorem gives_hint_accountAdvice {cur : Cursor} {account : List Char}
    (haccount : cur.isOwn = false → Arn.IsAccount account) (htoken : cur.token <+: account) :
    Gives .hint (some (accountAdvice cur)) := by
  rw [gives_some, kind_accountAdvice, if_pos]
  cases hown : cur.isOwn with
  | true => exact .inl rfl
  | false => exact .inr (startsAccount_of_isPrefix htoken (haccount hown))

/-- A beginning of a resource with a listed type is a beginning of a listed word, or has got past
its type. -/
theorem completes_or_mem_of_isPrefix {types : List String} {token resource : List Char}
    (htype : String.ofList (resourceType resource) ∈ types) (htoken : token <+: resource) :
    ('/' ∉ token ∧ completes token types = true) ∨
      ('/' ∈ token ∧ String.ofList (resourceType token) ∈ types) := by
  by_cases hslash : '/' ∈ token
  · have hsame : resourceType token = resourceType resource := beforeFirst_of_prefix htoken hslash
    exact .inr ⟨hslash, hsame ▸ htype⟩
  · have hstart : token <+: resourceType resource := prefix_beforeFirst htoken hslash
    exact .inl ⟨hslash, completes_iff.2 ⟨_, htype, by simpa using hstart⟩⟩

/-- The examples for a listed type are found. -/
theorem exists_lookup_of_mem {table : List (String × String)} {type : String}
    (h : type ∈ table.map Prod.fst) : ∃ examples, table.lookup type = some examples :=
  ((lookup_cases table type).resolve_right fun hno => hno.1 h).2

theorem guides_ownResourceAdvice {cur : Cursor} {resource : List Char}
    (hservice : cur.service = identityService) (haccount : cur.account ≠ [])
    (htype : String.ofList (resourceType resource) ∈ ["user", "policy"])
    (htoken : cur.token <+: resource) : Guides (ownResourceAdvice cur) := by
  have hnoSlash : (!cur.token.contains '/') = true ↔ '/' ∉ cur.token := by simp
  have htypes : ownTypes.map Prod.fst = ["user", "policy"] := rfl
  simp only [ownResourceAdvice, hnoSlash, guides_ite]
  rcases completes_or_mem_of_isPrefix htype htoken with ⟨hslash, hcompletes⟩ | ⟨hslash, hmem⟩
  · exact .inl ⟨hslash, .inl ⟨hcompletes, by simp⟩⟩
  · obtain ⟨examples, hlookup⟩ := exists_lookup_of_mem (htypes ▸ hmem)
    refine .inr ⟨not_not.2 hslash, ?_⟩
    -- the name has not been begun yet, or it is there and the identity complete
    by_cases hname : (resourceName cur.token).isEmpty = true <;>
      simp [hlookup, hname, hservice, haccount]

theorem guides_identityAdvice {cur : Cursor} {resource : List Char}
    (haccount : Arn.isAccount cur.account = true)
    (htype : resource = "root".toList ∨
      String.ofList (resourceType resource) ∈ ["user", "role", "group"])
    (htoken : cur.token <+: resource) : Guides (identityAdvice cur) := by
  have hnoSlash : (!cur.token.contains '/') = true ↔ '/' ∉ cur.token := by simp
  have htypes : identityTypes.map Prod.fst = ["user", "role", "group"] := rfl
  -- the whole account is one word, and its beginnings are beginnings of a listed word
  have hbegun : ('/' ∉ cur.token ∧
        completes cur.token (["user", "role", "group"] ++ ["root"]) = true) ∨
      ('/' ∈ cur.token ∧ String.ofList (resourceType cur.token) ∈ ["user", "role", "group"]) := by
    rcases htype with rfl | htype
    · have hslash : '/' ∉ cur.token := fun hmem => absurd (htoken.subset hmem) (by decide)
      exact .inl ⟨hslash, completes_iff.2 ⟨"root", by simp, htoken⟩⟩
    · refine (completes_or_mem_of_isPrefix htype htoken).imp_left fun ⟨hslash, hcompletes⟩ => ?_
      obtain ⟨type, hmem, hstart⟩ := completes_iff.1 hcompletes
      exact ⟨hslash, completes_iff.2 ⟨type, List.mem_append_left _ hmem, hstart⟩⟩
  simp only [identityAdvice, hnoSlash, guides_ite]
  by_cases hwhole : cur.token = wholeAccount
  · exact .inl ⟨hwhole, .inl ⟨haccount, by simp⟩⟩
  refine .inr ⟨hwhole, ?_⟩
  rcases hbegun with ⟨hslash, hcompletes⟩ | ⟨hslash, hmem⟩
  · exact .inl ⟨hslash, .inl ⟨hcompletes, by simp⟩⟩
  · obtain ⟨examples, hlookup⟩ := exists_lookup_of_mem (htypes ▸ hmem)
    refine .inr ⟨not_not.2 hslash, ?_⟩
    by_cases hname : (resourceName cur.token).isEmpty = true <;>
      simp [hlookup, hname, haccount]

/-- **The beginnings of a resource** of an identity with an account are answered with a hint or a
word of success. -/
theorem guides_resourceAdvice {cur : Cursor} {resource : List Char}
    (hiam : cur.service = identityService)
    (haccount : (cur.partition = Catalog.ownPartition.toList → cur.account ≠ []) ∧
      (cur.partition ≠ Catalog.ownPartition.toList → Arn.isAccount cur.account = true))
    (htype : HasCommonType cur.partition resource) (htoken : cur.token <+: resource) :
    Guides (resourceAdvice cur) := by
  unfold resourceAdvice
  rcases htype with ⟨hpartition, htype⟩ | ⟨hpartition, htype⟩
  · rw [Cursor.isOwn_iff.2 hpartition]
    cases cur.token.isEmpty with
    | true => simp
    | false => exact guides_ownResourceAdvice hiam (haccount.1 hpartition) htype htoken
  · rw [Cursor.isOwn_eq_false_iff.2 hpartition]
    cases cur.token.isEmpty with
    | true => exact guides_ite.2 (.inl ⟨hiam, by simp⟩)
    | false =>
        exact guides_ite.2 (.inl ⟨hiam, guides_identityAdvice (haccount.2 hpartition) htype htoken⟩)

/-! ### Beginnings of resource names -/

/-- How far a resource name has been typed: the fields before the last one are finished, and the
last one has been begun. -/
inductive TypedSoFar (arn : Arn) (s : List Char) : Prop where
  | partition {token : List Char} (fields : splitOn ':' s = ["arn".toList, token])
      (start : token <+: arn.partition)
  | service {token : List Char} (fields : splitOn ':' s = ["arn".toList, arn.partition, token])
      (start : token <+: arn.service)
  | region {token : List Char}
      (fields : splitOn ':' s = ["arn".toList, arn.partition, arn.service, token])
      (start : token <+: arn.region)
  | account {token : List Char}
      (fields : splitOn ':' s = ["arn".toList, arn.partition, arn.service, arn.region, token])
      (start : token <+: arn.account)
  | resource {token : List Char} (spells : Arn.Spells s { arn with resource := token })
      (start : token <+: arn.resource)

/-- Of a name that has been typed as far as its resource only the resource can be unfinished. -/
theorem typedSoFar_of_six_le_length {p q : List Char} {arn : Arn} (hp : Arn.Spells p arn)
    (hq : q <+: p) (hlead : Arn.lead.isPrefixOf q = true)
    (hlength : 6 ≤ (splitOn ':' q).length) : TypedSoFar arn q := by
  have htyped := Arn.spells_ofText hlead hlength
  obtain ⟨t, rfl⟩ := hq
  have hwhole : Arn.Spells (q ++ t)
      { Arn.ofText q with resource := (Arn.ofText q).resource ++ t } := by
    refine ⟨?_, htyped.partition_single, htyped.service_single, htyped.region_single,
      htyped.account_single⟩
    conv => lhs; rw [htyped.text]
    simp only [List.append_assoc, List.cons_append]
  obtain rfl := hp.unique hwhole
  exact .resource htyped (List.prefix_append _ t)

/-- **Every beginning of a resource name is typed so far**, once there is a colon in it. -/
theorem typedSoFar_of_prefix {p q : List Char} {arn : Arn} (hp : Arn.Spells p arn) (hq : q <+: p)
    (hcolon : ':' ∈ q) : TypedSoFar arn q := by
  have hlead := Arn.lead_isPrefixOf_of_prefix hp.lead_isPrefixOf hq hcolon
  obtain ⟨before, last, htyped⟩ : ∃ before last, splitOn ':' q = before ++ [last] :=
    ⟨_, _, (List.dropLast_append_getLast (splitOn_ne_nil ':' q)).symm⟩
  obtain ⟨t, rfl⟩ := hq
  obtain ⟨field, after, hsame, hstart⟩ := exists_splitOn_append htyped t
  have hfields := hsame.symm.trans hp.splitOn
  match before, htyped, hfields with
  | [], htyped, _ =>
      have hmore := splitOn_ne_nil ':' (behindFirst ':' q)
      rw [splitOn_of_mem hcolon] at htyped
      exact absurd (List.cons.inj htyped).2 hmore
  | [word], htyped, hfields =>
      simp only [List.cons_append, List.nil_append, List.cons.injEq] at htyped hfields
      obtain ⟨rfl, rfl, -⟩ := hfields
      exact .partition htyped hstart
  | [word, partition], htyped, hfields =>
      simp only [List.cons_append, List.nil_append, List.cons.injEq] at htyped hfields
      obtain ⟨rfl, rfl, rfl, -⟩ := hfields
      exact .service htyped hstart
  | [word, partition, service], htyped, hfields =>
      simp only [List.cons_append, List.nil_append, List.cons.injEq] at htyped hfields
      obtain ⟨rfl, rfl, rfl, rfl, -⟩ := hfields
      exact .region htyped hstart
  | [word, partition, service, region], htyped, hfields =>
      simp only [List.cons_append, List.nil_append, List.cons.injEq] at htyped hfields
      obtain ⟨rfl, rfl, rfl, rfl, rfl, -⟩ := hfields
      exact .account htyped hstart
  | word :: partition :: service :: region :: account :: more, htyped, _ =>
      refine typedSoFar_of_six_le_length hp ⟨t, rfl⟩ hlead ?_
      simp [htyped]

/-! ### Guidance -/

/-- **A beginning of an accepted identity is accepted** once advice takes its resource for complete:
the other fields are those of the identity. -/
theorem isPrincipal_of_succeeds {p q token : List Char} {arn : Arn} (hp : IsPrincipal p)
    (hspells : Arn.Spells p arn) (hq : q <+: p)
    (htyped : Arn.Spells q { arn with resource := token }) (hstart : token <+: arn.resource)
    (h : Succeeds (resourceAdvice ⟨arn.partition, arn.service, arn.account, token⟩)) :
    IsPrincipal q := by
  have hplain : ¬ HoldsDomain q := by
    intro hholds
    refine hp.not_holdsDomain (by simp [hspells.text]) ?_
    exact hholds.imp (·.trans hq.isInfix) (·.trans hq.isInfix)
  obtain ⟨-, ⟨hpartition, -, hname⟩ | ⟨hpartition, -, hname⟩⟩ := (succeeds_resourceAdvice_iff _).1 h
  · rcases hp.fields hspells with hown | hforeign
    · exact .own hplain htyped ⟨hown.partition, hown.service, hown.account, hname.slash_mem⟩
    · exact absurd hpartition hforeign.partition_ne
  · rcases hp.fields hspells with hown | hforeign
    · exact absurd hown.partition hpartition
    · have hresource : token = "root".toList ∨ '/' ∈ token := hname.imp_right (·.slash_mem)
      have hsome : token ≠ [] := by
        rintro rfl
        simp at hresource
      have hform := hforeign.wellFormed
      refine .foreign hplain htyped ⟨⟨hform.partition, hform.service, hform.region, hform.account,
        hsome, fun hline => hform.resource.2 (hstart.subset hline)⟩, fun hiam => ?_⟩
      exact ⟨(hforeign.identity hiam).1, hresource⟩

/-- The partition of an accepted name is the own one or one of the others. -/
theorem partition_of_fields {arn : Arn} (h : IsOwnName arn ∨ IsForeignName arn) :
    String.ofList arn.partition = "ipcld" ∨ String.ofList arn.partition ∈ Catalog.partitions := by
  rcases h with hown | hforeign
  · exact .inl (by rw [hown.partition]; rfl)
  · exact .inr hforeign.wellFormed.partition

/-- **Guidance on an accepted identity**, as far as it has been typed. -/
theorem guides_arnAdvice {p q : List Char} {arn : Arn} (hp : IsPrincipal p)
    (hspells : Arn.Spells p arn) (hiam : arn.service = identityService)
    (htype : HasCommonType arn.partition arn.resource) (hq : q <+: p) (hcolon : ':' ∈ q) :
    Guides (arnAdvice q) := by
  have hvalid : (review (String.ofList p)).isValid = true := (isValid_review_iff p).2 hp
  have haccount := account_of_isValid hspells hiam hvalid
  rw [arnAdvice, if_neg (by simpa using hcolon)]
  cases typedSoFar_of_prefix hspells hq hcolon with
  | partition hfields hstart =>
      rw [cursor_of_partition hfields]
      have hpartition := partition_of_fields (hp.fields hspells)
      exact .inl (gives_hint_partitionAdvice hpartition (by simpa using hstart)).bind_holdBack
  | @service token hfields hstart =>
      rw [cursor_of_service hfields]
      have hservice : token <+: identityService := hiam ▸ hstart
      exact .inl (gives_hint_serviceAdvice hservice).bind_holdBack
  | region hfields hstart =>
      rw [cursor_of_region hfields]
      exact .inl (gives_some.2 (kind_regionAdvice _)).bind_holdBack
  | account hfields hstart =>
      rw [cursor_of_account hfields]
      refine .inl (gives_hint_accountAdvice (fun hown => ?_) hstart).bind_holdBack
      exact Arn.isAccount_iff.1 (haccount.2 (Cursor.isOwn_eq_false_iff.1 hown))
  | resource htyped hstart =>
      have haccepted := isPrincipal_of_succeeds hp hspells hq htyped hstart
      rw [cursor_of_spells htyped]
      exact guides_bind_holdBack (guides_resourceAdvice hiam haccount htype hstart) haccepted

/-- **Every beginning of an accepted identity is answered with a hint or a word of success.** -/
theorem guides_advise_of_prefix {principal : String} (hlead : "arn:".toList <+: principal.toList)
    (hvalid : (review principal).isValid = true)
    (hiam : (Arn.ofText principal.toList).service = "iam".toList)
    (htype : HasCommonType (Arn.ofText principal.toList).partition
      (Arn.ofText principal.toList).resource)
    {typed : String} (htyped : typed.toList <+: principal.toList) :
    ∃ a, advise typed = some a ∧ (a.kind = .hint ∨ a.kind = .success) := by
  rw [← guides_iff, advise]
  have hp := (isValid_review_iff_isPrincipal principal).1 hvalid
  obtain ⟨arn, hspells, -⟩ := hp.exists_spells (hlead.subset (by decide))
  rw [hspells.ofText] at hiam htype
  by_cases hcolon : ':' ∈ typed.toList
  · rw [adviceOn_of_lead (Arn.lead_isPrefixOf_of_prefix hspells.lead_isPrefixOf htyped hcolon)]
    exact (guides_arnAdvice hp hspells hiam htype htyped hcolon).or _
  · -- the leading word has not been finished
    have hword : typed.toList <+: "arn:".toList := by
      rcases List.prefix_or_prefix_of_prefix htyped hlead with h | h
      · exact h
      · exact absurd (h.subset (by decide)) hcolon
    have hbeginning : typed.toList.isPrefixOf Arn.lead = true := List.isPrefixOf_iff_prefix.2 hword
    rw [adviceOn]
    refine guides_ite.2 ((em _).imp (fun hempty => ⟨hempty, ?_⟩) fun hsome => ⟨hsome, ?_⟩)
    · exact guides_some.2 (.inl rfl)
    · rw [if_pos (by simp [hbeginning]), arnAdvice, if_pos (by simpa using hcolon)]
      exact Guides.or (guides_some.2 (.inl rfl)) _

/-- A role on the way to its name: the first letters of its type could still become the whole
account. -/
theorem guides_advise_role : "arn:".toList <+: "arn:aws-cn:iam::123456789012:role/a".toList ∧
    (review "arn:aws-cn:iam::123456789012:role/a").isValid = true ∧
      (Arn.ofText "arn:aws-cn:iam::123456789012:role/a".toList).service = "iam".toList ∧
      HasCommonType (Arn.ofText "arn:aws-cn:iam::123456789012:role/a".toList).partition
        (Arn.ofText "arn:aws-cn:iam::123456789012:role/a".toList).resource ∧
      "arn:aws-cn:iam::123456789012:ro".toList <+: "arn:aws-cn:iam::123456789012:role/a".toList ∧
      ∃ a, advise "arn:aws-cn:iam::123456789012:ro" = some a ∧
        (a.kind = .hint ∨ a.kind = .success) := by
  have hlead : "arn:".toList <+: "arn:aws-cn:iam::123456789012:role/a".toList := by decide
  have hvalid : (review "arn:aws-cn:iam::123456789012:role/a").isValid = true := by decide
  have hiam : (Arn.ofText "arn:aws-cn:iam::123456789012:role/a".toList).service = "iam".toList := by
    decide
  have htype : HasCommonType (Arn.ofText "arn:aws-cn:iam::123456789012:role/a".toList).partition
      (Arn.ofText "arn:aws-cn:iam::123456789012:role/a".toList).resource := by
    exact .inr ⟨by decide, .inr (by decide)⟩
  have htyped : "arn:aws-cn:iam::123456789012:ro".toList <+:
      "arn:aws-cn:iam::123456789012:role/a".toList := by decide
  exact ⟨hlead, hvalid, hiam, htype, htyped,
    guides_advise_of_prefix hlead hvalid hiam htype htyped⟩

end BucketAccess.Principal
