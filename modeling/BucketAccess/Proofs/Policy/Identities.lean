/-
**Identities in a principal.**

Identities are looked at twice: on their own, with all that is known about principals, and in short
where a policy lists them.  The two looks were written apart and take a name to pieces in different
ways.  They agree on the identities of the first partition: a name that is accepted on its own has
an account of twelve digits behind its start, and that is all the short look asks for.  So nothing
is told about it, wherever it stands in a policy.  What is told about an entry of a list is told
with its place in front, and nothing else is.

Main definitions:

* `BucketAccess.Policy.IsAboutIdentity` — messages about an identity at a place, by their look;
* `BucketAccess.Policy.ListsIdentity` — a policy lists an identity at a place.

Main results:

* `BucketAccess.Policy.identityFindings_of_isValid` — **an identity that is accepted on its own is
  accepted in a list**;
* `BucketAccess.Policy.isAboutIdentity_statement_iff` — which messages about a statement are about
  an identity;
* `BucketAccess.Policy.mem_told_isAboutIdentity_iff` — **what is told about an identity** is what
  is found in it;
* `BucketAccess.Policy.not_isAboutIdentity_of_isValid` — nothing is told about an accepted one.
-/

import BucketAccess.Proofs.Policy.Inside
import BucketAccess.Proofs.Principal.Acceptance
import BucketAccess.Proofs.Text.Points

set_option relaxedAutoImplicit false
set_option autoImplicit false

namespace BucketAccess.Policy

open BucketAccess.Json BucketAccess.Text

/-! ### The two looks at an identity -/

theorem isAccountField_map_char (chars : List Char) :
    isAccountField (chars.map .char) = Arn.isAccount chars := by
  simp [isAccountField, Arn.isAccount, digitsOfLength, Function.comp_def]

/-- The fields of a name that starts like an identity of the first partition. -/
theorem fields_of_identityLead {s rest : List Char} {arn : Arn}
    (hs : s = identityLead.toList ++ rest)
    (h : Arn.Spells s arn) :
    arn.partition = "aws".toList ∧ arn.service = "iam".toList ∧
      arn.account = beforeFirst ':' rest := by
  obtain ⟨more, hrest⟩ := exists_splitOn_eq_cons ':' rest
  have hsplit : splitOn ':' s =
      "arn".toList :: "aws".toList :: "iam".toList :: [] :: beforeFirst ':' rest :: more := by
    rw [hs, ← hrest]
    rfl
  have hfields := h.splitOn.symm.trans hsplit
  simp only [List.cons.injEq] at hfields
  obtain ⟨-, hpartition, hservice, -, haccount, -⟩ := hfields
  exact ⟨hpartition, hservice, haccount⟩

/-- **An identity that is accepted on its own is accepted in a list.**  Only the names of the own
partition are accepted without an account of twelve digits. -/
theorem identityFindings_of_isValid {identity : String}
    (hlead : identityLead.toList <+: identity.toList)
    (h : (Principal.review identity).isValid = true) (place : List Step) :
    identityFindings place (.str identity) = [] := by
  obtain ⟨rest, hrest⟩ := hlead
  have hcolon : ':' ∈ identity.toList := by
    rw [← hrest]
    exact List.mem_append_left _ (by decide)
  obtain ⟨arn, hspells, hfields⟩ :=
    ((Principal.isValid_review_iff_isPrincipal identity).1 h).exists_spells hcolon
  obtain ⟨hpartition, hservice, haccount⟩ := fields_of_identityLead hrest.symm hspells
  have hnumber : Arn.isAccount (beforeFirst ':' rest) = true := by
    rcases hfields with hown | hforeign
    · exact absurd (hpartition.symm.trans hown.partition) (by decide)
    · have hsome := (hforeign.identity hservice).1
      have hform := hforeign.wellFormed.account.resolve_left hsome
      rw [haccount] at hform
      exact Arn.isAccount_iff.2 hform
  have hstar : identity ≠ "*" := by
    rintro rfl
    exact absurd hcolon (by decide)
  have hdrop : (identity : Str).dropLead? identityLead =
      some (String.ofList rest : Str) := by
    rw [Str.dropLead?_eq_some_iff, ← Str.coe_append, Str.coe_inj, ← String.toList_inj,
      String.toList_append, String.toList_ofList, hrest]
  have hfield : isAccountField (beforeFirst ':' (rest.map Point.char)) = true := by
    rw [beforeFirst_map_char, isAccountField_map_char, hnumber]
  rw [beforeFirst] at hfield
  simp [identityFindings, hstar, hdrop, hfield, findingIf]

/-! ### Messages about an identity -/

/-- How a message about an identity goes on behind its statement. -/
def identityTail (field : String) (j : Nat) : Str :=
  "." ++ (field ++ (".AWS[" ++ toString j ++ "]:"))

/-- Whether a message is about the identity at a position in a principal of a statement: it starts
with the place of the identity and a colon. -/
def IsAboutIdentity (i : Nat) (field : String) (j : Nat) (message : Str) : Prop :=
  (s!"Statement[{i}].{field}.AWS[{j}]:" : Str).toList <+: message.toList

theorem isAboutIdentity_iff {i j : Nat} {field : String} {message : Str} :
    IsAboutIdentity i field j message ↔
      ((s!"Statement[{i}]" : Str) ++ identityTail field j).toList <+: message.toList := by
  have hnumber : s!"Statement[{i}]" = "Statement[" ++ toString i ++ "]" := rfl
  have hplace : s!"Statement[{i}].{field}.AWS[{j}]:" =
      "Statement[" ++ toString i ++ "]." ++ field ++ ".AWS[" ++ toString j ++ "]:" := rfl
  have hperiod : "]." = "]" ++ "." := by decide
  rw [IsAboutIdentity, hnumber, hplace, hperiod, identityTail]
  simp only [Str.coe_append, Str.append_assoc]

/-- A message about a statement is about an identity of the same statement. -/
theorem isAboutIdentity_statement_iff {i k j : Nat} {field : String} {f : Finding} :
    IsAboutIdentity i field j (s!"Statement[{k}]" ++ f.tail) ↔
      i = k ∧ (identityTail field j).toList <+: f.tail.toList := by
  rw [isAboutIdentity_iff, statement_prefix_iff]

/-! ### Findings inside a principal -/

/-- A finding about a principal as a whole is not told with the place of an entry in front. -/
theorem place_ne_nil_of_tail {f : Finding} {s : List Point} (hs : s.head? = some ('.' : Point))
    (h : s <+: f.tail.toList) : f.place ≠ [] := by
  intro hplace
  obtain ⟨rest, hrest⟩ := h
  have hcolon := (head_tail_iff f).2 hplace
  simp [← hrest, List.head?_append, hs] at hcolon

/-- How a finding about an entry of a list is told. -/
theorem toList_tail_under_entry (key : Str) (k : Nat) (f : Finding) :
    (f.under [.member key, .index k]).tail.toList =
      ('.' : Point) :: (key.toList ++ ('[' : Point) ::
        ((toString k : Str).toList ++ (']' : Point) :: f.tail.toList)) := by
  have hmember : (Step.member key).text = "." ++ key := rfl
  have hindex : (Step.index k).text = ("[" ++ toString k ++ "]" : String) := rfl
  simp [Finding.tail, Finding.under, hmember, hindex]

theorem toList_entryLead (j : Nat) : (".AWS[" ++ toString j ++ "]:" : Str).toList =
    ('.' : Point) :: (("AWS" : Str).toList ++ ('[' : Point) ::
      ((toString j : Str).toList ++ [(']' : Point), ':'])) := by
  simp

/-- What is found in a list that may be there is found in one of its entries. -/
theorem exists_entry_of_mem_listedFindings {check : List Step → Value → List Finding}
    (h : Moves check) {members : Members} {key : Str} {f : Finding}
    (hf : f ∈ listedFindings [] members key check) :
    ∃ listed k v g, present? members key = some listed ∧ (entries listed)[k]? = some v ∧
      g ∈ check [] v ∧ f = g.under [.member key, .index k] := by
  unfold listedFindings at hf
  split at hf
  · next listed hlisted =>
      rw [entryFindings_eq_flatMap] at hf
      obtain ⟨⟨v, k⟩, hv, hfound⟩ := List.mem_flatMap.1 hf
      have hmoved := h ([.member key, .index k]) [] v
      simp only [List.nil_append, List.singleton_append, List.append_nil] at hfound hmoved
      rw [hmoved] at hfound
      obtain ⟨g, hg, rfl⟩ := List.mem_map.1 hfound
      exact ⟨listed, k, v, g, hlisted, List.mem_zipIdx_iff_getElem?.1 hv, hg, rfl⟩
  · simp at hf

/-- **A finding that is told with the place of an identity in front** is made in that identity. -/
theorem exists_entry_of_tail {v : Value} {f : Finding} {j : Nat} (hf : f ∈ principalFindings [] v)
    (htail : (".AWS[" ++ toString j ++ "]:" : Str).toList <+: f.tail.toList) :
    ∃ types listed entry g, v = .obj types ∧ present? types "AWS" = some listed ∧
      (entries listed)[j]? = some entry ∧ g ∈ identityFindings [] entry ∧
        f = g.under [.member "AWS", .index j] := by
  have hplace : f.place ≠ [] :=
    place_ne_nil_of_tail (by simp) htail
  have hwhole : ∀ problem, f ≠ ⟨[], problem⟩ := by
    rintro problem rfl
    exact hplace rfl
  rw [toList_entryLead] at htail
  cases v with
  | obj types =>
      rw [principalFindings, List.append_assoc] at hf
      rcases List.mem_append.1 hf with htype | hlisted
      · obtain ⟨type, -, hfound⟩ := List.mem_flatMap.1 htype
        unfold findingIf at hfound
        split at hfound
        · exact absurd (List.mem_singleton.1 hfound) (hwhole _)
        · simp at hfound
      · rcases List.mem_append.1 hlisted with haws | hservice
        · obtain ⟨listed, k, entry, g, hpresent, hentry, hg, rfl⟩ :=
            exists_entry_of_mem_listedFindings moves_identityFindings haws
          rw [toList_tail_under_entry, List.cons_prefix_cons, List.prefix_append_right_inj,
            List.cons_prefix_cons, number_prefix_iff] at htail
          obtain ⟨-, -, rfl, -⟩ := htail
          exact ⟨types, listed, entry, g, rfl, hpresent, hentry, hg, rfl⟩
        · obtain ⟨listed, k, entry, g, -, -, -, rfl⟩ :=
            exists_entry_of_mem_listedFindings moves_serviceFindings hservice
          rw [toList_tail_under_entry, List.cons_prefix_cons] at htail
          exact absurd htail.2 (by simp [List.cons_prefix_cons])
  | str s =>
      rw [principalFindings] at hf
      split at hf
      · exact absurd (List.mem_singleton.1 hf) (hwhole _)
      · exact absurd (List.mem_singleton.1 hf) (hwhole _)
  | _ => exact absurd (List.mem_singleton.1 hf) (hwhole _)

/-! ### Findings about a statement -/

/-- What is told with a field about principals in front is found in what such a field holds. -/
theorem exists_field_of_isInside {members : Members} {f : Finding}
    (hf : f ∈ statementFindings true [] (.obj members)) (hinside : f.isInside = true) :
    ∃ field ∈ principalFields, ∃ v g, present? members field = some v ∧
      g ∈ principalFindings [] v ∧ f = g.under [.member field] := by
  have hfield : ∀ field ∈ principalFields, f ∈ principalFieldFindings true [] members field →
      ∃ field ∈ principalFields, ∃ v g, present? members field = some v ∧
        g ∈ principalFindings [] v ∧ f = g.under [.member field] := by
    intro field hfield hfound
    unfold principalFieldFindings at hfound
    split at hfound
    · simp at hfound
    · next v hv =>
        rcases List.mem_cons.1 hfound with rfl | hfound
        · rw [isInside_nil] at hinside
          exact absurd hinside (by decide)
        · simp only [if_true, List.nil_append, check_member moves_principalFindings] at hfound
          obtain ⟨g, hg, rfl⟩ := List.mem_map.1 hfound
          exact ⟨field, hfield, v, g, hv, hg, rfl⟩
  have houtside : ∀ {findings : List Finding}, Outside findings → f ∉ findings := by
    intro findings h hmem
    rw [h f hmem] at hinside
    exact absurd hinside (by decide)
  simp only [statementFindings, List.mem_append] at hf
  rcases hf with ((((((hsid | heffect) | hprincipal) | hnegated) | haction) | hresource) |
    hcondition) | hunknown
  · exact absurd hsid (houtside (outside_sidFindings members))
  · exact absurd heffect (houtside (outside_effectFindings members))
  · exact hfield "Principal" (by decide) hprincipal
  · exact hfield "NotPrincipal" (by decide) hnegated
  · exact absurd haction
      (houtside (outside_choiceFindings moves_actionFindings members _ _ (by decide)))
  · exact absurd hresource
      (houtside (outside_choiceFindings moves_resourceFindings members _ _ (by decide)))
  · exact absurd hcondition (houtside (outside_conditionFieldFindings members))
  · exact absurd hunknown (houtside (outside_unknownFieldFindings members))

/-- The way to an identity. -/
def identityAt (i : Nat) (field : String) (j : Nat) : List Step :=
  [.member "Statement", .index i, .member field, .member "AWS", .index j]

/-- A document lists a value among the identities of a principal: on its own, or in an array. -/
inductive ListsIdentity (i : Nat) (field : String) (j : Nat) (v : Value) : Value → Prop
  | entry {members fields types : Members} {statements : List Value} {listed : Value}
      (hstatements : List.lookup ("Statement" : Str) members = some (.arr statements))
      (hstatement : statements[i]? = some (.obj fields))
      (hprincipal : List.lookup (field : Str) fields = some (.obj types))
      (hlisted : List.lookup ("AWS" : Str) types = some listed)
      (hentry : (entries listed)[j]? = some v) : ListsIdentity i field j v (.obj members)

/-- A member that is there and is not null. -/
theorem present?_of_lookup {members : Members} {key : Str} {v : Value}
    (h : List.lookup key members = some v) (hv : v ≠ .null) : present? members key = some v := by
  have hnull : isNull v = false := by
    cases v <;> simp [isNull] at hv ⊢
  simp [present?, h, hnull]

theorem eq_of_present? {members : Members} {key : Str} {v w : Value}
    (h : List.lookup key members = some v) (hw : present? members key = some w) : v = w := by
  rw [present?, h, Option.filter_eq_some_iff] at hw
  exact Option.some.inj hw.1

/-- The two fields about principals are told apart by their first letter. -/
theorem diverge_of_ne {field other : String} (hfield : field ∈ principalFields)
    (hother : other ∈ principalFields) (hne : field ≠ other) :
    Diverge field.toList other.toList := by
  have hall : ∀ a ∈ principalFields, ∀ b ∈ principalFields, a ≠ b →
      Diverge a.toList b.toList := by decide
  exact hall field hfield other hother hne

section Lists

variable {i j : Nat} {field : String} {v document : Value}

/-- What is told in a statement with the place of an identity in front is found in the identity. -/
theorem mem_identityFindings_of_tail (hfield : field ∈ principalFields) {fields types : Members}
    {listed : Value} (hprincipal : List.lookup (field : Str) fields = some (.obj types))
    (hlisted : List.lookup ("AWS" : Str) types = some listed)
    (hentry : (entries listed)[j]? = some v)
    {f : Finding} (hf : f ∈ statementFindings true [] (.obj fields))
    (htail : (identityTail field j).toList <+: f.tail.toList) :
    ∃ g ∈ identityFindings [] v, f = g.under [.member field, .member "AWS", .index j] := by
  have hstart : ("." ++ field : Str).toList <+: f.tail.toList := by
    rw [identityTail, ← Str.append_assoc, Str.toList_append] at htail
    exact (List.prefix_append _ _).trans htail
  have hinside : f.isInside = true :=
    List.any_eq_true.2 ⟨field, hfield, List.isPrefixOf_iff_prefix.2 hstart⟩
  obtain ⟨other, hother, w, g, hw, hg, rfl⟩ := exists_field_of_isInside hf hinside
  rw [tail_under_member, identityTail, append_prefix_append_iff] at htail
  obtain rfl : field = other := by
    by_contra hne
    refine ((diverge_of_ne hfield hother hne).coe.append_right g.tail.toList).1 ?_
    rw [Str.toList_append, Str.toList_append] at htail
    exact (List.prefix_append _ _).trans htail
  rw [append_prefix_append_iff] at htail
  obtain ⟨types', listed', entry, g', rfl, hlisted', hentry', hg', rfl⟩ :=
    exists_entry_of_tail hg htail
  obtain rfl := Value.obj.inj (eq_of_present? hprincipal hw)
  obtain rfl := eq_of_present? hlisted hlisted'
  obtain rfl := Option.some.inj (hentry.symm.trans hentry')
  exact ⟨g', hg', rfl⟩

/-- What is told about a statement is found in it. -/
theorem exists_finding_of_mem_tails {severity : Severity} {inside : Bool} {statement : Value}
    {message : Str} {k : Nat} (h : message ∈
      (tails severity inside statement).map fun tail : Str => s!"Statement[{k}]" ++ tail) :
    ∃ f ∈ statementFindings inside [] statement, f.severity = severity ∧
      message = s!"Statement[{k}]" ++ f.tail := by
  obtain ⟨tail, htail, rfl⟩ := List.mem_map.1 h
  obtain ⟨f, hf, rfl⟩ := List.mem_map.1 htail
  obtain ⟨hmem, hseverity⟩ := List.mem_filter.1 hf
  exact ⟨f, hmem, by simpa using hseverity, rfl⟩

/-- A message about a policy as a whole is not about an identity. -/
theorem not_isAboutIdentity_of_aboutWhole {severity : Severity} {findings : List Finding}
    {message : Str} (h : AboutWhole findings)
    (hmessage : message ∈ messagesOf severity findings) :
    ¬ IsAboutIdentity i field j message := by
  obtain ⟨f, hf, rfl⟩ := List.mem_map.1 hmessage
  rw [isAboutIdentity_iff, toList_statement]
  rintro ⟨rest, hrest⟩
  have hhead := head_message_of_aboutWhole h (List.mem_of_mem_filter hf)
  rw [← hrest] at hhead
  exact hhead rfl

theorem aboutWhole_behind (members : Members) :
    AboutWhole (unknownRootFindings members ++ idFindings members) :=
  fun f hf => (List.mem_append.1 hf).elim (aboutWhole_unknownRootFindings members f)
    (aboutWhole_idFindings members f)

/-- What is told about an identity has been found in it. -/
theorem exists_finding_of_isAboutIdentity (hfield : field ∈ principalFields)
    (h : ListsIdentity i field j v document) {severity : Severity} {message : Str}
    (hmessage : message ∈ told severity true document)
    (habout : IsAboutIdentity i field j message) :
    ∃ f ∈ identityFindings (identityAt i field j) v, f.severity = severity ∧
      f.message = message := by
  cases h with
  | @entry members fields types statements listed hstatements hstatement hprincipal hlisted
      hentry =>
      have hne : statements ≠ [] := by
        rintro rfl
        simp at hstatement
      rw [told_obj_eq severity true hstatements hne] at hmessage
      rcases List.mem_append.1 hmessage with hfront | hbehind
      · rcases List.mem_append.1 hfront with hbefore | hinside
        · exact absurd habout
            (not_isAboutIdentity_of_aboutWhole (aboutWhole_versionFindings members) hbefore)
        · obtain ⟨⟨statement, k⟩, hmem, hfound⟩ := List.mem_flatMap.1 hinside
          obtain ⟨f, hf, hseverity, rfl⟩ := exists_finding_of_mem_tails hfound
          obtain ⟨rfl, htail⟩ := isAboutIdentity_statement_iff.1 habout
          obtain rfl := Option.some.inj
            ((List.mem_zipIdx_iff_getElem?.1 hmem).symm.trans hstatement)
          obtain ⟨g, hg, rfl⟩ :=
            mem_identityFindings_of_tail hfield hprincipal hlisted hentry hf htail
          have hmoved := moves_identityFindings (identityAt i field j) [] v
          rw [List.append_nil] at hmoved
          refine ⟨g.under (identityAt i field j), ?_, hseverity, ?_⟩
          · rw [hmoved]
            exact List.mem_map_of_mem hg
          · exact message_under_statementAt i (g.under [.member field, .member "AWS", .index j])
      · exact absurd habout (not_isAboutIdentity_of_aboutWhole (aboutWhole_behind members) hbehind)

/-- What is found in an identity is about the identity as a whole. -/
theorem place_of_mem_identityFindings {place : List Step} {f : Finding}
    (h : f ∈ identityFindings place v) : f.place = place := by
  unfold identityFindings findingIf at h
  split at h
  · split at h
    · rw [List.mem_singleton.1 h]
    · split at h
      · split at h
        · rw [List.mem_singleton.1 h]
        · simp at h
      · rw [List.mem_singleton.1 h]
  · rw [List.mem_singleton.1 h]

/-- What is found in an identity is told with its place in front. -/
theorem isAboutIdentity_message {f : Finding}
    (hf : f ∈ identityFindings (identityAt i field j) v) :
    IsAboutIdentity i field j f.message := by
  have hmoved := moves_identityFindings (identityAt i field j) [] v
  rw [List.append_nil] at hmoved
  rw [hmoved] at hf
  obtain ⟨g, hg, rfl⟩ := List.mem_map.1 hf
  have hcolon := (head_tail_iff g).2 (place_of_mem_identityFindings hg)
  obtain ⟨rest, hrest⟩ := List.head?_eq_some_iff.1 hcolon
  have hmessage := message_under_statementAt i (g.under [.member field, .member "AWS", .index j])
  have hunder : (g.under [.member field, .member "AWS", .index j]).under (statementAt i) =
      g.under (identityAt i field j) := rfl
  rw [← hunder, hmessage, isAboutIdentity_statement_iff]
  refine ⟨rfl, ?_⟩
  have htail : (g.under [.member field, .member "AWS", .index j]).tail =
      "." ++ (field ++ (g.under [.member "AWS", .index j]).tail) :=
    tail_under_member field (g.under [.member "AWS", .index j])
  rw [htail, identityTail, append_prefix_append_iff, append_prefix_append_iff, toList_entryLead,
    toList_tail_under_entry, hrest]
  exact ⟨rest, by simp⟩

/-- What is found in an entry of a list is found in the list. -/
theorem mem_entryFindings {place : List Step} {check : List Step → Value → List Finding}
    {items : List Value} {k : Nat} {w : Value} {f : Finding} (hw : items[k]? = some w)
    (hf : f ∈ check (place ++ [.index k]) w) : f ∈ entryFindings place check items := by
  rw [entryFindings_eq_flatMap]
  exact List.mem_flatMap.2 ⟨(w, k), List.mem_zipIdx_iff_getElem?.2 hw, hf⟩

/-- What is found in an identity is found in the document. -/
theorem mem_findings_of_listsIdentity (hfield : field ∈ principalFields)
    (h : ListsIdentity i field j v document) (hv : v ≠ .null) {f : Finding}
    (hf : f ∈ identityFindings (identityAt i field j) v) : f ∈ findings true document := by
  cases h with
  | @entry members fields types statements listed hstatements hstatement hprincipal hlisted
      hentry =>
      have hsome : listed ≠ .null := by
        rintro rfl
        have hmem := List.mem_of_getElem? hentry
        exact hv (List.mem_singleton.1 hmem)
      have hne : statements ≠ [] := by
        rintro rfl
        simp at hstatement
      have hinside : f ∈ principalFindings (statementAt i ++ [.member field]) (.obj types) := by
        rw [principalFindings, listedFindings, present?_of_lookup hlisted hsome]
        refine List.mem_append_left _ (List.mem_append_right _ (mem_entryFindings hentry ?_))
        exact hf
      have hmember : f ∈ principalFieldFindings true (statementAt i) fields field := by
        rw [principalFieldFindings, present?_of_lookup hprincipal (by simp)]
        exact List.mem_cons_of_mem _ hinside
      have hfound : f ∈ statementFindings true (statementAt i) (.obj fields) := by
        simp only [statementFindings, List.mem_append]
        simp only [principalFields, List.mem_cons, List.not_mem_nil, or_false] at hfield
        rcases hfield with rfl | rfl <;> simp only [hmember, true_or, or_true]
      rw [findings, statementsFindings_of_ne_nil true hstatements hne]
      refine List.mem_append_left _ (List.mem_append_left _ (List.mem_append_right _ ?_))
      exact mem_entryFindings hstatement hfound

/-- **What is told about an identity** is what is found in it, unless it is null. -/
theorem mem_told_isAboutIdentity_iff (hfield : field ∈ principalFields)
    (h : ListsIdentity i field j v document) (hv : v ≠ .null) {severity : Severity}
    {message : Str} :
    message ∈ told severity true document ∧ IsAboutIdentity i field j message ↔
      ∃ f ∈ identityFindings (identityAt i field j) v, f.severity = severity ∧
        f.message = message := by
  constructor
  · rintro ⟨hmessage, habout⟩
    exact exists_finding_of_isAboutIdentity hfield h hmessage habout
  · rintro ⟨f, hf, hseverity, rfl⟩
    refine ⟨?_, isAboutIdentity_message hf⟩
    rw [told_eq]
    have hmem := mem_findings_of_listsIdentity hfield h hv hf
    exact List.mem_map_of_mem (List.mem_filter.2 ⟨hmem, by simpa using hseverity⟩)

/-- **Nothing is told about an identity that is accepted on its own.**  Wherever an identity of the
first partition stands in a policy, if it is accepted as a principal, neither an error nor a warning
of the review is about it. -/
theorem not_isAboutIdentity_of_isValid {identity : String} (hfield : field ∈ principalFields)
    (h : ListsIdentity i field j (.str identity) document)
    (hlead : "arn:aws:iam::".toList <+: identity.toList)
    (haccepted : (Principal.review identity).isValid = true) :
    ∀ message ∈ (review true document).errors ++ (review true document).warnings,
      ¬ IsAboutIdentity i field j message := by
  have hnothing := identityFindings_of_isValid hlead haccepted (identityAt i field j)
  have htold : ∀ severity, ∀ message ∈ told severity true document,
      ¬ IsAboutIdentity i field j message := by
    intro severity message hmessage habout
    obtain ⟨f, hf, -⟩ :=
      (mem_told_isAboutIdentity_iff hfield h (by simp)).1 ⟨hmessage, habout⟩
    simp [hnothing] at hf
  intro message hmessage
  rcases List.mem_append.1 hmessage with herror | hwarning
  · exact htold .error message herror
  · exact htold .warning message hwarning

end Lists

/-- A policy whose only statement excepts everybody and a role. -/
def exceptingPolicy : Value :=
  .obj [("Version", .str "2012-10-17"), ("Statement", .arr [.obj [("NotPrincipal",
    .obj [("AWS", .arr [.str "*", .str "arn:aws:iam::123456789012:role/reader"])])]])]

/-- Nothing is told about the role, which stands behind a name that is no identity of an account. -/
theorem not_isAboutIdentity_excepting :
    "NotPrincipal" ∈ principalFields ∧
      ListsIdentity 0 "NotPrincipal" 1 (.str "arn:aws:iam::123456789012:role/reader")
        exceptingPolicy ∧
      "arn:aws:iam::".toList <+: "arn:aws:iam::123456789012:role/reader".toList ∧
      (Principal.review "arn:aws:iam::123456789012:role/reader").isValid = true ∧
      ∀ message ∈ (review true exceptingPolicy).errors ++ (review true exceptingPolicy).warnings,
        ¬ IsAboutIdentity 0 "NotPrincipal" 1 message := by
  have hfield : "NotPrincipal" ∈ principalFields := by decide
  have hlists : ListsIdentity 0 "NotPrincipal" 1 (.str "arn:aws:iam::123456789012:role/reader")
      exceptingPolicy := .entry rfl rfl rfl rfl rfl
  have hlead : "arn:aws:iam::".toList <+: "arn:aws:iam::123456789012:role/reader".toList := by
    decide
  have haccepted : (Principal.review "arn:aws:iam::123456789012:role/reader").isValid = true := by
    decide +kernel
  exact ⟨hfield, hlists, hlead, haccepted,
    not_isAboutIdentity_of_isValid hfield hlists hlead haccepted⟩

end BucketAccess.Policy
