/-
**Two spellings of one policy.**

A member that is null counts as absent, and where a list is due a single value counts as a list of
one; so the same policy can be spelled in several ways.  One step takes a null member out, or puts a
single value into a list, at one place of the policy; two documents are the same policy when steps
lead from one to the other, forwards and backwards.  Each reader of the review asks for the members
it knows through the same two conventions, so a step changes nothing of what is found.

Main definitions:

* `BucketAccess.Policy.Spelling` — what can be spelled in two ways in an object of one kind;
* `BucketAccess.Policy.Spelling.Step` — one step from a spelling to another;
* `BucketAccess.Policy.principalSpelling`, `BucketAccess.Policy.statementSpelling`,
  `BucketAccess.Policy.policySpelling` — the three kinds of objects;
* `BucketAccess.Policy.SamePolicy` — **spellings of the same policy**.

Main results:

* `BucketAccess.Policy.Spelling.Step.alike` — what a step leaves as it is, for every reader;
* `BucketAccess.Policy.principalFindings_of_step`, `BucketAccess.Policy.statementFindings_of_step`,
  `BucketAccess.Policy.findings_of_step` — a step changes nothing of what is found;
* `BucketAccess.Policy.review_of_samePolicy` — **spellings of the same policy have the same
  verdict**.
-/

import BucketAccess.Proofs.Policy.Acceptance
import BucketAccess.Proofs.Policy.Ignored
import Mathlib.Logic.Relation

set_option relaxedAutoImplicit false
set_option autoImplicit false

namespace BucketAccess.Policy

open BucketAccess.Json BucketAccess.Text

/-! ### Steps -/

/-- What can be spelled in two ways in an object of one kind. -/
structure Spelling where
  /-- The members that may as well be absent when they are null. -/
  optional : List String
  /-- The members of which a single value may as well be a list of one. -/
  listed : List String
  /-- The values of a member that are spellings of each other by one step. -/
  inner : Str → Value → Value → Prop
  /-- No such value is null. -/
  inner_isNull : ∀ {key v w}, inner key v w → isNull v = false ∧ isNull w = false

/-- The members of an object without those of a name. -/
def without (key : Str) (members : Members) : Members :=
  members.filter fun m => m.1 != key

/-- **One step** from a spelling of an object to another one. -/
inductive Spelling.Step (s : Spelling) : Value → Value → Prop
  /-- A null member is taken out. -/
  | drop {members : Members} {key : Str} (hkey : key.isOneOf s.optional)
      (h : List.lookup key members = some .null) :
      Step s (.obj members) (.obj (without key members))
  /-- A single value is put into a list. -/
  | list {members : Members} {key : Str} {v : Value} (hkey : key.isOneOf s.listed)
      (h : List.lookup key members = some v) (hnull : v ≠ .null) (harr : ∀ items, v ≠ .arr items) :
      Step s (.obj members) (.obj (Members.put key (.arr [v]) members))
  /-- A step is made inside a member. -/
  | inside {members : Members} {key : Str} {v w : Value}
      (h : List.lookup key members = some v) (hinner : s.inner key v w) :
      Step s (.obj members) (.obj (Members.put key w members))

/-- A step inside one entry of an array. -/
inductive EntryStep (r : Value → Value → Prop) : Value → Value → Prop
  | entry (before behind : List Value) {v w : Value} (h : r v w) :
      EntryStep r (.arr (before ++ v :: behind)) (.arr (before ++ w :: behind))

theorem Spelling.Step.isNull_eq_false {s : Spelling} {v w : Value} (h : s.Step v w) :
    isNull v = false ∧ isNull w = false := by
  cases h <;> exact ⟨rfl, rfl⟩

theorem EntryStep.isNull_eq_false {r : Value → Value → Prop} {v w : Value} (h : EntryStep r v w) :
    isNull v = false ∧ isNull w = false := by
  cases h
  exact ⟨rfl, rfl⟩

/-! ### The same policy -/

/-- The spellings of a principal. -/
def principalSpelling : Spelling where
  optional := Catalog.principalTypes
  listed := ["AWS", "Service"]
  inner _ _ _ := False
  inner_isNull h := h.elim

/-- The spellings of a statement.  A null id counts as an id, so it cannot be taken out. -/
def statementSpelling : Spelling where
  optional := Catalog.statementFields.filter (· ≠ "Sid")
  listed := ["Action", "NotAction", "Resource", "NotResource"]
  inner key v w := key.isOneOf principalFields ∧ principalSpelling.Step v w
  inner_isNull h := h.2.isNull_eq_false

/-- The spellings of a policy. -/
def policySpelling : Spelling where
  optional := Catalog.rootFields
  listed := []
  inner key v w := key = "Statement" ∧ EntryStep statementSpelling.Step v w
  inner_isNull h := h.2.isNull_eq_false

/-- **Spellings of the same policy**: documents that steps lead from and to. -/
def SamePolicy : Value → Value → Prop :=
  Relation.EqvGen policySpelling.Step

theorem SamePolicy.of_step {d e : Value} (h : policySpelling.Step d e) : SamePolicy d e :=
  .rel d e h

theorem SamePolicy.trans {d e f : Value} (h : SamePolicy d e) (hrest : SamePolicy e f) :
    SamePolicy d f :=
  Relation.EqvGen.trans d e f h hrest

/-! ### Readers of members -/

theorem lookup_without (key k : Str) (members : Members) :
    List.lookup k (without key members) = if k = key then none else List.lookup k members := by
  unfold without
  induction members with
  | nil => simp
  | cons m rest ih =>
      obtain ⟨n, v⟩ := m
      by_cases hn : n = key
      · by_cases hk : k = key
        · simpa [hn, hk] using ih
        · simp [hn, hk, ih, List.lookup_cons, beq_eq_false_iff_ne.2 hk]
      · by_cases hk : k = n
        · simp [hn, hk]
        · simp [hn, List.lookup_cons, beq_eq_false_iff_ne.2 hk, ih]

theorem keys_without (key : Str) (members : Members) :
    Members.keys (without key members) = (Members.keys members).filter (· != key) := by
  simp [Members.keys, without, List.filter_map, Function.comp_def]

/-- A member that is named anew is there, if it is not null. -/
theorem present?_put_self {key : Str} {w : Value} (h : isNull w = false) (members : Members) :
    present? (Members.put key w members) key = some w := by
  simp [present?, Members.lookup_put, Option.filter_some, h]

namespace Spelling

variable (s : Spelling)

/-- Values of a member that every reader takes for the same. -/
def SameValue (key : Str) (v w : Value) : Prop :=
  v = w ∨ (key.isOneOf s.listed ∧ entries v = entries w) ∨ s.inner key v w

/-- Objects that every reader takes for the same. -/
structure Alike (members others : Members) : Prop where
  /-- The names, apart from those that may be absent. -/
  keys : (Members.keys members).filter (!Str.isOneOf · s.optional) =
    (Members.keys others).filter (!Str.isOneOf · s.optional)
  /-- The members that may not be absent. -/
  lookup : ∀ key, ¬ Str.isOneOf key s.optional →
    Option.Rel (s.SameValue key) (List.lookup key members) (List.lookup key others)
  /-- The members that are there and are not null. -/
  present : ∀ key, Option.Rel (s.SameValue key) (present? members key) (present? others key)

variable {s}

theorem SameValue.refl (key : Str) (v : Value) : s.SameValue key v v :=
  .inl rfl

/-- A member that can be spelled in one way only has one value. -/
theorem SameValue.eq {key : Str} {v w : Value} (h : s.SameValue key v w)
    (hlisted : ¬ key.isOneOf s.listed) (hinner : ∀ v w, ¬ s.inner key v w) : v = w :=
  h.resolve_right fun hother => hother.elim (fun hlist => hlisted hlist.1) (hinner v w)

end Spelling

/-- Members with the same entries. -/
def SameEntries (members others : Members) (key : Str) : Prop :=
  Option.Rel (fun v w => entries v = entries w) (present? members key) (present? others key)

section Values

variable {r : Value → Value → Prop} {found found' : Option Value}

theorem rel_self (h : ∀ v, r v v) : ∀ found : Option Value, Option.Rel r found found
  | none => .none
  | some v => .some (h v)

theorem eq_of_rel (h : ∀ v w, r v w → v = w) (hrel : Option.Rel r found found') :
    found = found' := by
  cases hrel with
  | none => rfl
  | some hvalue => exact congrArg some (h _ _ hvalue)

end Values

namespace Spelling

variable {s : Spelling} {members others : Members}

/-- Taking out a null member leaves an object as it is, for every reader. -/
theorem alike_without {key : Str} (hkey : key.isOneOf s.optional)
    (h : List.lookup key members = some .null) : s.Alike members (without key members) where
  keys := by
    rw [keys_without, List.filter_filter]
    refine List.filter_congr fun k _ => ?_
    by_cases hk : k = key <;> simp [hk, hkey]
  lookup k hk := by
    have hne : k ≠ key := fun heq => hk (heq ▸ hkey)
    rw [lookup_without, if_neg hne]
    exact rel_self (SameValue.refl k) _
  present k := by
    by_cases hk : k = key
    -- a null member is not there for a reader, and neither is one that is taken out
    · subst hk
      have hnone : present? members k = none := by simp [present?, h, Option.filter_some, isNull]
      have hnone' : present? (without k members) k = none := by simp [present?, lookup_without]
      rw [hnone, hnone']
      exact .none
    · rw [present?, present?, lookup_without, if_neg hk]
      exact rel_self (SameValue.refl k) _

/-- Naming a member anew with a value that every reader takes for the same. -/
theorem alike_put {key : Str} {v w : Value} (h : List.lookup key members = some v)
    (hv : isNull v = false) (hw : isNull w = false) (hsame : s.SameValue key v w) :
    s.Alike members (Members.put key w members) where
  keys := by
    rw [Members.keys_put, if_pos (mem_keys_of_lookup h)]
  lookup k _ := by
    rw [Members.lookup_put]
    split
    · next hk =>
        rw [hk, h]
        exact .some (hk ▸ hsame)
    · exact rel_self (SameValue.refl k) _
  present k := by
    by_cases hk : k = key
    · subst hk
      have hsome : present? members k = some v := by simp [present?, h, Option.filter_some, hv]
      rw [hsome, present?_put_self hw]
      exact .some hsame
    · rw [present?_put_of_ne hk]
      exact rel_self (SameValue.refl k) _

/-- **What a step leaves as it is**, for every reader. -/
theorem Step.alike {v w : Value} (h : s.Step v w) :
    ∃ members others, v = .obj members ∧ w = .obj others ∧ s.Alike members others := by
  cases h with
  | drop hkey h => exact ⟨_, _, rfl, rfl, alike_without hkey h⟩
  | @list _ _ v hkey h hnull harr =>
      have hv : isNull v = false := Bool.eq_false_iff.2 fun htrue => hnull (isNull_iff.1 htrue)
      have hentries : entries v = [v] := by
        unfold entries
        split
        · next items => exact absurd rfl (harr items)
        · rfl
      exact ⟨_, _, rfl, rfl, alike_put h hv rfl (.inr (.inl ⟨hkey, hentries⟩))⟩
  | inside h hinner =>
      have hnull := s.inner_isNull hinner
      exact ⟨_, _, rfl, rfl, alike_put h hnull.1 hnull.2 (.inr (.inr hinner))⟩

namespace Alike

variable (h : s.Alike members others)

include h

theorem lookup_eq {key : Str} (hkey : ¬ key.isOneOf s.optional) (hlisted : ¬ key.isOneOf s.listed)
    (hinner : ∀ v w, ¬ s.inner key v w) : List.lookup key members = List.lookup key others :=
  eq_of_rel (fun _ _ hsame => hsame.eq hlisted hinner) (h.lookup key hkey)

theorem present?_eq {key : Str} (hlisted : ¬ key.isOneOf s.listed)
    (hinner : ∀ v w, ¬ s.inner key v w) : present? members key = present? others key :=
  eq_of_rel (fun _ _ hsame => hsame.eq hlisted hinner) (h.present key)

/-- A member without steps inside has the same entries. -/
theorem sameEntries {key : Str} (hinner : ∀ v w, ¬ s.inner key v w) :
    SameEntries members others key := by
  refine rel_imp (fun v w hsame => ?_) (h.present key)
  rcases hsame with rfl | ⟨-, hentries⟩ | hstep
  · rfl
  · exact hentries
  · exact absurd hstep (hinner v w)

/-- A member of which no list is due has the same value, but for a step inside. -/
theorem inner_rel {key : Str} (hlisted : ¬ key.isOneOf s.listed) :
    Option.Rel (fun v w => v = w ∨ s.inner key v w) (present? members key)
      (present? others key) :=
  rel_imp (fun _ _ hsame => hsame.imp_right fun hother =>
    hother.resolve_left fun hlist => hlisted hlist.1) (h.present key)

/-- The names that are no names of members that may be absent. -/
theorem filter_keys {p : Str → Bool} (hp : ∀ key, key.isOneOf s.optional → p key = false) :
    (Members.keys members).filter p = (Members.keys others).filter p := by
  have hfilter : ∀ names : List Str,
      names.filter p = (names.filter (!Str.isOneOf · s.optional)).filter p := by
    intro names
    rw [List.filter_filter]
    refine List.filter_congr fun key _ => ?_
    by_cases hkey : key.isOneOf s.optional = true
    · simp [hp key hkey]
    · simp [Bool.eq_false_iff.2 hkey]
  rw [hfilter, h.keys, ← hfilter]

end Alike

end Spelling

/-! ### What is found -/

section Lists

variable {check : List Step → Value → List Finding} {members others : Members}

theorem listedFindings_of_sameEntries (place : List Step) {key : Str}
    (h : SameEntries members others key) :
    listedFindings place members key check = listedFindings place others key check :=
  listedFindings_congr place (rel_imp (fun _ _ hentries place => by rw [hentries]) h)

theorem choiceFindings_of_sameEntries (place : List Step) {field negated : String}
    (h : ∀ key : String, key ∈ [field, negated] → SameEntries members others key) :
    choiceFindings place members field negated check =
      choiceFindings place others field negated check :=
  choiceFindings_congr place fun key hkey => rel_imp
    (fun _ _ hentries place => by simp only [listFindings, hentries]) (h key hkey)

end Lists

/-- **A step changes nothing of what is found inside a principal.** -/
theorem principalFindings_of_step (place : List Step) {v w : Value}
    (h : principalSpelling.Step v w) : principalFindings place v = principalFindings place w := by
  obtain ⟨members, others, rfl, rfl, halike⟩ := h.alike
  have hlisted : ∀ key, SameEntries members others key := fun _ => halike.sameEntries fun _ _ => id
  have htypes := halike.filter_keys (p := fun type => !type.isOneOf Catalog.principalTypes)
    (by simp [principalSpelling])
  simp only [principalFindings, flatMap_findingIf, htypes,
    listedFindings_of_sameEntries place (hlisted "AWS"),
    listedFindings_of_sameEntries place (hlisted "Service")]

/-- What is found in a field about principals. -/
theorem principalFieldFindings_congr (inside : Bool) (place : List Step)
    {members others : Members} {field : String}
    (h : Option.Rel (fun v w => v = w ∨ principalSpelling.Step v w) (present? members field)
      (present? others field)) :
    principalFieldFindings inside place members field =
      principalFieldFindings inside place others field := by
  unfold principalFieldFindings
  rcases cases_of_rel h with ⟨hnone, hnone'⟩ | ⟨v, w, hsome, hsome', rfl | hstep⟩
  · simp only [hnone, hnone']
  · simp only [hsome, hsome']
  · simp only [hsome, hsome', principalFindings_of_step _ hstep]

/-- **A step changes nothing of what is found in a statement.** -/
theorem statementFindings_of_step (inside : Bool) (place : List Step) {v w : Value}
    (h : statementSpelling.Step v w) :
    statementFindings inside place v = statementFindings inside place w := by
  obtain ⟨members, others, rfl, rfl, halike⟩ := h.alike
  have hplain : ∀ key : Str, ¬ key.isOneOf principalFields →
      ∀ v w, ¬ statementSpelling.inner key v w := fun key hkey v w hinner => hkey hinner.1
  -- a null id is an id, so the id alone is compared before nulls are left out
  have hsid : List.lookup ("Sid" : Str) members = List.lookup ("Sid" : Str) others :=
    halike.lookup_eq (by decide) (by decide) (hplain _ (by decide))
  have heffect : present? members "Effect" = present? others "Effect" :=
    halike.present?_eq (by decide) (hplain _ (by decide))
  have hcondition : present? members "Condition" = present? others "Condition" :=
    halike.present?_eq (by decide) (hplain _ (by decide))
  have hprincipal : ∀ field : String, ¬ (field : Str).isOneOf statementSpelling.listed →
      principalFieldFindings inside place members field =
        principalFieldFindings inside place others field := by
    intro field hfield
    refine principalFieldFindings_congr inside place (rel_imp ?_ (halike.inner_rel hfield))
    exact fun v w hvalue => hvalue.imp_right fun hinner => hinner.2
  have hlisted : ∀ key : Str, ¬ key.isOneOf principalFields → SameEntries members others key :=
    fun key hkey => halike.sameEntries (hplain key hkey)
  have haction : choiceFindings place members "Action" "NotAction" actionFindings =
      choiceFindings place others "Action" "NotAction" actionFindings :=
    choiceFindings_of_sameEntries place fun key hkey => hlisted key (by revert key; decide)
  have hresource : choiceFindings place members "Resource" "NotResource" resourceFindings =
      choiceFindings place others "Resource" "NotResource" resourceFindings :=
    choiceFindings_of_sameEntries place fun key hkey => hlisted key (by revert key; decide)
  have hunknown := halike.filter_keys (p := fun key => !key.isOneOf Catalog.statementFields)
    fun key hkey => by
      obtain ⟨field, hfield, rfl⟩ := Str.isOneOf_iff.1 hkey
      simp [(List.mem_filter.1 hfield).1]
  simp only [statementFindings, sidFindings, hsid, effectFindings, heffect,
    hprincipal "Principal" (by decide), hprincipal "NotPrincipal" (by decide), haction, hresource,
    conditionFieldFindings, hcondition, unknownFieldFindings, flatMap_findingIf, hunknown]

/-- What is found in statements when a step is made inside one of them. -/
theorem entryFindings_of_step (inside : Bool) (place : List Step) (before behind : List Value)
    {v w : Value} (h : statementSpelling.Step v w) :
    entryFindings place (statementFindings inside) (before ++ v :: behind) =
      entryFindings place (statementFindings inside) (before ++ w :: behind) := by
  simp only [entryFindings, List.mapIdx_append, List.mapIdx_cons,
    statementFindings_of_step inside _ h]

/-- What is found in the statements of a policy. -/
theorem statementsFindings_of_rel (inside : Bool) {members others : Members}
    (h : Option.Rel (fun v w => v = w ∨ EntryStep statementSpelling.Step v w)
      (present? members "Statement") (present? others "Statement")) :
    statementsFindings inside members = statementsFindings inside others := by
  rcases cases_of_rel h with ⟨hnone, hnone'⟩ | ⟨v, w, hsome, hsome', rfl | hstep⟩
  · simp only [statementsFindings, hnone, hnone']
  · simp only [statementsFindings, hsome, hsome']
  · cases hstep with
    | entry before behind hstep =>
        have hlookup := (Option.filter_eq_some_iff.1 hsome).1
        have hlookup' := (Option.filter_eq_some_iff.1 hsome').1
        rw [statementsFindings_of_ne_nil inside hlookup (by simp),
          statementsFindings_of_ne_nil inside hlookup' (by simp),
          entryFindings_of_step inside _ before behind hstep]

/-- **A step changes nothing of what is found in a document.** -/
theorem findings_of_step (inside : Bool) {d e : Value} (h : policySpelling.Step d e) :
    findings inside d = findings inside e := by
  obtain ⟨members, others, rfl, rfl, halike⟩ := h.alike
  have hplain : ∀ key : Str, key ≠ "Statement" → ∀ v w, ¬ policySpelling.inner key v w :=
    fun key hkey v w hinner => hkey hinner.1
  have hversion : present? members "Version" = present? others "Version" :=
    halike.present?_eq (by decide) (hplain _ (by decide))
  have hid : present? members "Id" = present? others "Id" :=
    halike.present?_eq (by decide) (hplain _ (by decide))
  have hunknown := halike.filter_keys (p := fun key => !key.isOneOf Catalog.rootFields)
    (by simp [policySpelling])
  have hstatements : statementsFindings inside members = statementsFindings inside others := by
    refine statementsFindings_of_rel inside (rel_imp ?_ (halike.inner_rel (by decide)))
    exact fun v w hvalue => hvalue.imp_right fun hinner => hinner.2
  simp only [findings, versionFindings, hversion, hstatements, unknownRootFindings,
    flatMap_findingIf, hunknown, idFindings, hid]

/-- **Spellings of the same policy have the same verdict.** -/
theorem review_of_samePolicy (inside : Bool) {d e : Value} (h : SamePolicy d e) :
    review inside d = review inside e := by
  -- by induction on how the steps are put together; equality is kept by each way to do so
  induction h with
  | rel d e hstep => rw [review, review, findings_of_step inside hstep]
  | refl d => rfl
  | symm d e _ ih => exact ih.symm
  | trans d e f _ _ ihfirst ihrest => exact ihfirst.trans ihrest

/-- The members of a policy of one statement. -/
def onlyStatement (statement : Members) : Members :=
  [("Version", .str "2012-10-17"), ("Statement", .arr [.obj statement])]

/-- A statement with nulls and with values that stand alone. -/
def terseStatement : Members :=
  [("Effect", .str "Allow"), ("Condition", .null),
    ("Principal", .obj [("Service", .null), ("AWS", .str "nobody")]), ("Action", .str "s3:Get")]

/-- The same statement without the nulls and with lists. -/
def formalStatement : Members :=
  [("Effect", .str "Allow"), ("Principal", .obj [("AWS", .arr [.str "nobody"])]),
    ("Action", .arr [.str "s3:Get"])]

/-- Nulls are taken out and lists are put in at each level of a policy. -/
theorem review_formalStatement :
    SamePolicy (.obj (("Id", .null) :: onlyStatement terseStatement))
        (.obj (onlyStatement formalStatement)) ∧
      review true (.obj (("Id", .null) :: onlyStatement terseStatement)) =
        review true (.obj (onlyStatement formalStatement)) := by
  have hsingle : ∀ s : Str, Value.str s ≠ .null ∧ ∀ items, Value.str s ≠ .arr items :=
    fun s => ⟨Value.noConfusion, fun _ => Value.noConfusion⟩
  have hstatement : ∀ {statement other : Members},
      statementSpelling.Step (.obj statement) (.obj other) →
      SamePolicy (.obj (onlyStatement statement)) (.obj (onlyStatement other)) :=
    fun h => .of_step
      (@Spelling.Step.inside policySpelling _ "Statement" _ _ rfl ⟨rfl, .entry [] [] h⟩)
  have hprincipal : ∀ {members : Members} {v w : Value},
      List.lookup ("Principal" : Str) members = some v → principalSpelling.Step v w →
      statementSpelling.Step (.obj members) (.obj (Members.put "Principal" w members)) :=
    fun hlookup h => .inside hlookup ⟨by decide, h⟩
  have hid : SamePolicy (.obj (("Id", .null) :: onlyStatement terseStatement))
      (.obj (onlyStatement terseStatement)) :=
    .of_step (@Spelling.Step.drop policySpelling _ "Id" (by decide) rfl)
  have hcondition := hstatement (@Spelling.Step.drop statementSpelling terseStatement "Condition"
    (by decide) rfl)
  have hservice := @Spelling.Step.drop principalSpelling
    [("Service", .null), ("AWS", .str "nobody")] "Service" (by decide) rfl
  have haws := @Spelling.Step.list principalSpelling [("AWS", .str "nobody")] "AWS" _ (by decide)
    rfl (hsingle _).1 (hsingle _).2
  have hsame : SamePolicy (.obj (("Id", .null) :: onlyStatement terseStatement))
      (.obj (onlyStatement formalStatement)) := by
    refine hid.trans (hcondition.trans ((hstatement (hprincipal rfl hservice)).trans ?_))
    refine (hstatement (hprincipal rfl haws)).trans (hstatement ?_)
    exact @Spelling.Step.list statementSpelling _ "Action" _ (by decide) rfl (hsingle _).1
      (hsingle _).2
  exact ⟨hsame, review_of_samePolicy true hsame⟩

/-- A null id counts as an id, so taking it out is no step. -/
example : review false (.obj (onlyStatement [("Sid", .null)])) ≠
    review false (.obj (onlyStatement [])) := by
  decide +kernel

end BucketAccess.Policy
