/-
**Fields that are ignored.**

The cloud looks neither at the fields of a statement that are about principals nor at fields that
are unknown.  The review says of each that it is there, and that is all that comes of it: whatever
they hold, what else is told about the policy is the same, and so is the verdict.  Each of the
remarks can be told from everything else by its first characters, so a reader of the warnings can
take them out.

Main definitions:

* `BucketAccess.Policy.IsIgnoredField` — the fields of a statement that are ignored;
* `BucketAccess.Policy.SameButIgnored` — documents that differ in ignored fields only;
* `BucketAccess.Policy.ignoredWarnings` — what is told about ignored fields;
* `BucketAccess.Policy.effectiveFindings` — what is found in a statement apart from them.

Main results:

* `BucketAccess.Policy.effectiveFindings_congr` — statements that differ in ignored fields only;
* `BucketAccess.Policy.filter_readsAsRemark_told` — the remarks are about the ignored fields;
* `BucketAccess.Policy.filter_not_readsAsRemark_told_congr` — what else is told does not depend on
  them;
* `BucketAccess.Policy.review_of_sameButIgnored` — **ignored fields are without effect**.
-/

import BucketAccess.Proofs.Policy.Statements
import Mathlib.Data.List.Forall2

set_option relaxedAutoImplicit false
set_option autoImplicit false

namespace BucketAccess.Policy

open BucketAccess.Json BucketAccess.Text

/-! ### Ignored fields -/

/-- The fields of a statement that are about principals. -/
def principalFields : List String :=
  ["Principal", "NotPrincipal"]

/-- A field of a statement that is ignored: it is about principals, or it is unknown. -/
def IsIgnoredField (key : Str) : Prop :=
  key.isOneOf principalFields ∨ ¬ key.isOneOf Catalog.statementFields

/-- Statements that differ in ignored fields only. -/
inductive SameStatement : Value → Value → Prop
  | same (v : Value) : SameStatement v v
  | fields {members others : Members}
      (h : ∀ key, ¬ IsIgnoredField key → List.lookup key members = List.lookup key others) :
      SameStatement (.obj members) (.obj others)

/-- Fields of statements that differ, statement by statement, in ignored fields only. -/
inductive SameStatements : Value → Value → Prop
  | same (v : Value) : SameStatements v v
  | each {items others : List Value} (h : List.Forall₂ SameStatement items others) :
      SameStatements (.arr items) (.arr others)

/-- Documents that differ in ignored fields only: fields of the policy that are unknown, and ignored
fields of its statements. -/
inductive SameButIgnored : Value → Value → Prop
  | same (v : Value) : SameButIgnored v v
  | fields {members others : Members}
      (hfields : ∀ key : Str, key.isOneOf Catalog.rootFields → key ≠ "Statement" →
        List.lookup key members = List.lookup key others)
      (hstatements : Option.Rel SameStatements (List.lookup ("Statement" : Str) members)
        (List.lookup ("Statement" : Str) others)) :
      SameButIgnored (.obj members) (.obj others)

/-! ### What is told about ignored fields -/

/-- What is told about a field about principals of the statement at a position. -/
def principalNotice (i : Nat) (field : String) : Str :=
  s!"Statement[{i}]: {field} field is not supported by Impossible Cloud and will be ignored"

/-- What is told about an unknown field of the statement at a position. -/
def unknownNotice (i : Nat) (key : Str) : Str :=
  s!"Statement[{i}]: Unknown field \"" ++ key ++ "\""

/-- What is told about an unknown field of a policy. -/
def unknownRootNotice (key : Str) : Str :=
  "Unknown root-level field: \"" ++ key ++ "\""

/-- What is told about the ignored fields of the statement at a position: one warning for each field
about principals that is not null, and one for each field that is unknown. -/
def ignoredInStatement (i : Nat) : Value → List Str
  | .obj members =>
      (principalFields.filter fun field : String => (present? members field).isSome).map
          (principalNotice i) ++
        ((Members.keys members).filter fun key => !key.isOneOf Catalog.statementFields).map
          (unknownNotice i)
  | _ => []

/-- What is told about the ignored fields of the statements of a policy. -/
def ignoredInStatements (members : Members) : List Str :=
  match List.lookup ("Statement" : Str) members with
  | some (.arr items) => (items.mapIdx ignoredInStatement).flatten
  | _ => []

/-- What is told about the ignored fields of a document. -/
def ignoredWarnings : Value → List Str
  | .obj members => ignoredInStatements members ++
      ((Members.keys members).filter fun key => !key.isOneOf Catalog.rootFields).map
        unknownRootNotice
  | _ => []

/-! ### A statement without its ignored fields -/

/-- What is found in a statement apart from its ignored fields. -/
def effectiveFindings : Value → List Finding
  | .obj members =>
      sidFindings [] members ++ effectFindings [] members ++
        choiceFindings [] members "Action" "NotAction" actionFindings ++
        choiceFindings [] members "Resource" "NotResource" resourceFindings ++
        conditionFieldFindings [] members
  | _ => [⟨[], .notObject⟩]

/-- What is found of the ignored fields of a statement. -/
def ignoredFindings : Value → List Finding
  | .obj members =>
      principalFieldFindings false [] members "Principal" ++
        principalFieldFindings false [] members "NotPrincipal" ++
        unknownFieldFindings [] members
  | _ => []

/-- **What is found in a statement apart from its ignored fields does not depend on them.** -/
theorem effectiveFindings_congr {v w : Value} (h : SameStatement v w) :
    effectiveFindings v = effectiveFindings w := by
  cases h with
  | same => rfl
  | @fields members others h =>
      have hlookup : ∀ key : Str, key.isOneOf Catalog.statementFields →
          ¬ key.isOneOf principalFields →
          List.lookup key members = List.lookup key others :=
        fun key hknown hother =>
          h key fun hignored => hignored.elim hother fun hunknown => hunknown hknown
      have hpresent : ∀ key : Str, key.isOneOf Catalog.statementFields →
          ¬ key.isOneOf principalFields → present? members key = present? others key := by
        intro key hknown hother
        rw [present?, present?, hlookup key hknown hother]
      simp only [effectiveFindings, sidFindings, effectFindings, choiceFindings,
        conditionFieldFindings, List.flatMap_cons, List.flatMap_nil,
        hlookup "Sid" (by decide) (by decide), hpresent "Effect" (by decide) (by decide),
        hpresent "Action" (by decide) (by decide), hpresent "NotAction" (by decide) (by decide),
        hpresent "Resource" (by decide) (by decide),
        hpresent "NotResource" (by decide) (by decide),
        hpresent "Condition" (by decide) (by decide)]

/-! ### Remarks among the findings -/

/-- A remark: a warning about a statement itself and not about a part of it. -/
def Finding.isRemark (f : Finding) : Bool :=
  f.severity = .warning && f.place.isEmpty

/-- Findings without remarks. -/
def NoRemarks (findings : List Finding) : Prop :=
  ∀ f ∈ findings, f.isRemark = false

/-- Findings that are remarks. -/
def AllRemarks (findings : List Finding) : Prop :=
  ∀ f ∈ findings, f.isRemark = true

theorem NoRemarks.append {findings more : List Finding} (h : NoRemarks findings)
    (hmore : NoRemarks more) : NoRemarks (findings ++ more) :=
  fun f hf => (List.mem_append.1 hf).elim (h f) (hmore f)

theorem NoRemarks.filter {findings : List Finding} (h : NoRemarks findings) :
    findings.filter Finding.isRemark = [] :=
  List.filter_eq_nil_iff.2 fun f hf => by simp [h f hf]

theorem NoRemarks.filter_not {findings : List Finding} (h : NoRemarks findings) :
    findings.filter (!Finding.isRemark ·) = findings :=
  List.filter_eq_self.2 fun f hf => by simp [h f hf]

theorem AllRemarks.filter {findings : List Finding} (h : AllRemarks findings) :
    findings.filter Finding.isRemark = findings :=
  List.filter_eq_self.2 h

theorem AllRemarks.filter_not {findings : List Finding} (h : AllRemarks findings) :
    findings.filter (!Finding.isRemark ·) = [] :=
  List.filter_eq_nil_iff.2 fun f hf => by simp [h f hf]

theorem noRemarks_of_error {place : List Step} {problem : Problem}
    (h : problem.severity = .error) : NoRemarks [⟨place, problem⟩] := by
  simp [NoRemarks, Finding.isRemark, Finding.severity, h]

theorem noRemarks_findingIf {condition : Bool} {place : List Step} {problem : Problem}
    (h : problem.severity = .error) : NoRemarks (findingIf condition place problem) := by
  cases condition
  · simp [NoRemarks, findingIf]
  · exact noRemarks_of_error h

/-- What is found in a member of a statement is about a part of it. -/
theorem noRemarks_member {α : Type} {check : List Step → α → List Finding} (h : Moves check)
    (key : Str) (a : α) : NoRemarks (check [.member key] a) := by
  have hmoved : check [.member key] a = (check [] a).map (Finding.under [.member key]) :=
    h [.member key] [] a
  rw [hmoved]
  intro f hf
  obtain ⟨f, -, rfl⟩ := List.mem_map.1 hf
  simp [Finding.isRemark]

theorem noRemarks_sidFindings (members : Members) : NoRemarks (sidFindings [] members) := by
  unfold sidFindings
  split
  · simp [NoRemarks]
  · exact noRemarks_findingIf rfl
  · exact noRemarks_of_error rfl

theorem noRemarks_effectFindings (members : Members) : NoRemarks (effectFindings [] members) := by
  unfold effectFindings
  split
  · exact noRemarks_of_error rfl
  · split
    · exact noRemarks_of_error rfl
    · exact noRemarks_findingIf rfl
  · exact noRemarks_of_error rfl

theorem noRemarks_choiceFindings {check : List Step → Value → List Finding} (h : Moves check)
    (members : Members) (field negated : String) :
    NoRemarks (choiceFindings [] members field negated check) := by
  refine ((noRemarks_findingIf rfl).append (noRemarks_findingIf rfl)).append ?_
  intro f hf
  obtain ⟨key, -, hkey⟩ := List.mem_flatMap.1 hf
  split at hkey
  · next v _ => exact noRemarks_member (moves_listFindings h) key v f hkey
  · simp at hkey

theorem noRemarks_conditionFieldFindings (members : Members) :
    NoRemarks (conditionFieldFindings [] members) := by
  unfold conditionFieldFindings
  split
  · next v _ => exact noRemarks_member moves_conditionFindings "Condition" v
  · simp [NoRemarks]

theorem allRemarks_principalFieldFindings (members : Members) (field : String) :
    AllRemarks (principalFieldFindings false [] members field) := by
  unfold principalFieldFindings
  split
  · simp [AllRemarks]
  · simp [AllRemarks, Finding.isRemark, Finding.severity, Problem.severity]

/-- Findings that are made of some of the members of a list. -/
theorem flatMap_findingIf {α : Type} (xs : List α) (p : α → Bool) (place : List Step)
    (problem : α → Problem) : (xs.flatMap fun x => findingIf (p x) place (problem x)) =
      (xs.filter p).map fun x => ⟨place, problem x⟩ := by
  induction xs with
  | nil => rfl
  | cons x rest ih =>
      rw [List.flatMap_cons, ih]
      by_cases h : p x = true <;> simp [findingIf, h]

theorem allRemarks_unknownFieldFindings (members : Members) :
    AllRemarks (unknownFieldFindings [] members) := by
  rw [unknownFieldFindings, flatMap_findingIf]
  intro f hf
  obtain ⟨key, -, rfl⟩ := List.mem_map.1 hf
  rfl

/-- **The remarks about a statement** are those about its ignored fields. -/
theorem filter_isRemark_statementFindings (v : Value) :
    (statementFindings false [] v).filter Finding.isRemark = ignoredFindings v := by
  have hobject : NoRemarks [⟨[], .notObject⟩] := noRemarks_of_error rfl
  cases v with
  | obj members =>
      simp only [statementFindings, ignoredFindings, List.filter_append,
        (noRemarks_sidFindings members).filter, (noRemarks_effectFindings members).filter,
        (allRemarks_principalFieldFindings members _).filter,
        (noRemarks_choiceFindings moves_actionFindings members _ _).filter,
        (noRemarks_choiceFindings moves_resourceFindings members _ _).filter,
        (noRemarks_conditionFieldFindings members).filter,
        (allRemarks_unknownFieldFindings members).filter, List.append_nil, List.nil_append]
  | _ => exact hobject.filter

/-- What is found in a statement besides the remarks is found apart from its ignored fields. -/
theorem filter_not_isRemark_statementFindings (v : Value) :
    (statementFindings false [] v).filter (!Finding.isRemark ·) = effectiveFindings v := by
  have hobject : NoRemarks [⟨[], .notObject⟩] := noRemarks_of_error rfl
  cases v with
  | obj members =>
      simp only [statementFindings, effectiveFindings, List.filter_append,
        (noRemarks_sidFindings members).filter_not, (noRemarks_effectFindings members).filter_not,
        (allRemarks_principalFieldFindings members _).filter_not,
        (noRemarks_choiceFindings moves_actionFindings members _ _).filter_not,
        (noRemarks_choiceFindings moves_resourceFindings members _ _).filter_not,
        (noRemarks_conditionFieldFindings members).filter_not,
        (allRemarks_unknownFieldFindings members).filter_not, List.append_nil]
  | _ => exact hobject.filter_not

/-! ### Remarks among the messages -/

/-- Whether a message is a remark about an ignored field, by its look: a warning about a statement
itself, or one that starts like those about unknown fields of the policy. -/
def readsAsRemark (severity : Severity) (message : Str) : Bool :=
  severity = .warning && (message.toList.head? = some ('U' : Point) ||
    (behindFirst (']' : Point) message.toList).head? = some (':' : Point))

/-- What is told about the statement at a position. -/
def toldAt (severity : Severity) (i : Nat) (findings : List Finding) : List Str :=
  Verdict.messages Finding.severity (fun f => s!"Statement[{i}]" ++ f.tail) severity findings

theorem map_tails (severity : Severity) (inside : Bool) (i : Nat) (v : Value) :
    (tails severity inside v).map (fun tail : Str => s!"Statement[{i}]" ++ tail) =
      toldAt severity i (statementFindings inside [] v) := by
  simp [toldAt, tails, Verdict.messages]

/-- Behind the position of the statement a colon follows, unless a part of it is named. -/
theorem head_tail_iff (f : Finding) : f.tail.toList.head? = some (':' : Point) ↔ f.place = [] := by
  rw [Finding.tail]
  cases hplace : f.place with
  | nil => simp
  | cons step rest =>
      cases step with
      | member name => simp [Step.text]
      | index i =>
          have htext : (Step.index i).text = ("[" ++ toString i ++ "]" : String) := rfl
          simp [htext]

theorem bracket_not_mem_toList_toString (i : Nat) :
    (']' : Point) ∉ (toString i : Str).toList := by
  have hdigits : (toString i).toList = Nat.toDigits 10 i := String.toList_ofList
  rw [Str.toList_coe, hdigits]
  intro hmem
  obtain ⟨c, hc, heq⟩ := List.mem_map.1 hmem
  obtain rfl := Point.char.inj heq
  have hdigit := Nat.isDigit_of_mem_toDigits (by decide) (by decide) hc
  exact absurd hdigit (by decide)

/-- A message about a statement, up to the bracket behind the position. -/
theorem toList_statement (i : Nat) (tail : Str) :
    ((s!"Statement[{i}]" : Str) ++ tail).toList =
      ("Statement[" : Str).toList ++
        ((toString i : Str).toList ++ (']' : Point) :: tail.toList) := by
  have hnumber : s!"Statement[{i}]" = "Statement[" ++ toString i ++ "]" := rfl
  rw [hnumber]
  simp

/-- **A finding about a statement reads as a remark when it is one.** -/
theorem readsAsRemark_eq_isRemark (i : Nat) (f : Finding) :
    readsAsRemark f.severity (s!"Statement[{i}]" ++ f.tail) = f.isRemark := by
  have hchars : ((s!"Statement[{i}]" : Str) ++ f.tail).toList =
      (("Statement[" : Str).toList ++ (toString i : Str).toList) ++
        (']' : Point) :: f.tail.toList := by
    rw [toList_statement, List.append_assoc]
  have hbracket : (']' : Point) ∉ ("Statement[" : Str).toList ++ (toString i : Str).toList := by
    rw [List.mem_append, not_or]
    exact ⟨by decide, bracket_not_mem_toList_toString i⟩
  have hbehind : behindFirst (']' : Point) ((s!"Statement[{i}]" : Str) ++ f.tail).toList =
      f.tail.toList := by
    rw [hchars, behindFirst_append_cons hbracket]
  have hhead : ((s!"Statement[{i}]" : Str) ++ f.tail).toList.head? = some ('S' : Point) := by
    rw [hchars]
    rfl
  rw [readsAsRemark, hbehind, hhead, Finding.isRemark]
  by_cases h : f.place = [] <;> simp [head_tail_iff, h]

/-- Messages are taken out by their look as their findings are by a property of their own. -/
theorem filter_toldAt {severity : Severity} {i : Nat} {looks : Str → Bool}
    {p : Finding → Bool}
    (h : ∀ f : Finding, f.severity = severity → looks (s!"Statement[{i}]" ++ f.tail) = p f)
    (findings : List Finding) :
    (toldAt severity i findings).filter looks = toldAt severity i (findings.filter p) := by
  simp only [toldAt, Verdict.messages, List.filter_map, List.filter_filter]
  congr 1
  refine List.filter_congr fun f _ => ?_
  by_cases hseverity : f.severity = severity
  · simp only [Function.comp_apply, h f hseverity, hseverity, decide_true, Bool.and_true,
      Bool.true_and]
  · simp [hseverity]

theorem filter_readsAsRemark_toldAt (severity : Severity) (i : Nat) (findings : List Finding) :
    (toldAt severity i findings).filter (readsAsRemark severity) =
      toldAt severity i (findings.filter Finding.isRemark) :=
  filter_toldAt (fun f h => h ▸ readsAsRemark_eq_isRemark i f) findings

theorem filter_not_readsAsRemark_toldAt (severity : Severity) (i : Nat)
    (findings : List Finding) :
    (toldAt severity i findings).filter (!readsAsRemark severity ·) =
      toldAt severity i (findings.filter (!Finding.isRemark ·)) :=
  filter_toldAt (fun f h => h ▸ congrArg (!·) (readsAsRemark_eq_isRemark i f)) findings

theorem toldAt_remarks {α : Type} (i : Nat) (xs : List α) {problem : α → Problem}
    {notice : α → Str} (hseverity : ∀ x, (problem x).severity = .warning)
    (hnotice : ∀ x, s!"Statement[{i}]" ++ Finding.tail ⟨[], problem x⟩ = notice x) :
    toldAt .warning i (xs.map fun x => ⟨[], problem x⟩) = xs.map notice := by
  induction xs with
  | nil => rfl
  | cons x rest ih =>
      rw [List.map_cons, List.map_cons, ← ih, ← hnotice x]
      simp only [toldAt, Verdict.messages, Finding.severity, List.filter_cons, hseverity x,
        decide_true, if_true, List.map_cons]

/-- How a remark is told. -/
theorem message_remark (i : Nat) (problem : Problem) :
    s!"Statement[{i}]" ++ Finding.tail ⟨[], problem⟩ = s!"Statement[{i}]: " ++ problem.text := by
  have hcolon : "]" ++ ": " = "]: " := by decide
  have htail : Finding.tail ⟨[], problem⟩ = "" ++ ": " ++ problem.text := rfl
  have hnumber : s!"Statement[{i}]" = "Statement[" ++ toString i ++ "]" := rfl
  have hlead : s!"Statement[{i}]: " = "Statement[" ++ toString i ++ "]: " := rfl
  rw [htail, hnumber, hlead, ← hcolon]
  simp only [Str.empty_append, Str.coe_append, Str.append_assoc]

theorem message_principalIgnored (i : Nat) (field : String) :
    s!"Statement[{i}]" ++ Finding.tail ⟨[], .principalIgnored field⟩ =
      principalNotice i field := by
  have hwords : " field is not supported by Impossible Cloud and will be ignored" =
      " field is not supported by " ++ "Impossible Cloud" ++ " and will be ignored" := by decide
  have hnotice : principalNotice i field = (s!"Statement[{i}]: " ++ field ++
      " field is not supported by Impossible Cloud and will be ignored" : String) := rfl
  have htext : (Problem.principalIgnored field).text =
      (field ++ " field is not supported by " ++ "Impossible Cloud" ++ " and will be ignored" :
        String) := rfl
  rw [message_remark, htext, hnotice, hwords]
  simp only [Str.coe_append, Str.append_assoc]

theorem message_unknownField (i : Nat) (key : Str) :
    s!"Statement[{i}]" ++ Finding.tail ⟨[], .unknownField key⟩ = unknownNotice i key := by
  have hwords : "]: Unknown field \"" = "]: " ++ "Unknown field \"" := by decide
  have hnotice : unknownNotice i key =
      ("Statement[" ++ toString i ++ "]: Unknown field \"" : String) ++ key ++ "\"" := rfl
  have hlead : s!"Statement[{i}]: " = "Statement[" ++ toString i ++ "]: " := rfl
  have htext : (Problem.unknownField key).text = "Unknown field \"" ++ key ++ "\"" := rfl
  rw [message_remark, htext, hlead, hnotice, hwords]
  simp only [Str.coe_append, Str.append_assoc]

theorem principalFieldFindings_eq_map (members : Members) :
    principalFieldFindings false [] members "Principal" ++
        principalFieldFindings false [] members "NotPrincipal" =
      (principalFields.filter fun field : String => (present? members field).isSome).map
        fun field => ⟨[], .principalIgnored field⟩ := by
  cases hprincipal : present? members "Principal" <;>
    cases hnegated : present? members "NotPrincipal" <;>
    simp [principalFieldFindings, principalFields, hprincipal, hnegated]

/-- The remarks about a statement, one for each ignored field. -/
theorem toldAt_ignoredFindings (i : Nat) (v : Value) :
    toldAt .warning i (ignoredFindings v) = ignoredInStatement i v := by
  cases v with
  | obj members =>
      have happend : ∀ findings more, toldAt .warning i (findings ++ more) =
          toldAt .warning i findings ++ toldAt .warning i more :=
        Verdict.messages_append .warning
      rw [ignoredFindings, principalFieldFindings_eq_map, unknownFieldFindings, flatMap_findingIf,
        happend, toldAt_remarks i _ (fun _ => rfl) (message_principalIgnored i),
        toldAt_remarks i _ (fun _ => rfl) (message_unknownField i), ignoredInStatement]
  | _ => rfl

/-! ### Remarks about a document -/

/-- Findings none of which is told like a remark. -/
def Plain (findings : List Finding) : Prop :=
  ∀ f ∈ findings, readsAsRemark f.severity f.message = false

theorem plain_of_errors {findings : List Finding} (h : ∀ f ∈ findings, f.severity = .error) :
    Plain findings := by
  intro f hf
  simp [h f hf, readsAsRemark]

section PlainFindings

variable {findings : List Finding} (severity : Severity)

theorem Plain.readsAsRemark_eq_false (h : Plain findings) {message : Str}
    (hmessage : message ∈ messagesOf severity findings) :
    readsAsRemark severity message = false := by
  obtain ⟨f, hf, rfl⟩ := List.mem_map.1 hmessage
  obtain ⟨hmem, hseverity⟩ := List.mem_filter.1 hf
  rw [← of_decide_eq_true hseverity]
  exact h f hmem

theorem Plain.filter (h : Plain findings) :
    (messagesOf severity findings).filter (readsAsRemark severity) = [] :=
  List.filter_eq_nil_iff.2 fun message hmessage => by
    simp [h.readsAsRemark_eq_false severity hmessage]

theorem Plain.filter_not (h : Plain findings) :
    (messagesOf severity findings).filter (!readsAsRemark severity ·) =
      messagesOf severity findings :=
  List.filter_eq_self.2 fun message hmessage => by
    simp [h.readsAsRemark_eq_false severity hmessage]

end PlainFindings

/-- An earlier version is not an ignored field. -/
theorem plain_versionFindings (members : Members) : Plain (versionFindings members) := by
  have hlegacy : readsAsRemark .warning (Finding.message ⟨[], .versionLegacy⟩) = false := by decide
  have herror : ∀ problem : Problem, problem.severity = .error → Plain [⟨[], problem⟩] := by
    intro problem h
    exact plain_of_errors (by simpa [Finding.severity] using h)
  unfold versionFindings
  split
  · exact herror _ rfl
  · split
    · exact herror _ rfl
    · split
      · exact herror _ rfl
      · unfold findingIf
        split
        · intro f hf
          rw [List.mem_singleton.1 hf]
          exact hlegacy
        · simp [Plain]
  · exact herror _ rfl

theorem plain_idFindings (members : Members) : Plain (idFindings members) := by
  refine plain_of_errors ?_
  unfold idFindings
  split <;> simp [Finding.severity, Problem.severity]

/-- A policy without a list of statements has an error there. -/
theorem plain_statementsFindings {inside : Bool} {members : Members}
    (h : ∀ items, List.lookup ("Statement" : Str) members = some (.arr items) → items = []) :
    Plain (statementsFindings inside members) := by
  refine plain_of_errors ?_
  unfold statementsFindings
  split
  · simp [Finding.severity, Problem.severity]
  · simp [Finding.severity, Problem.severity]
  · next items hne hpresent =>
      have hlookup := (Option.filter_eq_some_iff.1 hpresent).1
      exact absurd (h items hlookup) hne
  · simp [Finding.severity, Problem.severity]

/-- The remarks about the statements of a policy, statement by statement. -/
theorem filter_readsAsRemark_statements (members : Members) :
    (messagesOf .warning (statementsFindings false members)).filter (readsAsRemark .warning) =
      ignoredInStatements members := by
  by_cases hsome : ∃ items,
      List.lookup ("Statement" : Str) members = some (.arr items) ∧ items ≠ []
  · obtain ⟨items, hlookup, hne⟩ := hsome
    have hexpected : ignoredInStatements members =
        items.zipIdx.flatMap fun m => ignoredInStatement m.2 m.1 := by
      simp only [ignoredInStatements, hlookup, List.mapIdx_eq_zipIdx_map, ← List.flatMap_def]
    rw [statementsFindings_of_ne_nil false hlookup hne, messagesOf_entryFindings,
      List.filter_flatMap, hexpected]
    refine List.flatMap_congr fun m _ => ?_
    rw [map_tails, filter_readsAsRemark_toldAt, filter_isRemark_statementFindings,
      toldAt_ignoredFindings]
  · have hnone : ∀ items,
        List.lookup ("Statement" : Str) members = some (.arr items) → items = [] :=
      fun items hlookup => by_contra fun hne => hsome ⟨items, hlookup, hne⟩
    have hexpected : ignoredInStatements members = [] := by
      unfold ignoredInStatements
      split
      · next items hlookup => rw [hnone items hlookup]; rfl
      · rfl
    rw [(plain_statementsFindings hnone).filter, hexpected]

/-- The unknown fields of a policy are told of last, but for its id. -/
theorem messagesOf_unknownRootFindings (members : Members) :
    messagesOf .warning (unknownRootFindings members) =
      ((Members.keys members).filter fun key => !key.isOneOf Catalog.rootFields).map
        unknownRootNotice := by
  have hmessage : ∀ key, Finding.message ⟨[], .unknownRootField key⟩ = unknownRootNotice key :=
    fun _ => rfl
  rw [unknownRootFindings, flatMap_findingIf]
  simp [messagesOf, Verdict.messages, List.filter_map, Function.comp_def, Finding.severity,
    Problem.severity, hmessage]

theorem readsAsRemark_of_mem_unknownRootFindings {severity : Severity} {members : Members}
    {message : Str} (h : message ∈ messagesOf severity (unknownRootFindings members)) :
    readsAsRemark severity message = true := by
  obtain ⟨f, hf, rfl⟩ := List.mem_map.1 h
  obtain ⟨hmem, hseverity⟩ := List.mem_filter.1 hf
  rw [unknownRootFindings, flatMap_findingIf] at hmem
  obtain ⟨key, -, rfl⟩ := List.mem_map.1 hmem
  have hwarning : severity = .warning := (of_decide_eq_true hseverity).symm
  have hmessage : Finding.message ⟨[], .unknownRootField key⟩ =
      "Unknown root-level field: \"" ++ key ++ "\"" := rfl
  simp [readsAsRemark, hwarning, hmessage]

/-- **The remarks about a document** are about its ignored fields. -/
theorem filter_readsAsRemark_told (d : Value) :
    (told .warning false d).filter (readsAsRemark .warning) = ignoredWarnings d := by
  cases d with
  | obj members =>
      have hroot : (messagesOf .warning (unknownRootFindings members)).filter
          (readsAsRemark .warning) = messagesOf .warning (unknownRootFindings members) :=
        List.filter_eq_self.2 fun message => readsAsRemark_of_mem_unknownRootFindings
      rw [told_obj, List.filter_append, List.filter_append, filter_readsAsRemark_statements,
        toldBefore, (plain_versionFindings members).filter, toldBehind, messagesOf,
        Verdict.messages_append, ← messagesOf, ← messagesOf, List.filter_append, hroot,
        (plain_idFindings members).filter, messagesOf_unknownRootFindings, List.append_nil,
        List.nil_append, ignoredWarnings]
  | _ => rfl

theorem statementsFindings_congr (inside : Bool) {members others : Members}
    (h : List.lookup ("Statement" : Str) members = List.lookup ("Statement" : Str) others) :
    statementsFindings inside members = statementsFindings inside others := by
  simp only [statementsFindings, present?, h]

/-- What is told about the statements of a policy besides the remarks. -/
theorem filter_not_readsAsRemark_statements_congr (severity : Severity) {members others : Members}
    (h : Option.Rel SameStatements (List.lookup ("Statement" : Str) members)
      (List.lookup ("Statement" : Str) others)) :
    (messagesOf severity (statementsFindings false members)).filter (!readsAsRemark severity ·) =
      (messagesOf severity (statementsFindings false others)).filter
        (!readsAsRemark severity ·) := by
  generalize hmembers : List.lookup ("Statement" : Str) members = found at h
  generalize hothers : List.lookup ("Statement" : Str) others = found' at h
  cases h with
  | none => rw [statementsFindings_congr false (hmembers.trans hothers.symm)]
  | some hsame =>
      cases hsame with
      | same v => rw [statementsFindings_congr false (hmembers.trans hothers.symm)]
      | each heach =>
          cases heach with
          | nil => rw [statementsFindings_congr false (hmembers.trans hothers.symm)]
          | cons hfirst hrest =>
              rw [statementsFindings_of_ne_nil false hmembers (by simp),
                statementsFindings_of_ne_nil false hothers (by simp), messagesOf_entryFindings,
                messagesOf_entryFindings, List.filter_flatMap, List.filter_flatMap]
              simp only [map_tails, filter_not_readsAsRemark_toldAt,
                filter_not_isRemark_statementFindings]
              refine rel_flatMap_zipIdx rfl (fun _ _ _ _ h hmore => by rw [h, hmore])
                (List.Forall₂.cons hfirst hrest) (fun v w i hsame => ?_) 0
              rw [effectiveFindings_congr hsame]

theorem filter_not_readsAsRemark_toldBehind (severity : Severity) (members : Members) :
    (toldBehind severity members).filter (!readsAsRemark severity ·) =
      messagesOf severity (idFindings members) := by
  have hroot : (messagesOf severity (unknownRootFindings members)).filter
      (!readsAsRemark severity ·) = [] :=
    List.filter_eq_nil_iff.2 fun message hmessage => by
      simp [readsAsRemark_of_mem_unknownRootFindings hmessage]
  rw [toldBehind, messagesOf, Verdict.messages_append, ← messagesOf, ← messagesOf,
    List.filter_append, hroot, (plain_idFindings members).filter_not, List.nil_append]

/-- **What else is told about a document does not depend on its ignored fields.** -/
theorem filter_not_readsAsRemark_told_congr (severity : Severity) {d e : Value}
    (h : SameButIgnored d e) :
    (told severity false d).filter (!readsAsRemark severity ·) =
      (told severity false e).filter (!readsAsRemark severity ·) := by
  cases h with
  | same => rfl
  | @fields members others hfields hstatements =>
      have hversion : versionFindings members = versionFindings others := by
        simp only [versionFindings, present?, hfields "Version" (by decide) (by decide)]
      have hid : idFindings members = idFindings others := by
        simp only [idFindings, present?, hfields "Id" (by decide) (by decide)]
      simp only [told_obj, List.filter_append, toldBefore, hversion, hid,
        filter_not_readsAsRemark_toldBehind,
        filter_not_readsAsRemark_statements_congr severity hstatements]

/-- The elements of a class, taken out of a list one by one. -/
theorem diff_filter {α : Type} [BEq α] [LawfulBEq α] (p : α → Bool) (xs : List α) :
    xs.diff (xs.filter p) = xs.filter (!p ·) := by
  induction xs with
  | nil => rfl
  | cons x rest ih =>
      by_cases h : p x = true
      · simp [h, List.diff_cons, ih]
      · have hmem : x ∉ rest.filter p := fun hmem => h (List.of_mem_filter hmem)
        simp [h, List.cons_diff_of_not_mem hmem, ih]

/-- **Ignored fields are without effect.**  Two documents that differ in ignored fields only have
the same verdict and the same errors.  The warnings name each ignored field once, and they are the
same when those are taken out. -/
theorem review_of_sameButIgnored {d e : Value} (h : SameButIgnored d e) :
    (review false d).isValid = (review false e).isValid ∧
      (review false d).errors = (review false e).errors ∧
      (ignoredWarnings d).Sublist (review false d).warnings ∧
      (ignoredWarnings e).Sublist (review false e).warnings ∧
      (review false d).warnings.diff (ignoredWarnings d) =
        (review false e).warnings.diff (ignoredWarnings e) := by
  have herrors : (review false d).errors = (review false e).errors := by
    have hfilter : ∀ messages : List Str,
        messages.filter (!readsAsRemark .error ·) = messages := by
      simp [readsAsRemark]
    have herror := filter_not_readsAsRemark_told_congr .error h
    rwa [hfilter, hfilter] at herror
  have hwarnings : ∀ v, ignoredWarnings v =
      (review false v).warnings.filter (readsAsRemark .warning) :=
    fun v => (filter_readsAsRemark_told v).symm
  refine ⟨by rw [Verdict.isValid, Verdict.isValid, herrors], herrors, ?_, ?_, ?_⟩
  · rw [hwarnings]
    exact List.filter_sublist
  · rw [hwarnings]
    exact List.filter_sublist
  · rw [hwarnings d, hwarnings e, diff_filter, diff_filter]
    exact filter_not_readsAsRemark_told_congr .warning h

/-- A policy with an action of another service, which is worth a warning. -/
def plainPolicy : Value :=
  .obj [("Version", .str "2012-10-17"),
    ("Statement", .arr [.obj [("Effect", .str "Allow"), ("Action", .str "ec2:Describe"),
      ("Resource", .str "*")]])]

/-- The same policy with fields that are ignored. -/
def plantedPolicy : Value :=
  .obj [("Comment", .arr []), ("Version", .str "2012-10-17"),
    ("Statement", .arr [.obj [("Principal", .str "nobody"), ("Effect", .str "Allow"),
      ("NotPrincipal", .int 7), ("Action", .str "ec2:Describe"), ("Resource", .str "*"),
      ("Note", .null)]])]

/-- A stray principal and unknown fields change nothing about a policy but the remarks on them. -/
theorem review_plantedPolicy :
    SameButIgnored plainPolicy plantedPolicy ∧
      (review false plainPolicy).isValid = (review false plantedPolicy).isValid ∧
      (review false plainPolicy).errors = (review false plantedPolicy).errors ∧
      (ignoredWarnings plainPolicy).Sublist (review false plainPolicy).warnings ∧
      (ignoredWarnings plantedPolicy).Sublist (review false plantedPolicy).warnings ∧
      (review false plainPolicy).warnings.diff (ignoredWarnings plainPolicy) =
        (review false plantedPolicy).warnings.diff (ignoredWarnings plantedPolicy) := by
  have hsame : SameButIgnored plainPolicy plantedPolicy := by
    refine .fields (fun key hkey hne => ?_)
      (.some (.each (.cons (.fields fun key hkey => ?_) .nil)))
    · simp [Catalog.rootFields] at hkey
      rcases hkey with rfl | rfl | rfl
      · rfl
      · rfl
      · exact absurd rfl hne
    · simp only [IsIgnoredField, not_or, not_not] at hkey
      have hfield := hkey.2
      simp [Catalog.statementFields] at hfield
      rcases hfield with rfl | rfl | rfl | rfl | rfl | rfl | rfl | rfl | rfl
      all_goals first | exact absurd (by decide) hkey.1 | simp [Members.lookup_cons_eq_ite]
  exact ⟨hsame, review_of_sameButIgnored hsame⟩

end BucketAccess.Policy
