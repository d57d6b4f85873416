/-
**Looking inside principals.**

The review looks at what a principal holds only on request.  The request adds messages and changes
none: what is found inside a principal is told with the field of its statement in front, and nothing
else is told in that way, whatever words of a user a message shows.  So the verdict without the
request is the verdict with it, less the messages that start with such a field, and a policy that is
accepted with the request is accepted without it.

Main definitions:

* `BucketAccess.Policy.IsAboutPrincipal` — messages about what a principal holds, by their look;
* `BucketAccess.Policy.Finding.isInside` — findings that are told in that way;
* `BucketAccess.Policy.Outside` — findings none of which is.

Main results:

* `BucketAccess.Policy.statement_prefix_iff` — a message about a statement names its position;
* `BucketAccess.Policy.filter_statementFindings` — **what the request adds about a statement**;
* `BucketAccess.Policy.review_filter_isAboutPrincipal` — **the request only adds messages about what
  a principal holds**.
-/

import BucketAccess.Proofs.Policy.Ignored
import BucketAccess.Proofs.Text.Beginning

set_option relaxedAutoImplicit false
set_option autoImplicit false

namespace BucketAccess.Policy

open BucketAccess.Json BucketAccess.Text

/-! ### Messages about what a principal holds -/

/-- Whether a message is about what a principal holds: it starts with a statement, at some position,
and a field about principals. -/
def IsAboutPrincipal (message : Str) : Prop :=
  ∃ i : Nat, ∃ field ∈ principalFields,
    ((s!"Statement[{i}]" : Str) ++ ("." ++ field : Str)).toList <+: message.toList

theorem toString_injective {i j : Nat} (h : toString i = toString j) : i = j := by
  have hdigits : ∀ n : Nat, (toString n).toList = Nat.toDigits 10 n := fun _ => String.toList_ofList
  have hlist := congrArg String.toList h
  rw [hdigits, hdigits] at hlist
  rw [← Nat.ofDigitChars_ten_toDigits (n := i), hlist, Nat.ofDigitChars_ten_toDigits]

/-- A number is told by its digits up to the bracket that closes it. -/
theorem number_prefix_iff {i j : Nat} {s t : List Point} :
    (toString i : Str).toList ++ (']' : Point) :: s <+:
      (toString j : Str).toList ++ (']' : Point) :: t ↔ i = j ∧ s <+: t := by
  constructor
  · rintro ⟨rest, hrest⟩
    rw [List.append_assoc, List.cons_append] at hrest
    -- a number holds no bracket, so both numbers end at the first one
    have hi := bracket_not_mem_toList_toString i
    have hj := bracket_not_mem_toList_toString j
    have hnumber := congrArg (beforeFirst (']' : Point)) hrest
    have htail := congrArg (behindFirst (']' : Point)) hrest
    rw [beforeFirst_append_cons hi, beforeFirst_append_cons hj] at hnumber
    rw [behindFirst_append_cons hi, behindFirst_append_cons hj] at htail
    exact ⟨toString_injective (Str.coe_inj.1 (Str.toList_inj.1 hnumber)), rest, htail⟩
  · rintro ⟨rfl, rest, hrest⟩
    exact ⟨rest, by simp [← hrest]⟩

/-- **A message about a statement names its position.**  The first bracket that is closed in it is
the one around the position. -/
theorem statement_prefix_iff {i j : Nat} {lead tail : Str} :
    ((s!"Statement[{i}]" : Str) ++ lead).toList <+: ((s!"Statement[{j}]" : Str) ++ tail).toList ↔
      i = j ∧ lead.toList <+: tail.toList := by
  rw [toList_statement, toList_statement, List.prefix_append_right_inj, number_prefix_iff]

/-- The position that is named first in a message. -/
def positionIn (message : Str) : Nat :=
  let digits := beforeFirst (']' : Point) (message.toList.drop ("Statement[" : Str).toList.length)
  Nat.ofDigitChars 10 (digits.filterMap Point.char?) 0

theorem positionIn_eq {i : Nat} {lead message : Str}
    (h : ((s!"Statement[{i}]" : Str) ++ lead).toList <+: message.toList) :
    positionIn message = i := by
  obtain ⟨rest, hrest⟩ := h
  have hdigits : (toString i).toList = Nat.toDigits 10 i := String.toList_ofList
  rw [toList_statement, List.append_assoc, List.append_assoc, List.cons_append] at hrest
  rw [positionIn, ← hrest, List.drop_left,
    beforeFirst_append_cons (bracket_not_mem_toList_toString i), Str.toList_coe,
    Point.filterMap_char?_map, hdigits, Nat.ofDigitChars_ten_toDigits]

theorem isAboutPrincipal_iff {message : Str} : IsAboutPrincipal message ↔
    ∃ field ∈ principalFields,
      ((s!"Statement[{positionIn message}]" : Str) ++ ("." ++ field : Str)).toList <+:
        message.toList := by
  constructor
  · rintro ⟨i, field, hfield, hprefix⟩
    exact ⟨field, hfield, (positionIn_eq hprefix).symm ▸ hprefix⟩
  · rintro ⟨field, hfield, hprefix⟩
    exact ⟨_, field, hfield, hprefix⟩

instance : DecidablePred IsAboutPrincipal := fun _ =>
  decidable_of_iff _ isAboutPrincipal_iff.symm

/-- A message that does not start with a statement is not about what a principal holds. -/
theorem not_isAboutPrincipal {message : Str}
    (h : ¬ ("Statement[" : Str).toList <+: message.toList) : ¬ IsAboutPrincipal message := by
  rintro ⟨i, field, -, hprefix⟩
  rw [toList_statement] at hprefix
  exact h ((List.prefix_append _ _).trans hprefix)

/-! ### Findings inside principals -/

/-- Whether a finding about a statement is told with a field about principals in front. -/
def Finding.isInside (f : Finding) : Bool :=
  principalFields.any fun field => ("." ++ field : Str).toList.isPrefixOf f.tail.toList

/-- **A message about a statement is about what a principal holds when its finding is.** -/
theorem isAboutPrincipal_statement (i : Nat) (f : Finding) :
    IsAboutPrincipal (s!"Statement[{i}]" ++ f.tail) ↔ f.isInside = true := by
  rw [Finding.isInside, List.any_eq_true]
  simp only [List.isPrefixOf_iff_prefix]
  constructor
  · rintro ⟨j, field, hfield, hprefix⟩
    exact ⟨field, hfield, (statement_prefix_iff.1 hprefix).2⟩
  · rintro ⟨field, hfield, hprefix⟩
    exact ⟨i, field, hfield, statement_prefix_iff.2 ⟨rfl, hprefix⟩⟩

theorem tail_under_member (key : Str) (f : Finding) :
    (f.under [.member key]).tail = "." ++ (key ++ f.tail) := by
  have hstep : (Step.member key).text = "." ++ key := rfl
  simp only [Finding.tail, Finding.under, List.singleton_append, List.map_cons,
    Str.join_cons, hstep, Str.append_assoc]

/-- What is found in a member of a statement is told with its name in front. -/
theorem isInside_under_member (key : Str) (f : Finding) :
    (f.under [.member key]).isInside = true ↔
      ∃ field ∈ principalFields, (field : Str).toList <+: key.toList ++ f.tail.toList := by
  have hfield : ∀ field : String,
      ("." ++ field : Str).toList <+: (f.under [.member key]).tail.toList ↔
        (field : Str).toList <+: key.toList ++ f.tail.toList := by
    intro field
    rw [tail_under_member, Str.toList_append, Str.toList_append, Str.toList_append,
      List.prefix_append_right_inj]
  simp only [Finding.isInside, List.any_eq_true, List.isPrefixOf_iff_prefix, hfield]

/-- A finding about a statement itself is told with a colon in front. -/
theorem isInside_nil (problem : Problem) : Finding.isInside ⟨[], problem⟩ = false := by
  have hcolon := (head_tail_iff ⟨[], problem⟩).2 rfl
  rw [Finding.isInside, List.any_eq_false]
  intro field _ hprefix
  obtain ⟨rest, hrest⟩ := List.isPrefixOf_iff_prefix.1 hprefix
  rw [Str.toList_append] at hrest
  rw [← hrest] at hcolon
  exact absurd hcolon (by simp)

/-- Findings none of which is told with a field about principals in front. -/
def Outside (findings : List Finding) : Prop :=
  ∀ f ∈ findings, f.isInside = false

section Outside

variable {findings more : List Finding}

theorem Outside.append (h : Outside findings) (hmore : Outside more) :
    Outside (findings ++ more) :=
  List.forall_mem_append.2 ⟨h, hmore⟩

theorem Outside.filter_not (h : Outside findings) :
    findings.filter (!Finding.isInside ·) = findings :=
  List.filter_eq_self.2 fun f hf => by simp [h f hf]

end Outside

theorem outside_of_place_eq_nil {findings : List Finding} (h : ∀ f ∈ findings, f.place = []) :
    Outside findings := by
  intro f hf
  obtain ⟨place, problem⟩ := f
  obtain rfl : place = [] := h _ hf
  exact isInside_nil problem

theorem outside_findingIf (condition : Bool) (problem : Problem) :
    Outside (findingIf condition [] problem) :=
  outside_of_place_eq_nil (by cases condition <;> simp [findingIf])

section Members

variable {α : Type} {check : List Step → α → List Finding}

theorem check_member (h : Moves check) (key : Str) (a : α) :
    check [.member key] a = (check [] a).map (Finding.under [.member key]) :=
  h [.member key] [] a

/-- What is found in another field of a statement is not told with a field about principals in
front, whatever is in it. -/
theorem outside_member (h : Moves check) {key : String}
    (hkey : ∀ field ∈ principalFields, Diverge field.toList key.toList) (a : α) :
    Outside (check [.member key] a) := by
  intro f hf
  rw [check_member h] at hf
  obtain ⟨f, -, rfl⟩ := List.mem_map.1 hf
  rw [Bool.eq_false_iff, ne_eq, isInside_under_member]
  rintro ⟨field, hfield, hprefix⟩
  exact ((hkey field hfield).coe.append_right f.tail.toList).1 hprefix

/-- What is found in a field about principals is told with the field in front. -/
theorem isInside_of_mem_member (h : Moves check) {key : String} (hkey : key ∈ principalFields)
    {a : α} {f : Finding} (hf : f ∈ check [.member key] a) : f.isInside = true := by
  rw [check_member h] at hf
  obtain ⟨f, -, rfl⟩ := List.mem_map.1 hf
  exact (isInside_under_member key f).2 ⟨key, hkey, List.prefix_append _ _⟩

end Members

/-! ### What is found outside principals -/

theorem outside_sidFindings (members : Members) : Outside (sidFindings [] members) := by
  unfold sidFindings
  split
  · simp [Outside]
  · exact outside_findingIf _ _
  · simp [Outside, isInside_nil]

theorem outside_effectFindings (members : Members) : Outside (effectFindings [] members) := by
  unfold effectFindings
  split
  · simp [Outside, isInside_nil]
  · split
    · simp [Outside, isInside_nil]
    · exact outside_findingIf _ _
  · simp [Outside, isInside_nil]

theorem outside_choiceFindings {check : List Step → Value → List Finding} (h : Moves check)
    (members : Members) (field negated : String)
    (hkey : ∀ key ∈ [field, negated], ∀ other ∈ principalFields,
      Diverge other.toList key.toList) :
    Outside (choiceFindings [] members field negated check) := by
  refine ((outside_findingIf _ _).append (outside_findingIf _ _)).append ?_
  intro f hf
  obtain ⟨key, hmem, hfound⟩ := List.mem_flatMap.1 hf
  split at hfound
  · next v _ => exact outside_member (moves_listFindings h) (hkey key hmem) v f hfound
  · simp at hfound

theorem outside_conditionFieldFindings (members : Members) :
    Outside (conditionFieldFindings [] members) := by
  unfold conditionFieldFindings
  split
  · next v _ => exact outside_member moves_conditionFindings (by decide) v
  · simp [Outside]

theorem outside_unknownFieldFindings (members : Members) :
    Outside (unknownFieldFindings [] members) := by
  intro f hf
  obtain ⟨key, -, hfound⟩ := List.mem_flatMap.1 hf
  exact outside_findingIf _ _ f hfound

/-- **What the request adds about a field about principals** is what is found inside. -/
theorem filter_principalFieldFindings (members : Members) {field : String}
    (hfield : field ∈ principalFields) :
    (principalFieldFindings true [] members field).filter (!Finding.isInside ·) =
      principalFieldFindings false [] members field := by
  unfold principalFieldFindings
  split
  · rfl
  · next v _ =>
      -- the remark on the field is about the statement, and all that follows is about a part of it
      have hinside : (principalFindings ([] ++ [.member field]) v).filter
          (!Finding.isInside ·) = [] :=
        List.filter_eq_nil_iff.2 fun f hf => by
          simp [isInside_of_mem_member moves_principalFindings hfield hf]
      simp only [if_true, List.filter_cons, isInside_nil, Bool.not_false, hinside,
        Bool.false_eq_true, if_false]

/-- **What the request adds about a statement** is what is found inside its principals. -/
theorem filter_statementFindings (v : Value) :
    (statementFindings true [] v).filter (!Finding.isInside ·) =
      statementFindings false [] v := by
  have hobject : Outside [⟨[], .notObject⟩] := outside_of_place_eq_nil (by simp)
  cases v with
  | obj members =>
      have haction := outside_choiceFindings moves_actionFindings members "Action" "NotAction"
        (by decide)
      have hresource := outside_choiceFindings moves_resourceFindings members "Resource"
        "NotResource" (by decide)
      have hprincipal := fun field (hfield : field ∈ principalFields) =>
        filter_principalFieldFindings members hfield
      simp only [statementFindings, List.filter_append,
        (outside_sidFindings members).filter_not, (outside_effectFindings members).filter_not,
        hprincipal "Principal" (by decide), hprincipal "NotPrincipal" (by decide),
        haction.filter_not, hresource.filter_not,
        (outside_conditionFieldFindings members).filter_not,
        (outside_unknownFieldFindings members).filter_not]
  | _ => exact hobject.filter_not

/-! ### What is told -/

/-- What is told about a statement with the request, less what is about principals. -/
theorem filter_toldAt_statementFindings (severity : Severity) (i : Nat) (v : Value) :
    (toldAt severity i (statementFindings true [] v)).filter (¬ IsAboutPrincipal ·) =
      toldAt severity i (statementFindings false [] v) := by
  have hlooks : ∀ f : Finding,
      decide (¬ IsAboutPrincipal (s!"Statement[{i}]" ++ f.tail)) = !f.isInside := by
    intro f
    simp only [isAboutPrincipal_statement]
    cases f.isInside <;> rfl
  have hfilter : ∀ findings, (toldAt severity i findings).filter (¬ IsAboutPrincipal ·) =
      toldAt severity i (findings.filter (!Finding.isInside ·)) :=
    filter_toldAt fun f _ => hlooks f
  rw [hfilter, filter_statementFindings]

section Messages

variable (severity : Severity) {findings : List Finding}

/-- Messages that do not start with a statement are none of those about principals. -/
theorem filter_not_isAboutPrincipal (h : ∀ f ∈ findings,
    ¬ ("Statement[" : Str).toList <+: f.message.toList) :
    (messagesOf severity findings).filter (¬ IsAboutPrincipal ·) =
      messagesOf severity findings := by
  rw [List.filter_eq_self]
  intro message hmessage
  obtain ⟨f, hf, rfl⟩ := List.mem_map.1 hmessage
  exact decide_eq_true (not_isAboutPrincipal (h f (List.mem_of_mem_filter hf)))

theorem filter_not_isAboutPrincipal_of_aboutWhole (h : AboutWhole findings) :
    (messagesOf severity findings).filter (¬ IsAboutPrincipal ·) =
      messagesOf severity findings := by
  refine filter_not_isAboutPrincipal severity fun f hf hprefix => ?_
  obtain ⟨rest, hrest⟩ := hprefix
  have hhead := head_message_of_aboutWhole h hf
  rw [← hrest] at hhead
  exact hhead rfl

/-- A fault of the whole document, none of whose messages starts with a statement. -/
theorem filter_not_isAboutPrincipal_fault {problem : Problem}
    (h : ¬ ("Statement[" : Str).toList <+: problem.text.toList) :
    (messagesOf severity [⟨[], problem⟩]).filter (¬ IsAboutPrincipal ·) =
      messagesOf severity [⟨[], problem⟩] :=
  filter_not_isAboutPrincipal severity fun f hf => by rwa [List.mem_singleton.1 hf]

/-- What is told about the statements of a policy with the request, less what is about
principals. -/
theorem filter_statementsFindings (members : Members) :
    (messagesOf severity (statementsFindings true members)).filter (¬ IsAboutPrincipal ·) =
      messagesOf severity (statementsFindings false members) := by
  unfold statementsFindings
  split
  · exact filter_not_isAboutPrincipal_fault severity (diverge_ofList (by decide)).coe.1
  · exact filter_not_isAboutPrincipal_fault severity (diverge_ofList (by decide)).coe.1
  · rw [messagesOf_entryFindings, messagesOf_entryFindings, List.filter_flatMap]
    refine List.flatMap_congr fun m _ => ?_
    rw [map_tails, map_tails, filter_toldAt_statementFindings]
  · exact filter_not_isAboutPrincipal_fault severity (diverge_ofList (by decide)).coe.1

/-- **What the request adds about a document** is messages about what principals hold. -/
theorem filter_told (d : Value) :
    (told severity true d).filter (¬ IsAboutPrincipal ·) = told severity false d := by
  have hobject := @filter_not_isAboutPrincipal_fault severity .noPolicy
    (diverge_ofList (by decide)).coe.1
  cases d with
  | obj members =>
      -- around the statements there are messages with words of a user, but not at their start
      have hbefore := filter_not_isAboutPrincipal_of_aboutWhole severity
        (aboutWhole_versionFindings members)
      have hbehind : (toldBehind severity members).filter (¬ IsAboutPrincipal ·) =
          toldBehind severity members :=
        filter_not_isAboutPrincipal_of_aboutWhole severity fun f hf =>
          (List.mem_append.1 hf).elim (aboutWhole_unknownRootFindings members f)
            (aboutWhole_idFindings members f)
      rw [told_obj, told_obj, List.filter_append, List.filter_append, toldBefore, hbefore, hbehind,
        filter_statementsFindings]
  | _ =>
      rw [told_eq, told_eq]
      exact hobject

end Messages

/-- **The request only adds messages about what a principal holds.**  The errors and the warnings
without it are those with it, in order, less the messages that start with a field about principals
of some statement.  So a policy that is accepted with the request is accepted without it. -/
theorem review_filter_isAboutPrincipal (d : Value) :
    (review false d).errors = (review true d).errors.filter (¬ IsAboutPrincipal ·) ∧
      (review false d).warnings = (review true d).warnings.filter (¬ IsAboutPrincipal ·) ∧
      ((review true d).isValid = true → (review false d).isValid = true) := by
  have herrors : (told .error true d).filter (¬ IsAboutPrincipal ·) = told .error false d :=
    filter_told .error d
  have hwarnings : (told .warning true d).filter (¬ IsAboutPrincipal ·) =
      told .warning false d := filter_told .warning d
  refine ⟨herrors.symm, hwarnings.symm, fun hvalid => ?_⟩
  rw [isValid_review_iff_told] at hvalid ⊢
  rw [← herrors, hvalid, List.filter_nil]

/-- A policy with an unknown type of principals, and with a field that looks like a message. -/
def namedPolicy : Value :=
  .obj [("Statement[0].Principal", .null),
    ("Statement", .arr [.obj [("NotPrincipal", .obj [("AWS", .str "*"), ("User", .null)])]])]

/-- What a principal holds is told on request, and a field that looks like that in any case. -/
example :
    ((review true namedPolicy).warnings.filter (IsAboutPrincipal ·),
      (review false namedPolicy).warnings) =
      ([("Statement[0].NotPrincipal.AWS[0]: Using \"*\" grants public access" : Str)],
        [principalNotice 0 "NotPrincipal", unknownRootNotice "Statement[0].Principal"]) := by
  decide +kernel

end BucketAccess.Policy
