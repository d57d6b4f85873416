/-
**Statement by statement.**

The statements of a policy are judged one by one.  What is told about a policy is what is told about
it as a whole before its statements are looked at, then what is told about each statement, in order,
and then the rest about the policy as a whole.  Each statement is told about as it would be if it
were the only one; just its position in the messages is its own.  So no statement hides what is the
matter with another, and a policy is accepted when it is with each of its statements alone.

Main definitions:

* `BucketAccess.Policy.withStatements` — a policy with other statements;
* `BucketAccess.Policy.told` — what is told about a document, errors or warnings;
* `BucketAccess.Policy.toldBefore`, `BucketAccess.Policy.toldBehind` — what is told about a policy
  as a whole, before its statements and behind them;
* `BucketAccess.Policy.toldOfOnly` — what is told about a statement that is the only one;
* `BucketAccess.Policy.renumbered` — a message about the first statement, for another one.

Main results:

* `BucketAccess.Policy.told_obj_eq` — **what is told about a policy**, part by part;
* `BucketAccess.Policy.review_statement_by_statement` — **each statement is judged as if it were the
  only one**.
-/

import BucketAccess.Proofs.Policy.Places
import BucketAccess.Proofs.Text.Fields

set_option relaxedAutoImplicit false
set_option autoImplicit false

namespace BucketAccess.Policy

open BucketAccess.Json BucketAccess.Text

/-! ### What is told -/

/-- The messages of findings of one severity, in order. -/
def messagesOf (severity : Severity) (findings : List Finding) : List Str :=
  Verdict.messages Finding.severity Finding.message severity findings

/-- What is told about a document, errors or warnings. -/
def told (severity : Severity) (inside : Bool) (document : Value) : List Str :=
  match severity with
  | .error => (review inside document).errors
  | .warning => (review inside document).warnings

theorem told_eq (severity : Severity) (inside : Bool) (document : Value) :
    told severity inside document = messagesOf severity (findings inside document) := by
  cases severity <;> rfl

theorem isValid_review_iff_told (inside : Bool) (document : Value) :
    (review inside document).isValid = true ↔ told .error inside document = [] := by
  simp [Verdict.isValid, told]

/-- What is told about a policy as a whole, before its statements are looked at. -/
def toldBefore (severity : Severity) (members : Members) : List Str :=
  messagesOf severity (versionFindings members)

/-- What is told about a policy as a whole, behind its statements. -/
def toldBehind (severity : Severity) (members : Members) : List Str :=
  messagesOf severity (unknownRootFindings members ++ idFindings members)

/-! ### Other statements -/

/-- A policy with other statements. -/
def withStatements (members : Members) (items : List Value) : Value :=
  .obj (Members.put "Statement" (.arr items) members)

section Put

variable {members : Members}

/-- Other members do not change. -/
theorem present?_put_of_ne {key k : Str} (h : k ≠ key) (v : Value) :
    present? (Members.put key v members) k = present? members k := by
  rw [present?, present?, Members.lookup_put, if_neg h]

theorem toldBefore_put (severity : Severity) (v : Value) :
    toldBefore severity (Members.put "Statement" v members) = toldBefore severity members := by
  simp only [toldBefore, versionFindings,
    present?_put_of_ne (by decide : ("Version" : Str) ≠ "Statement")]

theorem toldBehind_put (severity : Severity) (v : Value)
    (h : ("Statement" : Str) ∈ Members.keys members) :
    toldBehind severity (Members.put "Statement" v members) = toldBehind severity members := by
  have hkeys : Members.keys (Members.put "Statement" v members) = Members.keys members := by
    rw [Members.keys_put, if_pos h]
  simp only [toldBehind, unknownRootFindings, hkeys, idFindings,
    present?_put_of_ne (by decide : ("Id" : Str) ≠ "Statement")]

end Put

/-! ### Statements -/

/-- What is told about a statement, behind its position. -/
def tails (severity : Severity) (inside : Bool) (v : Value) : List Str :=
  Verdict.messages Finding.severity Finding.tail severity (statementFindings inside [] v)

theorem messagesOf_statement (severity : Severity) (inside : Bool) (v : Value) (i : Nat) :
    messagesOf severity ((statementFindings inside [] v).map (Finding.under (statementAt i))) =
      (tails severity inside v).map fun tail : Str => s!"Statement[{i}]" ++ tail := by
  simp only [messagesOf, tails, Verdict.messages, List.filter_map, List.map_map]
  exact List.map_congr_left fun f _ => message_under_statementAt i f

/-- What is found in the statements of a policy that has some. -/
theorem statementsFindings_of_ne_nil (inside : Bool) {members : Members} {items : List Value}
    (h : List.lookup ("Statement" : Str) members = some (.arr items)) (hne : items ≠ []) :
    statementsFindings inside members =
      entryFindings [.member "Statement"] (statementFindings inside) items := by
  have hpresent : present? members "Statement" = some (.arr items) := by
    simp [present?, h, Option.filter_some, isNull]
  cases items with
  | nil => exact absurd rfl hne
  | cons v rest => simp [statementsFindings, hpresent]

/-- What is told about a list of statements, statement by statement. -/
theorem messagesOf_entryFindings (severity : Severity) (inside : Bool) (items : List Value) :
    messagesOf severity (entryFindings [.member "Statement"] (statementFindings inside) items) =
      items.zipIdx.flatMap fun m =>
        (tails severity inside m.1).map fun tail : Str => s!"Statement[{m.2}]" ++ tail := by
  rw [entryFindings_statements, messagesOf, Verdict.messages_flatMap]
  exact List.flatMap_congr fun m _ => messagesOf_statement severity inside m.1 m.2

theorem told_obj (severity : Severity) (inside : Bool) (members : Members) :
    told severity inside (.obj members) = toldBefore severity members ++
      messagesOf severity (statementsFindings inside members) ++ toldBehind severity members := by
  simp only [told_eq, findings, messagesOf, Verdict.messages_append, toldBefore, toldBehind,
    List.append_assoc]

/-- **What is told about a policy**: first the whole, then each statement, then the rest about the
whole. -/
theorem told_obj_eq (severity : Severity) (inside : Bool) {members : Members} {items : List Value}
    (h : List.lookup ("Statement" : Str) members = some (.arr items)) (hne : items ≠ []) :
    told severity inside (.obj members) = toldBefore severity members ++
      (items.zipIdx.flatMap fun m =>
        (tails severity inside m.1).map fun tail : Str => s!"Statement[{m.2}]" ++ tail) ++
      toldBehind severity members := by
  rw [told_obj, statementsFindings_of_ne_nil inside h hne, messagesOf_entryFindings]

/-! ### A statement alone -/

/-- Whether a message is about the first statement. -/
def isAboutFirst (message : Str) : Bool :=
  (message.dropLead? "Statement[0]").isSome

/-- What is told about a statement that is the only one of a policy. -/
def toldOfOnly (severity : Severity) (inside : Bool) (members : Members) (v : Value) :
    List Str :=
  (told severity inside (withStatements members [v])).filter isAboutFirst

/-- A message about the first statement, made one about the statement at another position. -/
def renumbered (i : Nat) (message : Str) : Str :=
  match message.dropLead? "Statement[0]" with
  | some rest => s!"Statement[{i}]" ++ rest
  | none => message

theorem isAboutFirst_append (tail : Str) : isAboutFirst ("Statement[0]" ++ tail) = true := by
  rw [isAboutFirst, Str.dropLead?_append, Option.isSome_some]

theorem renumbered_append (i : Nat) (tail : Str) :
    renumbered i ("Statement[0]" ++ tail) = s!"Statement[{i}]" ++ tail := by
  simp only [renumbered, Str.dropLead?_append]

/-- A message that starts with another letter is not about the first statement. -/
theorem isAboutFirst_eq_false {message : Str} (h : message.toList.head? ≠ some ('S' : Point)) :
    isAboutFirst message = false := by
  rw [← Bool.not_eq_true, isAboutFirst, Option.isSome_iff_exists]
  rintro ⟨rest, hrest⟩
  rw [Str.dropLead?_eq_some_iff.1 hrest] at h
  exact h rfl

theorem filter_messagesOf_of_aboutWhole (severity : Severity) {findings : List Finding}
    (h : AboutWhole findings) : (messagesOf severity findings).filter isAboutFirst = [] := by
  rw [List.filter_eq_nil_iff]
  intro message hmessage
  obtain ⟨f, hf, rfl⟩ := List.mem_map.1 hmessage
  simp [isAboutFirst_eq_false (head_message_of_aboutWhole h (List.mem_of_mem_filter hf))]

/-- What is told about a policy with one statement. -/
theorem told_withStatements_singleton (severity : Severity) (inside : Bool) {members : Members}
    (h : ("Statement" : Str) ∈ Members.keys members) (v : Value) :
    told severity inside (withStatements members [v]) = toldBefore severity members ++
      (tails severity inside v).map (fun tail : Str => "Statement[0]" ++ tail) ++
        toldBehind severity members := by
  have hlookup : List.lookup ("Statement" : Str) (Members.put "Statement" (.arr [v]) members) =
      some (.arr [v]) := by
    rw [Members.lookup_put, if_pos rfl]
  have hzero : s!"Statement[{0}]" = "Statement[0]" := by decide
  rw [withStatements, told_obj_eq severity inside hlookup (by simp), toldBefore_put,
    toldBehind_put severity _ h]
  simp only [List.zipIdx_singleton, List.flatMap_cons, List.flatMap_nil, List.append_nil, hzero]

theorem toldOfOnly_eq (severity : Severity) (inside : Bool) {members : Members}
    (h : ("Statement" : Str) ∈ Members.keys members) (v : Value) :
    toldOfOnly severity inside members v =
      (tails severity inside v).map fun tail : Str => "Statement[0]" ++ tail := by
  have hbefore : (toldBefore severity members).filter isAboutFirst = [] :=
    filter_messagesOf_of_aboutWhole severity (aboutWhole_versionFindings members)
  have hbehind : (toldBehind severity members).filter isAboutFirst = [] := by
    refine filter_messagesOf_of_aboutWhole severity fun f hf => ?_
    exact (List.mem_append.1 hf).elim (aboutWhole_unknownRootFindings members f)
      (aboutWhole_idFindings members f)
  have hown : ((tails severity inside v).map fun tail : Str => "Statement[0]" ++ tail).filter
      isAboutFirst =
      (tails severity inside v).map fun tail : Str => "Statement[0]" ++ tail := by
    rw [List.filter_eq_self]
    intro message hmessage
    obtain ⟨tail, -, rfl⟩ := List.mem_map.1 hmessage
    exact isAboutFirst_append tail
  rw [toldOfOnly, told_withStatements_singleton severity inside h]
  simp only [List.filter_append, hbefore, hbehind, hown, List.nil_append, List.append_nil]

/-! ### Statement by statement -/

/-- A key that is found is one of the names. -/
theorem mem_keys_of_lookup {members : Members} {key : Str} {v : Value}
    (h : List.lookup key members = some v) : key ∈ Members.keys members := by
  obtain ⟨before, behind, rfl, -⟩ := List.lookup_eq_some_iff.1 h
  simp [Members.keys]

/-- **Each statement of a policy is judged as if it were the only one.**  The policy is accepted
when it is with each statement alone.  What is told about it with one statement alone is about the
whole or about that statement; and what is told about it with all of them is the same about the
whole, and in between the same about each statement, with its own position. -/
theorem review_statement_by_statement (inside : Bool) {members : Members} {items : List Value}
    (h : List.lookup ("Statement" : Str) members = some (.arr items)) (hne : items ≠ []) :
    ((review inside (.obj members)).isValid = true ↔
        ∀ v ∈ items, (review inside (withStatements members [v])).isValid = true) ∧
      ∀ severity,
        (∀ v, told severity inside (withStatements members [v]) =
          toldBefore severity members ++ toldOfOnly severity inside members v ++
            toldBehind severity members) ∧
        told severity inside (.obj members) = toldBefore severity members ++
          (items.mapIdx fun i v =>
            (toldOfOnly severity inside members v).map (renumbered i)).flatten ++
          toldBehind severity members := by
  have hkey := mem_keys_of_lookup h
  refine ⟨?_, fun severity => ⟨fun v => ?_, ?_⟩⟩
  · have hall : (∀ m ∈ items.zipIdx, tails .error inside m.1 = []) ↔
        ∀ v ∈ items, tails .error inside v = [] := by
      conv => rhs; rw [← List.zipIdx_map_fst 0 items, List.forall_mem_map]
    simp only [isValid_review_iff_told, told_withStatements_singleton .error inside hkey,
      told_obj_eq .error inside h hne, List.append_eq_nil_iff, List.flatMap_eq_nil_iff,
      List.map_eq_nil_iff, hall]
    constructor
    · rintro ⟨⟨hbefore, htails⟩, hbehind⟩ v hv
      exact ⟨⟨hbefore, htails v hv⟩, hbehind⟩
    · intro hsingle
      obtain ⟨v, hv⟩ := List.exists_mem_of_ne_nil items hne
      obtain ⟨⟨hbefore, -⟩, hbehind⟩ := hsingle v hv
      exact ⟨⟨hbefore, fun w hw => (hsingle w hw).1.2⟩, hbehind⟩
  · rw [toldOfOnly_eq severity inside hkey, told_withStatements_singleton severity inside hkey]
  · rw [told_obj_eq severity inside h hne, List.mapIdx_eq_zipIdx_map, ← List.flatMap_def]
    congr 2
    refine List.flatMap_congr fun m _ => ?_
    obtain ⟨v, i⟩ := m
    simp only [toldOfOnly_eq severity inside hkey, List.map_map]
    exact List.map_congr_left fun tail _ => (renumbered_append i tail).symm

/-- The statements of a policy with a statement that lacks all it should have, and a null. -/
def emptyAndNull : List Value := [.obj [], .null]

/-- The members of that policy, of an earlier version and with a field that is unknown. -/
def emptyAndNullMembers : Members :=
  [("Version", .str "2008-10-17"), ("Statement", .arr emptyAndNull), ("Comment", .null)]

/-- Neither of two statements with faults hides what is the matter with the other. -/
theorem review_emptyAndNull :
    List.lookup ("Statement" : Str) emptyAndNullMembers = some (.arr emptyAndNull) ∧
      emptyAndNull ≠ [] ∧
      ((review true (.obj emptyAndNullMembers)).isValid = true ↔ ∀ v ∈ emptyAndNull,
        (review true (withStatements emptyAndNullMembers [v])).isValid = true) ∧
      ∀ severity,
        (∀ v, told severity true (withStatements emptyAndNullMembers [v]) =
          toldBefore severity emptyAndNullMembers ++
            toldOfOnly severity true emptyAndNullMembers v ++
            toldBehind severity emptyAndNullMembers) ∧
        told severity true (.obj emptyAndNullMembers) =
          toldBefore severity emptyAndNullMembers ++
          (emptyAndNull.mapIdx fun i v =>
            (toldOfOnly severity true emptyAndNullMembers v).map (renumbered i)).flatten ++
          toldBehind severity emptyAndNullMembers := by
  have h : List.lookup ("Statement" : Str) emptyAndNullMembers = some (.arr emptyAndNull) := rfl
  have hne : emptyAndNull ≠ [] := by simp [emptyAndNull]
  exact ⟨h, hne, review_statement_by_statement true h hne⟩

end BucketAccess.Policy
