/-
**Verdicts.**

A check tells all it has found at once: the errors, which stand in the way of acceptance, and the
warnings, which are told for information only.  What was checked is valid when there are no errors.

Main definitions:

* `BucketAccess.Severity` — whether a finding stands in the way of acceptance;
* `BucketAccess.Verdict` — the errors and warnings of a check;
* `BucketAccess.Verdict.ofFindings` — findings sorted by severity, each list in order;
* `BucketAccess.Verdict.map` — the same verdict, told differently.

Main results:

* `BucketAccess.Verdict.messages_append`, `BucketAccess.Verdict.messages_flatMap` — findings are
  told one after the other;
* `BucketAccess.Verdict.isValid_ofFindings_iff` — valid means that no finding is an error.
-/

set_option relaxedAutoImplicit false
set_option autoImplicit false

namespace BucketAccess

/-- Whether a finding stands in the way of acceptance. -/
inductive Severity where
  | error
  | warning
  deriving DecidableEq

/-- The errors and warnings of a check. -/
structure Verdict (Message : Type) where
  /-- What stands in the way of acceptance. -/
  errors : List Message
  /-- What is told for information only. -/
  warnings : List Message
  deriving DecidableEq

namespace Verdict

section

variable {Message Other : Type}

/-- What was checked is valid when there are no errors. -/
def isValid (v : Verdict Message) : Bool :=
  v.errors.isEmpty

/-- The wordings of the findings of one severity, in order. -/
def messages {α : Type} (severity : α → Severity) (message : α → Message) (s : Severity)
    (findings : List α) : List Message :=
  (findings.filter fun f => severity f = s).map message

/-- The verdict of a list of findings. -/
def ofFindings {α : Type} (severity : α → Severity) (message : α → Message) (findings : List α) :
    Verdict Message :=
  ⟨messages severity message .error findings, messages severity message .warning findings⟩

/-- The verdict with each message told differently. -/
def map (f : Message → Other) (v : Verdict Message) : Verdict Other :=
  ⟨v.errors.map f, v.warnings.map f⟩

section Messages

variable {α : Type} {severity : α → Severity} {message : α → Message} (s : Severity)

@[simp] theorem messages_append (findings more : List α) :
    messages severity message s (findings ++ more) =
      messages severity message s findings ++ messages severity message s more := by
  simp [messages]

theorem messages_flatMap {β : Type} (xs : List β) (check : β → List α) :
    messages severity message s (xs.flatMap check) =
      xs.flatMap fun x => messages severity message s (check x) := by
  induction xs with
  | nil => rfl
  | cons x rest ih => rw [List.flatMap_cons, List.flatMap_cons, messages_append, ih]

end Messages

/-- Valid means that no finding is an error. -/
theorem isValid_ofFindings_iff {α : Type} {severity : α → Severity} {message : α → Message}
    {findings : List α} :
    (ofFindings severity message findings).isValid = true ↔
      ∀ f ∈ findings, severity f = .warning := by
  have hcases : ∀ s : Severity, s ≠ .error ↔ s = .warning := by
    intro s
    cases s <;> simp
  simp [isValid, ofFindings, messages, List.isEmpty_iff, hcases]

end

end Verdict

end BucketAccess
