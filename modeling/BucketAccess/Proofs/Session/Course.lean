/-
**The course of a session.**

What is asked in a session is answered one thing after the other, and every call meets the session
as the calls before it have left it.  The course of a run keeps each call together with the session
that it met, so that what happens at one call can be set against what happens at a later one.

Main definitions:

* `BucketAccess.Session.Event` — a call and the session that it met, with `Event.result` and
  `Event.after`;
* `BucketAccess.Session.course` — **the events of a run**;
* `BucketAccess.Session.last` — the session after a run.

Main results:

* `BucketAccess.Session.run_eq` — a run gives the results of its course and the session after it;
* `BucketAccess.Session.course_append` — the course of a run in two parts.
-/

import BucketAccess.Proofs.Work
import BucketAccess.Session

set_option relaxedAutoImplicit false
set_option autoImplicit false

namespace BucketAccess.Session

/-! ### Events -/

/-- A call in the course of a run. -/
structure Event where
  /-- The session that the call met. -/
  before : Session
  /-- The call. -/
  call : Call

namespace Event

/-- What the call has given: an answer or a failure. -/
def result (e : Event) : Except Failure Reply :=
  (e.before.step e.call).1

/-- The session that the call has left. -/
def after (e : Event) : Session :=
  (e.before.step e.call).2

theorem workspace_after (e : Event) :
    e.after.workspace = ((answer e.before.current e.call).runIn e.before.workspace).2 := rfl

theorem result_eq (e : Event) :
    e.result = ((answer e.before.current e.call).runIn e.before.workspace).1 := rfl

end Event

/-- Reading the document that a call is about changes nothing. -/
theorem keeps_documentOf {α : Type} {part : Workspace → α} (limit : Nat) (current : Json.Value)
    (text : Option String) : Work.Keeps part (documentOf limit current text) := by
  cases text with
  | none => exact .pure _
  | some text => exact .ofExcept _ _

/-! ### Runs -/

/-- **The events of a run**, the first one first. -/
def course (s : Session) : List Call → List Event
  | [] => []
  | call :: rest => ⟨s, call⟩ :: (Event.mk s call).after.course rest

/-- The session after a run. -/
def last (s : Session) (calls : List Call) : Session :=
  (s.run calls).2

@[simp] theorem last_nil (s : Session) : s.last [] = s := rfl

@[simp] theorem last_cons (s : Session) (call : Call) (rest : List Call) :
    s.last (call :: rest) = (Event.mk s call).after.last rest := rfl

/-- A run gives the results of its course. -/
theorem run_eq (s : Session) (calls : List Call) :
    s.run calls = ((s.course calls).map Event.result, s.last calls) := by
  induction calls generalizing s with
  | nil => rfl
  | cons call rest ih =>
      have hrest := congrArg Prod.fst (ih (Event.mk s call).after)
      exact Prod.ext (congrArg ((Event.mk s call).result :: ·) hrest) rfl

/-- The course of a run in two parts. -/
theorem course_append (s : Session) (first second : List Call) :
    s.course (first ++ second) = s.course first ++ (s.last first).course second := by
  induction first generalizing s with
  | nil => rfl
  | cons call rest ih => exact congrArg (Event.mk s call :: ·) (ih _)

theorem call_mem_of_mem_course {s : Session} {calls : List Call} {e : Event}
    (h : e ∈ s.course calls) : e.call ∈ calls := by
  induction calls generalizing s with
  | nil => simp [course] at h
  | cons call rest ih =>
      rcases List.mem_cons.1 h with rfl | h
      · exact List.mem_cons_self
      · exact List.mem_cons_of_mem _ (ih h)

end BucketAccess.Session
