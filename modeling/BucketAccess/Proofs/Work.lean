/-
**What work does, step by step.**

Work is put together from a few steps, and each of them is described here once: what it gives and
what it leaves behind.  Work that is done in two parts succeeds when both parts do, so a run that
has succeeded can be taken apart from the front.  Most work changes only some of the workspace, and
what it leaves alone is left alone whether or not it succeeds.

Main definitions:

* `BucketAccess.Work.Keeps` — a part of the workspace that is left as it was.

Main results:

* `BucketAccess.Work.runIn_bind_ok_iff` — **taking apart work that has succeeded**;
* `BucketAccess.Work.runIn_record`, `BucketAccess.Work.runIn_takeNumber` — the steps that cannot
  fail;
* `BucketAccess.Work.runIn_print` — printing, which halves of characters stand in the way of;
* `BucketAccess.Work.runIn_changeFiles_ok_iff`, `BucketAccess.Work.runIn_askFiles_ok_iff` — the
  steps on files;
* `BucketAccess.Work.Keeps.bind` — **what both parts of some work leave alone**.
-/

import BucketAccess.Workspace

set_option relaxedAutoImplicit false
set_option autoImplicit false

namespace BucketAccess.Work

variable {α β : Type}

/-! ### One part after the other -/

@[simp] theorem runIn_pure (a : α) (w : Workspace) : (pure a : Work α).runIn w = (.ok a, w) := rfl

@[simp] theorem runIn_throw (failure : Failure) (w : Workspace) :
    (throw failure : Work α).runIn w = (.error failure, w) := rfl

/-- If the first part fails, the second one is not begun. -/
theorem runIn_bind (x : Work α) (f : α → Work β) (w : Workspace) :
    (x >>= f).runIn w =
      match x.runIn w with
      | (.ok a, w₁) => (f a).runIn w₁
      | (.error failure, w₁) => (.error failure, w₁) := by
  have hrun : (x >>= f).runIn w = (ExceptT.bindCont f (x.runIn w).1).run (x.runIn w).2 := rfl
  rw [hrun]
  rcases x.runIn w with ⟨failure | a, w₁⟩ <;> rfl

/-- **Taking apart work that has succeeded.** -/
theorem runIn_bind_ok_iff {x : Work α} {f : α → Work β} {w w' : Workspace} {b : β} :
    (x >>= f).runIn w = (.ok b, w') ↔
      ∃ a w₁, x.runIn w = (.ok a, w₁) ∧ (f a).runIn w₁ = (.ok b, w') := by
  rw [runIn_bind]
  rcases x.runIn w with ⟨failure | a, w₁⟩
  · simp
  · constructor
    · intro h
      exact ⟨a, w₁, rfl, h⟩
    · rintro ⟨_, _, heq, h⟩
      obtain ⟨ha, rfl⟩ := Prod.mk.inj heq
      cases ha
      exact h

/-- The first part has succeeded, and the second one goes on from what it has left. -/
theorem runIn_bind_of_ok {x : Work α} {f : α → Work β} {w w₁ : Workspace} {a : α}
    (h : x.runIn w = (.ok a, w₁)) : (x >>= f).runIn w = (f a).runIn w₁ := by
  rw [runIn_bind, h]

/-- A result that is only put differently leaves nothing behind. -/
theorem snd_runIn_bind_pure (x : Work α) (f : α → β) (w : Workspace) :
    ((x >>= fun a => pure (f a)).runIn w).2 = (x.runIn w).2 := by
  rw [runIn_bind]
  rcases x.runIn w with ⟨failure | a, w₁⟩ <;> rfl

/-- Work that has failed is taken up where it stopped. -/
theorem runIn_tryCatch (x : Work α) (handle : Failure → Work α) (w : Workspace) :
    (tryCatch x handle).runIn w =
      match x.runIn w with
      | (.ok a, w₁) => (.ok a, w₁)
      | (.error failure, w₁) => (handle failure).runIn w₁ := by
  have hx : x.runIn w = StateT.run x w := rfl
  have hrun : (tryCatch x handle).runIn w = StateT.run (tryCatch x handle : Work α) w := rfl
  rw [hx, hrun]
  simp only [tryCatch, tryCatchThe, MonadExceptOf.tryCatch, ExceptT.tryCatch, ExceptT.mk,
    StateT.run_bind]
  rcases StateT.run x w with ⟨failure | a, w₁⟩ <;> rfl

/-! ### The steps -/

@[simp] theorem runIn_ofExcept_ok {ε : Type} (failure : ε → Failure) (a : α) (w : Workspace) :
    (ofExcept failure (.ok a)).runIn w = (.ok a, w) := rfl

@[simp] theorem runIn_ofExcept_error {ε : Type} (failure : ε → Failure) (e : ε) (w : Workspace) :
    (ofExcept failure (.error e) : Work α).runIn w = (.error (failure e), w) := rfl

theorem runIn_ofExcept_ok_iff {ε : Type} {failure : ε → Failure} {x : Except ε α} {a : α}
    {w w' : Workspace} : (ofExcept failure x).runIn w = (.ok a, w') ↔ x = .ok a ∧ w' = w := by
  cases x with
  | error e => simp
  | ok b =>
      simp only [runIn_ofExcept_ok, Prod.mk.injEq, Except.ok.injEq]
      exact and_congr_right fun _ => eq_comm

@[simp] theorem runIn_record (level : Log.Level) (text : String) (w : Workspace) :
    (record level text).runIn w = (.ok (), { w with log := w.log ++ [⟨level, text⟩] }) := rfl

/-- A line with halves of characters in it is not printed at all. -/
theorem runIn_print (line : Text.Str) (w : Workspace) :
    (print line).runIn w =
      match line.text with
      | .ok text => (.ok (), { w with printed := w.printed ++ [text] })
      | .error halves => (.error (.unprintable halves), w) := by
  rw [print, runIn_bind]
  cases line.text <;> rfl

@[simp] theorem runIn_print_coe (line : String) (w : Workspace) :
    (print line).runIn w = (.ok (), { w with printed := w.printed ++ [line] }) := by
  rw [runIn_print, Text.Str.text_coe]

@[simp] theorem runIn_takeNumber (w : Workspace) :
    takeNumber.runIn w = (.ok w.nextNumber, { w with nextNumber := w.nextNumber + 1 }) := rfl

theorem runIn_changeFiles (change : Files.Tree → Except Files.Fault Files.Tree) (w : Workspace) :
    (changeFiles change).runIn w =
      match change w.files with
      | .ok files => (.ok (), { w with files := files })
      | .error fault => (.error (.file fault), w) := by
  have hrun : (changeFiles change).runIn w =
      (ofExcept .file (change w.files) >>= fun files =>
        (modify fun w => { w with files := files } : Work Unit)).runIn w := rfl
  rw [hrun, runIn_bind]
  cases change w.files <;> rfl

theorem runIn_changeFiles_ok_iff {change : Files.Tree → Except Files.Fault Files.Tree}
    {w w' : Workspace} {u : Unit} : (changeFiles change).runIn w = (.ok u, w') ↔
      ∃ files, change w.files = .ok files ∧ w' = { w with files := files } := by
  rw [runIn_changeFiles]
  cases change w.files with
  | error fault => simp
  | ok files => simp [eq_comm]

theorem runIn_alterFiles (change : Files.Tree → Files.Tree × Option Files.Fault) (w : Workspace) :
    (alterFiles change).runIn w =
      match change w.files with
      | (files, none) => (.ok (), { w with files := files })
      | (files, some fault) => (.error (.file fault), { w with files := files }) := by
  -- the change is made once, so only what it gives here matters
  have hrun : (alterFiles change).runIn w = (alterFiles fun _ => change w.files).runIn w := rfl
  rw [hrun]
  rcases change w.files with ⟨files, _ | fault⟩ <;> rfl

theorem runIn_alterFiles_ok_iff {change : Files.Tree → Files.Tree × Option Files.Fault}
    {w w' : Workspace} {u : Unit} : (alterFiles change).runIn w = (.ok u, w') ↔
      ∃ files, change w.files = (files, none) ∧ w' = { w with files := files } := by
  rw [runIn_alterFiles]
  rcases change w.files with ⟨files, _ | fault⟩
  · simp [eq_comm]
  · simp

theorem runIn_askFiles (question : Files.Tree → Except Files.Fault α) (w : Workspace) :
    (askFiles question).runIn w = (ofExcept .file (question w.files)).runIn w := rfl

theorem runIn_askFiles_ok_iff {question : Files.Tree → Except Files.Fault α} {a : α}
    {w w' : Workspace} : (askFiles question).runIn w = (.ok a, w') ↔
      question w.files = .ok a ∧ w' = w := by
  rw [runIn_askFiles, runIn_ofExcept_ok_iff]

/-! ### What is left alone -/

/-- Some work leaves a part of the workspace as it was, whether or not it succeeds. -/
def Keeps {γ : Type} (part : Workspace → γ) (work : Work α) : Prop :=
  ∀ w, part (work.runIn w).2 = part w

namespace Keeps

variable {γ : Type} {part : Workspace → γ}

theorem pure (a : α) : Keeps part (Pure.pure a : Work α) := by
  intro w
  rw [runIn_pure]

theorem throw (failure : Failure) : Keeps part (MonadExcept.throw failure : Work α) := by
  intro w
  rw [runIn_throw]

theorem ofExcept {ε : Type} (failure : ε → Failure) (x : Except ε α) :
    Keeps part (Work.ofExcept failure x) := by
  intro w
  cases x with
  | error e => rw [runIn_ofExcept_error]
  | ok a => rw [runIn_ofExcept_ok]

theorem askFiles (question : Files.Tree → Except Files.Fault α) :
    Keeps part (Work.askFiles question) := by
  intro w
  rw [runIn_askFiles]
  exact ofExcept _ _ w

/-- A record changes nothing but the log. -/
theorem record (h : ∀ w log, part { w with log := log } = part w) (level : Log.Level)
    (text : String) : Keeps part (Work.record level text) := by
  intro w
  rw [runIn_record, h]

/-- A number that is taken changes nothing but the next number. -/
theorem takeNumber (h : ∀ w number, part { w with nextNumber := number } = part w) :
    Keeps part Work.takeNumber := by
  intro w
  rw [runIn_takeNumber, h]

theorem changeFiles (h : ∀ w files, part { w with files := files } = part w)
    (change : Files.Tree → Except Files.Fault Files.Tree) :
    Keeps part (Work.changeFiles change) := by
  intro w
  rw [runIn_changeFiles]
  cases change w.files with
  | error fault => rfl
  | ok files => exact h w files

theorem alterFiles (h : ∀ w files, part { w with files := files } = part w)
    (change : Files.Tree → Files.Tree × Option Files.Fault) :
    Keeps part (Work.alterFiles change) := by
  intro w
  rw [runIn_alterFiles]
  rcases change w.files with ⟨files, _ | fault⟩
  · exact h w files
  · exact h w files

/-- What the second part of some work leaves alone is as the first part has left it. -/
theorem behind {x : Work α} {f : α → Work β} (hf : ∀ a, Keeps part (f a)) (w : Workspace) :
    part ((x >>= f).runIn w).2 = part (x.runIn w).2 := by
  rw [runIn_bind]
  rcases x.runIn w with ⟨failure | a, w₁⟩
  · rfl
  · exact hf a w₁

/-- **What both parts of some work leave alone** is left alone by all of it. -/
theorem bind {x : Work α} {f : α → Work β} (hx : Keeps part x) (hf : ∀ a, Keeps part (f a)) :
    Keeps part (x >>= f) := by
  intro w
  rw [behind hf, hx w]

theorem tryCatch {x : Work α} {handle : Failure → Work α} (hx : Keeps part x)
    (hhandle : ∀ failure, Keeps part (handle failure)) :
    Keeps part (MonadExcept.tryCatch x handle) := by
  intro w
  have hfirst := hx w
  rw [runIn_tryCatch]
  revert hfirst
  rcases x.runIn w with ⟨failure | a, w₁⟩
  · exact (hhandle failure w₁).trans
  · exact id

end Keeps

end BucketAccess.Work
