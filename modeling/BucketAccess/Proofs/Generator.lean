/-
**What a generator leaves alone.**

A generator changes two things besides the log: saving changes the files, and making a policy takes
a number.  Reviewing changes neither.  The number is taken first, so a policy that is refused has
taken its number like any other.

Main results:

* `BucketAccess.Generator.keeps_review`, `BucketAccess.Generator.keeps_save`,
  `BucketAccess.Generator.keeps_make` — what each of them leaves alone;
* `BucketAccess.Generator.runIn_newSid_eq` — a new id has the next number;
* `BucketAccess.Generator.nextNumber_make` — **making a policy takes one number, whether or not the
  policy is refused**;
* `BucketAccess.Generator.result_make` — **what making a policy gives**;
* `BucketAccess.Generator.sid_make` — the policy has the id with the number that was next;
* `BucketAccess.Generator.files_make`, `BucketAccess.Generator.printed_make` — neither files nor
  lines come of it.
-/

import BucketAccess.Generator
import BucketAccess.Proofs.Work
import Mathlib.Data.Option.Basic

set_option relaxedAutoImplicit false
set_option autoImplicit false

namespace BucketAccess.Generator

open BucketAccess.Decimal (Double)
open BucketAccess.Policy (Draft Order)
open BucketAccess.Work (Keeps)

/-! ### What is left alone -/

section Keeps

variable {γ : Type} {part : Workspace → γ}

theorem keeps_reviewDocument (hlog : ∀ w log, part { w with log := log } = part w) (inside : Bool)
    (document : Json.Value) : Keeps part (reviewDocument inside document) := by
  simp only [reviewDocument]
  cases reviewText document (Policy.review inside document) with
  | none => exact .pure _
  | some text => exact .bind (.record hlog _ _) fun _ => .pure _

theorem keeps_review (hlog : ∀ w log, part { w with log := log } = part w) (g : Generator)
    (document : Json.Value) : Keeps part (g.review document) :=
  keeps_reviewDocument hlog g.inside document

theorem keeps_settle (hfiles : ∀ w files, part { w with files := files } = part w)
    (new final : Files.Path) : Keeps part (Saving.settle new final) := by
  refine .tryCatch (.changeFiles hfiles _) ?_
  intro failure
  exact .bind (.changeFiles hfiles _) fun _ => .throw failure

theorem keeps_save (hlog : ∀ w log, part { w with log := log } = part w)
    (hfiles : ∀ w files, part { w with files := files } = part w) (g : Generator) (tag : String)
    (document : Json.Value) (bucket : Option String) :
    Keeps part (g.save tag document bucket) := by
  have hpublish : ∀ new final bytes, Keeps part (do
      Work.changeFiles (·.write new bytes)
      Saving.settle new final
      return final : Work Files.Path) := by
    intro new final bytes
    exact .bind (.changeFiles hfiles _) fun _ => .bind (keeps_settle hfiles _ _) fun _ => .pure _
  refine .bind ?_ fun path => .bind (.record hlog _ _) fun _ => .pure _
  refine .bind (.alterFiles hfiles _) fun _ => .bind (.askFiles _) fun there => ?_
  cases there with
  | false => exact hpublish _ _ _
  | true => exact .bind (.record hlog _ _) fun _ => hpublish _ _ _

theorem keeps_newSid (hnumber : ∀ w number, part { w with nextNumber := number } = part w)
    (lead : String) (now : Double) : Keeps part (newSid lead now) := by
  unfold newSid
  cases Sid.millis? now with
  | none => exact .throw _
  | some millis => exact .bind (.takeNumber hnumber) fun _ => .pure _

/-- Behind the new id, making a policy leaves a record at most. -/
theorem keeps_ofOrder (hlog : ∀ w log, part { w with log := log } = part w) (limit : Nat)
    (order : Order) (sid : String) : Keeps part (do
      let draft ← Work.ofExcept .draft (Draft.ofOrder limit sid order)
      let count := order.actions.length
      Work.record .info
        s!"Generated {shownEffect order.effect} policy for {order.bucket} with {count} action(s)"
      Work.record .debug s!"Resources: {shownResources draft.resources}"
      return draft : Work Draft) :=
  .bind (.ofExcept _ _) fun _ => .bind (.record hlog _ _) fun _ =>
    .bind (.record hlog _ _) fun _ => .pure _

theorem keeps_make (hlog : ∀ w log, part { w with log := log } = part w)
    (hnumber : ∀ w number, part { w with nextNumber := number } = part w) (g : Generator)
    (limit : Nat) (now : Double) (order : Order) : Keeps part (g.make limit now order) :=
  .bind (keeps_newSid hnumber _ _) fun sid => keeps_ofOrder hlog limit order sid

theorem keeps_makePreset (hlog : ∀ w log, part { w with log := log } = part w)
    (hnumber : ∀ w number, part { w with nextNumber := number } = part w) (g : Generator)
    (limit : Nat) (now : Double) (bucket name : String) (condition : Option String) :
    Keeps part (g.makePreset limit now bucket name condition) := by
  refine .bind ?_ fun p => .bind (.record hlog _ _) fun _ => keeps_make hlog hnumber _ _ _ _
  unfold preset
  cases Preset.find? name with
  | none => exact .throw _
  | some p => exact .pure _

end Keeps

/-! ### Presets -/

/-- The order that a preset stands for. -/
def presetOrder (p : Preset) (bucket : String) (condition : Option String) : Order :=
  ⟨bucket, some p.effect, p.actions.map .named, some p.path, condition⟩

/-- A policy from a preset is made to order; without a preset nothing is done. -/
theorem runIn_makePreset (g : Generator) (limit : Nat) (now : Double) (bucket name : String)
    (condition : Option String) (w : Workspace) :
    (g.makePreset limit now bucket name condition).runIn w =
      match Preset.find? name with
      | none => (.error (.preset name), w)
      | some p =>
          (g.make limit now (presetOrder p bucket condition)).runIn
            { w with log := w.log ++ [⟨.info, s!"Using template {p.name}: {p.description}"⟩] } := by
  unfold makePreset preset
  cases Preset.find? name with
  | none => rw [Work.runIn_bind, Work.runIn_throw]
  | some p =>
      rw [Work.runIn_bind_of_ok (Work.runIn_pure p w),
        Work.runIn_bind_of_ok (Work.runIn_record _ _ _)]
      rfl

/-! ### New ids -/

variable {now : Double} {millis : Int}

/-- A new id has the next number, which is taken. -/
theorem runIn_newSid_eq (hmillis : Sid.millis? now = some millis) (lead : String) (w : Workspace) :
    (newSid lead now).runIn w =
      (.ok (Sid.text lead millis w.nextNumber), { w with nextNumber := w.nextNumber + 1 }) := by
  unfold newSid
  rw [hmillis, Work.runIn_bind_of_ok (Work.runIn_takeNumber w)]
  rfl

/-- **Making a policy takes one number, whether or not the policy is refused.** -/
theorem nextNumber_make (hmillis : Sid.millis? now = some millis) (g : Generator) (limit : Nat)
    (order : Order) (w : Workspace) :
    ((g.make limit now order).runIn w).2.nextNumber = w.nextNumber + 1 := by
  have hrest : ∀ sid, Keeps Workspace.nextNumber _ := keeps_ofOrder (by intros; rfl) limit order
  rw [make, Keeps.behind hrest, runIn_newSid_eq hmillis]

theorem sid_of_ofOrder {limit : Nat} {sid : String} {order : Order} {d : Draft}
    (h : Draft.ofOrder limit sid order = .ok d) : d.sid = sid := by
  unfold Draft.ofOrder at h
  split at h
  · simp at h
  · cases hcondition : Draft.conditionOf limit order.condition with
    | error failure => simp [hcondition, Except.map] at h
    | ok condition =>
        simp only [hcondition, Except.map, Except.ok.injEq] at h
        rw [← h]

/-- **What making a policy gives** depends on the word that ids start with, the number that is next,
the time and the order, and on nothing else. -/
theorem result_make (g : Generator) (limit : Nat) (now : Double) (order : Order) (w : Workspace) :
    ((g.make limit now order).runIn w).1 =
      match Sid.millis? now with
      | none => .error .endlessTime
      | some millis =>
          (Draft.ofOrder limit (Sid.text g.sidLead millis w.nextNumber) order).mapError .draft := by
  cases hmillis : Sid.millis? now with
  | none =>
      rw [make, newSid, hmillis, Work.runIn_bind, Work.runIn_throw]
  | some millis =>
      rw [make, Work.runIn_bind_of_ok (runIn_newSid_eq hmillis g.sidLead w), Work.runIn_bind]
      simp only
      cases Draft.ofOrder limit (Sid.text g.sidLead millis w.nextNumber) order <;> rfl

theorem exists_ofOrder_of_make {g : Generator} {limit : Nat} {order : Order} {w w' : Workspace}
    {d : Draft} (h : (g.make limit now order).runIn w = (.ok d, w')) :
    ∃ millis, Sid.millis? now = some millis ∧
      Draft.ofOrder limit (Sid.text g.sidLead millis w.nextNumber) order = .ok d := by
  have hresult := result_make g limit now order w
  rw [h] at hresult
  cases hmillis : Sid.millis? now with
  | none => simp [hmillis] at hresult
  | some millis =>
      refine ⟨millis, rfl, ?_⟩
      simp only [hmillis] at hresult
      cases hmade : Draft.ofOrder limit (Sid.text g.sidLead millis w.nextNumber) order with
      | error failure => simp [hmade, Except.mapError] at hresult
      | ok made => simpa [hmade, Except.mapError, eq_comm] using hresult

/-- A policy that is made has the id with the number that was next. -/
theorem sid_make (hmillis : Sid.millis? now = some millis) {g : Generator} {limit : Nat}
    {order : Order} {w w' : Workspace} {d : Draft}
    (h : (g.make limit now order).runIn w = (.ok d, w')) :
    d.sid = Sid.text g.sidLead millis w.nextNumber := by
  obtain ⟨millis', hmillis', hofOrder⟩ := exists_ofOrder_of_make h
  obtain rfl : millis = millis' := Option.some.inj (hmillis.symm.trans hmillis')
  exact sid_of_ofOrder hofOrder

/-! ### Files and lines -/

/-- Making a policy leaves the files alone. -/
theorem files_make (g : Generator) (limit : Nat) (now : Double) (order : Order) (w : Workspace) :
    ((g.make limit now order).runIn w).2.files = w.files := by
  have hkeeps : Keeps Workspace.files (g.make limit now order) :=
    keeps_make (by intros; rfl) (by intros; rfl) g limit now order
  exact hkeeps w

/-- Making a policy prints nothing. -/
theorem printed_make (g : Generator) (limit : Nat) (now : Double) (order : Order) (w : Workspace) :
    ((g.make limit now order).runIn w).2.printed = w.printed := by
  have hkeeps : Keeps Workspace.printed (g.make limit now order) :=
    keeps_make (by intros; rfl) (by intros; rfl) g limit now order
  exact hkeeps w

end BucketAccess.Generator
