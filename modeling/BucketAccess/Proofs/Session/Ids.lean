/-
**The ids of a session.**

Whoever asks for an id or has a policy made takes a number, and no number is given twice, so two ids
that start with the same word are never the same, whichever way the clock is set in between.  With
different words there is no such safety: the digits at the end of one word can be taken for the
beginning of a time, and the numbers grow until they make up for it.

Main definitions:

* `BucketAccess.Session.Call.lead?` — the word of the id that a call makes;
* `BucketAccess.Session.Event.Makes` — **an id that is made at a call**, whether or not it is shown;
* `BucketAccess.Session.KeepsIdsApart` — what can be relied on in the course of a run.

Main results:

* `BucketAccess.Session.nextNumber_last` — a run takes as many numbers as it makes ids;
* `BucketAccess.Session.keepsIdsApart_of_inEra` — **ids with the same word**;
* `BucketAccess.Session.makes_ne_iff_not_runsInto` — **ids with different words**.
-/

import BucketAccess.Proofs.Generator
import BucketAccess.Proofs.Policy.Acceptance
import BucketAccess.Proofs.Session.Course
import BucketAccess.Proofs.Sid

set_option relaxedAutoImplicit false
set_option autoImplicit false

namespace BucketAccess.Session

open BucketAccess.Json (Value)
open BucketAccess.Policy (sidFindings Step)
open BucketAccess.Work (Keeps)

/-! ### Ids that are made and shown -/

/-- The word of the id that a call makes.  Reviewing and saving make none, and neither does a preset
that does not exist. -/
def Call.lead? (call : Call) : Option String :=
  match call.request with
  | .sid lead => some (lead.getD Sid.defaultLead)
  | .make _ => some call.generator.sidLead
  | .makePreset _ name _ => (Preset.find? name).map fun _ => call.generator.sidLead
  | .review _ => none
  | .save _ _ => none

/-- How many numbers a call takes: one for the id that it makes, if it makes one. -/
def Call.taken (call : Call) : Nat :=
  match call.lead? with
  | some _ => 1
  | none => 0

/-- The id of the only statement of a policy. -/
def statementSid? (document : Value) : Option String :=
  match document with
  | .obj members =>
      match List.lookup ("Statement" : Text.Str) members with
      | some (.arr [.obj statement]) =>
          match List.lookup ("Sid" : Text.Str) statement with
          | some (.str sid) => sid.text.toOption
          | _ => none
      | _ => none
  | _ => none

/-- The id that an answer shows. -/
def Reply.sid? : Reply → Option String
  | .sid text => some text
  | .made document => statementSid? document
  | .verdict _ => none
  | .saved _ => none

/-- **An id that is made at a call**: what the clock and the next number make of its word.  It is
made before anything is refused, so a call that fails has made it, too. -/
def Event.Makes (e : Event) (lead sid : String) : Prop :=
  e.call.lead? = some lead ∧
    ((Generator.newSid lead e.call.now).runIn e.before.workspace).1 = .ok sid

theorem statementSid?_document (d : Policy.Draft) : statementSid? d.document = some d.sid := by
  simp [statementSid?, Policy.Draft.document, Policy.Draft.statement,
    Json.Members.lookup_cons_eq_ite, Except.toOption]

/-! ### One call -/

section Call

variable {e : Event} {lead : String}

/-- The number that is next at a call. -/
def Event.number (e : Event) : Nat :=
  e.before.workspace.nextNumber

/-- An id is made of its word, the time and the next number. -/
theorem Event.exists_makes_iff (hclock : Sid.InEra e.call.now) (hlead : e.call.lead? = some lead) :
    ∃ millis : Nat, Sid.IsWide millis ∧
      ∀ sid, e.Makes lead sid ↔ Sid.text lead millis e.number = sid := by
  obtain ⟨millis, hmillis, hwide⟩ := hclock
  refine ⟨millis, hwide, ?_⟩
  intro sid
  unfold Event.Makes Event.number
  rw [Generator.runIn_newSid_eq hmillis]
  simp [hlead]

/-- Two calls that make the same id spell it in two ways. -/
theorem Event.exists_text_eq_of_makes {e' : Event} {lead' sid : String}
    (hclock : Sid.InEra e.call.now) (hclock' : Sid.InEra e'.call.now) (hmade : e.Makes lead sid)
    (hmade' : e'.Makes lead' sid) : ∃ millis millis', Sid.IsWide millis ∧ Sid.IsWide millis' ∧
      Sid.text lead millis e.number = Sid.text lead' millis' e'.number := by
  obtain ⟨millis, hwide, hmakes⟩ := exists_makes_iff hclock hmade.1
  obtain ⟨millis', hwide', hmakes'⟩ := exists_makes_iff hclock' hmade'.1
  exact ⟨millis, millis', hwide, hwide', ((hmakes sid).1 hmade).trans ((hmakes' sid).1 hmade').symm⟩

/-- A call that makes an id takes one number, and every other call takes none. -/
theorem Event.nextNumber_after (hclock : Sid.InEra e.call.now) :
    e.after.workspace.nextNumber = e.number + e.call.taken := by
  obtain ⟨s, call⟩ := e
  obtain ⟨millis, hmillis, -⟩ := hclock
  obtain ⟨g, now, limit, tag, request⟩ := call
  have hmake : ∀ order w, ((g.make limit now order >>= fun d => pure (.made d.document) :
      Work Reply).runIn w).2.nextNumber = w.nextNumber + 1 := by
    intro order w
    rw [Work.snd_runIn_bind_pure]
    exact Generator.nextNumber_make hmillis g limit order w
  rw [Event.workspace_after]
  unfold Event.number
  cases request with
  | sid lead =>
      simp only [answer, Call.taken, Call.lead?]
      rw [Work.snd_runIn_bind_pure, Generator.runIn_newSid_eq hmillis]
  | make order => exact hmake order s.workspace
  | makePreset bucket name condition =>
      simp only [answer, Call.taken, Call.lead?]
      rw [Work.snd_runIn_bind_pure, Generator.runIn_makePreset]
      cases hpreset : Preset.find? name with
      | none => rfl
      | some p => exact Generator.nextNumber_make hmillis g _ _ _
  | review text =>
      have hkeeps : Keeps Workspace.nextNumber
          (answer s.current ⟨g, now, limit, tag, .review text⟩) :=
        .bind (keeps_documentOf _ _ _) fun _ =>
          .bind (Generator.keeps_review (by intros; rfl) _ _) fun _ => .pure _
      exact hkeeps s.workspace
  | save bucket text =>
      have hkeeps : Keeps Workspace.nextNumber
          (answer s.current ⟨g, now, limit, tag, .save bucket text⟩) :=
        .bind (keeps_documentOf _ _ _) fun _ =>
          .bind (Generator.keeps_save (by intros; rfl) (by intros; rfl) _ _ _ _) fun _ => .pure _
      exact hkeeps s.workspace

/-- An answer shows the id that has been made for it. -/
theorem Event.sid?_eq_some_iff (hclock : Sid.InEra e.call.now) {reply : Reply}
    (h : e.result = .ok reply) (sid : String) :
    reply.sid? = some sid ↔ ∃ lead, e.Makes lead sid := by
  obtain ⟨s, call⟩ := e
  obtain ⟨millis, hmillis, -⟩ := id hclock
  obtain ⟨g, now, limit, tag, request⟩ := call
  obtain ⟨w', hanswer⟩ : ∃ w', (answer s.current ⟨g, now, limit, tag, request⟩).runIn s.workspace =
      (.ok reply, w') := ⟨_, Prod.ext h rfl⟩
  have hmakes : ∀ word, Call.lead? ⟨g, now, limit, tag, request⟩ = some word →
      ((∃ lead, Event.Makes ⟨s, ⟨g, now, limit, tag, request⟩⟩ lead sid) ↔
        Sid.text word millis s.workspace.nextNumber = sid) := by
    intro word hword
    simp only [Event.Makes, hword, Generator.runIn_newSid_eq hmillis]
    simp
  have hnone : Call.lead? ⟨g, now, limit, tag, request⟩ = none → reply.sid? = none →
      (reply.sid? = some sid ↔
        ∃ lead, Event.Makes ⟨s, ⟨g, now, limit, tag, request⟩⟩ lead sid) := by
    intro hlead hreply
    simp [hreply, Event.Makes, hlead]
  cases request with
  | sid lead =>
      rw [hmakes _ rfl]
      obtain ⟨text, w₁, hnew, hpure⟩ := Work.runIn_bind_ok_iff.1 hanswer
      rw [Generator.runIn_newSid_eq hmillis] at hnew
      obtain ⟨htext, -⟩ := Prod.mk.inj hnew
      obtain ⟨hreply, -⟩ := Prod.mk.inj hpure
      rw [← Except.ok.inj hreply, ← Except.ok.inj htext, Reply.sid?, Option.some.injEq]
  | make order =>
      rw [hmakes _ rfl]
      obtain ⟨d, w₁, hmade, hpure⟩ := Work.runIn_bind_ok_iff.1 hanswer
      obtain ⟨hreply, -⟩ := Prod.mk.inj hpure
      rw [← Except.ok.inj hreply, Reply.sid?, statementSid?_document,
        Generator.sid_make hmillis hmade, Option.some.injEq]
  | makePreset bucket name condition =>
      obtain ⟨d, w₁, hmade, hpure⟩ := Work.runIn_bind_ok_iff.1 hanswer
      obtain ⟨hreply, -⟩ := Prod.mk.inj hpure
      rw [Generator.runIn_makePreset] at hmade
      cases hpreset : Preset.find? name with
      | none => simp [hpreset] at hmade
      | some p =>
          rw [hpreset] at hmade
          rw [hmakes g.sidLead (by simp [Call.lead?, hpreset]), ← Except.ok.inj hreply, Reply.sid?,
            statementSid?_document, Generator.sid_make hmillis hmade, Option.some.injEq]
  | review text =>
      obtain ⟨document, w₁, -, hreview⟩ := Work.runIn_bind_ok_iff.1 hanswer
      obtain ⟨v, w₂, -, hpure⟩ := Work.runIn_bind_ok_iff.1 hreview
      obtain ⟨hreply, -⟩ := Prod.mk.inj hpure
      exact hnone rfl (by rw [← Except.ok.inj hreply]; rfl)
  | save bucket text =>
      obtain ⟨document, w₁, -, hsave⟩ := Work.runIn_bind_ok_iff.1 hanswer
      obtain ⟨path, w₂, -, hpure⟩ := Work.runIn_bind_ok_iff.1 hsave
      obtain ⟨hreply, -⟩ := Prod.mk.inj hpure
      exact hnone rfl (by rw [← Except.ok.inj hreply]; rfl)

end Call

/-! ### Runs -/

section Run

variable {s : Session} {calls : List Call}

/-- A run takes as many numbers as it makes ids. -/
theorem nextNumber_last (hclock : ∀ call ∈ calls, Sid.InEra call.now) :
    (s.last calls).workspace.nextNumber = s.workspace.nextNumber + (calls.map Call.taken).sum := by
  induction calls generalizing s with
  | nil => rfl
  | cons call rest ih =>
      obtain ⟨hfirst, hrest⟩ := List.forall_mem_cons.1 hclock
      have hstep : (Event.mk s call).after.workspace.nextNumber = _ :=
        Event.nextNumber_after hfirst
      rw [last_cons, ih hrest, hstep, List.map_cons, List.sum_cons, Event.number, Nat.add_assoc]

/-- The numbers in the course of a run are not below the first one. -/
theorem le_number_of_mem_course (hclock : ∀ call ∈ calls, Sid.InEra call.now) {e : Event}
    (h : e ∈ s.course calls) : s.workspace.nextNumber ≤ e.number := by
  induction calls generalizing s with
  | nil => simp [course] at h
  | cons call rest ih =>
      obtain ⟨hfirst, hrest⟩ := List.forall_mem_cons.1 hclock
      rcases List.mem_cons.1 h with rfl | h
      · exact Nat.le_refl _
      · have hle := ih hrest h
        have hstep : (Event.mk s call).after.workspace.nextNumber = _ :=
          Event.nextNumber_after hfirst
        rw [hstep] at hle
        exact Nat.le_trans (Nat.le_add_right _ _) hle

/-- An id has a smaller number than all ids that are made later. -/
theorem pairwise_number_lt (hclock : ∀ call ∈ calls, Sid.InEra call.now) :
    (s.course calls).Pairwise fun e e' => e.number + e.call.taken ≤ e'.number := by
  induction calls generalizing s with
  | nil => exact .nil
  | cons call rest ih =>
      obtain ⟨hfirst, hrest⟩ := List.forall_mem_cons.1 hclock
      refine List.pairwise_cons.2 ⟨?_, ih hrest⟩
      intro e' he'
      have hle := le_number_of_mem_course hrest he'
      have hstep : (Event.mk s call).after.workspace.nextNumber = _ :=
        Event.nextNumber_after hfirst
      rwa [hstep] at hle

/-- Two ids with the same word are different, whichever way the clock is set. -/
theorem pairwise_makes_ne (hclock : ∀ call ∈ calls, Sid.InEra call.now) :
    (s.course calls).Pairwise fun e e' =>
      ∀ lead sid sid', e.Makes lead sid → e'.Makes lead sid' → sid ≠ sid' := by
  refine (pairwise_number_lt hclock).imp_of_mem ?_
  intro e e' he he' hnumber lead sid sid' hmade hmade' hsame
  subst hsame
  obtain ⟨millis, millis', hwide, hwide', htext⟩ := Event.exists_text_eq_of_makes
    (hclock _ (call_mem_of_mem_course he)) (hclock _ (call_mem_of_mem_course he')) hmade hmade'
  have hequal := (Sid.text_inj hwide hwide' htext).2
  have htaken : e.call.taken = 1 := by rw [Call.taken, hmade.1]
  omega

/-- What can be relied on in the course of a run: every id is new, and it is accepted when its word
is one that settings may choose. -/
structure KeepsIdsApart (s : Session) (calls : List Call) : Prop where
  /-- A call that makes an id takes one number, whether or not it succeeds, and every other call
  takes none. -/
  numbers : ∀ e ∈ s.course calls,
    e.after.workspace.nextNumber = e.before.workspace.nextNumber + e.call.taken
  /-- A call that has a word for an id makes one. -/
  makes : ∀ e ∈ s.course calls, ∀ lead, e.call.lead? = some lead → ∃ sid, e.Makes lead sid
  /-- Answers show the ids that are made, and no others. -/
  shows : ∀ e ∈ s.course calls, ∀ reply, e.result = .ok reply →
    ∀ sid, reply.sid? = some sid ↔ ∃ lead, e.Makes lead sid
  /-- Two ids with the same word are different. -/
  distinct : (s.course calls).Pairwise fun e e' =>
    ∀ lead sid sid', e.Makes lead sid → e'.Makes lead sid' → sid ≠ sid'
  /-- Ids with a word that settings have chosen pass the review. -/
  accepted : ∀ environment settings, Settings.load environment = .ok settings →
    ∀ e ∈ s.course calls, ∀ sid, e.Makes settings.sidLead sid →
      ∀ (place : List Step) members, List.lookup ("Sid" : Text.Str) members = some (.str sid) →
        sidFindings place members = []

/-- **Ids with the same word are never the same**, whichever way the clock is set. -/
theorem keepsIdsApart_of_inEra (hclock : ∀ call ∈ calls, Sid.InEra call.now) :
    s.KeepsIdsApart calls := by
  have hevent : ∀ e ∈ s.course calls, Sid.InEra e.call.now := by
    intro e he
    exact hclock e.call (call_mem_of_mem_course he)
  refine ⟨?_, ?_, ?_, pairwise_makes_ne hclock, ?_⟩
  · intro e he
    exact Event.nextNumber_after (hevent e he)
  · intro e he lead hlead
    obtain ⟨millis, -, hmakes⟩ := Event.exists_makes_iff (hevent e he) hlead
    exact ⟨_, (hmakes _).2 rfl⟩
  · intro e he reply hreply
    exact Event.sid?_eq_some_iff (hevent e he) hreply
  · intro environment settings hsettings e he sid hmade place members hmember
    obtain ⟨millis, -, hmakes⟩ := Event.exists_makes_iff (hevent e he) hmade.1
    have halnum := Sid.allNonempty_text (Settings.sidLead_of_load hsettings) millis e.number
    rw [(hmakes sid).1 hmade] at halnum
    have hpoints :
        Text.allNonempty (Text.Point.isIn Text.isAlnum) (sid.toList.map .char) = true := by
      simpa [Text.allNonempty] using halnum
    simp [sidFindings, hmember, hpoints, Policy.findingIf]

/-- The ids that the answers of a run show, with a gap for every failure and every other answer. -/
def shownSids (s : Session) (calls : List Call) : List (Option String) :=
  (s.run calls).1.map fun result => result.toOption.bind Reply.sid?

/-- An id with a word of its own, a policy that is refused, a preset that does not exist, and a
policy from a preset after the clock has been set back. -/
def unsteadyCalls : List Call :=
  let g : Generator := ⟨Sid.defaultLead, Generator.defaultDir, false⟩
  let noon : Decimal.Double := .ofDecimal false 17000000005 (-1)
  let before : Decimal.Double := .ofDecimal false 1699999999 0
  [⟨g, noon, 990, "1", .sid (some "A")⟩,
    ⟨g, noon, 990, "2", .make ⟨"abc", some "Allow", [], none, none⟩⟩,
    ⟨g, noon, 990, "3", .makePreset "abc" "nothing" none⟩,
    ⟨g, before, 990, "4", .makePreset "abc" "publicRead" none⟩]

theorem keepsIdsApart_unsteadyCalls :
    (∀ call ∈ unsteadyCalls, Sid.InEra call.now) ∧
      (start ⟨[], []⟩).KeepsIdsApart unsteadyCalls ∧
        (start ⟨[], []⟩).shownSids unsteadyCalls =
          [some "A17000000005001", none, none, some "GeneratedPolicy16999999990003"] := by
  have hnoon : Sid.InEra (.ofDecimal false 17000000005 (-1)) :=
    ⟨1700000000500, by decide +kernel, by decide, by decide⟩
  have hbefore : Sid.InEra (.ofDecimal false 1699999999 0) :=
    ⟨1699999999000, by decide +kernel, by decide, by decide⟩
  have hclock : ∀ call ∈ unsteadyCalls, Sid.InEra call.now := by
    simp only [unsteadyCalls, List.mem_cons, List.not_mem_nil, or_false]
    rintro call (rfl | rfl | rfl | rfl)
    · exact hnoon
    · exact hnoon
    · exact hnoon
    · exact hbefore
  exact ⟨hclock, keepsIdsApart_of_inEra hclock, by decide +kernel⟩

/-! ### Different words -/

/-- Two ids with different words are different unless one of the words runs into the other one. -/
theorem Event.ne_of_not_runsInto {p q : String} (hne : p ≠ q) (hforward : ¬ Sid.RunsInto p q)
    (hbackward : ¬ Sid.RunsInto q p) {e e' : Event} (hclock : Sid.InEra e.call.now)
    (hclock' : Sid.InEra e'.call.now) (hpos : 0 < e.number) (hpos' : 0 < e'.number)
    {sid sid' : String} (hmade : e.Makes p sid) (hmade' : e'.Makes q sid') : sid ≠ sid' := by
  intro hsame
  subst hsame
  obtain ⟨millis, millis', hwide, hwide', htext⟩ :=
    Event.exists_text_eq_of_makes hclock hclock' hmade hmade'
  rcases Sid.runsInto_of_text_eq hne hwide hwide' hpos hpos' htext with h | h
  · exact hforward h
  · exact hbackward h

/-- A call that asks for an id with a word. -/
def askFor (lead : String) (now : Decimal.Double) : Call :=
  ⟨⟨lead, Generator.defaultDir, false⟩, now, 0, "", .sid (some lead)⟩

theorem makes_askFor {now : Decimal.Double} {millis : Int} (h : Sid.millis? now = some millis)
    (lead : String) (s : Session) :
    (Event.mk s (askFor lead now)).Makes lead (Sid.text lead millis s.workspace.nextNumber) := by
  refine ⟨rfl, ?_⟩
  have hnew := Generator.runIn_newSid_eq h lead s.workspace
  exact congrArg Prod.fst hnew

/-- The word that runs into another one is asked for first, and the other one as often as it takes
to reach the number that makes up for the difference. -/
theorem exists_makes_same_of_runsInto {p q : String} (h : Sid.RunsInto p q) (files : Files.Tree) :
    ∃ calls, (∀ call ∈ calls, Sid.InEra call.now) ∧ ∃ e between, ∃ e' ∈ between, ∃ sid,
      (start files).course calls = e :: between ∧ e.Makes q sid ∧ e'.Makes p sid := by
  obtain ⟨millis, millis', number, hwide, hwide', hnumber, htext⟩ :=
    Sid.exists_text_eq_of_runsInto h
  obtain ⟨now, hnow⟩ := Sid.exists_millis?_eq hwide
  obtain ⟨now', hnow'⟩ := Sid.exists_millis?_eq hwide'
  obtain ⟨count, rfl⟩ : ∃ count, number = count + 2 := ⟨number - 2, by omega⟩
  obtain ⟨many, hmany⟩ : ∃ many, many = List.replicate count (askFor p now) := ⟨_, rfl⟩
  have hera : ∀ call ∈ many, Sid.InEra call.now := by
    intro call hcall
    rw [hmany] at hcall
    rw [(List.mem_replicate.1 hcall).2]
    exact ⟨millis, hnow, hwide⟩
  obtain ⟨first, hfirst⟩ : ∃ first, first = Event.mk (start files) (askFor q now') := ⟨_, rfl⟩
  obtain ⟨later, hlater⟩ : ∃ s, s = first.after.last many := ⟨_, rfl⟩
  have hsecond : first.after.workspace.nextNumber = 2 := by
    rw [Event.nextNumber_after (by rw [hfirst]; exact ⟨millis', hnow', hwide'⟩), hfirst]
    rfl
  have hreached : later.workspace.nextNumber = count + 2 := by
    rw [hlater, nextNumber_last hera, hsecond, hmany, List.map_replicate, List.sum_replicate_nat]
    simp [askFor, Call.taken, Call.lead?, Nat.add_comm]
  refine ⟨askFor q now' :: (many ++ [askFor p now]), ?_, first,
    first.after.course (many ++ [askFor p now]), ⟨later, askFor p now⟩, ?_, Sid.text q millis' 1,
    ?_, ?_, ?_⟩
  · intro call hcall
    rcases List.mem_cons.1 hcall with rfl | hcall
    · exact ⟨millis', hnow', hwide'⟩
    · rcases List.mem_append.1 hcall with hcall | hcall
      · exact hera call hcall
      · rw [List.mem_singleton.1 hcall]
        exact ⟨millis, hnow, hwide⟩
  · rw [course_append, ← hlater]
    exact List.mem_append_right _ List.mem_cons_self
  · rw [hfirst]
    rfl
  · rw [hfirst]
    exact makes_askFor hnow' q (start files)
  · rw [← htext, ← hreached]
    exact makes_askFor hnow p later

/-- A word does not run into another one when no session has the same id for both. -/
theorem not_runsInto_of_pairwise {p q : String}
    (h : ∀ files calls, (∀ call ∈ calls, Sid.InEra call.now) →
      ((start files).course calls).Pairwise fun e e' => ∀ sid sid',
        e.Makes q sid → e'.Makes p sid' → sid ≠ sid') : ¬ Sid.RunsInto p q := by
  intro hruns
  obtain ⟨calls, hclock, e, between, e', he', sid, hcourse, hmade, hmade'⟩ :=
    exists_makes_same_of_runsInto hruns ⟨[], []⟩
  have hpair := h ⟨[], []⟩ calls hclock
  rw [hcourse] at hpair
  exact (List.pairwise_cons.1 hpair).1 e' he' sid sid hmade hmade' rfl

/-- **Ids with different words are never the same either, unless one of the words runs into the
other one.**  If it does, there is a session in which they are. -/
theorem makes_ne_iff_not_runsInto (p q : String) :
    (∀ files calls, (∀ call ∈ calls, Sid.InEra call.now) →
      ((start files).course calls).Pairwise fun e e' => ∀ sid sid',
        e.Makes p sid ∧ e'.Makes q sid' ∨ e.Makes q sid ∧ e'.Makes p sid' → sid ≠ sid') ↔
      ¬ Sid.RunsInto p q ∧ ¬ Sid.RunsInto q p := by
  constructor
  · intro hdistinct
    refine ⟨not_runsInto_of_pairwise ?_, not_runsInto_of_pairwise ?_⟩
    · intro files calls hclock
      refine (hdistinct files calls hclock).imp ?_
      exact fun hne sid sid' hmade hmade' => hne sid sid' (.inr ⟨hmade, hmade'⟩)
    · intro files calls hclock
      refine (hdistinct files calls hclock).imp ?_
      exact fun hne sid sid' hmade hmade' => hne sid sid' (.inl ⟨hmade, hmade'⟩)
  · rintro ⟨hforward, hbackward⟩ files calls hclock
    have hevent : ∀ e ∈ (start files).course calls, Sid.InEra e.call.now ∧ 0 < e.number := by
      intro e he
      exact ⟨hclock e.call (call_mem_of_mem_course he), le_number_of_mem_course hclock he⟩
    by_cases hne : p = q
    · subst hne
      refine (pairwise_makes_ne hclock).imp ?_
      rintro e e' hdistinct sid sid' (⟨hmade, hmade'⟩ | ⟨hmade, hmade'⟩)
      · exact hdistinct p sid sid' hmade hmade'
      · exact hdistinct p sid sid' hmade hmade'
    · refine List.Pairwise.imp_of_mem ?_ (List.pairwise_of_forall fun _ _ => trivial)
      intro e e' he he' _ sid sid' hmade
      obtain ⟨hera, hpos⟩ := hevent e he
      obtain ⟨hera', hpos'⟩ := hevent e' he'
      rcases hmade with ⟨hmade, hmade'⟩ | ⟨hmade, hmade'⟩
      · exact Event.ne_of_not_runsInto hne hforward hbackward hera hera' hpos hpos' hmade hmade'
      · exact Event.ne_of_not_runsInto (Ne.symm hne) hbackward hforward hera hera' hpos hpos'
          hmade hmade'

/-- At 1111111111.111 seconds the word `A1` with the number 1 and the word `A` with the number 11
give the same id. -/
theorem same_sid_at_ones :
    let now : Decimal.Double := .ofDecimal false 1111111111111 (-3)
    let shown := (start ⟨[], []⟩).shownSids (askFor "A1" now :: List.replicate 10 (askFor "A" now))
    Sid.millis? now = some 1111111111111 ∧ shown[0]? = some (some "A111111111111111") ∧
      shown[10]? = some (some "A111111111111111") := by
  decide +kernel

end Run

end BucketAccess.Session
