/-
**The files of a session.**

Saving is the only thing in a session that changes files, and every policy that is saved is found
under its path until another one is saved there.  So what a file holds after a run can be told from
the list of what has been saved: the last policy saved to its place, or what was there at the start.
Nothing else is left behind, whatever else has been asked for or has gone wrong in between.

Main definitions:

* `BucketAccess.Session.Event.saved?` — the path and the document of a policy that has been saved;
* `BucketAccess.Session.Event.HasNewTag` — the draft of a policy that is saved is a new file;
* `BucketAccess.Session.StoresLastSaves` — **what the files are after a run**.

Main results:

* `BucketAccess.Session.Event.outcome` — one call changes one file or none;
* `BucketAccess.Session.fileAt?_last` — the last policy saved to a place is there in the end;
* `BucketAccess.Session.storesLastSaves_of_hasNewTag` — **saving policies is an atomic store**.
-/

import BucketAccess.Proofs.Generator
import BucketAccess.Proofs.Saving.Outcome
import BucketAccess.Proofs.Session.Course

set_option relaxedAutoImplicit false
set_option autoImplicit false

namespace BucketAccess.Session

open BucketAccess.Files (Path Place Tree)
open BucketAccess.Json (Value)
open BucketAccess.Text (isDigit)
open BucketAccess.Work (Keeps)

/-! ### What is saved -/

/-- The draft that a call to save a policy makes on the way. -/
def Call.draft? (call : Call) : Option Path :=
  match call.request with
  | .save bucket _ =>
      some (Saving.draftOf (Saving.target call.generator.outputDir bucket) call.tag)
  | _ => none

theorem Call.exists_eq_draftOf {call : Call} {draft : Path} (h : draft ∈ call.draft?) :
    ∃ final, draft = Saving.draftOf final call.tag := by
  unfold Call.draft? at h
  split at h
  · exact ⟨_, (Option.some.inj h).symm⟩
  · simp at h

/-- The document in a text, if it can be read, or the current document. -/
def givenDocument? (limit : Nat) (current : Value) : Option String → Option Value
  | none => some current
  | some text => (Json.read limit text).toOption

/-- The document that a call is to save. -/
def Event.document? (e : Event) : Option Value :=
  match e.call.request with
  | .save _ text => givenDocument? e.call.nesting e.before.current text
  | _ => none

/-- The path and the document of a policy that has been saved. -/
def Event.saved? (e : Event) : Option (Path × Value) :=
  match e.result, e.document? with
  | .ok (.saved path), some document => some (path, document)
  | _, _ => none

/-- The tag of a call is new: it ends in a digit, as numbers do, and once the directories are made
no file has the name of the draft. -/
def Event.HasNewTag (e : Event) : Prop :=
  ∀ draft ∈ e.call.draft?, e.call.tag.toList.getLast?.any isDigit = true ∧
    ((e.before.workspace.files.layDirectories e.call.generator.outputDir).1.read draft).toOption =
      none

instance (e : Event) : Decidable e.HasNewTag :=
  inferInstanceAs (Decidable (∀ draft ∈ e.call.draft?, _ ∧ _))

/-! ### One call -/

section Call

variable {e : Event}

/-- What is not a call to save leaves the files alone. -/
theorem keeps_files_answer {call : Call} (h : call.draft? = none) (current : Value) :
    Keeps Workspace.files (answer current call) := by
  obtain ⟨g, now, limit, tag, request⟩ := call
  cases request with
  | sid lead => exact .bind (Generator.keeps_newSid (by intros; rfl) _ _) fun _ => .pure _
  | make order =>
      exact .bind (Generator.keeps_make (by intros; rfl) (by intros; rfl) _ _ _ _) fun _ => .pure _
  | makePreset bucket name condition =>
      exact .bind (Generator.keeps_makePreset (by intros; rfl) (by intros; rfl) _ _ _ _ _ _)
        fun _ => .pure _
  | review text =>
      exact .bind (keeps_documentOf _ _ _) fun document =>
        .bind (Generator.keeps_review (by intros; rfl) _ _) fun _ => .pure _
  | save bucket text => simp [Call.draft?] at h

theorem runIn_documentOf_of_some {limit : Nat} {current document : Value} {text : Option String}
    (h : givenDocument? limit current text = some document) (w : Workspace) :
    (documentOf limit current text).runIn w = (.ok document, w) := by
  cases text with
  | none =>
      obtain rfl := Option.some.inj h
      rfl
  | some text =>
      cases hread : Json.read limit text with
      | error fault => simp [givenDocument?, hread, Except.toOption] at h
      | ok read =>
          obtain rfl : read = document := by simpa [givenDocument?, hread, Except.toOption] using h
          simp only [documentOf, hread, Work.runIn_ofExcept_ok]

theorem exists_runIn_documentOf_of_none {limit : Nat} {current : Value} {text : Option String}
    (h : givenDocument? limit current text = none) (w : Workspace) :
    ∃ failure, (documentOf limit current text).runIn w = (.error failure, w) := by
  cases text with
  | none => simp [givenDocument?] at h
  | some text =>
      cases hread : Json.read limit text with
      | error fault =>
          refine ⟨.document fault, ?_⟩
          simp only [documentOf, hread, Work.runIn_ofExcept_error]
      | ok read => simp [givenDocument?, hread, Except.toOption] at h

/-- A policy that is saved is replied with its path. -/
theorem exists_outcome_save {g : Generator} {tag : String} {bucket : Option String} {w : Workspace}
    (document : Value) (htag : tag.toList.getLast?.any isDigit = true)
    (hnew : ((w.files.layDirectories g.outputDir).1.read
      (Saving.draftOf (Saving.target g.outputDir bucket) tag)).toOption = none) :
    let run := (g.save tag document bucket >>= fun path => pure (.saved path) : Work Reply).runIn w
    ∃ result, run.1 = result.map .saved ∧
      Saving.Outcome (Saving.target g.outputDir bucket)
        (Saving.draftOf (Saving.target g.outputDir bucket) tag)
        (Text.Utf8.encode (Saving.savedText document)) w.files result run.2.files := by
  have houtcome := Saving.outcome_generatorSave bucket document htag hnew
  simp only [Work.runIn_bind]
  revert houtcome
  rcases (g.save tag document bucket).runIn w with ⟨failure | path, w'⟩ <;> intro houtcome
  · exact ⟨_, rfl, houtcome⟩
  · exact ⟨_, rfl, houtcome⟩

/-- **One call changes one file or none.**  If it changes one, the draft that was made for it is
gone again. -/
structure Event.Outcome (e : Event) : Prop where
  saved : ∀ path document, e.saved? = some (path, document) →
    Tree.Replaces path (Text.Utf8.encode (Saving.savedText document)) e.before.workspace.files
      e.after.workspace.files
  unsaved : e.saved? = none →
    Tree.AddsDirectories e.before.workspace.files e.after.workspace.files
  replied : ∀ path, e.result = .ok (.saved path) → ∃ document, e.saved? = some (path, document)
  target : ∀ path document, e.saved? = some (path, document) → ∃ bucket text,
    e.call.request = .save bucket text ∧ path = Saving.target e.call.generator.outputDir bucket
  gone : ∀ draft ∈ e.call.draft?, (e.after.workspace.files.read draft).toOption = none

theorem Event.saved?_of_result {path : Path} {document : Value}
    (hdocument : e.document? = some document) (h : e.result = .ok (.saved path)) :
    e.saved? = some (path, document) := by
  rw [Event.saved?, h, hdocument]

theorem Event.result_of_saved? {path : Path} {document : Value}
    (h : e.saved? = some (path, document)) :
    e.result = .ok (.saved path) ∧ e.document? = some document := by
  unfold Event.saved? at h
  split at h
  · next hresult hdocument =>
      obtain ⟨rfl, rfl⟩ := Prod.mk.inj (Option.some.inj h)
      exact ⟨hresult, hdocument⟩
  · simp at h

/-- Only a call to save is answered with a path. -/
theorem Event.exists_request_of_result {path : Path} (h : e.result = .ok (.saved path)) :
    ∃ bucket text, e.call.request = .save bucket text := by
  obtain ⟨s, g, now, limit, tag, request⟩ := e
  obtain ⟨w', hanswer⟩ : ∃ w', (answer s.current ⟨g, now, limit, tag, request⟩).runIn s.workspace =
      (.ok (.saved path), w') := ⟨_, Prod.ext h rfl⟩
  have hreply : ∀ {α : Type} {x : Work α} {f : α → Reply} {w : Workspace},
      (x >>= fun a => pure (f a)).runIn w = (.ok (.saved path), w') → ∃ a, f a = .saved path := by
    intro α x f w hrun
    obtain ⟨a, w₁, -, hpure⟩ := Work.runIn_bind_ok_iff.1 hrun
    exact ⟨a, Except.ok.inj (Prod.mk.inj hpure).1⟩
  cases request with
  | sid lead =>
      obtain ⟨sid, hsid⟩ := hreply hanswer
      cases hsid
  | make order =>
      obtain ⟨d, hd⟩ := hreply hanswer
      cases hd
  | makePreset bucket name condition =>
      obtain ⟨d, hd⟩ := hreply hanswer
      cases hd
  | review text =>
      obtain ⟨document, w₁, -, hreview⟩ := Work.runIn_bind_ok_iff.1 hanswer
      obtain ⟨v, hv⟩ := hreply hreview
      cases hv
  | save bucket text => exact ⟨bucket, text, rfl⟩

/-- What is not a call to save changes no file and makes no draft. -/
theorem Event.outcome_of_draft?_eq_none (h : e.call.draft? = none) : e.Outcome := by
  have hfiles : e.after.workspace.files = e.before.workspace.files :=
    keeps_files_answer h e.before.current e.before.workspace
  have hnone : ∀ path, e.result ≠ .ok (.saved path) := by
    intro path hresult
    obtain ⟨bucket, text, hrequest⟩ := e.exists_request_of_result hresult
    simp [Call.draft?, hrequest] at h
  refine ⟨?_, ?_, ?_, ?_, by simp [h]⟩
  · intro path document hsaved
    exact absurd (result_of_saved? hsaved).1 (hnone path)
  · intro _
    rw [hfiles]
    exact .refl _
  · intro path hresult
    exact absurd hresult (hnone path)
  · intro path document hsaved
    exact absurd (result_of_saved? hsaved).1 (hnone path)

/-- A call to save whose document cannot be read changes no file and makes no draft. -/
theorem Event.outcome_of_unreadable {bucket text : Option String}
    (hrequest : e.call.request = .save bucket text) (hdocument : e.document? = none)
    (hnew : ∀ draft ∈ e.call.draft?, (e.before.workspace.files.read draft).toOption = none) :
    e.Outcome := by
  have hgiven : givenDocument? e.call.nesting e.before.current text = none := by
    rwa [document?, hrequest] at hdocument
  obtain ⟨failure, hfailed⟩ := exists_runIn_documentOf_of_none hgiven e.before.workspace
  have hanswer : (answer e.before.current e.call).runIn e.before.workspace =
      (.error failure, e.before.workspace) := by
    simp only [answer, hrequest]
    rw [Work.runIn_bind, hfailed]
  have hresult : e.result = .error failure := by rw [result_eq, hanswer]
  have hsaved : e.saved? = none := by rw [saved?, hresult]
  refine ⟨by simp [hsaved], ?_, by simp [hresult], by simp [hsaved], ?_⟩
  · intro _
    rw [workspace_after, hanswer]
    exact .refl _
  · rw [workspace_after, hanswer]
    exact hnew

/-- What saving leaves behind is what the call leaves behind. -/
theorem Event.outcome_of_outcome {bucket text : Option String} {document : Value}
    {final draft : Path} {result : Except Failure Path}
    (hrequest : e.call.request = .save bucket text) (hdocument : e.document? = some document)
    (hfinal : final = Saving.target e.call.generator.outputDir bucket)
    (hdraft : e.call.draft? = some draft) (hresult : e.result = result.map .saved)
    (h : Saving.Outcome final draft (Text.Utf8.encode (Saving.savedText document))
      e.before.workspace.files result e.after.workspace.files) : e.Outcome := by
  have hgone : ∀ other ∈ e.call.draft?, (e.after.workspace.files.read other).toOption = none := by
    intro other hother
    obtain rfl := Option.some.inj (hdraft.symm.trans hother)
    exact h.gone
  cases result with
  | error failure =>
      have herror : e.result = .error failure := hresult
      have hsaved : e.saved? = none := by rw [saved?, herror]
      exact ⟨by simp [hsaved], fun _ => h.failed failure rfl, by simp [herror], by simp [hsaved],
        hgone⟩
  | ok path =>
      have hok : e.result = .ok (.saved path) := hresult
      have hsaved := saved?_of_result hdocument hok
      obtain ⟨hpath, hreplaces⟩ := h.saved path rfl
      refine ⟨?_, by simp [hsaved], ?_, ?_, hgone⟩
      · intro other document' hother
        rw [hsaved, Option.some.injEq, Prod.mk.injEq] at hother
        obtain ⟨rfl, rfl⟩ := hother
        rwa [hpath]
      · intro other hother
        obtain ⟨rfl⟩ : path = other := by simpa [hok] using hother
        exact ⟨document, hsaved⟩
      · intro other document' hother
        rw [hsaved, Option.some.injEq, Prod.mk.injEq] at hother
        obtain ⟨rfl, rfl⟩ := hother
        exact ⟨bucket, text, hrequest, hpath.trans hfinal⟩

/-- **One call changes one file or none.** -/
theorem Event.outcome (h : e.HasNewTag) : e.Outcome := by
  cases hrequest : e.call.request with
  | save bucket text =>
      have hdraft : e.call.draft? = some (Saving.draftOf
          (Saving.target e.call.generator.outputDir bucket) e.call.tag) := by
        rw [Call.draft?, hrequest]
      obtain ⟨htag, hnew⟩ := h _ hdraft
      cases hdocument : e.document? with
      | none =>
          refine outcome_of_unreadable hrequest hdocument ?_
          intro draft hmem
          exact (Tree.addsDirectories_layDirectories _ _).read_eq_none (h draft hmem).2
      | some document =>
          have hgiven : givenDocument? e.call.nesting e.before.current text = some document := by
            rwa [document?, hrequest] at hdocument
          obtain ⟨result, hresult, houtcome⟩ :=
            exists_outcome_save (w := e.before.workspace) document htag hnew
          have hanswer : (answer e.before.current e.call).runIn e.before.workspace =
              (e.call.generator.save e.call.tag document bucket >>= fun path =>
                pure (.saved path) : Work Reply).runIn e.before.workspace := by
            simp only [answer, hrequest]
            rw [Work.runIn_bind_of_ok (runIn_documentOf_of_some hgiven _)]
          rw [← hanswer, ← result_eq] at hresult
          rw [← hanswer, ← workspace_after] at houtcome
          exact outcome_of_outcome hrequest hdocument rfl hdraft hresult houtcome
  | _ => exact outcome_of_draft?_eq_none (by rw [Call.draft?, hrequest])

end Call

/-! ### Runs -/

/-- The policies that have been saved in the course of a run, each with its path. -/
def saves (s : Session) (calls : List Call) : List (Path × Value) :=
  (s.course calls).filterMap Event.saved?

/-- The policy that was saved last under a path that leads to a place. -/
def lastSavedTo? (s : Session) (calls : List Call) (place : Place) : Option Value :=
  (((s.saves calls).filter fun save =>
    (s.last calls).workspace.files.locate save.1 = .ok place).getLast?).map Prod.snd

section Run

variable {s : Session} {calls : List Call}

theorem Event.Outcome.keepsDirectories {e : Event} (h : e.Outcome) :
    e.before.workspace.files.KeepsDirectories e.after.workspace.files := by
  cases hsaved : e.saved? with
  | none => exact (h.unsaved hsaved).toKeepsDirectories
  | some save => exact (h.saved save.1 save.2 hsaved).toKeepsDirectories

/-- A policy is saved where the call for it says. -/
theorem Event.Outcome.path_eq {e : Event} (h : e.Outcome) {bucket text : Option String}
    {path : Path} {document : Value} (hrequest : e.call.request = .save bucket text)
    (hsaved : e.saved? = some (path, document)) :
    path = Saving.target e.call.generator.outputDir bucket := by
  obtain ⟨other, text', hother, htarget⟩ := h.target path document hsaved
  obtain ⟨rfl, -⟩ : bucket = other ∧ text = text' := by
    simpa using hrequest.symm.trans hother
  exact htarget

/-- A run keeps the directories that each of its calls keeps. -/
theorem keepsDirectories_last (h : ∀ e ∈ s.course calls, e.Outcome) :
    s.workspace.files.KeepsDirectories (s.last calls).workspace.files := by
  induction calls generalizing s with
  | nil => exact (Tree.AddsDirectories.refl _).toKeepsDirectories
  | cons call rest ih =>
      obtain ⟨hfirst, hrest⟩ := List.forall_mem_cons.1 h
      exact hfirst.keepsDirectories.trans (ih hrest)

theorem lastSavedTo?_cons (s : Session) (call : Call) (rest : List Call) (place : Place) :
    s.lastSavedTo? (call :: rest) place =
      ((Event.mk s call).after.lastSavedTo? rest place).or
        ((Event.mk s call).saved?.bind fun save =>
          if (s.last (call :: rest)).workspace.files.locate save.1 = .ok place then some save.2
          else none) := by
  have hsaves : s.saves (call :: rest) =
      (Event.mk s call).saved?.toList ++ (Event.mk s call).after.saves rest := by
    rw [saves, course, List.filterMap_cons]
    cases (Event.mk s call).saved? <;> rfl
  unfold lastSavedTo?
  rw [hsaves, List.filter_append, List.getLast?_append, last_cons, Option.map_or]
  congr 1
  cases (Event.mk s call).saved? with
  | none => rfl
  | some save =>
      rw [Option.bind_some, Option.toList_some, List.filter_cons]
      split
      · next hplace => rw [if_pos (by simpa using hplace), List.filter_nil]; rfl
      · next hplace => rw [if_neg (by simpa using hplace), List.filter_nil]; rfl

/-- **The last policy saved to a place is there in the end**, and where none has been saved
everything is as it was. -/
theorem fileAt?_last (h : ∀ e ∈ s.course calls, e.Outcome) (place : Place) :
    (s.last calls).workspace.files.fileAt? place =
      ((s.lastSavedTo? calls place).map fun document =>
        Text.Utf8.encode (Saving.savedText document)).or (s.workspace.files.fileAt? place) := by
  induction calls generalizing s with
  | nil => rfl
  | cons call rest ih =>
      obtain ⟨hfirst, hrest⟩ := List.forall_mem_cons.1 h
      have hkeeps := keepsDirectories_last hrest
      rw [last_cons, ih hrest, lastSavedTo?_cons, Option.map_or, Option.or_assoc, last_cons]
      congr 1
      cases hsaved : (Event.mk s call).saved? with
      | none => exact (hfirst.unsaved hsaved).file place
      | some save =>
          obtain ⟨other, hother, hfile⟩ := (hfirst.saved save.1 save.2 hsaved).file
          have hlast := hkeeps.locate hother
          rw [hfile, Option.bind_some, hlast]
          by_cases hplace : place = other
          · simp [hplace]
          · simp [hplace, Ne.symm hplace]

/-- What is saved in the course of a run is found under its path in the end. -/
theorem keepsDirectories_of_mem_course (h : ∀ e ∈ s.course calls, e.Outcome) {e : Event}
    (he : e ∈ s.course calls) :
    e.after.workspace.files.KeepsDirectories (s.last calls).workspace.files := by
  induction calls generalizing s with
  | nil => simp [course] at he
  | cons call rest ih =>
      obtain ⟨hfirst, hrest⟩ := List.forall_mem_cons.1 h
      rcases List.mem_cons.1 he with rfl | he
      · exact keepsDirectories_last hrest
      · exact ih hrest he

/-- Where no policy file can be, nothing is saved. -/
theorem lastSavedTo?_eq_none (h : ∀ e ∈ s.course calls, e.Outcome) {place : Place}
    (hplace : ∀ (t : Tree) directory bucket,
      t.locate (Saving.target directory bucket) ≠ .ok place) :
    s.lastSavedTo? calls place = none := by
  rw [lastSavedTo?, Option.map_eq_none_iff, List.getLast?_eq_none_iff, List.filter_eq_nil_iff]
  intro save hsave hlocate
  obtain ⟨e, he, hsaved⟩ := List.mem_filterMap.1 hsave
  obtain ⟨bucket, text, -, htarget⟩ := (h e he).target save.1 save.2 hsaved
  rw [htarget] at hlocate
  exact hplace _ _ _ (of_decide_eq_true hlocate)

/-- A draft that is gone after its call is gone in the end. -/
theorem fileAt?_draft_last (hnew : ∀ e ∈ s.course calls, e.HasNewTag) {e : Event}
    (he : e ∈ s.course calls) {draft : Path} (hdraft : draft ∈ e.call.draft?) {place : Place}
    (hplace : e.after.workspace.files.locate draft = .ok place) :
    (s.last calls).workspace.files.fileAt? place = none := by
  induction calls generalizing s with
  | nil => simp [course] at he
  | cons call rest ih =>
      obtain ⟨hfirst, hrest⟩ := List.forall_mem_cons.1 hnew
      have houtcomes : ∀ e ∈ (Event.mk s call).after.course rest, e.Outcome := by
        intro e he
        exact e.outcome (hrest e he)
      rcases List.mem_cons.1 he with rfl | he
      · have hgone := Tree.toOption_read_eq_none_iff.1
          ((Event.outcome hfirst).gone draft hdraft) place hplace
        have hunsaved : (Event.mk s call).after.lastSavedTo? rest place = none := by
          refine lastSavedTo?_eq_none houtcomes ?_
          intro t directory bucket htarget
          obtain ⟨final, rfl⟩ := Call.exists_eq_draftOf hdraft
          exact Saving.place_draftOf_ne (hfirst _ hdraft).1 hplace htarget rfl
        rw [last_cons, fileAt?_last houtcomes, hunsaved, hgone]
        rfl
      · exact ih hrest he

/-- **What the files are after a run.** -/
structure StoresLastSaves (s : Session) (calls : List Call) : Prop where
  /-- Every path that is returned leads to a place in the end, and counts as saved. -/
  leads : ∀ e ∈ s.course calls, ∀ path, e.result = .ok (.saved path) →
    (∃ place, (s.last calls).workspace.files.locate path = .ok place) ∧
      ∃ document, (path, document) ∈ s.saves calls
  /-- A file holds the policy that was saved to its place last, or what it held at the start, and
  there are no other files. -/
  files : ∀ place, (s.last calls).workspace.files.fileAt? place =
    match s.lastSavedTo? calls place with
    | some document => some (Text.Utf8.encode (Saving.savedText document))
    | none => s.workspace.files.fileAt? place
  /-- A call that returns no path changes no file. -/
  failed : ∀ e ∈ s.course calls, (∀ path, e.result ≠ .ok (.saved path)) → ∀ place,
    e.after.workspace.files.fileAt? place = e.before.workspace.files.fileAt? place
  /-- No draft is left, whether or not it could be given its final name. -/
  drafts : ∀ e ∈ s.course calls, ∀ draft ∈ e.call.draft?, ∀ place,
    e.after.workspace.files.locate draft = .ok place →
      (s.last calls).workspace.files.fileAt? place = none
  /-- The file for a valid name is named after it, in the chosen directory. -/
  named : ∀ e ∈ s.course calls, ∀ bucket text path, (Bucket.review bucket).isValid = true →
    e.call.request = .save (some bucket) text → e.result = .ok (.saved path) →
      path = ⟨e.call.generator.outputDir.anchor,
        e.call.generator.outputDir.names ++ [(bucket ++ "-policy.json").toList]⟩
  /-- Saving a policy for a valid name leaves the files for all other valid names alone. -/
  apart : ∀ e ∈ s.course calls, ∀ bucket text, (Bucket.review bucket).isValid = true →
    e.call.request = .save (some bucket) text → ∀ other, (Bucket.review other).isValid = true →
      other ≠ bucket → ∀ (t : Tree) directory place,
        t.locate (Saving.target directory (some other)) = .ok place →
          e.after.workspace.files.fileAt? place = e.before.workspace.files.fileAt? place

/-- **Saving policies is an atomic store**: of the policies saved to a place the last one is there,
and nothing else has changed. -/
theorem storesLastSaves_of_hasNewTag (hnew : ∀ e ∈ s.course calls, e.HasNewTag) :
    s.StoresLastSaves calls := by
  have houtcome : ∀ e ∈ s.course calls, e.Outcome := by
    intro e he
    exact e.outcome (hnew e he)
  refine ⟨?leads, ?files, ?failed, ?drafts, ?named, ?apart⟩
  case leads =>
    intro e he path hresult
    obtain ⟨document, hsaved⟩ := (houtcome e he).replied path hresult
    obtain ⟨place, hplace, -⟩ := ((houtcome e he).saved path document hsaved).file
    exact ⟨⟨place, (keepsDirectories_of_mem_course houtcome he).locate hplace⟩,
      document, List.mem_filterMap.2 ⟨e, he, hsaved⟩⟩
  case files =>
    intro place
    rw [fileAt?_last houtcome]
    cases s.lastSavedTo? calls place <;> rfl
  case failed =>
    intro e he hresult
    cases hsaved : e.saved? with
    | none => exact ((houtcome e he).unsaved hsaved).file
    | some save => exact absurd (Event.result_of_saved? hsaved).1 (hresult save.1)
  case drafts =>
    intro e he draft hdraft place hplace
    exact fileAt?_draft_last hnew he hdraft hplace
  case named =>
    intro e he bucket text path hvalid hrequest hresult
    obtain ⟨document, hsaved⟩ := (houtcome e he).replied path hresult
    rw [(houtcome e he).path_eq hrequest hsaved, Saving.target_of_isValid hvalid]
  case apart =>
    intro e he bucket text hvalid hrequest other hother hne t directory place hplace
    cases hsaved : e.saved? with
    | none => exact ((houtcome e he).unsaved hsaved).file place
    | some save =>
        obtain ⟨path, document⟩ := save
        obtain ⟨saved, hlocate, hfile⟩ := ((houtcome e he).saved path document hsaved).file
        rw [(houtcome e he).path_eq hrequest hsaved] at hlocate
        rw [hfile, if_neg]
        rintro rfl
        exact hne (Saving.eq_of_place_eq hother hvalid hplace hlocate)

/-- A tree with a file, an older policy, and a directory that has the name of a policy file. -/
def crowdedTree : Tree :=
  ⟨[], [(["blocked".toList], .file []), (["out".toList], .directory),
    (["out".toList, "old-policy.json".toList], .file [0x7B, 0x7D, 0x0A]),
    (["out".toList, "taken-policy.json".toList], .directory)]⟩

/-- Two policies for one bucket, and between them and behind them three that cannot be saved: the
chosen directory is a file, the file is a directory, and a directory on the way is missing. -/
def crowdedCalls : List Call :=
  let save (directory tag bucket text : String) : Call :=
    ⟨⟨Sid.defaultLead, .ofText directory.toList, false⟩, .ofDecimal false 0 0, 990, tag,
      .save (some bucket) (some text)⟩
  [save "out" "1" "abc" "[1]", save "blocked" "2" "abc" "[2]", save "out" "3" "abc" "\x7b\x7d",
    save "out" "4" "taken" "[4]", save "out" "5" "missing/abc" "[5]"]

theorem storesLastSaves_crowdedCalls :
    (∀ e ∈ (start crowdedTree).course crowdedCalls, e.HasNewTag) ∧
      (start crowdedTree).StoresLastSaves crowdedCalls ∧
        ((start crowdedTree).run crowdedCalls).1.map (·.toOption.isSome) =
          [true, false, true, false, false] ∧
        ((start crowdedTree).last crowdedCalls).workspace.files.nodes.map Prod.fst =
          ["out".toList, "abc-policy.json".toList] :: crowdedTree.nodes.map Prod.fst ∧
        ((start crowdedTree).last crowdedCalls).workspace.files.fileAt?
          ["out".toList, "abc-policy.json".toList] = some [0x7B, 0x7D, 0x0A] := by
  have hnew : ∀ e ∈ (start crowdedTree).course crowdedCalls, e.HasNewTag := by decide +kernel
  exact ⟨hnew, storesLastSaves_of_hasNewTag hnew, by decide +kernel, by decide +kernel,
    by decide +kernel⟩

end Run

end BucketAccess.Session
