/-
**What saving does to the files.**

Saving has one of two outcomes.  Either the file for the bucket holds the policy and every other
file is what it was, or no file has changed; in both cases the draft is gone.  This needs a draft
that is new.  Its name can never be the name of a policy file, since the two end in different ways.

Main definitions:

* `BucketAccess.Saving.Outcome` — **what saving leaves behind**.

Main results:

* `BucketAccess.Saving.target_of_isValid` — the file for a bucket with a valid name is named after
  it, in the chosen directory;
* `BucketAccess.Saving.eq_of_place_eq` — different buckets have their files at different
  places, whichever directories are chosen;
* `BucketAccess.Saving.outcome_save`, `BucketAccess.Saving.outcome_generatorSave` — **saving
  replaces one file or changes none**, and a generator saves like anyone else.
-/

import BucketAccess.Generator
import BucketAccess.Proofs.Bucket.Name
import BucketAccess.Proofs.Files.Path
import BucketAccess.Proofs.Files.Store
import BucketAccess.Proofs.Text.Fields
import BucketAccess.Proofs.Work
import BucketAccess.Saving

set_option relaxedAutoImplicit false
set_option autoImplicit false

namespace BucketAccess.Saving

open BucketAccess.Files (Path Place Tree)
open BucketAccess.Text

/-! ### The names of files -/

/-- How the name of every policy file ends. -/
def ending : List Char :=
  ['-', 'p', 'o', 'l', 'i', 'c', 'y', '.', 'j', 's', 'o', 'n']

theorem exists_toList_fileName (bucket : Option String) :
    ∃ lead, (fileName bucket).toList = lead ++ ending := by
  refine ⟨(if (strip (bucket.getD "")).isEmpty then namelessBucket
    else strip (bucket.getD "")).toList, ?_⟩
  rw [fileName, String.toList_append]
  rfl

/-- A name with the usual end is none of the names that have a meaning of their own. -/
theorem append_ending_ne {lead name : List Char} (h : name.length ≤ 2) : lead ++ ending ≠ name := by
  rintro rfl
  rw [List.length_append] at h
  exact absurd h (by simp [ending])

theorem exists_getLast?_target (directory : Path) (bucket : Option String) :
    ∃ lead, (target directory bucket).names.getLast? = some (lead ++ ending) := by
  obtain ⟨front, hname⟩ := exists_toList_fileName bucket
  obtain ⟨before, lead, hsplit⟩ := exists_splitOn_append_eq (by decide : '/' ∉ ending) front
  have hkept : lead ++ ending ≠ [] ∧ lead ++ ending ≠ Path.self :=
    ⟨append_ending_ne (by decide), append_ending_ne (by decide)⟩
  have hlast : (Path.ofText (fileName bucket).toList).names.getLast? = some (lead ++ ending) := by
    rw [hname, Path.ofText, hsplit, List.filter_append,
      List.filter_cons_of_pos (by simpa only [decide_eq_true_eq] using hkept), List.filter_nil,
      List.getLast?_concat]
  refine ⟨lead, ?_⟩
  unfold target Path.join
  split
  · rw [List.getLast?_append, hlast]
    rfl
  · exact hlast

theorem getLast?_draftOf (final : Path) (tag : String) :
    (draftOf final tag).names.getLast? =
      some (final.names.getLastD [] ++ (".tmp." ++ tag).toList) := by
  rw [draftOf, Files.Path.extend, List.getLast?_concat]

/-- The place that a policy file is saved to has a name that ends in a letter. -/
theorem getLast?_of_locate_target {t : Tree} {directory : Path} {bucket : Option String}
    {place : Place} (h : t.locate (target directory bucket) = .ok place) :
    ∃ name, place.getLast? = some name ∧ name.getLast? = some 'n' := by
  obtain ⟨lead, hlead⟩ := exists_getLast?_target directory bucket
  refine ⟨_, Tree.getLast?_of_locate hlead (append_ending_ne (by decide)) h, ?_⟩
  rw [List.getLast?_append]
  rfl

/-- The place of a draft has a name that ends in a digit. -/
theorem getLast?_of_locate_draftOf {t : Tree} {final : Path} {tag : String} {place : Place}
    {c : Char} (htag : tag.toList.getLast? = some c) (hdigit : isDigit c = true)
    (h : t.locate (draftOf final tag) = .ok place) :
    ∃ name, place.getLast? = some name ∧ name.getLast? = some c := by
  have hname : (final.names.getLastD [] ++ (".tmp." ++ tag).toList).getLast? = some c := by
    rw [String.toList_append, List.getLast?_append, List.getLast?_append, htag]
    rfl
  have hup : final.names.getLastD [] ++ (".tmp." ++ tag).toList ≠ Path.up := by
    intro hsame
    rw [hsame] at hname
    obtain rfl : '.' = c := Option.some.inj hname
    revert hdigit
    decide
  exact ⟨_, Tree.getLast?_of_locate (getLast?_draftOf final tag) hup h, hname⟩

/-- **A policy file never takes the place of a draft.** -/
theorem place_draftOf_ne {t t' : Tree} {directory : Path} {bucket : Option String} {final : Path}
    {tag : String} {place place' : Place} (htag : tag.toList.getLast?.any isDigit = true)
    (h : t.locate (draftOf final tag) = .ok place)
    (h' : t'.locate (target directory bucket) = .ok place') : place ≠ place' := by
  rintro rfl
  obtain ⟨c, hlast, hdigit⟩ := (Option.any_eq_true _ _).1 htag
  obtain ⟨name, hname, hdraft⟩ := getLast?_of_locate_draftOf hlast hdigit h
  obtain ⟨name', hname', htarget⟩ := getLast?_of_locate_target h'
  obtain rfl := Option.some.inj (hname.symm.trans hname')
  obtain rfl := Option.some.inj (hdraft.symm.trans htarget)
  revert hdigit
  decide

/-! ### Valid names -/

section Valid

variable {bucket : String} (hvalid : (Bucket.review bucket).isValid = true)

include hvalid

theorem strip_of_isValid : strip bucket = bucket := by
  have hblank : ∀ c ∈ bucket.toList, isBlank c = false := by
    intro c hc
    exact Bucket.isBlank_of_isNameChar (Bucket.isNameChar_of_mem hvalid hc)
  rw [strip, trim_of_edges, String.ofList_toList]
  · intro c hc
    exact hblank c (List.mem_of_head? hc)
  · intro c hc
    exact hblank c (List.mem_of_getLast? hc)

/-- **The file for a bucket with a valid name** is named after it, in the chosen directory. -/
theorem target_of_isValid (directory : Path) :
    target directory (some bucket) =
      ⟨directory.anchor, directory.names ++ [(bucket ++ "-policy.json").toList]⟩ := by
  have hname : fileName (some bucket) = bucket ++ "-policy.json" := by
    have hempty : bucket.isEmpty = false := by
      simpa using Bucket.ne_empty_of_isValid hvalid
    simp [fileName, strip_of_isValid hvalid, hempty]
  have hslash : '/' ∉ (bucket ++ "-policy.json").toList := by
    rw [String.toList_append, List.mem_append, not_or]
    exact ⟨Bucket.slash_not_mem_of_isValid hvalid, by decide⟩
  have hpath : Path.ofText (bucket ++ "-policy.json").toList =
      ⟨.here, [(bucket ++ "-policy.json").toList]⟩ := by
    have hhead : (bucket ++ "-policy.json").toList.head? ≠ some '/' := by
      intro hhead
      exact hslash (List.mem_of_head? hhead)
    have hkept : (bucket ++ "-policy.json").toList ≠ [] ∧
        (bucket ++ "-policy.json").toList ≠ Path.self := by
      rw [String.toList_append]
      exact ⟨append_ending_ne (by decide), append_ending_ne (by decide)⟩
    have hhere := Path.anchorOf_of_head hhead .here
    rw [Path.ofText, splitOn_of_not_mem hslash,
      List.filter_cons_of_pos (by simpa only [decide_eq_true_eq] using hkept), List.filter_nil]
    exact congrArg (Files.Path.mk · _) hhere
  rw [target, hname, hpath]
  rfl

/-- The name of the file for a bucket with a valid name stands at the end of its place. -/
theorem getLast?_of_locate_valid {t : Tree} {directory : Path} {place : Place}
    (h : t.locate (target directory (some bucket)) = .ok place) :
    place.getLast? = some (bucket.toList ++ ending) := by
  rw [target_of_isValid hvalid] at h
  have hname : (bucket ++ "-policy.json").toList = bucket.toList ++ ending := by
    rw [String.toList_append]
    rfl
  rw [hname] at h
  exact Tree.getLast?_of_locate List.getLast?_concat (append_ending_ne (by decide)) h

end Valid

/-- **Different buckets have their files at different places**, whichever directories are chosen. -/
theorem eq_of_place_eq {bucket bucket' : String} (hvalid : (Bucket.review bucket).isValid = true)
    (hvalid' : (Bucket.review bucket').isValid = true) {t t' : Tree} {directory directory' : Path}
    {place : Place} (h : t.locate (target directory (some bucket)) = .ok place)
    (h' : t'.locate (target directory' (some bucket')) = .ok place) : bucket = bucket' := by
  have hname := getLast?_of_locate_valid hvalid h
  rw [getLast?_of_locate_valid hvalid' h', Option.some.injEq] at hname
  exact (String.toList_inj.1 (List.append_cancel_right hname)).symm

/-! ### One policy saved -/

/-- **What saving leaves behind**: if it succeeds, the file holds the bytes and every other file is
what it was; if it fails, no file has changed.  The draft is gone either way. -/
structure Outcome (final draft : Path) (bytes : List UInt8) (files : Tree)
    (result : Except Failure Path) (after : Tree) : Prop where
  saved : ∀ path, result = .ok path → path = final ∧ Tree.Replaces final bytes files after
  failed : ∀ failure, result = .error failure → Tree.AddsDirectories files after
  gone : (after.read draft).toOption = none

section Save

variable {w : Workspace} {final draft : Path} {bytes : List UInt8}

/-- A failure leaves the draft unwritten. -/
theorem Outcome.of_error (hnew : (w.files.read draft).toOption = none) (failure : Failure) :
    Outcome final draft bytes w.files (.error failure) w.files where
  saved := by simp
  failed _ _ := .refl _
  gone := hnew

/-- Directories that are made before do not count. -/
theorem Outcome.of_addsDirectories {t t₁ t₂ : Tree} {result : Except Failure Path}
    (h : Tree.AddsDirectories t t₁) (hrest : Outcome final draft bytes t₁ result t₂) :
    Outcome final draft bytes t result t₂ where
  saved path hpath := by
    obtain ⟨hfinal, hreplaces⟩ := hrest.saved path hpath
    exact ⟨hfinal, h.replaces hreplaces⟩
  failed failure hfailure := h.trans (hrest.failed failure hfailure)
  gone := hrest.gone

theorem runIn_settle (draft final : Path) (w : Workspace) :
    (settle draft final).runIn w =
      match w.files.rename draft final with
      | .ok files => (.ok (), { w with files := files })
      | .error fault => (.error (.file fault), { w with files := w.files.discard draft }) := by
  rw [settle, Work.runIn_tryCatch, Work.runIn_changeFiles]
  cases w.files.rename draft final <;> rfl

/-- The draft is gone when the place that it was written to is empty. -/
theorem read_draft_eq_none {t t' t₁ : Tree} (hwrite : t.write draft bytes = .ok t₁)
    (hkeeps : t.KeepsDirectories t')
    (hgone : ∀ place, t.locate draft = .ok place → t'.fileAt? place = none) :
    (t'.read draft).toOption = none := by
  obtain ⟨place, hlocate, -, -⟩ := Tree.write_eq_ok_iff.1 hwrite
  refine Tree.toOption_read_eq_none_iff.2 ?_
  intro other hother
  obtain rfl := Except.ok.inj ((hkeeps.locate hlocate).symm.trans hother)
  exact hgone place hlocate

variable (hnew : (w.files.read draft).toOption = none)
  (hapart : ∀ (t t' : Tree) place place', t.locate draft = .ok place →
    t'.locate final = .ok place' → place ≠ place')

include hnew hapart

/-- Writing the draft and giving it the final name. -/
theorem outcome_publish :
    let run := (do
      Work.changeFiles (·.write draft bytes)
      settle draft final
      return final : Work Path).runIn w
    Outcome final draft bytes w.files run.1 run.2.files := by
  intro run
  have hnone := Tree.toOption_read_eq_none_iff.1 hnew
  cases hwrite : w.files.write draft bytes with
  | error fault =>
      have hrun : run = (.error (.file fault), w) := by
        simp only [run]
        rw [Work.runIn_bind, Work.runIn_changeFiles, hwrite]
      rw [hrun]
      exact .of_error hnew _
  | ok written =>
      have hrest : run = (do
          settle draft final
          return final : Work Path).runIn { w with files := written } := by
        simp only [run]
        rw [Work.runIn_bind, Work.runIn_changeFiles, hwrite]
      rw [hrest, Work.runIn_bind, runIn_settle]
      cases hrename : written.rename draft final with
      | ok files =>
          have hreplaces := Tree.replaces_of_rename hnew hwrite hrename
          simp only [Work.runIn_pure]
          refine ⟨?_, by simp, read_draft_eq_none hwrite hreplaces.toKeepsDirectories ?_⟩
          · intro path hpath
            exact ⟨(Except.ok.inj hpath).symm, hreplaces⟩
          · intro place hplace
            obtain ⟨other, hother, hfile⟩ := hreplaces.file
            rw [hfile, if_neg (hapart _ _ _ _ hplace hother), hnone place hplace]
      | error fault =>
          have hadds := Tree.addsDirectories_discard hnew hwrite
          refine ⟨by simp, fun _ _ => hadds, read_draft_eq_none hwrite hadds.toKeepsDirectories ?_⟩
          intro place hplace
          rw [hadds.file, hnone place hplace]

/-- The same behind the warning about a file that is there already. -/
theorem outcome_warn_publish (bytes : List UInt8) (warning : String) :
    let run := (do
      if ← Work.askFiles (·.leadsTo final) then
        Work.record .warning warning
      Work.changeFiles (·.write draft bytes)
      settle draft final
      return final : Work Path).runIn w
    Outcome final draft bytes w.files run.1 run.2.files := by
  intro run
  have hrun : run = _ := Work.runIn_bind _ _ w
  rw [Work.runIn_askFiles] at hrun
  cases hthere : w.files.leadsTo final with
  | error fault =>
      rw [hthere] at hrun
      rw [hrun]
      exact .of_error hnew _
  | ok there =>
      rw [hthere] at hrun
      rw [hrun]
      cases there with
      | false => exact outcome_publish hnew hapart
      | true =>
          -- the warning changes nothing but the log
          exact outcome_publish (w := { w with log := w.log ++ [⟨.warning, warning⟩] }) hnew hapart

end Save

/-- **Saving replaces one file or changes none.** -/
theorem outcome_save {directory : Path} {tag : String} {w : Workspace} (bucket : Option String)
    (document : Json.Value) (htag : tag.toList.getLast?.any isDigit = true)
    (hnew : ((w.files.layDirectories directory).1.read
      (draftOf (target directory bucket) tag)).toOption = none) :
    let run := (save directory tag document bucket).runIn w
    Outcome (target directory bucket) (draftOf (target directory bucket) tag)
      (Utf8.encode (savedText document)) w.files run.1 run.2.files := by
  intro run
  have hadds := Tree.addsDirectories_layDirectories w.files directory
  have hrun : run = _ := Work.runIn_bind _ _ w
  rw [Work.runIn_alterFiles] at hrun
  revert hadds hnew hrun
  rcases w.files.layDirectories directory with ⟨laid, _ | fault⟩ <;> intro hnew hadds hrun
  · have hapart : ∀ (t t' : Tree) place place',
        t.locate (draftOf (target directory bucket) tag) = .ok place →
          t'.locate (target directory bucket) = .ok place' → place ≠ place' := by
      intro t t' place place'
      exact place_draftOf_ne htag
    have hrest : run = (do
        if ← Work.askFiles (·.leadsTo (target directory bucket)) then
          Work.record .warning
            s!"Overwriting existing policy file: {(target directory bucket).toString}"
        Work.changeFiles (·.write (draftOf (target directory bucket) tag)
          (Utf8.encode (savedText document)))
        settle (draftOf (target directory bucket) tag) (target directory bucket)
        return target directory bucket : Work Path).runIn { w with files := laid } := hrun
    rw [hrest]
    exact .of_addsDirectories hadds
      (outcome_warn_publish (w := { w with files := laid }) hnew hapart _ _)
  · rw [hrun]
    exact .of_addsDirectories hadds (.of_error (w := { w with files := laid }) hnew _)

/-- A generator saves a policy like anyone else; the record that it leaves is no file. -/
theorem outcome_generatorSave {g : Generator} {tag : String} {w : Workspace}
    (bucket : Option String) (document : Json.Value)
    (htag : tag.toList.getLast?.any isDigit = true)
    (hnew : ((w.files.layDirectories g.outputDir).1.read
      (draftOf (target g.outputDir bucket) tag)).toOption = none) :
    let run := (g.save tag document bucket).runIn w
    Outcome (target g.outputDir bucket) (draftOf (target g.outputDir bucket) tag)
      (Utf8.encode (savedText document)) w.files run.1 run.2.files := by
  have houtcome := outcome_save bucket document htag hnew
  unfold Generator.save
  simp only [Work.runIn_bind]
  revert houtcome
  rcases (save g.outputDir tag document bucket).runIn w with ⟨failure | path, w'⟩ <;>
    exact id

end BucketAccess.Saving
