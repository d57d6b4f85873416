/-
**Which files a tree holds.**

What counts for whoever keeps something in a file is which files there are and what is in them.
Making directories changes no file at all.  A file that is written under a new name and then moved
changes the one file that it is moved to, and if it is discarded instead, it leaves no trace.

Main definitions:

* `BucketAccess.Files.Tree.fileAt?` — what the file at a place holds;
* `BucketAccess.Files.Tree.AddsDirectories` — one tree has the files of another one, and at least
  its directories;
* `BucketAccess.Files.Tree.Replaces` — the same, apart from the one file that a path leads to.

Main results:

* `BucketAccess.Files.Tree.addsDirectories_layDirectories` — making directories changes no file;
* `BucketAccess.Files.Tree.replaces_of_rename` — **writing a new file and moving it changes one
  file**;
* `BucketAccess.Files.Tree.addsDirectories_discard` — **writing it and discarding it changes none**.
-/

import BucketAccess.Proofs.Files.Tree

set_option relaxedAutoImplicit false
set_option autoImplicit false

namespace BucketAccess.Files

/-- What a node holds, if it is a regular file. -/
def Node.bytes? : Node → Option (List UInt8)
  | .directory => none
  | .file bytes => some bytes

namespace Tree

variable {t t' t₁ t₂ : Tree} {place : Place} {p draft : Path} {bytes : List UInt8}

/-! ### Files and places -/

/-- What the regular file at a place holds, if there is one. -/
def fileAt? (t : Tree) (place : Place) : Option (List UInt8) :=
  (t.at? place).bind Node.bytes?

theorem fileAt?_put_file (bytes : List UInt8) (h : place ≠ []) (other : Place) :
    (t.put place (.file bytes)).fileAt? other =
      if other = place then some bytes else t.fileAt? other := by
  rw [fileAt?, at?_put _ h]
  split <;> rfl

theorem fileAt?_put_directory (h : t.at? place = none) (other : Place) :
    (t.put place .directory).fileAt? other = t.fileAt? other := by
  have hne : place ≠ [] := ne_nil_of_at? (t := t) (by simp [h])
  rw [fileAt?, fileAt?, at?_put _ hne]
  split
  · next hsame =>
      rw [hsame, h]
      rfl
  · rfl

theorem fileAt?_remove (h : place ≠ []) (other : Place) :
    (t.remove place).fileAt? other = if other = place then none else t.fileAt? other := by
  rw [fileAt?, at?_remove h]
  split <;> rfl

/-- Nothing can be read under a path exactly if it leads to no file. -/
theorem toOption_read_eq_none_iff :
    (t.read p).toOption = none ↔ ∀ place, t.locate p = .ok place → t.fileAt? place = none := by
  unfold read fileAt?
  cases t.locate p with
  | error fault => simp [Except.toOption]
  | ok place =>
      cases hnode : t.at? place with
      | none => simp [Except.toOption, hnode]
      | some node => cases node <;> simp [Except.toOption, hnode, Node.bytes?]

/-- The last name of a path is the last name of the place that it leads to, unless it leads
upwards. -/
theorem getLast?_of_locate {name : List Char} (hlast : p.names.getLast? = some name)
    (hup : name ≠ Path.up) (h : t.locate p = .ok place) : place.getLast? = some name := by
  simp only [locate, hlast] at h
  split at h
  · simp at h
  · split at h
    · simp at h
    · generalize t.follow _ _ = followed at h
      cases followed with
      | error fault => simp [Except.bind] at h
      | ok directory =>
          simp only [Except.bind, step, if_neg hup] at h
          split at h
          · simp at h
          · rw [← Except.ok.inj h, List.getLast?_concat]

/-! ### Directories -/

/-- A tree has the same files as the one before it, and at least its directories. -/
structure AddsDirectories (t t' : Tree) : Prop extends KeepsDirectories t t' where
  file : ∀ place, t'.fileAt? place = t.fileAt? place

namespace AddsDirectories

theorem refl (t : Tree) : AddsDirectories t t :=
  ⟨⟨rfl, fun _ h => h⟩, fun _ => rfl⟩

theorem trans (h₁ : AddsDirectories t t₁) (h₂ : AddsDirectories t₁ t₂) : AddsDirectories t t₂ :=
  ⟨h₁.toKeepsDirectories.trans h₂.toKeepsDirectories,
    fun place => (h₂.file place).trans (h₁.file place)⟩

/-- A path that leads to no file with more directories leads to none without them. -/
theorem read_eq_none (h : AddsDirectories t t') (hread : (t'.read p).toOption = none) :
    (t.read p).toOption = none := by
  refine toOption_read_eq_none_iff.2 ?_
  intro place hplace
  rw [← h.file]
  exact toOption_read_eq_none_iff.1 hread place (h.locate hplace)

end AddsDirectories

theorem addsDirectories_makeDirectory (h : t.makeDirectory p = .ok t') : AddsDirectories t t' := by
  unfold makeDirectory at h
  split at h
  · simp at h
  · next place hlocate =>
      split at h
      · simp at h
      · next hnone =>
          obtain rfl := Except.ok.inj h
          refine ⟨⟨rfl, ?_⟩, fileAt?_put_directory hnone⟩
          intro other hother
          rw [at?_put _ (ne_nil_of_at? (t := t) (by simp [hnone])), if_neg, hother]
          rintro rfl
          simp [hnone] at hother

theorem addsDirectories_ensureDirectory (h : t.ensureDirectory p = .ok t') :
    AddsDirectories t t' := by
  unfold ensureDirectory at h
  split at h
  · next made hmade =>
      obtain rfl := Except.ok.inj h
      exact addsDirectories_makeDirectory hmade
  · split at h
    · obtain rfl := Except.ok.inj h
      exact .refl t
    · simp at h

theorem addsDirectories_after_ensureDirectory (t : Tree) (p : Path) :
    AddsDirectories t (t.after (t.ensureDirectory p)).1 := by
  cases hensure : t.ensureDirectory p with
  | error fault => exact .refl t
  | ok t' => exact addsDirectories_ensureDirectory hensure

theorem addsDirectories_layDirectoriesAlong (t : Tree) (anchor : Anchor) (n : Nat)
    (names : List (List Char)) : AddsDirectories t (t.layDirectoriesAlong anchor n names).1 := by
  induction n generalizing t names with
  | zero => exact addsDirectories_after_ensureDirectory t _
  | succ n ih =>
      unfold layDirectoriesAlong
      split
      · have hway := ih t names.dropLast
        split
        · next hlaid => rwa [hlaid] at hway
        · next hlaid =>
            rw [hlaid] at hway
            exact hway.trans (addsDirectories_after_ensureDirectory _ _)
      · exact addsDirectories_after_ensureDirectory t _

/-- Making directories changes no file, whether or not all of them can be made. -/
theorem addsDirectories_layDirectories (t : Tree) (p : Path) :
    AddsDirectories t (t.layDirectories p).1 :=
  addsDirectories_layDirectoriesAlong t _ _ _

/-! ### New files -/

/-- A tree has the same files as the one before it, apart from the file that a path leads to, which
holds the given bytes. -/
structure Replaces (p : Path) (bytes : List UInt8) (t t' : Tree) : Prop extends
    KeepsDirectories t t' where
  file : ∃ place, t'.locate p = .ok place ∧
    ∀ other, t'.fileAt? other = if other = place then some bytes else t.fileAt? other

theorem AddsDirectories.replaces (h : AddsDirectories t t₁) (hrest : Replaces p bytes t₁ t₂) :
    Replaces p bytes t t₂ where
  toKeepsDirectories := h.toKeepsDirectories.trans hrest.toKeepsDirectories
  file := by
    obtain ⟨place, hplace, hfile⟩ := hrest.file
    refine ⟨place, hplace, ?_⟩
    intro other
    rw [hfile, h.file]

section Draft

variable (hnew : (t.read draft).toOption = none) (hwrite : t.write draft bytes = .ok t₁)

include hnew hwrite

/-- **Writing a new file and moving it changes one file.** -/
theorem replaces_of_rename (h : t₁.rename draft p = .ok t₂) : Replaces p bytes t t₂ := by
  obtain ⟨place, hlocate, hnode, rfl⟩ := write_eq_ok_iff.1 hwrite
  obtain ⟨moved, old, new, hmoved, hold, hfinal, hnewNode, rfl⟩ := rename_eq_ok_iff.1 h
  have hput := keepsDirectories_put bytes hnode
  obtain rfl : place = old := Except.ok.inj ((hput.locate hlocate).symm.trans hold)
  obtain rfl : bytes = moved := Except.ok.inj ((read_of_write hwrite).symm.trans hmoved)
  have hplace := ne_nil_of_at? hnode
  have hwritten : (t.put place (.file bytes)).at? place ≠ some .directory := by
    simp [at?_put _ hplace]
  have hfree : ((t.put place (.file bytes)).remove place).at? new ≠ some .directory := by
    rw [at?_remove hplace]
    split
    · simp
    · exact hnewNode
  have hremove := keepsDirectories_remove hwritten
  have hmove := keepsDirectories_put bytes hfree
  refine ⟨(hput.trans hremove).trans hmove, new, (hremove.trans hmove).locate hfinal, ?_⟩
  intro other
  rw [fileAt?_put_file _ (ne_nil_of_at? hnewNode)]
  split
  · rfl
  · rw [fileAt?_remove hplace, fileAt?_put_file _ hplace]
    split
    · next hsame => rw [hsame, toOption_read_eq_none_iff.1 hnew place hlocate]
    · rfl

/-- **Writing a new file and discarding it changes no file.** -/
theorem addsDirectories_discard : AddsDirectories t (t₁.discard draft) := by
  obtain ⟨place, hlocate, hnode, rfl⟩ := write_eq_ok_iff.1 hwrite
  have hput := keepsDirectories_put bytes hnode
  have hplace := ne_nil_of_at? hnode
  have hwritten : (t.put place (.file bytes)).at? place ≠ some .directory := by
    simp [at?_put _ hplace]
  have hremove := keepsDirectories_remove hwritten
  rw [discard, hput.locate hlocate]
  simp only [if_neg hplace]
  refine ⟨hput.trans hremove, ?_⟩
  intro other
  rw [fileAt?_remove hplace, fileAt?_put_file _ hplace]
  split
  · next hsame => rw [hsame, toOption_read_eq_none_iff.1 hnew place hlocate]
  · rfl

end Draft

end Tree

end BucketAccess.Files
