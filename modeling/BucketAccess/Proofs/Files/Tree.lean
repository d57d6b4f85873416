/-
**What changes to the files leave alone.**

A path is followed through directories only, so a change that leaves every directory in place leaves
every path leading to the same place.  Writing and moving files are such changes, and what has been
written is found again under the path it was written to.

Main definitions:

* `BucketAccess.Files.Tree.KeepsDirectories` — all directories of one tree are in the other.

Main results:

* `BucketAccess.Files.Tree.KeepsDirectories.locate` — paths lead to the same places;
* `BucketAccess.Files.Tree.read_of_write`, `BucketAccess.Files.Tree.read_of_rename` — **what has
  been written or moved is found again**.
-/

import BucketAccess.Files.Tree

set_option relaxedAutoImplicit false
set_option autoImplicit false

namespace BucketAccess.Files.Tree

variable {t t' : Tree} {place : Place}

/-! ### Directories that stay -/

/-- All directories of one tree are in the other, and so is the current directory. -/
structure KeepsDirectories (t t' : Tree) : Prop where
  current : t'.current = t.current
  directory : ∀ place, t.at? place = some .directory → t'.at? place = some .directory

theorem ne_nil_of_at? (h : t.at? place ≠ some .directory) : place ≠ [] := by
  rintro rfl
  exact h rfl

/-- A file is put where no directory is. -/
theorem keepsDirectories_put (bytes : List UInt8) (h : t.at? place ≠ some .directory) :
    t.KeepsDirectories (t.put place (.file bytes)) where
  current := rfl
  directory other hother := by
    rw [at?_put _ (ne_nil_of_at? h), if_neg, hother]
    rintro rfl
    exact h hother

theorem keepsDirectories_remove (h : t.at? place ≠ some .directory) :
    t.KeepsDirectories (t.remove place) where
  current := rfl
  directory other hother := by
    rw [at?_remove (ne_nil_of_at? h), if_neg, hother]
    rintro rfl
    exact h hother

namespace KeepsDirectories

theorem trans {t₁ t₂ t₃ : Tree} (h₁ : t₁.KeepsDirectories t₂) (h₂ : t₂.KeepsDirectories t₃) :
    t₁.KeepsDirectories t₃ where
  current := h₂.current.trans h₁.current
  directory place hplace := h₂.directory place (h₁.directory place hplace)

theorem follow (h : t.KeepsDirectories t') {start : Place} {names : List (List Char)}
    (hfollow : t.follow start names = .ok place) : t'.follow start names = .ok place := by
  induction names generalizing start with
  | nil => simpa [Tree.follow] using hfollow
  | cons name rest ih =>
      simp only [Tree.follow] at hfollow ⊢
      cases hstep : step start name with
      | error fault => simp [hstep] at hfollow
      | ok next =>
          simp only [hstep] at hfollow ⊢
          split at hfollow
          · simp at hfollow
          · simp at hfollow
          · next hnext =>
              rw [h.directory next hnext]
              exact ih hfollow

/-- **Paths lead to the same places.** -/
theorem locate (h : t.KeepsDirectories t') {p : Path} (hlocate : t.locate p = .ok place) :
    t'.locate p = .ok place := by
  simp only [Tree.locate, h.current] at hlocate ⊢
  generalize (if p.anchor = .here then t.current else []) = start at hlocate ⊢
  split at hlocate
  · simp at hlocate
  · split at hlocate
    · simp at hlocate
    · next hnull hlength =>
        rw [if_neg hnull, if_neg hlength]
        cases hlast : p.names.getLast? with
        | none => simpa only [hlast] using hlocate
        | some name =>
            simp only [hlast] at hlocate
            cases hfollow : t.follow start p.names.dropLast with
            | error fault => simp [hfollow, Except.bind] at hlocate
            | ok directory => simpa only [hfollow, h.follow hfollow] using hlocate

end KeepsDirectories

/-! ### Files -/

theorem read_eq_ok_iff {p : Path} {bytes : List UInt8} :
    t.read p = .ok bytes ↔ ∃ place, t.locate p = .ok place ∧ t.at? place = some (.file bytes) := by
  unfold read
  cases t.locate p with
  | error fault => simp
  | ok place =>
      cases hnode : t.at? place with
      | none => simp [hnode]
      | some node => cases node <;> simp [hnode]

theorem write_eq_ok_iff {p : Path} {bytes : List UInt8} :
    t.write p bytes = .ok t' ↔ ∃ place, t.locate p = .ok place ∧
      t.at? place ≠ some .directory ∧ t' = t.put place (.file bytes) := by
  unfold write
  cases t.locate p with
  | error fault => simp
  | ok place =>
      cases hnode : t.at? place with
      | none => simp [hnode, eq_comm]
      | some node => cases node <;> simp [hnode, eq_comm]

/-- **What has been written is found again.** -/
theorem read_of_write {p : Path} {bytes : List UInt8} (h : t.write p bytes = .ok t') :
    t'.read p = .ok bytes := by
  obtain ⟨place, hlocate, hnode, rfl⟩ := write_eq_ok_iff.1 h
  refine read_eq_ok_iff.2 ⟨place, (keepsDirectories_put bytes hnode).locate hlocate, ?_⟩
  rw [at?_put _ (ne_nil_of_at? hnode), if_pos rfl]

theorem rename_eq_ok_iff {source target : Path} :
    t.rename source target = .ok t' ↔ ∃ bytes old new, t.read source = .ok bytes ∧
      t.locate source = .ok old ∧ t.locate target = .ok new ∧ t.at? new ≠ some .directory ∧
        t' = (t.remove old).put new (.file bytes) := by
  unfold rename
  cases t.read source with
  | error fault => simp [bind, Except.bind]
  | ok bytes =>
      cases t.locate source with
      | error fault => simp [bind, Except.bind]
      | ok old =>
          cases t.locate target with
          | error fault => simp [bind, Except.bind]
          | ok new =>
              cases hnode : t.at? new with
              | none => simp [bind, Except.bind, hnode, eq_comm]
              | some node => cases node <;> simp [bind, Except.bind, hnode, eq_comm]

/-- **What has been moved is found again.** -/
theorem read_of_rename {source target : Path} {bytes : List UInt8}
    (hread : t.read source = .ok bytes) (h : t.rename source target = .ok t') :
    t'.read target = .ok bytes := by
  obtain ⟨moved, old, new, hmoved, hold, hnew, hnode, rfl⟩ := rename_eq_ok_iff.1 h
  obtain rfl : moved = bytes := Except.ok.inj (hmoved.symm.trans hread)
  obtain ⟨place, hplace, hfile⟩ := read_eq_ok_iff.1 hread
  obtain rfl : old = place := Except.ok.inj (hold.symm.trans hplace)
  have holdFile : t.at? old ≠ some .directory := by simp [hfile]
  have hnewNode : (t.remove old).at? new ≠ some .directory := by
    rw [at?_remove (ne_nil_of_at? holdFile)]
    split
    · simp
    · exact hnode
  have hkeeps := (keepsDirectories_remove holdFile).trans (keepsDirectories_put moved hnewNode)
  refine read_eq_ok_iff.2 ⟨new, hkeeps.locate hnew, ?_⟩
  rw [at?_put _ (ne_nil_of_at? hnode), if_pos rfl]

end BucketAccess.Files.Tree
