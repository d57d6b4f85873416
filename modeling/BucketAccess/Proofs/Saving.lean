/-
**Saving, and reading what was saved.**

A policy that has been saved is found under the path it was saved to, and the text in it is the text
that was written: its bytes are ASCII characters, and there is no line ending in it that reading
would change.

Main results:

* `BucketAccess.Saving.read_of_save` — **saving leaves the text of the policy in the file**;
* `BucketAccess.Saving.decode_savedText`, `BucketAccess.Saving.unifyNewlines_savedText` — and
  reading gives this text;
* `BucketAccess.Saving.read_savedText` — the policy in it is read back, unless it holds an infinite
  number.
-/

import BucketAccess.Generator
import BucketAccess.Proofs.Files.Tree
import BucketAccess.Proofs.Json.Ascii
import BucketAccess.Proofs.Work

set_option relaxedAutoImplicit false
set_option autoImplicit false

namespace BucketAccess.Saving

open BucketAccess.Files (Path)
open BucketAccess.Json (Value)
open BucketAccess.Text

/-! ### The file -/

/-- A file that takes the name of another one keeps what it holds. -/
theorem read_of_settle {new final : Path} {bytes : List UInt8} {w w' : Workspace} {u : Unit}
    (hread : w.files.read new = .ok bytes) (h : (settle new final).runIn w = (.ok u, w')) :
    w'.files.read final = .ok bytes ∧ w'.printed = w.printed := by
  rw [settle, Work.runIn_tryCatch, Work.runIn_changeFiles] at h
  cases hrename : w.files.rename new final with
  | ok files =>
      obtain rfl : { w with files := files } = w' := by simpa [hrename] using h
      exact ⟨Files.Tree.read_of_rename hread hrename, rfl⟩
  | error fault =>
      -- the draft is removed, and the failure is passed on
      simp only [hrename] at h
      obtain ⟨_, _, -, hthrow⟩ := Work.runIn_bind_ok_iff.1 h
      simp at hthrow

theorem read_of_publish {new final path : Path} {bytes : List UInt8} {w w' : Workspace}
    (h : (do
        Work.changeFiles (·.write new bytes)
        settle new final
        return final : Work Path).runIn w = (.ok path, w')) :
    path = final ∧ w'.files.read path = .ok bytes ∧ w'.printed = w.printed := by
  obtain ⟨_, w₁, hwrite, h⟩ := Work.runIn_bind_ok_iff.1 h
  obtain ⟨files, hfiles, rfl⟩ := Work.runIn_changeFiles_ok_iff.1 hwrite
  obtain ⟨_, w₂, hsettle, h⟩ := Work.runIn_bind_ok_iff.1 h
  obtain ⟨hread, hprinted⟩ := read_of_settle (Files.Tree.read_of_write hfiles) hsettle
  obtain ⟨rfl, rfl⟩ : final = path ∧ w₂ = w' := by simpa using h
  exact ⟨rfl, hread, hprinted⟩

/-- **Saving leaves the text of the policy in the file**, and prints nothing. -/
theorem read_of_save {directory path : Path} {tag : String} {document : Value}
    {bucket : Option String} {w w' : Workspace}
    (h : (save directory tag document bucket).runIn w = (.ok path, w')) :
    path = target directory bucket ∧
      w'.files.read path = .ok (Utf8.encode (savedText document)) ∧ w'.printed = w.printed := by
  unfold save at h
  obtain ⟨_, w₁, hmake, h⟩ := Work.runIn_bind_ok_iff.1 h
  obtain ⟨files, -, rfl⟩ := Work.runIn_alterFiles_ok_iff.1 hmake
  obtain ⟨there, w₂, hask, h⟩ := Work.runIn_bind_ok_iff.1 h
  obtain ⟨-, rfl⟩ := Work.runIn_askFiles_ok_iff.1 hask
  cases there with
  | false =>
      simp only [Bool.false_eq_true, if_false] at h
      have hpublish := read_of_publish h
      exact hpublish
  | true =>
      simp only [if_true] at h
      obtain ⟨_, w₃, hrecord, h⟩ := Work.runIn_bind_ok_iff.1 h
      rw [Work.runIn_record] at hrecord
      obtain ⟨-, rfl⟩ := Prod.mk.inj hrecord
      have hpublish := read_of_publish h
      exact hpublish

/-! ### The text -/

/-- ASCII characters are their own bytes. -/
theorem encode_ascii {s : List Char} (h : ∀ c ∈ s, c.toNat ≤ 0x7F) :
    Utf8.encode s = s.map fun c => UInt8.ofNat c.toNat := by
  induction s with
  | nil => rfl
  | cons c rest ih =>
      have hrest := ih fun d hd => h d (List.mem_cons_of_mem _ hd)
      have hc : Utf8.encodeChar c = [UInt8.ofNat c.toNat] := by
        rw [Utf8.encodeChar, if_pos (h c (by simp))]
      simp only [Utf8.encode] at hrest
      simp [Utf8.encode, hc, hrest]

theorem decode_encode_ascii {s : List Char} (h : ∀ c ∈ s, c.toNat ≤ 0x7F) :
    Utf8.decode (Utf8.encode s) = .ok s := by
  have hbyte : ∀ c ∈ s, (UInt8.ofNat c.toNat).toNat = c.toNat := by
    intro c hc
    have := h c hc
    rw [UInt8.toNat_ofNat']
    omega
  have hascii : ∀ b ∈ Utf8.encode s, b.toNat ≤ 0x7F := by
    rw [encode_ascii h]
    intro b hb
    obtain ⟨c, hc, rfl⟩ := List.mem_map.1 hb
    rw [hbyte c hc]
    exact h c hc
  rw [Utf8.decode_ascii hascii, encode_ascii h, List.map_map]
  refine congrArg Except.ok ?_
  have hid : ∀ c ∈ s, (Char.ofNat (UInt8.ofNat c.toNat).toNat) = c := by
    intro c hc
    rw [hbyte c hc, Char.ofNat_toNat]
  exact (List.map_congr_left hid).trans (List.map_id' s)

theorem isVisible_or_newLine_of_mem_savedText {document : Value} (hwf : document.WellFormed)
    {c : Char} (h : c ∈ savedText document) : Json.IsVisible c ∨ c = '\n' := by
  rcases List.mem_append.1 h with h | h
  · exact Json.isVisible_or_newLine_of_mem_written hwf h
  · exact .inr (List.mem_singleton.1 h)

/-- The bytes of a saved policy are its text. -/
theorem decode_savedText {document : Value} (hwf : document.WellFormed) :
    Utf8.decode (Utf8.encode (savedText document)) = .ok (savedText document) := by
  refine decode_encode_ascii fun c hc => ?_
  rcases isVisible_or_newLine_of_mem_savedText hwf hc with h | rfl
  · exact Nat.le_succ_of_le h.2
  · decide

/-- No line ending of a saved policy is changed. -/
theorem unifyNewlines_savedText {document : Value} (hwf : document.WellFormed) :
    unifyNewlines (savedText document) = savedText document := by
  refine unifyNewlines_of_not_mem fun hc => ?_
  rcases isVisible_or_newLine_of_mem_savedText hwf hc with h | h
  · exact absurd h (by decide)
  · exact absurd h (by decide)

/-- **A saved policy is read back, unless it holds an infinite number.** -/
theorem read_savedText {document : Value} (hwf : document.WellFormed) {limit : Nat}
    (hdepth : document.depth ≤ limit) :
    Json.read limit (String.ofList (savedText document)) =
      match document.excluded? with
      | none => .ok document
      | some word => .error (.excluded word) :=
  Json.read_written Json.isBlank_indented hwf hdepth (by simp [Json.isSpace])

end BucketAccess.Saving
