/-
**Texts that begin differently.**

Messages are told apart by how they begin.  Two texts diverge when they differ at a place that both
of them have, and then they diverge whatever follows; so it is enough to look at the first words of
a message, and the words of a user behind them do not matter.

Main definitions:

* `BucketAccess.Text.Diverge` — texts neither of which is a beginning of the other.

Main results:

* `BucketAccess.Text.diverge_ofList`, `BucketAccess.Text.Diverge.coe` — two written-out texts,
  character by character;
* `BucketAccess.Text.Diverge.append_right`, `BucketAccess.Text.Diverge.append` — **what follows does
  not matter**;
* `BucketAccess.Text.append_prefix_append_iff` — texts that begin alike.
-/

import BucketAccess.Proofs.Text.Points

set_option relaxedAutoImplicit false
set_option autoImplicit false

namespace BucketAccess.Text

/-- Texts neither of which is a beginning of the other. -/
def Diverge {α : Type} (s t : List α) : Prop :=
  ¬ s <+: t ∧ ¬ t <+: s

instance {α : Type} [DecidableEq α] (s t : List α) : Decidable (Diverge s t) :=
  inferInstanceAs (Decidable (_ ∧ _))

/-- Two written-out texts diverge when their characters do.  A string between quotes is such a list
of characters, so the characters are compared without taking the strings apart. -/
theorem diverge_ofList {s t : List Char} (h : Diverge s t) :
    Diverge (String.ofList s).toList (String.ofList t).toList := by
  rwa [String.toList_ofList, String.toList_ofList]

/-- Texts diverge as rows of points, too. -/
theorem Diverge.coe {s t : String} (h : Diverge s.toList t.toList) :
    Diverge (s : Str).toList (t : Str).toList :=
  ⟨mt prefix_map_char_iff.1 h.1, mt prefix_map_char_iff.1 h.2⟩

/-- **What follows does not matter.** -/
theorem Diverge.append_right {α : Type} {s t : List α} (h : Diverge s t) (rest : List α) :
    Diverge s (t ++ rest) := by
  refine ⟨fun hprefix => ?_, fun hprefix => h.2 ((List.prefix_append _ _).trans hprefix)⟩
  rcases List.prefix_or_prefix_of_prefix hprefix (List.prefix_append t rest) with hshort | hlong
  · exact h.1 hshort
  · exact h.2 hlong

theorem Diverge.append {s : List Char} {t : String} (h : Diverge s t.toList) (rest : String) :
    Diverge s (t ++ rest).toList := by
  rw [String.toList_append]
  exact h.append_right rest.toList

/-- Texts that begin alike are compared behind that beginning. -/
theorem append_prefix_append_iff {lead a b : Str} :
    (lead ++ a).toList <+: (lead ++ b).toList ↔ a.toList <+: b.toList := by
  rw [Str.toList_append, Str.toList_append, List.prefix_append_right_inj]

end BucketAccess.Text
