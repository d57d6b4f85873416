/-
**Actions as they are typed.**

What is typed is put behind the actions that are ticked already.  Texts that stand one below the
other give the same as texts that are typed one after the other, so that a text is read line by
line: a line with something on it adds its name, without the blanks around it, and a line with
nothing but blanks adds none.  Nothing is lost on the way, nothing changes places, and a name may
come again.

A list of names can be typed and read back exactly when each name fills its line: there is
something in it, it stands on one line, and neither its first nor its last character is blank.  All
names that are ever read from a text are of this kind.

Main definitions:

* `BucketAccess.Policy.FillsLine` — names that fill their line from one end to the other.

Main results:

* `BucketAccess.Policy.fillsLine_of_mem_typedActions` — what is read from a text fills its line;
* `BucketAccess.Policy.mergeActions_intercalate` — texts one below the other are texts one after
  the other;
* `BucketAccess.Policy.mergeActions_line_by_line` — **typed actions are taken line by line, and none
  is lost**.
-/

import BucketAccess.Policy.Selection

set_option relaxedAutoImplicit false
set_option autoImplicit false

namespace BucketAccess.Policy

open BucketAccess.Text

/-! ### Names on a line -/

/-- Names that fill their line: there is something in them, no line feed inside, and no blank at the
two ends.  A carriage return inside does no harm, unlike in a file (`IsEntry`): typed lines end in
line feeds only. -/
structure FillsLine (name : String) : Prop where
  ne_empty : name ≠ ""
  noLineFeed : '\n' ∉ name.toList
  first : ∀ c ∈ name.toList.head?, isBlank c = false
  last : ∀ c ∈ name.toList.getLast?, isBlank c = false

/-- To fill its line, a name on one line has something in it and nothing to strip. -/
theorem fillsLine_iff {name : String} :
    FillsLine name ↔ name ≠ "" ∧ '\n' ∉ name.toList ∧ strip name = name := by
  rw [strip_eq_self_iff]
  constructor
  · rintro ⟨hne, hfeed, hfirst, hlast⟩
    exact ⟨hne, hfeed, hfirst, hlast⟩
  · rintro ⟨hne, hfeed, hfirst, hlast⟩
    exact ⟨hne, hfeed, hfirst, hlast⟩

instance : DecidablePred FillsLine :=
  fun _ => decidable_of_iff _ fillsLine_iff.symm

/-- What is read from a text fills its line. -/
theorem fillsLine_of_mem_typedActions {s : List Char} {name : String}
    (h : name ∈ typedActions s) : FillsLine name := by
  simp only [typedActions, List.mem_map, List.mem_filter] at h
  obtain ⟨kept, ⟨⟨line, hline, rfl⟩, hkept⟩, rfl⟩ := h
  have hfeed : '\n' ∉ line := not_mem_of_mem_splitOn hline
  refine ⟨?_, ?_, ?_, ?_⟩
  · simpa using hkept
  · rw [String.toList_ofList]
    exact fun hmem => hfeed (mem_of_mem_trim hmem)
  · rw [String.toList_ofList]
    exact head_trim line
  · rw [String.toList_ofList]
    exact last_trim line

/-! ### Lines one below the other -/

section Lines

variable (ticked : List String)

/-- A line adds its name, without the blanks around it, unless there is nothing on it. -/
theorem mergeActions_line {line : String} (h : '\n' ∉ line.toList) :
    mergeActions ticked (some line) =
      if strip line = "" then ticked else ticked ++ [strip line] := by
  rw [mergeActions, typedActions, splitOn_of_not_mem h]
  by_cases hblank : trim line.toList = [] <;> simp [strip, hblank]

theorem mergeActions_of_fillsLine {name : String} (h : FillsLine name) :
    mergeActions ticked (some name) = ticked ++ [name] := by
  obtain ⟨hne, hfeed, hstrip⟩ := fillsLine_iff.1 h
  rw [mergeActions_line ticked hfeed, hstrip, if_neg hne]

/-- **Texts one below the other are texts one after the other.** -/
theorem mergeActions_intercalate (texts : List String) :
    mergeActions ticked (some ("\n".intercalate texts)) =
      texts.foldl (fun actions text => mergeActions actions (some text)) ticked := by
  induction texts generalizing ticked with
  | nil => simp [mergeActions, typedActions, splitOn]
  | cons text rest ih =>
      cases rest with
      | nil => rw [String.intercalate_singleton, List.foldl_cons, List.foldl_nil]
      | cons second more =>
          rw [String.intercalate_cons_cons, mergeActions_append]
          exact ih (mergeActions ticked (some text))

/-- Names that fill their lines are all added, in their order. -/
theorem foldl_mergeActions_of_fillsLine {names : List String}
    (h : ∀ name ∈ names, FillsLine name) :
    names.foldl (fun actions name => mergeActions actions (some name)) ticked =
      ticked ++ names := by
  induction names generalizing ticked with
  | nil => rw [List.foldl_nil, List.append_nil]
  | cons name rest ih =>
      have hname : FillsLine name := h name (by simp)
      rw [List.foldl_cons, mergeActions_of_fillsLine ticked hname,
        ih _ fun other hother => h other (List.mem_cons_of_mem _ hother), List.append_assoc,
        List.singleton_append]

/-- What is added to the ticked actions, if anything is, fills its lines. -/
theorem exists_mergeActions_eq_append (typed : Option String) :
    ∃ added, mergeActions ticked typed = ticked ++ added ∧ ∀ name ∈ added, FillsLine name := by
  cases typed with
  | none => exact ⟨[], (List.append_nil _).symm, by simp⟩
  | some text => exact ⟨typedActions text.toList, rfl, fun _ => fillsLine_of_mem_typedActions⟩

/-- Typed names are read back exactly when each of them fills its line. -/
theorem mergeActions_intercalate_eq_append_iff {names : List String} :
    mergeActions ticked (some ("\n".intercalate names)) = ticked ++ names ↔
      ∀ name ∈ names, FillsLine name := by
  constructor
  · intro h
    obtain ⟨added, hadded, hfills⟩ :=
      exists_mergeActions_eq_append ticked (some ("\n".intercalate names))
    rw [h, List.append_cancel_left_eq] at hadded
    exact hadded ▸ hfills
  · intro h
    rw [mergeActions_intercalate, foldl_mergeActions_of_fillsLine ticked h]

/-- **Typed actions are taken line by line, and none is lost.**  Texts on different lines are taken
one after the other, and a line adds what stands on it between the blanks, if there is anything.
So names that are typed one on each line are all added, with their order and their repetitions,
exactly when each of them fills its line; and whatever is typed, what is added to the ticked actions
are names with something in them, on one line, with no blanks left to strip. -/
theorem mergeActions_line_by_line :
    (∀ s t : String, mergeActions ticked (some (s ++ "\n" ++ t)) =
      mergeActions (mergeActions ticked (some s)) (some t)) ∧
    (∀ line : String, '\n' ∉ line.toList → mergeActions ticked (some line) =
      if strip line = "" then ticked else ticked ++ [strip line]) ∧
    (∀ names : List String, mergeActions ticked (some ("\n".intercalate names)) = ticked ++ names ↔
      ∀ name ∈ names, FillsLine name) ∧
    ∀ typed : Option String, ∃ added, mergeActions ticked typed = ticked ++ added ∧
      ∀ name ∈ added, name ≠ "" ∧ '\n' ∉ name.toList ∧ strip name = name := by
  refine ⟨mergeActions_append ticked, fun line => mergeActions_line ticked,
    fun names => mergeActions_intercalate_eq_append_iff ticked, fun typed => ?_⟩
  obtain ⟨added, hadded, hfills⟩ := exists_mergeActions_eq_append ticked typed
  exact ⟨added, hadded, fun name hname => fillsLine_iff.1 (hfills name hname)⟩

end Lines

/-- A name with blanks around it, and names one of which comes twice, typed below the same ticked
action. -/
theorem mergeActions_repeatedName :
    ('\n' ∉ "  s3:ListBucket\t".toList ∧
      mergeActions ["s3:GetObject"] (some "  s3:ListBucket\t") =
        ["s3:GetObject", "s3:ListBucket"]) ∧
    (∀ name ∈ ["s3:PutObject", "s3:GetObject", "s3:PutObject"], FillsLine name) ∧
      mergeActions ["s3:GetObject"]
          (some ("\n".intercalate ["s3:PutObject", "s3:GetObject", "s3:PutObject"])) =
        ["s3:GetObject", "s3:PutObject", "s3:GetObject", "s3:PutObject"] := by
  obtain ⟨-, hline, hnames, -⟩ := mergeActions_line_by_line ["s3:GetObject"]
  have hfeed : '\n' ∉ "  s3:ListBucket\t".toList := by decide
  have hfills : ∀ name ∈ ["s3:PutObject", "s3:GetObject", "s3:PutObject"], FillsLine name := by
    decide
  exact ⟨⟨hfeed, (hline _ hfeed).trans (by decide)⟩, hfills, (hnames _).2 hfills⟩

end BucketAccess.Policy
