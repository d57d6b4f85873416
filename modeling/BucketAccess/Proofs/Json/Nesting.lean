/-
**Which texts are nested too deep.**

A container that is nested too deep is reported as soon as it is opened, so it does not matter how
its text goes on, or whether it ever ends.  All that counts is what stands in front of it: the
containers around it have been opened, and the elements in front of it have been read without a
fault.  So a text can be told to be nested too deep by the grammar, without asking the reader.

Main definitions:

* `BucketAccess.Json.Before` — the elements in front of another one in the same container;
* `BucketAccess.Json.Opens` — **a text opens a container with too many containers around it**;
* `BucketAccess.Json.OpensTooDeep` — the same, with blanks in front and the greatest nesting;
* `BucketAccess.Json.Reader.Meets` — a reader meets such containers.

Main results:

* `BucketAccess.Json.Reader.Meets.elements_iff` — where the loop over the elements meets one;
* `BucketAccess.Json.run_value_eq_tooDeep_iff` — **when a value is nested too deep**;
* `BucketAccess.Json.read_eq_tooDeep_iff` — the same for documents;
* `BucketAccess.Json.opensTooDeep_replicate` — opening brackets alone, if there are enough of them.
-/

import BucketAccess.Proofs.Json.Completeness

set_option relaxedAutoImplicit false
set_option autoImplicit false

namespace BucketAccess.Json

open BucketAccess.Text (Str)

/-! ### Grammar -/

/-- The elements in front of another one, each with a comma behind it, and the blanks. -/
inductive Before {α : Type} (spells : List Char → α → Prop) : List Char → Prop where
  | nothing {blanks : List Char} (hblanks : IsBlanks blanks) : Before spells blanks
  | element {before s behind front : List Char} {a : α} (hbefore : IsBlanks before)
      (h : spells s a) (hbehind : IsBlanks behind) (hfront : Before spells front) :
      Before spells (before ++ (s ++ (behind ++ ',' :: front)))

/-- A name, a colon with blanks around it, and the beginning of a value. -/
inductive Named (opens : List Char → Prop) : List Char → Prop where
  | mk {name before behind s : List Char} {key : Str} (hname : Quoted name key)
      (hbefore : IsBlanks before) (hbehind : IsBlanks behind) (h : opens s) :
      Named opens (name ++ (before ++ ':' :: (behind ++ s)))

/-- The text of a form that is read with at most so many containers inside one another. -/
def Fitting (n : Nat) (s : List Char) (f : Form) : Prop :=
  f.Spells s ∧ f.Fits n

/-- The bracket that opens a container. -/
def Container.opening : Container → Char
  | .array => '['
  | .object => '{'

/-- **A text opens a container of a certain kind with so many containers around it**, and everything
in front of that follows the grammar. -/
inductive Opens (c : Container) : Nat → List Char → Prop where
  | here (rest : List Char) : Opens c 0 (c.opening :: rest)
  | item {n : Nat} {front s : List Char} (hfront : Before (Fitting n) front) (h : Opens c n s) :
      Opens c (n + 1) ('[' :: (front ++ s))
  | member {n : Nat} {front name before behind s : List Char} {key : Str}
      (hfront : Before (MemberOf (Fitting n)) front) (hname : Quoted name key)
      (hbefore : IsBlanks before) (hbehind : IsBlanks behind) (h : Opens c n s) :
      Opens c (n + 1) ('{' :: (front ++ (name ++ (before ++ ':' :: (behind ++ s)))))

/-- A text opens a container inside so many others that one more may not be opened. -/
def OpensTooDeep (limit : Nat) (c : Container) (s : List Char) : Prop :=
  ∃ blanks t, s = blanks ++ t ∧ IsBlanks blanks ∧ Opens c limit t

theorem Before.blanks_append {α : Type} {spells : List Char → α → Prop} {blanks front : List Char}
    (hblanks : IsBlanks blanks) (h : Before spells front) : Before spells (blanks ++ front) := by
  cases h with
  | nothing h => exact .nothing (hblanks.append h)
  | element hbefore h hbehind hfront =>
      rw [← List.append_assoc]
      exact .element (hblanks.append hbefore) h hbehind hfront

theorem Opens.exists_bracket {c : Container} {n : Nat} {s : List Char} (h : Opens c n s) :
    ∃ d more, s = d :: more ∧ (d = '[' ∨ d = '{') := by
  cases h with
  | here rest => cases c <;> exact ⟨_, rest, rfl, by decide⟩
  | item => exact ⟨'[', _, rfl, .inl rfl⟩
  | member => exact ⟨'{', _, rfl, .inr rfl⟩

theorem Opens.startsElement {c : Container} {n : Nat} {s : List Char} (h : Opens c n s) :
    StartsElement s := by
  obtain ⟨d, more, rfl, rfl | rfl⟩ := h.exists_bracket
  · exact ⟨'[', more, rfl, by decide⟩
  · exact ⟨'{', more, rfl, by decide⟩

theorem Named.startsElement {opens : List Char → Prop} {s : List Char} (h : Named opens s) :
    StartsElement s := by
  obtain ⟨⟨⟩, -, -, -⟩ := h
  exact ⟨'"', _, rfl, by decide⟩

/-- Blanks are skipped up to an element, or up to a container that is nested too deep. -/
theorem IsBlanks.skipSpace_starts {blanks s : List Char} (hblanks : IsBlanks blanks)
    (hs : StartsElement s) : skipSpace (blanks ++ s) = s := by
  have hhead := hs.head []
  rw [List.append_nil] at hhead
  exact hblanks.skipSpace_append hhead

/-! ### Readers -/

theorem Reading.map_eq_error_iff {α β : Type} {f : α → β} {x : Reading α} {fault : Fault Nat} :
    x.map f = .error fault ↔ x = .error fault := by
  rcases x with _ | ⟨a, rest⟩ <;> simp [Reading.map]

section Meets

variable {α β : Type}

/-- **A reader meets containers of a certain kind that are nested too deep** in certain texts, and
what it takes are the texts of a grammar. -/
structure Reader.Meets (reader : Reader α) (c : Container) (spells : List Char → β → Prop)
    (meaning : β → α) (opens : List Char → Prop) : Prop where
  follows : reader.Follows spells (fun _ => True) meaning
  takes : ∀ {t b}, spells t b → reader.Takes t (meaning b)
  starts : ∀ {s}, opens s → StartsElement s
  deep : ∀ s, reader.run s = .error (.tooDeep c) ↔ opens s

variable {reader : Reader α} {c : Container} {spells : List Char → β → Prop} {meaning : β → α}
  {opens : List Char → Prop} {close : Char}

/-- What stands in front of a container that the loop over the elements has met. -/
theorem Reader.Meets.exists_before_of_elements (hreader : reader.Meets c spells meaning opens)
    {s : List Char} (h : elements reader close s = .error (.tooDeep c)) :
    ∃ front t, s = front ++ t ∧ Before spells front ∧ opens t := by
  fun_induction elements reader close s with
  | case1 s fault hrun =>
      obtain rfl := Except.error.inj h
      exact ⟨[], s, rfl, .nothing isBlanks_nil, (hreader.deep s).1 hrun⟩
  | case2 => simp [mistake] at h
  | case3 => simp at h
  | case4 s a after hrun more hafter _ ih =>
      -- the element has been read, so it stands in front of what the rest of the loop has met
      obtain ⟨front, t, hmore, hfront, ht⟩ := ih (Reading.map_eq_error_iff.1 h)
      obtain ⟨u, b, rfl, hu, -⟩ := hreader.follows hrun
      obtain ⟨behind, hbehind, hskip⟩ := exists_blanks_append_skipSpace after
      obtain ⟨blanks, hblanks, hskip'⟩ := exists_blanks_append_skipSpace more
      refine ⟨_, t, ?_, .element isBlanks_nil hu hbehind (hfront.blanks_append hblanks), ht⟩
      rw [hskip, hafter, hskip', hmore]
      simp only [List.nil_append, List.append_assoc, List.cons_append]
  | case5 => simp [mistake] at h

/-- The loop over the elements meets a container behind elements that it takes. -/
theorem Reader.Meets.elements_of_before (hreader : reader.Meets c spells meaning opens)
    (hclose : close = ']' ∨ close = '}') {front t : List Char} (hfront : Before spells front)
    (ht : opens t) : elements reader close (skipSpace (front ++ t)) = .error (.tooDeep c) := by
  have hcomma : close ≠ ',' := by
    rcases hclose with rfl | rfl <;> decide
  induction hfront with
  | nothing hblanks =>
      rw [hblanks.skipSpace_starts (hreader.starts ht)]
      exact elements_of_error ((hreader.deep t).2 ht)
  | element hbefore hu hbehind _ ih =>
      have htake := hreader.takes hu
      simp only [List.append_assoc, List.cons_append]
      rw [hbefore.skipSpace_append (htake.starts.head _),
        elements_of_comma hcomma (htake.run (hbehind.endsNumber_append (endsNumber_comma _)))
          (hbehind.skipSpace_append (by simp [isSpace])), ih, Reading.map_error]

/-- **The loop over the elements meets a container that is nested too deep** behind elements that it
has taken. -/
theorem Reader.Meets.elements_iff (hreader : reader.Meets c spells meaning opens)
    (hclose : close = ']' ∨ close = '}') (s : List Char) :
    elements reader close (skipSpace s) = .error (.tooDeep c) ↔
      ∃ front t, s = front ++ t ∧ Before spells front ∧ opens t := by
  constructor
  · intro h
    obtain ⟨blanks, hblanks, hskip⟩ := exists_blanks_append_skipSpace s
    obtain ⟨front, t, hs, hfront, ht⟩ := hreader.exists_before_of_elements h
    refine ⟨blanks ++ front, t, ?_, hfront.blanks_append hblanks, ht⟩
    rw [List.append_assoc, ← hs]
    exact hskip
  · rintro ⟨front, t, rfl, hfront, ht⟩
    exact hreader.elements_of_before hclose hfront ht

/-- No closing bracket stands where the loop over the elements meets a container. -/
theorem Reader.Meets.exists_starts (hreader : reader.Meets c spells meaning opens)
    {front t : List Char} (hfront : Before spells front) (ht : opens t) :
    ∃ u more, StartsElement u ∧ skipSpace (front ++ t) = u ++ more := by
  cases hfront with
  | nothing hblanks =>
      have hstart := hreader.starts ht
      exact ⟨t, [], hstart, by rw [hblanks.skipSpace_starts hstart, List.append_nil]⟩
  | @element before u behind front a hbefore hu hbehind hfront =>
      have hstart := (hreader.takes hu).starts
      refine ⟨u, behind ++ ',' :: front ++ t, hstart, ?_⟩
      rw [List.append_assoc, List.append_assoc, hbefore.skipSpace_append (hstart.head _)]

end Meets

/-! ### Members -/

/-- A string has no containers in it, so it is never nested too deep. -/
theorem ne_tooDeep_of_piece {opening s : List Char} {c : Container} :
    piece opening s ≠ .error (.tooDeep c) := by
  unfold piece
  split
  · simp [mistake]
  · simp [mistake]
  · split
    · split <;> simp [mistake]
    · split <;> simp [mistake]
  · split <;> simp [mistake]

theorem ne_tooDeep_of_pieces {opening s : List Char} {c : Container} :
    pieces opening s ≠ .error (.tooDeep c) := by
  fun_induction pieces opening s with
  | case1 => simp
  | case2 s _ fault hpiece =>
      intro h
      obtain rfl := Except.error.inj h
      exact ne_tooDeep_of_piece hpiece
  | case3 _ _ _ _ _ ih => exact fun h => ih (Reading.map_eq_error_iff.1 h)

theorem ne_tooDeep_of_stringBody {s : List Char} {c : Container} :
    stringBody.run s ≠ .error (.tooDeep c) :=
  fun h => ne_tooDeep_of_pieces (Reading.map_eq_error_iff.1 h)

theorem run_member_eq_tooDeep_iff {reader : Reader Value} {c : Container}
    {opens : List Char → Prop} (hstarts : ∀ {s}, opens s → StartsElement s)
    (hdeep : ∀ s, reader.run s = .error (.tooDeep c) ↔ opens s) (s : List Char) :
    (member reader).run s = .error (.tooDeep c) ↔ Named opens s := by
  constructor
  · intro h
    simp only [member] at h
    split at h
    · split at h
      · next hname =>
          obtain rfl := Except.error.inj h
          exact absurd hname ne_tooDeep_of_stringBody
      · next named key after hname =>
          split at h
          · next more hafter =>
              have hopens := (hdeep _).1 (Reading.map_eq_error_iff.1 h)
              obtain ⟨name, hquoted, hnamed⟩ := exists_quoted_of_stringBody hname
              obtain ⟨before, hbefore, hskip⟩ := exists_blanks_append_skipSpace after
              obtain ⟨behind, hbehind, hskip'⟩ := exists_blanks_append_skipSpace more
              rw [hnamed, hskip, hafter, hskip']
              exact .mk hquoted hbefore hbehind hopens
          · simp [mistake] at h
    · simp [mistake] at h
  · rintro @⟨name, before, behind, t, key, hname, hbefore, hbehind, ht⟩
    obtain ⟨u, hu, hkey⟩ := exists_body_of_quoted hname (before ++ ':' :: (behind ++ t))
    have hafter : skipSpace (before ++ ':' :: (behind ++ t)) = ':' :: (behind ++ t) :=
      hbefore.skipSpace_append (by simp [isSpace])
    simp only [member, hu, hkey, hafter, hbehind.skipSpace_starts (hstarts ht), (hdeep t).2 ht,
      Reading.map_error]

/-- A member meets what its value does. -/
theorem meets_member {reader : Reader Value} {c : Container} {β : Type}
    {spells : List Char → β → Prop} {meaning : β → Value} {opens : List Char → Prop}
    (hreader : reader.Meets c spells meaning opens) :
    (member reader).Meets c (MemberOf spells) (fun m => (m.1, meaning m.2)) (Named opens) where
  follows := follows_member hreader.follows
  takes h := takes_member (h.imp fun _ hs => hreader.takes hs)
  starts := Named.startsElement
  deep := run_member_eq_tooDeep_iff hreader.starts hreader.deep

/-! ### Values -/

/-- A value that holds no values is not nested at all. -/
theorem ne_tooDeep_of_scalar {s : List Char} {c : Container} : scalar s ≠ .error (.tooDeep c) := by
  have hvalue : ∀ n : Numeral, n.value ≠ .error (.tooDeep c) := by
    intro n
    unfold Numeral.value
    split
    · split <;> simp
    · simp
  unfold scalar
  split
  · exact fun h => ne_tooDeep_of_stringBody (Reading.map_eq_error_iff.1 h)
  · unfold atom
    split
    · simp
    · split
      · simp
      · split
        · simp [mistake]
        · next n rest _ =>
            cases hn : n.value with
            | ok v => simp [Except.map]
            | error fault =>
                intro h
                obtain rfl := Except.error.inj h
                exact hvalue n hn

section Containers

variable {element : Reader Value} {c : Container} {n : Nat} {s : List Char}

theorem array_eq_tooDeep_iff
    (helement : element.Meets c (Fitting n) Form.value (Opens c n)) :
    array element s = .error (.tooDeep c) ↔ Opens c (n + 1) ('[' :: s) := by
  constructor
  · intro h
    have hloop : elements element ']' (skipSpace s) = .error (.tooDeep c) := by
      unfold array at h
      split at h
      · simp at h
      · exact Reading.map_eq_error_iff.1 h
    obtain ⟨front, t, rfl, hfront, ht⟩ := (helement.elements_iff (.inl rfl) s).1 hloop
    exact .item hfront ht
  · intro h
    cases h with
    | @item _ front t hfront ht =>
        have hloop := helement.elements_of_before (.inl rfl) hfront ht
        obtain ⟨u, more, hstart, hskip⟩ := helement.exists_starts hfront ht
        rw [array_of_starts hstart hskip, ← hskip, hloop, Reading.map_error]

theorem object_eq_tooDeep_iff
    (helement : element.Meets c (Fitting n) Form.value (Opens c n)) :
    object element s = .error (.tooDeep c) ↔ Opens c (n + 1) ('{' :: s) := by
  have hmember := meets_member helement
  constructor
  · intro h
    have hloop : elements (member element) '}' (skipSpace s) = .error (.tooDeep c) := by
      unfold object at h
      split at h
      · simp at h
      · exact Reading.map_eq_error_iff.1 h
    obtain ⟨front, t, rfl, hfront, ⟨hname, hbefore, hbehind, ht⟩⟩ :=
      (hmember.elements_iff (.inr rfl) s).1 hloop
    exact .member hfront hname hbefore hbehind ht
  · intro h
    cases h with
    | @member _ front name before behind t key hfront hname hbefore hbehind ht =>
        have hnamed : Named (Opens c n) (name ++ (before ++ ':' :: (behind ++ t))) :=
          .mk hname hbefore hbehind ht
        have hloop := hmember.elements_of_before (.inr rfl) hfront hnamed
        obtain ⟨u, more, hstart, hskip⟩ := hmember.exists_starts hfront hnamed
        rw [object_of_starts hstart hskip, ← hskip, hloop, Reading.map_error]

end Containers

/-- What is known of the failures of a value makes it a reader that containers can rely on. -/
theorem meets_value {c : Container} {n : Nat}
    (hdeep : ∀ s, (value n).run s = .error (.tooDeep c) ↔ Opens c n s) :
    (value n).Meets c (Fitting n) Form.value (Opens c n) where
  follows := by
    intro s rest v h
    obtain ⟨t, f, hs, hspells, hfits, hvalue⟩ := follows_value n h
    exact ⟨t, f, hs, ⟨hspells, hfits⟩, trivial, hvalue⟩
  takes h := takes_value h.1 n h.2
  starts := Opens.startsElement
  deep := hdeep

/-- **When a value is nested too deep.** -/
theorem run_value_eq_tooDeep_iff (c : Container) (n : Nat) (s : List Char) :
    (value n).run s = .error (.tooDeep c) ↔ Opens c n s := by
  induction n generalizing s with
  | zero =>
      constructor
      · intro h
        simp only [value, valueWithin] at h
        split at h
        · obtain rfl : Container.array = c := by simpa using h
          exact .here _
        · obtain rfl : Container.object = c := by simpa using h
          exact .here _
        · next hsome => simp at hsome
        · next hsome => simp at hsome
        · exact absurd h ne_tooDeep_of_scalar
      · rintro ⟨rest⟩
        cases c <;> rfl
  | succ n ih =>
      have helement := meets_value ih
      constructor
      · intro h
        simp only [value, valueWithin] at h
        split at h
        · next hnone => simp at hnone
        · next hnone => simp at hnone
        · next hsome =>
            obtain rfl := Option.some.inj hsome
            exact (array_eq_tooDeep_iff helement).1 h
        · next hsome =>
            obtain rfl := Option.some.inj hsome
            exact (object_eq_tooDeep_iff helement).1 h
        · exact absurd h ne_tooDeep_of_scalar
      · intro h
        cases h with
        | item hfront ht => exact (array_eq_tooDeep_iff helement).2 (.item hfront ht)
        | member hfront hname hbefore hbehind ht =>
            exact (object_eq_tooDeep_iff helement).2 (.member hfront hname hbefore hbehind ht)

/-! ### Documents -/

theorem document_eq_tooDeep_iff {limit : Nat} {c : Container} {s : List Char} :
    document limit s = .error (.tooDeep c) ↔ OpensTooDeep limit c s := by
  constructor
  · intro h
    unfold document at h
    split at h
    · simp at h
    · split at h
      · next fault hrun =>
          obtain rfl := Except.error.inj h
          obtain ⟨blanks, hblanks, hs⟩ := exists_blanks_append_skipSpace s
          exact ⟨blanks, _, hs, hblanks, (run_value_eq_tooDeep_iff c _ _).1 hrun⟩
      · split at h
        · simp at h
        · simp at h
  · rintro ⟨blanks, t, rfl, hblanks, ht⟩
    have hstart := ht.startsElement
    unfold document
    split
    · next more heq =>
        rw [← List.append_nil t] at heq
        exact absurd heq (head_ne_mark hblanks hstart)
    · rw [hblanks.skipSpace_starts hstart, (run_value_eq_tooDeep_iff c _ _).2 ht]

/-- **When a document is nested too deep.** -/
theorem read_eq_tooDeep_iff {limit : Nat} {c : Container} {text : String} :
    read limit text = .error (.tooDeep c) ↔ OpensTooDeep limit c text.toList := by
  rw [← document_eq_tooDeep_iff, read]
  cases document limit text.toList with
  | ok v => simp [Except.mapError]
  | error fault => cases fault <;> simp [Except.mapError, Fault.map]

/-! ### Opening brackets -/

theorem opens_replicate (n : Nat) (rest : List Char) :
    Opens .array n (List.replicate (n + 1) '[' ++ rest) := by
  induction n with
  | zero => exact .here rest
  | succ n ih =>
      have hitem : Opens .array (n + 1) ('[' :: ([] ++ (List.replicate (n + 1) '[' ++ rest))) :=
        .item (.nothing isBlanks_nil) ih
      exact hitem

/-- **A row of opening brackets is nested too deep** as soon as it is longer than the greatest
nesting. -/
theorem opensTooDeep_replicate {limit n : Nat} (h : limit < n) :
    OpensTooDeep limit .array (List.replicate n '[') := by
  obtain ⟨more, rfl⟩ := Nat.exists_eq_add_of_le h
  refine ⟨[], _, rfl, isBlanks_nil, ?_⟩
  rw [List.replicate_append_replicate.symm]
  exact opens_replicate limit _

end BucketAccess.Json
