/-
**Documents read back.**

What has been written is read again, whichever blanks stand between the tokens.  The one exception
are numbers that have become infinite: they are written as words that no document may hold, and
reading stops at the first of them.

Main definitions:

* `BucketAccess.Json.Value.excluded?` — the word for the first infinite number in a value;
* `BucketAccess.Json.Spacing.IsBlank` — only blanks stand between the tokens.

Main results:

* `BucketAccess.Json.run_value_written` — a value reads back, whatever follows it;
* `BucketAccess.Json.document_written`, `BucketAccess.Json.read_written` — **a document reads back,
  unless it holds an infinite number**.
-/

import BucketAccess.Json.Writer
import BucketAccess.Proofs.Json.Number
import BucketAccess.Proofs.Json.Text
import BucketAccess.Proofs.Json.WellFormed

set_option relaxedAutoImplicit false
set_option autoImplicit false

namespace BucketAccess.Json

open BucketAccess.Decimal (Double intDigits plainLayout)
open BucketAccess.Text (Str dropLead? isDigit)

/-! ### Excluded words -/

mutual

/-- The word for the first infinite number in a value, if there is one. -/
def Value.excluded? : Value → Option String
  | .real (.infinite negative) => some (if negative then "-Infinity" else "Infinity")
  | .arr items => excludedItem? items
  | .obj members => excludedMember? members
  | _ => none

/-- The word for the first infinite number in a list of items. -/
def excludedItem? : List Value → Option String
  | [] => none
  | v :: rest => v.excluded?.or (excludedItem? rest)

/-- The word for the first infinite number in a list of members. -/
def excludedMember? : List (Str × Value) → Option String
  | [] => none
  | (_, v) :: rest => v.excluded?.or (excludedMember? rest)

end

theorem excludedItem?_eq (items : List Value) :
    excludedItem? items = items.findSome? Value.excluded? := by
  induction items with
  | nil => rfl
  | cons v rest ih =>
      rw [excludedItem?, List.findSome?_cons, ih]
      cases v.excluded? <;> rfl

theorem excludedMember?_eq (members : Members) :
    excludedMember? members = members.findSome? fun m => m.2.excluded? := by
  induction members with
  | nil => rfl
  | cons m rest ih =>
      rw [excludedMember?, List.findSome?_cons, ih]
      cases m.2.excluded? <;> rfl

/-- What reading gives for something that has been written: the same again, unless a word in it is
excluded. -/
def readBack {α : Type} (excluded : Option String) (a : α) (rest : List Char) : Reading α :=
  match excluded with
  | none => .ok (a, rest)
  | some word => .error (.excluded word)

theorem map_readBack {α β : Type} (f : α → β) (excluded : Option String) (a : α)
    (rest : List Char) :
    (readBack excluded a rest).map f = readBack excluded (f a) rest := by
  cases excluded <;> rfl

/-! ### Blanks -/

/-- Only blanks stand between the tokens. -/
structure Spacing.IsBlank (spacing : Spacing) : Prop where
  opening : ∀ depth, ∀ c ∈ spacing.opening depth, isSpace c = true
  between : ∀ depth, ∀ c ∈ spacing.between depth, isSpace c = true
  closing : ∀ depth, ∀ c ∈ spacing.closing depth, isSpace c = true

theorem isBlank_oneLine : oneLine.IsBlank :=
  ⟨by simp [oneLine], by simp [oneLine, isSpace], by simp [oneLine]⟩

theorem isSpace_of_mem_newLine {depth : Nat} {c : Char} (h : c ∈ newLine depth) :
    isSpace c = true := by
  rcases List.mem_cons.1 h with rfl | h
  · decide
  · rw [(List.mem_replicate.1 h).2]
    decide

theorem isBlank_indented : indented.IsBlank :=
  ⟨fun _ _ => isSpace_of_mem_newLine, fun _ _ => isSpace_of_mem_newLine,
    fun _ _ => isSpace_of_mem_newLine⟩

/-- Blanks are skipped up to the next token. -/
theorem skipSpace_append {blanks s : List Char} (hblanks : ∀ c ∈ blanks, isSpace c = true)
    (hs : ∀ c ∈ s.head?, isSpace c = false) : skipSpace (blanks ++ s) = s := by
  rw [skipSpace, List.dropWhile_append_of_pos hblanks]
  cases s with
  | nil => rfl
  | cons c more => rw [List.dropWhile_cons_of_neg (by simp [hs c rfl])]

theorem skipSpace_of_head {s : List Char} (hs : ∀ c ∈ s.head?, isSpace c = false) :
    skipSpace s = s := by
  have h : skipSpace ([] ++ s) = s := skipSpace_append (by simp) hs
  simpa using h

theorem skipSpace_cons {c : Char} (hc : isSpace c = false) (s : List Char) :
    skipSpace (c :: s) = c :: s := by
  refine skipSpace_of_head ?_
  intro d hd
  obtain rfl : c = d := by simpa using hd
  exact hc

theorem endsNumber_comma (rest : List Char) : EndsNumber (',' :: rest) :=
  endsNumber_cons (by decide) (by decide) (by decide) (by decide) rest

/-- A number ends in front of blanks. -/
theorem endsNumber_append {blanks rest : List Char} (hblanks : ∀ c ∈ blanks, isSpace c = true)
    (hrest : EndsNumber rest) : EndsNumber (blanks ++ rest) := by
  cases blanks with
  | nil => exact hrest
  | cons c more =>
      have hc : ((c = ' ' ∨ c = '\t') ∨ c = '\n') ∨ c = '\r' := by
        simpa [isSpace] using hblanks c (by simp)
      rcases hc with ((rfl | rfl) | rfl) | rfl <;>
        exact endsNumber_cons (by decide) (by decide) (by decide) (by decide) _

/-! ### Scalars -/

theorem ne_of_isDigit {c d : Char} (hc : isDigit c = true) (hd : isDigit d = false) : c ≠ d := by
  rintro rfl
  simp [hc] at hd

/-- A number starts with a digit, or with a minus sign and a digit. -/
theorem Numeral.exists_cons_of_take? {s rest : List Char} {n : Numeral}
    (h : take? s = some (n, rest)) :
    ∃ c more, isDigit c = true ∧ (s = c :: more ∨ s = '-' :: c :: more) := by
  have hdigit : ∀ {t whole after : List Char}, takeWhole? t = some (whole, after) →
      ∃ c more, isDigit c = true ∧ t = c :: more := by
    intro t whole after ht
    cases t with
    | nil => simp [takeWhole?] at ht
    | cons c more =>
        simp only [takeWhole?] at ht
        split at ht
        · next hc => exact ⟨c, more, hc ▸ by decide, rfl⟩
        · split at ht
          · next hc => exact ⟨c, more, hc, rfl⟩
          · simp at ht
  simp only [take?, Option.map_eq_some_iff, Prod.exists] at h
  obtain ⟨whole, after, hwhole, -⟩ := h
  obtain ⟨c, more, hc, hs⟩ := hdigit hwhole
  unfold takeSign at hs
  split at hs
  · exact ⟨c, more, hc, .inr (by rw [← hs])⟩
  · exact ⟨c, more, hc, .inl hs⟩

/-- No number is taken for a word or for another kind of value. -/
theorem scalar_of_take? {s rest : List Char} {n : Numeral} (h : Numeral.take? s = some (n, rest)) :
    scalar s = n.value.map (·, rest) := by
  obtain ⟨c, more, hc, hs⟩ := Numeral.exists_cons_of_take? h
  have hne : ∀ d, isDigit d = false → c ≠ d := by
    intro d hd
    exact ne_of_isDigit hc hd
  have hquote : c ≠ '"' := hne _ (by decide)
  have hatom : scalar s = atom s := by
    rcases hs with rfl | rfl
    · unfold scalar
      split
      · next heq => exact absurd (List.cons.inj heq).1 hquote
      · rfl
    · rfl
  have hword : word? s = none := by
    rcases hs with rfl | rfl
    · simp [word?, words, dropLead?, Ne.symm (hne 'n' (by decide)),
        Ne.symm (hne 't' (by decide)), Ne.symm (hne 'f' (by decide))]
    · simp [word?, words, dropLead?]
  have hexcluded : excludedWords.find? (·.toList.isPrefixOf s) = none := by
    rcases hs with rfl | rfl
    · simp [excludedWords, List.isPrefixOf, Ne.symm (hne 'N' (by decide)),
        Ne.symm (hne 'I' (by decide)), Ne.symm (hne '-' (by decide))]
    · simp [excludedWords, List.isPrefixOf, Ne.symm (hne 'I' (by decide))]
  rw [hatom, atom, hword]
  simp only [hexcluded, h]

theorem scalar_intDigits {i : Int} (hfew : (Decimal.digits i.natAbs).length ≤ maxDigits)
    {rest : List Char} (hrest : EndsNumber rest) :
    scalar (intDigits i ++ rest) = .ok (.int i, rest) := by
  rw [scalar_of_take? (Numeral.take?_intDigits i hrest), Numeral.value_intDigits hfew]
  rfl

theorem scalar_render {x : Double} (h : x.IsRounded) {rest : List Char} (hrest : EndsNumber rest) :
    scalar ((plainLayout "Infinity").render x ++ rest) =
      readBack (Value.real x).excluded? (.real x) rest := by
  cases x with
  | finite negative units =>
      obtain ⟨n, htake, hvalue⟩ := Numeral.exists_take?_render "Infinity" h hrest
      rw [scalar_of_take? htake, hvalue]
      rfl
  | infinite negative =>
      cases negative with
      | true => simp [Decimal.Layout.render, plainLayout, scalar, atom, word?, words, dropLead?,
          excludedWords, Value.excluded?, readBack]
      | false => simp [Decimal.Layout.render, plainLayout, scalar, atom, word?, words, dropLead?,
          excludedWords, Value.excluded?, readBack]

theorem scalar_writtenString {s : Str} (hs : IsJoined s) (rest : List Char) :
    scalar (writtenString s ++ rest) = .ok (.str s, rest) := by
  simp only [writtenString, List.cons_append, List.append_assoc, List.nil_append, scalar,
    run_stringBody_written hs, Reading.map_ok]

/-- A value that is no container. -/
def Value.IsScalar : Value → Prop
  | .arr _ | .obj _ => False
  | _ => True

/-- Values without values in them read back. -/
theorem scalar_written {v : Value} (h : v.WellFormed) (hscalar : v.IsScalar) (spacing : Spacing)
    (depth : Nat) {rest : List Char} (hrest : EndsNumber rest) :
    scalar (v.written spacing depth ++ rest) = readBack v.excluded? v rest := by
  cases h with
  | null => rw [Value.written]; rfl
  | bool b => cases b <;> rw [Value.written] <;> rfl
  | int hfew => rw [Value.written, scalar_intDigits hfew hrest]; rfl
  | real hrounded => rw [Value.written, scalar_render hrounded hrest]
  | str hs => rw [Value.written, scalar_writtenString hs]; rfl
  | arr => exact hscalar.elim
  | obj => exact hscalar.elim

/-! ### How values start -/

/-- Text that does not start with a blank, a closing bracket or a byte-order mark. -/
def StartsElement (s : List Char) : Prop :=
  ∃ c more, s = c :: more ∧ isSpace c = false ∧ c ≠ ']' ∧ c ≠ '}' ∧ c ≠ '\uFEFF'

theorem StartsElement.head {s : List Char} (h : StartsElement s) (rest : List Char) :
    ∀ c ∈ (s ++ rest).head?, isSpace c = false := by
  obtain ⟨c, more, rfl, hspace, -⟩ := h
  simpa using hspace

theorem startsElement_of_take? {s rest : List Char} {n : Numeral}
    (h : Numeral.take? s = some (n, rest)) : StartsElement s := by
  obtain ⟨c, more, hc, rfl | rfl⟩ := Numeral.exists_cons_of_take? h
  · have hne : ∀ d, isDigit d = false → c ≠ d := by
      intro d hd
      exact ne_of_isDigit hc hd
    refine ⟨c, more, rfl, ?_, hne _ (by decide), hne _ (by decide), hne _ (by decide)⟩
    simp [isSpace, hne ' ' (by decide), hne '\t' (by decide), hne '\n' (by decide),
      hne '\r' (by decide)]
  · exact ⟨'-', c :: more, rfl, by decide⟩

theorem startsElement_written {v : Value} (h : v.WellFormed) (spacing : Spacing) (depth : Nat) :
    StartsElement (v.written spacing depth) := by
  cases h with
  | null => rw [Value.written]; exact ⟨_, _, rfl, by decide⟩
  | bool b => cases b <;> rw [Value.written] <;> exact ⟨_, _, rfl, by decide⟩
  | @int i hfew =>
      rw [Value.written, ← List.append_nil (intDigits i)]
      exact startsElement_of_take? (Numeral.take?_intDigits i endsNumber_nil)
  | @real x hrounded =>
      rw [Value.written]
      cases x with
      | finite negative units =>
          obtain ⟨n, htake, -⟩ := Numeral.exists_take?_render "Infinity" hrounded endsNumber_nil
          rw [List.append_nil] at htake
          exact startsElement_of_take? htake
      | infinite negative =>
          cases negative with
          | true => exact ⟨'-', "Infinity".toList, rfl, by decide⟩
          | false => exact ⟨'I', ['n', 'f', 'i', 'n', 'i', 't', 'y'], by decide, by decide⟩
  | str => rw [Value.written, writtenString]; exact ⟨_, _, rfl, by decide⟩
  | @arr items _ => cases items <;> rw [Value.written] <;> exact ⟨_, _, rfl, by decide⟩
  | @obj members _ _ _ =>
      cases members with
      | nil => rw [Value.written]; exact ⟨_, _, rfl, by decide⟩
      | cons m more => rw [Value.written]; exact ⟨_, _, rfl, by decide⟩

/-! ### Elements -/

section Steps

variable {α : Type} {element : Reader α} {close : Char} {s after rest : List Char} {a : α}

theorem elements_of_error {fault : Fault Nat} (h : element.run s = .error fault) :
    elements element close s = .error fault := by
  rw [elements]
  split
  · next heq => exact congrArg Except.error (Except.error.inj (heq.symm.trans h))
  · next heq => simp [heq] at h

/-- The closing bracket follows the last element. -/
theorem elements_of_close (h : element.run s = .ok (a, after))
    (hafter : skipSpace after = close :: rest) :
    elements element close s = .ok ([a], rest) := by
  rw [elements]
  split
  · next heq => simp [heq] at h
  · next heq =>
      obtain ⟨rfl, rfl⟩ := Prod.mk.inj (Except.ok.inj (heq.symm.trans h))
      split
      · next hnil => simp [hnil] at hafter
      · next hcons =>
          obtain ⟨rfl, rfl⟩ := List.cons.inj (hcons.symm.trans hafter)
          rw [if_pos rfl]

/-- A comma follows any other element. -/
theorem elements_of_comma (hclose : close ≠ ',') (h : element.run s = .ok (a, after))
    (hafter : skipSpace after = ',' :: rest) :
    elements element close s = (elements element close (skipSpace rest)).map (a :: ·) := by
  rw [elements]
  split
  · next heq => simp [heq] at h
  · next heq =>
      obtain ⟨rfl, rfl⟩ := Prod.mk.inj (Except.ok.inj (heq.symm.trans h))
      split
      · next hnil => simp [hnil] at hafter
      · next hcons =>
          obtain ⟨rfl, rfl⟩ := List.cons.inj (hcons.symm.trans hafter)
          rw [if_neg (Ne.symm hclose), if_pos rfl]

end Steps

/-- Elements read back when each of them does. -/
theorem elements_written {α : Type} {element : Reader α} {close : Char} {text : α → List Char}
    {excluded? : α → Option String} {between closing : List Char}
    (hclose : close = ']' ∨ close = '}') (hbetween : ∀ c ∈ between, isSpace c = true)
    (hclosing : ∀ c ∈ closing, isSpace c = true) {first : α} {more : List α}
    (hread : ∀ a ∈ first :: more, ∀ {rest}, EndsNumber rest →
      element.run (text a ++ rest) = readBack (excluded? a) a rest)
    (hstart : ∀ a ∈ more, StartsElement (text a)) (rest : List Char) :
    elements element close (text first ++
        ((more.flatMap fun a => ',' :: (between ++ text a)) ++ (closing ++ close :: rest))) =
      readBack ((first :: more).findSome? excluded?) (first :: more) rest := by
  have hspace : isSpace close = false := by
    rcases hclose with rfl | rfl <;> decide
  have hcomma : close ≠ ',' := by
    rcases hclose with rfl | rfl <;> decide
  have hends : EndsNumber (closing ++ close :: rest) := by
    refine endsNumber_append hclosing ?_
    rcases hclose with rfl | rfl <;>
      exact endsNumber_cons (by decide) (by decide) (by decide) (by decide) _
  induction more generalizing first with
  | nil =>
      have hskip : skipSpace (closing ++ close :: rest) = close :: rest :=
        skipSpace_append hclosing (by simpa using hspace)
      have hfirst := hread first (by simp) hends
      rw [List.flatMap_nil, List.nil_append, List.findSome?_singleton]
      cases hword : excluded? first with
      | some word => exact elements_of_error (by rw [hfirst, hword]; rfl)
      | none => exact elements_of_close (by rw [hfirst, hword]; rfl) hskip
  | cons second more ih =>
      have hfirst : ∀ t, element.run (text first ++ ',' :: t) =
          readBack (excluded? first) first (',' :: t) := by
        intro t
        exact hread first (by simp) (endsNumber_comma t)
      have hmore := ih (fun a ha => hread a (List.mem_cons_of_mem _ ha))
        (fun a ha => hstart a (List.mem_cons_of_mem _ ha))
      have hblanks : ∀ t, skipSpace (between ++ (text second ++ t)) = text second ++ t := by
        intro t
        exact skipSpace_append hbetween ((hstart second (by simp)).head t)
      rw [List.flatMap_cons, List.findSome?_cons]
      simp only [List.cons_append, List.append_assoc]
      cases hword : excluded? first with
      | some word => exact elements_of_error (by rw [hfirst, hword]; rfl)
      | none =>
          rw [elements_of_comma hcomma (by rw [hfirst, hword]; rfl)
            (skipSpace_cons (by decide) _), hblanks, hmore]
          exact map_readBack _ _ _ _

/-! ### Values -/

theorem writtenItems_eq (spacing : Spacing) (depth : Nat) (items : List Value) :
    writtenItems spacing depth items =
      items.flatMap fun v => ',' :: (spacing.between depth ++ v.written spacing (depth + 1)) := by
  induction items with
  | nil => rfl
  | cons v rest ih => simp [writtenItems, ih]

/-- A member as it is written. -/
def writtenMember (spacing : Spacing) (depth : Nat) (m : Str × Value) : List Char :=
  writtenString m.1 ++ ':' :: ' ' :: m.2.written spacing (depth + 1)

theorem writtenMembers_eq (spacing : Spacing) (depth : Nat) (members : Members) :
    writtenMembers spacing depth members =
      members.flatMap fun m => ',' :: (spacing.between depth ++ writtenMember spacing depth m) := by
  induction members with
  | nil => rfl
  | cons m rest ih => simp [writtenMembers, writtenMember, ih]

theorem startsElement_writtenMember (spacing : Spacing) (depth : Nat) (m : Str × Value) :
    StartsElement (writtenMember spacing depth m) :=
  ⟨_, _, rfl, by decide⟩

/-- A member reads back when its value does. -/
theorem run_member_written {element : Reader Value} {spacing : Spacing} {depth : Nat}
    {m : Str × Value} {rest : List Char} (hname : IsJoined m.1) (hwf : m.2.WellFormed)
    (hread : element.run (m.2.written spacing (depth + 1) ++ rest) =
      readBack m.2.excluded? m.2 rest) :
    (member element).run (writtenMember spacing depth m ++ rest) =
      readBack m.2.excluded? m rest := by
  have hskip : ∀ t, skipSpace (':' :: t) = ':' :: t := by
    intro t
    exact skipSpace_cons (by decide) t
  have hblank : skipSpace (' ' :: (m.2.written spacing (depth + 1) ++ rest)) =
      m.2.written spacing (depth + 1) ++ rest := by
    have hspace : ∀ c ∈ [' '], isSpace c = true := by simp [isSpace]
    exact skipSpace_append hspace ((startsElement_written hwf spacing (depth + 1)).head rest)
  simp only [member, writtenMember, writtenString, List.cons_append, List.append_assoc,
    List.nil_append, run_stringBody_written hname, hskip, hblank, hread]
  exact map_readBack _ _ _ _

/-- A container is opened in front of something else than its closing bracket. -/
theorem array_of_starts {element : Reader Value} {s t more : List Char} (hstart : StartsElement t)
    (hskip : skipSpace s = t ++ more) :
    array element s = (elements element ']' (t ++ more)).map .arr := by
  rw [array, hskip]
  obtain ⟨c, others, rfl, -, hclose, -⟩ := hstart
  split
  · next heq => exact absurd (List.cons.inj heq).1 hclose
  · rfl

theorem object_of_starts {element : Reader Value} {s t more : List Char} (hstart : StartsElement t)
    (hskip : skipSpace s = t ++ more) :
    object element s =
      (elements (member element) '}' (t ++ more)).map fun named => .obj (Members.ofList named) := by
  rw [object, hskip]
  obtain ⟨c, others, rfl, -, -, hclose, -⟩ := hstart
  split
  · next heq => exact absurd (List.cons.inj heq).1 hclose
  · rfl

section Containers

variable {element : Reader Value} {spacing : Spacing} {depth : Nat}

theorem array_written (hspacing : spacing.IsBlank) {items : List Value}
    (hwf : ∀ v ∈ items, v.WellFormed)
    (hread : ∀ v ∈ items, ∀ {rest}, EndsNumber rest →
      element.run (v.written spacing (depth + 1) ++ rest) = readBack v.excluded? v rest)
    (rest : List Char) :
    (valueWithin (some element)).run ((Value.arr items).written spacing depth ++ rest) =
      readBack (Value.arr items).excluded? (.arr items) rest := by
  cases items with
  | nil =>
      rw [Value.written]
      rfl
  | cons v more =>
      have hloop := elements_written (.inl rfl) (hspacing.between depth) (hspacing.closing depth)
        hread (fun w hw => startsElement_written (hwf w (List.mem_cons_of_mem _ hw)) _ _) rest
      have hstart := startsElement_written (hwf v (by simp)) spacing (depth + 1)
      simp only [Value.written, writtenItems_eq, List.cons_append, List.append_assoc,
        List.nil_append, valueWithin]
      rw [array_of_starts hstart (skipSpace_append (hspacing.opening depth) (hstart.head _)),
        hloop, map_readBack, Value.excluded?, excludedItem?_eq]

theorem object_written (hspacing : spacing.IsBlank) {members : Members}
    (hkeys : members.keys.Nodup) (hnames : ∀ m ∈ members, IsJoined m.1)
    (hwf : ∀ m ∈ members, m.2.WellFormed)
    (hread : ∀ m ∈ members, ∀ {rest}, EndsNumber rest →
      element.run (m.2.written spacing (depth + 1) ++ rest) = readBack m.2.excluded? m.2 rest)
    (rest : List Char) :
    (valueWithin (some element)).run ((Value.obj members).written spacing depth ++ rest) =
      readBack (Value.obj members).excluded? (.obj members) rest := by
  cases members with
  | nil =>
      rw [Value.written]
      rfl
  | cons m more =>
      have hloop := elements_written (.inr rfl) (hspacing.between depth) (hspacing.closing depth)
        (fun a ha _ hends => run_member_written (hnames a ha) (hwf a ha) (hread a ha hends))
        (fun a _ => startsElement_writtenMember spacing depth a) rest
      have hstart := startsElement_writtenMember spacing depth m
      have hwritten : (Value.obj (m :: more)).written spacing depth ++ rest =
          '{' :: (spacing.opening depth ++ (writtenMember spacing depth m ++
            ((more.flatMap fun a =>
              ',' :: (spacing.between depth ++ writtenMember spacing depth a)) ++
              (spacing.closing depth ++ '}' :: rest)))) := by
        simp [Value.written, writtenMembers_eq, writtenMember]
      rw [hwritten]
      simp only [valueWithin]
      rw [object_of_starts hstart (skipSpace_append (hspacing.opening depth) (hstart.head _)),
        hloop, map_readBack, Value.excluded?, excludedMember?_eq, Members.ofList_of_nodup hkeys]

end Containers

/-- What is read as a scalar opens no container. -/
theorem run_valueWithin_of_scalar {element : Option (Reader Value)} {s rest : List Char}
    {excluded : Option String} {v : Value} (h : scalar s = readBack excluded v rest) :
    (valueWithin element).run s = readBack excluded v rest := by
  have hopening : ∀ c more, c = '[' ∨ c = '{' → s ≠ c :: more := by
    rintro c more hc rfl
    have hmistake : scalar (c :: more) = mistake .noValue (c :: more) := by
      rcases hc with rfl | rfl <;>
        simp [scalar, atom, word?, words, dropLead?, excludedWords, Numeral.take?,
          Numeral.takeSign, Numeral.takeWhole?, isDigit]
    rw [hmistake] at h
    cases excluded <;> simp [mistake, readBack] at h
  simp only [valueWithin]
  split
  · exact absurd rfl (hopening '[' _ (.inl rfl))
  · exact absurd rfl (hopening '{' _ (.inr rfl))
  · exact absurd rfl (hopening '[' _ (.inl rfl))
  · exact absurd rfl (hopening '{' _ (.inr rfl))
  · exact h

/-- **A value reads back**, whatever follows it. -/
theorem run_value_written {spacing : Spacing} (hspacing : spacing.IsBlank) {n : Nat} {v : Value}
    (hwf : v.WellFormed) (hdepth : v.depth ≤ n) (depth : Nat) {rest : List Char}
    (hrest : EndsNumber rest) :
    (value n).run (v.written spacing depth ++ rest) = readBack v.excluded? v rest := by
  induction n generalizing v depth rest with
  | zero =>
      cases v with
      | arr items => simp [Value.depth] at hdepth
      | obj members => simp [Value.depth] at hdepth
      | _ => exact run_valueWithin_of_scalar (scalar_written hwf trivial spacing depth hrest)
  | succ n ih =>
      cases v with
      | arr items =>
          obtain hitems : ∀ w ∈ items, w.WellFormed := by
            cases hwf with
            | arr h => exact h
          have hbelow : ∀ w ∈ items, w.depth ≤ n := by
            simpa [Value.depth, depthOfItems_le_iff] using hdepth
          exact array_written hspacing hitems
            (fun w hw _ hends => ih (hitems w hw) (hbelow w hw) _ hends) rest
      | obj members =>
          obtain ⟨hkeys, hnames, hmembers⟩ : (Members.keys members).Nodup ∧
              (∀ m ∈ members, IsJoined m.1) ∧ ∀ m ∈ members, m.2.WellFormed := by
            cases hwf with
            | obj hkeys hnames h => exact ⟨hkeys, hnames, h⟩
          have hbelow : ∀ m ∈ members, m.2.depth ≤ n := by
            simpa [Value.depth, depthOfMembers_le_iff] using hdepth
          exact object_written hspacing hkeys hnames hmembers
            (fun m hm _ hends => ih (hmembers m hm) (hbelow m hm) _ hends) rest
      | _ => exact run_valueWithin_of_scalar (scalar_written hwf trivial spacing depth hrest)

/-! ### Documents -/

/-- **A document reads back, unless it holds an infinite number.**  Blanks may follow it. -/
theorem document_written {spacing : Spacing} (hspacing : spacing.IsBlank) {v : Value}
    (hwf : v.WellFormed) {limit : Nat} (hdepth : v.depth ≤ limit) {blanks : List Char}
    (hblanks : ∀ c ∈ blanks, isSpace c = true) :
    document limit (v.written spacing 0 ++ blanks) =
      match v.excluded? with
      | none => .ok v
      | some word => .error (.excluded word) := by
  have hends : EndsNumber blanks := by
    simpa using endsNumber_append hblanks endsNumber_nil
  have hstart := startsElement_written hwf spacing 0
  have hrest : skipSpace blanks = [] := by
    simpa using skipSpace_append hblanks (by simp : ∀ c ∈ ([] : List Char).head?, isSpace c = false)
  have hrun := run_value_written hspacing hwf hdepth 0 hends
  have hmark : ∀ more, v.written spacing 0 ++ blanks ≠ '\uFEFF' :: more := by
    obtain ⟨c, more, hwritten, -, -, -, hmark⟩ := hstart
    rw [hwritten]
    exact fun _ heq => hmark (List.cons.inj heq).1
  unfold document
  split
  · next heq => exact absurd heq (hmark _)
  · rw [skipSpace_of_head (hstart.head blanks), hrun]
    cases v.excluded? with
    | none => simp only [readBack, hrest]
    | some word => rfl

theorem read_written {spacing : Spacing} (hspacing : spacing.IsBlank) {v : Value}
    (hwf : v.WellFormed) {limit : Nat} (hdepth : v.depth ≤ limit) {blanks : List Char}
    (hblanks : ∀ c ∈ blanks, isSpace c = true) :
    read limit (String.ofList (v.written spacing 0 ++ blanks)) =
      match v.excluded? with
      | none => .ok v
      | some word => .error (.excluded word) := by
  rw [read, String.toList_ofList, document_written hspacing hwf hdepth hblanks]
  cases v.excluded? <;> rfl

end BucketAccess.Json
