/-
**Which names of buckets are accepted.**

The rules for names are about single characters, about characters side by side and about the ends of
a name, and each of them is checked without the others.  Together they describe names that are rows
of labels with periods between them, as host names are: a label is made of letters, digits and
hyphens and has no hyphen at its ends.  Three rules take no part in this.  Those against upper-case
letters and underscores only say more plainly what the rule about characters says; and the rule
against addresses, which counts the digits of every writing system, is needed for ASCII digits only.

Main definitions:

* `BucketAccess.Bucket.IsLabel` — the labels;
* `BucketAccess.Bucket.IsAddress` — four numbers of up to three digits, with periods between them;
* `BucketAccess.Bucket.IsName` — **the names**, as rows of labels;
* `BucketAccess.Bucket.Fits`, `BucketAccess.Bucket.IsRow` — which characters may stand side by side,
  and the texts in which they do.

Main results:

* `BucketAccess.Bucket.isRow_append_iff` — a label in front of a row;
* `BucketAccess.Bucket.isRow_joinWith_iff` — **the rows are the labels with periods between them**;
* `BucketAccess.Bucket.isAddress_iff` — the names that look like an address;
* `BucketAccess.Bucket.isValid_review_iff_isName` — **exactly the rows of labels are accepted**.
-/

import BucketAccess.Proofs.Bucket.Name
import BucketAccess.Proofs.Text.Fields
import Mathlib.Data.List.Chain

set_option relaxedAutoImplicit false
set_option autoImplicit false

namespace BucketAccess.Bucket

open BucketAccess.Text

/-! ### The grammar of names -/

/-- A label: lower-case letters, digits and hyphens, with a letter or a digit at both ends. -/
inductive IsLabel : List Char → Prop where
  | single {c : Char} (edge : isEdge c = true) : IsLabel [c]
  | long {first last : Char} {middle : List Char} (edge : isEdge first = true)
      (tokens : ∀ c ∈ middle, isToken c = true) (edge' : isEdge last = true) :
      IsLabel (first :: (middle ++ [last]))

/-- A number of one to three ASCII digits. -/
structure IsSmallNumber (field : List Char) : Prop where
  length : 1 ≤ field.length ∧ field.length ≤ 3
  digits : ∀ c ∈ field, isDigit c = true

/-- Four small numbers with periods between them. -/
def IsAddress (name : List Char) : Prop :=
  ∃ a b c d, (∀ field ∈ [a, b, c, d], IsSmallNumber field) ∧ name = joinWith '.' [a, b, c, d]

/-- **The names of buckets.** -/
structure IsName (name : List Char) : Prop where
  length : 3 ≤ name.length ∧ name.length ≤ 63
  labels : ∃ labels, labels ≠ [] ∧ (∀ label ∈ labels, IsLabel label) ∧ name = joinWith '.' labels
  no_address : ¬ IsAddress name
  no_encoded_name : ¬ "xn--".toList <+: name
  no_access_point : ¬ "-s3alias".toList <:+ name

/-! ### Characters side by side -/

/-- Whether one character may stand in front of another: periods stand neither beside periods nor
beside hyphens. -/
def Fits (a b : Char) : Prop :=
  (a = '.' → b ≠ '.' ∧ b ≠ '-') ∧ (b = '.' → a ≠ '-')

/-- A text that can stand between periods: it is made of the characters of a name, and they fit
beside one another and beside the periods. -/
structure IsRow (s : List Char) : Prop where
  nameChars : ∀ c ∈ s, isNameChar c = true
  neighbours : ('.' :: (s ++ ['.'])).IsChain Fits

theorem isNameChar_iff {c : Char} : isNameChar c = true ↔ c = '.' ∨ isToken c = true := by
  simp only [isNameChar, isEdge, isToken, Bool.or_eq_true, beq_iff_eq]
  tauto

/-- The characters at the ends of a name are those that fit beside a period. -/
theorem isEdge_iff {c : Char} (h : isNameChar c = true) :
    isEdge c = true ↔ c ≠ '.' ∧ c ≠ '-' := by
  have hperiod : isEdge '.' = false := by decide
  have hhyphen : isEdge '-' = false := by decide
  constructor
  · intro hedge
    constructor <;> rintro rfl <;> simp_all
  · rintro ⟨hdot, hother⟩
    simpa [isNameChar, hdot, hother] using h

theorem fits_period_left {c : Char} (h : isNameChar c = true) : Fits '.' c ↔ isEdge c = true := by
  simp only [isEdge_iff h, Fits]
  tauto

theorem fits_period_right {c : Char} (h : isNameChar c = true) : Fits c '.' ↔ isEdge c = true := by
  simp only [isEdge_iff h, Fits]
  tauto

/-- **The rules about characters, ends and neighbours**, of a text that can stand between
periods. -/
theorem isRow_iff {s : List Char} :
    IsRow s ↔ (∀ c ∈ s, isNameChar c = true) ∧ s.head?.any isEdge = true ∧
      s.getLast?.any isEdge = true ∧ s.IsChain Fits := by
  have hempty : ¬ ['.', '.'].IsChain Fits := by simp [Fits]
  cases s with
  | nil => simpa using fun h : IsRow [] => hempty h.neighbours
  | cons c rest =>
      have hchain : ('.' :: (c :: rest ++ ['.'])).IsChain Fits ↔ Fits '.' c ∧
          (c :: rest).IsChain Fits ∧ ∀ x ∈ (c :: rest).getLast?, Fits x '.' := by
        rw [List.isChain_cons, List.isChain_append]
        simp
      obtain ⟨x, hx⟩ : ∃ x, (c :: rest).getLast? = some x := ⟨_, List.getLast?_cons⟩
      have hiff : IsRow (c :: rest) ↔ (∀ d ∈ c :: rest, isNameChar d = true) ∧
          ('.' :: (c :: rest ++ ['.'])).IsChain Fits := ⟨fun h => ⟨h.1, h.2⟩, fun h => ⟨h.1, h.2⟩⟩
      rw [hiff, hchain, hx]
      refine and_congr_right fun hchars => ?_
      have hlast : Fits x '.' ↔ isEdge x = true :=
        fits_period_right (hchars x (List.mem_of_getLast? hx))
      simp [fits_period_left (hchars c (by simp)), hlast, and_comm]

/-- **A period divides a row into two.** -/
theorem isRow_append_iff {s t : List Char} : IsRow (s ++ '.' :: t) ↔ IsRow s ∧ IsRow t := by
  have hperiod : isNameChar '.' = true := by decide
  have hchain : (('.' :: s) ++ '.' :: (t ++ ['.'])).IsChain Fits ↔
      (('.' :: s) ++ ['.']).IsChain Fits ∧ ('.' :: (t ++ ['.'])).IsChain Fits :=
    List.isChain_split
  have hsplit : ('.' :: (s ++ '.' :: t ++ ['.'])).IsChain Fits ↔
      ('.' :: (s ++ ['.'])).IsChain Fits ∧ ('.' :: (t ++ ['.'])).IsChain Fits := by
    simpa using hchain
  constructor
  · rintro ⟨hchars, hneighbours⟩
    obtain ⟨hs, ht⟩ := hsplit.1 hneighbours
    exact ⟨⟨fun c hc => hchars c (by simp [hc]), hs⟩, ⟨fun c hc => hchars c (by simp [hc]), ht⟩⟩
  · rintro ⟨hs, ht⟩
    refine ⟨fun c hc => ?_, hsplit.2 ⟨hs.neighbours, ht.neighbours⟩⟩
    rw [List.mem_append, List.mem_cons] at hc
    rcases hc with hc | rfl | hc
    · exact hs.nameChars c hc
    · exact hperiod
    · exact ht.nameChars c hc

/-- Two characters do not stand side by side. -/
theorem contains_pair_eq_false_iff {a b : Char} {s : List Char} :
    contains [a, b] s = false ↔ s.IsChain fun x y => ¬ (x = a ∧ y = b) := by
  rw [← Bool.not_eq_true, contains_iff, List.isChain_iff_forall_rel_of_append_cons_cons]
  constructor
  · rintro h x y before behind rfl ⟨rfl, rfl⟩
    exact h ⟨before, behind, by simp⟩
  · rintro h ⟨before, behind, rfl⟩
    exact @h a b before behind (by simp) ⟨rfl, rfl⟩

/-- The two rules about periods are one about neighbours. -/
theorem isChain_fits_iff {s : List Char} :
    s.IsChain Fits ↔ NameRule.separatedPeriods.isBrokenBy s = false ∧
      NameRule.periodsAwayFromHyphens.isBrokenBy s = false := by
  simp only [NameRule.isBrokenBy, Bool.or_eq_false_iff, contains_pair_eq_false_iff,
    List.isChain_iff_forall_rel_of_append_cons_cons, Fits]
  constructor
  · intro h
    refine ⟨?_, ?_, ?_⟩
    · rintro x y before behind hs ⟨rfl, rfl⟩
      exact ((h hs).1 rfl).1 rfl
    · rintro x y before behind hs ⟨rfl, rfl⟩
      exact ((h hs).1 rfl).2 rfl
    · rintro x y before behind hs ⟨rfl, rfl⟩
      exact (h hs).2 rfl rfl
  · rintro ⟨hperiods, hbefore, hbehind⟩ x y before behind hs
    exact ⟨fun hx => ⟨fun hy => hperiods hs ⟨hx, hy⟩, fun hy => hbefore hs ⟨hx, hy⟩⟩,
      fun hy hx => hbehind hs ⟨hx, hy⟩⟩

/-! ### Labels -/

theorem isLabel_iff {s : List Char} :
    IsLabel s ↔ (∀ c ∈ s, isToken c = true) ∧ s.head?.any isEdge = true ∧
      s.getLast?.any isEdge = true := by
  have htoken : ∀ {c : Char}, isEdge c = true → isToken c = true := by
    intro c hc
    simp_all [isToken, isEdge]
  constructor
  · rintro (hedge | ⟨hedge, htokens, hedge'⟩)
    · simp [hedge, htoken hedge]
    · simp only [List.mem_cons, List.mem_append, List.not_mem_nil, or_false]
      refine ⟨?_, by simpa using hedge, ?_⟩
      · rintro c (rfl | hc | rfl)
        · exact htoken hedge
        · exact htokens c hc
        · exact htoken hedge'
      · rw [← List.cons_append, List.getLast?_concat]
        simpa using hedge'
  · rintro ⟨htokens, hhead, hlast⟩
    cases s with
    | nil => simp at hhead
    | cons first rest =>
        cases rest using List.reverseRecOn with
        | nil => exact .single (by simpa using hhead)
        | append_singleton middle last =>
            rw [← List.cons_append, List.getLast?_concat] at hlast
            exact .long (by simpa using hhead) (fun c hc => htokens c (by simp [hc]))
              (by simpa using hlast)

theorem IsLabel.period_not_mem {s : List Char} (h : IsLabel s) : '.' ∉ s :=
  not_mem_of_forall (by decide) (isLabel_iff.1 h).1

/-- A row without periods is a label. -/
theorem isRow_iff_isLabel {s : List Char} (h : '.' ∉ s) : IsRow s ↔ IsLabel s := by
  have hchars : (∀ c ∈ s, isNameChar c = true) ↔ ∀ c ∈ s, isToken c = true := by
    refine forall₂_congr fun c hc => ?_
    have hne : c ≠ '.' := fun heq => h (heq ▸ hc)
    simp [isNameChar_iff, hne]
  have hneighbours : s.IsChain Fits := by
    rw [List.isChain_iff_forall_rel_of_append_cons_cons]
    rintro a b before behind rfl
    simp only [List.mem_append, List.mem_cons, not_or] at h
    exact ⟨fun ha => absurd ha.symm h.2.1, fun hb => absurd hb.symm h.2.2.1⟩
  rw [isRow_iff, isLabel_iff, hchars]
  simp [hneighbours]

/-- **The rows are the labels with periods between them.** -/
theorem isRow_joinWith_iff {fields : List (List Char)} (hne : fields ≠ [])
    (h : ∀ field ∈ fields, '.' ∉ field) :
    IsRow (joinWith '.' fields) ↔ ∀ field ∈ fields, IsLabel field := by
  induction fields with
  | nil => exact absurd rfl hne
  | cons field rest ih =>
      have hfield := isRow_iff_isLabel (h field (by simp))
      cases rest with
      | nil => simpa [joinWith] using hfield
      | cons second more =>
          have hrest := ih (by simp) fun other hother => h other (List.mem_cons_of_mem _ hother)
          have hjoin : joinWith '.' (field :: second :: more) =
              field ++ '.' :: joinWith '.' (second :: more) := rfl
          rw [hjoin, isRow_append_iff, hfield, hrest]
          exact List.forall_mem_cons.symm

theorem isRow_iff_exists_labels {s : List Char} :
    IsRow s ↔ ∃ labels, labels ≠ [] ∧ (∀ label ∈ labels, IsLabel label) ∧
      s = joinWith '.' labels := by
  constructor
  · intro h
    have hfields : ∀ field ∈ splitOn '.' s, '.' ∉ field := fun _ => not_mem_of_mem_splitOn
    rw [← joinWith_splitOn '.' s, isRow_joinWith_iff (splitOn_ne_nil '.' s) hfields] at h
    exact ⟨_, splitOn_ne_nil '.' s, h, (joinWith_splitOn '.' s).symm⟩
  · rintro ⟨labels, hne, hlabels, rfl⟩
    exact (isRow_joinWith_iff hne fun label hlabel => (hlabels label hlabel).period_not_mem).2
      hlabels

/-! ### Addresses -/

/-- The zeros of all writing systems but one stand behind the characters of a name, so the decimal
digits in a name are ASCII digits. -/
theorem isDigit_of_isDecimalDigit {c : Char} (h : isDecimalDigit c = true)
    (hname : isNameChar c = true) : isDigit c = true := by
  have hzeros : ∀ z ∈ decimalZeros, z = 48 ∨ 123 ≤ z := by decide
  have hascii : c.toNat < 123 := by
    simp only [isNameChar, isEdge, isLower, isDigit, Bool.or_eq_true, Bool.and_eq_true,
      decide_eq_true_eq, Char.le_def, UInt32.le_iff_toNat_le, beq_iff_eq] at hname
    rcases hname with ((⟨-, hle⟩ | ⟨-, hle⟩) | rfl) | rfl
    · exact Nat.lt_succ_of_le hle
    · exact Nat.lt_of_le_of_lt hle (by decide)
    · decide
    · decide
  obtain ⟨z, hz, hrange⟩ := List.any_eq_true.1 h
  simp only [Bool.and_eq_true, decide_eq_true_eq] at hrange
  obtain rfl : z = 48 := (hzeros z hz).resolve_right (by omega)
  simp only [isDigit, Bool.and_eq_true, decide_eq_true_eq, Char.le_def, UInt32.le_iff_toNat_le]
  exact ⟨hrange.1, Nat.le_of_lt_succ hrange.2⟩

theorem isShortNumber_iff {field : List Char} (h : ∀ c ∈ field, isNameChar c = true) :
    isShortNumber field = true ↔ IsSmallNumber field := by
  have hdigits : (∀ c ∈ field, isDecimalDigit c = true) ↔ ∀ c ∈ field, isDigit c = true :=
    forall₂_congr fun c hc => ⟨fun hdigit => isDigit_of_isDecimalDigit hdigit (h c hc),
      isDecimalDigit_of_isDigit⟩
  simp only [isShortNumber, Bool.and_eq_true, decide_eq_true_eq, List.all_eq_true, hdigits]
  exact ⟨fun hall => ⟨hall.1, hall.2⟩, fun hall => ⟨hall.length, hall.digits⟩⟩

/-- **The names that look like an address.** -/
theorem isAddress_iff {name : List Char} (h : ∀ c ∈ name, isNameChar c = true) :
    isAddress name = true ↔ IsAddress name := by
  have hfields : ∀ field ∈ splitOn '.' name, (isShortNumber field = true ↔ IsSmallNumber field) :=
    fun field hfield => isShortNumber_iff fun c hc => h c (mem_of_mem_splitOn hfield hc)
  simp only [isAddress, Bool.and_eq_true, beq_iff_eq, List.all_eq_true]
  constructor
  · rintro ⟨hlength, hall⟩
    obtain ⟨a, b, c, d, hsplit⟩ := List.length_eq_four.1 hlength
    refine ⟨a, b, c, d, fun field hfield => ?_, by rw [← hsplit, joinWith_splitOn]⟩
    rw [← hsplit] at hfield
    exact (hfields field hfield).1 (hall field hfield)
  · rintro ⟨a, b, c, d, hnumbers, rfl⟩
    have hplain : ∀ field ∈ [a, b, c, d], '.' ∉ field := fun field hfield =>
      not_mem_of_forall (by decide) (hnumbers field hfield).digits
    rw [splitOn_joinWith (by simp) hplain] at hfields ⊢
    exact ⟨rfl, fun field hfield => (hfields field hfield).2 (hnumbers field hfield)⟩

/-! ### The rules -/

/-- The five rules that a text which can stand between periods keeps. -/
theorem isRow_iff_rules {s : List Char} :
    IsRow s ↔ NameRule.characters.isBrokenBy s = false ∧
      NameRule.firstCharacter.isBrokenBy s = false ∧ NameRule.lastCharacter.isBrokenBy s = false ∧
      NameRule.separatedPeriods.isBrokenBy s = false ∧
      NameRule.periodsAwayFromHyphens.isBrokenBy s = false := by
  rw [isRow_iff, ← isChain_fits_iff]
  cases s with
  | nil => simp [NameRule.isBrokenBy]
  | cons c rest => simp [NameRule.isBrokenBy, allNonempty]

theorem isUpper_eq_false {c : Char} (h : isNameChar c = true) : isUpper c = false := by
  rw [← Bool.not_eq_true]
  intro hupper
  simp only [isNameChar, isEdge, isLower, isUpper, isDigit, Bool.or_eq_true, Bool.and_eq_true,
    decide_eq_true_eq, Char.le_def, UInt32.le_iff_toNat_le, beq_iff_eq] at h hupper
  have hlow : 65 ≤ c.val.toNat := hupper.1
  have hhigh : c.val.toNat ≤ 90 := hupper.2
  rcases h with ((⟨hle, -⟩ | ⟨-, hle⟩) | rfl) | rfl
  · have hle' : 97 ≤ c.val.toNat := hle
    omega
  · have hle' : c.val.toNat ≤ 57 := hle
    omega
  · exact absurd hlow (by decide)
  · exact absurd hlow (by decide)

/-- The rules that take no part are kept by a text of the characters of a name, but for ASCII
addresses. -/
theorem rules_of_nameChars {s : List Char} (h : ∀ c ∈ s, isNameChar c = true) :
    NameRule.noUppercase.isBrokenBy s = false ∧ NameRule.noUnderscores.isBrokenBy s = false ∧
      (NameRule.noAddress.isBrokenBy s = true ↔ IsAddress s) := by
  refine ⟨?_, ?_, isAddress_iff h⟩
  · exact List.any_eq_false.2 fun c hc => by simp [isUpper_eq_false (h c hc)]
  · have hunderscore : '_' ∉ s := not_mem_of_forall (by decide) h
    simpa [NameRule.isBrokenBy] using hunderscore

theorem longEnough_iff {s : List Char} :
    NameRule.longEnough.isBrokenBy s = false ↔ 3 ≤ s.length := by
  rw [NameRule.isBrokenBy, decide_eq_false_iff_not, Nat.not_lt, minLength]

theorem shortEnough_iff {s : List Char} :
    NameRule.shortEnough.isBrokenBy s = false ↔ s.length ≤ 63 := by
  rw [NameRule.isBrokenBy, decide_eq_false_iff_not, Nat.not_lt, maxLength]

theorem noEncodedName_iff {s : List Char} :
    NameRule.noEncodedName.isBrokenBy s = false ↔ ¬ "xn--".toList <+: s := by
  rw [← Bool.not_eq_true, NameRule.isBrokenBy, List.isPrefixOf_iff_prefix]
  rfl

theorem noAccessPoint_iff {s : List Char} :
    NameRule.noAccessPoint.isBrokenBy s = false ↔ ¬ "-s3alias".toList <:+ s := by
  rw [← Bool.not_eq_true, NameRule.isBrokenBy, List.isSuffixOf_iff_suffix]
  rfl

/-- **Exactly the rows of labels are accepted.**  Where a name has an upper-case letter or an
underscore, or where its digits look like those of an address but are not all ASCII digits, it
breaks the rule about characters anyway. -/
theorem isValid_review_iff_isName :
    (∀ name : String, (review name).isValid = true ↔ IsName name.toList) ∧
      ∀ name : List Char,
        (NameRule.noUppercase.isBrokenBy name = true ∨
          NameRule.noUnderscores.isBrokenBy name = true ∨
          NameRule.noAddress.isBrokenBy name = true ∧ ¬ IsAddress name) →
        NameRule.characters.isBrokenBy name = true := by
  constructor
  · intro name
    rw [isValid_review_iff]
    constructor
    · intro hrule
      have hrow : IsRow name.toList := isRow_iff_rules.2
        ⟨hrule .characters, hrule .firstCharacter, hrule .lastCharacter, hrule .separatedPeriods,
          hrule .periodsAwayFromHyphens⟩
      have haddress := (rules_of_nameChars hrow.nameChars).2.2
      refine ⟨⟨longEnough_iff.1 (hrule _), shortEnough_iff.1 (hrule _)⟩,
        isRow_iff_exists_labels.1 hrow, ?_, noEncodedName_iff.1 (hrule _),
        noAccessPoint_iff.1 (hrule _)⟩
      rw [← haddress, hrule .noAddress]
      exact Bool.false_ne_true
    · intro h rule
      have hrow := isRow_iff_exists_labels.2 h.labels
      obtain ⟨hcharacters, hfirst, hlast, hperiods, hhyphens⟩ := isRow_iff_rules.1 hrow
      obtain ⟨hupper, hunderscore, haddress⟩ := rules_of_nameChars hrow.nameChars
      cases rule with
      | longEnough => exact longEnough_iff.2 h.length.1
      | shortEnough => exact shortEnough_iff.2 h.length.2
      | characters => exact hcharacters
      | firstCharacter => exact hfirst
      | lastCharacter => exact hlast
      | noAddress =>
          rw [← Bool.not_eq_true, haddress]
          exact h.no_address
      | noEncodedName => exact noEncodedName_iff.2 h.no_encoded_name
      | noAccessPoint => exact noAccessPoint_iff.2 h.no_access_point
      | separatedPeriods => exact hperiods
      | periodsAwayFromHyphens => exact hhyphens
      | noUppercase => exact hupper
      | noUnderscores => exact hunderscore
  · intro name hbroken
    by_contra hkept
    have hchars : ∀ c ∈ name, isNameChar c = true := by
      simp only [NameRule.isBrokenBy, allNonempty, Bool.not_eq_true', Bool.not_eq_false,
        Bool.and_eq_true, List.all_eq_true] at hkept
      exact hkept.2
    obtain ⟨hupper, hunderscore, haddress⟩ := rules_of_nameChars hchars
    rcases hbroken with h | h | ⟨h, hnone⟩
    · simp [hupper] at h
    · simp [hunderscore] at h
    · exact hnone (haddress.1 h)

/-- Digits of another writing system look like an address, but they are no characters of a name. -/
example : (brokenRules "١.٢.٣.٤".toList) =
    [.characters, .firstCharacter, .lastCharacter, .noAddress] := by
  decide +kernel

end BucketAccess.Bucket
