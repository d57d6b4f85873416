/-
**Options on a command line.**

A switch is given its value behind an equals sign or in the next word.  Whatever the values are,
words that are written in this way are read as they are meant: every value belongs to its switch,
and values of one switch stay in their order.

Main definitions:

* `BucketAccess.CommandLine.IsForm` — a form of a switch in full;
* `BucketAccess.CommandLine.Gives` — **words that give arguments to a command**;
* `BucketAccess.CommandLine.Wish`, `BucketAccess.CommandLine.Spells` — what is asked for when a
  policy is generated, and **the words that ask for it**;
* `BucketAccess.CommandLine.valuesOf`, `BucketAccess.CommandLine.setting?` — the values of a switch,
  and the one that counts.

Main results:

* `BucketAccess.CommandLine.classify_form`, `BucketAccess.CommandLine.classify_form_equals` — what
  single words are;
* `BucketAccess.CommandLine.read_of_gives` — **the arguments are read as they are given**;
* `BucketAccess.CommandLine.read_name` — the name of a command in front;
* `BucketAccess.CommandLine.isForm_of_name`, `BucketAccess.CommandLine.read_generate_of_gives` — the
  switches of the command that generates a policy, and **its requests, read as they are written**;
* `BucketAccess.CommandLine.read_generate_of_spells` — **what is asked for is what is spelled**.
-/

import BucketAccess.CommandLine.Command
import Mathlib.Data.Option.Basic

set_option relaxedAutoImplicit false
set_option autoImplicit false

namespace BucketAccess.CommandLine

/-! ### Single words -/

/-- A form of a switch in full, with two hyphens in front. -/
structure IsForm (switches : List Switch) (form : String) (s : Switch) : Prop where
  lookup : (allForms switches).lookup form.toList = some s
  hyphens : ['-', '-'].isPrefixOf form.toList = true
  noEquals : '=' ∉ form.toList
  ne : form ≠ "--"

/-- Cutting a word at its first equals sign. -/
theorem splitEquals_append {front : List Char} (h : '=' ∉ front) (value : List Char) :
    splitEquals (front ++ '=' :: value) = (front, some value) := by
  have hfront : ∀ c ∈ front, (c != '=') = true := by
    intro c hc
    exact bne_iff_ne.2 fun heq => h (heq ▸ hc)
  have hdrop : (front ++ '=' :: value).dropWhile (· ≠ '=') = '=' :: value := by
    rw [List.dropWhile_append_of_pos (by simpa using hfront)]
    rfl
  have htake : (front ++ '=' :: value).takeWhile (· ≠ '=') = front := by
    rw [List.takeWhile_append_of_pos (by simpa using hfront)]
    simp
  simp only [splitEquals, hdrop, htake]

/-- Where no form has an equals sign, a word with one is not a form. -/
theorem lookup_equals {forms : List (List Char × Switch)} (hforms : ∀ f ∈ forms, '=' ∉ f.1)
    {word : List Char} (hword : '=' ∈ word) : forms.lookup word = none := by
  rw [List.lookup_eq_none_iff]
  intro f hf
  rw [bne_iff_ne]
  rintro rfl
  exact hforms f hf hword

section Form

variable {switches : List Switch} {form : String} {s : Switch}

theorem IsForm.head (h : IsForm switches form s) : form.toList.head? = some '-' := by
  obtain ⟨rest, hrest⟩ := List.isPrefixOf_iff_prefix.1 h.hyphens
  rw [← hrest]
  rfl

/-- A form on its own carries nothing. -/
theorem classify_form (h : IsForm switches form s) :
    classify switches form = .ok (.switch s .nothing) := by
  simp only [classify, h.head, ne_eq, not_true_eq_false, if_false, h.lookup]

/-- A form with an equals sign behind it carries what follows. -/
theorem classify_form_equals (hforms : ∀ f ∈ allForms switches, '=' ∉ f.1)
    (h : IsForm switches form s) (text : String) :
    classify switches (form ++ "=" ++ text) = .ok (.switch s (.equals text)) := by
  have hword : (form ++ "=" ++ text).toList = form.toList ++ '=' :: text.toList := by
    simp [String.toList_append]
  have hhead : (form.toList ++ '=' :: text.toList).head? = some '-' := by
    rw [List.head?_append, h.head]
    rfl
  have hnone : (allForms switches).lookup (form.toList ++ '=' :: text.toList) = none :=
    lookup_equals hforms (by simp)
  simp only [classify, hword, splitEquals_append h.noEquals, hhead, ne_eq, not_true_eq_false,
    if_false, hnone, h.lookup, attachedTo, h.hyphens, if_true, String.ofList_toList]

end Form

/-! ### Rows of words -/

/-- **Words that give arguments to a command**: flags, and switches with their values. -/
inductive Gives (g : Grammar) : List String → Arguments → Prop where
  | nothing : Gives g [] .none
  | flag {form : String} {s : Switch} {rest : List String} {a : Arguments}
      (hform : IsForm g.switches form s) (hkind : s.kind = .flag) (hrest : Gives g rest a) :
      Gives g (form :: rest) (a.withFlag s.name)
  /-- A value behind an equals sign. -/
  | joined {form text : String} {s : Switch} {value : Option String} {rest : List String}
      {a : Arguments} (hform : IsForm g.switches form s) (htakes : s.takesValue = true)
      (hvalue : checkValue s text = .ok value) (hrest : Gives g rest a) :
      Gives g ((form ++ "=" ++ text) :: rest) (a.withValue s.name value)
  /-- A value in the next word. -/
  | apart {form text : String} {s : Switch} {value : Option String} {rest : List String}
      {a : Arguments} (hform : IsForm g.switches form s) (htakes : s.takesValue = true)
      (hvalue : checkValue s text = .ok value) (hhead : text.toList.head? ≠ some '-')
      (hrest : Gives g rest a) : Gives g (form :: text :: rest) (a.withValue s.name value)

section Gives

variable {g : Grammar} {words : List String} {a : Arguments}

/-- Nothing is left over. -/
theorem Gives.leftOver (h : Gives g words a) : a.leftOver = [] := by
  induction h with
  | nothing => rfl
  | flag _ _ _ ih => exact ih
  | joined _ _ _ _ ih => exact ih
  | apart _ _ _ _ _ ih => exact ih

/-- The words are classified, and the arguments taken from them. -/
theorem Gives.exists_classifyAll (hforms : ∀ f ∈ allForms g.switches, '=' ∉ f.1)
    (h : Gives g words a) : ∃ classified, classifyAll g.switches words = .ok classified ∧
      takeWords (.word false) classified = .ok a := by
  induction h with
  | nothing => exact ⟨[], rfl, rfl⟩
  | @flag form s rest a hform hkind _ ih =>
      obtain ⟨classified, hclassified, htaken⟩ := ih
      refine ⟨.switch s .nothing :: classified, ?_, ?_⟩
      · rw [classifyAll, if_neg hform.ne, classify_form hform, hclassified]
        rfl
      · have htakes : s.takesValue = false := by rw [Switch.takesValue, hkind]
        have hstop : stopOf s .nothing = none := by simp only [stopOf, hkind]
        simp only [takeWords, htakes, hstop, Expecting.wanted, htaken, Except.map]
  | @joined form text s value rest a hform htakes hvalue _ ih =>
      obtain ⟨classified, hclassified, htaken⟩ := ih
      have hne : form ++ "=" ++ text ≠ "--" := by
        intro heq
        have hmem : '=' ∈ "--".toList := by
          rw [← heq]
          simp [String.toList_append]
        exact absurd hmem (by decide)
      refine ⟨.switch s (.equals text) :: classified, ?_, ?_⟩
      · rw [classifyAll, if_neg hne, classify_form_equals hforms hform, hclassified]
        rfl
      · simp only [takeWords, htakes, hvalue, Expecting.wanted, htaken, Except.map]
  | @apart form text s value rest a hform htakes hvalue hhead _ ih =>
      obtain ⟨classified, hclassified, htaken⟩ := ih
      have hne : text ≠ "--" := by
        rintro rfl
        exact hhead (by decide)
      refine ⟨.switch s .nothing :: .operand text :: classified, ?_, ?_⟩
      · rw [classifyAll, if_neg hform.ne, classify_form hform, classifyAll, if_neg hne,
          classify_of_head hhead, hclassified]
        rfl
      · simp only [takeWords, htakes, hvalue, Expecting.wanted, htaken, Except.map]

/-- **The arguments are read as they are given**, if none is missing. -/
theorem read_of_gives (hforms : ∀ f ∈ allForms g.switches, '=' ∉ f.1) (hoperand : g.operand = none)
    (h : Gives g words a) (hmissing : g.missing a = []) : g.read words = .ok a := by
  obtain ⟨classified, hclassified, htaken⟩ := h.exists_classifyAll hforms
  simp only [Grammar.read, hclassified, hoperand, Option.isSome_none, htaken, hmissing,
    List.isEmpty_nil, if_true]

end Gives

/-! ### Commands -/

/-- **The name of a command in front** leaves the rest to the grammar of this command. -/
theorem read_name (v : Verb) (words : List String) : Command.read (v.name :: words) =
    match v.grammar.read words with
    | .error stop => .error (stop.inProgram s!"{programName} {v.name}")
    | .ok a =>
        if a.leftOver.isEmpty then .ok (.ofArguments v a)
        else .error (.usage ⟨programName, .leftOver a.leftOver⟩) := by
  have hfound : findVerb (v.name :: words) = .ok ⟨[], v.name, words⟩ := by
    have hseparator : v.name ≠ "--" := by cases v <;> decide
    have hhead : v.name.toList.head? ≠ some '-' := by cases v <;> decide
    rw [findVerb, if_neg hseparator, classify_of_head hhead]
  have hverb : verbOf v.name = .ok v := by
    rw [verbOf, Verb.ofName?_name]
  simp only [Command.read, hfound, hverb, Except.mapError, bind, Except.bind]
  cases v.grammar.read words <;> rfl

/-- Every switch of the command that generates a policy is called by its one form, except for the
one that asks for help. -/
theorem isForm_of_name {form : String} {s : Switch} (hs : s ∈ Verb.generate.grammar.switches)
    (hhelp : s ≠ .askHelp) (hname : s.name = form) :
    IsForm Verb.generate.grammar.switches form s := by
  have hall : ∀ s ∈ Verb.generate.grammar.switches, s ≠ .askHelp →
      (allForms Verb.generate.grammar.switches).lookup s.name.toList = some s ∧
        ['-', '-'].isPrefixOf s.name.toList = true ∧ '=' ∉ s.name.toList ∧ s.name ≠ "--" := by
    decide
  obtain ⟨hlookup, hhyphens, hequals, hne⟩ := hall s hs hhelp
  rw [hname] at hlookup hhyphens hequals hne
  exact ⟨hlookup, hhyphens, hequals, hne⟩

/-- **A request is read as it is written**, with its values in any order, if a bucket is given. -/
theorem read_generate_of_gives {words : List String} {a : Arguments}
    (h : Gives Verb.generate.grammar words a) (hbucket : a.all "--bucket" ≠ []) :
    Command.read ("generate" :: words) = .ok (.generate (.ofArguments a)) := by
  have hforms : ∀ f ∈ allForms Verb.generate.grammar.switches, '=' ∉ f.1 := by decide
  have hmissing : Verb.generate.grammar.missing a = [] := by
    have hrequired : ∀ s ∈ Verb.generate.grammar.switches,
        s.required = true → s.name = "--bucket" := by decide
    have hnone : (Verb.generate.grammar.switches.filter fun s =>
        s.required && (a.all s.name).isEmpty) = [] := by
      refine List.filter_eq_nil_iff.2 fun s hs habsent => ?_
      rw [Bool.and_eq_true, List.isEmpty_iff] at habsent
      obtain ⟨hneeded, hempty⟩ := habsent
      rw [hrequired s hs hneeded] at hempty
      exact hbucket hempty
    rw [Grammar.missing, hnone]
    simp [Verb.grammar]
  have harguments := read_of_gives hforms rfl h hmissing
  have hread := read_name .generate words
  simp only [harguments, h.leftOver, List.isEmpty_nil, if_true] at hread
  exact hread

/-! ### Wishes -/

/-- One thing that is asked for when a policy is generated. -/
inductive Wish where
  /-- A switch is to have a value. -/
  | value (name text : String)
  /-- A flag is to be there. -/
  | flag (name : String)
  deriving DecidableEq

/-- The switches that take a value. -/
def valueNames : List String :=
  ["--bucket", "--effect", "--action", "--actions-file", "--resource-path", "--condition",
    "--template", "--output-dir"]

/-- The switches that are there or not. -/
def flagNames : List String :=
  ["--validate", "--save"]

/-- What the value of a switch may be: anything but two hyphens, which are no value, and one of two
words where it says what the statement does. -/
structure IsValueOf (name text : String) : Prop where
  ne : text ≠ "--"
  effect : name = "--effect" → text = "Allow" ∨ text = "Deny"

/-- **Words that ask for something**: each value stands behind an equals sign or in the next word,
and every wish is as free to stand first as the others. -/
inductive Spells : List String → List Wish → Prop where
  | nothing : Spells [] []
  | flag {name : String} {words : List String} {wishes : List Wish} (hname : name ∈ flagNames)
      (hrest : Spells words wishes) : Spells (name :: words) (.flag name :: wishes)
  | joined {name text : String} {words : List String} {wishes : List Wish}
      (hname : name ∈ valueNames) (hvalue : IsValueOf name text) (hrest : Spells words wishes) :
      Spells ((name ++ "=" ++ text) :: words) (.value name text :: wishes)
  | apart {name text : String} {words : List String} {wishes : List Wish}
      (hname : name ∈ valueNames) (hvalue : IsValueOf name text)
      (hhead : text.toList.head? ≠ some '-') (hrest : Spells words wishes) :
      Spells (name :: text :: words) (.value name text :: wishes)

/-- The values that a switch is to have, in order. -/
def valuesOf (name : String) : List Wish → List String
  | [] => []
  | .flag _ :: rest => valuesOf name rest
  | .value other text :: rest =>
      if other = name then text :: valuesOf name rest else valuesOf name rest

/-- The value of a switch; of several the last one counts. -/
def setting? (name : String) (wishes : List Wish) : Option String :=
  (valuesOf name wishes).getLast?

/-- What a request asks for. -/
def requestOf (wishes : List Wish) : GenerateRequest where
  bucket := setting? "--bucket" wishes
  effect := nonempty (setting? "--effect" wishes)
  actions := (valuesOf "--action" wishes).map .named
  actionsFile := nonempty (setting? "--actions-file" wishes)
  path := setting? "--resource-path" wishes
  condition := nonempty (setting? "--condition" wishes)
  preset := nonempty (setting? "--template" wishes)
  validate := decide (.flag "--validate" ∈ wishes)
  save := decide (.flag "--save" ∈ wishes)
  outputDir := nonempty (setting? "--output-dir" wishes)

/-- The switch of a name takes the values that it may have. -/
theorem exists_switch_of_valueNames {name text : String} (hname : name ∈ valueNames)
    (hvalue : IsValueOf name text) : ∃ s, IsForm Verb.generate.grammar.switches name s ∧
      s.name = name ∧ s.takesValue = true ∧ checkValue s text = .ok (some text) := by
  have hall : ∀ name ∈ valueNames, ∃ s ∈ Verb.generate.grammar.switches, s ≠ .askHelp ∧
      s.name = name ∧ (s.kind = .value ∨ name = "--effect" ∧ s.kind = .choice Catalog.effects) := by
    decide
  obtain ⟨s, hs, hhelp, hform, hkind⟩ := hall name hname
  refine ⟨s, isForm_of_name hs hhelp hform, hform, ?_, ?_⟩
  · rcases hkind with hkind | ⟨-, hkind⟩ <;> rw [Switch.takesValue, hkind]
  · rcases hkind with hkind | ⟨heffect, hkind⟩
    · simp only [checkValue, hvalue.ne, if_false, hkind]
    · have hchoice : Catalog.effects.contains text = true := by
        rcases hvalue.effect heffect with rfl | rfl <;> decide
      simp only [checkValue, hvalue.ne, if_false, hkind, hchoice, if_true]

theorem exists_switch_of_flagNames {name : String} (hname : name ∈ flagNames) :
    ∃ s, IsForm Verb.generate.grammar.switches name s ∧ s.name = name ∧ s.kind = .flag := by
  have hall : ∀ name ∈ flagNames, ∃ s ∈ Verb.generate.grammar.switches, s ≠ .askHelp ∧
      s.name = name ∧ s.kind = .flag := by decide
  obtain ⟨s, hs, hhelp, hform, hkind⟩ := hall name hname
  exact ⟨s, isForm_of_name hs hhelp hform, hform, hkind⟩

/-- Arguments that hold what is asked for: of each switch its values, and the flags. -/
structure Holds (a : Arguments) (wishes : List Wish) : Prop where
  values : ∀ name, a.all name = (valuesOf name wishes).map some
  flags : ∀ name, a.has name = decide (.flag name ∈ wishes)

section Holds

variable {a : Arguments} {wishes : List Wish}

theorem Holds.withFlag (h : Holds a wishes) (name : String) :
    Holds (a.withFlag name) (.flag name :: wishes) where
  values := h.values
  flags other := by
    have hother : a.flags.contains other = decide (.flag other ∈ wishes) := h.flags other
    simp [Arguments.has, Arguments.withFlag, ← hother]

theorem Holds.withValue (h : Holds a wishes) (name text : String) :
    Holds (a.withValue name (some text)) (.value name text :: wishes) where
  values other := by
    have hvalues := h.values other
    unfold Arguments.all at hvalues ⊢
    by_cases hname : name = other
    · simp [Arguments.withValue, valuesOf, hname, hvalues]
    · simp [Arguments.withValue, valuesOf, hname, hvalues]
  flags other := by
    have hother : a.flags.contains other = decide (.flag other ∈ wishes) := h.flags other
    simpa [Arguments.has, Arguments.withValue] using hother

end Holds

/-- **Words give the arguments that they spell.** -/
theorem Spells.exists_gives {words : List String} {wishes : List Wish} (h : Spells words wishes) :
    ∃ a, Gives Verb.generate.grammar words a ∧ Holds a wishes := by
  induction h with
  | nothing => exact ⟨.none, .nothing, fun _ => rfl, fun _ => rfl⟩
  | @flag name words wishes hname _ ih =>
      obtain ⟨a, hgives, hholds⟩ := ih
      obtain ⟨s, hform, rfl, hkind⟩ := exists_switch_of_flagNames hname
      exact ⟨_, .flag hform hkind hgives, hholds.withFlag _⟩
  | @joined name text words wishes hname hvalue _ ih =>
      obtain ⟨a, hgives, hholds⟩ := ih
      obtain ⟨s, hform, hs, htakes, hcheck⟩ := exists_switch_of_valueNames hname hvalue
      exact ⟨_, .joined hform htakes hcheck hgives, hs ▸ hholds.withValue _ _⟩
  | @apart name text words wishes hname hvalue hhead _ ih =>
      obtain ⟨a, hgives, hholds⟩ := ih
      obtain ⟨s, hform, hs, htakes, hcheck⟩ := exists_switch_of_valueNames hname hvalue
      exact ⟨_, .apart hform htakes hcheck hhead hgives, hs ▸ hholds.withValue _ _⟩

/-- **What is asked for is what is spelled.** -/
theorem read_generate_of_spells {words : List String} {wishes : List Wish}
    (h : Spells words wishes) (hbucket : valuesOf "--bucket" wishes ≠ []) :
    Command.read ("generate" :: words) = .ok (.generate (requestOf wishes)) := by
  obtain ⟨a, hgives, hholds⟩ := h.exists_gives
  have hlast : ∀ name, a.last? name = (setting? name wishes).map some := by
    intro name
    rw [Arguments.last?, hholds.values, List.getLast?_map, setting?]
  have htext : ∀ name, a.text? name = setting? name wishes := by
    intro name
    rw [Arguments.text?, hlast]
    cases setting? name wishes <;> rfl
  have hjoin : (a.last? "--bucket").join = setting? "--bucket" wishes := by
    rw [hlast]
    cases setting? "--bucket" wishes <;> rfl
  have hrequest : GenerateRequest.ofArguments a = requestOf wishes := by
    simp [GenerateRequest.ofArguments, requestOf, hholds.values, hholds.flags, htext, hjoin,
      actionOf]
  rw [read_generate_of_gives hgives (by simpa [hholds.values] using hbucket), hrequest]

end BucketAccess.CommandLine
