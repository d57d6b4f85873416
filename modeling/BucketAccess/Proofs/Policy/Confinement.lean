/-
**What a policy to order reaches.**

An order may ask for a path, and then the policy is meant for the objects under that path and for
the bucket itself.  A policy goes no further when one of its actions shows what it is about.  When
none of them does, it is not known which resource they need, and all objects of the bucket are
named, whatever path was asked for.

Main definitions:

* `BucketAccess.Policy.IsAboutBucket`, `BucketAccess.Policy.IsAboutObjects` — what an action shows
  to be about;
* `BucketAccess.Policy.Needed` — the resources that a row of actions needs;
* `BucketAccess.Policy.NamesResource` — the resources that are named in a document.

Main results:

* `BucketAccess.Policy.mem_resources_iff` — the resources of a list of actions;
* `BucketAccess.Policy.namesResource_document_iff` — they are the ones that are named;
* `BucketAccess.Policy.confined_assemble` — **when a policy stays within the path of its order**.
-/

import BucketAccess.Proofs.Policy.Order

set_option relaxedAutoImplicit false
set_option autoImplicit false

namespace BucketAccess.Policy

open BucketAccess.Json BucketAccess.Text

/-! ### What actions show -/

/-- An action lists a bucket, or gets or sets something of the bucket. -/
def IsAboutBucket (action : String) : Prop :=
  action = "s3:ListBucket" ∨ "s3:GetBucket".toList <+: action.toList ∨
    "s3:PutBucket".toList <+: action.toList

/-- An action has objects in its name. -/
def IsAboutObjects (action : String) : Prop :=
  "Object".toList <:+: action.toList

theorem reachesBucket_iff {action : String} :
    reachesBucket action = true ↔ IsAboutBucket action := by
  simp [reachesBucket, bucketActionLeads, IsAboutBucket]

theorem reachesObjects_iff {action : String} :
    reachesObjects action = true ↔ IsAboutObjects action :=
  contains_iff

/-! ### What actions need -/

/-- The resources that a row of actions needs, given a path for the objects. -/
inductive Needed (bucket path : String) (actions : List String) : String → Prop
  | bucket {a : String} (ha : a ∈ actions) (h : IsAboutBucket a) :
      Needed bucket path actions (bucketResource bucket)
  | objects {a : String} (ha : a ∈ actions) (h : IsAboutObjects a) :
      Needed bucket path actions (objectResource bucket path)
  /-- No action shows what it is about. -/
  | everything (h : ∀ a ∈ actions, ¬ IsAboutBucket a ∧ ¬ IsAboutObjects a) :
      Needed bucket path actions (objectResource bucket everyPath)

theorem needed_iff {bucket path r : String} {actions : List String} :
    Needed bucket path actions r ↔
      ((∃ a ∈ actions, IsAboutBucket a) ∧ r = bucketResource bucket) ∨
        ((∃ a ∈ actions, IsAboutObjects a) ∧ r = objectResource bucket path) ∨
        (¬ (∃ a ∈ actions, IsAboutBucket a) ∧ ¬ (∃ a ∈ actions, IsAboutObjects a)) ∧
          r = objectResource bucket everyPath := by
  constructor
  · rintro (⟨ha, h⟩ | ⟨ha, h⟩ | ⟨h⟩)
    · exact .inl ⟨⟨_, ha, h⟩, rfl⟩
    · exact .inr (.inl ⟨⟨_, ha, h⟩, rfl⟩)
    · refine .inr (.inr ⟨⟨?_, ?_⟩, rfl⟩)
      · exact fun ⟨a, ha, habout⟩ => (h a ha).1 habout
      · exact fun ⟨a, ha, habout⟩ => (h a ha).2 habout
  · rintro (⟨⟨a, ha, h⟩, rfl⟩ | ⟨⟨a, ha, h⟩, rfl⟩ | ⟨⟨hbucket, hobjects⟩, rfl⟩)
    · exact .bucket ha h
    · exact .objects ha h
    · exact .everything fun a ha =>
        ⟨fun habout => hbucket ⟨a, ha, habout⟩, fun habout => hobjects ⟨a, ha, habout⟩⟩

/-- **The resources of a list of actions** are the ones that it needs. -/
theorem mem_resources_iff {bucket path r : String} {actions : List String} :
    r ∈ resources bucket actions path ↔ Needed bucket path actions r := by
  have hbucket : actions.any reachesBucket = true ↔ ∃ a ∈ actions, IsAboutBucket a := by
    simp only [List.any_eq_true, reachesBucket_iff]
  have hobjects : actions.any reachesObjects = true ↔ ∃ a ∈ actions, IsAboutObjects a := by
    simp only [List.any_eq_true, reachesObjects_iff]
  rw [needed_iff, ← hbucket, ← hobjects]
  -- what is named depends on the two questions alone
  cases hb : actions.any reachesBucket <;> cases ho : actions.any reachesObjects <;>
    simp [resources, neededResources, hb, ho]

theorem objectResource_inj {bucket path path' : String} :
    objectResource bucket path = objectResource bucket path' ↔ path = path' :=
  String.append_right_inj _

theorem objectResource_ne_bucketResource (bucket path : String) :
    objectResource bucket path ≠ bucketResource bucket := by
  intro heq
  have hlength := congrArg String.length heq
  simp only [objectResource, bucketResource, String.length_append] at hlength
  have hslash : "/".length = 1 := rfl
  omega

/-- Only actions that do not show what they are about need more than the bucket and the objects
under a path. -/
theorem needed_within_iff (bucket : String) {path : String} {actions : List String} :
    (∀ r, Needed bucket path actions r →
        r = bucketResource bucket ∨ r = objectResource bucket path) ↔
      (∃ a ∈ actions, IsAboutBucket a ∨ IsAboutObjects a) ∨ path = everyPath := by
  constructor
  · intro hwithin
    by_contra hnot
    obtain ⟨hnone, hother⟩ := not_or.1 hnot
    have hall : ∀ a ∈ actions, ¬ IsAboutBucket a ∧ ¬ IsAboutObjects a := fun a ha =>
      not_or.1 fun habout => hnone ⟨a, ha, habout⟩
    rcases hwithin _ (.everything hall) with heq | heq
    · exact objectResource_ne_bucketResource _ _ heq
    · exact hother (objectResource_inj.1 heq).symm
  · rintro hsome r (⟨-, -⟩ | ⟨-, -⟩ | ⟨hnone⟩)
    · exact .inl rfl
    · exact .inr rfl
    · rcases hsome with ⟨a, ha, habout⟩ | rfl
      · exact absurd habout (not_or.2 (hnone a ha))
      · exact .inr rfl

/-! ### What is named in a document -/

/-- A value is named as a resource by a statement of a document. -/
def NamesResource (document v : Value) : Prop :=
  ∃ members statements fields resource,
    document = .obj members ∧ List.lookup ("Statement" : Str) members = some statements ∧
      .obj fields ∈ entries statements ∧ List.lookup ("Resource" : Str) fields = some resource ∧
        v ∈ entries resource

/-- **A policy names the resources of its draft**, and nothing else. -/
theorem namesResource_document_iff {d : Draft} {v : Value} :
    NamesResource d.document v ↔ ∃ r ∈ d.resources, v = .str r := by
  have hstatement : List.lookup ("Statement" : Str) [("Version", Value.str Catalog.currentVersion),
      ("Statement", .arr [d.statement])] = some (.arr [d.statement]) := rfl
  have hresource : List.lookup ("Resource" : Str) d.members =
      some (Draft.collapsed (d.resources.map fun r : String => .str r)) := by
    simp [lookup_members]
  have hmem : v ∈ entries (Draft.collapsed (d.resources.map fun r : String => .str r)) ↔
      ∃ r ∈ d.resources, v = .str r := by
    rw [entries_collapsed, List.mem_map]
    simp only [eq_comm]
  constructor
  · rintro ⟨_, _, fields, _, hdocument, hstatements, hfields, hfound, hv⟩
    obtain rfl := Value.obj.inj hdocument
    obtain rfl := Option.some.inj (hstatement.symm.trans hstatements)
    obtain rfl : fields = d.members := Value.obj.inj (List.mem_singleton.1 hfields)
    obtain rfl := Option.some.inj (hresource.symm.trans hfound)
    exact hmem.1 hv
  · intro hv
    exact ⟨_, _, d.members, _, rfl, hstatement, List.mem_singleton.2 rfl, hresource, hmem.2 hv⟩

/-! ### Orders -/

/-- A policy that has been made is the draft of its order, with an id that was given or is new. -/
theorem exists_ofOrder_of_assemble {limit : Nat} {given : Option String} {now : Decimal.Double}
    {order : Order} {w w' : Workspace} {d : Draft}
    (h : (Generator.assemble limit given now order).runIn w = (.ok d, w')) :
    ∃ sid, Draft.ofOrder limit sid order = .ok d := by
  rw [Generator.assemble] at h
  obtain ⟨_, _, _, hrest⟩ := Work.runIn_bind_ok_iff.1 h
  obtain ⟨sid, _, _, hmade⟩ := Work.runIn_bind_ok_iff.1 hrest
  exact ⟨sid, (Work.runIn_ofExcept_ok_iff.1 hmade).1⟩

/-- A policy to order names what its actions need. -/
theorem namesResource_assemble_iff {limit : Nat} {given : Option String} {now : Decimal.Double}
    {bucket path : String} {effect condition : Option String} {actions : List String}
    (hpath : strip path ≠ "") {w w' : Workspace} {d : Draft}
    (h : (Generator.assemble limit given now
      ⟨bucket, effect, actions.map .named, some path, condition⟩).runIn w = (.ok d, w'))
    (v : Value) :
    NamesResource d.document v ↔ ∃ r, Needed bucket (strip path) actions r ∧ v = .str r := by
  obtain ⟨sid, hmade⟩ := exists_ofOrder_of_assemble h
  obtain ⟨-, c, -, rfl⟩ := ofOrder_eq_ok_iff.1 hmade
  have hpathOf : Draft.pathOf (some path) = strip path := by
    simp [Draft.pathOf, hpath]
  rw [namesResource_document_iff]
  simp only [Action.names_named, hpathOf, mem_resources_iff]

/-- **When a policy stays within the path of its order.**  It names what its actions need, and this
is no more than the bucket and the objects under the path, unless no action shows what it is about:
then all objects of the bucket are named. -/
theorem confined_assemble {limit : Nat} {given : Option String} {now : Decimal.Double}
    {bucket path : String} {effect condition : Option String} {actions : List String}
    (hpath : strip path ≠ "") {w w' : Workspace} {d : Draft}
    (h : (Generator.assemble limit given now
      ⟨bucket, effect, actions.map .named, some path, condition⟩).runIn w = (.ok d, w')) :
    (∀ v, NamesResource d.document v ↔
        ∃ r, Needed bucket (strip path) actions r ∧ v = .str r) ∧
      ((∀ v, NamesResource d.document v → v = .str (bucketResource bucket) ∨
          v = .str (objectResource bucket (strip path))) ↔
        (∃ a ∈ actions, IsAboutBucket a ∨ IsAboutObjects a) ∨ strip path = everyPath) := by
  have hnamed := namesResource_assemble_iff hpath h
  refine ⟨hnamed, ?_⟩
  rw [← needed_within_iff bucket]
  constructor
  · intro hwithin r hr
    simpa only [Value.str.injEq, Str.coe_inj] using hwithin _ ((hnamed _).2 ⟨r, hr, rfl⟩)
  · intro hwithin v hv
    obtain ⟨r, hr, rfl⟩ := (hnamed v).1 hv
    simpa only [Value.str.injEq, Str.coe_inj] using hwithin r hr

/-- The policy for reading reports, and for seeing what is in their bucket. -/
theorem confined_assemble_reports :
    strip " reports/* " ≠ "" ∧
      ∃ d, (Generator.assemble 990 (some "Read") (.finite false 0) ⟨"abc", some "Allow",
          ["s3:GetObject", "s3:ListBucket"].map .named, some " reports/* ", none⟩).runIn
            (.fresh ⟨[], []⟩) = (.ok d, .fresh ⟨[], []⟩) ∧
        ((∀ v, NamesResource d.document v ↔ ∃ r, Needed "abc" (strip " reports/* ")
            ["s3:GetObject", "s3:ListBucket"] r ∧ v = .str r) ∧
          ((∀ v, NamesResource d.document v → v = .str (bucketResource "abc") ∨
              v = .str (objectResource "abc" (strip " reports/* "))) ↔
            (∃ a ∈ ["s3:GetObject", "s3:ListBucket"], IsAboutBucket a ∨ IsAboutObjects a) ∨
              strip " reports/* " = everyPath)) := by
  have hpath : strip " reports/* " ≠ "" := by decide
  have hmade : ∃ d, (Generator.assemble 990 (some "Read") (.finite false 0) ⟨"abc", some "Allow",
      ["s3:GetObject", "s3:ListBucket"].map .named, some " reports/* ", none⟩).runIn
        (.fresh ⟨[], []⟩) = (.ok d, .fresh ⟨[], []⟩) := ⟨_, rfl⟩
  obtain ⟨d, h⟩ := hmade
  exact ⟨hpath, d, h, confined_assemble hpath h⟩

/-- Asked for the uploads among the reports, a policy reaches all objects of their bucket. -/
theorem not_confined_uploads :
    strip "reports/*" ≠ "" ∧
      ∃ d, (Generator.assemble 990 (some "Read") (.finite false 0) ⟨"abc", some "Allow",
          ["s3:ListBucketMultipartUploads"].map .named, some "reports/*", none⟩).runIn
            (.fresh ⟨[], []⟩) = (.ok d, .fresh ⟨[], []⟩) ∧
        NamesResource d.document (.str "arn:aws:s3:::abc/*") ∧
        "arn:aws:s3:::abc/*" ≠ bucketResource "abc" ∧
        "arn:aws:s3:::abc/*" ≠ objectResource "abc" (strip "reports/*") := by
  have hpath : strip "reports/*" ≠ "" := by decide
  have hmade : ∃ d, (Generator.assemble 990 (some "Read") (.finite false 0) ⟨"abc", some "Allow",
      ["s3:ListBucketMultipartUploads"].map .named, some "reports/*", none⟩).runIn
        (.fresh ⟨[], []⟩) = (.ok d, .fresh ⟨[], []⟩) := ⟨_, rfl⟩
  obtain ⟨d, h⟩ := hmade
  have hnone : ∀ a ∈ ["s3:ListBucketMultipartUploads"], ¬ IsAboutBucket a ∧ ¬ IsAboutObjects a := by
    simp only [← reachesBucket_iff, ← reachesObjects_iff]
    decide
  have hnamed : NamesResource d.document (.str "arn:aws:s3:::abc/*") :=
    (namesResource_assemble_iff hpath h _).2 ⟨_, .everything hnone, rfl⟩
  exact ⟨hpath, d, h, hnamed, by decide, by decide⟩

end BucketAccess.Policy
