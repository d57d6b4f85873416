/-
**What more actions do to the resources.**

A resource is named because an action needs it, and the action is still there when others join it.
So an order that gains actions should lose no resource.  There is one exception: as long as no
action shows what it is about, all objects of the bucket are named for want of anything better, and
the first action that does show it puts its own resource in their place.  In which order the actions
stand, and how often each of them does, is without effect.

Main definitions:

* `BucketAccess.Policy.Silent` — actions none of which shows what it is about.

Main results:

* `BucketAccess.Policy.resources_congr` — the resources depend on the set of the actions;
* `BucketAccess.Policy.Needed.append` — what is needed is still needed with more actions;
* `BucketAccess.Policy.resources_kept_iff` — **when no resource is lost**;
* `BucketAccess.Policy.resources_of_sameActions` — both of these in one.
-/

import BucketAccess.Proofs.Policy.Confinement

set_option relaxedAutoImplicit false
set_option autoImplicit false

namespace BucketAccess.Policy

variable {bucket path r : String} {actions others more : List String}

/-! ### Actions that show nothing -/

/-- No action shows what it is about. -/
def Silent (actions : List String) : Prop :=
  ∀ a ∈ actions, ¬ IsAboutBucket a ∧ ¬ IsAboutObjects a

theorem not_silent_iff : ¬ Silent actions ↔ ∃ a ∈ actions, IsAboutBucket a ∨ IsAboutObjects a := by
  simp only [Silent, ← not_or, not_forall, not_not, exists_prop]

theorem silent_append_iff : Silent (actions ++ more) ↔ Silent actions ∧ Silent more :=
  List.forall_mem_append

/-- All that silent actions need is the objects of the bucket. -/
theorem Silent.needed_iff (h : Silent actions) :
    Needed bucket path actions r ↔ r = objectResource bucket everyPath := by
  constructor
  · rintro (⟨ha, habout⟩ | ⟨ha, habout⟩ | ⟨-⟩)
    · exact absurd habout (h _ ha).1
    · exact absurd habout (h _ ha).2
    · rfl
  · rintro rfl
    exact .everything h

/-- Actions that show something need all objects of the bucket only under that path. -/
theorem needed_everything_iff (h : ¬ Silent actions) :
    Needed bucket path actions (objectResource bucket everyPath) ↔
      path = everyPath ∧ ∃ a ∈ actions, IsAboutObjects a := by
  constructor
  · intro hneeded
    -- the resource does not tell which of the three reasons it is named for
    generalize hr : objectResource bucket everyPath = r at hneeded
    cases hneeded with
    | bucket => exact absurd hr (objectResource_ne_bucketResource _ _)
    | objects ha habout => exact ⟨(objectResource_inj.1 hr).symm, _, ha, habout⟩
    | everything hsilent => exact absurd hsilent h
  · rintro ⟨rfl, a, ha, habout⟩
    exact .objects ha habout

/-! ### More actions -/

/-- **What is needed is still needed with more actions**, unless it is needed for want of anything
better and one of the new actions shows what it is about. -/
theorem Needed.append (h : Needed bucket path actions r) (hmore : Silent actions → Silent more) :
    Needed bucket path (actions ++ more) r := by
  cases h with
  | bucket ha habout => exact .bucket (List.mem_append_left _ ha) habout
  | objects ha habout => exact .objects (List.mem_append_left _ ha) habout
  | everything hsilent => exact .everything (silent_append_iff.2 ⟨hsilent, hmore hsilent⟩)

/-- **When no resource is lost.**  Either an action has shown what it is about already, or none of
the new ones does, or one of them names all objects of the bucket again. -/
theorem resources_kept_iff (bucket path : String) (actions more : List String) :
    (∀ r ∈ resources bucket actions path, r ∈ resources bucket (actions ++ more) path) ↔
      (∃ a ∈ actions, IsAboutBucket a ∨ IsAboutObjects a) ∨ Silent more ∨
        path = everyPath ∧ ∃ a ∈ more, IsAboutObjects a := by
  simp only [mem_resources_iff, ← not_silent_iff]
  by_cases hactions : Silent actions
  · simp only [hactions.needed_iff, forall_eq, hactions, not_true_eq_false, false_or]
    by_cases hmore : Silent more
    · have hall : Silent (actions ++ more) := silent_append_iff.2 ⟨hactions, hmore⟩
      simp only [hall.needed_iff, hmore, true_or]
    · have hall : ¬ Silent (actions ++ more) := fun h => hmore (silent_append_iff.1 h).2
      have hobjects : (∃ a ∈ actions ++ more, IsAboutObjects a) ↔
          ∃ a ∈ more, IsAboutObjects a := by
        constructor
        · rintro ⟨a, ha, habout⟩
          rcases List.mem_append.1 ha with ha | ha
          · exact absurd habout (hactions a ha).2
          · exact ⟨a, ha, habout⟩
        · rintro ⟨a, ha, habout⟩
          exact ⟨a, List.mem_append_right _ ha, habout⟩
      rw [needed_everything_iff hall, hobjects]
      simp only [hmore, false_or]
  · have hkept : ∀ r, Needed bucket path actions r → Needed bucket path (actions ++ more) r := by
      intro r hr
      exact hr.append fun hsilent => absurd hsilent hactions
    exact iff_of_true hkept (.inl hactions)

/-! ### The same actions -/

/-- **The resources depend on the set of the actions**, and not on their order. -/
theorem resources_congr (h : ∀ a, a ∈ actions ↔ a ∈ others) (bucket path : String) :
    resources bucket actions path = resources bucket others path := by
  have hany : ∀ p : String → Bool, actions.any p = others.any p := by
    intro p
    rw [Bool.eq_iff_iff, List.any_eq_true, List.any_eq_true]
    exact exists_congr fun a => and_congr_left fun _ => h a
  rw [resources, resources, neededResources, neededResources, hany reachesBucket,
    hany reachesObjects]

/-- **Which resources more actions leave, and which actions have the same ones.**  Actions with the
same set have the same resources, in the same order.  When other actions join them, no resource is
lost exactly if one of them shows what it is about, or none of the new ones does, or a new one is
about objects and all paths are asked for. -/
theorem resources_of_sameActions (hsame : ∀ a, a ∈ actions ↔ a ∈ others) (bucket path : String)
    (more : List String) :
    resources bucket actions path = resources bucket others path ∧
      ((∀ r ∈ resources bucket actions path, r ∈ resources bucket (actions ++ more) path) ↔
        (∃ a ∈ actions, IsAboutBucket a ∨ IsAboutObjects a) ∨
          (∀ a ∈ more, ¬ IsAboutBucket a ∧ ¬ IsAboutObjects a) ∨
            path = everyPath ∧ ∃ a ∈ more, IsAboutObjects a) := by
  exact ⟨resources_congr hsame bucket path, resources_kept_iff bucket path actions more⟩

/-- Actions on objects and on the bucket, in both orders, and another one that joins them. -/
theorem resources_of_sameActions_reports :
    (∀ a, a ∈ ["s3:GetObject", "s3:ListBucket"] ↔
        a ∈ ["s3:ListBucket", "s3:GetObject", "s3:ListBucket"]) ∧
      resources "abc" ["s3:GetObject", "s3:ListBucket"] "reports/*" =
        resources "abc" ["s3:ListBucket", "s3:GetObject", "s3:ListBucket"] "reports/*" ∧
      ((∀ r ∈ resources "abc" ["s3:GetObject", "s3:ListBucket"] "reports/*",
          r ∈ resources "abc" (["s3:GetObject", "s3:ListBucket"] ++
            ["s3:AbortMultipartUpload"]) "reports/*") ↔
        (∃ a ∈ ["s3:GetObject", "s3:ListBucket"], IsAboutBucket a ∨ IsAboutObjects a) ∨
          (∀ a ∈ ["s3:AbortMultipartUpload"], ¬ IsAboutBucket a ∧ ¬ IsAboutObjects a) ∨
            "reports/*" = everyPath ∧ ∃ a ∈ ["s3:AbortMultipartUpload"], IsAboutObjects a) := by
  have hsame : ∀ a, a ∈ ["s3:GetObject", "s3:ListBucket"] ↔
      a ∈ ["s3:ListBucket", "s3:GetObject", "s3:ListBucket"] := by
    intro a
    simp only [List.mem_cons, List.not_mem_nil, or_false]
    constructor
    · rintro (rfl | rfl) <;> simp
    · rintro (rfl | rfl | rfl) <;> simp
  exact ⟨hsame, resources_of_sameActions hsame "abc" "reports/*" ["s3:AbortMultipartUpload"]⟩

/-- An action that deletes the policy of a bucket names all its objects, and loses them to one that
lists the bucket. -/
theorem not_kept_deleteBucketPolicy :
    ["s3:DeleteBucketPolicy"] ≠ [] ∧
      ∃ r ∈ resources "abc" ["s3:DeleteBucketPolicy"] everyPath,
        r ∉ resources "abc" (["s3:DeleteBucketPolicy"] ++ ["s3:ListBucket"]) everyPath := by
  exact ⟨by decide, "arn:aws:s3:::abc/*", by decide, by decide⟩

end BucketAccess.Policy
