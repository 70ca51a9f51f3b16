import Mathlib.Data.List.Forall2
import ProvingGround.Pool.Plan

/-!
# Other images

When another image is asked for, nodes run it, but for a second group of clients that keeps its own.
Nothing else of a blueprint changes, and what is computed of it does not either.
-/

namespace ProvingGround.Blueprint

/-- The blueprint with the image that is asked for, where none is asked for by an empty one. -/
structure Reimaged (b : Blueprint) (image : String) (b' : Blueprint) : Prop where
  bootstrap : b'.bootstrap =
    { b.bootstrap with image := if image = "" then b.bootstrap.image else image }
  client : b'.client = { b.client with image := if image = "" then b.client.image else image }
  clientv2 : b'.clientv2 = b.clientv2.map fun v2 =>
    { v2 with node := { v2.node with
      image := if image = "" ∨ v2.keepsImage = true then v2.node.image else image } }
  ns : b'.ns = b.ns
  genesisDelta : b'.genesisDelta = b.genesisDelta
  readyTimeout : b'.readyTimeout = b.readyTimeout
  pool : b'.pool = b.pool

variable (b : Blueprint) (image : String)

theorem reimaged_overrideImages : b.Reimaged image (b.overrideImages image) := by
  by_cases none : image = ""
  · subst none
    refine ⟨rfl, rfl, ?_, rfl, rfl, rfl, rfl⟩
    simp only [true_or, if_true]
    exact Option.map_id'.symm
  · have some_ : image.isEmpty = false := String.isEmpty_eq_false_iff.2 none
    unfold overrideImages
    rw [some_]
    refine ⟨?_, ?_, ?_, rfl, rfl, rfl, rfl⟩
    · rw [if_neg none]
      rfl
    · rw [if_neg none]
      rfl
    · apply Option.map_congr
      rintro ⟨keeps, node⟩ -
      cases keeps with
      | false => simp only [none, Bool.false_eq_true, if_false, or_self]
      | true => simp only [if_true, or_true]

/-! ### What does not change -/

theorem genesisDelta_overrideImages : (b.overrideImages image).genesisDelta = b.genesisDelta :=
  (b.reimaged_overrideImages image).genesisDelta

theorem genesisSpan_overrideImages : (b.overrideImages image).genesisSpan = b.genesisSpan :=
  congrArg Duration.ofSeconds (b.reimaged_overrideImages image).genesisDelta

theorem readySpan_overrideImages : (b.overrideImages image).readySpan = b.readySpan :=
  congrArg Duration.ofSeconds (b.reimaged_overrideImages image).readyTimeout

theorem pool_overrideImages : (b.overrideImages image).pool = b.pool :=
  (b.reimaged_overrideImages image).pool

theorem clientv2_overrideImages :
    (b.overrideImages image).clientv2.isSome = b.clientv2.isSome := by
  rw [(b.reimaged_overrideImages image).clientv2]
  exact Option.isSome_map

/-- The groups of the blueprint with overridden images are the same but for the images. -/
theorem groups_overrideImages :
    List.Forall₂ (fun s s' : NodeSpec => s' = { s with image := s'.image }) b.groups
      (b.overrideImages image).groups := by
  have other := b.reimaged_overrideImages image
  unfold groups
  rw [other.bootstrap, other.client, other.clientv2]
  refine .cons rfl (.cons rfl ?_)
  cases b.clientv2 with
  | none => exact .nil
  | some v2 => exact .cons rfl .nil

/-- Whatever does not depend on images is the same of all groups. -/
theorem map_groups_overrideImages {α : Type} {f : NodeSpec → α}
    (blind : ∀ (s : NodeSpec) (image : String), f { s with image := image } = f s) :
    (b.overrideImages image).groups.map f = b.groups.map f := by
  rw [← List.forall₂_eq_eq_eq, List.forall₂_map_left_iff, List.forall₂_map_right_iff]
  apply (b.groups_overrideImages image).flip.imp
  intro s' s same
  rw [same]
  exact blind s _

theorem replicas_overrideImages :
    (b.overrideImages image).groups.map (·.replicas) = b.groups.map (·.replicas) :=
  b.map_groups_overrideImages image fun _ _ => rfl

theorem addGroupMemory_congr {groups groups' : List NodeSpec} (total : Nat)
    (same : groups.map NodeSpec.groupMemory = groups'.map NodeSpec.groupMemory) :
    addGroupMemory total groups = addGroupMemory total groups' := by
  induction groups generalizing groups' total with
  | nil =>
    rw [List.map_eq_nil_iff.1 same.symm]
  | cons s rest ih =>
    cases groups' with
    | nil => cases same
    | cons s' rest' =>
      obtain ⟨first, others⟩ := List.cons.inj same
      unfold addGroupMemory
      rw [first]
      cases s'.groupMemory with
      | error c => rfl
      | ok m => exact ih _ others

theorem requestedMemory_overrideImages :
    (b.overrideImages image).requestedMemory = b.requestedMemory :=
  addGroupMemory_congr 0 (b.map_groups_overrideImages image fun _ _ => rfl)

theorem planPool_overrideImages (ns : String) :
    (b.overrideImages image).planPool ns = b.planPool ns := by
  unfold planPool
  rw [b.requestedMemory_overrideImages, b.pool_overrideImages]

end ProvingGround.Blueprint
