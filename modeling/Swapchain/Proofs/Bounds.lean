import Swapchain.Geometry.Layout

/-!
# Sizes within bounds

Sizes are compared in both dimensions. A clamped size is within the upper bound always, and above
whatever both bounds are above; exchanging width and height matters to no square bound.

* `Extent.clamp_le`, `Extent.le_clamp`: what a clamp makes sure of;
* `Extent.clamp_eq_self_iff`: the sizes that a clamp keeps;
* `Extent.swappedIf_le_swappedIf` and the like: turning a size;
* `Layout.Resolved`: physical size and pre-transform follow from logical size and transform;
* `Layout.le_resolve`, `Layout.resolve_le`: the physical size of a resolved layout.
-/

namespace Swapchain

namespace Extent

variable {r s t : Extent} {n : UInt32}

/-- No larger in either dimension. -/
instance : LE Extent := ⟨fun s t => s.width ≤ t.width ∧ s.height ≤ t.height⟩

instance (s t : Extent) : Decidable (s ≤ t) :=
  inferInstanceAs (Decidable (s.width ≤ t.width ∧ s.height ≤ t.height))

theorem le_trans (h : r ≤ s) (h' : s ≤ t) : r ≤ t :=
  ⟨UInt32.le_trans h.1 h'.1, UInt32.le_trans h.2 h'.2⟩

theorem le_sup_left (s t : Extent) : s ≤ s.sup t := by
  have left_le_max : ∀ x y : UInt32, x ≤ max x y := fun x y => by
    show x ≤ if x ≤ y then y else x
    grind
  exact ⟨left_le_max .., left_le_max ..⟩

theorem le_sup_right (s t : Extent) : t ≤ s.sup t := by
  have right_le_max : ∀ x y : UInt32, y ≤ max x y := fun x y => by
    show y ≤ if x ≤ y then y else x
    grind
  exact ⟨right_le_max .., right_le_max ..⟩

theorem inf_le_left (s t : Extent) : s.inf t ≤ s := ⟨Std.min_le_left, Std.min_le_left⟩

theorem inf_le_right (s t : Extent) : s.inf t ≤ t := ⟨Std.min_le_right, Std.min_le_right⟩

theorem le_inf (h : r ≤ s) (h' : r ≤ t) : r ≤ s.inf t :=
  ⟨Std.le_min_iff.mpr ⟨h.1, h'.1⟩, Std.le_min_iff.mpr ⟨h.2, h'.2⟩⟩

theorem le_inf_iff : r ≤ s.inf t ↔ r ≤ s ∧ r ≤ t :=
  ⟨fun h => ⟨le_trans h (inf_le_left ..), le_trans h (inf_le_right ..)⟩, fun h => le_inf h.1 h.2⟩

theorem clamp_le (s lower upper : Extent) : s.clamp lower upper ≤ upper := inf_le_right ..

theorem le_clamp {lower upper : Extent} (h : r ≤ lower) (h' : r ≤ upper) :
    r ≤ s.clamp lower upper :=
  le_inf (le_trans h (le_sup_right ..)) h'

/-- A clamp keeps the sizes within the bounds; if these cross, the upper one only. -/
theorem clamp_eq_self_iff {lower upper : Extent} :
    s.clamp lower upper = s ↔ lower.inf upper ≤ s ∧ s ≤ upper := by
  have clamped : ∀ x l u : UInt32, min (max x l) u = x ↔ min l u ≤ x ∧ x ≤ u := fun x l u => by
    show (if (if x ≤ l then l else x) ≤ u then (if x ≤ l then l else x) else u) = x ↔
      (if l ≤ u then l else u) ≤ x ∧ x ≤ u
    grind
  obtain ⟨w, v⟩ := s
  have hw := clamped w lower.width upper.width
  have hv := clamped v lower.height upper.height
  rw [clamp, sup, inf, mk.injEq, hw, hv]
  exact and_and_and_comm

theorem clamp_clamp (s lower upper : Extent) :
    (s.clamp lower upper).clamp lower upper = s.clamp lower upper :=
  clamp_eq_self_iff.mpr ⟨le_clamp (inf_le_left ..) (inf_le_right ..), clamp_le ..⟩

theorem swappedIf_le_square {b : Bool} : s.swappedIf b ≤ square n ↔ s ≤ square n := by
  cases b with
  | false => rfl
  | true => exact and_comm

theorem square_le_swappedIf {b : Bool} : square n ≤ s.swappedIf b ↔ square n ≤ s := by
  cases b with
  | false => rfl
  | true => exact and_comm

theorem swappedIf_le_swappedIf {b : Bool} : s.swappedIf b ≤ t.swappedIf b ↔ s ≤ t := by
  cases b with
  | false => rfl
  | true => exact and_comm

/-- Turning leaves a square size as it is. -/
theorem swappedIf_eq_self {b : Bool} (h : s.swapped = s) : s.swappedIf b = s := by
  cases b with
  | false => rfl
  | true => exact h

@[simp] theorem swappedIf_swappedIf (b : Bool) (s : Extent) :
    (s.swappedIf b).swappedIf b = s := by
  cases b <;> rfl

theorem square_one_le_iff : square 1 ≤ s ↔ s.width ≠ 0 ∧ s.height ≠ 0 := by
  have pos : ∀ x : UInt32, 1 ≤ x ↔ x ≠ 0 := fun x => by grind
  exact and_congr (pos _) (pos _)

/-- A size with pixels has one both ways. -/
theorem isEmpty_eq_false_iff : s.isEmpty = false ↔ square 1 ≤ s := by
  rw [square_one_le_iff, isEmpty, Bool.or_eq_false_iff, beq_eq_false_iff_ne, beq_eq_false_iff_ne]

end Extent

namespace Layout

variable {l : Layout} {n : UInt32} {lower upper : Extent}

/-- Physical size and pre-transform are those of the logical size under the transform. -/
structure Resolved (l : Layout) : Prop where
  physicalSize : l.physicalSize = physicalOf l.transform l.logicalSize
  preTransform : l.preTransform = l.transform.preTransform l.logicalSize

theorem resolved_resolve (lower upper : Extent) (l : Layout) : (l.resolve lower upper).Resolved :=
  ⟨rfl, rfl⟩

theorem resolve_le (h : upper ≤ .square n) : (l.resolve lower upper).physicalSize ≤ .square n :=
  Extent.swappedIf_le_square.mpr (Extent.le_trans (Extent.clamp_le ..) h)

theorem le_resolve (h : .square n ≤ lower) (h' : .square n ≤ upper) :
    .square n ≤ (l.resolve lower upper).physicalSize :=
  Extent.square_le_swappedIf.mpr (Extent.le_clamp h h')

/-- A layout with pixels to draw has come from bounds that leave some. -/
theorem le_upper (h : .square n ≤ (l.resolve lower upper).physicalSize) : .square n ≤ upper :=
  Extent.le_trans (Extent.square_le_swappedIf.mp h) (Extent.clamp_le ..)

end Layout
end Swapchain
