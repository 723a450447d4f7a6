import Mathlib.Data.Set.Function
import Mathlib.Tactic.Ring
import Mathlib.Algebra.Order.Field.Rat
import Swapchain.Proofs.Bounds
import Swapchain.Proofs.Damage

/-!
# Where a point of the window is drawn

The map from logical to physical coordinates has a row of coefficients for each combination of two
flips and a quarter turn, while the physical size follows from the turn alone. They agree with one
rule: a point is flipped within the logical size, and then it is turned. So each coordinate of the
buffer follows from one coordinate of the window, and the points of the logical rectangle go over
into those of the physical one, one to one.

* `Transform.place`: the rule, `Transform.replace` the way back;
* `Transform.apply_preTransform`: the coefficients agree with it;
* `Transform.imageBox_preTransform`: the image of a rectangle is spanned by two opposite corners;
* `Transform.preTransform_fills`: the map between the rectangles of both sizes.
-/

namespace Swapchain

/-- A point with rational coordinates. -/
def Point.ofRat (p : Rat × Rat) : Point := ⟨.finite p.1, .finite p.2⟩

theorem Point.ofRat_injective : Function.Injective Point.ofRat := by
  rintro ⟨x, y⟩ ⟨x', y'⟩ h
  simpa [Point.ofRat] using h

/-- The points of a rectangle with one corner at the origin, its edges included. -/
def Extent.points (s : Extent) : Set (Rat × Rat) :=
  {p | (0 ≤ p.1 ∧ p.1 ≤ s.width.toNat) ∧ 0 ≤ p.2 ∧ p.2 ≤ s.height.toNat}

namespace Transform

variable {s : Extent} {p : Rat × Rat}

/-! ## The rule -/

/-- A coordinate, flipped within `n` pixels if asked. -/
def flip (asked : Bool) (n : UInt32) (x : Rat) : Rat := if asked then n.toNat - x else x

/-- Where a point of a window of a size is drawn: it is flipped, and then it is turned clockwise, if
asked. -/
def place (t : Transform) (s : Extent) (p : Rat × Rat) : Rat × Rat :=
  let flipped := (flip (t.contains flipH) s.width p.1, flip (t.contains flipV) s.height p.2)
  if t.contains rot90 then (s.height.toNat - flipped.2, flipped.1) else flipped

/-- The point of the window that is drawn at a point. -/
def replace (t : Transform) (s : Extent) (p : Rat × Rat) : Rat × Rat :=
  let turned := if t.contains rot90 then (p.2, s.height.toNat - p.1) else p
  (flip (t.contains flipH) s.width turned.1, flip (t.contains flipV) s.height turned.2)

/-- Each row of coefficients is the rule for its flags. -/
theorem apply_preTransform (t : Transform) (s : Extent) (p : Rat × Rat) :
    (t.preTransform s).apply Rounding.exact (.ofRat p) = .ofRat (t.place s p) := by
  obtain ⟨x, y⟩ := p
  rw [Point.ofRat, Affine.apply_exact]
  unfold preTransform place flip
  cases t.contains rot90 <;> cases t.contains flipV <;> cases t.contains flipH <;>
    simp only [Point.ofRat, Point.mk.injEq, Extended.finite.injEq, Affine.identity,
      Bool.false_eq_true, reduceIte] <;>
    constructor <;> ring

@[simp] theorem flip_flip (b : Bool) (n : UInt32) (x : Rat) : flip b n (flip b n x) = x := by
  cases b <;> simp [flip]

theorem replace_place (t : Transform) (s : Extent) (p : Rat × Rat) :
    t.replace s (t.place s p) = p := by
  unfold replace place
  split <;> simp

theorem place_replace (t : Transform) (s : Extent) (p : Rat × Rat) :
    t.place s (t.replace s p) = p := by
  unfold replace place
  split <;> simp

/-! ## The rectangles of both sizes -/

theorem flip_mem {n : UInt32} {x : Rat} (b : Bool) (hx : 0 ≤ x ∧ x ≤ n.toNat) :
    0 ≤ flip b n x ∧ flip b n x ≤ n.toNat := by
  cases b with
  | false => exact hx
  | true => exact ⟨sub_nonneg.mpr hx.2, sub_le_self _ hx.1⟩

theorem place_mem (t : Transform) (hp : p ∈ s.points) :
    t.place s p ∈ (Layout.physicalOf t s).points := by
  have hx := flip_mem (t.contains flipH) hp.1
  have hy := flip_mem (t.contains flipV) hp.2
  unfold place Layout.physicalOf swapsAxes Extent.swappedIf
  split
  · exact ⟨flip_mem true hy, hx⟩
  · exact ⟨hx, hy⟩

theorem replace_mem (t : Transform) (hp : p ∈ (Layout.physicalOf t s).points) :
    t.replace s p ∈ s.points := by
  revert hp
  unfold replace Layout.physicalOf swapsAxes Extent.swappedIf
  split
  · intro hp
    have hx : 0 ≤ p.1 ∧ p.1 ≤ s.height.toNat := hp.1
    exact ⟨flip_mem _ hp.2, flip_mem _ (flip_mem true hx)⟩
  · intro hp
    exact ⟨flip_mem _ hp.1, flip_mem _ hp.2⟩

theorem place_bijOn (t : Transform) (s : Extent) :
    Set.BijOn (t.place s) s.points (Layout.physicalOf t s).points :=
  Set.InvOn.bijOn ⟨fun p _ => t.replace_place s p, fun p _ => t.place_replace s p⟩
    (fun _ => t.place_mem) (fun _ => t.replace_mem)

/-! ## The image of a rectangle -/

/-- The image of a rectangle is spanned by the images of two opposite corners, for each coordinate
of an image follows from one coordinate of the point. -/
theorem imageBox_preTransform (t : Transform) (s : Extent) (p q : Rat × Rat) :
    (t.preTransform s).imageBox Rounding.exact (.ofPoints (.ofRat p) (.ofRat q)) =
      (Rect.ofPoints (.ofRat (t.place s p)) (.ofRat (t.place s q))).sorted := by
  have hcorner : ∀ x y : Rat, (t.preTransform s).apply Rounding.exact ⟨.finite x, .finite y⟩ =
      .ofRat (t.place s (x, y)) := fun x y => t.apply_preTransform s (x, y)
  simp only [Affine.imageBox, Rect.ofPoints, Point.ofRat, hcorner]
  unfold place
  split <;> simp [Rect.sorted, Rect.union, Extended.least_finite, Extended.greatest_finite]

/-- The whole window fills the whole buffer. -/
theorem imageBox_rect (t : Transform) (s : Extent) :
    (t.preTransform s).imageBox Rounding.exact s.rect = (Layout.physicalOf t s).rect := by
  have hbox := t.imageBox_preTransform s (0, 0) (s.width.toNat, s.height.toNat)
  have hrect : Rect.ofPoints (.ofRat (0, 0)) (.ofRat (s.width.toNat, s.height.toNat)) = s.rect :=
    rfl
  rw [hrect] at hbox
  rw [hbox]
  have hw : (0 : Rat) ≤ s.width.toNat := Nat.cast_nonneg _
  have hh : (0 : Rat) ≤ s.height.toNat := Nat.cast_nonneg _
  unfold place flip Layout.physicalOf swapsAxes Extent.swappedIf Extent.swapped
  cases t.contains rot90 <;> cases t.contains flipV <;> cases t.contains flipH <;>
    simp [Rect.sorted, Rect.ofPoints, Point.ofRat, Extent.rect, Extended.ofWord,
      Extended.least_finite, Extended.greatest_finite, hw, hh]

/-- The map from a window to its buffer is the rule, and it carries the points of the window one to
one onto those of the buffer, whose size the quarter turn alone exchanges. The box around the whole
window is the whole buffer. -/
theorem preTransform_fills (t : Transform) (s : Extent) :
    (∀ p, (t.preTransform s).apply Rounding.exact (.ofRat p) = .ofRat (t.place s p)) ∧
      Set.BijOn ((t.preTransform s).apply Rounding.exact) (Point.ofRat '' s.points)
        (Point.ofRat '' (Layout.physicalOf t s).points) ∧
      ∀ l : Layout, l.Resolved → l.transform = t → l.logicalSize = s →
        l.mapRect Rounding.exact s.rect = l.physicalSize.rect := by
  have happly := t.apply_preTransform s
  have hconj : Function.Semiconj Point.ofRat (t.place s)
      ((t.preTransform s).apply Rounding.exact) := fun p => (happly p).symm
  refine ⟨happly, hconj.bijOn_image (t.place_bijOn s) Point.ofRat_injective.injOn, ?_⟩
  rintro l hl rfl rfl
  rw [Layout.mapRect, hl.preTransform, imageBox_rect, hl.physicalSize]

/-- A window of 640x480 that is flipped left to right and then turned: its upper left corner is
drawn at the lower right one of a buffer of 480x640. -/
theorem preTransform_fills_turned :
    let t : Transform := ⟨5⟩
    let r := { Pool.plain.layout with transform := t }.resolve (.square 1) (.square 4096)
    (r.preTransform.apply Rounding.exact (.ofRat (0, 0)) = .ofRat (480, 640)) ∧
      r.mapRect Rounding.exact ⟨.finite 0, .finite 0, .finite 640, .finite 480⟩ =
        ⟨.finite 0, .finite 0, .finite 480, .finite 640⟩ := by
  intro t r
  obtain ⟨happly, -, hrect⟩ := preTransform_fills t ⟨640, 480⟩
  refine ⟨(happly (0, 0)).trans ?_, ?_⟩
  · decide +kernel
  · exact (hrect r (Layout.resolved_resolve ..) rfl rfl).trans (by decide +kernel)

end Transform
end Swapchain
