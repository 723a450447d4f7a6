import Mathlib.Algebra.Order.Group.MinMax
import Mathlib.Tactic.Linarith
import Swapchain.Proofs.Pixels

/-!
# Damage of the window and of its buffer

A rectangle can be cut to whole pixels in the window, and the region be carried into the buffer, or
the rectangle be carried first and cut there. A flip turns an axis around: the pixels that were met
are met from the other end, so rounding down and rounding up change places. A turn exchanges the axes
together with the sizes that they are cut to. So both ways lead to the same region.

* `Marks.flip`: the pixels that a flipped axis meets;
* `Transform.placeRegion`: where a region of the window is drawn;
* `Transform.place_bijOn_points`: it is the image of the region;
* `Transform.ofRect?_place`: the region of a rectangle that has been carried into the buffer;
* `Layout.damage_commutes`: both ways to the damage of a buffer.
-/

namespace Swapchain

/-! ## One axis -/

section Axis

variable {a c : Rat} {n start length : UInt32} {k i j : Nat}

theorem mem_touchedOf_reversed (hk : k ∈ touchedOf a c n.toNat) :
    n.toNat - 1 - k ∈ touchedOf (n.toNat - a) (n.toNat - c) n.toNat := by
  obtain ⟨hkn, x, ⟨hkx, hxk⟩, hlower, hupper⟩ := hk
  have hcast : ((n.toNat - 1 - k : Nat) : Rat) = n.toNat - 1 - k := by
    rw [Nat.cast_sub (by omega), Nat.cast_sub (by omega), Nat.cast_one]
  -- the point that both contain goes to the other side as well
  refine ⟨by omega, n.toNat - x, ⟨?_, ?_⟩, ?_, ?_⟩
  · rw [hcast]
    linarith
  · rw [hcast]
    linarith
  · rw [min_sub_sub_left]
    linarith
  · rw [max_sub_sub_left]
    linarith

theorem mem_touchedOf_reversed_iff (hk : k < n.toNat) :
    k ∈ touchedOf (n.toNat - a) (n.toNat - c) n.toNat ↔ n.toNat - 1 - k ∈ touchedOf a c n.toNat := by
  have hback : n.toNat - 1 - (n.toNat - 1 - k) = k := by omega
  constructor
  · intro h
    simpa using mem_touchedOf_reversed h
  · intro h
    simpa [hback] using mem_touchedOf_reversed h

/-- The pixels from `i` to `j` of an axis, counted from its other end. -/
theorem touchedOf_reversed (hj : j ≤ n.toNat) (h : touchedOf a c n.toNat = Set.Ico i j) :
    touchedOf (n.toNat - a) (n.toNat - c) n.toNat = Set.Ico (n.toNat - j) (n.toNat - i) := by
  ext k
  by_cases hk : k < n.toNat
  · rw [mem_touchedOf_reversed_iff hk, h, Set.mem_Ico, Set.mem_Ico]
    omega
  · refine iff_of_false (fun hmem => hk hmem.1) ?_
    rw [Set.mem_Ico]
    omega

/-- The pixels of `n` in a row that an axis meets are `length` ones from `start` on. -/
structure Marks (n start length : UInt32) (a c : Rat) : Prop where
  length_pos : 1 ≤ length.toNat
  end_le : start.toNat + length.toNat ≤ n.toNat
  touched : touchedOf a c n.toNat = Set.Ico start.toNat (start.toNat + length.toNat)

/-- Where `length` pixels from `start` on begin after a flip, if asked. -/
def flipStart (asked : Bool) (n start length : UInt32) : UInt32 :=
  if asked then n - (start + length) else start

theorem toNat_flipStart (b : Bool) (h : start.toNat + length.toNat ≤ n.toNat) :
    (flipStart b n start length).toNat =
      if b then n.toNat - (start.toNat + length.toNat) else start.toNat := by
  have hn := n.toNat_lt
  have hsum : (start + length).toNat = start.toNat + length.toNat := by
    rw [UInt32.toNat_add]
    exact Nat.mod_eq_of_lt (by omega)
  cases b with
  | false => rfl
  | true => simp [flipStart, UInt32.toNat_sub_of_le, UInt32.le_iff_toNat_le, hsum, h]

/-- The pixels that an axis meets are marked in one way. -/
theorem Marks.eq {start' length' : UInt32} (h : Marks n start length a c)
    (h' : Marks n start' length' a c) : start = start' ∧ length = length' := by
  have hpos := h.length_pos
  obtain ⟨hstart, hend⟩ := (Set.Ico_eq_Ico_iff (.inl (by omega))).mp
    (h.touched.symm.trans h'.touched)
  exact ⟨UInt32.toNat_inj.mp hstart, UInt32.toNat_inj.mp (by omega)⟩

theorem Marks.touched_ne_empty (h : Marks n start length a c) : touchedOf a c n.toNat ≠ ∅ := by
  have hpos := h.length_pos
  rw [h.touched, ne_eq, Set.Ico_eq_empty_iff, not_not]
  omega

theorem Marks.flip (b : Bool) (h : Marks n start length a c) :
    Marks n (flipStart b n start length) length (Transform.flip b n a) (Transform.flip b n c) := by
  obtain ⟨hpos, hend, htouched⟩ := h
  have hstart := toNat_flipStart b hend
  cases b with
  | false => exact ⟨hpos, hend, htouched⟩
  | true =>
    refine ⟨hpos, ?_, ?_⟩
    · simp only [hstart, if_true]
      omega
    · have hlast : n.toNat - (start.toNat + length.toNat) + length.toNat =
          n.toNat - start.toNat := by omega
      simp only [hstart, if_true, hlast]
      exact touchedOf_reversed hend htouched

theorem touchedOf_flip_eq_empty (b : Bool) (h : touchedOf a c n.toNat = ∅) :
    touchedOf (Transform.flip b n a) (Transform.flip b n c) n.toNat = ∅ := by
  cases b with
  | false => exact h
  | true =>
    have hnone : touchedOf a c n.toNat = Set.Ico 0 0 := h.trans (Set.Ico_self 0).symm
    exact (touchedOf_reversed (Nat.zero_le _) hnone).trans (Set.Ico_self _)

/-- A point stays within the pixels when both are flipped. -/
theorem flip_mem_iff (b : Bool) (h : start.toNat + length.toNat ≤ n.toNat) {x : Rat} :
    ((flipStart b n start length).toNat ≤ Transform.flip b n x ∧
        Transform.flip b n x ≤ (flipStart b n start length).toNat + length.toNat) ↔
      start.toNat ≤ x ∧ x ≤ start.toNat + length.toNat := by
  rw [toNat_flipStart b h]
  cases b with
  | false => rfl
  | true =>
    simp only [Transform.flip, if_true, Nat.cast_sub h, Nat.cast_add]
    constructor <;> rintro ⟨hl, hu⟩ <;> constructor <;> linarith

end Axis

/-! ## Regions -/

namespace Region

variable {bounds : Extent} {r : Region} {p q : Rat × Rat}

/-- The points of a region, its edges included. -/
def points (r : Region) : Set (Rat × Rat) :=
  {p | ((r.x.toNat : Rat) ≤ p.1 ∧ p.1 ≤ r.x.toNat + r.width.toNat) ∧
    (r.y.toNat : Rat) ≤ p.2 ∧ p.2 ≤ r.y.toNat + r.height.toNat}

/-- The region of a rectangle holds on each axis the pixels that the rectangle meets there. -/
structure Holds (bounds : Extent) (p q : Rat × Rat) (r : Region) : Prop where
  x : Marks bounds.width r.x r.width p.1 q.1
  y : Marks bounds.height r.y r.height p.2 q.2

theorem Holds.eq {r' : Region} (h : Holds bounds p q r) (h' : Holds bounds p q r') : r = r' := by
  obtain ⟨hx, hwidth⟩ := h.x.eq h'.x
  obtain ⟨hy, hheight⟩ := h.y.eq h'.y
  cases r
  cases r'
  simp_all

theorem ofRect?_holds (p q : Rat × Rat) (bounds : Extent) :
    ((touchedOf p.1 q.1 bounds.width.toNat = ∅ ∨ touchedOf p.2 q.2 bounds.height.toNat = ∅) ∧
        ofRect? (.ofPoints (.ofRat p) (.ofRat q)) bounds = none) ∨
      ∃ r, ofRect? (.ofPoints (.ofRat p) (.ofRat q)) bounds = some r ∧ Holds bounds p q r := by
  rcases ofRect?_touched p q bounds with ⟨hempty, hnone⟩ | ⟨r, hsome, hwithin, htouched⟩
  · rw [Extent.touched_eq, Set.prod_eq_empty_iff] at hempty
    exact .inl ⟨hempty, hnone⟩
  · rw [Extent.touched_eq, pixels, eq_comm,
      Set.prod_eq_prod_iff_of_nonempty hwithin.pixels_nonempty] at htouched
    exact .inr ⟨r, hsome, ⟨hwithin.width_pos, hwithin.right_le, htouched.1.symm⟩,
      ⟨hwithin.height_pos, hwithin.lower_le, htouched.2.symm⟩⟩

theorem ofRect?_eq_some_iff :
    ofRect? (.ofPoints (.ofRat p) (.ofRat q)) bounds = some r ↔ Holds bounds p q r := by
  constructor
  · intro h
    rcases ofRect?_holds p q bounds with ⟨-, hnone⟩ | ⟨r', hsome, hr'⟩
    · cases h.symm.trans hnone
    · cases h.symm.trans hsome
      exact hr'
  · intro h
    rcases ofRect?_holds p q bounds with ⟨hempty | hempty, -⟩ | ⟨r', hsome, hr'⟩
    · exact absurd hempty h.x.touched_ne_empty
    · exact absurd hempty h.y.touched_ne_empty
    · rw [hsome, hr'.eq h]

theorem ofRect?_eq_none_iff :
    ofRect? (.ofPoints (.ofRat p) (.ofRat q)) bounds = none ↔
      touchedOf p.1 q.1 bounds.width.toNat = ∅ ∨ touchedOf p.2 q.2 bounds.height.toNat = ∅ := by
  rcases ofRect?_holds p q bounds with ⟨hempty, hnone⟩ | ⟨r, hsome, hr⟩
  · exact iff_of_true hnone hempty
  · refine iff_of_false (by rw [hsome]; nofun) ?_
    exact not_or_intro hr.x.touched_ne_empty hr.y.touched_ne_empty

/-- The order of a rectangle's corners does not matter to its region. -/
theorem ofRect?_sorted (p q : Rat × Rat) (bounds : Extent) :
    ofRect? (Rect.ofPoints (.ofRat p) (.ofRat q)).sorted bounds =
      ofRect? (.ofPoints (.ofRat p) (.ofRat q)) bounds := by
  have hsorted : (Rect.ofPoints (.ofRat p) (.ofRat q)).sorted.sorted =
      (Rect.ofPoints (.ofRat p) (.ofRat q)).sorted := by
    simp [Rect.sorted, Rect.ofPoints, Point.ofRat, Extended.least_finite, Extended.greatest_finite]
  rw [ofRect?, hsorted, ofRect?]

end Region

/-! ## Carried into the buffer -/

namespace Transform

variable {s : Extent} {r : Region} {p q : Rat × Rat}

/-- Where a region of a window of a size is drawn. -/
def placeRegion (t : Transform) (s : Extent) (r : Region) : Region :=
  let x := flipStart (t.contains flipH) s.width r.x r.width
  let y := flipStart (t.contains flipV) s.height r.y r.height
  if t.contains rot90 then ⟨flipStart true s.height y r.height, x, r.height, r.width⟩
  else ⟨x, y, r.width, r.height⟩

/-- A rectangle that is carried into the buffer has the region that is carried there. -/
theorem holds_place (t : Transform) (h : r.Holds s p q) :
    (t.placeRegion s r).Holds (Layout.physicalOf t s) (t.place s p) (t.place s q) := by
  have hx := h.x.flip (t.contains flipH)
  have hy := h.y.flip (t.contains flipV)
  unfold placeRegion place Layout.physicalOf swapsAxes Extent.swappedIf
  split
  · exact ⟨hy.flip true, hx⟩
  · exact ⟨hx, hy⟩

theorem touchedOf_place_eq_empty (t : Transform)
    (h : touchedOf p.1 q.1 s.width.toNat = ∅ ∨ touchedOf p.2 q.2 s.height.toNat = ∅) :
    touchedOf (t.place s p).1 (t.place s q).1 (Layout.physicalOf t s).width.toNat = ∅ ∨
      touchedOf (t.place s p).2 (t.place s q).2 (Layout.physicalOf t s).height.toNat = ∅ := by
  have hx := touchedOf_flip_eq_empty (a := p.1) (c := q.1) (n := s.width) (t.contains flipH)
  have hy := touchedOf_flip_eq_empty (a := p.2) (c := q.2) (n := s.height) (t.contains flipV)
  unfold place Layout.physicalOf swapsAxes Extent.swappedIf
  split
  · exact h.symm.imp (fun h => touchedOf_flip_eq_empty true (hy h)) hx
  · exact h.imp hx hy

/-- Cutting to pixels and carrying into the buffer may change places. -/
theorem ofRect?_place (t : Transform) (s : Extent) (p q : Rat × Rat) :
    Region.ofRect? (.ofPoints (.ofRat (t.place s p)) (.ofRat (t.place s q)))
        (Layout.physicalOf t s) =
      (Region.ofRect? (.ofPoints (.ofRat p) (.ofRat q)) s).map (t.placeRegion s) := by
  rcases Region.ofRect?_holds p q s with ⟨hempty, hnone⟩ | ⟨r, hsome, hr⟩
  · rw [hnone]
    exact Region.ofRect?_eq_none_iff.mpr (t.touchedOf_place_eq_empty hempty)
  · rw [hsome]
    exact Region.ofRect?_eq_some_iff.mpr (t.holds_place hr)

/-- The points of a region are drawn at the points of the region it is carried to. -/
theorem place_mem_points (t : Transform) (h : r.Holds s p q) {z : Rat × Rat} :
    t.place s z ∈ (t.placeRegion s r).points ↔ z ∈ r.points := by
  have hx := flip_mem_iff (t.contains flipH) h.x.end_le (x := z.1)
  have hy := flip_mem_iff (t.contains flipV) h.y.end_le (x := z.2)
  have hturned := flip_mem_iff true (h.y.flip (t.contains flipV)).end_le
    (x := flip (t.contains flipV) s.height z.2)
  unfold placeRegion place
  split
  · exact (and_congr (hturned.trans hy) hx).trans and_comm
  · exact and_congr hx hy

theorem place_bijOn_points (t : Transform) (h : r.Holds s p q) :
    Set.BijOn (t.place s) r.points (t.placeRegion s r).points := by
  refine Set.InvOn.bijOn ⟨fun z _ => t.replace_place s z, fun z _ => t.place_replace s z⟩
    (fun z hz => (t.place_mem_points h).mpr hz) (fun z hz => ?_)
  rw [← t.place_mem_points h, place_replace]
  exact hz

end Transform

namespace Layout

/-- Damage is the same whether it is tracked in logical or in physical pixels. A rectangle that is
carried into the buffer and cut to it there gives a region exactly if it gives one when it is cut to
the window, and then the map carries the points of the one onto those of the other, one to one. -/
theorem damage_commutes (l : Layout) (hl : l.Resolved) (p q : Rat × Rat) :
    let rect := Rect.ofPoints (.ofRat p) (.ofRat q)
    let logical := Region.ofRect? rect l.logicalSize
    let physical := Region.ofRect? (l.mapRect Rounding.exact rect) l.physicalSize
    (physical = none ↔ logical = none) ∧
      ∀ r, logical = some r → ∃ r', physical = some r' ∧
        Set.BijOn (l.preTransform.apply Rounding.exact) (Point.ofRat '' r.points)
          (Point.ofRat '' r'.points) := by
  intro rect logical physical
  have hphysical : physical = logical.map (l.transform.placeRegion l.logicalSize) := by
    rw [← Transform.ofRect?_place, ← Region.ofRect?_sorted, ← Transform.imageBox_preTransform,
      ← hl.preTransform, ← hl.physicalSize]
    rfl
  rw [hphysical]
  refine ⟨Option.map_eq_none_iff, fun r hr => ⟨_, by rw [hr, Option.map_some], ?_⟩⟩
  have hconj : Function.Semiconj Point.ofRat (l.transform.place l.logicalSize)
      (l.preTransform.apply Rounding.exact) := fun z => by
    rw [hl.preTransform, Transform.apply_preTransform]
  exact hconj.bijOn_image
    (l.transform.place_bijOn_points (Region.ofRect?_eq_some_iff.mp hr))
    Point.ofRat_injective.injOn

/-- In a window of 640x480 that is flipped left to right and then turned, a rectangle that juts out
on the left covers three columns and seven rows of pixels. In the buffer of 480x640 these are the
last three of the rows and seven of the columns. -/
theorem damage_commutes_turned :
    let l := { Pool.plain.layout with transform := ⟨5⟩ }.resolve (.square 1) (.square 4096)
    let rect := Rect.ofPoints (.ofRat (5 / 2, 51 / 5)) (.ofRat (-3, 9 / 2))
    let r : Region := ⟨0, 4, 3, 7⟩
    let r' : Region := ⟨469, 637, 7, 3⟩
    Region.ofRect? (l.mapRect Rounding.exact rect) l.physicalSize = some r' ∧
      Set.BijOn (l.preTransform.apply Rounding.exact) (Point.ofRat '' r.points)
        (Point.ofRat '' r'.points) := by
  intro l rect r r'
  have hl : l.Resolved := resolved_resolve ..
  have hr' : Region.ofRect? (l.mapRect Rounding.exact rect) l.physicalSize = some r' := by
    decide +kernel
  obtain ⟨-, hcarried⟩ := damage_commutes l hl (5 / 2, 51 / 5) (-3, 9 / 2)
  obtain ⟨r₁, hr₁, hmap⟩ := hcarried r (by decide +kernel)
  obtain rfl : r₁ = r' := Option.some.inj (hr₁.symm.trans hr')
  exact ⟨hr', hmap⟩

end Layout
end Swapchain
