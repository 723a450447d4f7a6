import Mathlib.Order.Interval.Set.Basic
import Mathlib.Data.Set.Prod
import Swapchain.Proofs.Placement
import Swapchain.Proofs.Rounding

/-!
# The pixels of a rectangle

A pixel of the buffer is met by a rectangle if their insides have a point in common. On an axis these
are the pixels from the lower end, rounded down, to the upper end, rounded up, as far as the buffer
goes; an axis without length meets none, though rounding moves its ends across each other. So the
region of a rectangle is made of the pixels that the rectangle meets, and it is not found without
meeting one.

* `Extent.touched`: the pixels that a rectangle meets, `Extent.touched_eq`: axis by axis;
* `Rect.axis_touched`: what is left of an axis is made of the pixels it meets;
* `Region.ofRect?_touched`: the region of a rectangle likewise;
* `Region.ofRectRounded?_eq`: rounding every result on the way changes nothing;
* `Region.ofRect?_smallest`: the region is the smallest one around these pixels.
-/

namespace Swapchain

/-! ## Pixels -/

/-- The pixels of `n` in a row whose inside meets the inside of an axis, the ends of which are given
in any order. -/
def touchedOf (a b : Rat) (n : Nat) : Set Nat :=
  {k | k < n ∧ (Set.Ioo (k : Rat) (k + 1) ∩ Set.Ioo (min a b) (max a b)).Nonempty}

/-- The pixels of a buffer of a size whose inside meets the inside of the rectangle between two
points. -/
def Extent.touched (s : Extent) (p q : Rat × Rat) : Set (Nat × Nat) :=
  {k | (k.1 < s.width.toNat ∧ k.2 < s.height.toNat) ∧
    ((Set.Ioo (k.1 : Rat) (k.1 + 1) ×ˢ Set.Ioo (k.2 : Rat) (k.2 + 1)) ∩
      Set.Ioo (min p.1 q.1) (max p.1 q.1) ×ˢ Set.Ioo (min p.2 q.2) (max p.2 q.2)).Nonempty}

/-- The pixels of a region. -/
def Region.pixels (r : Region) : Set (Nat × Nat) :=
  Set.Ico r.x.toNat (r.x.toNat + r.width.toNat) ×ˢ
    Set.Ico r.y.toNat (r.y.toNat + r.height.toNat)

theorem Extent.touched_eq (s : Extent) (p q : Rat × Rat) :
    s.touched p q = touchedOf p.1 q.1 s.width.toNat ×ˢ touchedOf p.2 q.2 s.height.toNat := by
  ext ⟨i, j⟩
  simp only [touched, touchedOf, Set.prod_inter_prod, Set.prod_nonempty_iff, Set.mem_ofPred_eq,
    Set.mem_prod]
  exact and_and_and_comm

/-! ## One axis -/

section Axis

variable {a b : Rat} {n k : Nat}

theorem touchedOf_self (a : Rat) (n : Nat) : touchedOf a a n = ∅ := by
  simp [touchedOf]

theorem touchedOf_sorted (a b : Rat) (n : Nat) :
    touchedOf (min a b) (max a b) n = touchedOf a b n := by
  have hle : min a b ≤ max a b := min_le_max
  rw [touchedOf, min_eq_left hle, max_eq_right hle, touchedOf]

/-- The pixels that an axis meets go from its lower end, rounded down, to its upper end, rounded
up. -/
theorem mem_touchedOf_iff (hab : a < b) :
    k ∈ touchedOf a b n ↔ ⌊a⌋ ≤ k ∧ k < n ∧ k < ⌈b⌉ := by
  have hfloor : ⌊a⌋ ≤ (k : Int) ↔ a < k + 1 := by
    rw [← Int.lt_add_one_iff, Int.floor_lt]
    push_cast
    rfl
  have hceil : (k : Int) < ⌈b⌉ ↔ (k : Rat) < b := Int.lt_ceil
  have hk : (k : Rat) < k + 1 := lt_add_one _
  rw [touchedOf, Set.mem_ofPred_eq, Set.Ioo_inter_Ioo, Set.nonempty_Ioo, min_eq_left hab.le,
    max_eq_right hab.le, hfloor, hceil]
  simp only [max_lt_iff, lt_min_iff]
  tauto

end Axis

namespace Extended

theorem floor_finite (q : Rat) : (finite q).floor = finite (⌊q⌋ : Int) := rfl

theorem ceil_finite (q : Rat) : (finite q).ceil = finite (⌈q⌉ : Int) := by
  rw [ceil, Rat.ceil_eq_neg_floor_neg]
  rfl

end Extended

namespace Rect

theorem spanInter_int (c d : Int) (n : UInt32) :
    spanInter (.finite c) (.finite d) (.finite 0) (Extended.ofWord n) =
      (.finite (max c 0 : Int), .finite (max (min d n.toNat) (max c 0) : Int)) := by
  simp [spanInter, Extended.ofWord, Extended.greatest_finite, Extended.least_finite]

/-- Two whole ends, cut to `n` pixels, have the pixels between them, if there are any. -/
theorem spanInter_pixels (c d : Int) (n : UInt32) {pixels : Set Nat}
    (hmem : ∀ k : Nat, k ∈ pixels ↔ c ≤ k ∧ k < n.toNat ∧ k < d) :
    let s := spanInter (.finite c) (.finite d) (.finite 0) (Extended.ofWord n)
    (pixels = ∅ ∧ ∃ q : Rat, s = (.finite q, .finite q)) ∨
      ∃ i j : Nat, i < j ∧ j ≤ n.toNat ∧ s = (.finite i, .finite j) ∧ pixels = Set.Ico i j := by
  rw [spanInter_int]
  by_cases hpixels : max c 0 < min d n.toNat
  · obtain ⟨i, hi⟩ : ∃ i : Nat, max c 0 = i := ⟨(max c 0).toNat, by omega⟩
    obtain ⟨j, hj⟩ : ∃ j : Nat, min d n.toNat = j := ⟨(min d n.toNat).toNat, by omega⟩
    refine .inr ⟨i, j, by omega, by omega, ?_, ?_⟩
    · rw [hi, hj, max_eq_left (by omega), Int.cast_natCast, Int.cast_natCast]
    · ext k
      rw [hmem, Set.mem_Ico]
      omega
  · refine .inl ⟨?_, ((max c 0 : Int) : Rat), ?_⟩
    · rw [Set.eq_empty_iff_forall_notMem]
      intro k
      rw [hmem]
      omega
    · rw [max_eq_right (not_lt.mp hpixels)]

/-- Rounding makes the ends of an axis whole, and between them are the pixels that the axis meets:
none for an axis without length, whose ends have passed each other. -/
theorem axis_int (a b : Rat) (n : UInt32) :
    ∃ c d : Int, axis (.finite a) (.finite b) n =
        spanInter (.finite c) (.finite d) (.finite 0) (Extended.ofWord n) ∧
      ∀ k : Nat, k ∈ touchedOf a b n.toNat ↔ c ≤ k ∧ k < n.toNat ∧ k < d := by
  simp only [axis, spanOut, Extended.least_finite, Extended.greatest_finite, Extended.lt_finite,
    decide_eq_true_eq, ← touchedOf_sorted a b]
  have hle : min a b ≤ max a b := min_le_max
  generalize min a b = lower at *
  generalize max a b = upper at *
  rcases hle.lt_or_eq with hlt | rfl
  · refine ⟨⌊lower⌋, ⌈upper⌉, ?_, fun k => mem_touchedOf_iff hlt⟩
    rw [if_pos hlt, Extended.floor_finite, Extended.ceil_finite]
  · have hfc := Int.floor_le_ceil lower
    refine ⟨⌈lower⌉, ⌊lower⌋, ?_, fun k => ?_⟩
    · rw [if_neg (lt_irrefl _), Extended.floor_finite, Extended.ceil_finite]
    · rw [touchedOf_self]
      exact iff_of_false (Set.notMem_empty k) (by omega)

/-- What is left of an axis within `n` pixels is made of the pixels that the axis meets. -/
theorem axis_touched (a b : Rat) (n : UInt32) :
    (touchedOf a b n.toNat = ∅ ∧ ∃ q : Rat, axis (.finite a) (.finite b) n = (.finite q, .finite q)) ∨
      ∃ i j : Nat, i < j ∧ j ≤ n.toNat ∧ axis (.finite a) (.finite b) n = (.finite i, .finite j) ∧
        touchedOf a b n.toNat = Set.Ico i j := by
  obtain ⟨c, d, haxis, hmem⟩ := axis_int a b n
  rw [haxis]
  exact spanInter_pixels c d n hmem

end Rect

namespace Region

variable {bounds : Extent} {r : Region}

theorem Within.pixels_nonempty (h : r.Within bounds) : r.pixels.Nonempty :=
  ⟨(r.x.toNat, r.y.toNat), ⟨le_rfl, Nat.lt_add_of_pos_right h.width_pos⟩,
    ⟨le_rfl, Nat.lt_add_of_pos_right h.height_pos⟩⟩

/-- The region of a rectangle is made of the pixels that the rectangle meets. -/
theorem ofRect?_touched (p q : Rat × Rat) (bounds : Extent) :
    (bounds.touched p q = ∅ ∧ ofRect? (.ofPoints (.ofRat p) (.ofRat q)) bounds = none) ∨
      ∃ r, ofRect? (.ofPoints (.ofRat p) (.ofRat q)) bounds = some r ∧ r.Within bounds ∧
        bounds.touched p q = r.pixels := by
  have hw : bounds.width.toNat ≤ 0xFFFFFFFF := Nat.le_of_lt_succ bounds.width.toNat_lt
  have hh : bounds.height.toNat ≤ 0xFFFFFFFF := Nat.le_of_lt_succ bounds.height.toNat_lt
  rw [Extent.touched_eq, ofRect?_eq]
  simp only [Rect.ofPoints, Point.ofRat]
  rcases Rect.axis_touched p.1 q.1 bounds.width with ⟨hx, c, hu⟩ | ⟨i, j, hij, hj, hu, hx⟩
  · left
    simp [hx, hu, Extended.spanLength_self]
  · rcases Rect.axis_touched p.2 q.2 bounds.height with ⟨hy, c, hv⟩ | ⟨k, l, hkl, hl, hv, hy⟩
    · left
      simp [hy, hv, Extended.spanLength_self]
    · right
      have hi := Extended.toNat_toWord (m := i) (by omega)
      have hk := Extended.toNat_toWord (m := k) (by omega)
      have hwidth := Extended.toNat_toWord (m := j - i) (by omega)
      have hheight := Extended.toNat_toWord (m := l - k) (by omega)
      have hpos {m : Nat} (hm : 0 < m) : (Extended.finite m).le (.finite 0) = false := by
        simpa [Nat.pos_iff_ne_zero] using hm
      simp only [hu, hv, hx, hy, Extended.spanLength_natCast hij.le,
        Extended.spanLength_natCast hkl.le, hpos (Nat.sub_pos_of_lt hij),
        hpos (Nat.sub_pos_of_lt hkl), Bool.or_self, Bool.false_eq_true, if_false]
      have made (r : Region) (hi : r.x.toNat = i) (hk : r.y.toNat = k)
          (hw : r.width.toNat = j - i) (hh : r.height.toNat = l - k) :
          r.Within bounds ∧ Set.Ico i j ×ˢ Set.Ico k l = r.pixels := by
        refine ⟨⟨by omega, by omega, by omega, by omega⟩, ?_⟩
        rw [pixels, hi, hk, hw, hh, Nat.add_sub_of_le hij.le, Nat.add_sub_of_le hkl.le]
      exact ⟨_, rfl, made _ hi hk hwidth hheight⟩

end Region

/-! ## Rounded after every operation -/

/-- A number as a rounding has it. -/
def Extended.rounded (r : Rounding) : Extended → Extended
  | finite q => r q
  | a => a

/-- A rectangle with rounded coordinates. -/
def Rect.rounded (r : Rounding) (s : Rect) : Rect :=
  ⟨s.x0.rounded r, s.y0.rounded r, s.x1.rounded r, s.y1.rounded r⟩

/-- The part of a rectangle within `bounds`, as `Region.ofRect?` has it, but with every result on
the way rounded. -/
def Region.ofRectRounded? (r : Rounding) (rect : Rect) (bounds : Extent) : Option Region :=
  let sorted := rect.sorted.rounded r
  let out := sorted.roundedOut.rounded r
  let part := (out.inter (bounds.rect.rounded r)).rounded r
  let width := part.x1.sub r part.x0
  let height := part.y1.sub r part.y0
  if width.le (.finite 0) || height.le (.finite 0) then none
  else some ⟨part.x0.toWord, part.y0.toWord, width.toWord, height.toWord⟩

open Binary64 (Has)

theorem Extended.rounded_eq {a : Extended} (h : Has a) : a.rounded Binary64.round = a := by
  cases a with
  | nan | negInf | posInf => rfl
  | finite q => exact h.round_eq

/-- The length of what is left of an axis needs no rounding. -/
theorem Extended.Clips.sub_round {a : Extended} {n : UInt32} {s : Extended × Extended}
    (h : a.Clips n s) : s.2.sub Binary64.round s.1 = spanLength s.1 s.2 := by
  have sub_round (p q : Rat) : (finite p).sub Binary64.round (finite q) = Binary64.round (p - q) := by
    rw [sub_eq_add_neg]
    rfl
  cases h with
  | infinite => rfl
  | flat _ q =>
    rw [sub_round, sub_self, spanLength_self]
    exact Binary64.has_zero.round_eq
  | @filled i j _ hij hj =>
    have := n.toNat_lt
    rw [sub_round, spanLength_natCast hij.le, ← Nat.cast_sub hij.le]
    exact (Binary64.has_natCast (by omega)).round_eq

namespace Rect

variable {s t : Rect}

/-- The coordinates are numbers of the format. -/
structure InFormat (s : Rect) : Prop where
  x0 : Has s.x0
  y0 : Has s.y0
  x1 : Has s.x1
  y1 : Has s.y1

theorem InFormat.rounded_eq (h : s.InFormat) : s.rounded Binary64.round = s := by
  rw [rounded, Extended.rounded_eq h.x0, Extended.rounded_eq h.y0, Extended.rounded_eq h.x1,
    Extended.rounded_eq h.y1]

theorem inFormat_rect (s : Extent) : s.rect.InFormat :=
  ⟨Binary64.has_zero, Binary64.has_zero, Binary64.has_ofWord _, Binary64.has_ofWord _⟩

theorem InFormat.sorted (h : s.InFormat) : s.sorted.InFormat :=
  ⟨h.x0.least h.x1, h.y0.least h.y1, h.x0.greatest h.x1, h.y0.greatest h.y1⟩

theorem has_spanOut {a b : Extended} (ha : Has a) (hb : Has b) :
    Has (spanOut a b).1 ∧ Has (spanOut a b).2 := by
  unfold spanOut
  split
  · exact ⟨ha.floor, hb.ceil⟩
  · exact ⟨ha.ceil, hb.floor⟩

theorem InFormat.roundedOut (h : s.InFormat) : s.roundedOut.InFormat :=
  ⟨(has_spanOut h.x0 h.x1).1, (has_spanOut h.y0 h.y1).1, (has_spanOut h.x0 h.x1).2,
    (has_spanOut h.y0 h.y1).2⟩

theorem InFormat.inter (h : s.InFormat) (h' : t.InFormat) : (s.inter t).InFormat :=
  ⟨h.x0.greatest h'.x0, h.y0.greatest h'.y0, (h.x1.least h'.x1).greatest (h.x0.greatest h'.x0),
    (h.y1.least h'.y1).greatest (h.y0.greatest h'.y0)⟩

end Rect

namespace Region

/-- No result on the way from a rectangle of the format to its region needs rounding. -/
theorem ofRectRounded?_eq {rect : Rect} (h : rect.InFormat) (bounds : Extent) :
    ofRectRounded? Binary64.round rect bounds = ofRect? rect bounds := by
  have hbounds := Rect.inFormat_rect bounds
  have hpart := h.sorted.roundedOut.inter hbounds
  have hwidth := (Rect.clips_axis rect.x0 rect.x1 bounds.width).sub_round
  have hheight := (Rect.clips_axis rect.y0 rect.y1 bounds.height).sub_round
  rw [ofRectRounded?, h.sorted.rounded_eq, h.sorted.roundedOut.rounded_eq, hbounds.rounded_eq,
    hpart.rounded_eq, ofRect?_eq, ← hwidth, ← hheight]
  rfl

/-- A rectangle with finite coordinates, its corners in any order, gives no region if it meets no
pixel of the buffer, and then only. Otherwise its region is the smallest one with every pixel that it
meets, and lies in the buffer. Coordinates may be taken for the rationals they are: rounding every
result on the way to the nearest number of the format changes nothing. -/
theorem ofRect?_smallest (bounds : Extent) :
    (∀ p q : Rat × Rat,
      let rect := Rect.ofPoints (.ofRat p) (.ofRat q)
      (ofRect? rect bounds = none ↔ bounds.touched p q = ∅) ∧
        ∀ r, ofRect? rect bounds = some r →
          r.Within bounds ∧ bounds.touched p q ⊆ r.pixels ∧
            ∀ s : Region, bounds.touched p q ⊆ s.pixels → r.pixels ⊆ s.pixels) ∧
      ∀ x0 y0 x1 y1 : Binary64,
        let rect : Rect := ⟨x0.value, y0.value, x1.value, y1.value⟩
        ofRectRounded? Binary64.round rect bounds = ofRect? rect bounds := by
  constructor
  · intro p q rect
    rcases ofRect?_touched p q bounds with ⟨hempty, hnone⟩ | ⟨r, hsome, hwithin, heq⟩
    · refine ⟨iff_of_true hnone hempty, fun r hr => ?_⟩
      rw [hnone] at hr
      cases hr
    · have hne : bounds.touched p q ≠ ∅ := by
        rw [heq]
        exact hwithin.pixels_nonempty.ne_empty
      refine ⟨iff_of_false (by rw [hsome]; nofun) hne, fun r' hr' => ?_⟩
      obtain rfl : r = r' := Option.some.inj (hsome.symm.trans hr')
      exact ⟨hwithin, heq.subset, fun s hs => heq.symm.subset.trans hs⟩
  · intro x0 y0 x1 y1 rect
    exact ofRectRounded?_eq ⟨⟨x0, rfl⟩, ⟨y0, rfl⟩, ⟨x1, rfl⟩, ⟨y1, rfl⟩⟩ bounds

/-- From a point within a buffer to one on its left, further up: three columns and seven rows of
pixels are met, the first and the last row in part. -/
theorem ofRect?_smallest_reversed :
    let bounds : Extent := ⟨640, 480⟩
    let r : Region := ⟨0, 4, 3, 7⟩
    r.Within bounds ∧ bounds.touched (5 / 2, 51 / 5) (-3, 9 / 2) ⊆ r.pixels ∧
      ∀ s : Region, bounds.touched (5 / 2, 51 / 5) (-3, 9 / 2) ⊆ s.pixels → r.pixels ⊆ s.pixels := by
  intro bounds r
  exact ((ofRect?_smallest bounds).1 (5 / 2, 51 / 5) (-3, 9 / 2)).2 r (by decide +kernel)

end Region
end Swapchain
