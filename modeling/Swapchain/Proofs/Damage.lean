import Mathlib.Data.Rat.Floor
import Swapchain.Proofs.Runs

/-!
# Damage that the window is told of

A dirty rectangle is cut to the buffer axis by axis. What is left of an axis is made of whole pixels
of the buffer, or it has no length, or it lies at infinity. In the last case its length, infinity
less infinity, is no number, and the test for an empty part lets it through. So a rectangle that
starts at infinity gives a region without pixels, and every other one gives none or one that the
window can use.

* `Extended.Clips`: what is left of an axis, `Rect.clips_axis`: that it is one of these;
* `Region.Within`: a region of at least one pixel, all of it in the buffer;
* `Region.within_iff`: the rectangles that give such a region;
* `Pool.damage_usable`: the damage of every present.
-/

namespace Swapchain

/-! ## Ends of an axis -/

namespace Extended

variable {a c d : Extended} {n : UInt32} {s : Extended × Extended}

theorem greatest_finite (p q : Rat) : (finite p).greatest (finite q) = finite (max p q) := by
  simp only [greatest, le_finite, decide_eq_true_eq, max_def]
  split <;> rfl

theorem least_finite (p q : Rat) : (finite p).least (finite q) = finite (min p q) := by
  simp only [least, le_finite, decide_eq_true_eq, min_def]
  split <;> rfl

theorem greatest_posInf (a : Extended) : a.greatest .posInf = .posInf := by
  cases a <;> rfl

/-- Not a number, an infinity, or a whole number. -/
inductive Whole : Extended → Prop where
  | nan : Whole .nan
  | negInf : Whole .negInf
  | posInf : Whole .posInf
  | int (k : Int) : Whole (.finite k)

theorem whole_floor (a : Extended) : a.floor.Whole := by
  cases a with
  | nan => exact .nan
  | negInf => exact .negInf
  | posInf => exact .posInf
  | finite q => exact .int q.floor

theorem whole_ceil (a : Extended) : a.ceil.Whole := by
  cases a with
  | nan => exact .nan
  | negInf => exact .negInf
  | posInf => exact .posInf
  | finite q => exact .int q.ceil

theorem floor_eq_posInf_iff : a.floor = .posInf ↔ a = .posInf := by
  cases a <;> simp [floor]

theorem ceil_eq_posInf_iff : a.ceil = .posInf ↔ a = .posInf := by
  cases a <;> simp [ceil]

/-- An end cut to the pixels from below. -/
theorem Whole.greatest_zero (hc : c.Whole) :
    c = .posInf ∧ c.greatest (.finite 0) = .posInf ∨
      c ≠ .posInf ∧ ∃ i : Nat, c.greatest (.finite 0) = .finite i := by
  cases hc with
  | posInf => exact .inl ⟨rfl, rfl⟩
  | nan | negInf => exact .inr ⟨nofun, 0, rfl⟩
  | int k =>
    have hk : ((k.toNat : Int) : Rat) = max (k : Rat) 0 := by
      rw [Int.toNat_eq_max, Int.cast_max, Int.cast_zero]
    exact .inr ⟨nofun, k.toNat, (greatest_finite _ _).trans (congrArg finite hk.symm)⟩

/-- An end cut to the pixels from above. -/
theorem Whole.least_ofWord (hd : d.Whole) (n : UInt32) :
    d.least (ofWord n) = .negInf ∨
      ∃ k : Int, k ≤ n.toNat ∧ d.least (ofWord n) = .finite k := by
  cases hd with
  | negInf => exact .inl rfl
  | nan | posInf => exact .inr ⟨n.toNat, le_refl _, rfl⟩
  | int k =>
    have hk : ((min k n.toNat : Int) : Rat) = min (k : Rat) (n.toNat : Rat) := by
      rw [Int.cast_min, Int.cast_natCast]
    exact .inr ⟨min k n.toNat, min_le_right .., (least_finite _ _).trans (congrArg finite hk.symm)⟩

/-! ## What is left of an axis -/

/-- What is left within `n` pixels of an axis whose lower end is `a`. -/
inductive Clips (a : Extended) (n : UInt32) : Extended × Extended → Prop where
  | infinite (ha : a = .posInf) : Clips a n (.posInf, .posInf)
  | flat (ha : a ≠ .posInf) (q : Rat) : Clips a n (.finite q, .finite q)
  /-- The pixels from `i` to `j`. -/
  | filled {i j : Nat} (ha : a ≠ .posInf) (hij : i < j) (hj : j ≤ n.toNat) :
    Clips a n (.finite i, .finite j)

theorem clips_spanInter (hc : c.Whole) (hd : d.Whole) (hca : c = .posInf ↔ a = .posInf) :
    Clips a n (Rect.spanInter c d (.finite 0) (ofWord n)) := by
  simp only [Rect.spanInter]
  rcases hc.greatest_zero with ⟨hinf, hlower⟩ | ⟨hne, i, hlower⟩
  · rw [hlower, greatest_posInf]
    exact .infinite (hca.mp hinf)
  · have ha : a ≠ .posInf := fun h => hne (hca.mpr h)
    rw [hlower]
    rcases hd.least_ofWord n with hupper | ⟨k, hk, hupper⟩
    · rw [hupper]
      exact .flat ha i
    · rw [hupper, greatest_finite]
      by_cases hik : (i : Int) < k
      · obtain ⟨j, rfl⟩ : ∃ j : Nat, k = j := ⟨k.toNat, by omega⟩
        have hmax : max ((j : Int) : Rat) (i : Rat) = (j : Rat) := by
          rw [Int.cast_natCast]
          exact max_eq_left (by exact_mod_cast hik.le)
        rw [hmax]
        exact .filled ha (by omega) (by omega)
      · have hmax : max (k : Rat) (i : Rat) = (i : Rat) :=
          max_eq_right (by exact_mod_cast not_lt.mp hik)
        rw [hmax]
        exact .flat ha i

/-! ## Words -/

theorem toNat_toWord {m : Nat} (hm : m ≤ 0xFFFFFFFF) : (finite m).toWord.toNat = m := by
  have hfloor : (m : Rat).floor = m := Rat.floor_intCast m
  show (UInt32.ofNat (min (m : Rat).floor.toNat 0xFFFFFFFF)).toNat = m
  rw [hfloor, Int.toNat_natCast, Nat.min_eq_left hm]
  exact UInt32.toNat_ofNat_of_lt' (Nat.lt_succ_of_le hm)

theorem spanLength_self (q : Rat) : spanLength (finite q) (finite q) = finite 0 := by
  rw [spanLength, sub_exact, sub_self]

theorem spanLength_natCast {i j : Nat} (hij : i ≤ j) :
    spanLength (finite i) (finite j) = finite ((j - i : Nat) : Rat) := by
  rw [spanLength, sub_exact, Nat.cast_sub hij]

/-- A part of an axis that passes the test for an empty one is at infinity, and then no pixel is
counted, or it is made of pixels. -/
theorem Clips.words (hs : Clips a n s) (hpos : (spanLength s.1 s.2).le (.finite 0) = false) :
    a = .posInf ∧ (spanLength s.1 s.2).toWord = 0 ∨
      a ≠ .posInf ∧ 0 < (spanLength s.1 s.2).toWord.toNat ∧
        s.1.toWord.toNat + (spanLength s.1 s.2).toWord.toNat ≤ n.toNat := by
  have hn : n.toNat ≤ 0xFFFFFFFF := Nat.le_of_lt_succ n.toNat_lt
  cases hs with
  | infinite ha => exact .inl ⟨ha, rfl⟩
  | flat ha q =>
    rw [spanLength_self] at hpos
    cases hpos
  | @filled i j ha hij hj =>
    refine .inr ⟨ha, ?_⟩
    rw [spanLength_natCast hij.le, toNat_toWord (by omega), toNat_toWord (by omega)]
    omega

end Extended

/-! ## Rectangles -/

namespace Rect

/-- The part of an axis within `n` pixels, from its two ends in any order. -/
def axis (a b : Extended) (n : UInt32) : Extended × Extended :=
  let (c, d) := spanOut (a.least b) (a.greatest b)
  spanInter c d (.finite 0) (Extended.ofWord n)

theorem clips_axis (a b : Extended) (n : UInt32) : (a.least b).Clips n (axis a b n) := by
  unfold axis Rect.spanOut
  cases (a.least b).lt (a.greatest b) with
  | true =>
    exact Extended.clips_spanInter (Extended.whole_floor _) (Extended.whole_ceil _)
      Extended.floor_eq_posInf_iff
  | false =>
    exact Extended.clips_spanInter (Extended.whole_ceil _) (Extended.whole_floor _)
      Extended.ceil_eq_posInf_iff

/-- The lower end of an axis is at infinity. -/
def StartsAtInfinity (r : Rect) : Prop :=
  r.x0.least r.x1 = .posInf ∨ r.y0.least r.y1 = .posInf

instance (r : Rect) : Decidable r.StartsAtInfinity :=
  inferInstanceAs (Decidable (r.x0.least r.x1 = .posInf ∨ r.y0.least r.y1 = .posInf))

end Rect

namespace Region

variable {rect : Rect} {bounds : Extent} {r : Region}

/-- At least one pixel, and all of them in a buffer of a size. -/
structure Within (bounds : Extent) (r : Region) : Prop where
  width_pos : 1 ≤ r.width.toNat
  height_pos : 1 ≤ r.height.toNat
  right_le : r.x.toNat + r.width.toNat ≤ bounds.width.toNat
  lower_le : r.y.toNat + r.height.toNat ≤ bounds.height.toNat

theorem ofRect?_eq (rect : Rect) (bounds : Extent) :
    let u := Rect.axis rect.x0 rect.x1 bounds.width
    let v := Rect.axis rect.y0 rect.y1 bounds.height
    ofRect? rect bounds =
      if (spanLength u.1 u.2).le (.finite 0) || (spanLength v.1 v.2).le (.finite 0) then none
      else some ⟨u.1.toWord, v.1.toWord, (spanLength u.1 u.2).toWord, (spanLength v.1 v.2).toWord⟩ :=
  rfl

/-- A region is made of the parts of both axes, neither of which is found empty. -/
theorem eq_of_ofRect? (h : ofRect? rect bounds = some r) :
    let u := Rect.axis rect.x0 rect.x1 bounds.width
    let v := Rect.axis rect.y0 rect.y1 bounds.height
    (spanLength u.1 u.2).le (.finite 0) = false ∧ (spanLength v.1 v.2).le (.finite 0) = false ∧
      r = ⟨u.1.toWord, v.1.toWord, (spanLength u.1 u.2).toWord, (spanLength v.1 v.2).toWord⟩ := by
  intro u v
  rw [ofRect?_eq] at h
  split at h
  · cases h
  · rename_i hpos
    rw [Bool.not_eq_true, Bool.or_eq_false_iff] at hpos
    exact ⟨hpos.1, hpos.2, (Option.some.inj h).symm⟩

/-- A region has pixels, and only such of the buffer, unless its rectangle starts at infinity; then
it has none. -/
theorem within_iff (h : ofRect? rect bounds = some r) :
    (r.Within bounds ↔ ¬ rect.StartsAtInfinity) ∧
      (rect.StartsAtInfinity → r.width = 0 ∨ r.height = 0) := by
  obtain ⟨hu, hv, rfl⟩ := eq_of_ofRect? h
  have hx := (Rect.clips_axis rect.x0 rect.x1 bounds.width).words hu
  have hy := (Rect.clips_axis rect.y0 rect.y1 bounds.height).words hv
  rcases hx with ⟨hxi, hw⟩ | ⟨hxi, hw, hxw⟩
  · refine ⟨iff_of_false (fun hr => ?_) (not_not_intro (.inl hxi)), fun _ => .inl hw⟩
    have := hr.width_pos
    simp [hw] at this
  · rcases hy with ⟨hyi, hh⟩ | ⟨hyi, hh, hyh⟩
    · refine ⟨iff_of_false (fun hr => ?_) (not_not_intro (.inr hyi)), fun _ => .inr hh⟩
      have := hr.height_pos
      simp [hh] at this
    · have hne : ¬ rect.StartsAtInfinity := not_or_intro hxi hyi
      exact ⟨iff_of_true ⟨hw, hh, hxw, hyh⟩ hne, fun hi => absurd hi hne⟩

end Region

namespace Pool

variable {p q : Pool} {a : Answers} {t : Trace} {dirty : Option Rect} {completion : Option Fence}

/-- The damage of a present is the dirty rectangle cut to the buffer. -/
theorem Presents.damage {r : Except PoolError Unit} (hp : Presents a dirty completion p r q t)
    {b : Buffer} {f : Option Fence} {damage : Option Region} {x : Answer Unit}
    (hq : .queue b f damage x ∈ t.calls) :
    damage = dirty.bind (Region.ofRect? · p.layout.physicalSize) := by
  cases hp with
  | nothing | unforwarded => simp at hq
  | refused hc hf | shown hc hf =>
    simp only [Trace.calls_append, hf.calls_eq, Trace.calls_call, Trace.calls_nil,
      Trace.calls_closing, List.nil_append, List.mem_singleton, Call.queue.injEq] at hq
    exact hq.2.2.1

/-- The damage that goes with a present has at least one pixel and lies in the buffer, except if an
axis of the dirty rectangle lies at infinity. Then it has no pixel, and the window is told so. -/
theorem damage_usable {b : Buffer} {f : Option Fence} {r : Region} {x : Answer Unit}
    (hq : .queue b f (some r) x ∈ (p.present a dirty completion).trace.calls) :
    ∃ rect, dirty = some rect ∧
      (r.Within p.layout.physicalSize ↔ ¬ rect.StartsAtInfinity) ∧
      (rect.StartsAtInfinity → r.width = 0 ∨ r.height = 0) := by
  rw [← Trace.calls_acts] at hq
  have hd := (present_cases a dirty completion p).damage hq
  obtain ⟨rect, rfl, hr⟩ := Option.bind_eq_some_iff.mp hd.symm
  exact ⟨rect, rfl, Region.within_iff hr⟩

/-- A dirty rectangle from plus infinity back to 20.2, and from above the buffer down to 5.7. -/
theorem damage_usable_reversed :
    let a := Answers.giving (.plain 7 1) none
    let q := (plain.dequeue a).pool
    let dirty : Rect := ⟨.posInf, .finite (-7 / 2), .finite (101 / 5), .finite (57 / 10)⟩
    .queue (.plain 7 1) none (some ⟨20, 0, 620, 6⟩) (.given ()) ∈
        (q.present a (some dirty) none).trace.calls ∧
      q.layout.physicalSize = ⟨640, 480⟩ ∧ Region.Within ⟨640, 480⟩ ⟨20, 0, 620, 6⟩ := by
  intro a q dirty
  have hq : .queue (.plain 7 1) none (some ⟨20, 0, 620, 6⟩) (.given ()) ∈
      (q.present a (some dirty) none).trace.calls := by decide +kernel
  obtain ⟨rect, hrect, hwithin, -⟩ := damage_usable hq
  cases hrect
  exact ⟨hq, by decide, hwithin.mpr (by decide +kernel)⟩

/-- Some damage is of no use to the window: ten rows at plus infinity are handed over as a region of
no width to the right of every buffer. -/
theorem damage_at_infinity :
    ¬ ∀ p, Reachable p → ∀ a dirty completion b f r x,
      .queue b f (some r) x ∈ (p.present a dirty completion).trace.calls →
        r.Within p.layout.physicalSize := by
  intro h
  let a := Answers.giving (.plain 7 1) none
  let dirty : Rect := ⟨.posInf, .finite 0, .posInf, .finite 10⟩
  have hp : Reachable (plain.dequeue a).pool := reachable_plain.performed (.dequeue a)
  have hr := h _ hp a (some dirty) none (.plain 7 1) none ⟨0xFFFFFFFF, 0, 0, 10⟩ (.given ())
    (by decide +kernel)
  exact absurd hr.width_pos (by decide)

end Pool
end Swapchain
