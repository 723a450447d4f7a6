import Mathlib.Data.Nat.Bitwise
import Swapchain.Proofs.Bounds

/-!
# Layouts in normal form

A layout is resolved from its logical size and its transform alone, whatever physical size and
pre-transform it had before, and a layout that has been resolved stays as it is. That holds for
bounds that cross as well: the size that a clamp leaves is then below the lower bound, but a second
clamp leaves it there.

* `Transform.swapsAxes_eq_testBit`: the bit that exchanges width and height;
* `Layout.clampWarning_eq`: the warning of a clamp;
* `Layout.resolve_resolve`, `Layout.clampWarning_resolve`: resolving a second time;
* `Layout.resolve_normalises`: all of it, for every layout and all bounds.
-/

namespace Swapchain

/-- The axes are exchanged exactly if the bit of the quarter turn is set. -/
theorem Transform.swapsAxes_eq_testBit (t : Transform) : t.swapsAxes = t.bits.toNat.testBit 2 := by
  have hword : t.swapsAxes = true ↔ t.bits.toNat &&& 2 ^ 2 = 2 ^ 2 := by
    rw [swapsAxes, contains, beq_iff_eq, ← UInt32.toNat_inj, UInt32.toNat_and]
    rfl
  rw [Bool.eq_iff_iff, hword, Nat.and_two_pow]
  cases t.bits.toNat.testBit 2 <;> simp

/-- Between bounds that do not cross in a dimension, a clamp leaves at least the lower one. -/
theorem Extent.le_clamp_width {s lower upper : Extent} (h : lower.width ≤ upper.width) :
    lower.width ≤ (s.clamp lower upper).width :=
  Std.le_min_iff.mpr ⟨(le_sup_right s lower).1, h⟩

theorem Extent.le_clamp_height {s lower upper : Extent} (h : lower.height ≤ upper.height) :
    lower.height ≤ (s.clamp lower upper).height :=
  Std.le_min_iff.mpr ⟨(le_sup_right s lower).2, h⟩

namespace Layout

variable {l l' : Layout} {lower upper : Extent}

/-- The warning that bounds have changed a logical size. -/
def clamped (lower upper before after : Extent) : Log.Record :=
  ⟨.warn, s!"Window size {before.text} clamped to {after.text} " ++
    s!"(bounds {lower.text} .. {upper.text})"⟩

theorem clampWarning_eq (lower upper : Extent) (l : Layout) :
    l.clampWarning lower upper =
      if (l.resolve lower upper).logicalSize = l.logicalSize then []
      else [clamped lower upper l.logicalSize (l.resolve lower upper).logicalSize] :=
  rfl

/-- Of a layout only the logical size and the transform are looked at. -/
theorem resolve_of_same (hs : l'.logicalSize = l.logicalSize) (ht : l'.transform = l.transform) :
    l'.resolve lower upper =
      { l' with
        logicalSize := (l.resolve lower upper).logicalSize
        physicalSize := (l.resolve lower upper).physicalSize
        preTransform := (l.resolve lower upper).preTransform } := by
  simp only [resolve, hs, ht]

/-- A resolved layout within bounds is resolved under them already. -/
theorem Resolved.resolve_eq (hl : l.Resolved)
    (hs : l.logicalSize.clamp lower upper = l.logicalSize) : l.resolve lower upper = l := by
  obtain ⟨hphysical, hpre⟩ := hl
  rw [resolve]
  simp only [hs, ← hphysical, ← hpre]

theorem resolve_resolve (lower upper : Extent) (l : Layout) :
    (l.resolve lower upper).resolve lower upper = l.resolve lower upper :=
  (resolved_resolve lower upper l).resolve_eq (l.logicalSize.clamp_clamp lower upper)

theorem clampWarning_resolve (lower upper : Extent) (l : Layout) :
    (l.resolve lower upper).clampWarning lower upper = [] := by
  rw [clampWarning_eq, resolve_resolve, if_pos rfl]

/-- Resolving a layout is a normal form. It looks at the logical size, the transform and the bounds
only, and writes the sizes and the pre-transform only; a second time it changes nothing and does not
warn, and the first time it warns exactly if the size changes. The size is within the upper bound,
and above the lower one in each dimension in which the bounds do not cross. The physical size is this
size, with width and height exchanged exactly if the bit of the quarter turn is set. -/
theorem resolve_normalises (lower upper : Extent) (l : Layout) :
    let r := l.resolve lower upper
    (∀ l' : Layout, l'.logicalSize = l.logicalSize → l'.transform = l.transform →
      l'.resolve lower upper = { l' with
        logicalSize := r.logicalSize
        physicalSize := r.physicalSize
        preTransform := r.preTransform }) ∧
      r.resolve lower upper = r ∧ r.clampWarning lower upper = [] ∧
      (l.clampWarning lower upper =
        if r.logicalSize = l.logicalSize then []
        else [clamped lower upper l.logicalSize r.logicalSize]) ∧
      r.logicalSize ≤ upper ∧
      (lower.width ≤ upper.width → lower.width ≤ r.logicalSize.width) ∧
      (lower.height ≤ upper.height → lower.height ≤ r.logicalSize.height) ∧
      r.physicalSize =
        if l.transform.bits.toNat.testBit 2 then r.logicalSize.swapped else r.logicalSize := by
  intro r
  refine ⟨fun l' => resolve_of_same, resolve_resolve .., clampWarning_resolve ..,
    clampWarning_eq .., Extent.clamp_le .., Extent.le_clamp_width, Extent.le_clamp_height, ?_⟩
  rw [← Transform.swapsAxes_eq_testBit]
  rfl

/-- Bounds that cross in their widths: the width of 5000x0 is cut to the upper bound, the height is
raised to 1, and so it stays when the bounds are applied again. A lower bound of 16 is kept. -/
theorem resolve_normalises_crossing :
    let l : Layout := { (default : Layout) with logicalSize := ⟨5000, 0⟩, transform := ⟨4⟩ }
    let lower : Extent := ⟨4096, 1⟩
    let upper : Extent := ⟨1024, 768⟩
    let r := l.resolve lower upper
    r.logicalSize = ⟨1024, 1⟩ ∧ r.physicalSize = ⟨1, 1024⟩ ∧ r.resolve lower upper = r ∧
      lower.height ≤ r.logicalSize.height ∧ 16 ≤ (l.resolve ⟨16, 1⟩ upper).logicalSize.width ∧
      ({ l with physicalSize := ⟨7, 7⟩, preTransform := ⟨2, 0, 0, 2, 0, 0⟩ } : Layout).resolve
        lower upper = r := by
  intro l lower upper r
  obtain ⟨hsame, hagain, -, -, -, -, hheight, hphysical⟩ := resolve_normalises lower upper l
  obtain ⟨-, -, -, -, -, hwidth, -⟩ := resolve_normalises ⟨16, 1⟩ upper l
  exact ⟨by decide, hphysical.trans (by decide), hagain, hheight (by decide), hwidth (by decide),
    hsame _ rfl rfl⟩

end Layout
end Swapchain
