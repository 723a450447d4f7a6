import Mathlib.Tactic.Linarith
import Mathlib.Tactic.Ring
import Mathlib.Algebra.Field.Rat
import Swapchain.Proofs.Configuration

/-!
# Undoing a transform

The window is given the inverse of the transform, and the renderer compensates the transform itself.
The two cancel for each of the eight combinations of flips and a quarter turn. Flags alone decide
how coordinates are mapped, but the whole word decides what the inverse is: a quarter turn with bits
beside its flags is its own inverse, and twice a quarter turn is half a turn.

* `Transform.known`: the flags of a transform, without other bits;
* `Transform.comp_inverse`, `Transform.comp_inverse_marked`: the inverse after the transform is the
  identity, or half a turn;
* `Transform.undoes_iff`: the words whose inverse undoes them;
* `Pool.request_undoes`: the inverse that the window has been given in a run.
-/

namespace Swapchain

namespace Affine

theorem apply_comp (g m : Affine) (x y : Rat) :
    (g.comp m).apply Rounding.exact ⟨.finite x, .finite y⟩ =
      g.apply Rounding.exact (m.apply Rounding.exact ⟨.finite x, .finite y⟩) := by
  simp only [apply_exact, comp, Point.mk.injEq, Extended.finite.injEq]
  constructor <;> ring

theorem apply_identity (x y : Rat) :
    identity.apply Rounding.exact ⟨.finite x, .finite y⟩ = ⟨.finite x, .finite y⟩ := by
  simp [apply_exact, identity]

end Affine

namespace Transform

variable {t : Transform} {s : Extent}

/-- The flags of a transform, without the bits that no flag names. -/
def known (t : Transform) : Transform := ⟨t.bits &&& 7⟩

/-- A quarter turn with bits that no flag names. -/
def IsMarkedTurn (t : Transform) : Prop := (t.known = rot90 ∨ t.known = rot270) ∧ t.known ≠ t

instance (t : Transform) : Decidable t.IsMarkedTurn :=
  inferInstanceAs (Decidable ((t.known = rot90 ∨ t.known = rot270) ∧ t.known ≠ t))

/-! ## Flags -/

theorem contains_known {u : Transform} (hu : 7 &&& u.bits = u.bits) :
    t.known.contains u = t.contains u := by
  rw [contains, known, UInt32.and_assoc, hu, contains]

theorem swapsAxes_known (t : Transform) : t.known.swapsAxes = t.swapsAxes :=
  contains_known rfl

theorem preTransform_known (t : Transform) (s : Extent) :
    t.known.preTransform s = t.preTransform s := by
  unfold preTransform
  rw [contains_known (u := rot90) rfl, contains_known (u := flipV) rfl,
    contains_known (u := flipH) rfl]

theorem physicalOf_known (t : Transform) (s : Extent) :
    Layout.physicalOf t.known s = Layout.physicalOf t s := by
  rw [Layout.physicalOf, swapsAxes_known, Layout.physicalOf]

theorem known_mem (t : Transform) :
    t.known ∈ [⟨0⟩, flipH, flipV, rot180, rot90, ⟨5⟩, ⟨6⟩, rot270] := by
  have hlt : (t.bits &&& 7).toNat < 8 := by
    rw [UInt32.toNat_and]
    exact Nat.lt_succ_of_le Nat.and_le_right
  have words : ∀ n < 8, (⟨UInt32.ofNat n⟩ : Transform) ∈
      [⟨0⟩, flipH, flipV, rot180, rot90, ⟨5⟩, ⟨6⟩, rot270] := by decide
  have hmem := words _ hlt
  rwa [UInt32.ofNat_toNat] at hmem

/-- A word is its flags or its own inverse. -/
theorem inverse_eq_self (hne : t.known ≠ t) : t.inverse = t := by
  have h90 : t ≠ rot90 := fun h => hne (h ▸ rfl)
  have h270 : t ≠ rot270 := fun h => hne (h ▸ rfl)
  rw [inverse, if_neg h90, if_neg h270]

theorem swapsAxes_inverse (t : Transform) : t.inverse.swapsAxes = t.swapsAxes := by
  unfold inverse
  split
  · rename_i h
    rw [h]
    rfl
  · split
    · rename_i h
      rw [h]
      rfl
    · rfl

/-! ## Coordinates -/

/-- The inverse of flags after the flags. -/
theorem comp_inverse_known (t : Transform) (s : Extent) :
    (t.known.inverse.preTransform (Layout.physicalOf t.known s)).comp (t.known.preTransform s) =
      .identity := by
  let w : Rat := s.width.toNat
  let h : Rat := s.height.toNat
  have hmem := known_mem t
  generalize t.known = k at hmem
  simp only [List.mem_cons, List.not_mem_nil, or_false] at hmem
  rcases hmem with rfl | rfl | rfl | rfl | rfl | rfl | rfl | rfl
  · show Affine.identity.comp Affine.identity = .identity
    simp [Affine.comp, Affine.identity]
  · show (⟨-1, 0, 0, 1, w, 0⟩ : Affine).comp ⟨-1, 0, 0, 1, w, 0⟩ = .identity
    simp [Affine.comp, Affine.identity]
  · show (⟨1, 0, 0, -1, 0, h⟩ : Affine).comp ⟨1, 0, 0, -1, 0, h⟩ = .identity
    simp [Affine.comp, Affine.identity]
  · show (⟨-1, 0, 0, -1, w, h⟩ : Affine).comp ⟨-1, 0, 0, -1, w, h⟩ = .identity
    simp [Affine.comp, Affine.identity]
  · show (⟨0, -1, 1, 0, 0, h⟩ : Affine).comp ⟨0, 1, -1, 0, h, 0⟩ = .identity
    simp [Affine.comp, Affine.identity]
  · show (⟨0, -1, -1, 0, w, h⟩ : Affine).comp ⟨0, -1, -1, 0, h, w⟩ = .identity
    simp [Affine.comp, Affine.identity]
  · show (⟨0, 1, 1, 0, 0, 0⟩ : Affine).comp ⟨0, 1, 1, 0, 0, 0⟩ = .identity
    simp [Affine.comp, Affine.identity]
  · show (⟨0, 1, -1, 0, w, 0⟩ : Affine).comp ⟨0, -1, 1, 0, 0, w⟩ = .identity
    simp [Affine.comp, Affine.identity]

/-- Two quarter turns are half a turn. -/
theorem comp_self_quarter {k : Transform} (hk : k = rot90 ∨ k = rot270) (s : Extent) :
    (k.preTransform (Layout.physicalOf k s)).comp (k.preTransform s) = rot180.preTransform s := by
  let w : Rat := s.width.toNat
  let h : Rat := s.height.toNat
  rcases hk with rfl | rfl
  · show (⟨0, 1, -1, 0, w, 0⟩ : Affine).comp ⟨0, 1, -1, 0, h, 0⟩ = ⟨-1, 0, 0, -1, w, h⟩
    simp [Affine.comp]
  · show (⟨0, -1, 1, 0, 0, h⟩ : Affine).comp ⟨0, -1, 1, 0, 0, w⟩ = ⟨-1, 0, 0, -1, w, h⟩
    simp [Affine.comp]

theorem comp_inverse (hm : ¬ t.IsMarkedTurn) (s : Extent) :
    (t.inverse.preTransform (Layout.physicalOf t s)).comp (t.preTransform s) = .identity := by
  have hcomp := comp_inverse_known t s
  by_cases hk : t.known = t
  · rwa [hk] at hcomp
  · have hq : ¬(t.known = rot90 ∨ t.known = rot270) := fun hq => hm ⟨hq, hk⟩
    rw [not_or] at hq
    have hinv : t.known.inverse = t.known := by rw [inverse, if_neg hq.1, if_neg hq.2]
    rw [hinv, preTransform_known, preTransform_known, physicalOf_known] at hcomp
    rwa [inverse_eq_self hk]

theorem comp_inverse_marked (hm : t.IsMarkedTurn) (s : Extent) :
    (t.inverse.preTransform (Layout.physicalOf t s)).comp (t.preTransform s) =
      rot180.preTransform s := by
  have hcomp := comp_self_quarter hm.1 s
  rw [preTransform_known, preTransform_known, physicalOf_known] at hcomp
  rwa [inverse_eq_self hm.2]

/-- Half a turn moves a point, whatever the size. -/
theorem exists_moved (s : Extent) : ∃ x : Rat,
    (rot180.preTransform s).apply Rounding.exact ⟨.finite x, .finite 0⟩ ≠
      ⟨.finite x, .finite 0⟩ := by
  by_contra h
  have fixed (x : Rat) : -x + (s.width.toNat : Rat) = x := by
    have hx := not_exists_not.mp h x
    rw [Affine.apply_exact, Point.mk.injEq, Extended.finite.injEq] at hx
    have himage : -1 * x + 0 * 0 + (s.width.toNat : Rat) = x := hx.1
    linarith
  have h0 := fixed 0
  have h1 := fixed 1
  linarith

/-- The inverse moves every point back, but for a quarter turn whose word has other bits. -/
theorem undoes_iff (t : Transform) (s : Extent) :
    (∀ x y : Rat, (t.inverse.preTransform (Layout.physicalOf t s)).apply Rounding.exact
        ((t.preTransform s).apply Rounding.exact ⟨.finite x, .finite y⟩) =
          ⟨.finite x, .finite y⟩) ↔ ¬ t.IsMarkedTurn := by
  simp only [← Affine.apply_comp]
  constructor
  · intro h hm
    obtain ⟨x, hx⟩ := exists_moved s
    rw [comp_inverse_marked hm] at h
    exact hx (h x 0)
  · intro hm x y
    rw [comp_inverse hm, Affine.apply_identity]

end Transform

namespace Pool

variable {p : Pool}

/-- The inverse exchanges width and height as its transform does, and it moves every point back from
the physical size unless the transform is a quarter turn with bits that no flag names. After every
run the transform that the window has taken last is the inverse of that of the pool, so but for such
a turn the two cancel. -/
theorem request_undoes {query : Answer WindowProfile} {gpu : GpuLimits}
    {configured : Answer Unit} {color : ColorSetup} {settings : Settings}
    (h : (create query gpu configured color settings).result = .ok p) (os : List Operation) :
    let made := create query gpu configured color settings
    let q := (p.performAll os).1
    (∀ (t : Transform) (s : Extent), t.inverse.swapsAxes = t.swapsAxes ∧
        ((∀ x y : Rat, (t.inverse.preTransform (s.swappedIf t.swapsAxes)).apply Rounding.exact
            ((t.preTransform s).apply Rounding.exact ⟨.finite x, .finite y⟩) =
              ⟨.finite x, .finite y⟩) ↔ ¬ t.IsMarkedTurn)) ∧
      ∃ r, (made.trace ++ (p.performAll os).2).taken.getLast? = some r ∧
        r.transform = q.layout.transform.inverse ∧
        ((∀ x y : Rat, (r.transform.preTransform q.layout.physicalSize).apply Rounding.exact
            (q.layout.preTransform.apply Rounding.exact ⟨.finite x, .finite y⟩) =
              ⟨.finite x, .finite y⟩) ↔ ¬ q.layout.transform.IsMarkedTurn) := by
  intro made q
  refine ⟨fun t s => ⟨t.swapsAxes_inverse, t.undoes_iff s⟩, ?_⟩
  have hlife := Life.of_create h os
  obtain ⟨l, post, hc⟩ := hlife.configured
  have hlast := hc.getLast?
  rw [← taken_past h os, hc.request] at hlast
  have hr : q.layout.Resolved := (hlife.sized (sized_create h)).resolved
  have hundoes := q.layout.transform.undoes_iff q.layout.logicalSize
  rw [← hr.preTransform, ← hr.physicalSize] at hundoes
  exact ⟨_, hlast, rfl, hundoes⟩

/-- The window is turned by a quarter and takes the opposite turn. -/
theorem request_undoes_turned :
    let a := { Answers.giving (.plain 7 1) none with hint := .given .rot90 }
    let made := create (.given .plain) .plain (.given ()) .plain .builtin
    let run := plain.performAll [.dequeue a]
    ∃ r, (made.trace ++ run.2).taken.getLast? = some r ∧ r.transform = .rot270 ∧
      ∀ x y : Rat, (r.transform.preTransform run.1.layout.physicalSize).apply Rounding.exact
        (run.1.layout.preTransform.apply Rounding.exact ⟨.finite x, .finite y⟩) =
          ⟨.finite x, .finite y⟩ := by
  intro a made run
  obtain ⟨-, r, hlast, hr, hundoes⟩ := request_undoes create_plain [.dequeue a]
  exact ⟨r, hlast, hr.trans (by decide), hundoes.mpr (by decide)⟩

/-- The inverse of a quarter turn with the bit 8 is this turn itself. It carries a corner of a
window of 100x50 to the opposite corner. -/
theorem request_moves_corner :
    let t : Transform := ⟨12⟩
    let s : Extent := ⟨100, 50⟩
    ¬ ∀ x y : Rat, (t.inverse.preTransform (s.swappedIf t.swapsAxes)).apply Rounding.exact
      ((t.preTransform s).apply Rounding.exact ⟨.finite x, .finite y⟩) =
        ⟨.finite x, .finite y⟩ := by
  intro t s h
  have hcorner : (t.inverse.preTransform (s.swappedIf t.swapsAxes)).apply Rounding.exact
      ((t.preTransform s).apply Rounding.exact ⟨.finite 0, .finite 0⟩) =
        ⟨.finite 100, .finite 50⟩ := by
    decide +kernel
  exact absurd (hcorner.symm.trans (h 0 0)) (by decide +kernel)

end Pool
end Swapchain
