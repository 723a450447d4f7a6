import Swapchain.Proofs.Configuration

/-!
# The size under a changed hint

A changed transform hint brings the logical size within the bounds of the pool once more. A size
that came with a layout the window took is within them already and stays. One that came with a
buffer has been held against the bounds of the GPU only, so a hint can change it.

* `Pool.LaidOut`: the last change of the geometry was a layout that the window took;
* `Pool.Life.clamped`: after such a change the logical size is within the bounds;
* `Pool.hint_clamps_size`: what a changed hint does to the layout, in every run.
-/

namespace Swapchain.Pool

variable {p₀ p q : Pool} {a : Answers} {t : Trace} {h : List Deed} {d : Deed}

/-! ## The last change of the geometry -/

/-- The geometry has not changed since the window took a layout. -/
def LaidOut (h : List Deed) : Prop :=
  ∃ l pre post, h = pre ++ .configured l :: post ∧ ∀ e ∈ post, e.isChange = false

theorem LaidOut.of_concat (hl : LaidOut (h ++ [d])) :
    (∃ l, d = .configured l) ∨ d.isChange = false ∧ LaidOut h := by
  obtain ⟨l, hs⟩ := hl
  rcases split_concat.mp hs with ⟨hd, -⟩ | ⟨pre, post, hh, hpost⟩
  · exact .inl ⟨l, hd⟩
  · obtain ⟨hpost, hd⟩ := List.forall_mem_append.mp hpost
    exact .inr ⟨hd d List.mem_cons_self, l, pre, post, hh, hpost⟩

/-- The bounds of the pool leave its logical size as it is. -/
def Clamped (p : Pool) : Prop :=
  p.layout.logicalSize.clamp p.minSize p.maxSize = p.layout.logicalSize

theorem Life.clamped (hp : Life p₀ h p) (hh : LaidOut h) : p.Clamped := by
  induction hp with
  | created hp =>
    obtain ⟨m, dataspace, requested, -, -, -, -, rfl, -⟩ := create_eq_ok hp
    exact Extent.clamp_clamp ..
  | @moved h d p q _ hm _ ih =>
    cases hm with
    | relaid hc hl =>
      cases hl with
      | configured turn size hl =>
        subst hl
        exact Extent.clamp_clamp ..
      | adopted =>
        -- A size that is adopted would be the last change.
        rcases hh.of_concat with ⟨l, hd⟩ | ⟨hd, -⟩ <;> cases hd
    | renewed | wrapped | shown | released =>
      rcases hh.of_concat with ⟨l, hd⟩ | ⟨-, hh⟩
      · cases hd
      · exact ih hh
    | touched =>
      rw [Option.toList_none, List.append_nil] at hh
      exact ih hh

/-! ## Following a hint -/

theorem Follows.turns {r : Except PoolError Unit} {hint : Transform} (hf : Follows a p r q t)
    (hh : a.hint = .given hint) (hne : hint ≠ p.layout.transform) (hc : a.configure = .given ()) :
    r = .ok () ∧ q.layout = p.hintedLayout hint := by
  cases hf with
  | stays hs => exact absurd (hs hint hh) hne
  | rejected _ _ hc' => cases hc.symm.trans hc'
  | turned hh' =>
    cases hh.symm.trans hh'
    exact ⟨rfl, layout_underHint ..⟩

/-- In an idle pool a changed hint that the window takes changes nothing of the layout but the
transform and the sizes and the map that follow from it. The logical size is brought within the
bounds of the pool, so it is kept exactly if it lies within them. It does if the geometry has not
changed since the window took a layout, but it need not once buffers have brought a size. -/
theorem hint_clamps_size {query : Answer WindowProfile} {gpu : GpuLimits} {configured : Answer Unit}
    {color : ColorSetup} {settings : Settings}
    (h : (create query gpu configured color settings).result = .ok p) (os : List Operation) :
    let q := (p.performAll os).1
    ∀ a hint, q.current = none → a.hint = .given hint → hint ≠ q.layout.transform →
      a.configure = .given () →
        let size := q.layout.logicalSize.clamp q.minSize q.maxSize
        let l := (q.followHint a).pool.layout
        (q.followHint a).result = .ok () ∧
          l = { q.layout with
            transform := hint
            logicalSize := size
            physicalSize := size.swappedIf hint.swapsAxes
            preTransform := hint.preTransform size } ∧
          (l.logicalSize = q.layout.logicalSize ↔
            q.minSize.inf q.maxSize ≤ q.layout.logicalSize ∧ q.layout.logicalSize ≤ q.maxSize) ∧
          (LaidOut (p.past os) → l.logicalSize = q.layout.logicalSize) := by
  intro q a hint hc hh hne ha size l
  obtain ⟨hr, hl⟩ := (followHint_cases a q).turns hh hne ha
  have hsize : l.logicalSize = size := congrArg Layout.logicalSize hl
  refine ⟨hr, hl, ?_, fun hlaid => ?_⟩
  · rw [hsize]
    exact Extent.clamp_eq_self_iff
  · rw [hsize]
    exact (Life.of_create h os).clamped hlaid

/-- A window that has brought a size within its bounds keeps it as it is turned by a quarter. -/
theorem hint_clamps_size_turned :
    let a := Answers.giving ⟨⟨8⟩, ⟨300, 200⟩, 2⟩ none
    let turning := { a with hint := .given .rot90 }
    let q := (plain.performAll [.dequeue a, .present a none none]).1
    (q.followHint turning).pool.layout.logicalSize = ⟨300, 200⟩ ∧
      (q.followHint turning).pool.layout.physicalSize = ⟨200, 300⟩ := by
  intro a turning q
  obtain ⟨-, hl, hkept, -⟩ := hint_clamps_size create_plain [.dequeue a, .present a none none] turning
    .rot90 (by decide) rfl (by decide) rfl
  have hsize : (q.followHint turning).pool.layout.logicalSize = q.layout.logicalSize :=
    hkept.mpr (by decide)
  exact ⟨hsize.trans (by decide), (congrArg Layout.physicalSize hl).trans (by decide)⟩

/-- The profile of a window that takes no size below 200x200. -/
def coarseProfile : WindowProfile := { WindowProfile.plain with minSize := .square 200 }

/-- The pool of such a window. -/
def coarse : Pool :=
  ofLayout coarseProfile 4096 .plain (firstLayout coarseProfile .rgba8888 .srgb 3)

/-- The window hands out a buffer of 100x50 though. Once that has been shown the window is flipped,
and the logical size becomes 200x200. -/
theorem hint_enlarges_size :
    let a := Answers.giving ⟨⟨7⟩, ⟨100, 50⟩, 1⟩ none
    let flipping := { a with hint := .given .flipH }
    let q := (coarse.performAll [.dequeue a, .present a none none]).1
    (create (.given coarseProfile) .plain (.given ()) .plain .builtin).result = .ok coarse ∧
      q.current = none ∧ q.layout.transform ≠ .flipH ∧
      (q.followHint flipping).result = .ok () ∧ q.layout.logicalSize = ⟨100, 50⟩ ∧
      (q.followHint flipping).pool.layout.logicalSize = .square 200 := by
  intro a flipping q
  have hne : q.layout.transform ≠ .flipH := by decide
  have hr := ((followHint_cases flipping q).turns rfl hne.symm rfl).1
  exact ⟨rfl, by decide, hne, hr, by decide, by decide⟩

end Swapchain.Pool
