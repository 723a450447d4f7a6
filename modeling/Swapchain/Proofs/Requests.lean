import Swapchain.Proofs.Inverse

/-!
# The sizes that are requested

A window has bounds for the size of its buffers. The pool holds the logical size against them and
then exchanges width and height if the transform turns by a quarter. So what a request keeps to is
the bounds with width and height exchanged as well, and these are other bounds unless they are
square.

* `BufferRequest.Within`: a request between bounds that are turned with it;
* `Pool.Bounded`: the bounds of a pool are within those of its window;
* `Pool.requests_within_bounds`: the requests of every run, refused ones included.
-/

namespace Swapchain

/-- The size of a request lies between two others once these have been turned as it has been. -/
structure BufferRequest.Within (lower upper : Extent) (r : BufferRequest) : Prop where
  le_size : lower.swappedIf r.transform.swapsAxes ≤ r.size
  size_le : r.size ≤ upper.swappedIf r.transform.swapsAxes

variable {lower upper : Extent}

/-- The bounds themselves hold unless they are turned into others. -/
theorem BufferRequest.Within.size {r : BufferRequest} (hr : r.Within lower upper)
    (hs : r.transform.swapsAxes = false ∨ lower.swapped = lower ∧ upper.swapped = upper) :
    lower ≤ r.size ∧ r.size ≤ upper := by
  obtain ⟨hlower, hupper⟩ := hr
  rcases hs with hs | ⟨hl, hu⟩
  · rw [hs] at hlower hupper
    exact ⟨hlower, hupper⟩
  · rw [Extent.swappedIf_eq_self hl] at hlower
    rw [Extent.swappedIf_eq_self hu] at hupper
    exact ⟨hlower, hupper⟩

/-- The transform of a request exchanges width and height as that of its layout does. -/
theorem Layout.within_bufferRequest {l : Layout} (hl : l.Resolved) (hlower : lower ≤ l.logicalSize)
    (hupper : l.logicalSize ≤ upper) : l.bufferRequest.Within lower upper := by
  constructor <;>
    rw [bufferRequest, Transform.swapsAxes_inverse, hl.physicalSize, physicalOf,
      Extent.swappedIf_le_swappedIf]
  · exact hlower
  · exact hupper

namespace Pool

variable {p₀ p q : Pool} {a : Answers} {t : Trace} {h : List Deed} {r : BufferRequest}
variable {x : Answer Unit}

/-- The logical sizes that a pool allows are all between two others. -/
structure Bounded (lower upper : Extent) (p : Pool) : Prop where
  le_minSize : lower ≤ p.minSize
  le_maxSize : lower ≤ p.maxSize
  maxSize_le : p.maxSize ≤ upper

theorem Bounded.resolve (hb : p.Bounded lower upper) (l : Layout) :
    (l.resolve p.minSize p.maxSize).bufferRequest.Within lower upper :=
  Layout.within_bufferRequest (l.resolved_resolve ..) (Extent.le_clamp hb.le_minSize hb.le_maxSize)
    (Extent.le_trans (Extent.clamp_le ..) hb.maxSize_le)

theorem bounded_ofLayout {m : WindowProfile} {n : UInt32} (hm : m.minSize ≤ m.maxSize)
    (hn : m.minSize ≤ .square n) (color : ColorSetup) (l : Layout) :
    (ofLayout m n color l).Bounded m.minSize m.maxSize where
  le_minSize := Extent.le_sup_left ..
  le_maxSize := Extent.le_inf hm hn
  maxSize_le := Extent.inf_le_left ..

/-- No operation changes the bounds. -/
theorem Life.bounded (hp : Life p₀ h p) (hb : p₀.Bounded lower upper) : p.Bounded lower upper := by
  induction hp with
  | created => exact hb
  | moved _ hm _ ih =>
    obtain ⟨⟨hmin, hmax, -⟩, -⟩ := hm.layout
    exact ⟨hmin ▸ ih.le_minSize, hmax ▸ ih.le_maxSize, hmax ▸ ih.maxSize_le⟩

/-! ## Operations -/

/-- The requests that a pool makes: those of layouts brought within its bounds. -/
def Requests (p : Pool) (r : BufferRequest) : Prop :=
  ∃ l : Layout, r = (l.resolve p.minSize p.maxSize).bufferRequest

theorem Follows.requests {o : Except PoolError Unit} (hf : Follows a p o q t)
    (hr : .configure r x ∈ t.calls) : p.Requests r := by
  cases hf with
  | stays => simp at hr
  | rejected | turned =>
    obtain ⟨rfl, -⟩ : r = _ ∧ x = _ := by simpa using hr
    exact ⟨_, rfl⟩

theorem Dequeues.requests {o : Except PoolError Nat} (hd : Dequeues a p o q t)
    (hr : .configure r x ∈ t.calls) : p.Requests r := by
  cases hd with
  | busy => cases hr
  | rejected _ hf => exact hf.requests hr
  | acquires _ hf ha =>
    rw [Trace.calls_append, List.mem_append] at hr
    exact hf.requests (hr.resolve_right (ha.not_configures r x))

theorem Resizes.requests {size : Extent} {o : Except PoolError Unit} (hz : Resizes a size p o q t)
    (hr : .configure r x ∈ t.calls) : p.Requests r := by
  cases hz with
  | busy | degenerate => cases hr
  | rejected | resized =>
    cases List.mem_singleton.mp hr
    exact ⟨_, rfl⟩

theorem requests_perform (hp : p.Consistent) {o : Operation}
    (hr : .configure r x ∈ (p.perform o).trace.calls) : p.Requests r := by
  rw [← Trace.calls_acts] at hr
  rcases sizes_cases p o with ⟨a, rfl⟩ | ⟨a, size, rfl⟩ | hs
  · exact (dequeue_cases a hp.rests).requests hr
  · exact (resize_cases a size p).requests hr
  · exact absurd hr (Trace.not_configures hs r x)

theorem requests_configure {answer : Answer Unit}
    (hr : .configure r x ∈ (p.configure answer).trace.calls) : r = p.layout.bufferRequest := by
  unfold configure at hr
  split at hr
  · cases hr
  · cases answer with
    | given | refused =>
      cases List.mem_singleton.mp hr
      rfl

/-- A creation requests the first layout, if it comes to that. -/
theorem requests_create {m : WindowProfile} {gpu : GpuLimits} {configured : Answer Unit}
    {color : ColorSetup} {settings : Settings}
    (hr : .configure r x ∈
      (create (.given m) gpu configured color settings).trace.calls) :
    ∃ l, r = (ofLayout m gpu.maxDimension color l).layout.bufferRequest := by
  unfold create at hr
  cases hd : color.dataspace? with
  | none => simp [hd] at hr
  | some dataspace =>
    simp only [hd] at hr
    split at hr
    · simp at hr
    · cases hs : m.requestedCount settings with
      | error e => simp [hs] at hr
      | ok requested =>
        simp only [hs, Trace.calls_append, List.mem_append] at hr
        rcases hr with (hr | hr) | hr
        · simp at hr
        · exact absurd hr (Trace.not_configures (Trace.sizes_ofRecords _) _ _)
        · exact ⟨_, requests_configure hr⟩

/-! ## Every run -/

theorem within_performAll (hp : Life p₀ h p) (h₀ : p₀.Bounded lower upper) {os : List Operation}
    (hr : .configure r x ∈ (p.performAll os).2.calls) : r.Within lower upper := by
  induction os generalizing p h with
  | nil => cases hr
  | cons o os ih =>
    rw [performAll_cons, Trace.calls_append, List.mem_append] at hr
    rcases hr with hr | hr
    · obtain ⟨l, rfl⟩ := requests_perform hp.consistent hr
      exact (hp.bounded h₀).resolve l
    · exact ih (hp.perform o) hr

/-- If the bounds of a window do not cross and the GPU can draw to its smallest size, then the size
in every request lies between these bounds, exchanged in width and height if the transform turns by
a quarter. So it lies between the bounds themselves without such a turn, and for square bounds. -/
theorem requests_within_bounds (m : WindowProfile) (gpu : GpuLimits) (configured : Answer Unit)
    (color : ColorSetup) (settings : Settings) (hm : m.minSize ≤ m.maxSize)
    (hgpu : m.minSize ≤ .square gpu.maxDimension) :
    let made := create (.given m) gpu configured color settings
    ∀ r x, .configure r x ∈ made.trace.calls ∨
        (∃ p os, made.result = .ok p ∧ .configure r x ∈ (p.performAll os).2.calls) →
      (m.minSize.swappedIf r.transform.swapsAxes ≤ r.size ∧
        r.size ≤ m.maxSize.swappedIf r.transform.swapsAxes) ∧
      (r.transform.swapsAxes = false ∨ m.minSize.swapped = m.minSize ∧
          m.maxSize.swapped = m.maxSize →
        m.minSize ≤ r.size ∧ r.size ≤ m.maxSize) := by
  intro made r x hr
  have hb := bounded_ofLayout hm hgpu color
  suffices hw : r.Within m.minSize m.maxSize from ⟨⟨hw.le_size, hw.size_le⟩, hw.size⟩
  rcases hr with hr | ⟨p, os, hp, hr⟩
  · obtain ⟨l, rfl⟩ := requests_create hr
    exact (hb l).resolve l
  · obtain ⟨m', dataspace, requested, hm', -, -, -, heq, -⟩ := create_eq_ok hp
    cases hm'
    exact within_performAll (.created hp) (heq ▸ hb _) hr

end Pool

/-- The profile of a window that allows larger widths than heights. -/
def WindowProfile.wide : WindowProfile :=
  { plain with defaultSize := ⟨800, 400⟩, minSize := ⟨100, 50⟩, maxSize := ⟨1000, 500⟩ }

namespace Pool

/-- If such a window is made too large, it is asked for the largest size that it allows. -/
theorem requests_within_bounds_wide :
    let m := WindowProfile.wide
    let p := ofLayout m 4096 .plain (firstLayout m .rgba8888 .srgb 3)
    let run := p.performAll [.resize (.giving (.plain 7 1) none) ⟨5000, 5000⟩]
    ∃ r, .configure r (.given ()) ∈ run.2.calls ∧ r.size = m.maxSize ∧ m.minSize ≤ r.size := by
  intro m p run
  have hp : (create (.given m) .plain (.given ()) .plain .builtin).result = .ok p := by
    simp only [p, m]
    rfl
  let r := (p.resizedLayout ⟨5000, 5000⟩).bufferRequest
  have hmem : .configure r (.given ()) ∈ run.2.calls := by decide
  obtain ⟨-, hsize⟩ := requests_within_bounds m .plain (.given ()) .plain .builtin (by decide)
    (by decide) r (.given ()) (.inr ⟨p, _, hp, hmem⟩)
  exact ⟨r, hmem, by decide, (hsize (.inl (by decide))).1⟩

/-- If the window is turned by a quarter from the start, its first request is for 400x800, and the
window allows no height above 500. -/
theorem request_exceeds_bounds :
    let m := { WindowProfile.wide with transformHint := .rot90 }
    m.minSize ≤ m.maxSize ∧ m.minSize ≤ .square GpuLimits.plain.maxDimension ∧
      ∃ r, .configure r (.given ()) ∈
          (create (.given m) .plain (.given ()) .plain .builtin).trace.calls ∧
        r.size = ⟨400, 800⟩ ∧ ¬ r.size ≤ m.maxSize := by
  intro m
  let r := ((firstLayout m .rgba8888 .srgb 3).resolve m.minSize m.maxSize).bufferRequest
  exact ⟨by decide, by decide, r, by decide, by decide, by decide⟩

end Pool
end Swapchain
