import Swapchain.Proofs.Stages

/-!
# Sizes that the window chooses

A window may change the size of its buffers by itself, and then the pool goes over to the size of
the buffer it is handed. This is the resize that the caller would have asked for: the pool adopts
the size in the layout that a resize to the buffer's logical size makes, as long as this size is
within the bounds of the window, and the buffer comes into the same slot of the same emptied table.
The two ways differ in one call, by which a resize tells the window.

They go about it in another order. A resize commits its layout, and the dequeue after it looks the
buffer up. A dequeue by itself plans the layout, takes the first slot, wraps the buffer for an epoch
that has not begun, and commits last. While no slot is dequeued the two come to the same.

* `Sized.resizedLayout_eq`, `Sized.planResize_eq`: both bounds make the same layout, and so the one
  that is planned is the one of a resize;
* `Pool.acquire_commit`: an acquisition that commits last goes like one after the commit;
* `Pool.adopts_as_resized`: both ways in every run.
-/

namespace Swapchain

/-- Bounds that bring a size to the same one make the same layout. -/
theorem Layout.resolve_congr {l : Layout} {lower upper lower' upper' : Extent}
    (h : l.logicalSize.clamp lower upper = l.logicalSize.clamp lower' upper') :
    l.resolve lower upper = l.resolve lower' upper' := by
  simp only [resolve, h]

/-- A size within the bounds is kept by a clamp. -/
theorem Extent.clamp_eq_self {s lower upper : Extent} (h : lower ≤ s) (h' : s ≤ upper) :
    s.clamp lower upper = s :=
  clamp_eq_self_iff.mpr ⟨le_trans (inf_le_left ..) h, h'⟩

namespace Pool

variable {p m : Pool} {a a' : Answers} {b : Buffer} {f : Option Fence} {n : UInt32}

/-- Every run is a life on some GPU. -/
theorem Reachable.life (h : Reachable p) : ∃ n p₀ past, p₀.Sized n ∧ Life p₀ past p := by
  induction h with
  | @created _ gpu _ _ _ p h => exact ⟨gpu.maxDimension, p, _, sized_create h, .created h⟩
  | performed o _ ih =>
    obtain ⟨n, p₀, past, h₀, hp⟩ := ih
    exact ⟨n, p₀, _, h₀, hp.perform o⟩

/-! ## One layout -/

/-- The logical size of a pool whose buffers have the size of `b`. -/
def logicalOf (b : Buffer) (p : Pool) : Extent := Layout.physicalOf p.layout.transform b.size

/-- Within the bounds of the window a resize makes the layout of the buffer's size, which the bounds
of the GPU leave as it is. -/
theorem Sized.resizedLayout_eq (hp : p.Sized n) (hlower : p.minSize ≤ p.logicalOf b)
    (hupper : p.logicalOf b ≤ p.maxSize) :
    p.resizedLayout (p.logicalOf b) = (p.layoutOf b).resolve smallest p.gpuMax := by
  have hgpu : p.logicalOf b ≤ p.gpuMax := by
    rw [hp.gpuMax]
    exact Extent.le_trans hupper hp.max_le
  exact Layout.resolve_congr ((Extent.clamp_eq_self hlower hupper).trans
    (Extent.clamp_eq_self (Extent.le_trans hp.one_le_min hlower) hgpu).symm)

/-- In the layout of a size within the bounds, buffers have this size. -/
theorem physicalSize_resizedLayout (hlower : p.minSize ≤ p.logicalOf b)
    (hupper : p.logicalOf b ≤ p.maxSize) :
    (p.resizedLayout (p.logicalOf b)).physicalSize = b.size := by
  show ((p.logicalOf b).clamp p.minSize p.maxSize).swappedIf p.layout.transform.swapsAxes = b.size
  rw [Extent.clamp_eq_self hlower hupper]
  exact Extent.swappedIf_swappedIf ..

/-- What is planned for a buffer of another size is the layout of a resize. -/
theorem Sized.planResize_eq (hp : p.Sized n) (hb : b.size ≠ p.layout.physicalSize)
    (hlower : p.minSize ≤ p.logicalOf b) (hupper : p.logicalOf b ≤ p.maxSize) :
    p.planResize b = .ok (some (p.resizedLayout (p.logicalOf b))) := by
  have hphys := physicalSize_resizedLayout hlower hupper
  rw [hp.resizedLayout_eq hlower hupper] at hphys ⊢
  rw [planResize, if_neg hb, if_pos hphys]

/-- A resize of an idle pool that the window accepts commits its layout. -/
theorem Resizes.accepted {size : Extent} {r : Except PoolError Unit} {q : Pool} {t : Trace}
    (hr : Resizes a' size p r q t) (hp : p.Sized n) (hc : p.current? = none)
    (ha : a'.configure = .given ()) :
    r = .ok () ∧ q = p.commit (some (p.resizedLayout size)) ∧
      t = [.call (.configure (p.resizedLayout size).bufferRequest (.given ()))] := by
  obtain ⟨ht, ⟨text, hrefused, -⟩ | ⟨-, hok, hq⟩⟩ := hr.idle hp hc
  · cases ha.symm.trans hrefused
  · exact ⟨hok, hq, ha ▸ ht⟩

/-! ## One acquisition -/

/-- An acquisition that plans a layout, places and wraps its buffer in view of it and commits it
last goes like one that finds the layout committed. -/
theorem acquire_commit {resized : Option Layout} (hidle : p.slots.Idle)
    (hb : a.dequeue = .given (b, f)) (hp : p.planResize b = .ok resized)
    (hcommit : p.commit resized = m) (hm : m.planResize b = .ok none) :
    (m.acquire a).result = (p.acquire a).result ∧ (m.acquire a).acts = (p.acquire a).acts ∧
      ∀ i, (p.acquire a).result = .ok i → (m.acquire a).pool = (p.acquire a).pool := by
  have hmidle : m.slots.Idle := hcommit ▸ idle_commit hidle resized
  have hkept : m.commit none = m := rfl
  simp only [acquire, hb, place, hp, hm, Outcome.after_result, Outcome.after_pool,
    Outcome.after_acts, Trace.acts_ofRecords, List.nil_append, plannedSlot?_eq hidle,
    plannedSlot?_eq hmidle, hcommit, hkept]
  cases hi : m.slots.placeFor? b.id with
  | none => simp [giveBack_result, giveBack_acts]
  | some i =>
    simp only [fill, reuses_eq hidle, reuses_eq hmidle, specOf_plannedSize hp,
      specOf_plannedSize hm, plannedEpoch_eq, hcommit, hkept]
    cases hs : m.caches i b.id with
    | true => simp
    | false => cases hw : a.wrap <;> simp [giveBack_result, giveBack_acts]

/-! ## Every run -/

/-- After every run that leaves the pool idle, let the window hand out a buffer of another size
under the same transform, whose logical size is within the bounds of the window. A resize to this
size is done if the window accepts it, and the dequeue of the buffer after it has the answer of the
dequeue without it; if that is a success, then both leave the same pool. The window and the GPU are
asked the same, but for the request of the resize. -/
theorem adopts_as_resized (a' : Answers) (h : Reachable p) (hc : p.current = none)
    (ht : ¬ p.Turns a) (hb : a.dequeue = .given (b, f))
    (hsize : b.size ≠ p.layout.physicalSize)
    (hlower : p.minSize ≤ Layout.physicalOf p.layout.transform b.size)
    (hupper : Layout.physicalOf p.layout.transform b.size ≤ p.maxSize)
    (ha : a'.configure = .given ()) :
    let resized := p.resize a' (Layout.physicalOf p.layout.transform b.size)
    let request := resized.pool.layout.bufferRequest
    resized.result = .ok () ∧ request.size = b.size ∧
      (resized.pool.dequeue a).result = (p.dequeue a).result ∧
      (∀ i, (p.dequeue a).result = .ok i → (resized.pool.dequeue a).pool = (p.dequeue a).pool) ∧
      resized.acts ++ (resized.pool.dequeue a).acts =
        .call (.configure request (.given ())) :: (p.dequeue a).acts := by
  obtain ⟨n, p₀, past, h₀, hlife⟩ := h.life
  have hp : p.Sized n := hlife.sized h₀
  have hnone : p.current? = none := h.consistent.current?_eq_none_iff.mpr hc
  let l := p.resizedLayout (p.logicalOf b)
  intro resized request
  obtain ⟨hok, hpool, hacts⟩ :
      resized.result = .ok () ∧ resized.pool = p.commit (some l) ∧ resized.acts = _ :=
    (resize_cases a' (p.logicalOf b) p).accepted hp hnone ha
  have hphys : (p.commit (some l)).layout.physicalSize = b.size :=
    physicalSize_resizedLayout hlower hupper
  have hkept : (p.commit (some l)).planResize b = .ok none := if_pos hphys.symm
  -- Nothing is current after the resize, and the transform is the same.
  have hnone' : (p.commit (some l)).current? = none := by
    rw [current?, show (p.commit (some l)).current = none from hc]
    rfl
  have ht' : ¬ (p.commit (some l)).Turns a := ht
  obtain ⟨t, htacts, hd⟩ := dequeue_of_not_turns hnone ht
  obtain ⟨t', htacts', hd'⟩ := dequeue_of_not_turns hnone' ht'
  obtain ⟨hresult, hsame, hend⟩ := acquire_commit (h.consistent.idle hc) hb
    (hp.planResize_eq hsize hlower hupper) rfl hkept
  have hrequest : request = l.bufferRequest := by
    show resized.pool.layout.bufferRequest = _
    rw [hpool]
    rfl
  rw [hpool, hd, hd']
  refine ⟨hok, by rw [hrequest]; exact hphys, hresult, hend, ?_⟩
  rw [hacts, Outcome.after_acts, Outcome.after_acts, htacts, htacts', hsame, hrequest]
  rfl

/-- The window is turned by a quarter and has shown a frame. Then it hands out a buffer of 300x200
pixels: as if the caller had asked for 200x300, the pool goes over to this logical size. -/
theorem adopts_as_resized_turned :
    let a := { Answers.giving ⟨⟨7⟩, ⟨480, 640⟩, 1⟩ none with hint := .given .rot90 }
    let p := (plain.performAll [.dequeue a, .present a none none]).1
    let next := { Answers.giving ⟨⟨8⟩, ⟨300, 200⟩, 2⟩ (some ⟨1, false⟩) with
      hint := .given .rot90, wrap := .given 2 }
    let logical := Layout.physicalOf p.layout.transform ⟨300, 200⟩
    let resized := p.resize next logical
    logical = ⟨200, 300⟩ ∧ p.layout.physicalSize = ⟨480, 640⟩ ∧ p.slots.activeCount = 1 ∧
      resized.result = .ok () ∧ (p.dequeue next).result = .ok 0 ∧
      (resized.pool.dequeue next).result = .ok 0 ∧
      (resized.pool.dequeue next).pool = (p.dequeue next).pool ∧
      (p.dequeue next).pool.layout.logicalSize = ⟨200, 300⟩ := by
  intro a p next logical resized
  have h : Reachable p := reachable_plain.performAll _
  have hstill : ¬ p.Turns next := not_turns (by decide)
  have hr : (p.dequeue next).result = .ok 0 := by
    simp only [p, next, a]
    rfl
  obtain ⟨hok, -, hresult, hpool, -⟩ := adopts_as_resized next h (by decide) hstill rfl
    (by decide) (by decide) (by decide) rfl
  exact ⟨by decide, by decide, by decide, hok, hr, hresult.trans hr, hpool 0 hr, by decide⟩

end Pool
end Swapchain
