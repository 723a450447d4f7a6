import Swapchain.Proofs.Freshness
import Swapchain.Proofs.Objections

/-!
# What makes a dequeue fail

A dequeue passes five stages: the pool has to be idle, the window has to take the layout under a
changed transform hint, it has to hand out a buffer, the GPU has to be able to draw to a buffer of
this size, and it has to wrap the buffer unless a fresh surface is kept for it. The first stage with
an objection decides the answer. What each of them looks at is the pool before the dequeue, its
history and the answers, so nothing else can make a dequeue fail, whatever has failed before.

* `Pool.Objects`: the objections, by their stage;
* `Sized.fault_of_adopt`, `Follows.caches_iff`: the two stages in which the program looks at
  something else, a clamped size and the epoch of a slot;
* `Dequeues.decided`: the first objection is the answer;
* `Pool.dequeue_decided`: the same for every run.
-/

namespace Swapchain.Pool

variable {p₀ p q m : Pool} {a : Answers} {t : Trace} {h : List Deed} {n : UInt32} {b : Buffer}
  {e e' : PoolError} {k : Nat}

/-- The hint is of another transform than the pool is in. -/
def Turns (p : Pool) (a : Answers) : Prop :=
  ∃ hint, a.hint = .given hint ∧ hint ≠ p.layout.transform

theorem not_turns (hh : a.hint = .given p.layout.transform) : ¬ p.Turns a := by
  rintro ⟨hint, hg, hne⟩
  cases hh.symm.trans hg
  exact hne rfl

/-- No surface has to be wrapped for a buffer: the geometry stays, and a slot holds a surface for
the buffer that was wrapped since the geometry changed. -/
def KeepsSurface (p : Pool) (h : List Deed) (a : Answers) (b : Buffer) : Prop :=
  ¬ p.Turns a ∧ b.size = p.layout.physicalSize ∧ ∃ u, p.Holds h p.spec b.id u

/-- What stands in the way of a dequeue after the deeds of `h`, on a GPU with largest dimension `n`,
by the stage that objects. -/
inductive Objects (h : List Deed) (n : UInt32) (a : Answers) (p : Pool) :
    Nat → PoolError → Prop where
  /-- A buffer is current. -/
  | busy {c : Current} (hc : p.current? = some c) : Objects h n a p 1 (.bufferDequeued c.buffer.id)
  /-- The window refuses the layout under another transform. -/
  | layout {text : String} (ht : p.Turns a) (hc : a.configure = .refused text) :
    Objects h n a p 2 (.configurationRejected text)
  /-- The window hands out no buffer. -/
  | window {text : String} (hd : a.dequeue = .refused text) :
    Objects h n a p 3 (.acquisitionFailed (.window text))
  /-- The GPU cannot draw to buffers of this size. -/
  | size {b : Buffer} {f : Option Fence} (hd : a.dequeue = .given (b, f))
      (hb : ¬ b.size.Drawable n) :
    Objects h n a p 4 (.acquisitionFailed (.unusableSize b.id b.size))
  /-- The GPU does not wrap the buffer although it has to. -/
  | surface {b : Buffer} {f : Option Fence} {text : String} (hd : a.dequeue = .given (b, f))
      (hk : ¬ p.KeepsSurface h a b) (hw : a.wrap = .refused text) :
    Objects h n a p 5 (.wrapFailed b.id b.size text)

namespace Objects

/-! ## The order of the stages -/

theorem two_le_stage_of_idle (ho : p.Objects h n a k e) (hc : p.current? = none) : 2 ≤ k := by
  cases ho with
  | busy hc' => cases hc.symm.trans hc'
  | layout | window | size | surface => omega

theorem three_le_stage_of_configured (ho : p.Objects h n a k e) (hk : 2 ≤ k)
    (hc : p.Turns a → a.configure = .given ()) : 3 ≤ k := by
  cases ho with
  | busy => omega
  | layout ht hr => cases (hc ht).symm.trans hr
  | window | size | surface => omega

theorem four_le_stage_of_dequeued {f : Option Fence} (ho : p.Objects h n a k e) (hk : 3 ≤ k)
    (hd : a.dequeue = .given (b, f)) : 4 ≤ k := by
  cases ho with
  | busy | layout => omega
  | window hd' => cases hd.symm.trans hd'
  | size | surface => omega

theorem five_le_stage_of_drawable {f : Option Fence} (ho : p.Objects h n a k e) (hk : 4 ≤ k)
    (hd : a.dequeue = .given (b, f)) (hb : b.size.Drawable n) : 5 ≤ k := by
  cases ho with
  | busy | layout | window => omega
  | size hd' hb' =>
    cases hd.symm.trans hd'
    exact absurd hb hb'
  | surface => omega

/-- At the last stage the GPU has refused to wrap a buffer that has no surface. -/
theorem refused_of_five_le_stage {f : Option Fence} (ho : p.Objects h n a k e) (hk : 5 ≤ k)
    (hd : a.dequeue = .given (b, f)) : ¬ p.KeepsSurface h a b ∧ ∃ text, a.wrap = .refused text := by
  cases ho with
  | busy | layout | window | size => omega
  | surface hd' hk' hw =>
    cases hd.symm.trans hd'
    exact ⟨hk', _, hw⟩

/-- A stage has one objection. -/
theorem unique (ho : p.Objects h n a k e) (ho' : p.Objects h n a k e') : e = e' := by
  cases ho with
  | busy hc =>
    cases ho' with
    | busy hc' =>
      cases hc.symm.trans hc'
      rfl
  | layout ht hr =>
    cases ho' with
    | layout ht' hr' =>
      cases hr.symm.trans hr'
      rfl
  | window hd =>
    cases ho' with
    | window hd' =>
      cases hd.symm.trans hd'
      rfl
  | size hd =>
    cases ho' with
    | size hd' =>
      cases hd.symm.trans hd'
      rfl
  | surface hd hk hw =>
    cases ho' with
    | surface hd' hk' hw' =>
      cases hd.symm.trans hd'
      cases hw.symm.trans hw'
      rfl

/-- From the third stage on the next frame may simply try again. -/
theorem isTransient_iff (ho : p.Objects h n a k e) : e.isTransient = true ↔ 3 ≤ k := by
  cases ho <;> simp [PoolError.isTransient]

end Objects

/-! ## What the program looks at -/

/-- A window that is followed has taken the layout under another transform. -/
theorem Follows.configure_eq (hf : Follows a p (.ok ()) m t) (ht : p.Turns a) :
    a.configure = .given () := by
  obtain ⟨hint, hh, hne⟩ := ht
  cases hf with
  | stays hs => exact absurd (hs hint hh) hne
  | turned _ _ hc => exact hc

/-- Without another transform a dequeue asks for the hint and acquires. -/
theorem dequeue_of_not_turns (hc : p.current? = none) (ht : ¬ p.Turns a) :
    ∃ t : Trace, t.acts = [.call (.hint a.hint)] ∧ p.dequeue a = (p.acquire a).after t := by
  have hid : p.currentId = none := currentId_eq_none_iff.mpr hc
  cases hh : a.hint with
  | refused text =>
    refine ⟨(p.followHint a).trace, by simp [followHint, hh, Outcome.ok], ?_⟩
    simp [dequeue, hid, followHint, hh, Outcome.andThen, Outcome.ok]
  | given hint =>
    have hsame : hint = p.layout.transform :=
      Classical.byContradiction fun hne => ht ⟨hint, hh, hne⟩
    refine ⟨(p.followHint a).trace, by simp [followHint, hh, hsame, Outcome.ok], ?_⟩
    simp [dequeue, hid, followHint, hh, hsame, Outcome.andThen, Outcome.ok]

/-- The program brings the size of a buffer within the bounds of the GPU and compares. -/
theorem Sized.resolve_layoutOf (hp : p.Sized n) (hb : b.size.Drawable n) :
    ((p.layoutOf b).resolve smallest p.gpuMax).physicalSize = b.size := by
  have hlower : smallest.inf (.square n) ≤ b.size.swappedIf p.layout.transform.swapsAxes :=
    Extent.le_trans (Extent.inf_le_left ..) (Extent.square_le_swappedIf.mpr hb.1)
  have hclamp : (b.size.swappedIf p.layout.transform.swapsAxes).clamp smallest (.square n) =
      b.size.swappedIf p.layout.transform.swapsAxes :=
    Extent.clamp_eq_self_iff.mpr ⟨hlower, Extent.swappedIf_le_square.mpr hb.2⟩
  show ((b.size.swappedIf p.layout.transform.swapsAxes).clamp smallest p.gpuMax).swappedIf
    p.layout.transform.swapsAxes = b.size
  rw [hp.gpuMax, hclamp, Extent.swappedIf_swappedIf]

theorem Sized.drawable_of_adopt (hp : p.Sized n) (ha : p.adopt b = .ok q) : b.size.Drawable n := by
  rcases adopt_cases ha with ⟨hb, -⟩ | ⟨-, hl, -⟩
  · rw [hb]
    exact hp.drawable
  · rw [← hl]
    exact hp.resolve_gpuMax_drawable _

/-- A buffer is turned away for its size only if the GPU cannot draw to it. -/
theorem Sized.fault_of_adopt {fault : AcquisitionFault} (hp : p.Sized n)
    (ha : p.adopt b = .error fault) : fault = .unusableSize b.id b.size ∧ ¬ b.size.Drawable n := by
  obtain ⟨rfl, hne⟩ := adopt_eq_error ha
  exact ⟨rfl, fun hb => hne (hp.resolve_layoutOf hb)⟩

/-- A dequeue leaves the geometry if neither the hint nor the size of the buffer changes it. -/
theorem Follows.dequeueChanges_eq_nil_iff (hf : Follows a p (.ok ()) m t) :
    m.dequeueChanges b t.calls = [] ↔ ¬ p.Turns a ∧ b.size = p.layout.physicalSize := by
  cases hf with
  | stays hs =>
    have hstill : ¬ p.Turns a := fun ⟨hint, hh, hne⟩ => hne (hs hint hh)
    simp [dequeueChanges, Call.isTaken, hstill]
  | @turned hint hh hne =>
    have hturns : p.Turns a := ⟨hint, hh, hne⟩
    simp [dequeueChanges, Call.isTaken, hturns]

/-- The place of a buffer has a surface of the epoch exactly if the buffer needs no other. -/
theorem Follows.caches_iff (hf : Follows a p (.ok ()) m t) (hp : Life p₀ h p) (h₀ : p₀.Sized n)
    (hc : p.current = none) (hm : m.adopt b = .ok q) {i : Nat}
    (hi : q.slots.placeFor? b.id = some i) : q.caches i b.id = true ↔ p.KeepsSurface h a b := by
  obtain ⟨hlife, hmc⟩ := hf.life hp hc
  have hq : Life p₀ (h ++ m.dequeueChanges b t.calls) q := by
    rw [dequeueChanges, ← List.append_assoc]
    exact (hlife.adopt hmc hm).1
  rw [hq.caches_iff_holds h₀ hi]
  by_cases hnone : m.dequeueChanges b t.calls = []
  · obtain ⟨hstill, hsize⟩ := hf.dequeueChanges_eq_nil_iff.mp hnone
    rw [hf.eq_self hm hnone, hnone, List.append_nil]
    exact ⟨fun hu => ⟨hstill, hsize, hu⟩, fun hk => hk.2.2⟩
  · -- The geometry changes on the way, so no surface is fresh any more.
    refine iff_of_false ?_ fun hk => hnone (hf.dequeueChanges_eq_nil_iff.mpr ⟨hk.1, hk.2.1⟩)
    rintro ⟨u, _, _, _, _, _, _, hu⟩
    exact Surface.not_fresh_of_change hnone (fun _ => isChange_of_mem_dequeueChanges) hu

/-- An idle pool has a place for every buffer. -/
theorem Consistent.exists_placeFor? (hp : p.Consistent) (hc : p.current = none) (id : BufferId) :
    ∃ i, p.slots.placeFor? id = some i :=
  SlotTable.exists_placeFor? hp.capacity_pos (hp.idle hc) id

/-! ## The answer -/

theorem Acquires.decided {r : Except PoolError Nat} (ha : Acquires a m r q t) {u : Trace}
    (hf : Follows a p (.ok ()) m u) (hp : Life p₀ h p) (h₀ : p₀.Sized n) (hc : p.current? = none) :
    DecidedBy (p.Objects h n a) r := by
  have hcn := hp.consistent.current?_eq_none_iff.mp hc
  obtain ⟨hm, hmc⟩ := hf.life hp hcn
  have three : ∀ k e, p.Objects h n a k e → 3 ≤ k := fun k e ho =>
    ho.three_le_stage_of_configured (ho.two_le_stage_of_idle hc) hf.configure_eq
  have four : ∀ {b f}, a.dequeue = .given (b, f) → ∀ k e, p.Objects h n a k e → 4 ≤ k :=
    fun hd k e ho => ho.four_le_stage_of_dequeued (three k e ho) hd
  have five : ∀ {b f m'}, a.dequeue = .given (b, f) → m.adopt b = .ok m' →
      ∀ k e, p.Objects h n a k e → 5 ≤ k := fun hd ha k e ho =>
    ho.five_le_stage_of_drawable (four hd k e ho) hd ((hm.sized h₀).drawable_of_adopt ha)
  cases ha with
  | refused hd => exact ⟨3, .window hd, three⟩
  | unusable hd ha =>
    obtain ⟨rfl, hb⟩ := (hm.sized h₀).fault_of_adopt ha
    exact ⟨4, .size hd hb, four hd⟩
  | homeless hd ha hi =>
    obtain ⟨hq, hqc, -⟩ := hm.adopt hmc ha
    obtain ⟨i, hi'⟩ := hq.consistent.exists_placeFor? hqc _
    cases hi.symm.trans hi'
  | cached hd ha hi hs =>
    intro k e ho
    have hk := (ho.refused_of_five_le_stage (five hd ha k e ho) hd).1
    exact hk ((hf.caches_iff hp h₀ hcn ha hi).mp hs)
  | @unwrapped b f m' _ _ hd ha hi hs hw =>
    have hk : ¬ p.KeepsSurface h a b := fun hk => by
      rw [(hf.caches_iff hp h₀ hcn ha hi).mpr hk] at hs
      cases hs
    have hsize : b.size = m'.spec.size := (hm.adopt hmc ha).2.2
    rw [← hsize]
    exact ⟨5, .surface hd hk hw, five hd ha⟩
  | wrapped hd ha hi hs hw =>
    intro k e ho
    obtain ⟨-, text, hr⟩ := ho.refused_of_five_le_stage (five hd ha k e ho) hd
    cases hw.symm.trans hr

theorem Dequeues.decided {r : Except PoolError Nat} (hd : Dequeues a p r q t) (hp : Life p₀ h p)
    (h₀ : p₀.Sized n) : DecidedBy (p.Objects h n a) r := by
  cases hd with
  | busy hc =>
    obtain ⟨c, hcur, rfl⟩ := Option.map_eq_some_iff.mp hc
    refine ⟨1, .busy hcur, fun k e ho => ?_⟩
    cases ho <;> omega
  | rejected hc hf =>
    cases hf with
    | @rejected hint _ hh hne ha =>
      exact ⟨2, .layout ⟨hint, hh, hne⟩ ha, fun k e ho =>
        ho.two_le_stage_of_idle (currentId_eq_none_iff.mp hc)⟩
  | acquires hc hf ha => exact ha.decided hf hp h₀ (currentId_eq_none_iff.mp hc)

/-- A pool that is not idle asks nothing. -/
theorem Dequeues.calls_of_busy {id : BufferId}
    (hd : Dequeues a p (.error (.bufferDequeued id)) q t) : t.calls = [] := by
  cases hd with
  | busy => rfl
  | rejected hc hf => cases hf
  | acquires hc hf ha => cases ha

/-- A window that refuses the layout is not asked for a buffer. -/
theorem Dequeues.not_dequeue {text : String}
    (hd : Dequeues a p (.error (.configurationRejected text)) q t)
    (x : Answer (Buffer × Option Fence)) : .dequeue x ∉ t.calls := by
  cases hd with
  | rejected hc hf =>
    cases hf with
    | rejected => simp
  | acquires hc hf ha => cases ha

/-- A dequeue that succeeds leaves the size of the buffer. -/
theorem Dequeues.physicalSize {i : Nat} (hd : Dequeues a p (.ok i) q t) (hp : Life p₀ h p) :
    ∃ b f, a.dequeue = .given (b, f) ∧ q.layout.physicalSize = b.size := by
  cases hd with
  | acquires hc hf ha =>
    obtain ⟨hm, hmc⟩ := hf.life hp (hp.consistent.current_eq_none hc)
    obtain ⟨b, f, m, cs, hb, hadopt, -, -, ho⟩ := ha.obtains
    have hsize : b.size = m.layout.physicalSize := (hm.adopt hmc hadopt).2.2
    have hlayout : q.layout = m.layout := by cases ho <;> rfl
    exact ⟨b, f, hb, by rw [hlayout, hsize]⟩

/-! ## Every run -/

/-- After every run a dequeue fails with the first objection, and if there is none it succeeds. The
next frame may try again exactly from the third stage on. A pool that is not idle asks nothing of
the window and the GPU, a window that refuses the layout is not asked for a buffer, there is always
a slot, and a success leaves the physical size of the buffer. -/
theorem dequeue_decided {query : Answer WindowProfile} {gpu : GpuLimits}
    {configured : Answer Unit} {color : ColorSetup} {settings : Settings}
    (h : (create query gpu configured color settings).result = .ok p) (os : List Operation)
    (a : Answers) :
    let q := (p.performAll os).1
    let o := q.dequeue a
    let objects := q.Objects (p.past os) gpu.maxDimension a
    (∀ e, o.result = .error e ↔ ∃ k, objects k e ∧ ∀ k' e', objects k' e' → k ≤ k') ∧
      ((∃ i, o.result = .ok i) ↔ ∀ k e, ¬ objects k e) ∧
      (∀ k e, objects k e → (e.isTransient = true ↔ 3 ≤ k)) ∧
      (∀ id, o.result = .error (.bufferDequeued id) → o.trace.calls = []) ∧
      (∀ text, o.result = .error (.configurationRejected text) →
        ∀ x, .dequeue x ∉ o.trace.calls) ∧
      (∀ id, o.result ≠ .error (.acquisitionFailed (.noSlot id))) ∧
      ∀ i, o.result = .ok i →
        ∃ b f, a.dequeue = .given (b, f) ∧ o.pool.layout.physicalSize = b.size := by
  intro q o objects
  have hlife : Life p (p.past os) q := Life.of_create h os
  have hd : Dequeues a q o.result o.pool o.acts := dequeue_cases a hlife.consistent.rests
  have hcalls : o.acts.calls = o.trace.calls := Trace.calls_acts _
  have hdec : DecidedBy objects o.result := hd.decided hlife (sized_create h)
  have herror : ∀ e, o.result = .error e ↔ FirstObjection objects e := fun e =>
    hdec.error_iff fun _ _ _ ho ho' => ho.unique ho'
  refine ⟨herror, hdec.ok_iff, fun k e ho => ho.isTransient_iff,
    fun id hr => ?_, fun text hr => ?_, fun id hr => ?_, fun i hr => ?_⟩
  · rw [hr] at hd
    rw [← hcalls, hd.calls_of_busy]
  · rw [hr] at hd
    rw [← hcalls]
    exact hd.not_dequeue
  · obtain ⟨k, ho, -⟩ := (herror _).mp hr
    cases ho
  · rw [hr] at hd
    exact hd.physicalSize hlife

/-- The window has no buffer, then the GPU has no memory, then the window refuses to turn. None of
that is in the way of the next dequeue. If the window is turned upside down once that buffer has
been shown, the buffer has to be wrapped again. -/
theorem dequeue_decided_failures :
    let a := Answers.giving (.plain 7 1) none
    let fails := [.dequeue { a with dequeue := .refused "none" },
      .dequeue { a with wrap := .refused "no memory" },
      .dequeue { a with hint := .given .rot90, configure := .refused "busy" }]
    let os := fails ++ [.dequeue a, .present a none none]
    let flipped := { a with hint := .given .rot180, wrap := .refused "no memory" }
    (∀ k e, ¬ (plain.performAll fails).1.Objects (plain.past fails) 4096 a k e) ∧
      ∃ k, (plain.performAll os).1.Objects (plain.past os) 4096 flipped k
        (.wrapFailed ⟨7⟩ ⟨640, 480⟩ "no memory") := by
  intro a fails os flipped
  obtain ⟨-, hok, -⟩ := dequeue_decided create_plain fails a
  obtain ⟨herror, -⟩ := dequeue_decided create_plain os flipped
  have hresult : ((plain.performAll fails).1.dequeue a).result = .ok 0 := by
    simp only [fails, a]
    rfl
  have hwrap : ((plain.performAll os).1.dequeue flipped).result =
      .error (.wrapFailed ⟨7⟩ ⟨640, 480⟩ "no memory") := by
    simp only [os, fails, flipped, a]
    rfl
  obtain ⟨k, ho, -⟩ := (herror _).mp hwrap
  exact ⟨hok.mp ⟨0, hresult⟩, k, ho⟩

end Swapchain.Pool
