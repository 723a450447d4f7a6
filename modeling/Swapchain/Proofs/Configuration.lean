import Swapchain.Proofs.Sizes

/-!
# What the window has been told

The window makes its buffers by the last request that it took. A request is pushed before the pool
goes over to its layout, any of them may be refused, and a buffer of another size changes the layout
without a request. Still the window and the pool differ in nothing but a size that the window
itself brought about.

* `Trace.taken`: the requests that the window took;
* `Pool.taken_past`: they are those of the layouts in the history;
* `Pool.Configured`: how the last of these layouts compares to that of the pool;
* `Pool.configuration_agrees`: the requests of every run.
-/

namespace Swapchain

/-- The request that the window took in a call. -/
def Call.taken? : Call → Option BufferRequest
  | .configure request (.given ()) => some request
  | _ => none

theorem Call.eq_configure_of_taken? {c : Call} {r : BufferRequest} (h : c.taken? = some r) :
    c = .configure r (.given ()) := by
  unfold taken? at h
  split at h <;> cases h
  rfl

namespace Trace

/-- The requests that the window took in a trace, oldest first. -/
def taken (t : Trace) : List BufferRequest := t.calls.filterMap Call.taken?

@[simp] theorem taken_append (t u : Trace) : taken (t ++ u) = taken t ++ taken u := by
  simp [taken]

theorem taken_acts (t : Trace) : t.acts.taken = t.taken := by
  rw [taken, calls_acts, taken]

variable {t : Trace}

/-- A trace in which no size is asked for has no requests. -/
theorem not_configures (h : t.sizes = []) (request : BufferRequest) (x : Answer Unit) :
    .configure request x ∉ t.calls := fun hc => by
  cases List.filterMap_eq_nil_iff.mp h _ hc

theorem taken_eq_nil (h : t.sizes = []) : t.taken = [] := by
  refine List.filterMap_eq_nil_iff.mpr fun c hc => ?_
  cases hr : c.taken? with
  | none => rfl
  | some r =>
    rw [Call.eq_configure_of_taken? hr] at hc
    exact absurd hc (not_configures h r _)

end Trace

namespace Pool

variable {p₀ p q : Pool} {a : Answers} {t : Trace} {h post : List Deed}

/-! ## Requests -/

/-- The layout that a dequeue leaves configured is that of the pool under the hint. -/
theorem filterMap_dequeueDeeds (a : Answers) (q : Pool) (r : Except PoolError Nat)
    (cs : List Call) : (dequeueDeeds a q r cs).filterMap Deed.layout? =
      if cs.any Call.isTaken then [q.layout] else [] := by
  unfold dequeueDeeds
  dsimp only
  split
  · split <;> split <;> rfl
  · split <;> rfl

theorem Acquires.not_configures {r : Except PoolError Nat} (ha : Acquires a p r q t)
    (request : BufferRequest) (x : Answer Unit) : .configure request x ∉ t.calls := by
  cases ha <;> simp

theorem Acquires.taken_eq {r : Except PoolError Nat} (ha : Acquires a p r q t) : t.taken = [] := by
  cases ha <;> rfl

theorem layout_underHint (p : Pool) (l : Layout) : (p.underHint l).layout = l := by
  unfold underHint
  dsimp only
  split <;> rfl

theorem Follows.taken_eq {r : Except PoolError Unit} (hf : Follows a p r q t) :
    t.taken = if t.calls.any Call.isTaken then [q.layout.bufferRequest] else [] := by
  cases hf with
  | stays | rejected => rfl
  | turned =>
    rw [layout_underHint]
    rfl

theorem Dequeues.taken_eq {r : Except PoolError Nat} (hd : Dequeues a p r q t) :
    t.taken = ((dequeueDeeds a (p.followHint a).pool r t.calls).filterMap Deed.layout?).map
      Layout.bufferRequest := by
  rw [filterMap_dequeueDeeds]
  cases hd with
  | busy => rfl
  | rejected hc hf =>
    rw [hf.pool_eq, hf.taken_eq]
    split <;> rfl
  | acquires hc hf ha =>
    rw [hf.pool_eq, Trace.taken_append, hf.taken_eq, ha.taken_eq, Trace.calls_append,
      List.any_append, ha.taken, Bool.or_false, List.append_nil]
    split <;> rfl

theorem Resizes.taken_eq {size : Extent} {r : Except PoolError Unit}
    (hr : Resizes a size p r q t) :
    t.taken = ((resizeDeeds q.layout r).filterMap Deed.layout?).map Layout.bufferRequest := by
  cases hr <;> rfl

theorem filterMap_presentDeeds (c : Option Current) (r : Except PoolError Unit) :
    (presentDeeds c r).filterMap Deed.layout? = [] := by
  unfold presentDeeds
  split <;> rfl

/-- The requests that the window takes in an operation are those of the layouts it is left with. -/
theorem taken_perform (hp : p.Consistent) (o : Operation) :
    (p.perform o).trace.taken =
      ((p.deeds o).filterMap Deed.layout?).map Layout.bufferRequest := by
  rw [← Trace.taken_acts]
  cases o with
  | dequeue a =>
    rw [deeds, ← Trace.calls_acts]
    exact (dequeue_cases a hp.rests).taken_eq
  | present a dirty completion =>
    rw [deeds, filterMap_presentDeeds]
    exact Trace.taken_eq_nil (present_cases a dirty completion p).sizes
  | cancel a => exact Trace.taken_eq_nil (cancel_cases a p).sizes
  | resize a size => exact (resize_cases a size p).taken_eq
  | release a => exact Trace.taken_eq_nil (sizes_release a p)
  | takeFence => exact Trace.taken_eq_nil (sizes_takeFence p)
  | draw => exact Trace.taken_eq_nil (sizes_draw p)

theorem taken_performAll (hp : p.Consistent) (os : List Operation) :
    (p.performAll os).2.taken =
      ((p.history os).filterMap Deed.layout?).map Layout.bufferRequest := by
  induction os generalizing p with
  | nil => rfl
  | cons o os ih =>
    rw [performAll_cons, Trace.taken_append, taken_perform hp, ih (consistent_perform hp o), history,
      List.filterMap_append, List.map_append]

/-- The requests that the window has taken in a run, from the creation on, are those of the layouts
in its history. -/
theorem taken_past {query : Answer WindowProfile} {gpu : GpuLimits} {configured : Answer Unit}
    {color : ColorSetup} {settings : Settings}
    (h : (create query gpu configured color settings).result = .ok p) (os : List Operation) :
    ((create query gpu configured color settings).trace ++ (p.performAll os).2).taken =
      ((p.past os).filterMap Deed.layout?).map Layout.bufferRequest := by
  obtain ⟨m, dataspace, requested, -, -, -, -, -, -, hacts⟩ := create_eq_ok h
  rw [Trace.taken_append, ← Trace.taken_acts, hacts, taken_performAll (consistent_create h)]
  rfl

/-! ## The last request -/

/-- The window has been told a layout last, and what has been done since. The pool has still this
layout, but for the size if it has adopted buffers of another. -/
structure Configured (h : List Deed) (p : Pool) (l : Layout) (post : List Deed) : Prop where
  split : ∃ pre, h = pre ++ .configured l :: post
  last : ∀ e ∈ post, e.layout? = none
  request : l.bufferRequest = { p.layout.bufferRequest with size := l.physicalSize }
  size : (∀ b, .adopted b ∉ post) → l.physicalSize = p.layout.physicalSize

namespace Configured

variable {l : Layout}

/-- A layout that the window has just taken. -/
theorem now (h : List Deed) (hl : p.layout = l) : p.Configured (h ++ [.configured l]) l [] where
  split := ⟨h, rfl⟩
  last := List.forall_mem_nil _
  request := hl ▸ rfl
  size _ := hl ▸ rfl

/-- A deed that the window is not told of, and that leaves the layout as it is or adopts a size. -/
theorem concat (hc : p.Configured h l post) {d : Deed} (hd : d.layout? = none)
    (hr : { q.layout.bufferRequest with size := l.physicalSize } =
      { p.layout.bufferRequest with size := l.physicalSize })
    (hs : (∀ b, d ≠ .adopted b) → q.layout.physicalSize = p.layout.physicalSize) :
    q.Configured (h ++ [d]) l (post ++ [d]) where
  split := by
    obtain ⟨pre, rfl⟩ := hc.split
    exact ⟨pre, by simp⟩
  last := List.forall_mem_append.mpr ⟨hc.last, by simpa using hd⟩
  request := hc.request.trans hr.symm
  size hb := by
    rw [hs fun b heq => hb b (by simp [heq])]
    exact hc.size fun b hm => hb b (List.mem_append_left _ hm)

/-- The last request that the window has taken. -/
theorem getLast? (hc : p.Configured h l post) :
    ((h.filterMap Deed.layout?).map Layout.bufferRequest).getLast? = some l.bufferRequest := by
  obtain ⟨pre, rfl⟩ := hc.split
  have hlast : (.configured l :: post).filterMap Deed.layout? = [l] :=
    congrArg (l :: ·) (List.filterMap_eq_nil_iff.mpr hc.last)
  rw [List.filterMap_append, hlast]
  simp

theorem move {d : Option Deed} (hc : p.Configured h l post) (hm : Move p d q) :
    ∃ l post, q.Configured (h ++ d.toList) l post := by
  cases hm with
  | relaid hnone hl hu =>
    cases hl with
    | configured turn size hl => exact ⟨_, _, now h rfl⟩
    | adopted => exact ⟨_, _, hc.concat rfl rfl fun hb => absurd rfl (hb _)⟩
  | renewed | wrapped | shown | released => exact ⟨_, _, hc.concat rfl rfl fun _ => rfl⟩
  | touched =>
    rw [Option.toList_none, List.append_nil]
    exact ⟨l, post, hc.split, hc.last, hc.request, hc.size⟩

end Configured

theorem Life.configured (hp : Life p₀ h p) : ∃ l post, p.Configured h l post := by
  induction hp with
  | created => exact ⟨_, _, .now [] rfl⟩
  | moved _ hm _ ih =>
    obtain ⟨l, post, hc⟩ := ih
    exact hc.move hm

/-! ## Hints and refusals -/

/-- A buffer of another size comes under the same transform. -/
theorem transform_adopt {b : Buffer} (ha : p.adopt b = .ok q) :
    q.layout.transform = p.layout.transform := by
  rcases adopt_cases ha with ⟨-, rfl⟩ | ⟨-, -, rfl⟩ <;> rfl

theorem Follows.transform (hf : Follows a p (.ok ()) q t) {hint : Transform}
    (hh : a.hint = .given hint) : q.layout.transform = hint := by
  cases hf with
  | stays hs => exact (hs hint hh).symm
  | turned hh' =>
    cases hh.symm.trans hh'
    rw [layout_underHint]
    rfl

/-- A dequeue that succeeds leaves the transform of the hint. -/
theorem Dequeues.transform {i : Nat} (hd : Dequeues a p (.ok i) q t) {hint : Transform}
    (hh : a.hint = .given hint) : q.layout.transform = hint := by
  cases hd with
  | acquires hc hf ha =>
    obtain ⟨b, f, m, cs, -, hm, -, -, ho⟩ := ha.obtains
    rw [← hf.transform hh, ← transform_adopt hm]
    cases ho <;> rfl

theorem Dequeues.refused {r : Except PoolError Nat} (hd : Dequeues a p r q t)
    {request : BufferRequest} {text : String} (hc : .configure request (.refused text) ∈ t.calls) :
    q = p := by
  cases hd with
  | busy => rfl
  | rejected hn hf =>
    cases hf with
    | rejected => rfl
  | acquires hn hf ha =>
    rw [Trace.calls_append, List.mem_append] at hc
    rcases hc with hc | hc
    · cases hf <;> simp at hc
    · exact absurd hc (ha.not_configures request _)

theorem Resizes.refused {size : Extent} {r : Except PoolError Unit} (hr : Resizes a size p r q t)
    {request : BufferRequest} {text : String} (hc : .configure request (.refused text) ∈ t.calls) :
    q = p := by
  cases hr with
  | busy | degenerate | rejected => rfl
  | resized => simp at hc

/-- A request that the window refuses changes nothing. -/
theorem refused_perform (hp : p.Consistent) {o : Operation} {request : BufferRequest}
    {text : String} (hc : .configure request (.refused text) ∈ (p.perform o).trace.calls) :
    (p.perform o).pool = p := by
  rw [← Trace.calls_acts] at hc
  rcases sizes_cases p o with ⟨a, rfl⟩ | ⟨a, size, rfl⟩ | hs
  · exact (dequeue_cases a hp.rests).refused hc
  · exact (resize_cases a size p).refused hc
  · exact absurd hc (Trace.not_configures hs _ _)

/-! ## Every run -/

/-- After every run the last request that the window has taken has the format, the dataspace, the
usage, the number of buffers and the inverse of the transform of the pool. Its size is that of the
layout that the pool went over to with it, and still that of the pool unless buffers of another size
have been adopted since. A dequeue that succeeds leaves the transform of its hint, and a request
that is refused leaves the pool as it was. -/
theorem configuration_agrees {query : Answer WindowProfile} {gpu : GpuLimits}
    {configured : Answer Unit} {color : ColorSetup} {settings : Settings}
    (h : (create query gpu configured color settings).result = .ok p) (os : List Operation) :
    let made := create query gpu configured color settings
    let q := (p.performAll os).1
    (∃ pre l post, p.past os = pre ++ .configured l :: post ∧ (∀ e ∈ post, e.layout? = none) ∧
        (made.trace ++ (p.performAll os).2).taken.getLast? =
          some ⟨l.physicalSize, q.layout.format, q.layout.dataspace, q.layout.usage,
            q.layout.bufferCount, q.layout.transform.inverse⟩ ∧
        ((∀ b, .adopted b ∉ post) → l.physicalSize = q.layout.physicalSize)) ∧
      (∀ a hint i, (q.dequeue a).result = .ok i → a.hint = .given hint →
        (q.dequeue a).pool.layout.transform = hint) ∧
      ∀ o request text, .configure request (.refused text) ∈ (q.perform o).trace.calls →
        (q.perform o).pool = q := by
  intro made q
  have hq : q.Consistent := (Life.of_create h os).consistent
  refine ⟨?_, fun a hint i hr hh => (hr ▸ dequeue_cases a hq.rests).transform hh,
    fun o request text => refused_perform hq⟩
  obtain ⟨l, post, hc⟩ := (Life.of_create h os).configured
  obtain ⟨pre, hsplit⟩ := hc.split
  have hlast := hc.getLast?
  rw [hc.request] at hlast
  exact ⟨pre, l, post, hsplit, hc.last, by rw [taken_past h, hlast]; rfl, hc.size⟩

/-- The window is turned by a quarter and hands out a buffer of a size of its own: its request still
has the size that follows from the turn. Then it is turned upside down but refuses that. -/
theorem configuration_agrees_adopted :
    let a := { Answers.giving ⟨⟨8⟩, ⟨300, 200⟩, 2⟩ none with hint := .given .rot90 }
    let refusing := { a with hint := .given .rot180, configure := .refused "busy" }
    let run := plain.performAll [.dequeue a, .present a none none]
    let made := create (.given .plain) .plain (.given ()) .plain .builtin
    (∃ r, (made.trace ++ run.2).taken.getLast? = some r ∧ r.size = ⟨480, 640⟩ ∧
        r.transform = run.1.layout.transform.inverse) ∧
      run.1.layout.physicalSize = ⟨300, 200⟩ ∧
      (run.1.dequeue a).pool.layout.transform = .rot90 ∧
      (run.1.dequeue refusing).pool = run.1 := by
  intro a refusing run made
  obtain ⟨⟨pre, l, post, -, -, hlast, -⟩, hhint, hrefused⟩ :=
    configuration_agrees create_plain [.dequeue a, .present a none none]
  have hsize : (made.trace ++ run.2).taken.getLast?.map BufferRequest.size = some ⟨480, 640⟩ := by
    decide
  have hok : (run.1.dequeue a).result = .ok 0 := by
    simp only [run, a]
    rfl
  refine ⟨⟨_, hlast, ?_, rfl⟩, by decide, hhint a .rot90 0 hok rfl,
    hrefused (.dequeue refusing) (run.1.hintedLayout .rot180).bufferRequest "busy" (by decide)⟩
  have hl := hsize.symm.trans (congrArg (Option.map BufferRequest.size) hlast)
  exact (Option.some.inj hl).symm

end Pool
end Swapchain
