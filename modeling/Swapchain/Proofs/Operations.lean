import Swapchain.Pool.Operation
import Swapchain.Proofs.Table

/-!
# What each operation does

For each operation an inductive relation lists the ways in which it can go: what was answered,
the answer it gives, the pool it leaves and what happened besides the log. The operation goes in
one of these ways (`dequeue_cases`, `present_cases`, `cancel_cases`, `takeFence_cases`,
`draw_cases`, `resize_cases`), and the rest of the theory argues by cases on them.

* `Trace.acts`: what happened besides the log;
* `Pool.plannedSlot?_eq`, `Pool.reuses_eq`: what is planned for a buffer of another size is what is
  found once its layout has been committed, and so `Pool.adopt` stands for the plan;
* `Pool.Forwards`: the fence that goes with a present, and where it is from.
-/

namespace Swapchain

/-! ## Besides the log -/

/-- Whether the event is a log record. -/
def Event.isLog : Event → Bool
  | .log _ => true
  | _ => false

namespace Trace

/-- What happened besides the log. -/
def acts (t : Trace) : Trace := t.filter fun e => !e.isLog

@[simp] theorem acts_nil : acts [] = [] := rfl

@[simp] theorem acts_append (t u : Trace) : acts (t ++ u) = acts t ++ acts u :=
  List.filter_append ..

@[simp] theorem acts_call (c : Call) (t : Trace) : acts (.call c :: t) = .call c :: acts t := rfl

@[simp] theorem acts_duplicated (f : Fence) (t : Trace) :
    acts (.duplicated f :: t) = .duplicated f :: acts t := rfl

@[simp] theorem acts_logged (l : Log.Level) (s : String) : acts (logged l s) = [] := rfl

@[simp] theorem acts_ofRecords (rs : List Log.Record) : acts (ofRecords rs) = [] :=
  List.filter_eq_nil_iff.mpr fun e he => by
    obtain ⟨r, -, rfl⟩ := List.mem_map.mp he
    simp [Event.isLog]

@[simp] theorem acts_closing (f : Option Fence) : acts (closing f) = closing f := by
  cases f <;> rfl

@[simp] theorem calls_nil : calls [] = [] := rfl

@[simp] theorem calls_append (t u : Trace) : calls (t ++ u) = calls t ++ calls u :=
  List.filterMap_append ..

@[simp] theorem calls_map (cs : List Call) : calls (cs.map Event.call) = cs := by
  induction cs with
  | nil => rfl
  | cons c cs ih => exact congrArg (c :: ·) ih

@[simp] theorem calls_call (c : Call) (t : Trace) : calls (.call c :: t) = c :: calls t := rfl

@[simp] theorem calls_taken (f : Fence) (t : Trace) : calls (.taken f :: t) = calls t := rfl

@[simp] theorem calls_closing (f : Option Fence) : calls (closing f) = [] := by
  cases f <;> rfl

/-- The log has no calls. -/
theorem calls_acts (t : Trace) : t.acts.calls = t.calls := by
  induction t with
  | nil => rfl
  | cons e t ih =>
    cases e <;> simp_all [acts, calls, Event.isLog]

end Trace

namespace Outcome

variable {α : Type}

/-- What an operation did besides the log. -/
def acts (o : Outcome α) : Trace := o.trace.acts

@[simp] theorem ok_result (p : Pool) (a : α) (t : Trace) : (ok p a t).result = .ok a := rfl

@[simp] theorem ok_pool (p : Pool) (a : α) (t : Trace) : (ok p a t).pool = p := rfl

@[simp] theorem ok_acts (p : Pool) (a : α) (t : Trace) : (ok p a t).acts = t.acts := rfl

@[simp] theorem error_result (p : Pool) (e : PoolError) (t : Trace) :
    (error p e t : Outcome α).result = .error e := rfl

@[simp] theorem error_pool (p : Pool) (e : PoolError) (t : Trace) :
    (error p e t : Outcome α).pool = p := rfl

@[simp] theorem error_acts (p : Pool) (e : PoolError) (t : Trace) :
    (error p e t : Outcome α).acts = t.acts := rfl

@[simp] theorem after_result (t : Trace) (o : Outcome α) : (o.after t).result = o.result := rfl

@[simp] theorem after_pool (t : Trace) (o : Outcome α) : (o.after t).pool = o.pool := rfl

@[simp] theorem after_acts (t : Trace) (o : Outcome α) : (o.after t).acts = t.acts ++ o.acts :=
  Trace.acts_append ..

end Outcome

namespace Pool

variable {p : Pool}

/-! ## Dequeuing -/

/-- How a transform hint is followed. -/
inductive Follows (a : Answers) (p : Pool) : Except PoolError Unit → Pool → Trace → Prop where
  /-- There is no hint, or none of another transform. -/
  | stays (h : ∀ hint, a.hint = .given hint → hint = p.layout.transform) :
    Follows a p (.ok ()) p [.call (.hint a.hint)]
  | rejected {hint : Transform} {text : String} (hh : a.hint = .given hint)
      (hne : hint ≠ p.layout.transform) (hc : a.configure = .refused text) :
    Follows a p (.error (.configurationRejected text)) p
      [.call (.hint (.given hint)),
        .call (.configure (p.hintedLayout hint).bufferRequest (.refused text))]
  | turned {hint : Transform} (hh : a.hint = .given hint) (hne : hint ≠ p.layout.transform)
      (hc : a.configure = .given ()) :
    Follows a p (.ok ()) (p.underHint (p.hintedLayout hint))
      [.call (.hint (.given hint)),
        .call (.configure (p.hintedLayout hint).bufferRequest (.given ()))]

theorem followHint_cases (a : Answers) (p : Pool) :
    Follows a p (p.followHint a).result (p.followHint a).pool (p.followHint a).acts := by
  unfold followHint
  cases hh : a.hint with
  | refused text => simpa [hh] using Follows.stays (a := a) (p := p) (by simp [hh])
  | given hint =>
    by_cases hne : hint = p.layout.transform
    · subst hne
      simpa [hh] using Follows.stays (a := a) (p := p) (by simp [hh])
    · cases hc : a.configure with
      | refused text => simpa [hne, pushLayout] using Follows.rejected hh hne hc
      | given u => simpa [hne, pushLayout] using Follows.turned hh hne hc

/-! ### As if the layout were committed first

What is planned for a buffer is what an ordinary lookup finds in the pool that the plan leads to, if
no slot is dequeued. -/

/-- How buffers of this pool are made drawable. -/
def spec (p : Pool) : SurfaceSpec := p.specOf p.layout.physicalSize

/-- Whether slot `i` has a surface of this epoch for a buffer. -/
def caches (p : Pool) (i : Nat) (id : BufferId) : Bool :=
  (p.slots.get? i).any fun s => s.bufferId == some id && s.surface.isSome && s.epoch == p.epoch

/-- The surface that the GPU makes of a buffer for this pool. -/
def wrapped (p : Pool) (b : Buffer) (serial : Nat) : Surface := surfaceOf b p.spec serial

/-- The pool in which buffers have the size of `b`. -/
def adopt (b : Buffer) (p : Pool) : Except AcquisitionFault Pool :=
  (p.planResize b).map fun resized => p.commit resized

section Plan

variable {b : Buffer} {id : BufferId} {resized : Option Layout} {i : Nat}

theorem planResize_cases (h : p.planResize b = .ok resized) :
    b.size = p.layout.physicalSize ∧ resized = none ∨
      b.size ≠ p.layout.physicalSize ∧
        ((p.layoutOf b).resolve smallest p.gpuMax).physicalSize = b.size ∧
        resized = some ((p.layoutOf b).resolve smallest p.gpuMax) := by
  unfold planResize at h
  split at h
  · rename_i hb
    cases h
    exact .inl ⟨hb, rfl⟩
  · rename_i hb
    dsimp only at h
    split at h
    · rename_i hl
      cases h
      exact .inr ⟨hb, hl, rfl⟩
    · cases h

/-- A size is refused if the bounds of the GPU change it. -/
theorem planResize_eq_error {fault : AcquisitionFault} (h : p.planResize b = .error fault) :
    fault = .unusableSize b.id b.size ∧
      ((p.layoutOf b).resolve smallest p.gpuMax).physicalSize ≠ b.size := by
  unfold planResize at h
  split at h
  · cases h
  · dsimp only at h
    split at h
    · cases h
    · rename_i hne
      cases h
      exact ⟨rfl, hne⟩

/-- The pool in which a buffer is placed: the same one, or an emptied one of the buffer's size. -/
theorem adopt_cases {q : Pool} (h : p.adopt b = .ok q) :
    b.size = p.layout.physicalSize ∧ q = p ∨
      b.size ≠ p.layout.physicalSize ∧
        ((p.layoutOf b).resolve smallest p.gpuMax).physicalSize = b.size ∧
        q = (p.beginEpoch ((p.layoutOf b).resolve smallest p.gpuMax)).releaseIdle := by
  rw [adopt] at h
  cases hr : p.planResize b with
  | error fault =>
    rw [hr] at h
    cases h
  | ok resized =>
    rw [hr] at h
    cases h
    rcases planResize_cases hr with ⟨hb, rfl⟩ | ⟨hb, hl, rfl⟩
    · exact .inl ⟨hb, rfl⟩
    · exact .inr ⟨hb, hl, rfl⟩

theorem adopt_eq_error {fault : AcquisitionFault} (h : p.adopt b = .error fault) :
    fault = .unusableSize b.id b.size ∧
      ((p.layoutOf b).resolve smallest p.gpuMax).physicalSize ≠ b.size := by
  rw [adopt] at h
  cases hr : p.planResize b with
  | ok resized =>
    rw [hr] at h
    cases h
  | error fault' =>
    rw [hr] at h
    cases h
    exact planResize_eq_error hr

theorem plannedEpoch_eq (resized : Option Layout) (p : Pool) :
    p.plannedEpoch resized = (p.commit resized).epoch := by
  cases resized <;> rfl

/-- The usage is the one of the old layout. -/
theorem specOf_plannedSize (h : p.planResize b = .ok resized) :
    p.specOf (p.plannedSize resized) = (p.commit resized).spec := by
  rcases planResize_cases h with ⟨-, rfl⟩ | ⟨-, -, rfl⟩ <;> rfl

theorem slots_commit (hidle : p.slots.Idle) (l : Layout) :
    (p.commit (some l)).slots = .ofCapacity p.slots.capacity :=
  hidle.releaseIdle_eq

theorem idle_commit (hidle : p.slots.Idle) (resized : Option Layout) :
    (p.commit resized).slots.Idle := by
  cases resized with
  | none => exact hidle
  | some l => exact hidle.releaseIdle

/-- The first slot is where a buffer goes once every slot is free. -/
theorem plannedSlot?_eq (hidle : p.slots.Idle) (resized : Option Layout) (id : BufferId) :
    p.plannedSlot? resized id = (p.commit resized).slots.placeFor? id := by
  cases resized with
  | none =>
    show (p.slots.placeFor? id).filter _ = p.slots.placeFor? id
    cases hi : p.slots.placeFor? id with
    | none => rfl
    | some i =>
      obtain ⟨s, hs⟩ := SlotTable.get?_placeFor? hi
      simp [SlotTable.lt_capacity hs]
  | some l =>
    have hfirst : p.plannedSlot? (some l) id = (some 0).filter (· < p.slots.capacity) := rfl
    rw [hfirst, slots_commit hidle, SlotTable.placeFor?_ofCapacity, Option.filter_some]
    simp only [decide_eq_true_eq]

/-- A table in which every slot is free has no surface. -/
theorem reuses_eq (hidle : p.slots.Idle) (resized : Option Layout) (i : Nat) (id : BufferId) :
    p.reuses resized i id = (p.commit resized).caches i id := by
  cases resized with
  | none => rfl
  | some l =>
    have hnone : p.reuses (some l) i id = false := rfl
    rw [hnone, caches, slots_commit hidle, SlotTable.get?_ofCapacity]
    split <;> rfl

end Plan

/-- How a buffer is acquired from the window once the hint has been followed. -/
inductive Acquires (a : Answers) (p : Pool) : Except PoolError Nat → Pool → Trace → Prop where
  | refused {text : String} (hd : a.dequeue = .refused text) :
    Acquires a p (.error (.acquisitionFailed (.window text))) p [.call (.dequeue (.refused text))]
  /-- The GPU cannot draw to buffers of this size. -/
  | unusable {b : Buffer} {f : Option Fence} {fault : AcquisitionFault}
      (hd : a.dequeue = .given (b, f)) (ha : p.adopt b = .error fault) :
    Acquires a p (.error (.acquisitionFailed fault)) p
      [.call (.dequeue (.given (b, f))), .call (.cancel b f a.cancel)]
  | homeless {b : Buffer} {f : Option Fence} {q : Pool} (hd : a.dequeue = .given (b, f))
      (ha : p.adopt b = .ok q) (hi : q.slots.placeFor? b.id = none) :
    Acquires a p (.error (.acquisitionFailed (.noSlot b.id))) p
      [.call (.dequeue (.given (b, f))), .call (.cancel b f a.cancel)]
  /-- The slot has a surface for the buffer. -/
  | cached {b : Buffer} {f : Option Fence} {q : Pool} {i : Nat} (hd : a.dequeue = .given (b, f))
      (ha : p.adopt b = .ok q) (hi : q.slots.placeFor? b.id = some i)
      (hc : q.caches i b.id = true) :
    Acquires a p (.ok i) (q.takeInto i (·.renew b) f) [.call (.dequeue (.given (b, f)))]
  | unwrapped {b : Buffer} {f : Option Fence} {q : Pool} {i : Nat} {text : String}
      (hd : a.dequeue = .given (b, f)) (ha : p.adopt b = .ok q)
      (hi : q.slots.placeFor? b.id = some i) (hc : q.caches i b.id = false)
      (hw : a.wrap = .refused text) :
    Acquires a p (.error (.wrapFailed b.id q.spec.size text)) p
      [.call (.dequeue (.given (b, f))), .call (.wrap b q.spec (.refused text)),
        .call (.cancel b f a.cancel)]
  | wrapped {b : Buffer} {f : Option Fence} {q : Pool} {i serial : Nat}
      (hd : a.dequeue = .given (b, f)) (ha : p.adopt b = .ok q)
      (hi : q.slots.placeFor? b.id = some i) (hc : q.caches i b.id = false)
      (hw : a.wrap = .given serial) :
    Acquires a p (.ok i) (q.takeInto i (·.hold b (q.wrapped b serial) q.epoch) f)
      [.call (.dequeue (.given (b, f))), .call (.wrap b q.spec (.given serial))]

/-- What it takes for a slot to have a surface of this epoch for a buffer. -/
theorem caches_iff {i : Nat} {id : BufferId} : p.caches i id = true ↔
    ∃ s, p.slots.get? i = some s ∧ s.bufferId = some id ∧ s.surface.isSome = true ∧
      s.epoch = p.epoch := by
  simp [caches, Option.any_eq_true, and_assoc]

theorem giveBack_result (a : Answers) (b : Buffer) (f : Option Fence) (p : Pool) (e : PoolError) :
    (p.giveBack a b f e).result = .error e := by
  unfold giveBack; split <;> rfl

theorem giveBack_pool (a : Answers) (b : Buffer) (f : Option Fence) (p : Pool) (e : PoolError) :
    (p.giveBack a b f e).pool = p := by
  unfold giveBack; split <;> rfl

theorem giveBack_acts (a : Answers) (b : Buffer) (f : Option Fence) (p : Pool) (e : PoolError) :
    (p.giveBack a b f e).acts = [.call (.cancel b f a.cancel)] := by
  unfold giveBack; split <;> simp

@[simp] theorem acts_commitTrace (resized : Option Layout) (p : Pool) :
    (p.commitTrace resized).acts = [] := by
  cases resized <;> rfl

theorem acquire_cases (a : Answers) (hidle : p.slots.Idle) :
    Acquires a p (p.acquire a).result (p.acquire a).pool (p.acquire a).acts := by
  unfold acquire
  cases hd : a.dequeue with
  | refused text => exact .refused hd
  | given bf =>
    obtain ⟨b, f⟩ := bf
    simp only [place, Outcome.after_result, Outcome.after_pool, Outcome.after_acts,
      Trace.acts_logged, Trace.acts_ofRecords, Trace.acts_call, List.nil_append,
      List.singleton_append]
    cases hr : p.planResize b with
    | error fault =>
      have ha : p.adopt b = .error fault := by rw [adopt, hr, Except.map]
      simp only [giveBack_result, giveBack_pool, giveBack_acts]
      exact .unusable hd ha
    | ok resized =>
      have ha : p.adopt b = .ok (p.commit resized) := by rw [adopt, hr, Except.map]
      simp only [plannedSlot?_eq hidle]
      cases hi : (p.commit resized).slots.placeFor? b.id with
      | none =>
        simp only [giveBack_result, giveBack_pool, giveBack_acts]
        exact .homeless hd ha hi
      | some i =>
        simp only [fill, reuses_eq hidle, specOf_plannedSize hr, plannedEpoch_eq]
        cases hc : (p.commit resized).caches i b.id with
        | true => simpa [hc] using Acquires.cached hd ha hi hc
        | false =>
          cases hw : a.wrap with
          | refused text =>
            simpa [hc, hw, giveBack_result, giveBack_pool, giveBack_acts] using
              Acquires.unwrapped hd ha hi hc hw
          | given serial => simpa [hc, hw, wrapped] using Acquires.wrapped hd ha hi hc hw

/-- How a dequeue goes. -/
inductive Dequeues (a : Answers) (p : Pool) : Except PoolError Nat → Pool → Trace → Prop where
  | busy {id : BufferId} (hc : p.currentId = some id) :
    Dequeues a p (.error (.bufferDequeued id)) p []
  | rejected {e : PoolError} {q : Pool} {t : Trace} (hc : p.currentId = none)
      (hf : Follows a p (.error e) q t) : Dequeues a p (.error e) q t
  | acquires {q r : Pool} {o : Except PoolError Nat} {t u : Trace} (hc : p.currentId = none)
      (hf : Follows a p (.ok ()) q t) (hq : Acquires a q o r u) : Dequeues a p o r (t ++ u)

/-- Following a hint leaves an idle table idle. -/
theorem Follows.idle {a : Answers} {r : Except PoolError Unit} {q : Pool} {t : Trace}
    (hf : Follows a p r q t) (hidle : p.slots.Idle) : q.slots.Idle := by
  cases hf with
  | stays | rejected => exact hidle
  | turned =>
    unfold underHint
    dsimp only
    split
    · exact hidle
    · exact hidle.releaseIdle

theorem dequeue_cases (a : Answers) (hidle : p.currentId = none → p.slots.Idle) :
    Dequeues a p (p.dequeue a).result (p.dequeue a).pool (p.dequeue a).acts := by
  unfold dequeue
  cases hc : p.currentId with
  | some id => exact .busy hc
  | none =>
    have hf := followHint_cases a p
    simp only [Outcome.andThen]
    cases hr : (p.followHint a).result with
    | error e =>
      rw [hr] at hf
      exact .rejected hc hf
    | ok u =>
      rw [hr] at hf
      simp only [Outcome.after_result, Outcome.after_pool, Outcome.after_acts]
      exact .acquires hc hf (acquire_cases a (hf.idle (hidle hc)))

/-! ## Presenting and cancelling -/

/-- The fence that goes with a present: the completion fence, else a second descriptor of the
fence that is still held, which has to be made, else none. -/
inductive Forwards : (held completion fence : Option Fence) → Trace → Prop where
  | completion (held : Option Fence) (f : Fence) : Forwards held (some f) (some f) []
  | duplicate (f : Fence) : Forwards (some f) none (some f.duplicate) [.duplicated f]
  | bare : Forwards none none none []

theorem Forwards.fence_eq {held completion fence : Option Fence} {t : Trace}
    (h : Forwards held completion fence t) :
    fence = (completion <|> held.map Fence.duplicate) := by
  cases h <;> rfl

theorem forwards {a : Answers} {held completion fence : Option Fence} {t : Trace}
    (h : forwarded a held completion = .given (fence, t)) : Forwards held completion fence t := by
  unfold forwarded at h
  split at h
  · cases h; exact .completion ..
  · cases h; exact .bare
  · split at h <;> cases h
    exact .duplicate _

/-- No fence can be forwarded only if the held one cannot be duplicated. -/
theorem forwarded_refused {a : Answers} {held completion : Option Fence} {text : String}
    (h : forwarded a held completion = .refused text) :
    completion = none ∧ held.isSome ∧ a.duplicate = .refused text := by
  unfold forwarded at h
  split at h
  · cases h
  · cases h
  · split at h <;> cases h
    exact ⟨rfl, rfl, by assumption⟩

/-- How a present goes. -/
inductive Presents (a : Answers) (dirty : Option Rect) (completion : Option Fence) (p : Pool) :
    Except PoolError Unit → Pool → Trace → Prop where
  | nothing (hc : p.current? = none) :
    Presents a dirty completion p (.error .noCurrentBuffer) p (.closing completion)
  | unforwarded {c : Current} {text : String} (hc : p.current? = some c)
      (hf : forwarded a c.slot.fence completion = .refused text) :
    Presents a dirty completion p (.error (.presentFailed c.buffer.id text)) p []
  | refused {c : Current} {fence : Option Fence} {t : Trace} {text : String}
      (hc : p.current? = some c) (hf : Forwards c.slot.fence completion fence t)
      (hq : a.queue = .refused text) :
    Presents a dirty completion p (.error (.presentFailed c.buffer.id text)) p
      (t ++ [.call (.queue c.buffer fence (dirty.bind (Region.ofRect? · p.layout.physicalSize))
        (.refused text))])
  | shown {c : Current} {fence : Option Fence} {t : Trace} (hc : p.current? = some c)
      (hf : Forwards c.slot.fence completion fence t) (hq : a.queue = .given ()) :
    Presents a dirty completion p (.ok ()) (p.presented c.index)
      (t ++ .call (.queue c.buffer fence (dirty.bind (Region.ofRect? · p.layout.physicalSize))
        (.given ())) :: Trace.closing c.slot.fence)

@[simp] theorem Forwards.acts_eq {held completion fence : Option Fence} {t : Trace}
    (h : Forwards held completion fence t) : t.acts = t := by
  cases h <;> rfl

theorem Forwards.calls_eq {held completion fence : Option Fence} {t : Trace}
    (h : Forwards held completion fence t) : t.calls = [] := by
  cases h <;> rfl

theorem present_cases (a : Answers) (dirty : Option Rect) (completion : Option Fence) (p : Pool) :
    Presents a dirty completion p (p.present a dirty completion).result
      (p.present a dirty completion).pool (p.present a dirty completion).acts := by
  unfold present
  cases hc : p.current? with
  | none => simpa using (.nothing hc : Presents a dirty completion p _ _ _)
  | some c =>
    cases hf : forwarded a c.slot.fence completion with
    | refused text =>
      simpa [hf] using (.unforwarded hc hf : Presents a dirty completion p _ _ _)
    | given ft =>
      obtain ⟨fence, t⟩ := ft
      have hfw := forwards hf
      cases hq : a.queue with
      | refused text =>
        simpa [hf, queue, hq, hfw.acts_eq] using
          (.refused hc hfw hq : Presents a dirty completion p _ _ _)
      | given u =>
        simpa [hf, queue, hq, hfw.acts_eq] using
          (.shown hc hfw hq : Presents a dirty completion p _ _ _)

/-- The pool after the current slot has been given back unused. -/
def cancelled (i : Nat) (p : Pool) : Pool :=
  { p with slots := p.slots.modify i Slot.finish, current := none }

/-- How a cancel goes. -/
inductive Cancels (a : Answers) (p : Pool) : Except PoolError Unit → Pool → Trace → Prop where
  | nothing (hc : p.current? = none) : Cancels a p (.error .noCurrentBuffer) p []
  | returned {c : Current} (hc : p.current? = some c) (ha : a.cancel = .given ()) :
    Cancels a p (.ok ()) (p.cancelled c.index) [.call (.cancel c.buffer c.slot.fence (.given ()))]
  | disowned {c : Current} {text : String} (hc : p.current? = some c)
      (ha : a.cancel = .refused text) :
    Cancels a p (.error (.cancelFailed c.buffer.id text)) (p.cancelled c.index)
      [.call (.cancel c.buffer c.slot.fence (.refused text))]

theorem cancel_cases (a : Answers) (p : Pool) :
    Cancels a p (p.cancel a).result (p.cancel a).pool (p.cancel a).acts := by
  unfold cancel
  cases hc : p.current? with
  | none => exact .nothing hc
  | some c =>
    cases ha : a.cancel with
    | given u => exact .returned hc ha
    | refused text => exact .disowned hc ha

theorem Cancels.of_current? {a : Answers} {q : Pool} {t : Trace} {r : Except PoolError Unit}
    (hca : Cancels a p r q t) {c : Current} (hc : p.current? = some c) :
    q = p.cancelled c.index ∧ t = [.call (.cancel c.buffer c.slot.fence a.cancel)] := by
  cases hca with
  | nothing hn => cases hc.symm.trans hn
  | returned hc' ha | disowned hc' ha =>
    cases hc.symm.trans hc'
    rw [ha]
    exact ⟨rfl, rfl⟩

theorem Cancels.noCurrentBuffer_iff {a : Answers} {q : Pool} {t : Trace}
    {r : Except PoolError Unit} (hca : Cancels a p r q t) :
    r = .error .noCurrentBuffer ↔ p.current? = none := by
  cases hca with
  | nothing hc => exact iff_of_true rfl hc
  | returned hc | disowned hc => exact iff_of_false nofun (by simp [hc])

/-! ## The current slot -/

/-- How a caller changes the current slot by `f`, which gives up `gives`. -/
inductive Changes (f : Slot → Slot) (gives : Slot → Trace) (p : Pool) : Pool → Trace → Prop where
  | nothing (hc : p.current? = none) : Changes f gives p p []
  | changed {c : Current} (hc : p.current? = some c) :
    Changes f gives p { p with slots := p.slots.modify c.index f } (gives c.slot)

theorem Changes.of_current? {f : Slot → Slot} {gives : Slot → Trace} {q : Pool} {t : Trace}
    (hch : Changes f gives p q t) {c : Current} (hc : p.current? = some c) :
    q = { p with slots := p.slots.modify c.index f } ∧ t = gives c.slot := by
  cases hch with
  | nothing hn => cases hc.symm.trans hn
  | changed hc' =>
    cases hc.symm.trans hc'
    exact ⟨rfl, rfl⟩

theorem takeFence_cases (p : Pool) :
    Changes Slot.takeFence (fun s => s.fence.toList.map .taken) p p.takeFence.pool
      p.takeFence.acts := by
  unfold takeFence
  cases hc : p.current? with
  | none => exact .nothing hc
  | some c =>
    have ht : Trace.acts (c.slot.fence.toList.map .taken) = c.slot.fence.toList.map .taken := by
      cases c.slot.fence <;> rfl
    rw [Outcome.ok_acts, ht]
    exact .changed hc

theorem draw_cases (p : Pool) : Changes Slot.draw (fun _ => []) p p.draw.pool p.draw.acts := by
  unfold draw
  cases hc : p.current? with
  | none => exact .nothing hc
  | some c => exact .changed hc

/-! ## Resizing and releasing -/

/-- How a resize goes. -/
inductive Resizes (a : Answers) (size : Extent) (p : Pool) :
    Except PoolError Unit → Pool → Trace → Prop where
  | busy {id : BufferId} (hc : p.currentId = some id) :
    Resizes a size p (.error (.bufferDequeued id)) p []
  | degenerate (hc : p.currentId = none)
      (he : (p.resizedLayout size).physicalSize.isEmpty = true) :
    Resizes a size p (.error (.degenerateSize (p.resizedLayout size).logicalSize)) p []
  | rejected {text : String} (hc : p.currentId = none)
      (he : (p.resizedLayout size).physicalSize.isEmpty = false)
      (ha : a.configure = .refused text) :
    Resizes a size p (.error (.configurationRejected text)) p
      [.call (.configure (p.resizedLayout size).bufferRequest (.refused text))]
  | resized (hc : p.currentId = none) (he : (p.resizedLayout size).physicalSize.isEmpty = false)
      (ha : a.configure = .given ()) :
    Resizes a size p (.ok ()) (p.beginEpoch (p.resizedLayout size)).releaseIdle
      [.call (.configure (p.resizedLayout size).bufferRequest (.given ()))]

theorem resize_cases (a : Answers) (size : Extent) (p : Pool) :
    Resizes a size p (p.resize a size).result (p.resize a size).pool (p.resize a size).acts := by
  unfold resize
  cases hc : p.currentId with
  | some id => exact .busy hc
  | none =>
    cases he : (p.resizedLayout size).physicalSize.isEmpty with
    | true => simpa [he] using Resizes.degenerate (a := a) hc he
    | false =>
      cases ha : a.configure with
      | refused text => simpa [he, pushLayout] using Resizes.rejected hc he ha
      | given u => simpa [he, pushLayout] using Resizes.resized hc he ha

/-- What a slot gives up besides the log when its pool is released. -/
theorem acts_disposal (a : Answers) (s : Slot) :
    (disposal a s).acts = match s.dequeued, s.buffer with
      | true, some b => [.call (.cancel b s.fence a.cancel)]
      | _, _ => .closing s.fence := by
  unfold disposal
  cases s.dequeued with
  | false => simp
  | true =>
    cases s.buffer with
    | none => simp
    | some b => cases a.cancel <;> simp

theorem acts_release (a : Answers) (p : Pool) :
    (p.release a).acts = p.slots.slots.flatMap fun s => (disposal a s).acts :=
  List.filter_flatMap ..

end Pool
end Swapchain
