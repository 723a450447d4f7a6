import Swapchain.Proofs.Consistency

/-!
# What a pool has in hand

Between two operations a pool has at most one buffer in hand, with its fence unless somebody has
taken it. `Passage` lists what can happen between what is in hand before an operation and after
it, besides the log; `passage_perform` is the one place where this is read off the operations.
That buffers are handed off one at a time and that no fence is lost follows from it by induction
over a run.

* `Pool.held`: what is in hand;
* `Trace.lent`: what the window has handed out and not had back, by the trace alone;
* `Pool.held_performAll`, `Pool.lent_performAll`: a run leaves in hand what its trace says.
-/

namespace Swapchain

/-- A buffer that is dequeued, and its fence unless somebody has taken it. -/
structure Held where
  buffer : Buffer
  fence : Option Fence
  deriving DecidableEq, Repr

/-- What the window has handed out and not had back, one event later. A buffer that is cancelled
is back whatever the window answers; one that is queued only if the window takes it. -/
def Event.lend (h : Option Held) : Event → Option Held
  | .call (.dequeue (.given (b, f))) => some ⟨b, f⟩
  | .call (.queue _ _ _ (.given ())) | .call (.cancel _ _ _) => none
  | .taken _ => h.map fun x => { x with fence := none }
  | _ => h

/-- What the window has handed out and not had back. -/
def Trace.lent (t : Trace) : Option Held := t.foldl Event.lend none

/-- A call that moves no buffer. -/
def Call.isTalk : Call → Bool
  | .query _ | .hint _ | .supportedUsage _ _ | .configure _ _ | .dequeue (.refused _) => true
  | .dequeue (.given _) | .queue _ _ _ _ | .cancel _ _ _ | .wrap _ _ _ => false

/-- A call that makes buffer `b` drawable, or tries to. -/
def Call.Wraps (b : Buffer) : Call → Prop
  | .wrap c _ _ => c = b
  | _ => False

theorem Call.wraps_iff {b : Buffer} {c : Call} : c.Wraps b ↔ ∃ spec x, c = .wrap b spec x := by
  cases c <;> simp [Wraps]

theorem Call.lend_of_isTalk {c : Call} (hc : c.isTalk = true) (h : Option Held) :
    (Event.call c).lend h = h := by
  cases c with
  | dequeue x =>
    cases x with
    | given => cases hc
    | refused => rfl
  | queue | cancel | wrap => cases hc
  | query | hint | supportedUsage | configure => rfl

/-- The completion fence that is handed in with an operation. -/
def Operation.completion : Operation → Option Fence
  | .present _ _ c => c
  | _ => none

namespace Pool

variable {p q : Pool} {a : Answers} {t : Trace}

/-- What the pool has in hand. -/
def held (p : Pool) : Option Held := p.current?.map fun c => ⟨c.buffer, c.slot.fence⟩

/-- Whether an operation is a present that succeeds. -/
def shows (p : Pool) : Operation → Bool
  | .present a dirty completion => (p.present a dirty completion).result.isOk
  | _ => false

/-- What can happen between what is in hand before an operation and after it: with the
completion fence handed in, and whether the operation is a present that succeeds. -/
inductive Passage : Option Held → Option Fence → Bool → Trace → Option Held → Prop where
  | still (h : Option Held) : Passage h none false [] h
  /-- A completion fence comes while there is nothing to present. -/
  | unused (c : Option Fence) : Passage none c false (.closing c) none
  | talk {cs : List Call} (hcs : ∀ c ∈ cs, c.isTalk = true) :
    Passage none none false (cs.map Event.call) none
  /-- A buffer is handed out and given back at once. -/
  | bounced {cs : List Call} (w : List Call) {b : Buffer} {f : Option Fence} {x : Answer Unit}
      (hcs : ∀ c ∈ cs, c.isTalk = true) (hw : ∀ c ∈ w, c.Wraps b) :
    Passage none none false
      ((cs ++ Call.dequeue (.given (b, f)) :: (w ++ [Call.cancel b f x])).map Event.call) none
  | acquired {cs : List Call} (w : List Call) {b : Buffer} {f : Option Fence}
      (hcs : ∀ c ∈ cs, c.isTalk = true) (hw : ∀ c ∈ w, c.Wraps b) :
    Passage none none false ((cs ++ Call.dequeue (.given (b, f)) :: w).map Event.call)
      (some ⟨b, f⟩)
  | taken (b : Buffer) (f : Fence) :
    Passage (some ⟨b, some f⟩) none false [.taken f] (some ⟨b, none⟩)
  | refused {b : Buffer} {h c g : Option Fence} {t : Trace} (d : Option Region) (text : String)
      (hf : Forwards h c g t) :
    Passage (some ⟨b, h⟩) c false (t ++ [.call (.queue b g d (.refused text))]) (some ⟨b, h⟩)
  | shown {b : Buffer} {h c g : Option Fence} {t : Trace} (d : Option Region)
      (hf : Forwards h c g t) :
    Passage (some ⟨b, h⟩) c true (t ++ .call (.queue b g d (.given ())) :: Trace.closing h) none
  | cancelled (b : Buffer) (h : Option Fence) (x : Answer Unit) :
    Passage (some ⟨b, h⟩) none false [.call (.cancel b h x)] none

theorem held_eq_none (h : p.current = none) : p.held = none := by
  simp [held, current?, h]

theorem held_of_current? {c : Current} (h : p.current? = some c) :
    p.held = some ⟨c.buffer, c.slot.fence⟩ := by
  simp [held, h]

theorem held_of_current?_eq_none (h : p.current? = none) : p.held = none := by
  simp [held, h]

/-- A buffer that has been put into its place is in hand, with its fence. -/
theorem held_takeInto {i : Nat} {s : Slot} {b : Buffer} {change : Slot → Slot} {f : Option Fence}
    (hs : p.slots.get? i = some s) (hb : (change s).buffer = some b) :
    (p.takeInto i change f).held = some ⟨b, f⟩ := by
  rw [held_of_current? (current?_takeInto f hs hb)]
  rfl

/-- A change of the current slot that keeps its buffer. -/
theorem held_modify {c : Current} {f : Slot → Slot} (hc : p.current? = some c)
    (hb : (f c.slot).buffer = c.slot.buffer) :
    ({ p with slots := p.slots.modify c.index f } : Pool).held =
      some ⟨c.buffer, (f c.slot).fence⟩ := by
  obtain ⟨hi, hs, hbuf⟩ := current?_eq_some_iff.mp hc
  have : ({ p with slots := p.slots.modify c.index f } : Pool).current? =
      some ⟨c.index, f c.slot, c.buffer⟩ :=
    current?_eq_some_iff.mpr ⟨hi, by simp [hs], hb.trans hbuf⟩
  rw [held_of_current? this]

/-! ## One operation -/

/-- Following a hint is talk. -/
theorem Follows.talk {r : Except PoolError Unit} (hf : Follows a p r q t) :
    ∃ cs : List Call, t = cs.map .call ∧ ∀ c ∈ cs, c.isTalk = true := by
  cases hf with
  | stays => exact ⟨[_], rfl, by simp [Call.isTalk]⟩
  | rejected | turned => exact ⟨[_, _], rfl, by simp [Call.isTalk]⟩

/-- A buffer is acquired after some talk. -/
theorem Acquires.passage {r : Except PoolError Nat} (ha : Acquires a p r q t)
    (hc : p.current = none) {cs : List Call} (hcs : ∀ c ∈ cs, c.isTalk = true) :
    Passage none none false (cs.map .call ++ t) q.held := by
  cases ha with
  | @refused text =>
    have htalk : ∀ c ∈ cs ++ [Call.dequeue (.refused text)], c.isTalk = true := fun c hm => by
      rcases List.mem_append.mp hm with hm | hm
      · exact hcs c hm
      · rw [List.mem_singleton.mp hm]; rfl
    rw [held_eq_none hc]
    simpa using Passage.talk htalk
  | @unusable b f =>
    rw [held_eq_none hc]
    simpa using Passage.bounced [] hcs (List.forall_mem_nil (Call.Wraps b))
  | @homeless b f =>
    rw [held_eq_none hc]
    simpa using Passage.bounced [] hcs (List.forall_mem_nil (Call.Wraps b))
  | @unwrapped b f q' i text =>
    have hw : ∀ c ∈ [Call.wrap b q'.spec (.refused text)], c.Wraps b := by simp [Call.Wraps]
    rw [held_eq_none hc]
    simpa using Passage.bounced _ hcs hw
  | @cached b f q' i _ ha hi =>
    obtain ⟨s, hs⟩ := SlotTable.get?_placeFor? hi
    rw [held_takeInto hs rfl]
    simpa using Passage.acquired [] hcs (List.forall_mem_nil (Call.Wraps b))
  | @wrapped b f q' i serial _ ha hi =>
    have hw : ∀ c ∈ [Call.wrap b q'.spec (.given serial)], c.Wraps b := by simp [Call.Wraps]
    obtain ⟨s, hs⟩ := SlotTable.get?_placeFor? hi
    rw [held_takeInto hs rfl]
    simpa using Passage.acquired _ hcs hw

theorem Dequeues.passage {r : Except PoolError Nat} (hd : Dequeues a p r q t)
    (h : p.Consistent) : Passage p.held none false t q.held := by
  cases hd with
  | busy => exact .still _
  | rejected hc hf =>
    obtain ⟨cs, rfl, hcs⟩ := hf.talk
    have hq := (hf.consistent h (h.current_eq_none hc)).2
    rw [held_eq_none (h.current_eq_none hc), held_eq_none hq]
    exact .talk hcs
  | acquires hc hf ha =>
    obtain ⟨cs, rfl, hcs⟩ := hf.talk
    rw [held_eq_none (h.current_eq_none hc)]
    exact ha.passage (hf.consistent h (h.current_eq_none hc)).2 hcs

theorem Presents.passage {dirty : Option Rect} {completion : Option Fence}
    {r : Except PoolError Unit} (hp : Presents a dirty completion p r q t) :
    Passage p.held completion r.isOk t q.held := by
  cases hp with
  | nothing hc =>
    rw [held_of_current?_eq_none hc]
    exact .unused _
  | unforwarded hc hf =>
    obtain ⟨rfl, -⟩ := forwarded_refused hf
    exact .still _
  | refused hc hf =>
    rw [held_of_current? hc]
    exact .refused _ _ hf
  | shown hc hf =>
    rw [held_of_current? hc, held_eq_none rfl]
    exact .shown _ hf

theorem Cancels.passage {r : Except PoolError Unit} (hp : Cancels a p r q t) :
    Passage p.held none false t q.held := by
  cases hp with
  | nothing => exact .still _
  | returned hc | disowned hc =>
    rw [held_of_current? hc, held_eq_none rfl]
    exact .cancelled ..

theorem Resizes.passage {size : Extent} {r : Except PoolError Unit}
    (hr : Resizes a size p r q t) (h : p.Consistent) : Passage p.held none false t q.held := by
  cases hr with
  | busy | degenerate => exact .still _
  | @rejected text hc =>
    have htalk : ∀ c ∈ [Call.configure (p.resizedLayout size).bufferRequest (.refused text)],
        c.isTalk = true := by simp [Call.isTalk]
    rw [held_eq_none (h.current_eq_none hc)]
    simpa using Passage.talk htalk
  | resized hc =>
    have htalk : ∀ c ∈ [Call.configure (p.resizedLayout size).bufferRequest (.given ())],
        c.isTalk = true := by simp [Call.isTalk]
    have hq : ((p.beginEpoch (p.resizedLayout size)).releaseIdle).held = none :=
      held_eq_none (h.current_eq_none hc)
    rw [held_eq_none (h.current_eq_none hc), hq]
    simpa using Passage.talk htalk

/-- An idle slot has nothing to give up when its pool is released. -/
theorem disposal_of_idle {s : Slot} (hs : s.Whole) (hd : s.dequeued = false) (a : Answers) :
    disposal a s = [] := by
  rw [disposal, hd, hs.fence_eq_none hd]
  rfl

/-- Releasing a pool is up to the current slot. -/
theorem Consistent.trace_release (h : p.Consistent) (a : Answers) :
    (p.release a).trace = (p.current?.map fun c => disposal a c.slot).getD [] :=
  h.flatMap_slots fun _ hs hd => disposal_of_idle hs hd a

/-- Releasing a pool cancels the buffer in hand and does nothing else besides the log. -/
theorem Consistent.cancel_release (h : p.Consistent) {c : Current} (hc : p.current? = some c)
    (a : Answers) : (p.release a).acts = [.call (.cancel c.buffer c.slot.fence a.cancel)] := by
  rw [Outcome.acts, h.trace_release, hc, Option.map_some, Option.getD_some, acts_disposal,
    h.dequeued hc, (current?_eq_some_iff.mp hc).2.2]

theorem passage_release (a : Answers) (h : p.Consistent) :
    Passage p.held none false (p.release a).acts (p.release a).pool.held := by
  rw [held_eq_none (p := (p.release a).pool) rfl]
  cases hc : p.current? with
  | none =>
    rw [held_of_current?_eq_none hc, Outcome.acts, h.trace_release, hc]
    exact .still _
  | some c =>
    rw [held_of_current? hc, h.cancel_release hc]
    exact .cancelled ..

/-- A caller's change of the current slot, by what it does to the fence. -/
theorem Changes.passage {f : Slot → Slot} {gives : Slot → Trace} (hp : Changes f gives p q t)
    (hb : ∀ s, (f s).buffer = s.buffer)
    (hf : ∀ b s, Passage (some ⟨b, s.fence⟩) none false (gives s) (some ⟨b, (f s).fence⟩)) :
    Passage p.held none false t q.held := by
  cases hp with
  | nothing => exact .still _
  | @changed c hc =>
    rw [held_of_current? hc, held_modify hc (hb c.slot)]
    exact hf c.buffer c.slot

/-- Taking the fence of a slot takes nothing if it is gone. -/
theorem passage_taken (b : Buffer) (f : Option Fence) :
    Passage (some ⟨b, f⟩) none false (f.toList.map .taken) (some ⟨b, none⟩) := by
  cases f with
  | none => exact .still _
  | some f => exact .taken b f

/-- What can happen in any operation. -/
theorem passage_perform (h : p.Consistent) (o : Operation) :
    Passage p.held o.completion (p.shows o) (p.perform o).acts (p.perform o).pool.held := by
  cases o with
  | dequeue a => exact (dequeue_cases a h.rests).passage h
  | present a dirty completion => exact (present_cases a dirty completion p).passage
  | cancel a => exact (cancel_cases a p).passage
  | resize a size => exact (resize_cases a size p).passage h
  | release a => exact passage_release a h
  | takeFence => exact (takeFence_cases p).passage (fun _ => rfl) fun b s => passage_taken b s.fence
  | draw => exact (draw_cases p).passage (fun _ => rfl) fun b s => .still _

/-! ## A whole run -/

theorem foldl_lend_acts (h : Option Held) (t : Trace) :
    t.acts.foldl Event.lend h = t.foldl Event.lend h := by
  induction t generalizing h with
  | nil => rfl
  | cons e t ih =>
    cases e with
    | log r => exact ih h
    | call | duplicated | closed | taken => exact ih _

/-- Calls that move no buffer leave what the window has handed out. -/
theorem foldl_lend_eq {t : Trace} {h : Option Held} (ht : ∀ e ∈ t, e.lend h = h) :
    t.foldl Event.lend h = h := by
  induction t with
  | nil => rfl
  | cons e t ih =>
    rw [List.foldl_cons, ht e List.mem_cons_self]
    exact ih fun e he => ht e (List.mem_cons_of_mem _ he)

theorem foldl_lend_talk {cs : List Call} (hcs : ∀ c ∈ cs, c.isTalk = true) (h : Option Held) :
    (cs.map Event.call).foldl Event.lend h = h :=
  foldl_lend_eq fun e he => by
    obtain ⟨c, hc, rfl⟩ := List.mem_map.mp he
    exact Call.lend_of_isTalk (hcs c hc) h

theorem foldl_lend_wraps {cs : List Call} {b : Buffer} (hcs : ∀ c ∈ cs, c.Wraps b)
    (h : Option Held) : (cs.map Event.call).foldl Event.lend h = h :=
  foldl_lend_eq fun e he => by
    obtain ⟨c, hc, rfl⟩ := List.mem_map.mp he
    obtain ⟨spec, x, rfl⟩ := Call.wraps_iff.mp (hcs c hc)
    rfl

/-- What is in hand changes as the trace says. -/
theorem Passage.lend {h k : Option Held} {c : Option Fence} {s : Bool}
    (hp : Passage h c s t k) : t.foldl Event.lend h = k := by
  cases hp with
  | still | taken | cancelled => rfl
  | unused => cases c <;> rfl
  | talk hcs => exact foldl_lend_talk hcs none
  | bounced w hcs hw | acquired w hcs hw =>
    simp [foldl_lend_talk hcs, foldl_lend_wraps hw, Event.lend]
  | refused d text hf => cases hf <;> rfl
  | @shown b h _ _ _ d hf => cases h <;> cases hf <;> rfl

/-- A new pool has nothing in hand. -/
theorem held_create {query : Answer WindowProfile} {gpu : GpuLimits} {configured : Answer Unit}
    {color : ColorSetup} {settings : Settings}
    (h : (create query gpu configured color settings).result = .ok p) : p.held = none := by
  obtain ⟨m, dataspace, requested, -, -, -, -, rfl, -⟩ := create_eq_ok h
  exact held_eq_none rfl

/-- A pool that has been released at last has nothing in hand. -/
theorem held_released (os : List Operation) (last : Answers) :
    (p.performAll (os ++ [.release last])).1.held = none := by
  rw [performAll_append]
  exact held_eq_none rfl

/-- A run leaves in hand what it found there, changed as its trace says. -/
theorem held_performAll (h : p.Consistent) (os : List Operation) :
    (p.performAll os).2.foldl Event.lend p.held = (p.performAll os).1.held := by
  induction os generalizing p with
  | nil => rfl
  | cons o os ih =>
    have ho := (passage_perform h o).lend
    rw [Outcome.acts, foldl_lend_acts] at ho
    rw [performAll_cons, List.foldl_append, ho]
    exact ih (consistent_perform h o)

/-- A run leaves in hand what the window has handed out in it and not had back. -/
theorem lent_performAll {query : Answer WindowProfile} {gpu : GpuLimits}
    {configured : Answer Unit} {color : ColorSetup} {settings : Settings}
    (h : (create query gpu configured color settings).result = .ok p) (os : List Operation) :
    (p.performAll os).2.lent = (p.performAll os).1.held := by
  rw [← held_performAll (consistent_create h) os, held_create h, Trace.lent]

end Pool
end Swapchain
