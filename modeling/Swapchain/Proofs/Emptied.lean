import Swapchain.Proofs.Consistency
import Swapchain.Proofs.Renumbering

/-!
# Emptied pools

A pool that is idle and has no buffers is as good as new: two of them that have been set up alike
differ in the numbers of their presents and epochs only, and no operation tells the difference.
`Pool.Shifted` is a bisimulation, with one lemma for each function: `Pool.Shifted.perform` is its
step and `Pool.Shifted.performAll` its run. Only the log tells the number of a present.

* `Pool.replies`: what a list of operations answers;
* `Pool.Emptied.shifted`: how the bisimulation starts;
* `Pool.emptied_pools_agree`: what becomes of two such pools.
-/

namespace Swapchain

variable {k e : Int}

/-! ## The pool and what it answers -/

/-- The same slot is current, in two tables. -/
inductive Current.Shifted (k e : Int) (c : Current) : Current → Prop where
  | renumbered {s : Slot} (hs : c.slot.Shifted k e s) : Shifted k e c { c with slot := s }

/-- The pool with its presents counted from `k` later and its epochs from `e` later. -/
inductive Pool.Shifted (k e : Int) (p : Pool) : Pool → Prop where
  | renumbered {t : SlotTable} {presents epoch : Nat} (hs : p.slots.Shifted k e t)
      (hk : (presents : Int) = p.presents + k) (he : (epoch : Int) = p.epoch + e) :
    Shifted k e p { p with slots := t, presents, epoch }

/-- The same answer and the same events besides the log, with pools that differ in their numbers. -/
structure Outcome.Shifted {α : Type} (k e : Int) (o o' : Outcome α) : Prop where
  result : o'.result = o.result
  acts : o'.acts = o.acts
  pool : o.pool.Shifted k e o'.pool

namespace Outcome.Shifted

variable {α β : Type} {p q : Pool} {o o' : Outcome α} {t u : Trace}

theorem ok (h : p.Shifted k e q) (a : α) (ht : u.acts = t.acts) :
    (Outcome.ok p a t).Shifted k e (.ok q a u) := ⟨rfl, ht, h⟩

theorem error (h : p.Shifted k e q) (x : PoolError) (ht : u.acts = t.acts) :
    (Outcome.error p x t : Outcome α).Shifted k e (.error q x u) := ⟨rfl, ht, h⟩

theorem after (h : o.Shifted k e o') (ht : u.acts = t.acts) :
    (o.after t).Shifted k e (o'.after u) :=
  ⟨h.result, by rw [after_acts, after_acts, ht, h.acts], h.pool⟩

theorem andThen (h : o.Shifted k e o') {f : α → Pool → Outcome β}
    (hf : ∀ a p q, p.Shifted k e q → (f a p).Shifted k e (f a q)) :
    (o.andThen f).Shifted k e (o'.andThen f) := by
  unfold Outcome.andThen
  rw [h.result]
  split
  · exact (hf _ _ _ h.pool).after h.acts
  · exact ⟨rfl, h.acts, h.pool⟩

theorem map (h : o.Shifted k e o') (f : α → β) : (o.map f).Shifted k e (o'.map f) :=
  ⟨congrArg (Except.map f) h.result, h.acts, h.pool⟩

end Outcome.Shifted

namespace Pool

variable {p q : Pool}

/-- What each of a list of operations answers. -/
def replies (p : Pool) : List Operation → List (Except PoolError Reply)
  | [] => []
  | o :: os => (p.perform o).result :: (p.perform o).pool.replies os

/-- Pools that have been set up alike: the geometry, its bounds and the colours. -/
structure SameSetup (p q : Pool) : Prop where
  layout : q.layout = p.layout
  color : q.color = p.color
  minSize : q.minSize = p.minSize
  maxSize : q.maxSize = p.maxSize
  gpuMax : q.gpuMax = p.gpuMax

namespace Shifted

variable (h : p.Shifted k e q)
include h

theorem setup : p.SameSetup q := by
  cases h
  exact ⟨rfl, rfl, rfl, rfl, rfl⟩

theorem withSlots {t u : SlotTable} (ht : t.Shifted k e u) :
    ({ p with slots := t } : Pool).Shifted k e { q with slots := u } := by
  cases h with
  | renumbered _ hk he => exact .renumbered (p := { p with slots := t }) ht hk he

theorem withCurrent (c : Option Nat) :
    ({ p with current := c } : Pool).Shifted k e { q with current := c } := by
  cases h with
  | renumbered hs hk he => exact .renumbered (p := { p with current := c }) hs hk he

theorem current : q.current = p.current := by
  cases h
  rfl

theorem slots : p.slots.Shifted k e q.slots := by
  cases h with
  | renumbered hs => exact hs

theorem presents : (q.presents : Int) = p.presents + k := by
  cases h with
  | renumbered _ hk => exact hk

theorem epoch : (q.epoch : Int) = p.epoch + e := by
  cases h with
  | renumbered _ _ he => exact he

theorem current? : Option.Rel (Current.Shifted k e) p.current? q.current? := by
  unfold Pool.current?
  rw [h.current]
  cases p.current with
  | none => exact .none
  | some i =>
    dsimp only [bind, Option.bind_some]
    rcases rel_cases (h.slots.get? i) with ⟨hp, hq⟩ | ⟨s, s', hp, hq, hs⟩
    · rw [hp, hq]
      exact .none
    · rw [hp, hq, Option.bind_some, Option.bind_some, hs.buffer]
      cases s.buffer with
      | none => exact .none
      | some b => exact .some (.renumbered (c := ⟨i, s, b⟩) hs)

theorem currentId : q.currentId = p.currentId := by
  unfold Pool.currentId
  rcases rel_cases h.current? with ⟨hp, hq⟩ | ⟨c, d, hp, hq, hc⟩
  · rw [hp, hq]
  · rw [hp, hq]
    cases hc
    rfl

theorem slotAge (i : Nat) : q.slotAge i = p.slotAge i := by
  unfold Pool.slotAge
  rcases rel_cases (h.slots.get? i) with ⟨hp, hq⟩ | ⟨s, s', hp, hq, hs⟩
  · rw [hp, hq]
    rfl
  · rw [hp, hq]
    exact hs.age h.presents

/-! ### Changes of geometry -/

theorem beginEpoch (l : Layout) : (p.beginEpoch l).Shifted k e (q.beginEpoch l) := by
  cases h with
  | renumbered hs hk he => exact .renumbered hs hk (by simp only [Pool.beginEpoch]; omega)

theorem releaseIdle : p.releaseIdle.Shifted k e q.releaseIdle :=
  h.withSlots h.slots.releaseIdle

theorem underHint (l : Layout) : (p.underHint l).Shifted k e (q.underHint l) := by
  have hb := h.beginEpoch l
  unfold Pool.underHint
  cases h
  dsimp only
  split
  · exact hb
  · exact hb.releaseIdle

/-! ### Dequeuing -/

theorem followHint (a : Answers) : (p.followHint a).Shifted k e (q.followHint a) := by
  have h' := h
  unfold Pool.followHint
  cases a.hint with
  | refused text =>
    cases h
    exact .ok h' () rfl
  | given hint =>
    cases h
    dsimp only
    split
    · exact .ok h' () rfl
    · cases a.configure with
      | refused text => exact .error h' _ rfl
      | given _ => exact .ok (h'.underHint _) () rfl

theorem takeInto (i : Nat) {f g : Slot → Slot} (fence : Option Fence)
    (hf : ∀ s s', s.Shifted k e s' → (f s).Shifted k e (g s')) :
    (p.takeInto i f fence).Shifted k e (q.takeInto i g fence) :=
  (h.withSlots (h.slots.modify i fun s s' hs => (hf s s' hs).start fence)).withCurrent (some i)

theorem giveBack (a : Answers) (b : Buffer) (fence : Option Fence) (x : PoolError) :
    (p.giveBack a b fence x).Shifted k e (q.giveBack a b fence x) := by
  unfold Pool.giveBack
  cases a.cancel with
  | given _ => exact .error h x rfl
  | refused text => exact .error h x rfl

theorem planResize (b : Buffer) : q.planResize b = p.planResize b := by
  cases h
  rfl

theorem plannedEpoch (resized : Option Layout) :
    (q.plannedEpoch resized : Int) = p.plannedEpoch resized + e := by
  have hepoch := h.epoch
  unfold Pool.plannedEpoch
  split <;> omega

theorem plannedSlot? (resized : Option Layout) (id : BufferId) :
    q.plannedSlot? resized id = p.plannedSlot? resized id := by
  unfold Pool.plannedSlot?
  rw [h.slots.placeFor?, h.slots.capacity]

theorem reuses (resized : Option Layout) (i : Nat) (id : BufferId) :
    q.reuses resized i id = p.reuses resized i id := by
  unfold Pool.reuses
  rcases rel_cases (h.slots.get? i) with ⟨hp, hq⟩ | ⟨s, s', hp, hq, hs⟩
  · rw [hp, hq]
    rfl
  · rw [hp, hq]
    exact congrArg _ (hs.caches id (h.plannedEpoch resized))

theorem commit (resized : Option Layout) : (p.commit resized).Shifted k e (q.commit resized) := by
  cases resized with
  | none => exact h
  | some l => exact (h.beginEpoch l).releaseIdle

theorem specOf_plannedSize (resized : Option Layout) :
    q.specOf (q.plannedSize resized) = p.specOf (p.plannedSize resized) := by
  cases h
  rfl

theorem fill (a : Answers) (b : Buffer) (fence : Option Fence) (resized : Option Layout)
    (i : Nat) : (p.fill a b fence resized i).Shifted k e (q.fill a b fence resized i) := by
  have hcommit := h.commit resized
  unfold Pool.fill
  rw [h.reuses]
  split
  · exact .ok (hcommit.takeInto i fence fun _ _ hs => hs.renew b) i (by simp)
  · rw [h.specOf_plannedSize]
    cases a.wrap with
    | refused text => exact (h.giveBack a b fence _).after rfl
    | given serial =>
      refine .ok (hcommit.takeInto i fence fun _ _ hs => ?_) i (by simp)
      exact hs.hold b _ (h.plannedEpoch resized)

theorem place (a : Answers) (b : Buffer) (fence : Option Fence) :
    (p.place a b fence).Shifted k e (q.place a b fence) := by
  unfold Pool.place
  refine Outcome.Shifted.after ?_ (by simp)
  rw [h.planResize]
  cases p.planResize b with
  | error fault => exact h.giveBack a b fence _
  | ok resized =>
    dsimp only
    rw [h.plannedSlot?]
    cases p.plannedSlot? resized b.id with
    | none => exact h.giveBack a b fence _
    | some i => exact h.fill a b fence resized i

theorem acquire (a : Answers) : (p.acquire a).Shifted k e (q.acquire a) := by
  unfold Pool.acquire
  cases a.dequeue with
  | refused text => exact .error h _ rfl
  | given x => exact (h.place a x.1 x.2).after rfl

theorem dequeue (a : Answers) : (p.dequeue a).Shifted k e (q.dequeue a) := by
  unfold Pool.dequeue
  rw [h.currentId]
  cases p.currentId with
  | some id => exact .error h _ rfl
  | none => exact (h.followHint a).andThen fun _ _ _ hq => hq.acquire a

/-! ### Ending a dequeue -/

theorem presented (i : Nat) : (p.presented i).Shifted k e (q.presented i) := by
  cases h with
  | @renumbered _ n _ hs hk he =>
    have hsucc : ((n + 1 : Nat) : Int) = (p.presents + 1 : Nat) + k := by omega
    exact .renumbered (p := p.presented i) (hs.modify i fun _ _ hslot => hslot.shown hsucc) hsucc he

theorem queue {c d : Current} (hc : c.Shifted k e d) (a : Answers) (fence : Option Fence)
    (damage : Option Region) :
    (p.queue a c fence damage).Shifted k e (q.queue a d fence damage) := by
  obtain ⟨hs⟩ := hc
  unfold Pool.queue
  cases a.queue with
  | refused text => exact .error h _ rfl
  | given _ =>
    -- The log tells the number of the present, so only what happened besides it is the same.
    refine .ok (h.presented c.index) () ?_
    simp [hs.fence]

theorem present (a : Answers) (dirty : Option Rect) (completion : Option Fence) :
    (p.present a dirty completion).Shifted k e (q.present a dirty completion) := by
  unfold Pool.present
  rw [h.setup.layout]
  rcases rel_cases h.current? with ⟨hp, hq⟩ | ⟨c, _, hp, hq, ⟨hs⟩⟩
  · rw [hp, hq]
    exact .error h _ rfl
  · rw [hp, hq]
    dsimp only
    rw [hs.fence]
    cases forwarded a c.slot.fence completion with
    | refused text => exact .error h _ rfl
    | given x => exact (h.queue (.renumbered hs) a x.1 _).after rfl

theorem cancel (a : Answers) : (p.cancel a).Shifted k e (q.cancel a) := by
  unfold Pool.cancel
  rcases rel_cases h.current? with ⟨hp, hq⟩ | ⟨c, _, hp, hq, ⟨hs⟩⟩
  · rw [hp, hq]
    exact .error h _ rfl
  · have hend := (h.withSlots (h.slots.modify c.index fun _ _ hs => hs.finish)).withCurrent none
    rw [hp, hq]
    dsimp only
    rw [hs.fence]
    cases a.cancel with
    | given _ => exact .ok hend () rfl
    | refused text => exact .error hend _ rfl

/-! ### Resizing, releasing and the caller's part -/

theorem resize (a : Answers) (size : Extent) :
    (p.resize a size).Shifted k e (q.resize a size) := by
  have hl : q.resizedLayout size = p.resizedLayout size := by
    cases h
    rfl
  unfold Pool.resize
  rw [h.currentId, hl, h.setup.layout, h.setup.minSize, h.setup.maxSize]
  cases p.currentId with
  | some id => exact .error h _ rfl
  | none =>
    dsimp only
    split
    · exact .error h _ rfl
    · cases a.configure with
      | refused text => exact .error h _ rfl
      | given _ => exact .ok (h.beginEpoch _).releaseIdle () rfl

theorem release (a : Answers) : (p.release a).Shifted k e (q.release a) := by
  have hdisposal := h.slots.map_eq fun _ _ hs => hs.disposal a
  refine .ok ((h.withSlots h.slots.releaseAll).withCurrent none) () ?_
  rw [List.flatMap_def, List.flatMap_def, hdisposal]

theorem takeFence : p.takeFence.Shifted k e q.takeFence := by
  unfold Pool.takeFence
  rcases rel_cases h.current? with ⟨hp, hq⟩ | ⟨c, _, hp, hq, ⟨hs⟩⟩
  · rw [hp, hq]
    exact .ok h _ rfl
  · rw [hp, hq]
    dsimp only
    rw [hs.fence]
    exact .ok (h.withSlots (h.slots.modify c.index fun _ _ hs => hs.takeFence)) _ rfl

theorem draw : p.draw.Shifted k e q.draw := by
  unfold Pool.draw
  rcases rel_cases h.current? with ⟨hp, hq⟩ | ⟨c, _, hp, hq, ⟨hs⟩⟩
  · rw [hp, hq]
    exact .ok h _ rfl
  · have hdrawn := h.withSlots (h.slots.modify c.index fun _ _ hs => hs.draw)
    rw [hp, hq]
    cases hs
    exact .ok hdrawn _ rfl

/-! ### Every operation -/

theorem perform (o : Operation) : (p.perform o).Shifted k e (q.perform o) := by
  cases o with
  | dequeue a => exact (h.dequeue a).map _
  | present a dirty completion => exact (h.present a dirty completion).map _
  | cancel a => exact (h.cancel a).map _
  | resize a size => exact (h.resize a size).map _
  | release a => exact (h.release a).map _
  | takeFence => exact h.takeFence.map _
  | draw => exact h.draw.map _

/-! ### Every run -/

theorem performAll (os : List Operation) :
    (p.performAll os).1.Shifted k e (q.performAll os).1 ∧
      (q.performAll os).2.acts = (p.performAll os).2.acts ∧ q.replies os = p.replies os := by
  induction os generalizing p q with
  | nil => exact ⟨h, rfl, rfl⟩
  | cons o os ih =>
    obtain ⟨hresult, hacts, hpool⟩ := h.perform o
    obtain ⟨hrest, hrestActs, hreplies⟩ := ih hpool
    refine ⟨hrest, ?_, ?_⟩
    · rw [performAll_cons, performAll_cons, Trace.acts_append, Trace.acts_append, hrestActs]
      exact congrArg (· ++ _) hacts
    · rw [replies, replies, hresult, hreplies]

end Shifted

/-! ## Emptied pools -/

/-- Nothing is current and no slot holds a buffer. -/
structure Emptied (p : Pool) : Prop where
  idle : p.current = none
  inactive : ∀ s ∈ p.slots.slots, s.isActive = false

theorem emptied_of_slots {n : Nat} (hc : p.current = none) (hs : p.slots = .ofCapacity n) :
    p.Emptied where
  idle := hc
  inactive s hs' := by
    rw [hs] at hs'
    rw [(List.mem_replicate.mp hs').2]
    rfl

/-- A new pool has no buffers. -/
theorem emptied_create {query : Answer WindowProfile} {gpu : GpuLimits}
    {configured : Answer Unit} {color : ColorSetup} {settings : Settings}
    (h : (create query gpu configured color settings).result = .ok p) : p.Emptied := by
  obtain ⟨m, dataspace, requested, -, -, -, -, rfl, -⟩ := create_eq_ok h
  exact emptied_of_slots rfl rfl

/-- A pool that has been released has none. -/
theorem emptied_release (a : Answers) (p : Pool) : (p.release a).pool.Emptied :=
  emptied_of_slots rfl rfl

/-- A pool that has been resized has none. -/
theorem Resizes.emptied {a : Answers} {size : Extent} {t : Trace}
    (hr : Resizes a size p (.ok ()) q t) (hp : p.Consistent) : q.Emptied := by
  cases hr with
  | resized hc =>
    have hb : (p.beginEpoch (p.resizedLayout size)).Consistent := hp.beginEpoch rfl
    have hidle : p.current = none := hp.current_eq_none hc
    rw [hb.releaseIdle_idle hidle]
    exact emptied_of_slots hidle rfl

/-- Without buffers, every slot is empty. -/
theorem Consistent.slots_eq (h : p.Consistent) (he : p.Emptied) :
    p.slots = .ofCapacity p.layout.bufferCount.toNat := by
  have hempty : ∀ s ∈ p.slots.slots, s = .empty := fun s hs => by
    obtain ⟨i, hi⟩ := SlotTable.mem_slots_iff.mp hs
    rcases (h.whole i s hi).filled_or_empty with ⟨ha, -⟩ | hs'
    · rw [he.inactive s hs] at ha
      cases ha
    · exact hs'
  rw [← h.capacity]
  exact congrArg SlotTable.mk (List.eq_replicate_iff.mpr ⟨rfl, hempty⟩)

/-- Emptied pools that have been set up alike differ in their numbers only. -/
theorem Emptied.shifted (hpe : p.Emptied) (hqe : q.Emptied) (hp : p.Consistent)
    (hq : q.Consistent) (h : p.SameSetup q) :
    p.Shifted (q.presents - p.presents) (q.epoch - p.epoch) q := by
  have hslots : q.slots = p.slots := by
    rw [hp.slots_eq hpe, hq.slots_eq hqe, h.layout]
  have hcurrent : q.current = p.current := hqe.idle.trans hpe.idle.symm
  have hq' : q = { p with slots := p.slots, presents := q.presents, epoch := q.epoch } := by
    cases q
    obtain ⟨rfl, rfl, rfl, rfl, rfl⟩ := h
    subst hslots hcurrent
    rfl
  have hrefl : p.slots.Shifted (q.presents - p.presents) (q.epoch - p.epoch) p.slots := by
    rw [hp.slots_eq hpe]
    exact SlotTable.shifted_ofCapacity _
  rw [hq']
  exact .renumbered hrefl (by dsimp only; omega) (by dsimp only; omega)

/-- After every run a pool that is idle and has no buffers goes on like any other such pool with the
same geometry, bounds and colours, however often either has presented or changed its geometry
before. Whatever they are made to do, they answer the same and make the same calls, and then they
have the same geometry, the same slots but for their numbers, and the same ages. The numbers of
their presents stay as far apart as they were. -/
theorem emptied_pools_agree (hp : Reachable p) (hq : Reachable q) (h : p.SameSetup q)
    (hpe : p.Emptied) (hqe : q.Emptied) (os : List Operation) :
    let p' := (p.performAll os).1
    let q' := (q.performAll os).1
    q.replies os = p.replies os ∧
      (q.performAll os).2.acts = (p.performAll os).2.acts ∧
      p'.SameSetup q' ∧ q'.current = p'.current ∧
      q'.slots.slots.map Slot.unnumbered = p'.slots.slots.map Slot.unnumbered ∧
      (∀ i, q'.slotAge i = p'.slotAge i) ∧ q'.currentAge = p'.currentAge ∧
      (q'.presents : Int) - p'.presents = q.presents - p.presents := by
  intro p' q'
  obtain ⟨hrun, hacts, hreplies⟩ :=
    (hpe.shifted hqe hp.consistent hq.consistent h).performAll os
  have hcurrent : q'.current = p'.current := hrun.current
  have hpresents : (q'.presents : Int) = p'.presents + (q.presents - p.presents) := hrun.presents
  refine ⟨hreplies, hacts, hrun.setup, hcurrent, hrun.slots.map_eq fun _ _ hs => hs.unnumbered,
    hrun.slotAge, ?_, by omega⟩
  unfold currentAge
  rw [hcurrent, funext hrun.slotAge]

/-- Of three pools one is new, and two have shown two buffers, after which one was resized and the
other released. The fourth buffer that any of them gets takes the slot of the first. -/
theorem emptied_pools_agree_resized :
    let a := Answers.giving (.plain 9 1) none
    let frame : UInt64 → List Operation := fun id =>
      [.dequeue (.giving (.plain id 1) none), .present (.giving (.plain id 1) none) none none]
    let used := (plain.performAll (frame 7 ++ frame 8)).1
    let os := frame 1 ++ frame 2 ++ frame 3 ++ frame 4
    let q := (used.perform (.resize a ⟨640, 480⟩)).pool
    let r := (used.perform (.release a)).pool
    q.presents = 2 ∧ q.epoch = 1 ∧ (q.replies os)[6]? = some (.ok (.slot 0)) ∧
      (q.performAll os).1.slotAge 1 = some 2 ∧ (q.performAll os).1.presents = 6 ∧
      r.epoch = 0 ∧ q.replies os = plain.replies os ∧ r.replies os = q.replies os := by
  intro a frame used os q r
  have hused : Reachable used := reachable_plain.performAll (frame 7 ++ frame 8)
  have hq : Reachable q := hused.performed (.resize a ⟨640, 480⟩)
  have hr : Reachable r := hused.performed (.release a)
  have hdone : (used.resize a ⟨640, 480⟩).result = .ok () := by
    simp only [used, frame, a]
    rfl
  have hresized := resize_cases a ⟨640, 480⟩ used
  rw [hdone] at hresized
  have hqe : q.Emptied := hresized.emptied hused.consistent
  have hre : r.Emptied := emptied_release a used
  have hplain : plain.SameSetup q := by
    constructor <;> decide
  have hreleased : q.SameSetup r := by
    constructor <;> decide
  obtain ⟨hreplies, -, -, -, -, hage, -, hpresents⟩ :=
    emptied_pools_agree reachable_plain hq hplain (emptied_create create_plain) hqe os
  obtain ⟨hagain, -⟩ := emptied_pools_agree hq hr hreleased hqe hre os
  have hnew : (plain.replies os)[6]? = some (.ok (.slot 0)) := rfl
  have hnewAge : (plain.performAll os).1.slotAge 1 = some 2 := by decide
  have hnewPresents : (plain.performAll os).1.presents = 4 := by decide
  have hzero : plain.presents = 0 := rfl
  have hq2 : q.presents = 2 := by decide
  refine ⟨hq2, by decide, ?_, (hage 1).trans hnewAge, ?_, by decide, hreplies, hagain⟩
  · rw [hreplies]
    exact hnew
  · omega

end Pool
end Swapchain
