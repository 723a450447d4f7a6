import Swapchain.Proofs.Runs
import Swapchain.Proofs.Table

/-!
# The slot table and the current slot agree

`Consistent` is what holds of a pool after every run: each slot is filled or empty and has a
fence only while it is dequeued, the current slot is the one that is dequeued, and no two slots
remember the same buffer. `consistent_perform` is its step, by cases on how the operation goes;
`Reachable.consistent` is the run.

Only two facts are not local to one slot. A place for a buffer is the one slot that may remember
it afterwards (`only_place`), and a layout of another physical size comes into a table that is
emptied at once (`releaseIdle_idle`).
-/

namespace Swapchain

/-! ## One slot -/

/-- A slot remembers a buffer with its surface, or nothing at all; it has a fence only while it
is dequeued. -/
structure Slot.Whole (s : Slot) : Prop where
  filled_or_empty : s.isActive = true ∧ s.surface.isSome = true ∨ s = .empty
  dequeued_of_fence : s.holdsFence = true → s.dequeued = true

namespace Slot

variable {s : Slot}

theorem whole_empty : empty.Whole := ⟨.inr rfl, nofun⟩

theorem whole_hold (b : Buffer) (u : Surface) (epoch : Nat) (f : Option Fence) (s : Slot) :
    ((s.hold b u epoch).start f).Whole := ⟨.inl ⟨rfl, rfl⟩, fun _ => rfl⟩

theorem whole_renew (b : Buffer) (f : Option Fence) (hs : s.surface.isSome = true) :
    ((s.renew b).start f).Whole := ⟨.inl ⟨rfl, hs⟩, fun _ => rfl⟩

theorem isActive_of_bufferId {id : BufferId} (h : s.bufferId = some id) : s.isActive = true := by
  obtain ⟨b, hb, -⟩ := Option.map_eq_some_iff.mp h
  simp [isActive, hb]

namespace Whole

variable (h : s.Whole)
include h

theorem active_of_dequeued (hd : s.dequeued = true) : s.isActive = true := by
  rcases h.filled_or_empty with ⟨ha, -⟩ | rfl
  · exact ha
  · cases hd

theorem exists_surface {id : BufferId} (hid : s.bufferId = some id) :
    ∃ u, s.surface = some u := by
  rcases h.filled_or_empty with ⟨-, hu⟩ | rfl
  · exact Option.isSome_iff_exists.mp hu
  · cases hid

theorem fence_eq_none (hd : s.dequeued = false) : s.fence = none := by
  cases hf : s.fence with
  | none => rfl
  | some f =>
    have := h.dequeued_of_fence (by simp [holdsFence, hf])
    rw [hd] at this
    cases this

theorem finish : s.finish.Whole := by
  refine ⟨?_, nofun⟩
  rcases h.filled_or_empty with ha | rfl
  · exact .inl ha
  · exact .inr rfl

theorem takeFence : s.takeFence.Whole := by
  refine ⟨?_, nofun⟩
  rcases h.filled_or_empty with ha | rfl
  · exact .inl ha
  · exact .inr rfl

theorem draw : s.draw.Whole := by
  refine ⟨?_, h.dequeued_of_fence⟩
  rcases h.filled_or_empty with ⟨ha, hu⟩ | rfl
  · exact .inl ⟨ha, by simpa [Slot.draw] using hu⟩
  · exact .inr rfl

theorem shown (count : Nat) (ha : s.isActive = true) : (s.shown count).Whole := by
  refine ⟨.inl ?_, nofun⟩
  rcases h.filled_or_empty with hs | rfl
  · exact hs
  · cases ha

end Whole
end Slot

/-! ## The table -/

namespace SlotTable

variable {t : SlotTable} {i j : Nat} {s : Slot} {id : BufferId}

/-- Every slot is filled or empty. -/
def Whole (t : SlotTable) : Prop := ∀ i s, t.get? i = some s → s.Whole

/-- No two slots remember the same buffer. -/
def Distinct (t : SlotTable) : Prop :=
  ∀ i j s u id, t.get? i = some s → t.get? j = some u → s.bufferId = some id →
    u.bufferId = some id → i = j

theorem whole_ofCapacity (n : Nat) : (ofCapacity n).Whole := fun _ _ hs =>
  eq_empty_of_get?_ofCapacity hs ▸ Slot.whole_empty

theorem distinct_ofCapacity (n : Nat) : (ofCapacity n).Distinct := by
  intro i j s u id hs _ hid _
  rw [eq_empty_of_get?_ofCapacity hs] at hid
  cases hid

theorem Whole.modify (h : t.Whole) {f : Slot → Slot}
    (hf : ∀ s, t.get? i = some s → (f s).Whole) : (t.modify i f).Whole :=
  fun _ _ hs => forall_modify (fun _ s => s.Whole) hf (fun j u _ hu => h j u hu) hs

/-- The identity of the buffer in a slot of a changed table. -/
theorem bufferId_modify {f : Slot → Slot} (hs : (t.modify i f).get? j = some s)
    (hid : s.bufferId = some id) :
    ∃ s₀, t.get? j = some s₀ ∧ (if i = j then f s₀ else s₀).bufferId = some id := by
  rw [get?_modify] at hs
  obtain ⟨s₀, hs₀, rfl⟩ := Option.map_eq_some_iff.mp hs
  exact ⟨s₀, hs₀, hid⟩

/-- A change that keeps the buffer's identity. -/
theorem Distinct.modify (h : t.Distinct) {f : Slot → Slot} (hf : ∀ s, (f s).bufferId = s.bufferId) :
    (t.modify i f).Distinct := by
  intro j k s u id hs hu hsid huid
  obtain ⟨s₀, hs₀, hsid⟩ := bufferId_modify hs hsid
  obtain ⟨u₀, hu₀, huid⟩ := bufferId_modify hu huid
  refine h j k s₀ u₀ id hs₀ hu₀ ?_ ?_
  · split at hsid
    · rwa [hf] at hsid
    · exact hsid
  · split at huid
    · rwa [hf] at huid
    · exact huid

/-- A change that brings a buffer into the only slot that may remember it. -/
theorem Distinct.modify_id (h : t.Distinct) {f : Slot → Slot}
    (hf : ∀ s, (f s).bufferId = some id)
    (honly : ∀ j u, t.get? j = some u → u.bufferId = some id → j = i) :
    (t.modify i f).Distinct := by
  intro j k s u id' hs hu hsid huid
  obtain ⟨s₀, hs₀, hsid⟩ := bufferId_modify hs hsid
  obtain ⟨u₀, hu₀, huid⟩ := bufferId_modify hu huid
  -- Only slot `i` is new to the buffer, so a clash is between it and one that `honly` excludes.
  by_cases hj : i = j <;> by_cases hk : i = k
  · exact hj.symm.trans hk
  · rw [if_pos hj, hf] at hsid
    rw [if_neg hk] at huid
    cases hsid
    exact absurd (honly k u₀ hu₀ huid).symm hk
  · rw [if_neg hj] at hsid
    rw [if_pos hk, hf] at huid
    cases huid
    exact absurd (honly j s₀ hs₀ hsid).symm hj
  · rw [if_neg hj] at hsid
    rw [if_neg hk] at huid
    exact h j k s₀ u₀ id' hs₀ hu₀ hsid huid

/-- No other slot than the place of a buffer remembers it. -/
theorem Distinct.only_place (h : t.Distinct) (hi : t.placeFor? id = some i) (hs : t.get? j = some s)
    (hid : s.bufferId = some id) : j = i := by
  obtain ⟨u, hu, huid⟩ := bufferId_placeFor? hi hs hid
  exact h j i s u id hs hu hid huid

end SlotTable

/-! ## The pool -/

namespace Pool

variable {p q : Pool}

/-- The slot table and the current slot agree. -/
structure Consistent (p : Pool) : Prop where
  whole : p.slots.Whole
  current_iff : ∀ i, p.current = some i ↔ ∃ s, p.slots.get? i = some s ∧ s.dequeued = true
  distinct : p.slots.Distinct
  capacity : p.slots.capacity = p.layout.bufferCount.toNat
  capacity_pos : 0 < p.slots.capacity

namespace Consistent

/-- While nothing is current no slot is dequeued. -/
theorem idle (h : p.Consistent) (hc : p.current = none) : p.slots.Idle := by
  intro i s hs
  cases hd : s.dequeued with
  | false => rfl
  | true =>
    have := (h.current_iff i).mpr ⟨s, hs, hd⟩
    rw [hc] at this
    cases this

/-- A current slot is there and remembers a buffer. -/
theorem current?_eq_none_iff (h : p.Consistent) : p.current? = none ↔ p.current = none := by
  refine ⟨fun hn => ?_, fun hn => by simp [current?, hn]⟩
  cases hi : p.current with
  | none => rfl
  | some i =>
    obtain ⟨s, hs, hd⟩ := (h.current_iff i).mp hi
    obtain ⟨b, hb⟩ := Option.isSome_iff_exists.mp ((h.whole i s hs).active_of_dequeued hd)
    have : p.current? = some ⟨i, s, b⟩ := current?_eq_some_iff.mpr ⟨hi, hs, hb⟩
    rw [hn] at this
    cases this

theorem current_eq_none (h : p.Consistent) (hc : p.currentId = none) : p.current = none :=
  h.current?_eq_none_iff.mp (currentId_eq_none_iff.mp hc)

/-- While no buffer is current, what a dequeue plans is what it finds once the plan is committed. -/
theorem rests (h : p.Consistent) (hc : p.currentId = none) : p.slots.Idle :=
  h.idle (h.current_eq_none hc)

/-- No other slot than the current one is dequeued. -/
theorem idle_of_ne (h : p.Consistent) {c : Current} (hc : p.current? = some c) {i : Nat} {s : Slot}
    (hs : p.slots.get? i = some s) (hi : i ≠ c.index) : s.dequeued = false := by
  cases hd : s.dequeued with
  | false => rfl
  | true =>
    have hp := (h.current_iff i).mpr ⟨s, hs, hd⟩
    rw [(current?_eq_some_iff.mp hc).1] at hp
    exact absurd (Option.some.inj hp).symm hi

theorem dequeued (h : p.Consistent) {c : Current} (hc : p.current? = some c) :
    c.slot.dequeued = true := by
  obtain ⟨hi, hs, -⟩ := current?_eq_some_iff.mp hc
  obtain ⟨s, hs', hd⟩ := (h.current_iff _).mp hi
  rw [hs] at hs'
  cases hs'
  exact hd

/-- A dequeued slot is the current one. -/
theorem exists_current? (h : p.Consistent) {s : Slot} (hs : s ∈ p.slots.slots)
    (hd : s.dequeued = true) : ∃ c, p.current? = some c ∧ c.slot = s := by
  obtain ⟨i, hi⟩ := SlotTable.mem_slots_iff.mp hs
  obtain ⟨b, hb⟩ := Option.isSome_iff_exists.mp ((h.whole i s hi).active_of_dequeued hd)
  have hcur : p.current = some i := (h.current_iff i).mpr ⟨s, hi, hd⟩
  exact ⟨⟨i, s, b⟩, current?_eq_some_iff.mpr ⟨hcur, hi, hb⟩, rfl⟩

/-- Nothing is current exactly if no slot is dequeued. -/
theorem current?_eq_none_iff_idle (h : p.Consistent) :
    p.current? = none ↔ ∀ s ∈ p.slots.slots, s.dequeued = false := by
  rw [h.current?_eq_none_iff]
  constructor
  · intro hc s hs
    obtain ⟨i, hi⟩ := SlotTable.mem_slots_iff.mp hs
    exact h.idle hc hi
  · intro hidle
    cases hc : p.current with
    | none => rfl
    | some i =>
      obtain ⟨s, hs, hd⟩ := (h.current_iff i).mp hc
      cases (hidle s (SlotTable.mem_slots_iff.mpr ⟨i, hs⟩)).symm.trans hd

/-- A list made slot by slot, to which idle slots add nothing. -/
theorem flatMap_slots (h : p.Consistent) {β : Type} {f : Slot → List β}
    (hf : ∀ s, s.Whole → s.dequeued = false → f s = []) :
    p.slots.slots.flatMap f = (p.current?.map fun c => f c.slot).getD [] := by
  cases hc : p.current? with
  | none =>
    have hn := h.current?_eq_none_iff.mp hc
    exact SlotTable.flatMap_slots_nil fun i s hs => hf s (h.whole i s hs) (h.idle hn hs)
  | some c =>
    obtain ⟨-, hs, -⟩ := current?_eq_some_iff.mp hc
    exact SlotTable.flatMap_slots hs fun j u hu hj => hf u (h.whole j u hu) (h.idle_of_ne hc hu hj)

/-- While nothing is current, releasing the idle slots empties the table. -/
theorem releaseIdle_idle (h : p.Consistent) (hc : p.current = none) :
    p.releaseIdle = { p with slots := .ofCapacity p.slots.capacity } := by
  unfold Pool.releaseIdle
  rw [(h.idle hc).releaseIdle_eq]

/-- An empty table without a current slot. -/
theorem ofCapacity {n : Nat} (hc : p.current = none) (hs : p.slots = .ofCapacity n)
    (hn : n = p.layout.bufferCount.toNat) (hpos : 0 < n) : p.Consistent where
  whole := hs ▸ SlotTable.whole_ofCapacity n
  current_iff i := by
    rw [hc, hs]
    refine ⟨nofun, fun ⟨s, hs, hd⟩ => ?_⟩
    rw [SlotTable.eq_empty_of_get?_ofCapacity hs] at hd
    cases hd
  distinct := hs ▸ SlotTable.distinct_ofCapacity n
  capacity := by rw [hs, SlotTable.capacity_ofCapacity, hn]
  capacity_pos := by rw [hs, SlotTable.capacity_ofCapacity]; exact hpos

/-- A new epoch in a layout of as many buffers. -/
theorem beginEpoch (h : p.Consistent) {l : Layout} (hl : l.bufferCount = p.layout.bufferCount) :
    (p.beginEpoch l).Consistent where
  whole := h.whole
  current_iff := h.current_iff
  distinct := h.distinct
  capacity := h.capacity.trans (congrArg UInt64.toNat hl.symm)
  capacity_pos := h.capacity_pos

theorem releaseIdle (h : p.Consistent) (hc : p.current = none) : p.releaseIdle.Consistent := by
  rw [h.releaseIdle_idle hc]
  exact .ofCapacity hc rfl h.capacity h.capacity_pos

theorem underHint (h : p.Consistent) (hc : p.current = none) (hint : Transform) :
    (p.underHint (p.hintedLayout hint)).Consistent := by
  have hb : (p.beginEpoch (p.hintedLayout hint)).Consistent := h.beginEpoch rfl
  unfold Pool.underHint
  dsimp only
  split
  · exact hb
  · exact hb.releaseIdle hc

theorem adopt (h : p.Consistent) (hc : p.current = none) {b : Buffer} (ha : p.adopt b = .ok q) :
    q.Consistent ∧ q.current = none := by
  rcases adopt_cases ha with ⟨-, rfl⟩ | ⟨-, -, rfl⟩
  · exact ⟨h, hc⟩
  · have hb : (p.beginEpoch ((p.layoutOf b).resolve smallest p.gpuMax)).Consistent :=
      h.beginEpoch rfl
    exact ⟨hb.releaseIdle hc, hc⟩

/-- A slot whose change keeps its buffer, with what is current adjusted to it. -/
theorem modify (h : p.Consistent) {i : Nat} {f : Slot → Slot} {c : Option Nat} {n : Nat}
    (hf : ∀ s, p.slots.get? i = some s → (f s).Whole) (hid : ∀ s, (f s).bufferId = s.bufferId)
    (hcur : ∀ j, c = some j ↔ ∃ s, (p.slots.modify i f).get? j = some s ∧ s.dequeued = true) :
    ({ p with slots := p.slots.modify i f, current := c, presents := n } : Pool).Consistent where
  whole := h.whole.modify hf
  current_iff := hcur
  distinct := h.distinct.modify hid
  capacity := (SlotTable.capacity_modify ..).trans h.capacity
  capacity_pos := by rw [SlotTable.capacity_modify]; exact h.capacity_pos

/-- A change of the current slot that ends the dequeue. -/
theorem modify_ended (h : p.Consistent) {c : Current} (hc : p.current? = some c) {f : Slot → Slot}
    {n : Nat} (hf : ∀ s, s.Whole → s.isActive = true → (f s).Whole)
    (hid : ∀ s, (f s).bufferId = s.bufferId) (hd : ∀ s, (f s).dequeued = false) :
    ({ p with
      slots := p.slots.modify c.index f, current := none, presents := n } : Pool).Consistent := by
  obtain ⟨hi, hs, hb⟩ := current?_eq_some_iff.mp hc
  refine h.modify (fun s hs' => ?_) hid fun j => ⟨nofun, fun ⟨s, hs', hd'⟩ => ?_⟩
  · rw [hs] at hs'
    cases hs'
    exact hf _ (h.whole _ _ hs) (by simp [Slot.isActive, hb])
  · by_cases hj : c.index = j
    · subst hj
      rw [SlotTable.get?_modify_self, hs] at hs'
      cases hs'
      rw [hd] at hd'
      cases hd'
    · rw [SlotTable.get?_modify_ne _ _ hj] at hs'
      rw [h.idle_of_ne hc hs' (Ne.symm hj)] at hd'
      cases hd'

/-- A change of a slot that leaves it dequeued or idle. -/
theorem modify_current (h : p.Consistent) (i : Nat) {f : Slot → Slot}
    (hf : ∀ s, s.Whole → (f s).Whole) (hid : ∀ s, (f s).bufferId = s.bufferId)
    (hd : ∀ s, (f s).dequeued = s.dequeued) :
    ({ p with slots := p.slots.modify i f } : Pool).Consistent := by
  refine h.modify (fun s hs => hf s (h.whole _ _ hs)) hid fun j => ?_
  rw [h.current_iff j, SlotTable.get?_modify]
  constructor
  · rintro ⟨s, hs, hs'⟩
    refine ⟨_, by rw [hs]; rfl, ?_⟩
    split
    · rwa [hd]
    · exact hs'
  · rintro ⟨s, hs, hs'⟩
    obtain ⟨s₀, hs₀, rfl⟩ := Option.map_eq_some_iff.mp hs
    refine ⟨s₀, hs₀, ?_⟩
    split at hs'
    · rwa [hd] at hs'
    · exact hs'

/-- A buffer into its place, while nothing is current. -/
theorem takeInto (h : p.Consistent) (hc : p.current = none) {i : Nat} {id : BufferId}
    {change : Slot → Slot} {f : Option Fence} (hi : p.slots.placeFor? id = some i)
    (hw : ∀ s, p.slots.get? i = some s → ((change s).start f).Whole)
    (hid : ∀ s, ((change s).start f).bufferId = some id) :
    (p.takeInto i change f).Consistent where
  whole := h.whole.modify hw
  current_iff j := by
    unfold Pool.takeInto
    dsimp only
    obtain ⟨s, hs⟩ := SlotTable.get?_placeFor? hi
    constructor
    · rintro ⟨⟩
      exact ⟨_, by rw [SlotTable.get?_modify_self, hs]; rfl, rfl⟩
    · rintro ⟨u, hu, hd⟩
      by_cases hij : i = j
      · rw [hij]
      · rw [SlotTable.get?_modify_ne _ _ hij] at hu
        rw [h.idle hc hu] at hd
        cases hd
  distinct := h.distinct.modify_id hid fun _ _ hu huid => h.distinct.only_place hi hu huid
  capacity := (SlotTable.capacity_modify ..).trans h.capacity
  capacity_pos := by
    unfold Pool.takeInto
    rw [SlotTable.capacity_modify]
    exact h.capacity_pos

end Consistent

/-! ## One operation -/

variable {a : Answers} {t : Trace}

theorem Follows.consistent {r : Except PoolError Unit} (hf : Follows a p r q t) (h : p.Consistent)
    (hc : p.current = none) : q.Consistent ∧ q.current = none := by
  cases hf with
  | stays => exact ⟨h, hc⟩
  | rejected => exact ⟨h, hc⟩
  | turned =>
    refine ⟨h.underHint hc _, ?_⟩
    unfold underHint
    dsimp only
    split <;> exact hc

theorem Acquires.consistent {r : Except PoolError Nat} (ha : Acquires a p r q t) (h : p.Consistent)
    (hc : p.current = none) : q.Consistent := by
  cases ha with
  | refused | unusable | homeless | unwrapped => exact h
  | @cached b f q i _ ha hi hcache =>
    obtain ⟨hq, hqc⟩ := h.adopt hc ha
    obtain ⟨s, hs, -, hu, -⟩ := caches_iff.mp hcache
    refine hq.takeInto hqc hi (fun s' hs' => ?_) fun _ => rfl
    rw [hs] at hs'
    cases hs'
    exact Slot.whole_renew b f hu
  | wrapped _ ha hi =>
    obtain ⟨hq, hqc⟩ := h.adopt hc ha
    exact hq.takeInto hqc hi (fun s _ => Slot.whole_hold ..) fun _ => rfl

theorem Dequeues.consistent {r : Except PoolError Nat} (hd : Dequeues a p r q t)
    (h : p.Consistent) : q.Consistent := by
  cases hd with
  | busy => exact h
  | rejected hc hf => exact (hf.consistent h (h.current_eq_none hc)).1
  | acquires hc hf ha =>
    obtain ⟨hq, hqc⟩ := hf.consistent h (h.current_eq_none hc)
    exact ha.consistent hq hqc

theorem Presents.consistent {dirty : Option Rect} {completion : Option Fence}
    {r : Except PoolError Unit} (hp : Presents a dirty completion p r q t) (h : p.Consistent) :
    q.Consistent := by
  cases hp with
  | nothing | unforwarded | refused => exact h
  | shown hc =>
    exact h.modify_ended hc (fun s hs => hs.shown _) (fun _ => rfl) fun _ => rfl

theorem Cancels.consistent {r : Except PoolError Unit} (hp : Cancels a p r q t) (h : p.Consistent) :
    q.Consistent := by
  cases hp with
  | nothing => exact h
  | returned hc | disowned hc =>
    exact h.modify_ended hc (fun s hs _ => hs.finish) (fun _ => rfl) fun _ => rfl

theorem Resizes.consistent {size : Extent} {r : Except PoolError Unit}
    (hr : Resizes a size p r q t) (h : p.Consistent) : q.Consistent := by
  cases hr with
  | busy | degenerate | rejected => exact h
  | resized hc =>
    have hb : (p.beginEpoch (p.resizedLayout size)).Consistent := h.beginEpoch rfl
    exact hb.releaseIdle (h.current_eq_none hc)

theorem consistent_release (a : Answers) (h : p.Consistent) : (p.release a).pool.Consistent :=
  .ofCapacity rfl rfl h.capacity h.capacity_pos

/-- A caller's change that leaves a slot whole, with its buffer and dequeued or idle as it was. -/
theorem Changes.consistent {f : Slot → Slot} {gives : Slot → Trace} (hp : Changes f gives p q t)
    (h : p.Consistent) (hf : ∀ s, s.Whole → (f s).Whole) (hid : ∀ s, (f s).bufferId = s.bufferId)
    (hd : ∀ s, (f s).dequeued = s.dequeued) : q.Consistent := by
  cases hp with
  | nothing => exact h
  | changed => exact h.modify_current _ hf hid hd

/-- Every operation keeps the slot table and the current slot in agreement. -/
theorem consistent_perform (h : p.Consistent) (o : Operation) : (p.perform o).pool.Consistent := by
  cases o with
  | dequeue a => exact (dequeue_cases a h.rests).consistent h
  | present a dirty completion => exact (present_cases a dirty completion p).consistent h
  | cancel a => exact (cancel_cases a p).consistent h
  | resize a size => exact (resize_cases a size p).consistent h
  | release a => exact consistent_release a h
  | takeFence =>
    exact (takeFence_cases p).consistent h (fun _ => Slot.Whole.takeFence) (fun _ => rfl)
      fun _ => rfl
  | draw =>
    exact (draw_cases p).consistent h (fun _ => Slot.Whole.draw) (fun _ => rfl) fun _ => rfl

/-! ## Every run -/

theorem consistent_create {query : Answer WindowProfile} {gpu : GpuLimits}
    {configured : Answer Unit} {color : ColorSetup} {settings : Settings}
    (h : (create query gpu configured color settings).result = .ok p) : p.Consistent := by
  obtain ⟨m, dataspace, requested, -, -, -, -, rfl, -⟩ := create_eq_ok h
  exact .ofCapacity rfl rfl rfl (by rw [firstLayout, toNat_bufferCount]; omega)

theorem Reachable.consistent (h : Reachable p) : p.Consistent := by
  induction h with
  | created h => exact consistent_create h
  | performed o _ ih => exact consistent_perform ih o

theorem Consistent.dequeuedCount_le_one (h : p.Consistent) : p.slots.dequeuedCount ≤ 1 :=
  SlotTable.countP_le_one fun i j s u hs hu hsd hud => by
    have hi := (h.current_iff i).mpr ⟨s, hs, hsd⟩
    have hj := (h.current_iff j).mpr ⟨u, hu, hud⟩
    rw [hi] at hj
    exact Option.some.inj hj

/-- After every run at most one slot is dequeued, and it is the current one; only a dequeued slot
has a fence, and it has a buffer; every slot has a buffer and a surface or remembers nothing; no
two slots have the same buffer; and there are as many slots as the layout says, at least one. -/
theorem slots_agree (h : Reachable p) :
    p.slots.dequeuedCount ≤ 1 ∧
      (∀ i, p.current = some i ↔
        i < p.slots.capacity ∧ ∃ s, p.slots.get? i = some s ∧ s.dequeued = true) ∧
      (∀ s ∈ p.slots.slots, s.holdsFence = true → s.dequeued = true) ∧
      (∀ s ∈ p.slots.slots, s.dequeued = true → s.isActive = true) ∧
      (∀ s ∈ p.slots.slots, s.isActive = true ∧ s.surface.isSome = true ∨ s = .empty) ∧
      (∀ i j s u b c, i ≠ j → p.slots.get? i = some s → p.slots.get? j = some u →
        s.buffer = some b → u.buffer = some c → b.id ≠ c.id) ∧
      p.slots.capacity = p.layout.bufferCount.toNat ∧ 1 ≤ p.slots.capacity := by
  have hc := h.consistent
  have whole : ∀ s ∈ p.slots.slots, s.Whole := fun s hs => by
    obtain ⟨i, hi⟩ := SlotTable.mem_slots_iff.mp hs
    exact hc.whole i s hi
  refine ⟨hc.dequeuedCount_le_one, fun i => ?_, fun s hs => (whole s hs).dequeued_of_fence,
    fun s hs => (whole s hs).active_of_dequeued, fun s hs => (whole s hs).filled_or_empty, ?_,
    hc.capacity, hc.capacity_pos⟩
  · rw [hc.current_iff i]
    exact ⟨fun ⟨s, hs, hd⟩ => ⟨SlotTable.lt_capacity hs, s, hs, hd⟩, And.right⟩
  · intro i j s u b c hij hs hu hb hc' hid
    refine hij (hc.distinct i j s u b.id hs hu ?_ ?_)
    · rw [Slot.bufferId, hb]; rfl
    · rw [Slot.bufferId, hc', hid]; rfl

/-- Buffer 7 has been shown and is dequeued again with its fence, beside buffer 8. -/
theorem slots_agree_two_buffers :
    ∃ p, Reachable p ∧ p.current = some 0 ∧ p.slots.activeCount = 2 ∧ p.slots.fenceCount = 1 ∧
      p.slots.dequeuedCount ≤ 1 := by
  let frames : List Operation := [.dequeue (.giving (.plain 7 1) none),
    .present (.giving (.plain 7 1) none) none none, .dequeue (.giving (.plain 8 2) none),
    .cancel (.giving (.plain 8 2) none), .dequeue (.giving (.plain 7 3) (some ⟨1, false⟩))]
  have h : Reachable (plain.performAll frames).1 := reachable_plain.performAll frames
  exact ⟨_, h, by decide, by decide, by decide, (slots_agree h).1⟩

end Pool
end Swapchain
