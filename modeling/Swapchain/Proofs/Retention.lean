import Mathlib.Data.Finset.Card
import Swapchain.Proofs.Eviction

/-!
# Buffers that stay

A buffer loses its slot to another one only if the table is full. So as long as the geometry stays,
nothing is released, and the window hands out no more buffers than there are slots, each buffer is
wrapped once and then keeps its slot, its surface and, from its first present on, an age.

The table is full of *different* buffers. If it had no free slot for a new buffer, then there would
be as many as slots and one more. In every run of this kind, what the GPU has wrapped of a buffer
and whether a slot has it are kept together as a balance (`Settles.wrapped`).

* `Pool.Retains`: slots that keep what they have;
* `Pool.Houses`: a table with room for some buffers, `Houses.exists_free` its free slot;
* `Pool.calm_perform`: operations that leave the geometry and release nothing;
* `Pool.Settles`: what such operations leave, for one move and for a run;
* `Pool.buffers_stay_while_they_fit`: surfaces and ages in all these runs.
-/

namespace Swapchain

/-! ## One slot -/

/-- Slot `t` has what slot `s` has had: the same buffer with the same surface, and known pixels if
they have been known. -/
structure Slot.Retains (s t : Slot) : Prop where
  bufferId : t.bufferId = s.bufferId
  surface : t.surface.map Surface.made = s.surface.map Surface.made
  valid : s.valid = true → t.valid = true

namespace Slot

variable {s t u : Slot}

theorem Retains.refl (s : Slot) : s.Retains s := ⟨rfl, rfl, id⟩

theorem Retains.trans (h : s.Retains t) (h' : t.Retains u) : s.Retains u :=
  ⟨h'.bufferId.trans h.bufferId, h'.surface.trans h.surface, h'.valid ∘ h.valid⟩

theorem Alike.retains (h : t.Alike s) : s.Retains t := ⟨h.bufferId, h.surface, (h.valid ▸ ·)⟩

theorem isActive_eq (s : Slot) : s.isActive = s.bufferId.isSome := by
  simp [isActive, bufferId]

end Slot

/-! ## Buffers handed out and wrapped -/

namespace Trace

/-- The buffers that the window hands out. -/
def handedOut (t : Trace) : List BufferId :=
  (t.calls.filterMap Call.handedOut?).map fun x => x.1.id

/-- The buffers that the GPU wraps. -/
def wrapped (t : Trace) : List BufferId :=
  (t.calls.filterMap Call.surface?).map fun u => u.buffer.id

theorem handedOut_append (t u : Trace) : handedOut (t ++ u) = handedOut t ++ handedOut u := by
  simp [handedOut]

theorem handedOut_acts (t : Trace) : t.acts.handedOut = t.handedOut := by
  rw [handedOut, calls_acts, handedOut]

theorem wrapped_append (t u : Trace) : wrapped (t ++ u) = wrapped t ++ wrapped u := by
  simp [wrapped]

theorem wrapped_acts (t : Trace) : t.acts.wrapped = t.wrapped := by
  rw [wrapped, calls_acts, wrapped]

/-- A trace in which no size is asked for has no surfaces. -/
theorem wrapped_eq_nil {t : Trace} (h : t.sizes = []) : t.wrapped = [] := by
  refine List.map_eq_nil_iff.mpr (List.filterMap_eq_nil_iff.mpr fun c hc => ?_)
  cases hu : c.surface? with
  | none => rfl
  | some u =>
    rw [Call.eq_wrap_of_surface? hu] at hc
    cases List.filterMap_eq_nil_iff.mp h _ hc

end Trace

/-- The buffer that was wrapped. -/
def Deed.wrapped? : Deed → Option BufferId
  | obtained _ b (some _) => some b.id
  | _ => none

namespace Pool

variable {p q m : Pool} {a : Answers} {t : Trace} {ds : List Deed}
variable {i : Nat} {b : Buffer} {id : BufferId} {ids : Finset BufferId} {f : Slot → Slot}

theorem Follows.wrapped_eq {r : Except PoolError Unit} (hf : Follows a p r q t) :
    t.wrapped = [] := by
  cases hf <;> rfl

theorem Dequeues.wrapped_eq {r : Except PoolError Nat} (hd : Dequeues a p r q t) :
    t.wrapped = (dequeueDeeds a (p.followHint a).pool r t.calls).filterMap Deed.wrapped? := by
  have none_of_error : ∀ e cs,
      (dequeueDeeds a (p.followHint a).pool (.error e) cs).filterMap Deed.wrapped? = [] :=
    fun e cs => by
      rw [dequeueDeeds_error]
      split <;> rfl
  cases hd with
  | busy => exact (none_of_error _ _).symm
  | rejected hc hf => rw [none_of_error, hf.wrapped_eq]
  | @acquires m _ r t u hc hf ha =>
    rw [Trace.wrapped_append, hf.wrapped_eq, List.nil_append]
    cases r with
    | error e =>
      rw [none_of_error]
      cases ha <;> rfl
    | ok i =>
      obtain ⟨b, f, n, cs, hb, -, -, hcs, ho⟩ := ha.obtains
      rw [dequeueDeeds_ok hb, Trace.calls_append, List.findSome?_append, hf.surface?, hcs,
        Trace.wrapped, hcs]
      cases ho <;> split <;> split <;> rfl

theorem Resizes.wrapped_eq {size : Extent} {r : Except PoolError Unit}
    (hr : Resizes a size p r q t) :
    t.wrapped = (resizeDeeds q.layout r).filterMap Deed.wrapped? := by
  cases hr <;> rfl

/-- The buffers that the GPU wraps in an operation are those that come into a slot with a new
surface. -/
theorem wrapped_perform (hp : p.Consistent) (o : Operation) :
    (p.perform o).trace.wrapped = (p.deeds o).filterMap Deed.wrapped? := by
  rw [← Trace.wrapped_acts]
  cases o with
  | dequeue a =>
    rw [deeds, ← Trace.calls_acts]
    exact (dequeue_cases a hp.rests).wrapped_eq
  | present a dirty completion =>
    have hdeeds : ∀ c r, (presentDeeds c r).filterMap Deed.wrapped? = [] := fun c r => by
      unfold presentDeeds
      split <;> rfl
    rw [deeds, hdeeds]
    exact Trace.wrapped_eq_nil (present_cases a dirty completion p).sizes
  | cancel a => exact Trace.wrapped_eq_nil (cancel_cases a p).sizes
  | resize a size => exact (resize_cases a size p).wrapped_eq
  | release a => exact Trace.wrapped_eq_nil (sizes_release a p)
  | takeFence => exact Trace.wrapped_eq_nil (sizes_takeFence p)
  | draw => exact Trace.wrapped_eq_nil (sizes_draw p)

/-- The buffers that the GPU wraps in a run. -/
theorem wrapped_performAll (hp : p.Consistent) (os : List Operation) :
    (p.performAll os).2.wrapped = (p.history os).filterMap Deed.wrapped? := by
  induction os generalizing p with
  | nil => rfl
  | cons o os ih =>
    rw [performAll_cons, Trace.wrapped_append, wrapped_perform hp, ih (consistent_perform hp o), history,
      List.filterMap_append]

/-! ## Slots that keep what they have -/

/-- Every slot of `p` that holds a buffer keeps it in `q`, with its surface and its pixels. -/
def Retains (p q : Pool) : Prop :=
  ∀ i s, p.slots.get? i = some s → s.isActive = true →
    ∃ t, q.slots.get? i = some t ∧ s.Retains t

namespace Retains

theorem refl (p : Pool) : p.Retains p := fun _ s hs _ => ⟨s, hs, .refl s⟩

theorem trans (h : p.Retains m) (h' : m.Retains q) : p.Retains q := by
  intro i s hs ha
  obtain ⟨t, ht, hst⟩ := h i s hs ha
  have hta : t.isActive = true := by rw [t.isActive_eq, hst.bufferId, ← s.isActive_eq, ha]
  obtain ⟨u, hu, htu⟩ := h' i t ht hta
  exact ⟨u, hu, hst.trans htu⟩

theorem modify (hq : q.slots = p.slots.modify i f)
    (hf : ∀ s, p.slots.get? i = some s → s.isActive = true → s.Retains (f s)) : p.Retains q := by
  intro j s hs ha
  by_cases hij : i = j
  · subst hij
    exact ⟨f s, by rw [hq, SlotTable.get?_modify_self, hs]; rfl, hf s hs ha⟩
  · exact ⟨s, by rw [hq, SlotTable.get?_modify_ne _ _ hij, hs], .refl s⟩

theorem has (h : p.Retains q) (hi : p.Has i id) : q.Has i id := by
  obtain ⟨s, hs, hid⟩ := hi
  obtain ⟨t, ht, hst⟩ := h i s hs (Slot.isActive_of_bufferId hid)
  exact ⟨t, ht, hst.bufferId.trans hid⟩

end Retains

/-! ## Room for all buffers -/

/-- How many slots have a buffer, at most one. -/
def stock (p : Pool) (id : BufferId) : Nat := if (p.slots.indexOf? id).isSome then 1 else 0

theorem stock_le_one (p : Pool) (id : BufferId) : p.stock id ≤ 1 := by
  unfold stock
  split <;> omega

theorem stock_of_has (hi : p.Has i id) : p.stock id = 1 := by
  obtain ⟨s, hs, hid⟩ := hi
  cases hx : p.slots.indexOf? id with
  | none => exact absurd hid (SlotTable.bufferId_of_indexOf?_eq_none hx hs)
  | some j => simp [stock, hx]

theorem stock_of_not_has (hnew : ∀ i, ¬ p.Has i id) : p.stock id = 0 := by
  cases hx : p.slots.indexOf? id with
  | none => simp [stock, hx]
  | some j => exact absurd (SlotTable.get?_indexOf? hx) (hnew j)

theorem Retains.stock_le (h : p.Retains q) (id : BufferId) : p.stock id ≤ q.stock id := by
  by_cases hp : ∃ i, p.Has i id
  · obtain ⟨i, hi⟩ := hp
    rw [stock_of_has hi, stock_of_has (h.has hi)]
  · rw [stock_of_not_has (not_exists.mp hp)]
    exact Nat.zero_le _

/-- Every buffer in the table is one of `ids`, for all of which there is room, and has a surface of
the epoch. -/
structure Houses (ids : Finset BufferId) (p : Pool) : Prop where
  slot : ∀ i s id, p.slots.get? i = some s → s.bufferId = some id →
    id ∈ ids ∧ s.epoch = p.epoch
  card_le : ids.card ≤ p.slots.capacity

namespace Houses

variable (h : p.Houses ids)
include h

/-- A table with room for a buffer that it does not have yet has a free slot. -/
theorem exists_free (hp : p.Consistent) (hid : id ∈ ids) (hnew : ∀ i, ¬ p.Has i id) :
    ∃ i, p.Free i := by
  refine Classical.byContradiction fun hfull => ?_
  -- Otherwise the slots have different buffers, all among `ids` but none of them `id`.
  have hhas : ∀ i, i < p.slots.capacity → ∃ id', p.Has i id' := fun i hi => by
    obtain ⟨s, hs⟩ := SlotTable.get?_of_lt hi
    have ha : s.isActive = true := eq_true_of_ne_false fun ha => hfull ⟨i, s, hs, ha⟩
    obtain ⟨b, hb⟩ := Option.isSome_iff_exists.mp ha
    exact ⟨b.id, s, hs, congrArg (Option.map Buffer.id) hb⟩
  choose! held hheld using hhas
  have hmem : ∀ i ∈ Finset.range p.slots.capacity, held i ∈ ids.erase id := fun i hi => by
    have hi := hheld i (Finset.mem_range.mp hi)
    obtain ⟨s, hs, hsid⟩ := hi
    exact Finset.mem_erase.mpr ⟨fun heq => hnew i (heq ▸ ⟨s, hs, hsid⟩), (h.slot i s _ hs hsid).1⟩
  have hinj : Set.InjOn held (Finset.range p.slots.capacity) := fun i hi j hj heq => by
    obtain ⟨s, hs, hsid⟩ := hheld i (Finset.mem_range.mp hi)
    obtain ⟨u, hu, huid⟩ := hheld j (Finset.mem_range.mp hj)
    exact hp.distinct i j s u _ hs hu hsid (heq ▸ huid)
  have hcard := Finset.card_le_card_of_injOn held hmem hinj
  rw [Finset.card_range, Finset.card_erase_of_mem hid] at hcard
  have hpos : 0 < ids.card := Finset.card_pos.mpr ⟨id, hid⟩
  have hle := h.card_le
  omega

/-- A buffer that has to be wrapped is new to the table and comes into a free slot. -/
theorem place_free (hp : p.Consistent) (hid : b.id ∈ ids) (hi : p.slots.placeFor? b.id = some i)
    (hs : p.caches i b.id = false) : p.Free i ∧ ∀ j, ¬ p.Has j b.id := by
  have hnew : ∀ j, ¬ p.Has j b.id := by
    rintro j ⟨s, hj, hsid⟩
    obtain rfl := hp.distinct.only_place hi hj hsid
    obtain ⟨u, hu⟩ := (hp.whole j s hj).exists_surface hsid
    have hcaches : p.caches j b.id = true :=
      caches_iff.mpr ⟨s, hj, hsid, by simp [hu], (h.slot j s _ hj hsid).2⟩
    cases hs.symm.trans hcaches
  refine ⟨?_, hnew⟩
  rcases SlotTable.placeFor?_cases hi with hown | ⟨-, hfree | ⟨hfree, -⟩⟩
  · exact absurd (SlotTable.get?_indexOf? hown) (hnew i)
  · exact SlotTable.get?_firstFree? hfree
  · obtain ⟨j, s, hj, ha⟩ := h.exists_free hp hid hnew
    cases ha.symm.trans (SlotTable.isActive_of_firstFree?_eq_none hfree hj)

/-- A change of one slot to one of these buffers, with a surface of the epoch. -/
theorem modify (hq : q.slots = p.slots.modify i f) (he : q.epoch = p.epoch)
    (hf : ∀ s id, p.slots.get? i = some s → (f s).bufferId = some id →
      id ∈ ids ∧ (f s).epoch = p.epoch) : q.Houses ids where
  slot j s id hs hid := by
    rw [hq] at hs
    rw [he]
    exact SlotTable.forall_modify
      (fun _ s => ∀ id, s.bufferId = some id → id ∈ ids ∧ s.epoch = p.epoch)
      (fun s hs id => hf s id hs) (fun j s _ hs id => h.slot j s id hs) hs id hid
  card_le := by
    rw [hq, SlotTable.capacity_modify]
    exact h.card_le

end Houses

/-! ## Operations that leave the geometry -/

/-- What can become of a pool in an operation that leaves the geometry and releases nothing, with
its deeds and the buffers that the window hands out. -/
inductive Calm (p : Pool) : List Deed → List BufferId → Pool → Prop where
  | still (handed : List BufferId) : Calm p [] handed p
  | obtained {b : Buffer} {f : Option Fence} {i : Nat} {cs : List Call} {handed : List BufferId}
      {q : Pool} (hb : b.id ∈ handed) (hi : p.slots.placeFor? b.id = some i)
      (ho : Obtains b f i p cs q) :
    Calm p [.obtained i b (cs.findSome? Call.surface?)] handed q
  | shown {c : Current} (handed : List BufferId) (hc : p.current? = some c) :
    Calm p [.shown c.index c.buffer.id] handed (p.presented c.index)
  | touched {i : Nat} {f : Slot → Slot} (c : Option Nat) (handed : List BufferId)
      (hf : ∀ s, (f s).Alike s) :
    Calm p [] handed { p with slots := p.slots.modify i f, current := c }

theorem configured_mem_dequeueDeeds {r : Except PoolError Nat} {cs : List Call}
    (hcs : cs.any Call.isTaken = true) : .configured q.layout ∈ dequeueDeeds a q r cs := by
  unfold dequeueDeeds
  dsimp only
  split <;> simp [hcs]

theorem Dequeues.calm {r : Except PoolError Nat} (hd : Dequeues a p r q t)
    (hds : ds = dequeueDeeds a (p.followHint a).pool r t.calls)
    (hstill : ∀ d ∈ ds, d.isChange = false) : p.Calm ds t.handedOut q := by
  have hnone : t.calls.any Call.isTaken = false := eq_false_of_ne_true fun htaken => by
    cases hstill _ (hds ▸ configured_mem_dequeueDeeds htaken)
  have hfailed : ∀ e, r = .error e → ds = [] := fun e hr => by
    rw [hds, hr, dequeueDeeds_error, hnone]
    rfl
  cases hd with
  | busy =>
    rw [hfailed _ rfl]
    exact .still _
  | rejected hc hf =>
    rw [hfailed _ rfl]
    cases hf with
    | rejected => exact .still _
  | @acquires m _ r t u hc hf ha =>
    obtain rfl : m = p := by
      cases hf with
      | stays => rfl
      | turned => cases hnone
    cases r with
    | error e =>
      rw [hfailed e rfl, ha.failed.1]
      exact .still _
    | ok i =>
      obtain ⟨b, f, n, cs, hb, hn, hi, hcs, ho⟩ := ha.obtains
      rw [dequeueDeeds_ok hb, hnone, Trace.calls_append, List.findSome?_append, hf.surface?, hcs,
        hf.pool_eq] at hds
      rcases adopt_cases hn with ⟨hsize, rfl⟩ | ⟨hsize, -⟩
      · rw [if_pos hsize] at hds
        have hone : ds = [.obtained i b (cs.findSome? Call.surface?)] := hds
        rw [hone]
        exact .obtained (by simp [Trace.handedOut, hcs, Call.handedOut?]) hi ho
      · rw [if_neg hsize] at hds
        cases hstill (.adopted b) (by simp [hds])

theorem Presents.calm {dirty : Option Rect} {completion : Option Fence}
    {r : Except PoolError Unit} (hpr : Presents a dirty completion p r q t)
    (handed : List BufferId) : p.Calm (presentDeeds p.current? r) handed q := by
  cases hpr with
  | nothing | unforwarded | refused => simpa [presentDeeds] using Calm.still handed
  | shown hc =>
    rw [hc]
    exact .shown handed hc

theorem Cancels.calm {r : Except PoolError Unit} (hca : Cancels a p r q t)
    (handed : List BufferId) : p.Calm [] handed q := by
  cases hca with
  | nothing => exact .still handed
  | returned | disowned => exact .touched none handed Slot.alike_finish

theorem Resizes.calm {size : Extent} {r : Except PoolError Unit} (hr : Resizes a size p r q t)
    (hstill : ∀ d ∈ resizeDeeds q.layout r, d.isChange = false) (handed : List BufferId) :
    p.Calm (resizeDeeds q.layout r) handed q := by
  cases hr with
  | busy | degenerate | rejected => exact .still handed
  | resized => cases hstill _ (List.mem_singleton_self _)

theorem Changes.calm {gives : Slot → Trace} (hg : Changes f gives p q t)
    (hf : ∀ s, (f s).Alike s) (handed : List BufferId) : p.Calm [] handed q := by
  cases hg with
  | nothing => exact .still handed
  | changed => exact .touched p.current handed hf

theorem calm_perform (hp : p.Consistent) {o : Operation} (hstill : ∀ d ∈ p.deeds o, d.isChange = false)
    (hkept : ∀ a, o ≠ .release a) :
    p.Calm (p.deeds o) (p.perform o).trace.handedOut (p.perform o).pool := by
  rw [← Trace.handedOut_acts]
  cases o with
  | dequeue a => exact (dequeue_cases a hp.rests).calm (by rw [deeds, ← Trace.calls_acts]; rfl) hstill
  | present a dirty completion => exact (present_cases a dirty completion p).calm _
  | cancel a => exact (cancel_cases a p).calm _
  | resize a size => exact (resize_cases a size p).calm hstill _
  | release a => exact absurd rfl (hkept a)
  | takeFence => exact (takeFence_cases p).calm Slot.alike_takeFence _
  | draw => exact (draw_cases p).calm Slot.alike_draw _

/-! ## What they leave -/

/-- What operations leave that do the deeds of `ds` and keep the geometry, in a table with room for
`ids`. A buffer is wrapped only while no slot has it. -/
structure Settles (ids : Finset BufferId) (p : Pool) (ds : List Deed) (q : Pool) : Prop where
  houses : q.Houses ids
  retains : p.Retains q
  wrapped : ∀ id, (ds.filterMap Deed.wrapped?).count id + p.stock id ≤ q.stock id
  shown : ∀ j id, .shown j id ∈ ds →
    ∃ i s, q.slots.get? i = some s ∧ s.bufferId = some id ∧ s.valid = true

namespace Settles

theorem refl (h : p.Houses ids) : p.Settles ids [] p where
  houses := h
  retains := .refl p
  wrapped id := by simp
  shown := nofun

theorem trans (h : p.Settles ids ds m) (h' : m.Settles ids es q) : p.Settles ids (ds ++ es) q where
  houses := h'.houses
  retains := h.retains.trans h'.retains
  wrapped id := by
    have hds := h.wrapped id
    have hes := h'.wrapped id
    rw [List.filterMap_append, List.count_append]
    omega
  shown j id hmem := by
    rcases List.mem_append.mp hmem with hmem | hmem
    · obtain ⟨i, s, hs, hid, hv⟩ := h.shown j id hmem
      obtain ⟨t, ht, hst⟩ := h'.retains i s hs (Slot.isActive_of_bufferId hid)
      exact ⟨i, t, ht, hst.bufferId.trans hid, hst.valid hv⟩
    · exact h'.shown j id hmem

/-- Without a buffer wrapped. -/
theorem unwrapped (h : q.Houses ids) (hr : p.Retains q) (hw : ds.filterMap Deed.wrapped? = [])
    (hs : ∀ j id, .shown j id ∈ ds →
      ∃ i s, q.slots.get? i = some s ∧ s.bufferId = some id ∧ s.valid = true) :
    p.Settles ids ds q where
  houses := h
  retains := hr
  wrapped id := by
    rw [hw, List.count_nil, Nat.zero_add]
    exact hr.stock_le id
  shown := hs

end Settles

theorem Obtains.settles {f : Option Fence} {cs : List Call} (ho : Obtains b f i p cs q)
    (hp : p.Consistent) (h : p.Houses ids) (hid : b.id ∈ ids)
    (hi : p.slots.placeFor? b.id = some i) :
    p.Settles ids [.obtained i b (cs.findSome? Call.surface?)] q := by
  cases ho with
  | cached hs =>
    obtain ⟨s, hget, hsid, -, he⟩ := caches_iff.mp hs
    refine .unwrapped (h.modify rfl rfl fun u id hu huid => ?_) (.modify rfl fun u hu _ => ?_) rfl
      (by simp)
    · rw [hget] at hu
      cases hu
      obtain rfl : b.id = id := Option.some.inj huid
      exact ⟨hid, he⟩
    · rw [hget] at hu
      cases hu
      exact ⟨hsid.symm, rfl, fun hv => hv⟩
  | wrapped serial hs =>
    obtain ⟨⟨s, hget, hfree⟩, hnew⟩ := h.place_free hp hid hi hs
    have hretains : p.Retains (p.takeInto i (·.hold b (p.wrapped b serial) p.epoch) f) :=
      .modify rfl fun u hu ha => by
        cases hget.symm.trans hu
        cases hfree.symm.trans ha
    exact {
      houses := h.modify rfl rfl fun u id hu huid => by
        obtain rfl : b.id = id := Option.some.inj huid
        exact ⟨hid, rfl⟩
      retains := hretains
      wrapped := fun id => by
        by_cases hid : b.id = id
        · subst hid
          have hhas : (p.takeInto i (·.hold b (p.wrapped b serial) p.epoch) f).Has i b.id :=
            ⟨_, by rw [takeInto, SlotTable.get?_modify_self, hget]; rfl, rfl⟩
          rw [stock_of_not_has hnew, stock_of_has hhas]
          simp [Deed.wrapped?, Call.surface?]
        · have hle := hretains.stock_le id
          simpa [Deed.wrapped?, Call.surface?, hid] using hle
      shown := by simp }

theorem Calm.settles {handed : List BufferId} (hc : p.Calm ds handed q) (hp : p.Consistent)
    (h : p.Houses ids) (hids : ∀ id ∈ handed, id ∈ ids) : p.Settles ids ds q := by
  cases hc with
  | still => exact .refl h
  | obtained hb hi ho => exact ho.settles hp h (hids _ hb) hi
  | @shown c _ hcur =>
    obtain ⟨hi, hs, hb⟩ := current?_eq_some_iff.mp hcur
    refine .unwrapped (h.modify rfl rfl fun s id hs hid => h.slot _ s id hs hid)
      (.modify rfl fun s _ _ => ⟨rfl, rfl, fun _ => rfl⟩) rfl fun j id hmem => ?_
    obtain ⟨rfl, rfl⟩ : j = c.index ∧ id = c.buffer.id := by simpa using hmem
    refine ⟨c.index, c.slot.shown (p.presents + 1), ?_, bufferId_of_current? hcur, rfl⟩
    rw [presented, SlotTable.get?_modify_self, hs]
    rfl
  | touched c _ hf =>
    refine .unwrapped (h.modify rfl rfl fun s id hs hid => ?_)
      (.modify rfl fun s _ _ => (hf s).retains) rfl (by simp)
    rw [(hf s).epoch]
    exact h.slot _ s id hs ((hf s).bufferId ▸ hid)

/-! ## Every run -/

/-- A run that leaves the geometry, releases nothing and gets no other buffers than `ids`. -/
structure Spares (ids : Finset BufferId) (p : Pool) (os : List Operation) : Prop where
  still : ∀ d ∈ p.history os, d.isChange = false
  kept : ∀ a, .release a ∉ os
  handedOut : ∀ id ∈ (p.performAll os).2.handedOut, id ∈ ids

/-- So does each part of it. -/
theorem Spares.append {os us : List Operation} (h : p.Spares ids (os ++ us)) :
    p.Spares ids os ∧ (p.performAll os).1.Spares ids us := by
  have hstill := h.still
  rw [history_append] at hstill
  have hhanded := h.handedOut
  rw [performAll_append, Trace.handedOut_append] at hhanded
  obtain ⟨hstillPre, hstillPost⟩ := List.forall_mem_append.mp hstill
  obtain ⟨hhandedPre, hhandedPost⟩ := List.forall_mem_append.mp hhanded
  exact ⟨⟨hstillPre, fun a ha => h.kept a (List.mem_append_left us ha), hhandedPre⟩,
    ⟨hstillPost, fun a ha => h.kept a (List.mem_append_right os ha), hhandedPost⟩⟩

theorem Spares.settles {os : List Operation} (hos : p.Spares ids os) (hp : p.Consistent)
    (h : p.Houses ids) : p.Settles ids (p.history os) (p.performAll os).1 := by
  induction os generalizing p with
  | nil => exact .refl h
  | cons o os ih =>
    obtain ⟨hone, hrest⟩ : p.Spares ids [o] ∧ (p.perform o).pool.Spares ids os :=
      Spares.append hos
    have hcalm : p.Calm (p.deeds o) (p.perform o).trace.handedOut (p.perform o).pool :=
      calm_perform hp (by simpa [history] using hone.still) fun a ha => hos.kept a (by simp [ha])
    have ho := hcalm.settles hp h (by simpa using hone.handedOut)
    exact ho.trans (ih hrest (consistent_perform hp o) ho.houses)

/-- A table without buffers has room for as many as it has slots. -/
theorem houses_of_inactive (hempty : ∀ s ∈ p.slots.slots, s.isActive = false)
    (hcard : ids.card ≤ p.slots.capacity) : p.Houses ids where
  slot i s id hs hid := by
    have ha := hempty s (SlotTable.mem_slots_iff.mpr ⟨i, hs⟩)
    cases ha.symm.trans (Slot.isActive_of_bufferId hid)
  card_le := hcard

/-- A buffer with known pixels that is dequeued again has an age. -/
theorem Retains.age (h : p.Retains q) (hq : q.Consistent) {s : Slot}
    (hs : p.slots.get? i = some s) (hid : s.bufferId = some id) (hv : s.valid = true)
    (hcur : q.currentId = some id) : ∃ k, q.currentAge = some k := by
  obtain ⟨c, hc, rfl⟩ := Option.map_eq_some_iff.mp hcur
  obtain ⟨-, hcs, -⟩ := current?_eq_some_iff.mp hc
  obtain ⟨t, ht, hst⟩ := h i s hs (Slot.isActive_of_bufferId hid)
  obtain rfl := hq.distinct _ _ _ _ _ ht hcs (hst.bufferId.trans hid) (bufferId_of_current? hc)
  cases ht.symm.trans hcs
  exact ⟨_, (currentAge_eq_some_iff hc).mpr ⟨hst.valid hv, rfl⟩⟩

/-- After every run that leaves no slot with a buffer, go on in any way in which the geometry stays,
nothing is released, and the window hands out no more different buffers than there are slots. Then
the GPU wraps no buffer twice, no slot that has a buffer loses it, its surface or its pixels, and a
dequeue of a buffer that has been shown gives it an age. -/
theorem buffers_stay_while_they_fit (hp : Reachable p)
    (hempty : ∀ s ∈ p.slots.slots, s.isActive = false) (os : List Operation)
    (hstill : ∀ d ∈ p.history os, d.isChange = false) (hkept : ∀ a, .release a ∉ os)
    (hfit : (p.performAll os).2.handedOut.toFinset.card ≤ p.slots.capacity) :
    (p.performAll os).2.wrapped.Nodup ∧
      (∀ pre mid post, os = pre ++ mid ++ post →
        (p.performAll pre).1.Retains (p.performAll (pre ++ mid)).1) ∧
      ∀ pre a post, os = pre ++ .dequeue a :: post → ∀ b f i j, .shown j b.id ∈ p.history pre →
        a.dequeue = .given (b, f) → ((p.performAll pre).1.dequeue a).result = .ok i →
        ∃ k, ((p.performAll pre).1.dequeue a).pool.currentAge = some k := by
  have h := houses_of_inactive hempty hfit
  have hos : p.Spares (p.performAll os).2.handedOut.toFinset os :=
    ⟨hstill, hkept, fun id hid => List.mem_toFinset.mpr hid⟩
  have hafter : ∀ pre, (p.performAll pre).1.Consistent := fun pre => (hp.performAll pre).consistent
  refine ⟨?_, ?_, ?_⟩
  · rw [wrapped_performAll hp.consistent, List.nodup_iff_count_le_one]
    intro id
    have hle := (hos.settles hp.consistent h).wrapped id
    have hone := stock_le_one (p.performAll os).1 id
    omega
  · rintro pre mid post rfl
    obtain ⟨hpre, hmid⟩ := hos.append.1.append
    rw [performAll_append]
    exact (hmid.settles (hafter pre) (hpre.settles hp.consistent h).houses).retains
  · rintro pre a post rfl b f i j hshown hb hr
    obtain ⟨hpre, hpost⟩ := hos.append
    have hsettled := hpre.settles hp.consistent h
    obtain ⟨k, s, hs, hid, hv⟩ := hsettled.shown j b.id hshown
    have hone : (p.performAll pre).1.Spares _ [.dequeue a] := (Spares.append hpost).1
    have hdequeue := hone.settles (hafter pre) hsettled.houses
    have hd := dequeue_cases a (hafter pre).rests
    rw [hr] at hd
    obtain ⟨b', f', c, hb', hc, -, rfl⟩ := hd.current?
    cases hb.symm.trans hb'
    exact hdequeue.retains.age (consistent_perform (hafter pre) (.dequeue a)) hs hid hv
      (currentId_of_current? hc)

/-- A window of three buffers. Buffer 7 cannot be wrapped at first, buffer 8 is cancelled, and after
buffer 9 has been shown buffer 7 comes again: all three have kept their slots. -/
theorem buffers_stay_while_they_fit_three :
    let a := Answers.giving (.plain 7 1) none
    let b := Answers.giving (.plain 8 2) none
    let c := Answers.giving (.plain 9 3) none
    let pre : List Operation := [.dequeue { a with wrap := .refused "no memory" }, .dequeue a,
      .present a none none, .dequeue b, .cancel b, .dequeue c, .present c none none]
    let run := plain.performAll (pre ++ [.dequeue a])
    run.2.handedOut = [⟨7⟩, ⟨7⟩, ⟨8⟩, ⟨9⟩, ⟨7⟩] ∧ run.2.wrapped.Nodup ∧
      (plain.performAll pre).1.Retains run.1 ∧ ∃ k, run.1.currentAge = some k := by
  intro a b c pre run
  have hr : ((plain.performAll pre).1.dequeue a).result = .ok 0 := by
    simp only [pre, a, b, c]
    rfl
  obtain ⟨hwrapped, hstay, hage⟩ := buffers_stay_while_they_fit reachable_plain (by decide)
    (pre ++ [.dequeue a]) (by decide) (by simp [pre]) (by decide)
  have hlast : ∀ q : Pool, (q.performAll [.dequeue a]).1 = (q.dequeue a).pool := fun _ => rfl
  refine ⟨by decide, hwrapped, hstay pre [.dequeue a] [] (by simp), ?_⟩
  rw [show run = plain.performAll (pre ++ [.dequeue a]) from rfl, performAll_append, hlast]
  exact hage pre a [] rfl (.plain 7 1) none 0 0 (by decide) rfl hr

end Pool
end Swapchain
