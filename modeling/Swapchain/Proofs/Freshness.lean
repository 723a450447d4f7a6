import Swapchain.Proofs.Sizes

/-!
# Which surfaces may be drawn on

A surface is *fresh* if the geometry has not changed since it was wrapped. The pool knows this by
the epoch of the slot alone: `Dated` says that a slot's epoch is that of the pool exactly if its
surface is fresh. So the current surface is always fresh, and a buffer is wrapped again exactly if
no slot has a fresh surface for it.

* `Surface.Fresh`: a surface that may be drawn on, by the history;
* `Pool.Dated`: epochs say which surfaces are fresh;
* `Pool.Holds`: a fresh surface that some slot holds for a buffer;
* `Pool.surfaces_fresh`: what is drawn on, and when a buffer is wrapped, in every run.
-/

namespace Swapchain

/-- The surface was wrapped in the history, and the geometry has not changed since. -/
def Surface.Fresh (h : List Deed) (u : Surface) : Prop :=
  ∃ i pre post, h = pre ++ .obtained i u.buffer (some u.made) :: post ∧
    ∀ e ∈ post, e.isChange = false

namespace Surface

variable {h : List Deed} {d : Deed} {u v : Surface}

/-- Draws on a surface do not matter. -/
theorem Fresh.of_made (hu : u.Fresh h) (huv : u.made = v.made) : v.Fresh h := by
  unfold Fresh at hu ⊢
  rwa [← huv, ← (eq_of_made huv).1]

theorem fresh_concat : u.Fresh (h ++ [d]) ↔
    (∃ i, d = .obtained i u.buffer (some u.made)) ∨ d.isChange = false ∧ u.Fresh h := by
  constructor
  · rintro ⟨i, hs⟩
    rcases split_concat.mp hs with ⟨hd, -⟩ | ⟨pre, post, hh, hpost⟩
    · exact .inl ⟨i, hd⟩
    · obtain ⟨hpost, hd⟩ := List.forall_mem_append.mp hpost
      exact .inr ⟨hd d List.mem_cons_self, i, pre, post, hh, hpost⟩
  · rintro (⟨i, hd⟩ | ⟨hd, i, pre, post, hh, hpost⟩)
    · exact ⟨i, split_concat.mpr (.inl ⟨hd, List.forall_mem_nil _⟩)⟩
    · refine ⟨i, split_concat.mpr (.inr ⟨pre, post, hh, ?_⟩)⟩
      exact List.forall_mem_append.mpr ⟨hpost, by simpa using hd⟩

theorem fresh_toList {d : Option Deed} : u.Fresh (h ++ d.toList) ↔
    (∃ i, d = some (.obtained i u.buffer (some u.made))) ∨
      d.any Deed.isChange = false ∧ u.Fresh h := by
  cases d with
  | none => simp
  | some d => simpa using fresh_concat

/-- Nothing is fresh as the geometry changes. -/
theorem not_fresh_of_change {ds : List Deed} (hne : ds ≠ []) (hds : ∀ e ∈ ds, e.isChange = true) :
    ¬ u.Fresh (h ++ ds) := by
  obtain ⟨init, d, rfl⟩ := (List.eq_nil_or_concat ds).resolve_left hne
  rw [List.concat_eq_append] at hds ⊢
  have hd := hds d (List.mem_append_right _ List.mem_cons_self)
  rw [← List.append_assoc, fresh_concat, hd]
  rintro (⟨i, rfl⟩ | ⟨⟨⟩, -⟩)
  cases hd

end Surface

namespace Pool

variable {p₀ p q : Pool} {a : Answers} {t : Trace} {h : List Deed} {n : UInt32}

/-! ## Epochs -/

theorem Relays.isChange {d : Deed} {l : Layout} (hl : p.Relays d l) : d.isChange = true := by
  cases hl <;> rfl

/-- The epoch grows as the geometry changes. -/
theorem Move.epoch {d : Option Deed} (hm : Move p d q) :
    q.epoch = if d.any Deed.isChange then p.epoch + 1 else p.epoch := by
  cases hm with
  | relaid hc hl => simp [hl.isChange]
  | renewed | wrapped | shown | touched | released => rfl

/-- A buffer comes into its place. -/
theorem Move.place {i : Nat} {b : Buffer} {u : Option Surface}
    (hm : Move p (some (.obtained i b u)) q) : p.slots.placeFor? b.id = some i := by
  cases hm with
  | relaid hc hl => cases hl
  | renewed hc hb hi | wrapped serial hc hb hi => exact hi

/-- A slot that has obtained a buffer is of the epoch. -/
theorem Becomes.epoch_eq {i : Nat} {b : Buffer} {u : Option Surface} {s : Slot}
    (hs : p.Becomes i (some (.obtained i b u)) s) : s.epoch = p.epoch := by
  cases hs with
  | alike hs₀ ha hd => exact absurd rfl (hd _ rfl)
  | renewed f hs₀ hid he => exact he
  | wrapped => rfl

/-- Epochs say which surfaces are fresh. -/
structure Dated (h : List Deed) (p : Pool) : Prop where
  epoch_le : ∀ i s, p.slots.get? i = some s → s.epoch ≤ p.epoch
  fresh : ∀ i s u, p.slots.get? i = some s → s.surface = some u → s.epoch = p.epoch → u.Fresh h
  epoch_eq : ∀ i s (u : Surface), p.slots.get? i = some s → s.bufferId = some u.buffer.id →
    u.Fresh h → s.epoch = p.epoch
  current : ∀ c, p.current? = some c → c.slot.epoch = p.epoch

namespace Dated

theorem ofCapacity {n : Nat} (hc : p.current = none) (hs : p.slots = .ofCapacity n) :
    p.Dated h where
  epoch_le i s hi := by
    rw [hs] at hi
    rw [SlotTable.eq_empty_of_get?_ofCapacity hi]
    exact Nat.zero_le _
  fresh i s u hi hu := by
    rw [hs] at hi
    rw [SlotTable.eq_empty_of_get?_ofCapacity hi] at hu
    cases hu
  epoch_eq i s u hi hid := by
    rw [hs] at hi
    rw [SlotTable.eq_empty_of_get?_ofCapacity hi] at hid
    cases hid
  current c hq := by
    rw [current?_eq_some_iff, hc] at hq
    cases hq.1

variable (hp : p.Dated h) {d : Option Deed}
include hp

/-- What is known of a slot that has not been emptied or filled. -/
theorem kept {s₀ s : Slot} {i : Nat} (hm : Move p d q) (hs : p.slots.get? i = some s₀)
    (he : s.epoch = s₀.epoch) (hq : s.epoch = q.epoch) :
    d.any Deed.isChange = false ∧ s₀.epoch = p.epoch := by
  have hle := hp.epoch_le i s₀ hs
  rw [hm.epoch] at hq
  split at hq
  · omega
  · rename_i hd
    exact ⟨eq_false_of_ne_true hd, he.symm.trans hq⟩

/-- A slot that is current after a move is of the epoch. -/
theorem current_move (hm : Move p d q) {c : Current} (hq : q.current? = some c) :
    c.slot.epoch = q.epoch := by
  obtain ⟨i, s, b⟩ := c
  obtain ⟨hi, hs, hb⟩ := current?_eq_some_iff.mp hq
  rcases hm.becomes hs with rfl | ⟨-, hbec⟩
  · cases hb
  cases hm with
  | relaid hnone => cases hnone.symm.trans hi
  | renewed | wrapped =>
    cases hi
    exact hbec.epoch_eq
  | shown | released => cases hi
  | touched hf hcur =>
    rcases hcur with rfl | rfl
    · cases hi
    · cases hbec with
      | @alike _ s₀ _ hs₀ ha =>
        have hp₀ : p.current? = some ⟨i, s₀, b⟩ :=
          current?_eq_some_iff.mpr ⟨hi, hs₀, ha.buffer.symm.trans hb⟩
        exact ha.epoch.trans (hp.current _ hp₀)

theorem move (hm : Move p d q) (hc : p.Consistent) : q.Dated (h ++ d.toList) where
  epoch_le i s hs := by
    have hq : p.epoch ≤ q.epoch := by
      rw [hm.epoch]
      split <;> omega
    rcases hm.becomes hs with rfl | ⟨-, hb⟩
    · exact Nat.zero_le _
    · refine Nat.le_trans ?_ hq
      cases hb with
      | alike hs₀ ha => exact ha.epoch ▸ hp.epoch_le _ _ hs₀
      | renewed f hs₀ | shown hs₀ => exact (hp.epoch_le _ _ hs₀ :)
      | wrapped => exact Nat.le_refl _
  fresh i s u hs hu he := by
    rw [Surface.fresh_toList]
    rcases hm.becomes hs with rfl | ⟨-, hb⟩
    · cases hu
    · cases hb with
      | alike hs₀ ha =>
        obtain ⟨hd, he₀⟩ := hp.kept hm hs₀ ha.epoch he
        obtain ⟨v, hv, hvu⟩ := ha.made hu
        exact .inr ⟨hd, (hp.fresh _ _ v hs₀ hv he₀).of_made hvu⟩
      | renewed f hs₀ | shown hs₀ =>
        obtain ⟨hd, he₀⟩ := hp.kept hm hs₀ rfl he
        exact .inr ⟨hd, hp.fresh _ _ u hs₀ hu he₀⟩
      | wrapped =>
        cases hu
        exact .inl ⟨i, rfl⟩
  epoch_eq i s u hs hid hu := by
    rw [hm.epoch]
    rcases Surface.fresh_toList.mp hu with ⟨j, rfl⟩ | ⟨hd, hu₀⟩
    · rw [if_neg (by simp [Deed.isChange, Deed.layout?, Deed.isAdoption])]
      rcases hm.becomes hs with rfl | ⟨-, hb⟩
      · cases hid
      · generalize hd : some (Deed.obtained j u.buffer (some u.made)) = d at hb
        cases hb with
        | alike hs₀ ha hne =>
          -- A surface that is new is in the only slot that remembers its buffer.
          have hij := hc.distinct.only_place hm.place hs₀ (ha.bufferId ▸ hid)
          exact absurd (congrArg some hij.symm) (hne _ hd.symm)
        | renewed | shown => cases hd
        | wrapped => rfl
    · rw [hd]
      rcases hm.becomes hs with rfl | ⟨-, hb⟩
      · cases hid
      · cases hb with
        | alike hs₀ ha => exact ha.epoch.trans (hp.epoch_eq _ _ u hs₀ (ha.bufferId ▸ hid) hu₀)
        | renewed f hs₀ hid₀ he => exact he
        | shown hs₀ => exact (hp.epoch_eq _ _ u hs₀ hid hu₀ :)
        | wrapped => rfl
  current c hq := hp.current_move hm hq

end Dated

theorem Life.dated (hp : Life p₀ h p) : p.Dated h := by
  induction hp with
  | created hp =>
    obtain ⟨m, dataspace, requested, -, -, -, -, rfl, -⟩ := create_eq_ok hp
    exact .ofCapacity rfl rfl
  | moved hp hm _ ih => exact ih.move hm hp.consistent

/-! ## Dequeuing -/

/-- Some slot holds for a buffer a fresh surface of a description. -/
def Holds (p : Pool) (h : List Deed) (spec : SurfaceSpec) (id : BufferId) (u : Surface) : Prop :=
  ∃ s ∈ p.slots.slots, s.bufferId = some id ∧ s.surface = some u ∧ u.buffer.id = id ∧
    u.spec = spec ∧ u.Fresh h

/-- A buffer's place has a surface of the epoch exactly if some slot holds a fresh one for it. -/
theorem Life.caches_iff_holds (hp : Life p₀ h p) (h₀ : p₀.Sized n) {i : Nat} {id : BufferId}
    (hi : p.slots.placeFor? id = some i) :
    p.caches i id = true ↔ ∃ u, p.Holds h p.spec id u := by
  rw [caches_iff]
  constructor
  · rintro ⟨s, hs, hid, hsome, he⟩
    obtain ⟨u, hu⟩ := Option.isSome_iff_exists.mp hsome
    obtain ⟨hspec, hub⟩ := ((hp.sized h₀).fits i s hs).surface u hu
    have hid' : u.buffer.id = id := Option.some.inj (hub.symm.trans hid)
    exact ⟨u, s, SlotTable.mem_slots_iff.mpr ⟨i, hs⟩, hid, hu, hid', hspec,
      hp.dated.fresh i s u hs hu he⟩
  · rintro ⟨u, s, hs, hid, hu, hub, -, hfresh⟩
    obtain ⟨j, hj⟩ := SlotTable.mem_slots_iff.mp hs
    obtain rfl := hp.consistent.distinct.only_place hi hj hid
    exact ⟨s, hj, hid, by simp [hu], hp.dated.epoch_eq j s u hj (hub ▸ hid) hfresh⟩

/-- A newer handle leaves the surface of its buffer. -/
theorem Holds.takeInto {spec : SurfaceSpec} {b : Buffer} {u : Surface}
    (hu : p.Holds h spec b.id u) (hp : p.Consistent) {i : Nat} (f : Option Fence)
    (hi : p.slots.placeFor? b.id = some i) :
    (p.takeInto i (·.renew b) f).currentSurface = some u := by
  obtain ⟨s, hs, hid, hu, -⟩ := hu
  obtain ⟨j, hj⟩ := SlotTable.mem_slots_iff.mp hs
  obtain rfl := hp.distinct.only_place hi hj hid
  have hc : (p.takeInto j (·.renew b) f).current? = some ⟨j, (s.renew b).start f, b⟩ :=
    current?_takeInto f hj rfl
  rw [currentSurface, hc]
  exact hu

theorem Follows.not_wrap {r : Except PoolError Unit} {b : Buffer} {spec : SurfaceSpec}
    {x : Answer Nat} (hf : Follows a p r q t) : .wrap b spec x ∉ t.calls := by
  cases hf <;> simp [Trace.calls]

/-- The changes of geometry by which a buffer of a size is dequeued, from what the window has been
asked by then. -/
def dequeueChanges (q : Pool) (b : Buffer) (cs : List Call) : List Deed :=
  (if cs.any Call.isTaken then [.configured q.layout] else []) ++
    (if b.size = q.layout.physicalSize then [] else [.adopted b])

theorem isChange_of_mem_dequeueChanges {b : Buffer} {cs : List Call} {d : Deed}
    (hd : d ∈ q.dequeueChanges b cs) : d.isChange = true := by
  unfold dequeueChanges at hd
  rcases List.mem_append.mp hd with hd | hd
  · split at hd
    · rw [List.mem_singleton.mp hd]
      rfl
    · cases hd
  · split at hd
    · cases hd
    · rw [List.mem_singleton.mp hd]
      rfl

/-- Without a change of geometry the pool stays as it is until the buffer comes into its slot. -/
theorem Follows.eq_self {r : Except PoolError Unit} (hf : Follows a p r q t) {b : Buffer}
    {m : Pool} (hm : q.adopt b = .ok m) (hnone : q.dequeueChanges b t.calls = []) : m = p := by
  obtain ⟨htaken, hsize⟩ := List.append_eq_nil_iff.mp hnone
  have hq : q = p := by
    cases hf with
    | stays | rejected => rfl
    | turned => cases htaken
  rcases adopt_cases hm with ⟨-, hmq⟩ | ⟨hne, -⟩
  · exact hmq.trans hq
  · rw [if_neg hne] at hsize
    cases hsize

theorem filter_dequeueDeeds {i : Nat} {b : Buffer} {f : Option Fence} {cs : List Call}
    (hb : a.dequeue = .given (b, f)) :
    (dequeueDeeds a q (.ok i) cs).filter Deed.isChange = q.dequeueChanges b cs := by
  rw [dequeueDeeds_ok hb, dequeueChanges]
  split <;> split <;> rfl

/-- A dequeue that succeeds first makes its geometry changes, if any, and then the buffer comes into
its slot. -/
theorem Dequeues.obtains {i : Nat} (hd : Dequeues a p (.ok i) q t) (hp : Life p₀ h p) {b : Buffer}
    {f : Option Fence} (hb : a.dequeue = .given (b, f)) {now : List Deed}
    (hnow : now = h ++
      (dequeueDeeds a (p.followHint a).pool (.ok i) t.calls).filter Deed.isChange) :
    ∃ m cs, Life p₀ now m ∧ m.slots.placeFor? b.id = some i ∧ Obtains b f i m cs q ∧
      (m = p ∨ ∀ u : Surface, ¬ u.Fresh now) ∧
      ∀ c spec x, .wrap c spec x ∈ t.calls ↔ .wrap c spec x ∈ cs := by
  cases hd with
  | @acquires m₀ _ _ t u hc hf ha =>
    obtain ⟨hm₀, hm₀c⟩ := hf.life hp (hp.consistent.current_eq_none hc)
    obtain ⟨b', f', m, cs, hb', hm, hi, hcs, ho⟩ := ha.obtains
    cases hb.symm.trans hb'
    have hchanges : m₀.dequeueChanges b (t ++ u).calls = m₀.dequeueChanges b t.calls := by
      rw [dequeueChanges, Trace.calls_append, List.any_append, ha.taken, Bool.or_false,
        dequeueChanges]
    rw [hf.pool_eq, filter_dequeueDeeds hb, hchanges] at hnow
    subst hnow
    refine ⟨m, cs, ?_, hi, ho, ?_, fun c spec x => ?_⟩
    · rw [dequeueChanges, ← List.append_assoc]
      exact (hm₀.adopt hm₀c hm).1
    · by_cases hnone : m₀.dequeueChanges b t.calls = []
      · exact .inl (hf.eq_self hm hnone)
      · exact .inr fun u =>
          Surface.not_fresh_of_change hnone fun e => isChange_of_mem_dequeueChanges
    · rw [Trace.calls_append, hcs, List.mem_append, List.mem_cons]
      simp [hf.not_wrap]

/-- A buffer is wrapped in a dequeue that succeeds exactly if no slot has held a fresh surface for
it, by then. A surface that some slot has held is kept. -/
theorem Dequeues.wraps {i : Nat} (hd : Dequeues a p (.ok i) q t) (hp : Life p₀ h p)
    (h₀ : p₀.Sized n) {b : Buffer} {f : Option Fence} (hb : a.dequeue = .given (b, f))
    {now : List Deed} (hnow : now = h ++
      (dequeueDeeds a (p.followHint a).pool (.ok i) t.calls).filter Deed.isChange) :
    ((∃ c spec x, .wrap c spec x ∈ t.calls) ↔ ¬ ∃ u, p.Holds now q.spec b.id u) ∧
      ∀ u, p.Holds now q.spec b.id u → q.currentSurface = some u := by
  obtain ⟨m, cs, hm, hi, ho, hstill, hcalls⟩ := hd.obtains hp hb hnow
  have hspec : q.spec = m.spec := by cases ho <;> rfl
  have hholds : ∀ u, p.Holds now q.spec b.id u ↔ m.Holds now m.spec b.id u := fun u => by
    rw [hspec]
    rcases hstill with rfl | hnone
    · rfl
    · exact iff_of_false (fun ⟨_, _, _, _, _, _, hu⟩ => hnone u hu)
        fun ⟨_, _, _, _, _, _, hu⟩ => hnone u hu
  simp only [hholds, hcalls]
  have hcaches := hm.caches_iff_holds h₀ hi
  cases ho with
  | cached hs =>
    exact ⟨iff_of_false (by simp) (not_not_intro (hcaches.mp hs)),
      fun u hu => hu.takeInto hm.consistent f hi⟩
  | wrapped serial hs =>
    have hnone : ¬ ∃ u, m.Holds now m.spec b.id u := fun hu => by
      rw [hcaches.mpr hu] at hs
      cases hs
    exact ⟨iff_of_true ⟨b, m.spec, .given serial, List.mem_singleton_self _⟩ hnone,
      fun u hu => absurd ⟨u, hu⟩ hnone⟩

/-! ## Every run -/

theorem Life.color (hp : Life p₀ h p) : p.color = p₀.color := by
  induction hp with
  | created => rfl
  | moved _ hm _ ih => exact hm.layout.1.2.2.2.trans ih

/-- The current surface is fresh, and of the description of its pool. -/
theorem Life.currentSurface (hp : Life p₀ h p) (h₀ : p₀.Sized n) {c : Current}
    (hc : p.current? = some c) :
    ∃ u, c.slot.surface = some u ∧ u.buffer.id = c.buffer.id ∧ u.spec = p.spec ∧ u.Fresh h := by
  obtain ⟨-, hs, -⟩ := current?_eq_some_iff.mp hc
  have hid := bufferId_of_current? hc
  obtain ⟨u, hu⟩ := (hp.consistent.whole _ _ hs).exists_surface hid
  obtain ⟨hspec, hub⟩ := ((hp.sized h₀).fits _ _ hs).surface u hu
  exact ⟨u, hu, Option.some.inj (hub.symm.trans hid), hspec,
    hp.dated.fresh _ _ u hs hu (hp.dated.current c hc)⟩

/-- After every run the surface of the current buffer has been wrapped for this buffer, to the size,
colours and usage of the pool, and since then the geometry has not changed. A dequeue that succeeds
wraps the buffer exactly if no slot has held such a surface for it, the changes of geometry that the
dequeue makes included; one that has been held is kept. -/
theorem surfaces_fresh {query : Answer WindowProfile} {gpu : GpuLimits}
    {configured : Answer Unit} {color : ColorSetup} {settings : Settings}
    (h : (create query gpu configured color settings).result = .ok p) (os : List Operation) :
    let q := (p.performAll os).1
    (∀ c, q.current? = some c → ∃ u, c.slot.surface = some u ∧ u.buffer.id = c.buffer.id ∧
        u.spec = ⟨q.layout.physicalSize, color.type, color.space, color.type.textureFormat,
          q.layout.usage⟩ ∧
        u.Fresh (p.past os) ∧ .wrap u.buffer u.spec (.given u.serial) ∈ (p.performAll os).2.calls) ∧
      ∀ a i b f, (q.dequeue a).result = .ok i → a.dequeue = .given (b, f) →
        let o := q.dequeue a
        let now := p.past os ++ (q.deeds (.dequeue a)).filter Deed.isChange
        ((∃ c spec x, .wrap c spec x ∈ o.trace.calls) ↔
            ¬ ∃ u, q.Holds now o.pool.spec b.id u) ∧
          ∀ u, q.Holds now o.pool.spec b.id u → o.pool.currentSurface = some u := by
  intro q
  have hlife : Life p (p.past os) q := Life.of_create h os
  have h₀ := sized_create h
  have hcolor : q.color = color := by
    obtain ⟨m, dataspace, requested, -, -, -, -, rfl, -⟩ := create_eq_ok h
    exact hlife.color
  refine ⟨fun c hc => ?_, fun a i b f hr hb => ?_⟩
  · obtain ⟨u, hu, hid, hspec, hfresh⟩ := hlife.currentSurface h₀ hc
    obtain ⟨j, hj⟩ := hlife.wrapped (current?_eq_some_iff.mp hc).2.1 hu
    have hcall := wrap_mem_calls (consistent_create h) hj
    rw [spec, specOf, hcolor] at hspec
    exact ⟨u, hu, hid, hspec, hfresh, hcall⟩
  · intro o now
    have hd := dequeue_cases a hlife.consistent.rests
    rw [hr] at hd
    have hnow : now = p.past os ++
        (dequeueDeeds a (q.followHint a).pool (.ok i) o.acts.calls).filter Deed.isChange := by
      rw [Outcome.acts, Trace.calls_acts, ← hr]
      rfl
    have hw := hd.wraps hlife h₀ hb hnow
    rwa [Outcome.acts, Trace.calls_acts] at hw

/-- A frame has been shown. If the buffer comes again its surface is kept; if the window is turned
upside down at once, the buffer is wrapped again although it has the same size. -/
theorem surfaces_fresh_flipped :
    let a := Answers.giving (.plain 7 1) none
    let flipped := { a with hint := .given .rot180, wrap := .given 2 }
    let q := (plain.performAll [.dequeue a, .present a none none]).1
    let past := plain.past [.dequeue a, .present a none none]
    (∃ u, q.Holds (past ++ (q.deeds (.dequeue a)).filter Deed.isChange)
        (q.dequeue a).pool.spec ⟨7⟩ u) ∧
      (q.dequeue flipped).pool.spec = (q.dequeue a).pool.spec ∧
      ¬ ∃ u, q.Holds (past ++ (q.deeds (.dequeue flipped)).filter Deed.isChange)
        (q.dequeue flipped).pool.spec ⟨7⟩ u := by
  intro a flipped q past
  obtain ⟨-, hdequeue⟩ := surfaces_fresh create_plain [.dequeue a, .present a none none]
  have hflipped : (q.dequeue flipped).result = .ok 0 := by
    simp only [q, flipped, a]
    rfl
  obtain ⟨hkept, -⟩ := hdequeue a 0 (.plain 7 1) none rfl rfl
  obtain ⟨hwrapped, -⟩ := hdequeue flipped 0 (.plain 7 1) none hflipped rfl
  refine ⟨Classical.byContradiction fun hnone => ?_, by decide,
    hwrapped.mp ⟨.plain 7 1, (q.dequeue a).pool.spec, .given 2, by decide⟩⟩
  obtain ⟨c, spec, x, hc⟩ := hkept.mpr hnone
  have hcalls : (q.dequeue a).trace.calls = [.hint (.given ⟨0⟩), .dequeue a.dequeue] := by decide
  have hc : .wrap c spec x ∈ (q.dequeue a).trace.calls := hc
  simp [hcalls] at hc

end Pool
end Swapchain
