import Swapchain.Proofs.Rollback

/-!
# What a run has done

How old the pixels of a buffer are and whether its surface may be drawn on depends on what has been
done since. A `Deed` is what counts in this: the window took a layout, buffers of another size
were adopted, a buffer came into a slot, a buffer was shown, or everything was released. The deeds
of an operation are read off its answer, its calls and the layouts it leaves, so they know nothing
of epochs, counters and flags.

`Move` lists the ways in which a pool changes with at most one deed, and an operation is a few moves
in a row. What holds of a pool and its past is proved by induction on `Life`, move by move.

* `Pool.deeds`, `Pool.history`, `Pool.past`: the deeds of an operation, of a run, and of a run
  with its creation;
* `Pool.Move`: one change of a pool;
* `Pool.Life`: a pool that was created, what has been done to it, and what it is now;
* `Pool.Life.performAll`: every run is a life.
-/

namespace Swapchain

/-- What counts of the things done to a pool. -/
inductive Deed where
  /-- The window took the request of a layout, and the pool went over to the layout. -/
  | configured (l : Layout)
  /-- The window handed out a buffer of another size than the layout had, and the pool went over
  to it. -/
  | adopted (b : Buffer)
  /-- A buffer came into a slot, with the surface that was wrapped for it, if one was. -/
  | obtained (index : Nat) (b : Buffer) (surface : Option Surface)
  /-- The buffer in a slot was shown. -/
  | shown (index : Nat) (id : BufferId)
  | released
  deriving DecidableEq, Repr

namespace Deed

/-- The layout that the window took. -/
def layout? : Deed → Option Layout
  | configured l => some l
  | _ => none

/-- Whether buffers have another size since. -/
def isAdoption : Deed → Bool
  | adopted _ => true
  | _ => false

/-- Whether the geometry has changed. -/
def isChange (d : Deed) : Bool := d.layout?.isSome || d.isAdoption

/-- Whether a buffer was shown. -/
def isShown : Deed → Bool
  | shown _ _ => true
  | _ => false

/-- The slot that the deed is about. -/
def index? : Deed → Option Nat
  | obtained i _ _ | shown i _ => some i
  | _ => none

end Deed

/-- The surface as the GPU made it, not drawn on yet. -/
def Surface.made (u : Surface) : Surface := { u with draws := 0 }

theorem Surface.eq_of_made {u v : Surface} (h : u.made = v.made) :
    u.buffer = v.buffer ∧ u.spec = v.spec ∧ u.serial = v.serial := by
  simp only [made, Surface.mk.injEq] at h
  exact ⟨h.2.1, h.2.2.1, h.1⟩

/-- The surface that the GPU made in a call. -/
def Call.surface? : Call → Option Surface
  | .wrap buffer spec (.given serial) => some { serial, buffer, spec, draws := 0 }
  | _ => none

theorem Call.eq_wrap_of_surface? {c : Call} {u : Surface} (h : c.surface? = some u) :
    c = .wrap u.buffer u.spec (.given u.serial) := by
  unfold surface? at h
  split at h <;> cases h
  rfl

/-- In a list that grows at its end, an element is the new one or has the new one after it. -/
theorem split_concat {α : Type} {h : List α} {d e : α} {Q : List α → Prop} :
    (∃ pre post, h ++ [e] = pre ++ d :: post ∧ Q post) ↔
      e = d ∧ Q [] ∨ ∃ pre post, h = pre ++ d :: post ∧ Q (post ++ [e]) := by
  constructor
  · rintro ⟨pre, post, heq, hq⟩
    rcases List.eq_nil_or_concat post with rfl | ⟨post, x, rfl⟩
    · obtain ⟨-, he⟩ := List.append_inj' heq rfl
      exact .inl ⟨List.singleton_inj.mp he, hq⟩
    · rw [List.concat_eq_append, ← List.cons_append, ← List.append_assoc] at heq
      obtain ⟨rfl, he⟩ := List.append_inj' heq rfl
      rw [List.concat_eq_append, ← List.singleton_inj.mp he] at hq
      exact .inr ⟨pre, post, rfl, hq⟩
  · rintro (⟨rfl, hq⟩ | ⟨pre, post, rfl, hq⟩)
    · exact ⟨h, [], rfl, hq⟩
    · exact ⟨pre, post ++ [e], by simp, hq⟩

namespace Pool

/-- The deeds of a dequeue, from its answer and its calls; `q` is the pool once the transform hint
has been followed. -/
def dequeueDeeds (a : Answers) (q : Pool) (r : Except PoolError Nat) (cs : List Call) :
    List Deed :=
  let turned := if cs.any Call.isTaken then [Deed.configured q.layout] else []
  match r, a.dequeue with
  | .ok i, .given (b, _) =>
    let resized := if b.size = q.layout.physicalSize then [] else [Deed.adopted b]
    turned ++ resized ++ [.obtained i b (cs.findSome? Call.surface?)]
  | _, _ => turned

/-- The deeds of a present, from what was current and its answer. -/
def presentDeeds : Option Current → Except PoolError Unit → List Deed
  | some c, .ok () => [.shown c.index c.buffer.id]
  | _, _ => []

/-- The deeds of a resize, from its answer and the layout it leaves. -/
def resizeDeeds (l : Layout) : Except PoolError Unit → List Deed
  | .ok () => [.configured l]
  | .error _ => []

/-- The deeds of an operation, in their order. -/
def deeds (p : Pool) : Operation → List Deed
  | .dequeue a =>
    dequeueDeeds a (p.followHint a).pool (p.dequeue a).result (p.dequeue a).trace.calls
  | .present a dirty completion => presentDeeds p.current? (p.present a dirty completion).result
  | .resize a size => resizeDeeds (p.resize a size).pool.layout (p.resize a size).result
  | .release _ => [.released]
  | .cancel _ | .takeFence | .draw => []

theorem dequeueDeeds_error {a : Answers} {q : Pool} {e : PoolError} {cs : List Call} :
    dequeueDeeds a q (.error e) cs =
      if cs.any Call.isTaken then [.configured q.layout] else [] := by
  rw [dequeueDeeds]
  nofun

theorem dequeueDeeds_ok {a : Answers} {q : Pool} {i : Nat} {b : Buffer} {f : Option Fence}
    {cs : List Call} (hd : a.dequeue = .given (b, f)) :
    dequeueDeeds a q (.ok i) cs =
      (if cs.any Call.isTaken then [.configured q.layout] else []) ++
        (if b.size = q.layout.physicalSize then [] else [.adopted b]) ++
        [.obtained i b (cs.findSome? Call.surface?)] := by
  simp only [dequeueDeeds, hd]

/-- The deeds of a run, oldest first. -/
def history (p : Pool) : List Operation → List Deed
  | [] => []
  | o :: os => p.deeds o ++ (p.perform o).pool.history os

theorem history_append (p : Pool) (os us : List Operation) :
    p.history (os ++ us) = p.history os ++ (p.performAll os).1.history us := by
  induction os generalizing p with
  | nil => rfl
  | cons o os ih =>
    rw [List.cons_append, history, history, ih, List.append_assoc]
    rfl

/-- The deeds of a run, its creation included: the window took the first layout. -/
def past (p : Pool) (os : List Operation) : List Deed := .configured p.layout :: p.history os

end Pool

/-! ## Moves -/

/-- Two slots that remember the same, except whose fence it is, whether the buffer is dequeued, and
how often the surface has been drawn on. -/
structure Slot.Alike (s t : Slot) : Prop where
  buffer : s.buffer = t.buffer
  surface : s.surface.map Surface.made = t.surface.map Surface.made
  lastShown : s.lastShown = t.lastShown
  valid : s.valid = t.valid
  epoch : s.epoch = t.epoch

/-- The surfaces of two such slots have been made in the same call. -/
theorem Slot.Alike.made {s t : Slot} {u : Surface} (h : s.Alike t) (hu : s.surface = some u) :
    ∃ v, t.surface = some v ∧ v.made = u.made := by
  have hs := h.surface
  rw [hu] at hs
  exact Option.map_eq_some_iff.mp hs.symm

theorem Slot.Alike.symm {s t : Slot} (h : s.Alike t) : t.Alike s :=
  ⟨h.buffer.symm, h.surface.symm, h.lastShown.symm, h.valid.symm, h.epoch.symm⟩

theorem Slot.alike_finish (s : Slot) : s.finish.Alike s := ⟨rfl, rfl, rfl, rfl, rfl⟩

theorem Slot.alike_takeFence (s : Slot) : s.takeFence.Alike s := ⟨rfl, rfl, rfl, rfl, rfl⟩

theorem Slot.alike_draw (s : Slot) : s.draw.Alike s := by
  refine ⟨rfl, ?_, rfl, rfl, rfl⟩
  unfold Slot.draw
  cases s.surface <;> rfl

namespace Pool

variable {p₀ p q : Pool} {a : Answers} {t : Trace} {h : List Deed}

/-- The layouts that a pool goes over to, and the deed by which it does. -/
inductive Relays (p : Pool) : Deed → Layout → Prop where
  /-- Another transform or another logical size, brought within the bounds. -/
  | configured (turn : Transform) (size : Extent) {l : Layout}
      (hl : l = { p.layout with transform := turn, logicalSize := size }.resolve
        p.minSize p.maxSize) :
    Relays p (.configured l) l
  | adopted {b : Buffer} (hne : b.size ≠ p.layout.physicalSize)
      (hb : ((p.layoutOf b).resolve smallest p.gpuMax).physicalSize = b.size) :
    Relays p (.adopted b) ((p.layoutOf b).resolve smallest p.gpuMax)

/-- One change of a pool, with the deed it is, if it is one. -/
inductive Move (p : Pool) : Option Deed → Pool → Prop where
  /-- A new epoch. The table keeps its slots only if buffers keep their size. -/
  | relaid {d : Deed} {l : Layout} {u : SlotTable} (hc : p.current = none) (hl : p.Relays d l)
      (hu : u = p.slots ∧ l.physicalSize = p.layout.physicalSize ∨
        u = .ofCapacity p.slots.capacity) :
    Move p (some d) { p with layout := l, epoch := p.epoch + 1, slots := u }
  /-- A buffer for which its slot has a surface of this epoch. -/
  | renewed {b : Buffer} {f : Option Fence} {i : Nat} (hc : p.current = none)
      (hb : b.size = p.layout.physicalSize) (hi : p.slots.placeFor? b.id = some i)
      (hs : p.caches i b.id = true) :
    Move p (some (.obtained i b none)) (p.takeInto i (·.renew b) f)
  | wrapped {b : Buffer} {f : Option Fence} {i : Nat} (serial : Nat) (hc : p.current = none)
      (hb : b.size = p.layout.physicalSize) (hi : p.slots.placeFor? b.id = some i)
      (hs : p.caches i b.id = false) :
    Move p (some (.obtained i b (some (p.wrapped b serial))))
      (p.takeInto i (·.hold b (p.wrapped b serial) p.epoch) f)
  | shown {c : Current} (hc : p.current? = some c) :
    Move p (some (.shown c.index c.buffer.id)) (p.presented c.index)
  /-- A cancel, or what a caller does with the current slot. -/
  | touched {i : Nat} {f : Slot → Slot} {c : Option Nat} (hf : ∀ s, (f s).Alike s)
      (hc : c = none ∨ c = p.current) :
    Move p none { p with slots := p.slots.modify i f, current := c }
  | released : Move p (some .released) { p with slots := p.slots.releaseAll, current := none }

/-- From the creation of `p₀` through the deeds of `h` to `p`. -/
inductive Life (p₀ : Pool) : List Deed → Pool → Prop where
  | created {query : Answer WindowProfile} {gpu : GpuLimits} {configured : Answer Unit}
      {color : ColorSetup} {settings : Settings}
      (hp : (create query gpu configured color settings).result = .ok p₀) :
    Life p₀ [.configured p₀.layout] p₀
  | moved {h : List Deed} {d : Option Deed} {p q : Pool} (hp : Life p₀ h p) (hm : Move p d q)
      (hq : q.Consistent) : Life p₀ (h ++ d.toList) q

theorem Life.consistent (hp : Life p₀ h p) : p.Consistent := by
  cases hp with
  | created hp => exact consistent_create hp
  | moved _ _ hq => exact hq

theorem Life.deed (hp : Life p₀ h p) {d : Deed} (hm : Move p (some d) q) (hq : q.Consistent) :
    Life p₀ (h ++ [d]) q := hp.moved hm hq

theorem Life.silent (hp : Life p₀ h p) (hm : Move p none q) (hq : q.Consistent) : Life p₀ h q := by
  simpa using hp.moved hm hq

/-! ## One slot -/

/-- What slot `i` of a pool can become in a move that is the deed `d`, unless it is emptied. -/
inductive Becomes (p : Pool) (i : Nat) : Option Deed → Slot → Prop where
  | alike {d : Option Deed} {s₀ s : Slot} (hs : p.slots.get? i = some s₀) (ha : s.Alike s₀)
      (hd : ∀ e, d = some e → e.index? ≠ some i) :
    Becomes p i d s
  | renewed {s : Slot} {b : Buffer} (f : Option Fence) (hs : p.slots.get? i = some s)
      (hid : s.bufferId = some b.id) (he : s.epoch = p.epoch)
      (hb : b.size = p.layout.physicalSize) :
    Becomes p i (some (.obtained i b none)) ((s.renew b).start f)
  | wrapped (s : Slot) {b : Buffer} (f : Option Fence) (serial : Nat)
      (hb : b.size = p.layout.physicalSize) :
    Becomes p i (some (.obtained i b (some (p.wrapped b serial))))
      ((s.hold b (p.wrapped b serial) p.epoch).start f)
  | shown {s : Slot} {b : Buffer} (hs : p.slots.get? i = some s) (hb : s.buffer = some b) :
    Becomes p i (some (.shown i b.id)) (s.shown (p.presents + 1))

/-- A slot that is not changed. -/
theorem Becomes.kept {d : Option Deed} {i : Nat} {s : Slot} (hs : p.slots.get? i = some s)
    (hd : ∀ e, d = some e → e.index? ≠ some i) : Becomes p i d s :=
  .alike hs ⟨rfl, rfl, rfl, rfl, rfl⟩ hd

/-- A slot that another slot's deed leaves. -/
theorem Becomes.other {e : Deed} {i j : Nat} {s : Slot} (he : e.index? = some i) (hij : j ≠ i)
    (hs : p.slots.get? j = some s) : Becomes p j (some e) s :=
  .kept hs fun _ h hj => hij (Option.some.inj (hj.symm.trans (Option.some.inj h ▸ he)))

theorem Relays.usage {d : Deed} {l : Layout} (hl : p.Relays d l) : l.usage = p.layout.usage := by
  cases hl with
  | configured turn size hl => rw [hl]; rfl
  | adopted => rfl

theorem Relays.index? {d : Deed} {l : Layout} (hl : p.Relays d l) : d.index? = none := by
  cases hl <;> rfl

/-- After a move a slot is empty, or has come from what it was, in a pool of the same buffers. -/
theorem Move.becomes {d : Option Deed} {i : Nat} {s : Slot} (hm : Move p d q)
    (hs : q.slots.get? i = some s) : s = .empty ∨ q.spec = p.spec ∧ Becomes p i d s := by
  cases hm with
  | relaid hc hl hu =>
    rcases hu with ⟨rfl, hsize⟩ | rfl
    · refine .inr ⟨?_, .kept hs ?_⟩
      · simp only [spec, specOf, hsize, hl.usage]
      · rintro _ ⟨⟩
        rw [hl.index?]
        nofun
    · exact .inl (SlotTable.eq_empty_of_get?_ofCapacity hs)
  | renewed hc hb hi hcache =>
    obtain ⟨u, hu, hid, -, he⟩ := caches_iff.mp hcache
    refine .inr ⟨rfl, SlotTable.forall_modify (p.Becomes · (some _)) (fun s hs => ?_)
      (fun j s => .other rfl) hs⟩
    rw [hu] at hs
    cases hs
    exact .renewed _ hu hid he hb
  | wrapped serial hc hb hi hcache =>
    exact .inr ⟨rfl, SlotTable.forall_modify (p.Becomes · (some _))
      (fun s _ => .wrapped s _ serial hb) (fun j s => .other rfl) hs⟩
  | shown hc =>
    obtain ⟨-, hcs, hcb⟩ := current?_eq_some_iff.mp hc
    refine .inr ⟨rfl, SlotTable.forall_modify (p.Becomes · (some _)) (fun s hs => ?_)
      (fun j s => .other rfl) hs⟩
    rw [hcs] at hs
    cases hs
    exact .shown hcs hcb
  | touched hf =>
    refine .inr ⟨rfl, SlotTable.forall_modify (p.Becomes · none)
      (fun s hs => .alike hs (hf s) ?_) (fun j s _ hs => .kept hs ?_) hs⟩
    · rintro _ ⟨⟩
    · rintro _ ⟨⟩
  | released => exact .inl (SlotTable.eq_empty_of_get?_ofCapacity hs)

/-! ## Dequeuing -/

theorem Follows.pool_eq {r : Except PoolError Unit} (hf : Follows a p r q t) :
    (p.followHint a).pool = q := by
  cases hf with
  | stays hs =>
    unfold followHint
    cases hh : a.hint with
    | refused text => rfl
    | given hint => simp [hs hint hh]
  | rejected hh hne hc => simp [followHint, hh, hne, pushLayout, hc]
  | turned hh hne hc => simp [followHint, hh, hne, pushLayout, hc]

/-- Following the hint is a move if the window takes another layout, and none if it does not. -/
theorem Follows.life {r : Except PoolError Unit} (hf : Follows a p r q t) (hp : Life p₀ h p)
    (hc : p.current = none) :
    Life p₀ (h ++ if t.calls.any Call.isTaken then [.configured q.layout] else []) q ∧
      q.current = none := by
  obtain ⟨hq, hqc⟩ := hf.consistent hp.consistent hc
  refine ⟨?_, hqc⟩
  cases hf with
  | stays | rejected => simpa [Call.isTaken] using hp
  | @turned hint =>
    rw [underHint_eq hp.consistent hc] at hq ⊢
    refine hp.deed (.relaid hc (.configured hint p.layout.logicalSize rfl) ?_) hq
    split
    · rename_i hsize
      exact .inl ⟨rfl, hsize⟩
    · exact .inr rfl

/-- Buffers of another size are a move. -/
theorem Life.adopt (hp : Life p₀ h p) (hc : p.current = none) {b : Buffer}
    (ha : p.adopt b = .ok q) :
    Life p₀ (h ++ if b.size = p.layout.physicalSize then [] else [.adopted b]) q ∧
      q.current = none ∧ b.size = q.layout.physicalSize := by
  obtain ⟨hq, hqc⟩ := hp.consistent.adopt hc ha
  rcases adopt_cases ha with ⟨hb, rfl⟩ | ⟨hb, hl, rfl⟩
  · exact ⟨by simpa [hb] using hp, hc, hb⟩
  · refine ⟨?_, hqc, hl.symm⟩
    have he : (p.beginEpoch ((p.layoutOf b).resolve smallest p.gpuMax)).Consistent :=
      hp.consistent.beginEpoch rfl
    rw [he.releaseIdle_idle hc] at hq ⊢
    rw [if_neg hb]
    exact hp.deed (.relaid hc (.adopted hb hl) (.inr rfl)) hq

/-- How a buffer comes into slot `i` of a pool whose buffers have its size, with the calls that
this takes. -/
inductive Obtains (b : Buffer) (f : Option Fence) (i : Nat) (p : Pool) :
    List Call → Pool → Prop where
  | cached (hs : p.caches i b.id = true) : Obtains b f i p [] (p.takeInto i (·.renew b) f)
  | wrapped (serial : Nat) (hs : p.caches i b.id = false) :
    Obtains b f i p [.wrap b p.spec (.given serial)]
      (p.takeInto i (·.hold b (p.wrapped b serial) p.epoch) f)

/-- A buffer that is acquired is adopted first and then comes into its slot. -/
theorem Acquires.obtains {i : Nat} (ha : Acquires a p (.ok i) q t) :
    ∃ b f m cs, a.dequeue = .given (b, f) ∧ p.adopt b = .ok m ∧ m.slots.placeFor? b.id = some i ∧
      t.calls = .dequeue (.given (b, f)) :: cs ∧ Obtains b f i m cs q := by
  cases ha with
  | cached hd ha hi hs => exact ⟨_, _, _, _, hd, ha, hi, rfl, .cached hs⟩
  | wrapped hd ha hi hs => exact ⟨_, _, _, _, hd, ha, hi, rfl, .wrapped _ hs⟩

theorem Obtains.life {b : Buffer} {f : Option Fence} {i : Nat} {cs : List Call}
    (ho : Obtains b f i p cs q) (hp : Life p₀ h p) (hc : p.current = none)
    (hb : b.size = p.layout.physicalSize) (hi : p.slots.placeFor? b.id = some i)
    (hq : q.Consistent) : Life p₀ (h ++ [.obtained i b (cs.findSome? Call.surface?)]) q := by
  cases ho with
  | cached hs => exact hp.deed (.renewed hc hb hi hs) hq
  | wrapped serial hs => exact hp.deed (.wrapped serial hc hb hi hs) hq

theorem Acquires.taken {r : Except PoolError Nat} (ha : Acquires a p r q t) :
    t.calls.any Call.isTaken = false := by
  cases ha <;> rfl

theorem Follows.surface? {r : Except PoolError Unit} (hf : Follows a p r q t) :
    t.calls.findSome? Call.surface? = none := by
  cases hf <;> rfl

/-- A dequeue that succeeds has been given a buffer. -/
theorem Dequeues.given {i : Nat} (hd : Dequeues a p (.ok i) q t) :
    ∃ b f, a.dequeue = .given (b, f) := by
  cases hd with
  | acquires _ _ ha =>
    cases ha with
    | cached hd | wrapped hd => exact ⟨_, _, hd⟩

theorem Dequeues.life {r : Except PoolError Nat} (hd : Dequeues a p r q t) (hp : Life p₀ h p) :
    Life p₀ (h ++ dequeueDeeds a (p.followHint a).pool r t.calls) q := by
  cases hd with
  | busy => simpa [dequeueDeeds] using hp
  | rejected hc hf =>
    have hq := (hf.life hp (hp.consistent.current_eq_none hc)).1
    rw [hf.pool_eq]
    exact hq
  | @acquires m _ r t u hc hf ha =>
    obtain ⟨hm, hmc⟩ := hf.life hp (hp.consistent.current_eq_none hc)
    have htaken : (t ++ u).calls.any Call.isTaken = t.calls.any Call.isTaken := by
      rw [Trace.calls_append, List.any_append, ha.taken, Bool.or_false]
    rw [hf.pool_eq]
    cases r with
    | error e =>
      -- Past the hint a failure has done nothing.
      obtain ⟨rfl, -⟩ := ha.failed
      rw [dequeueDeeds_error, htaken]
      exact hm
    | ok i =>
      obtain ⟨b, f, n, cs, hd, hn, hi, hcs, ho⟩ := ha.obtains
      obtain ⟨hn, hnc, hb⟩ := hm.adopt hmc hn
      rw [dequeueDeeds_ok hd, htaken, Trace.calls_append, List.findSome?_append, hf.surface?, hcs,
        ← List.append_assoc, ← List.append_assoc]
      exact ho.life hn hnc hb hi (ha.consistent hm.consistent hmc)

theorem Presents.life {dirty : Option Rect} {completion : Option Fence}
    {r : Except PoolError Unit} (hpr : Presents a dirty completion p r q t) (hp : Life p₀ h p)
    (hq : q.Consistent) : Life p₀ (h ++ presentDeeds p.current? r) q := by
  cases hpr with
  | nothing | unforwarded | refused => simpa [presentDeeds] using hp
  | shown hc =>
    rw [hc]
    exact hp.deed (.shown hc) hq

theorem Cancels.life {r : Except PoolError Unit} (hca : Cancels a p r q t) (hp : Life p₀ h p)
    (hq : q.Consistent) : Life p₀ h q := by
  cases hca with
  | nothing => exact hp
  | returned | disowned => exact hp.silent (.touched Slot.alike_finish (.inl rfl)) hq

theorem Resizes.life {size : Extent} {r : Except PoolError Unit} (hr : Resizes a size p r q t)
    (hp : Life p₀ h p) (hq : q.Consistent) : Life p₀ (h ++ resizeDeeds q.layout r) q := by
  cases hr with
  | busy | degenerate | rejected => simpa [resizeDeeds] using hp
  | resized hc =>
    have hc := hp.consistent.current_eq_none hc
    have he : (p.beginEpoch (p.resizedLayout size)).Consistent := hp.consistent.beginEpoch rfl
    rw [he.releaseIdle_idle hc] at hq ⊢
    exact hp.deed (.relaid hc (.configured p.layout.transform size rfl) (.inr rfl)) hq

/-! ## Every operation -/

/-- A caller's change of the current slot. -/
theorem Changes.life {f : Slot → Slot} {gives : Slot → Trace} (hg : Changes f gives p q t)
    (hp : Life p₀ h p) (hf : ∀ s, (f s).Alike s) (hq : q.Consistent) : Life p₀ h q := by
  cases hg with
  | nothing => exact hp
  | changed => exact hp.silent (.touched hf (.inr rfl)) hq

/-- An operation is a few moves, which are its deeds. -/
theorem Life.perform (hp : Life p₀ h p) (o : Operation) :
    Life p₀ (h ++ p.deeds o) (p.perform o).pool := by
  have hq := consistent_perform hp.consistent o
  cases o with
  | dequeue a =>
    rw [deeds, ← Trace.calls_acts]
    exact (dequeue_cases a hp.consistent.rests).life hp
  | present a dirty completion => exact (present_cases a dirty completion p).life hp hq
  | cancel a =>
    rw [deeds, List.append_nil]
    exact (cancel_cases a p).life hp hq
  | resize a size => exact (resize_cases a size p).life hp hq
  | release a => exact hp.deed .released hq
  | takeFence =>
    rw [deeds, List.append_nil]
    exact (takeFence_cases p).life hp Slot.alike_takeFence hq
  | draw =>
    rw [deeds, List.append_nil]
    exact (draw_cases p).life hp Slot.alike_draw hq

theorem Life.performAll (hp : Life p₀ h p) (os : List Operation) :
    Life p₀ (h ++ p.history os) (p.performAll os).1 := by
  induction os generalizing p h with
  | nil => simpa [history] using hp
  | cons o os ih =>
    rw [history, ← List.append_assoc]
    exact ih (hp.perform o)

theorem Life.of_create {query : Answer WindowProfile} {gpu : GpuLimits} {configured : Answer Unit}
    {color : ColorSetup} {settings : Settings}
    (hp : (create query gpu configured color settings).result = .ok p) (os : List Operation) :
    Life p (p.past os) (p.performAll os).1 := (Life.created hp).performAll os

/-! ## Surfaces -/

/-- A buffer is obtained in a dequeue that succeeds. -/
theorem obtained_mem_deeds (hp : p.Consistent) {o : Operation} {i : Nat} {b : Buffer}
    {u : Option Surface} (hd : .obtained i b u ∈ p.deeds o) :
    ∃ a, o = .dequeue a ∧ u = (p.dequeue a).trace.calls.findSome? Call.surface? := by
  cases o with
  | dequeue a =>
    rw [deeds] at hd
    cases hr : (p.dequeue a).result with
    | error e =>
      rw [hr, dequeueDeeds_error] at hd
      split at hd <;> simp at hd
    | ok j =>
      obtain ⟨c, f, hc⟩ := (hr ▸ dequeue_cases a hp.rests).given
      rw [hr, dequeueDeeds_ok hc, List.mem_append, List.mem_append, List.mem_singleton] at hd
      rcases hd with (hd | hd) | hd
      · split at hd <;> simp at hd
      · split at hd <;> simp at hd
      · cases hd
        exact ⟨a, rfl, rfl⟩
  | present a dirty completion =>
    rw [deeds] at hd
    unfold presentDeeds at hd
    split at hd <;> simp at hd
  | resize a size =>
    rw [deeds] at hd
    unfold resizeDeeds at hd
    split at hd <;> simp at hd
  | release a => simp [deeds] at hd
  | cancel | takeFence | draw => cases hd

/-- A surface in a history has come from a call of the run. -/
theorem wrap_mem_calls (hp : p.Consistent) {os : List Operation} {i : Nat} {b : Buffer}
    {u : Surface} (hd : .obtained i b (some u) ∈ p.past os) :
    .wrap u.buffer u.spec (.given u.serial) ∈ (p.performAll os).2.calls := by
  have hd : .obtained i b (some u) ∈ p.history os := by simpa [past] using hd
  induction os generalizing p with
  | nil => cases hd
  | cons o os ih =>
    rw [performAll_cons, Trace.calls_append]
    rcases List.mem_append.mp hd with hd | hd
    · refine List.mem_append_left _ ?_
      obtain ⟨a, rfl, hu⟩ := obtained_mem_deeds hp hd
      obtain ⟨c, hc, hcu⟩ := List.exists_of_findSome?_eq_some hu.symm
      rwa [Call.eq_wrap_of_surface? hcu] at hc
    · exact List.mem_append_right _ (ih (consistent_perform hp o) (List.mem_cons_of_mem _ hd) hd)

/-- Every surface that a slot holds has come from a deed. -/
theorem Life.wrapped (hp : Life p₀ h p) {i : Nat} {s : Slot} {u : Surface}
    (hs : p.slots.get? i = some s) (hu : s.surface = some u) :
    ∃ j, .obtained j u.buffer (some u.made) ∈ h := by
  induction hp generalizing i s u with
  | created hp =>
    obtain ⟨m, dataspace, requested, -, -, -, -, rfl, -⟩ := create_eq_ok hp
    rw [SlotTable.eq_empty_of_get?_ofCapacity hs] at hu
    cases hu
  | @moved h d p q _ hm _ ih =>
    rcases hm.becomes hs with rfl | ⟨-, hb⟩
    · cases hu
    · cases hb with
      | alike hs₀ ha =>
        obtain ⟨v, hv, hvu⟩ := ha.made hu
        obtain ⟨j, hj⟩ := ih hs₀ hv
        rw [hvu, (Surface.eq_of_made hvu).1] at hj
        exact ⟨j, List.mem_append_left _ hj⟩
      | renewed f hs₀ | shown hs₀ =>
        obtain ⟨j, hj⟩ := ih hs₀ hu
        exact ⟨j, List.mem_append_left _ hj⟩
      | wrapped s f serial =>
        cases hu
        exact ⟨i, List.mem_append_right _ List.mem_cons_self⟩

end Pool
end Swapchain
