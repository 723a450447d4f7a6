import Swapchain.Proofs.IdleAges

/-!
# Buffers given back unused

A frame may be dropped after its buffer has been dequeued. If the slot of the buffer has kept its
surface, the cancel takes everything back that the dequeue has done: the slot is no longer dequeued
and has no fence, as before. Only the newer handle of the buffer stays. It makes no difference
whether the caller has taken the fence meanwhile, nor whether the window takes the buffer back.

* `Pool.performAll_taking`, `Consistent.cancel_takeInto`: what can follow such a dequeue;
* `KeepsSurface.dropped`: all of it, and `Pool.dropped_frame_leaves_handle` for every run.
-/

namespace Swapchain

/-- An idle slot is as before once it is no longer dequeued, with the newer handle. -/
theorem Slot.Whole.finish_renew {s : Slot} (h : s.Whole) (hd : s.dequeued = false) (b : Buffer)
    (f : Option Fence) : ((s.renew b).start f).finish = s.renew b := by
  have hf := h.fence_eq_none hd
  cases s
  cases hd
  cases hf
  rfl

namespace Pool

variable {p₀ p : Pool} {a : Answers} {h : List Deed} {n : UInt32}
variable {i : Nat} {s : Slot} {b : Buffer} {f : Option Fence}

/-! ## The operations of a frame -/

theorem current?_renewed (hs : p.slots.get? i = some s) (b : Buffer) (f : Option Fence) :
    (p.takeInto i (·.renew b) f).current? = some ⟨i, (s.renew b).start f, b⟩ :=
  current?_takeInto f hs rfl

/-- The caller may take the fence that the buffer came with. -/
def taking (takes : Bool) : List Operation := if takes then [.takeFence] else []

/-- The fence is not the slot's any more if the caller has taken it. -/
theorem performAll_taking (hs : p.slots.get? i = some s) (b : Buffer) (f : Option Fence)
    (takes : Bool) :
    ((p.takeInto i (·.renew b) f).performAll (taking takes)).1 =
        p.takeInto i (·.renew b) (if takes then none else f) ∧
      ((p.takeInto i (·.renew b) f).performAll (taking takes)).2.acts =
        if takes then f.toList.map .taken else [] := by
  cases takes with
  | false => exact ⟨rfl, rfl⟩
  | true =>
    obtain ⟨hpool, hacts⟩ := (takeFence_cases _).of_current? (current?_renewed hs b f)
    refine ⟨hpool.trans ?_, ?_⟩
    · exact congrArg (fun slots => ({ p with slots, current := some i } : Pool))
        (SlotTable.modify_modify ..)
    · rw [taking, if_pos rfl, acts_performAll_singleton]
      exact hacts

/-- The caller gives the buffer back; the slot has only the newer handle. -/
theorem Consistent.cancel_takeInto (hp : p.Consistent) (hc : p.current = none)
    (hs : p.slots.get? i = some s) (a : Answers) (b : Buffer) (f : Option Fence) :
    ((p.takeInto i (·.renew b) f).cancel a).pool =
        { p with slots := p.slots.modify i (·.renew b) } ∧
      ((p.takeInto i (·.renew b) f).cancel a).acts = [.call (.cancel b f a.cancel)] := by
  obtain ⟨hpool, hacts⟩ := (cancel_cases a _).of_current? (current?_renewed hs b f)
  have hslots : (p.slots.modify i fun s => (s.renew b).start f).modify i Slot.finish =
      p.slots.modify i (·.renew b) := by
    rw [SlotTable.modify_modify]
    exact SlotTable.modify_congr fun s hs =>
      (hp.whole i s hs).finish_renew (hp.idle hc hs) b f
  refine ⟨hpool.trans ?_, hacts⟩
  show { p with
    slots := (p.slots.modify i fun s => (s.renew b).start f).modify i Slot.finish
    current := none } = _
  rw [hslots, ← hc]

/-! ## A dropped frame -/

/-- A frame that is dropped; the caller may have taken the fence. -/
def dropped (a a' : Answers) (takes : Bool) : List Operation :=
  .dequeue a :: (taking takes ++ [.cancel a'])

/-- A dropped frame leaves the pool with the newer handle. -/
theorem KeepsSurface.dropped (hk : p.KeepsSurface h a b) (hp : Life p₀ h p) (h₀ : p₀.Sized n)
    (hc : p.current = none) (hb : a.dequeue = .given (b, f)) (hs : p.slots.get? i = some s)
    (hid : s.bufferId = some b.id) (a' : Answers) (takes : Bool) :
    (p.performAll (dropped a a' takes)).1 = { p with slots := p.slots.modify i (·.renew b) } ∧
      (p.performAll (dropped a a' takes)).2.acts =
        [.call (.hint a.hint), .call (.dequeue (.given (b, f)))] ++
          (if takes then f.toList.map .taken else []) ++
          [.call (.cancel b (if takes then none else f) a'.cancel)] := by
  obtain ⟨-, hpool, hacts⟩ := hk.dequeue hp h₀ hc hb hs hid
  obtain ⟨htaking, htaken⟩ := performAll_taking hs b f takes
  obtain ⟨hlast, hgiven⟩ :=
    hp.consistent.cancel_takeInto hc hs a' b (if takes then none else f)
  have hfirst : (p.perform (.dequeue a)).pool = p.takeInto i (·.renew b) f := hpool
  have hasked : (p.perform (.dequeue a)).acts = _ := hacts
  constructor
  · rw [Pool.dropped, performAll_cons, hfirst, performAll_append, htaking]
    exact hlast
  · have hreturned : (((p.takeInto i (·.renew b) (if takes then none else f)).performAll
        [.cancel a']).2.acts) = _ := (acts_performAll_singleton _ _).trans hgiven
    rw [Pool.dropped, acts_performAll_cons, hasked, hfirst, acts_performAll_append, htaken, htaking,
      hreturned, List.append_assoc]

/-- After every run that leaves the pool idle, let the window hand out a buffer whose slot has a
surface that was wrapped since the geometry changed, of the size that buffers have, under the same
transform. If the frame is dropped, then the slot has the newer handle and all else in the pool is
as before, whether the caller has taken the fence or not and whatever the window answers to the
cancel. Nothing is wrapped, and one cancel gives the buffer back with its fence unless it has been
taken. A cancel finds nothing to give back exactly if no slot is dequeued. -/
theorem dropped_frame_leaves_handle {query : Answer WindowProfile} {gpu : GpuLimits}
    {configured : Answer Unit} {color : ColorSetup} {settings : Settings}
    (h : (create query gpu configured color settings).result = .ok p) (os : List Operation) :
    let q := (p.performAll os).1
    (∀ i s u a b f, q.current = none → q.slots.get? i = some s → s.bufferId = some b.id →
      s.surface = some u → u.Fresh (p.past os) → ¬ q.Turns a →
      b.size = q.layout.physicalSize → a.dequeue = .given (b, f) →
        (q.dequeue a).result = .ok i ∧ ∀ a' takes,
          let frame := q.performAll (dropped a a' takes)
          frame.1 = { q with slots := q.slots.modify i fun s => { s with buffer := some b } } ∧
            frame.2.acts =
              [.call (.hint a.hint), .call (.dequeue (.given (b, f)))] ++
                (if takes then f.toList.map .taken else []) ++
                [.call (.cancel b (if takes then none else f) a'.cancel)]) ∧
      ∀ a, (q.cancel a).result = .error .noCurrentBuffer ↔
        ∀ s ∈ q.slots.slots, s.dequeued = false := by
  intro q
  have hlife : Life p (p.past os) q := Life.of_create h os
  have h₀ := sized_create h
  refine ⟨fun i s u a b f hc hs hid hu hfresh ht hsize hb => ?_, fun a => ?_⟩
  · have hk : q.KeepsSurface (p.past os) a b :=
      ⟨ht, hsize, (hlife.exists_holds_iff h₀ hs hid).mpr ⟨u, hu, hfresh⟩⟩
    exact ⟨(hk.dequeue hlife h₀ hc hb hs hid).1, fun a' takes =>
      hk.dropped hlife h₀ hc hb hs hid a' takes⟩
  · rw [← hlife.consistent.current?_eq_none_iff_idle]
    exact (cancel_cases a q).noCurrentBuffer_iff

/-- Buffer 7 has been shown. It comes again with a newer handle and a fence, which the caller takes;
then the frame is dropped, and the window refuses the buffer. The age of the slot is still there. -/
theorem dropped_frame_leaves_handle_refused :
    let a := Answers.giving (.plain 7 1) none
    let newer := Answers.giving (.plain 7 2) (some ⟨1, false⟩)
    let gone := { newer with cancel := .refused "window is gone" }
    let q := (plain.performAll [.dequeue a, .present a none none]).1
    let frame := q.performAll (dropped newer gone true)
    frame.1 = { q with slots := q.slots.modify 0 fun s => { s with buffer := some (.plain 7 2) } } ∧
      frame.1.slotAge 0 = some 0 ∧
      frame.2.acts = [.call (.hint (.given ⟨0⟩)),
        .call (.dequeue (.given (.plain 7 2, some ⟨1, false⟩))), .taken ⟨1, false⟩,
        .call (.cancel (.plain 7 2) none (.refused "window is gone"))] ∧
      (q.cancel a).result = .error .noCurrentBuffer := by
  intro a newer gone q frame
  let past := plain.past [.dequeue a, .present a none none]
  obtain ⟨s, u, hs, hid, hu, hfresh⟩ : ∃ s u, q.slots.get? 0 = some s ∧ s.bufferId = some ⟨7⟩ ∧
      s.surface = some u ∧ u.Fresh past :=
    ⟨_, _, rfl, rfl, rfl, 0, past.take 1, past.drop 2, by decide, by decide⟩
  obtain ⟨hcached, hnothing⟩ :=
    dropped_frame_leaves_handle create_plain [.dequeue a, .present a none none]
  obtain ⟨-, hframe⟩ := hcached 0 s u newer (.plain 7 2) (some ⟨1, false⟩) (by decide) hs hid hu
    hfresh (not_turns (by decide)) (by decide) rfl
  obtain ⟨hpool, hacts⟩ := hframe gone true
  refine ⟨hpool, ?_, hacts, (hnothing a).mpr (by decide)⟩
  rw [hpool]
  decide

end Pool
end Swapchain
