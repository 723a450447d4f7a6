import Swapchain.Proofs.Custody

/-!
# The end of a pool

A pool that comes to its end is released: each slot in turn gives its buffer up and is emptied. Only
a dequeued slot has something that the window waits for, and there is at most one. So one buffer is
cancelled if one is in hand, and nothing is asked otherwise; whatever the window answers, the table
is empty then, and nothing is left for another release, such as the one that ends every pool.

* `Pool.release_release`: a release after another one;
* `Pool.release_leaves_nothing`: a release in every run.
-/

namespace Swapchain

theorem SlotTable.fenceCount_ofCapacity (n : Nat) : (ofCapacity n).fenceCount = 0 := by
  simp [fenceCount, ofCapacity, Slot.empty, Slot.holdsFence]

namespace Pool

variable {p : Pool}

/-- There is nothing left to release after a release. -/
theorem release_release (a a' : Answers) (p : Pool) :
    (p.release a).pool.release a' = .ok (p.release a).pool () [] := by
  have hslots : (SlotTable.ofCapacity p.slots.capacity).slots.flatMap (disposal a') = [] :=
    SlotTable.flatMap_slots_nil fun _ _ hs => by
      rw [SlotTable.eq_empty_of_get?_ofCapacity hs]
      rfl
  simp [release, SlotTable.releaseAll, hslots]

/-- After every run a release succeeds and leaves no buffer current, every slot empty, no fence and
the rest of the pool as it was, whatever the window answers. If a slot is dequeued, then its buffer
and its fence are what the window has handed out last and not had back, but for a fence that has
been taken, and this buffer is cancelled with this fence; otherwise nothing happens. A release right
after it, or the end of the pool, does nothing. -/
theorem release_leaves_nothing {query : Answer WindowProfile} {gpu : GpuLimits}
    {configured : Answer Unit} {color : ColorSetup} {settings : Settings}
    (h : (create query gpu configured color settings).result = .ok p) (os : List Operation)
    (a : Answers) :
    let q := (p.performAll os).1
    let t := (p.performAll os).2
    let o := q.release a
    o.result = .ok () ∧
      o.pool = { q with slots := .ofCapacity q.slots.capacity, current := none } ∧
      o.pool.slots.fenceCount = 0 ∧
      (∀ s ∈ q.slots.slots, s.dequeued = true → ∃ b, s.buffer = some b ∧
        t.lent = some ⟨b, s.fence⟩ ∧ o.acts = [.call (.cancel b s.fence a.cancel)]) ∧
      ((∀ s ∈ q.slots.slots, s.dequeued = false) → t.lent = none ∧ o.trace = []) ∧
      ∀ a', o.pool.release a' = .ok o.pool () [] := by
  intro q t o
  have hq : q.Consistent := ((Reachable.created h).performAll os).consistent
  have hlent : t.lent = q.held := lent_performAll h os
  refine ⟨rfl, rfl, SlotTable.fenceCount_ofCapacity _, fun s hs hd => ?_, fun hidle => ?_,
    fun a' => release_release a a' q⟩
  · obtain ⟨c, hc, rfl⟩ := hq.exists_current? hs hd
    exact ⟨c.buffer, (current?_eq_some_iff.mp hc).2.2, hlent.trans (held_of_current? hc),
      hq.cancel_release hc a⟩
  · have hc : q.current? = none := hq.current?_eq_none_iff_idle.mpr hidle
    refine ⟨hlent.trans (held_of_current?_eq_none hc), ?_⟩
    show (q.release a).trace = []
    rw [hq.trace_release, hc]
    rfl

/-- Buffer 7 has been shown, buffer 8 is dequeued with a fence, and the caller has taken the fence.
The window is gone and refuses the buffer; still the table is empty, and the frame has counted. -/
theorem release_leaves_nothing_refused :
    let a := Answers.giving (.plain 7 1) none
    let b := { Answers.giving (.plain 8 2) (some ⟨1, false⟩) with wrap := .given 2 }
    let gone := { a with cancel := .refused "window is gone" }
    let os := [.dequeue a, .present a none none, .dequeue b, .takeFence]
    let q := (plain.performAll os).1
    let o := q.release gone
    q.slots.activeCount = 2 ∧ (plain.performAll os).2.lent = some ⟨.plain 8 2, none⟩ ∧
      o.acts = [.call (.cancel (.plain 8 2) none (.refused "window is gone"))] ∧
      o.pool = { q with slots := .ofCapacity 3, current := none } ∧ o.pool.presents = 1 ∧
      o.pool.release a = .ok o.pool () [] := by
  intro a b gone os q o
  obtain ⟨s, hs, hd, hbuf, hf⟩ : ∃ s ∈ q.slots.slots, s.dequeued = true ∧
      s.buffer = some (.plain 8 2) ∧ s.fence = none :=
    ⟨_, List.mem_cons_of_mem _ List.mem_cons_self, rfl, rfl, rfl⟩
  obtain ⟨-, hpool, -, hcurrent, -, hagain⟩ := release_leaves_nothing create_plain os gone
  obtain ⟨c, hc, hlent, hacts⟩ := hcurrent s hs hd
  cases hbuf.symm.trans hc
  rw [hf] at hlent hacts
  refine ⟨by decide, hlent, hacts, hpool, ?_, hagain a⟩
  rw [hpool]
  decide

end Pool
end Swapchain
