import Swapchain.Proofs.Consistency

/-!
# A dequeue that fails

A dequeue that fails leaves the pool as it was, or as a changed transform hint alone leaves it if
the window took the new layout before the failure. The buffer that the window has handed out by
then, if any, is back at the window with its fence.

* `Pool.turned`: the pool under another transform;
* `Call.handedOut?`, `Call.givenBack?`: the buffer that goes over in a call, with its fence;
* `Pool.failed_dequeue`: every way in which a dequeue fails.
-/

namespace Swapchain

/-- The buffer that the window hands out in a call, with its fence. -/
def Call.handedOut? : Call → Option (Buffer × Option Fence)
  | .dequeue (.given x) => some x
  | _ => none

/-- The buffer that is cancelled in a call, with the fence that goes along. -/
def Call.givenBack? : Call → Option (Buffer × Option Fence)
  | .cancel b f _ => some (b, f)
  | _ => none

/-- Whether the call is a layout that the window has taken. -/
def Call.isTaken : Call → Bool
  | .configure _ (.given ()) => true
  | _ => false

namespace Pool

variable {p q : Pool} {a : Answers} {t : Trace} {e : PoolError}

/-- The pool under another transform. If its buffers have another size then, all are forgotten. -/
def turned (hint : Transform) (p : Pool) : Pool :=
  { p with
    layout := p.hintedLayout hint
    epoch := p.epoch + 1
    slots :=
      if (p.hintedLayout hint).physicalSize = p.layout.physicalSize then p.slots
      else .ofCapacity p.slots.capacity }

/-- While nothing is current, the slots that are idle are all of them. -/
theorem underHint_eq (h : p.Consistent) (hc : p.current = none) (hint : Transform) :
    p.underHint (p.hintedLayout hint) = p.turned hint := by
  unfold underHint turned
  dsimp only
  split
  · rfl
  · have hb : (p.beginEpoch (p.hintedLayout hint)).Consistent := h.beginEpoch rfl
    exact hb.releaseIdle_idle hc

/-! ## The buffer -/

/-- Calls in which what is handed out, one buffer at most, is given back with its fence. -/
def GivesBack (cs : List Call) : Prop :=
  cs.filterMap Call.givenBack? = cs.filterMap Call.handedOut? ∧
    (cs.filterMap Call.handedOut?).length ≤ 1

/-- Following the hint hands nothing out. -/
theorem Follows.calls {r : Except PoolError Unit} (hf : Follows a p r q t) :
    t = t.calls.map .call ∧ t.calls.filterMap Call.givenBack? = [] ∧
      t.calls.filterMap Call.handedOut? = [] := by
  cases hf with
  | stays | rejected | turned => exact ⟨rfl, rfl, rfl⟩

/-- A buffer that is not acquired is given back, and the pool is as it was. -/
theorem Acquires.failed (ha : Acquires a p (.error e) q t) :
    q = p ∧ t = t.calls.map .call ∧ GivesBack t.calls ∧ ∀ c ∈ t.calls, c.isTaken = false := by
  cases ha with
  | refused | unusable | homeless | unwrapped =>
    exact ⟨rfl, rfl, ⟨rfl, by simp [List.filterMap_cons, Call.handedOut?]⟩, by simp [Call.isTaken]⟩

/-! ## The pool -/

/-- How the hint has left the pool: as it was, or under a transform that the window took. -/
def HintLeft (a : Answers) (p q : Pool) (cs : List Call) : Prop :=
  q = p ∧ (∀ c ∈ cs, c.isTaken = false) ∨
    ∃ hint, a.hint = .given hint ∧ hint ≠ p.layout.transform ∧
      .configure (p.hintedLayout hint).bufferRequest (.given ()) ∈ cs ∧ q = p.turned hint

theorem Follows.left {r : Except PoolError Unit} (hf : Follows a p r q t) (h : p.Consistent)
    (hc : p.current = none) : HintLeft a p q t.calls := by
  cases hf with
  | stays | rejected => exact .inl ⟨rfl, by simp [Call.isTaken]⟩
  | @turned hint hh hne =>
    exact .inr ⟨hint, hh, hne, by simp, underHint_eq h hc hint⟩

theorem HintLeft.append {cs ds : List Call} (h : HintLeft a p q cs)
    (hd : ∀ c ∈ ds, c.isTaken = false) : HintLeft a p q (cs ++ ds) := by
  rcases h with ⟨rfl, hcs⟩ | ⟨hint, hh, hne, hm, rfl⟩
  · refine .inl ⟨rfl, fun c hc => ?_⟩
    rcases List.mem_append.mp hc with hc | hc
    · exact hcs c hc
    · exact hd c hc
  · exact .inr ⟨hint, hh, hne, List.mem_append_left ds hm, rfl⟩

/-- How a dequeue fails, for a pool whose slots agree. -/
theorem Dequeues.failed (hd : Dequeues a p (.error e) q t) (h : p.Consistent) :
    HintLeft a p q t.calls ∧ GivesBack t.calls ∧ t = t.calls.map .call := by
  cases hd with
  | busy => exact ⟨.inl ⟨rfl, nofun⟩, ⟨rfl, by decide⟩, rfl⟩
  | rejected hc hf =>
    obtain ⟨ht, hback, hout⟩ := hf.calls
    refine ⟨hf.left h (h.current_eq_none hc), ⟨hback.trans hout.symm, ?_⟩, ht⟩
    rw [hout]
    exact Nat.zero_le 1
  | acquires hc hf ha =>
    obtain ⟨ht, hback, hout⟩ := hf.calls
    obtain ⟨rfl, hu, ⟨hgives, hone⟩, htaken⟩ := ha.failed
    rw [Trace.calls_append]
    refine ⟨(hf.left h (h.current_eq_none hc)).append htaken, ⟨?_, ?_⟩, ?_⟩
    · rw [List.filterMap_append, List.filterMap_append, hback, hout, hgives]
    · rw [List.filterMap_append, hout]
      exact hone
    · rw [List.map_append, ← ht, ← hu]

/-- A dequeue that fails leaves the pool that following the hint leaves. -/
theorem pool_of_error (h : p.Consistent) (he : (p.dequeue a).result = .error e) :
    (p.dequeue a).pool = if p.currentId.isSome then p else (p.followHint a).pool := by
  unfold dequeue at he ⊢
  cases hc : p.currentId with
  | some id => rfl
  | none =>
    simp only [hc, Outcome.andThen] at he ⊢
    -- Past the hint only acquiring can fail, and that leaves the pool it was given.
    cases hr : (p.followHint a).result with
    | error e => rfl
    | ok u =>
      have ha := acquire_cases a ((followHint_cases a p).idle (h.rests hc))
      simp only [hr, Outcome.after_result] at he
      rw [he] at ha
      exact ha.failed.1

/-- If the window has no buffer the dequeue fails. -/
theorem Dequeues.error_of_refused {r : Except PoolError Nat} {text : String}
    (hd : Dequeues a p r q t) (ha : a.dequeue = .refused text) : ∃ e, r = .error e := by
  cases hd with
  | busy | rejected => exact ⟨_, rfl⟩
  | acquires hc hf hq =>
    cases hq with
    | refused | unusable | homeless | unwrapped => exact ⟨_, rfl⟩
    | cached hd | wrapped hd => cases ha.symm.trans hd

/-- Whenever a dequeue fails, the pool is as it was, or as the accepted hint alone leaves it: as if
the window had had no buffer. What the window handed out was given back, once and with the fence
it came with, and no descriptor moved otherwise. -/
theorem failed_dequeue (h : Reachable p) (he : (p.dequeue a).result = .error e) :
    let q := (p.dequeue a).pool
    let cs := (p.dequeue a).trace.calls
    HintLeft a p q cs ∧ (∀ text, (p.dequeue { a with dequeue := .refused text }).pool = q) ∧
      GivesBack cs ∧ (p.dequeue a).acts = cs.map .call := by
  intro q cs
  have hrests := h.consistent.rests
  have hd := dequeue_cases a hrests
  rw [he] at hd
  obtain ⟨hleft, hback, hacts⟩ := hd.failed h.consistent
  rw [Outcome.acts, Trace.calls_acts] at hleft hback hacts
  refine ⟨hleft, fun text => ?_, hback, hacts⟩
  obtain ⟨e', he'⟩ := (dequeue_cases { a with dequeue := .refused text } hrests).error_of_refused rfl
  exact (pool_of_error h.consistent he').trans (pool_of_error h.consistent he).symm

/-- A window that is turned after a frame has been shown, and then hands out a buffer of the old
size that cannot be wrapped and that it does not take back. -/
theorem failed_dequeue_turned :
    let b := Answers.giving (.plain 7 1) none
    let p := (plain.performAll [.dequeue b, .present b none none]).1
    let a := { Answers.giving (.plain 8 2) (some ⟨2, false⟩) with
      hint := .given .rot90, wrap := .refused "no memory", cancel := .refused "gone" }
    p.slots.activeCount = 1 ∧ (p.dequeue a).pool = p.turned .rot90 ∧
      (p.turned .rot90).slots.activeCount = 0 ∧
      (p.dequeue a).trace.calls.filterMap Call.givenBack? = [(.plain 8 2, some ⟨2, false⟩)] := by
  intro b p a
  have h : Reachable p := reachable_plain.performAll _
  have he : (p.dequeue a).result = .error (.wrapFailed ⟨8⟩ ⟨640, 480⟩ "no memory") := by
    simp only [a, p, b]
    rfl
  obtain ⟨hleft, -, ⟨hback, -⟩, -⟩ := failed_dequeue h he
  refine ⟨by decide, ?_, by decide, hback.trans (by decide)⟩
  obtain ⟨-, hnone⟩ | ⟨hint, hh, -, -, hq⟩ := hleft
  · exact absurd hnone (by decide)
  · cases hh
    exact hq

end Pool
end Swapchain
