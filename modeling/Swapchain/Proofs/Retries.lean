import Swapchain.Proofs.Consistency

/-!
# Presents that fail

A present can fail in three ways: nothing is dequeued, the fence that the slot still owns cannot be
duplicated, or the window refuses the buffer. Because the fence is forwarded by a duplicate, the
slot keeps its own, and a present that fails leaves nothing behind in the pool. So it can be tried
again as often as it takes, with any rectangle and any completion fence.

* `Pool.Hinders`: what stands in the way of a present, and how often the window is asked for it;
* `Hinders.fails`, `Pool.present_of_not_hinders`: how a present goes with and without a hindrance;
* `Pool.Vain`: presents that fail one after another, and `Vain.pool_eq` what they leave;
* `Pool.failed_presents_leave_no_trace`: failures, and the success that comes after them.
-/

namespace Swapchain

/-- Whether the window is asked to show a buffer. -/
def Call.isQueue : Call → Bool
  | .queue .. => true
  | _ => false

/-- How often the window is asked to show a buffer. -/
def Trace.queued (t : Trace) : Nat := t.calls.countP Call.isQueue

theorem Trace.queued_acts (t : Trace) : t.acts.queued = t.queued := by
  rw [queued, calls_acts, queued]

namespace Pool

variable {p q : Pool} {a : Answers} {dirty : Option Rect} {completion : Option Fence}
variable {e : PoolError} {n : Nat} {os : List Operation}

/-! ## What stands in the way -/

/-- What stands in the way of a present, and how often the window has been asked by then. -/
inductive Hinders (a : Answers) (completion : Option Fence) (p : Pool) :
    PoolError → Nat → Prop where
  /-- Nothing is dequeued. -/
  | nothing (hc : p.current? = none) : Hinders a completion p .noCurrentBuffer 0
  /-- There is no descriptor left for a duplicate of the fence. -/
  | descriptor {c : Current} {text : String} (hc : p.current? = some c) (hn : completion = none)
      (hf : c.slot.holdsFence = true) (hd : a.duplicate = .refused text) :
    Hinders a completion p (.presentFailed c.buffer.id text) 0
  /-- The window does not take the buffer. -/
  | window {c : Current} {text : String} (hc : p.current? = some c)
      (hf : completion = none → c.slot.holdsFence = true → a.duplicate = .given ())
      (hq : a.queue = .refused text) :
    Hinders a completion p (.presentFailed c.buffer.id text) 1

/-- A fence is forwarded unless the one that is held has to be duplicated and cannot be. -/
theorem forwarded_cases (a : Answers) (held completion : Option Fence) :
    (∃ text, forwarded a held completion = .refused text ∧ completion = none ∧
        held.isSome = true ∧ a.duplicate = .refused text) ∨
      ∃ fence t, forwarded a held completion = .given (fence, t) ∧
        (completion = none → held.isSome = true → a.duplicate = .given ()) := by
  cases completion with
  | some f => exact .inr ⟨some f, [], rfl, nofun⟩
  | none =>
    cases held with
    | none => exact .inr ⟨none, [], rfl, nofun⟩
    | some f =>
      cases hd : a.duplicate with
      | refused text => exact .inl ⟨text, by simp [forwarded, hd], rfl, rfl, rfl⟩
      | given u =>
        exact .inr ⟨some f.duplicate, [.duplicated f], by simp [forwarded, hd], fun _ _ => rfl⟩

/-- A present that is hindered leaves the pool as it was. -/
theorem Hinders.fails (hh : Hinders a completion p e n) (dirty : Option Rect) :
    (p.present a dirty completion).result = .error e ∧ (p.present a dirty completion).pool = p ∧
      (p.present a dirty completion).trace.queued = n := by
  rw [← Trace.queued_acts, ← Outcome.acts]
  cases hh with
  | nothing hc => simp [present, hc, Trace.queued]
  | @descriptor c text hc hn hf hd =>
    obtain ⟨f, hcf⟩ := Option.isSome_iff_exists.mp hf
    simp [present, hc, hn, forwarded, hcf, hd, Trace.queued]
  | @window c text hc hf hq =>
    rcases forwarded_cases a c.slot.fence completion with
      ⟨text, -, hn, hheld, hd⟩ | ⟨fence, t, hfw, -⟩
    · cases (hf hn hheld).symm.trans hd
    · have hcalls : t.acts.calls = [] := by rw [Trace.calls_acts, (forwards hfw).calls_eq]
      simp [present, hc, hfw, queue, hq, Trace.queued, hcalls, Call.isQueue]

/-- A present that nothing hinders shows the current buffer. -/
theorem present_of_not_hinders (hh : ∀ e n, ¬ Hinders a completion p e n) (dirty : Option Rect) :
    ∃ c, p.current? = some c ∧ (p.present a dirty completion).result = .ok () ∧
      (p.present a dirty completion).pool = p.presented c.index ∧
      (p.present a dirty completion).trace.queued = 1 := by
  rw [← Trace.queued_acts, ← Outcome.acts]
  cases hc : p.current? with
  | none => exact absurd (.nothing hc) (hh _ _)
  | some c =>
    rcases forwarded_cases a c.slot.fence completion with
      ⟨text, -, hn, hheld, hd⟩ | ⟨fence, t, hfw, hheld⟩
    · exact absurd (.descriptor hc hn hheld hd) (hh _ _)
    · cases hq : a.queue with
      | refused text => exact absurd (.window hc hheld hq) (hh _ _)
      | given u =>
        have hcalls : t.acts.calls = [] := by rw [Trace.calls_acts, (forwards hfw).calls_eq]
        refine ⟨c, rfl, ?_⟩
        simp [present, hc, hfw, queue, hq, Trace.queued, hcalls, Call.isQueue]

theorem present_error_iff : (p.present a dirty completion).result = .error e ↔
    ∃ n, Hinders a completion p e n := by
  refine ⟨fun hr => ?_, fun ⟨n, hh⟩ => (hh.fails dirty).1⟩
  by_cases hnone : ∃ e' n, Hinders a completion p e' n
  · obtain ⟨e', n, hh⟩ := hnone
    cases hr.symm.trans (hh.fails dirty).1
    exact ⟨n, hh⟩
  · obtain ⟨c, -, hok, -⟩ :=
      present_of_not_hinders (fun e n hh => hnone ⟨e, n, hh⟩) (a := a) (p := p) dirty
    cases hr.symm.trans hok

/-! ## One failure after another -/

/-- Presents that fail, one after another. -/
inductive Vain : Pool → List Operation → Prop where
  | nil (p : Pool) : Vain p []
  | cons {p : Pool} {a : Answers} {dirty : Option Rect} {completion : Option Fence} {e : PoolError}
      {os : List Operation} (hr : (p.present a dirty completion).result = .error e)
      (hos : Vain (p.present a dirty completion).pool os) :
    Vain p (.present a dirty completion :: os)

/-- Presents that fail leave the pool as it was. -/
theorem Vain.pool_eq (hv : Vain p os) : (p.performAll os).1 = p := by
  induction hv with
  | nil p => rfl
  | @cons p a dirty completion e os hr _ ih =>
    obtain ⟨n, hh⟩ := present_error_iff.mp hr
    have hstep : (p.perform (.present a dirty completion)).pool = p := (hh.fails dirty).2.1
    rw [performAll_cons]
    calc ((p.perform (.present a dirty completion)).pool.performAll os).1
      _ = (p.perform (.present a dirty completion)).pool := ih
      _ = p := hstep

theorem noCurrentBuffer_iff (hp : p.Consistent) :
    (p.present a dirty completion).result = .error .noCurrentBuffer ↔
      ∀ s ∈ p.slots.slots, s.dequeued = false := by
  rw [present_error_iff, ← hp.current?_eq_none_iff_idle]
  constructor
  · rintro ⟨n, hh⟩
    cases hh with
    | nothing hc => exact hc
  · exact fun hc => ⟨0, .nothing hc⟩

/-- After every run a present fails exactly if something stands in its way. Then the pool is as it
was, with the fence that the slot still owns, and the window has been asked once if it was the
window that refused, and not at all otherwise; without a current buffer exactly if no slot is
dequeued. A present that succeeds has asked once and changes the current slot alone, which becomes
idle without a fence and is known to show the newest frame; the counter grows by one and nothing is
current. After any presents that have failed, one more has the same outcome as at first. -/
theorem failed_presents_leave_no_trace (h : Reachable p) (a : Answers) (dirty : Option Rect)
    (completion : Option Fence) :
    let o := p.present a dirty completion
    (∀ e, o.result = .error e ↔ ∃ n, Hinders a completion p e n) ∧
      (∀ e n, Hinders a completion p e n → o.pool = p ∧ o.trace.queued = n) ∧
      (o.result = .error .noCurrentBuffer ↔ ∀ s ∈ p.slots.slots, s.dequeued = false) ∧
      (o.result = .ok () → o.trace.queued = 1 ∧ ∃ i s, p.current = some i ∧
        p.slots.get? i = some s ∧
        o.pool.slots.get? i = some { s with
          dequeued := false, fence := none, valid := true, lastShown := p.presents + 1 } ∧
        (∀ j, j ≠ i → o.pool.slots.get? j = p.slots.get? j) ∧
        o.pool = { p with
          slots := o.pool.slots, presents := p.presents + 1, current := none }) ∧
      ∀ os, Vain p os → (p.performAll os).1.present a dirty completion = o := by
  intro o
  refine ⟨fun e => present_error_iff, fun e n hh => (hh.fails dirty).2,
    noCurrentBuffer_iff h.consistent, fun hr => ?_, fun os hv => by rw [hv.pool_eq]⟩
  have hnone : ∀ e n, ¬ Hinders a completion p e n := fun e n hh => by
    cases hr.symm.trans (hh.fails dirty).1
  obtain ⟨c, hc, -, hpool, hqueued⟩ := present_of_not_hinders hnone dirty
  obtain ⟨hi, hs, -⟩ := current?_eq_some_iff.mp hc
  have hpool : o.pool = p.presented c.index := hpool
  rw [hpool]
  refine ⟨hqueued, c.index, c.slot, hi, hs, ?_, fun j hj => ?_, rfl⟩
  · show (p.slots.modify c.index (Slot.shown (p.presents + 1))).get? c.index = _
    rw [SlotTable.get?_modify_self, hs]
    rfl
  · exact SlotTable.get?_modify_ne _ _ hj.symm

/-- Buffer 7 is dequeued with a fence. First no descriptor is left for a duplicate of it, then the
window refuses the buffer along with a completion fence; the third present goes as the first would
have gone. -/
theorem failed_presents_leave_no_trace_twice :
    let a := Answers.giving (.plain 7 1) (some ⟨1, false⟩)
    let p := (plain.performAll [.dequeue a]).1
    let scarce := { a with duplicate := .refused "too many open files" }
    let busy := { a with queue := .refused "busy" }
    let tries := [.present scarce none none, .present busy none (some ⟨2, false⟩)]
    p.slots.fenceCount = 1 ∧ Vain p tries ∧ (p.present scarce none none).trace.queued = 0 ∧
      (p.present busy none (some ⟨2, false⟩)).trace.queued = 1 ∧
      (p.performAll tries).1.present a none none = p.present a none none ∧
      (p.present a none none).result = .ok () ∧ (p.present a none none).pool.presents = 1 := by
  intro a p scarce busy tries
  have h : Reachable p := reachable_plain.performAll [.dequeue a]
  obtain ⟨c, hc⟩ : ∃ c, p.current? = some c := ⟨_, rfl⟩
  have hf : c.slot.holdsFence = true := by cases hc; rfl
  have hscarce : Hinders scarce none p (.presentFailed c.buffer.id "too many open files") 0 :=
    .descriptor hc rfl hf rfl
  have hbusy : Hinders busy (some ⟨2, false⟩) p (.presentFailed c.buffer.id "busy") 1 :=
    .window hc nofun rfl
  obtain ⟨hfirst, hkept, -⟩ := failed_presents_leave_no_trace h scarce none none
  obtain ⟨hsecond, hagain, -⟩ := failed_presents_leave_no_trace h busy none (some ⟨2, false⟩)
  have hvain : Vain p tries := by
    refine .cons ((hfirst _).mpr ⟨0, hscarce⟩) ?_
    rw [(hkept _ _ hscarce).1]
    exact .cons ((hsecond _).mpr ⟨1, hbusy⟩) (.nil _)
  obtain ⟨-, -, -, hshown, hretry⟩ := failed_presents_leave_no_trace h a none none
  have hr : (p.present a none none).result = .ok () := rfl
  obtain ⟨-, i, s, -, -, -, -, hpool⟩ := hshown hr
  refine ⟨by decide, hvain, (hkept _ _ hscarce).2, (hagain _ _ hbusy).2, hretry tries hvain, hr, ?_⟩
  rw [hpool]
  rfl

end Pool
end Swapchain
