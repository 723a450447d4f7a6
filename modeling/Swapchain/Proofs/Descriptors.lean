import Swapchain.Proofs.Custody

/-!
# Where fences go

A fence is a descriptor that somebody has to close. A pool comes to own one when a buffer is
handed out with it, when a caller presents with it, or when it duplicates one; it gives one up
when the caller takes it, when it goes to the window, or when the pool closes it. `Accounts` are
movements in which nothing is lost or given up twice: a descriptor of a caller or of the pool's
own making goes as soon as it has come, and at most one that came with a buffer is open.

* `Pool.movements`: the descriptors that come and go in a run;
* `Movement.book`: the open descriptors after a movement, where only an open one may go;
* `Pool.fences_conserved`: every run is an account, and ends with nothing open.
-/

namespace Swapchain

/-! ## Movements -/

/-- Where a descriptor is from. -/
inductive Origin where
  /-- It came with a buffer. -/
  | window
  /-- It came with a present. -/
  | caller
  /-- The pool had it made from another. -/
  | duplicate
  deriving DecidableEq, Repr

/-- Where a descriptor goes. -/
inductive Fate where
  /-- The caller took it. -/
  | taken
  | cancelled
  | queued
  /-- The pool closed it as its buffer was shown. -/
  | retired
  /-- The pool closed it as there was nothing to present. -/
  | unused
  deriving DecidableEq, Repr

/-- A descriptor comes to the pool, or goes. -/
inductive Movement where
  | comes (f : Fence) (origin : Origin)
  | goes (f : Fence) (fate : Fate)
  deriving DecidableEq, Repr

/-- The movements of an event, where `shown` is whether it is of a present that succeeds. -/
def Event.movements (shown : Bool) : Event → List Movement
  | .call (.dequeue (.given (_, f))) => f.toList.map (.comes · .window)
  | .call (.cancel _ f _) => f.toList.map (.goes · .cancelled)
  | .call (.queue _ f _ _) => f.toList.map (.goes · .queued)
  | .duplicated f => [.comes f.duplicate .duplicate]
  | .taken f => [.goes f .taken]
  | .closed f => [.goes f (if shown then .retired else .unused)]
  | _ => []

/-- How a descriptor may go, by where it is from. -/
def Origin.mayEnd : Origin → Fate → Bool
  | .window, .taken | .window, .cancelled | .window, .retired => true
  | .caller, .queued | .caller, .unused | .duplicate, .queued => true
  | _, _ => false

/-- Movements from when the descriptor `f` of a buffer is open, if any, to when `g` is. -/
inductive Accounts : Option Fence → List Movement → Option Fence → Prop where
  | nil (f : Option Fence) : Accounts f [] f
  /-- A descriptor that does not come with a buffer goes as soon as it has come. -/
  | passing {x : Fence} {o : Origin} {d : Fate} {ms : List Movement} {f g : Option Fence}
      (ho : o ≠ .window) (hd : o.mayEnd d = true) (h : Accounts f ms g) :
    Accounts f (.comes x o :: .goes x d :: ms) g
  | comes {x : Fence} {ms : List Movement} {g : Option Fence} (h : Accounts (some x) ms g) :
    Accounts none (.comes x .window :: ms) g
  | goes {x : Fence} {d : Fate} {ms : List Movement} {g : Option Fence}
      (hd : Origin.window.mayEnd d = true) (h : Accounts none ms g) :
    Accounts (some x) (.goes x d :: ms) g

/-- The open descriptors after a movement. Only an open descriptor may go. -/
def Movement.book (l : List Fence) : Movement → Option (List Fence)
  | .comes f _ => some (f :: l)
  | .goes f _ => if f ∈ l then some (l.erase f) else none

namespace Accounts

variable {f g k : Option Fence} {ms ns : List Movement}

theorem append (h : Accounts f ms g) (hn : Accounts g ns k) : Accounts f (ms ++ ns) k := by
  induction h with
  | nil => exact hn
  | passing ho hd _ ih => exact .passing ho hd (ih hn)
  | comes _ ih => exact .comes (ih hn)
  | goes hd _ ih => exact .goes hd (ih hn)

/-- In an account only open descriptors go, and those that are left open are known. -/
theorem book (h : Accounts f ms g) : ms.foldlM Movement.book f.toList = some g.toList := by
  -- The newest is booked first, so what passes goes from the front over what is open.
  induction h with
  | nil => rfl
  | passing _ _ _ ih => simpa [Movement.book] using ih
  | comes _ ih => simpa [Movement.book] using ih
  | goes _ _ ih => simpa [Movement.book] using ih

/-- The descriptor that comes with a buffer, if there is one. -/
theorem of_dequeue (f : Option Fence) : Accounts none (f.toList.map (.comes · .window)) f := by
  cases f with
  | none => exact .nil _
  | some f => exact .comes (.nil _)

/-- The descriptor of a buffer goes, if it is open. -/
theorem of_end {d : Fate} (hd : Origin.window.mayEnd d = true) (f : Option Fence) :
    Accounts f (f.toList.map (.goes · d)) none := by
  cases f with
  | none => exact .nil _
  | some f => exact .goes hd (.nil _)

end Accounts

/-! ## One operation -/

namespace Trace

variable {s : Bool}

/-- The log moves nothing. -/
theorem movements_acts (t : Trace) :
    t.acts.flatMap (Event.movements s) = t.flatMap (Event.movements s) := by
  induction t with
  | nil => rfl
  | cons e t ih =>
    cases e with
    | log r => exact ih
    | call | duplicated | closed | taken => exact congrArg (_ ++ ·) ih

theorem movements_talk {cs : List Call} (hcs : ∀ c ∈ cs, c.isTalk = true) :
    (cs.map Event.call).flatMap (Event.movements s) = [] :=
  List.flatMap_eq_nil_iff.mpr fun e he => by
    obtain ⟨c, hc, rfl⟩ := List.mem_map.mp he
    cases c with
    | dequeue x =>
      cases x with
      | given => cases hcs _ hc
      | refused => rfl
    | queue | cancel => cases hcs _ hc
    | query | hint | supportedUsage | configure | wrap => rfl

theorem movements_wraps {cs : List Call} {b : Buffer} (hcs : ∀ c ∈ cs, c.Wraps b) :
    (cs.map Event.call).flatMap (Event.movements s) = [] :=
  List.flatMap_eq_nil_iff.mpr fun e he => by
    obtain ⟨c, hc, rfl⟩ := List.mem_map.mp he
    obtain ⟨spec, x, rfl⟩ := Call.wraps_iff.mp (hcs c hc)
    rfl

theorem movements_closing (f : Option Fence) :
    (closing f).flatMap (Event.movements s) =
      f.toList.map (.goes · (if s then .retired else .unused)) := by
  cases f <;> rfl

end Trace

namespace Pool

variable {p : Pool} {t : Trace}

/-- What is queued has come with the present or has been made for it. -/
theorem Forwards.accounts {h c g : Option Fence} (hf : Forwards h c g t) (s : Bool)
    (k : Option Fence) :
    Accounts k (c.toList.map (.comes · .caller) ++ (t.flatMap (Event.movements s) ++
      g.toList.map (.goes · .queued))) k := by
  cases hf with
  | completion => exact .passing (by decide) rfl (.nil _)
  | duplicate => exact .passing (by decide) rfl (.nil _)
  | bare => exact .nil _

theorem Passage.accounts {h k : Option Held} {c : Option Fence} {s : Bool}
    (hp : Passage h c s t k) :
    Accounts (h.bind Held.fence)
      (c.toList.map (.comes · .caller) ++ t.flatMap (Event.movements s)) (k.bind Held.fence) := by
  cases hp with
  | still => exact .nil _
  | unused =>
    cases c with
    | none => exact .nil _
    | some f => exact .passing (by decide) rfl (.nil _)
  | talk hcs => simpa [Trace.movements_talk hcs] using Accounts.nil none
  | @bounced cs w b f x hcs hw =>
    simpa [Trace.movements_talk hcs, Trace.movements_wraps hw, Event.movements] using
      (Accounts.of_dequeue f).append (.of_end (d := .cancelled) rfl f)
  | @acquired cs w b f hcs hw =>
    simpa [Trace.movements_talk hcs, Trace.movements_wraps hw, Event.movements] using
      Accounts.of_dequeue f
  | taken b f => exact .goes rfl (.nil _)
  | @refused b h c g t d text hf =>
    simpa [Event.movements] using hf.accounts false h
  | @shown b h c g t d hf =>
    have hend : Accounts h (h.toList.map (.goes · .retired)) none := .of_end rfl h
    simpa [Event.movements, Trace.movements_closing] using (hf.accounts true h).append hend
  | cancelled b h => simpa [Event.movements] using Accounts.of_end (d := .cancelled) rfl h

/-! ## A whole run -/

/-- The descriptors that come and go in an operation: the one that is handed in, then those of
its trace. -/
def movementsOf (p : Pool) (o : Operation) : List Movement :=
  o.completion.toList.map (.comes · .caller) ++
    (p.perform o).trace.flatMap (Event.movements (p.shows o))

/-- The descriptors that come and go in a run. -/
def movements (p : Pool) : List Operation → List Movement
  | [] => []
  | o :: os => p.movementsOf o ++ (p.perform o).pool.movements os

/-- The descriptors that the slots own. -/
def fences (p : Pool) : List Fence := p.slots.slots.flatMap (·.fence.toList)

/-- What goes to the window with the buffers that are queued. -/
def queuedFences (t : Trace) : List (Option Fence) :=
  t.calls.filterMap fun
    | .queue _ f _ _ => some f
    | _ => none

theorem accounts_perform (h : p.Consistent) (o : Operation) :
    Accounts (p.held.bind Held.fence) (p.movementsOf o)
      ((p.perform o).pool.held.bind Held.fence) := by
  unfold movementsOf
  rw [← Trace.movements_acts]
  exact (passage_perform h o).accounts

theorem accounts_movements (h : p.Consistent) (os : List Operation) :
    Accounts (p.held.bind Held.fence) (p.movements os)
      ((p.performAll os).1.held.bind Held.fence) := by
  induction os generalizing p with
  | nil => exact .nil _
  | cons o os ih => exact (accounts_perform h o).append (ih (consistent_perform h o))

/-- The slots own the descriptor of what is in hand and no other. -/
theorem fences_eq (h : p.Consistent) : p.fences = (p.held.bind Held.fence).toList := by
  have quiet : ∀ s : Slot, s.Whole → s.dequeued = false → s.fence.toList = [] :=
    fun s hs hd => by rw [hs.fence_eq_none hd]; rfl
  rw [fences, h.flatMap_slots quiet, held]
  cases p.current? <;> rfl

/-- What a present does with fences: without a current buffer it closes the completion fence;
else it queues the completion fence, or a duplicate of the one that the slot still owns, or none.
It queues nothing only if there is a fence to duplicate and the system refuses. -/
def SendsFence (p : Pool) (a : Answers) (completion : Option Fence) (t : Trace) : Prop :=
  match p.current? with
  | none => t = Trace.closing completion
  | some c =>
    queuedFences t = [completion <|> c.slot.fence.map Fence.duplicate] ∨
      completion = none ∧ c.slot.fence.isSome ∧ (∃ text, a.duplicate = .refused text) ∧ t = []

theorem Presents.sendsFence {a : Answers} {dirty : Option Rect} {completion : Option Fence}
    {r : Except PoolError Unit} {q : Pool} (hp : Presents a dirty completion p r q t) :
    p.SendsFence a completion t := by
  unfold SendsFence
  cases hp with
  | nothing hc => rw [hc]
  | unforwarded hc hf =>
    rw [hc]
    obtain ⟨hn, hs, ha⟩ := forwarded_refused hf
    exact .inr ⟨hn, hs, ⟨_, ha⟩, rfl⟩
  | refused hc hf | shown hc hf =>
    rw [hc]
    exact .inl (by simp [queuedFences, hf.calls_eq, hf.fence_eq])

/-- After every run the slots own at most one descriptor: the fence of the buffer that the window
has handed out and not had back, unless the caller has taken it. Nothing was lost or given up twice
on the way, each present sends the fence it should, and a release leaves nothing open. -/
theorem fences_conserved {query : Answer WindowProfile} {gpu : GpuLimits}
    {configured : Answer Unit} {color : ColorSetup} {settings : Settings}
    (h : (create query gpu configured color settings).result = .ok p) (os : List Operation)
    (last : Answers) :
    let q := (p.performAll os).1
    let due := (Trace.lent (p.performAll os).2).bind Held.fence
    q.fences = due.toList ∧ q.current?.bind (·.slot.fence) = due ∧
      Accounts none (p.movements os) due ∧
      (p.movements os).foldlM Movement.book [] = some q.fences ∧
      (∀ a dirty completion,
        q.SendsFence a completion (q.present a dirty completion).acts) ∧
      Accounts none (p.movements (os ++ [.release last])) none ∧
      (p.movements (os ++ [.release last])).foldlM Movement.book [] = some [] := by
  intro q due
  have hp := consistent_create h
  have hheld : q.held.bind Held.fence = due := by
    rw [← lent_performAll h os]
  have hrun := accounts_movements hp os
  have hlife := accounts_movements hp (os ++ [.release last])
  rw [held_create h] at hrun hlife
  rw [held_released] at hlife
  have hq : q.fences = due.toList := by
    rw [fences_eq (Reachable.created h |>.performAll os).consistent, hheld]
  refine ⟨hq, ?_, hheld ▸ hrun, ?_, fun a dirty completion => ?_, hlife, hlife.book⟩
  · rw [← hheld]
    cases hc : q.current? <;> simp [held, hc]
  · rw [hq, ← hheld]
    exact hrun.book
  · exact (present_cases a dirty completion q).sendsFence

/-- A present in vain with a duplicate, then the fence is taken and the present repeated with a
completion fence; a cancel in vain; and a buffer still in hand when the pool is released. -/
theorem fences_conserved_retries :
    let a := fun n => Answers.giving (.plain 7 1) (some ⟨n, false⟩)
    let run : List Operation := [.dequeue (a 1),
      .present { a 1 with queue := .refused "busy" } none none, .takeFence,
      .present (a 1) none (some ⟨9, false⟩), .dequeue (a 2),
      .cancel { a 2 with cancel := .refused "gone" }, .dequeue (a 3)]
    plain.movements run = [.comes ⟨1, false⟩ .window, .comes ⟨1, true⟩ .duplicate,
        .goes ⟨1, true⟩ .queued, .goes ⟨1, false⟩ .taken, .comes ⟨9, false⟩ .caller,
        .goes ⟨9, false⟩ .queued, .comes ⟨2, false⟩ .window, .goes ⟨2, false⟩ .cancelled,
        .comes ⟨3, false⟩ .window] ∧
      (plain.performAll run).1.fences = [⟨3, false⟩] ∧
      Accounts none (plain.movements (run ++ [.release (a 3)])) none := by
  intro a run
  obtain ⟨-, -, -, -, -, hlife, -⟩ := fences_conserved create_plain run (a 3)
  exact ⟨by decide, by decide, hlife⟩

end Pool
end Swapchain
