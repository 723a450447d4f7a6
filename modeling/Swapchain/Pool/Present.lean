import Swapchain.Pool.Basic

/-!
# Ending a dequeue

The current buffer goes back to the window: shown, or unused.

* `Pool.present`: the buffer is queued with a fence and the damaged region; a refusal leaves it
  dequeued with its fence;
* `Pool.cancel`: the buffer is given back with its fence, and is no longer current even if the
  window refuses it.
-/

namespace Swapchain.Pool

/-- The fence that goes with a present: the one that signals the end of drawing, else a second
descriptor of the one the buffer came with. -/
def forwarded (a : Answers) (held completion : Option Fence) :
    Answer (Option Fence × Trace) :=
  match completion, held with
  | some f, _ => .given (some f, [])
  | none, none => .given (none, [])
  | none, some f =>
    match a.duplicate with
    | .given () => .given (some f.duplicate, [.duplicated f])
    | .refused e => .refused e

/-- The pool after the current slot has been presented. -/
def presented (i : Nat) (p : Pool) : Pool :=
  let count := p.presents + 1
  { p with
    slots := p.slots.modify i (Slot.shown count)
    presents := count
    current := none }

/-- The current buffer queued to the window with a fence. -/
def queue (a : Answers) (c : Current) (fence : Option Fence) (damage : Option Region) (p : Pool) :
    Outcome Unit :=
  let asked : Trace := [.call (.queue c.buffer fence damage a.queue)]
  let id := c.buffer.id
  match a.queue with
  | .refused e =>
    .error p (.presentFailed id e)
      (asked ++ Trace.logged .error s!"queueBuffer failed for {id.text}: {e}")
  | .given () =>
    let q := p.presented c.index
    .ok q () (asked ++ .closing c.slot.fence ++ Trace.logged .trace
      s!"presented buffer {id.text} as frame {q.presents}")

/-- The current buffer is shown. The damage is the dirty rectangle in whole pixels of the
buffer, or the whole buffer. -/
def present (a : Answers) (dirty : Option Rect) (completion : Option Fence) (p : Pool) :
    Outcome Unit :=
  match p.current? with
  | none => .error p .noCurrentBuffer (.closing completion)
  | some c =>
    let damage := dirty.bind (Region.ofRect? · p.layout.physicalSize)
    match forwarded a c.slot.fence completion with
    | .refused e =>
      .error p (.presentFailed c.buffer.id e) (Trace.logged .error
        s!"Failed to duplicate dequeue fence of {c.buffer.id.text}: {e}")
    | .given (fence, t) => (p.queue a c fence damage).after t

/-- The current buffer is given back unused. -/
def cancel (a : Answers) (p : Pool) : Outcome Unit :=
  match p.current? with
  | none => .error p .noCurrentBuffer []
  | some c =>
    let q := { p with slots := p.slots.modify c.index Slot.finish, current := none }
    let asked : Trace := [.call (.cancel c.buffer c.slot.fence a.cancel)]
    let id := c.buffer.id
    match a.cancel with
    | .given () => .ok q () asked
    | .refused e =>
      .error q (.cancelFailed id e)
        (asked ++ Trace.logged .warn s!"cancelBuffer failed for {id.text}: {e}")

end Swapchain.Pool
