import Swapchain.Pool.Create
import Swapchain.Pool.Dequeue
import Swapchain.Pool.Present
import Swapchain.Pool.Resize

/-!
# Lives of a pool

Everything a caller does with a pool is an `Operation`; a life of a pool is a list of them,
each with what the window and the GPU answered.

* `Pool.takeFence`, `Pool.draw`: what a caller does with the current slot;
* `Pool.perform`: any operation;
* `Pool.performAll`: a list of them, one after another.
-/

namespace Swapchain

/-- Something a caller does with a pool. -/
inductive Operation where
  | dequeue (a : Answers)
  | present (a : Answers) (dirty : Option Rect) (completion : Option Fence)
  | cancel (a : Answers)
  | resize (a : Answers) (size : Extent)
  | release (a : Answers)
  /-- The caller takes the fence of the current slot. -/
  | takeFence
  /-- The caller draws on the surface of the current slot. -/
  | draw

/-- What an operation answers. -/
inductive Reply where
  | done
  /-- The slot that became current. -/
  | slot (index : Nat)
  /-- The fence that was taken. -/
  | fence (f : Option Fence)
  /-- The draws made on the surface so far. -/
  | draws (n : Option Nat)
  deriving DecidableEq, Inhabited, Repr

namespace Pool

/-- The caller takes the fence of the current slot. -/
def takeFence (p : Pool) : Outcome (Option Fence) :=
  match p.current? with
  | none => .ok p none []
  | some c =>
    .ok { p with slots := p.slots.modify c.index Slot.takeFence } c.slot.fence
      (c.slot.fence.toList.map .taken)

/-- The caller draws on the surface of the current slot; the answer is the number of draws
made on it. -/
def draw (p : Pool) : Outcome (Option Nat) :=
  match p.current? with
  | none => .ok p none []
  | some c =>
    .ok { p with slots := p.slots.modify c.index Slot.draw }
      (c.slot.draw.surface.map Surface.draws) []

/-- The outcome of any operation. -/
def perform (p : Pool) : Operation → Outcome Reply
  | .dequeue a => (p.dequeue a).map .slot
  | .present a dirty completion => (p.present a dirty completion).map fun () => .done
  | .cancel a => (p.cancel a).map fun () => .done
  | .resize a size => (p.resize a size).map fun () => .done
  | .release a => (p.release a).map fun () => .done
  | .takeFence => p.takeFence.map .fence
  | .draw => p.draw.map .draws

/-- The pool after a list of operations, and all that happened. -/
def performAll (p : Pool) : List Operation → Pool × Trace
  | [] => (p, [])
  | o :: os =>
    let first := p.perform o
    let (q, t) := first.pool.performAll os
    (q, first.trace ++ t)

end Pool
end Swapchain
