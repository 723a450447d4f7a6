import Swapchain.SlotTable
import Swapchain.Trace

/-!
# The buffer pool of a window

A pool remembers the buffers of one window in a slot table. It is idle, or one slot is
*current*: its buffer has been dequeued and is being drawn. Whenever the geometry changes the
epoch grows, and a surface wrapped in an earlier epoch is not drawn on again. Presents and epochs
are counted without a limit: no pool is taken to live for 2^64 of either, so no counter wraps.

* `Pool.current?`: the current slot with its buffer;
* `Pool.slotAge`: how many presents ago a slot's buffer was last shown;
* `Outcome`: what an operation answers, the pool it leaves and what happened on the way.
-/

namespace Swapchain

/-- The buffers of one window and the geometry they are drawn in. -/
structure Pool where
  layout : Layout
  color : ColorSetup
  slots : SlotTable
  /-- The slot that is dequeued. -/
  current : Option Nat
  /-- How many presents have succeeded, taken to be below 2^64. -/
  presents : Nat
  /-- How often the geometry has changed, taken to be below 2^64. -/
  epoch : Nat
  /-- The bounds of the logical size. -/
  minSize : Extent
  maxSize : Extent
  /-- The bound of a buffer's size. -/
  gpuMax : Extent
  deriving DecidableEq, Inhabited, Repr

/-- A dequeued slot, with its index and its buffer. -/
structure Current where
  index : Nat
  slot : Slot
  buffer : Buffer

/-- What an operation answers, the pool it leaves and what happened on the way. -/
structure Outcome (α : Type) where
  result : Except PoolError α
  pool : Pool
  trace : Trace

namespace Outcome

variable {α β : Type}

/-- An answer without a call. -/
def ok (p : Pool) (a : α) (t : Trace) : Outcome α := ⟨.ok a, p, t⟩

/-- A failure that leaves a pool. -/
def error (p : Pool) (e : PoolError) (t : Trace) : Outcome α := ⟨.error e, p, t⟩

/-- The outcome with something having happened before. -/
def after (t : Trace) (o : Outcome α) : Outcome α := { o with trace := t ++ o.trace }

/-- What follows a success, from its answer and the pool it leaves. -/
def andThen (o : Outcome α) (f : α → Pool → Outcome β) : Outcome β :=
  match o.result with
  | .ok a => (f a o.pool).after o.trace
  | .error e => ⟨.error e, o.pool, o.trace⟩

/-- The outcome with its answer changed. -/
def map (f : α → β) (o : Outcome α) : Outcome β := { o with result := o.result.map f }

end Outcome

namespace Pool

/-- The smallest size a window is brought to. -/
def smallest : Extent := .square 1

/-! ## Views -/

/-- The current slot, with its index and its buffer. -/
def current? (p : Pool) : Option Current := do
  let index ← p.current
  let slot ← p.slots.get? index
  let buffer ← slot.buffer
  return { index, slot, buffer }

/-- The identity of the current buffer. -/
def currentId (p : Pool) : Option BufferId := p.current?.map (·.buffer.id)

/-- The surface of the current buffer. -/
def currentSurface (p : Pool) : Option Surface := p.current?.bind (·.slot.surface)

/-- How many presents ago a slot's buffer was last shown; nothing if its pixels are unknown. -/
def slotAge (p : Pool) (i : Nat) : Option Nat := do
  let slot ← p.slots.get? i
  if slot.isActive && slot.valid then some (p.presents - slot.lastShown) else none

/-- How many presents ago the current buffer was last shown. -/
def currentAge (p : Pool) : Option Nat := p.current.bind p.slotAge

/-- How buffers of a size are made drawable. -/
def specOf (size : Extent) (p : Pool) : SurfaceSpec where
  size
  colorType := p.color.type
  colorSpace := p.color.space
  textureFormat := p.color.type.textureFormat
  usage := p.layout.usage

/-! ## Changes of geometry -/

/-- The pool in a new layout, as a new epoch begins. -/
def beginEpoch (l : Layout) (p : Pool) : Pool := { p with layout := l, epoch := p.epoch + 1 }

/-- The pool after its idle slots have forgotten their buffers. -/
def releaseIdle (p : Pool) : Pool := { p with slots := p.slots.releaseIdle }

end Pool
end Swapchain
