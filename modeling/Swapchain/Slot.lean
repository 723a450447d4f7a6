import Swapchain.Gpu

/-!
# Slots

A slot remembers one buffer of the window: its drawable surface, the fence it came with, and
when it was last shown. It is *active* while it holds a buffer, and *dequeued* from a
successful dequeue to the present or cancel that ends it; only then does it hold a fence.

* `Slot.empty`: a slot that remembers nothing;
* `Slot.hold`, `Slot.renew`, `Slot.start`, `Slot.shown`, `Slot.finish`,
  `Slot.takeFence`, `Slot.draw`: the changes a slot goes through;
* `Slot.staler`: whose contents are worth less.
-/

namespace Swapchain

/-- What is remembered of one buffer. -/
structure Slot where
  surface : Option Surface
  buffer : Option Buffer
  /-- The fence the buffer was dequeued with, as long as nobody has taken it. -/
  fence : Option Fence
  dequeued : Bool
  /-- The number of the present that last showed the buffer, taken to be below 2^64. -/
  lastShown : Nat
  /-- Whether the pixels of the last present are known to be there. -/
  valid : Bool
  /-- The geometry epoch the surface was wrapped in, taken to be below 2^64. -/
  epoch : Nat
  deriving DecidableEq, Inhabited, Repr

namespace Slot

/-- A slot that remembers nothing. -/
def empty : Slot where
  surface := none
  buffer := none
  fence := none
  dequeued := false
  lastShown := 0
  valid := false
  epoch := 0

/-- Whether the slot holds a buffer. -/
def isActive (s : Slot) : Bool := s.buffer.isSome

/-- Whether the slot holds the fence of its buffer. -/
def holdsFence (s : Slot) : Bool := s.fence.isSome

/-- The identity of the buffer held. -/
def bufferId (s : Slot) : Option BufferId := s.buffer.map Buffer.id

/-! ## Changes -/

/-- A freshly wrapped buffer takes the slot; nothing is known of its pixels. -/
def hold (b : Buffer) (surface : Surface) (epoch : Nat) (s : Slot) : Slot :=
  { s with buffer := some b, surface := some surface, valid := false, lastShown := 0, epoch }

/-- A newer handle replaces the one held, to the same buffer. -/
def renew (b : Buffer) (s : Slot) : Slot := { s with buffer := some b }

/-- The slot becomes dequeued and owns the fence the buffer came with. -/
def start (fence : Option Fence) (s : Slot) : Slot := { s with dequeued := true, fence }

/-- The slot leaves the dequeued state and gives its fence up. -/
def finish (s : Slot) : Slot := { s with dequeued := false, fence := none }

/-- The slot's buffer has been shown as present number `count`. -/
def shown (count : Nat) (s : Slot) : Slot :=
  { s.finish with lastShown := count, valid := true }

/-- The slot without its fence, which has been taken. -/
def takeFence (s : Slot) : Slot := { s with fence := none }

/-- One draw on the slot's surface. -/
def draw (s : Slot) : Slot := { s with surface := s.surface.map Surface.draw }

/-! ## Order -/

/-- Contents of `s` are worth less than those of `t`: unknown before known, then shown
earlier before shown later. -/
def staler (s t : Slot) : Bool :=
  if s.valid = t.valid then decide (s.lastShown < t.lastShown) else t.valid

end Slot
end Swapchain
