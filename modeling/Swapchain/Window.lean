import Swapchain.Geometry.Layout

/-!
# The window's side

What passes between a pool and the window whose buffers it draws into: buffers, fences, the
window's properties and what it is asked to make of its buffers.

* `Buffer`: a handle to one allocation; two handles of one `BufferId` are the same memory;
* `Fence`: a descriptor that signals when a buffer may be touched, owned by one side at a time;
* `Layout.bufferRequest`: what a layout asks of the window.
-/

namespace Swapchain

/-- The identity of a buffer's memory. -/
structure BufferId where
  val : UInt64
  deriving DecidableEq, Inhabited, Repr

/-- The text of a buffer's identity in log lines and messages. -/
def BufferId.text (id : BufferId) : String := s!"BufferId({id.val})"

/-- A descriptor to wait on, known by the number of the fence behind it and by whether it was
received or is a duplicate. -/
structure Fence where
  number : Nat
  isDuplicate : Bool
  deriving DecidableEq, Inhabited, Repr

/-- A second descriptor of the same fence. -/
def Fence.duplicate (f : Fence) : Fence := { f with isDuplicate := true }

/-- A handle to a buffer of the window; `handle` tells apart the handles of one buffer. -/
structure Buffer where
  id : BufferId
  size : Extent
  handle : Nat
  deriving DecidableEq, Inhabited, Repr

/-- The properties of a window, asked for once. -/
structure WindowProfile where
  defaultSize : Extent
  /-- The smallest buffer size the window accepts. -/
  minSize : Extent
  /-- The largest buffer size the window accepts. -/
  maxSize : Extent
  /-- The transform the compositor will apply. -/
  transformHint : Transform
  /-- How many buffers the consumer keeps for itself. -/
  minUndequeued : UInt64
  /-- The largest number of buffers the queue supports. -/
  maxCount : UInt64
  deriving DecidableEq, Inhabited, Repr

/-- What a window is asked to make of its buffers. -/
structure BufferRequest where
  /-- The physical size of the buffers. -/
  size : Extent
  format : PixelFormat
  dataspace : Dataspace
  usage : Usage
  bufferCount : UInt64
  /-- The transform the compositor applies to queued buffers. -/
  transform : Transform
  deriving DecidableEq, Inhabited, Repr

/-- A size with its field names, as it stands inside the text of a request. -/
def Extent.fieldsText (s : Extent) : String :=
  s!"PixelSize \x7b width: {s.width}, height: {s.height} \x7d"

/-- The text of a request in log lines. -/
def BufferRequest.text (c : BufferRequest) : String :=
  s!"BufferConfig \x7b size: {c.size.fieldsText}, format: {c.format.name}, " ++
  s!"dataspace: {c.dataspace.name}, usage: {c.usage.text}, buffer_count: {c.bufferCount}, " ++
  s!"transform: {c.transform.text} \x7d"

/-- What a layout asks of its window. The window is given the inverse of the transform, so that it
takes back what the renderer has already applied. -/
def Layout.bufferRequest (l : Layout) : BufferRequest where
  size := l.physicalSize
  format := l.format
  dataspace := l.dataspace
  usage := l.usage
  bufferCount := l.bufferCount
  transform := l.transform.inverse

end Swapchain
