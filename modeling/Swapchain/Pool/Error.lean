import Swapchain.Gpu

/-!
# Why an operation on a pool fails

* `PoolError.message`: the wording of a failure;
* `PoolError.source`: the wording of what lies behind it, if anything does;
* `PoolError.isTransient`: whether the next frame may simply try again.
-/

namespace Swapchain

/-- Why a buffer could not be acquired. -/
inductive AcquisitionFault where
  /-- The window handed out none. -/
  | window (text : String)
  /-- The window handed out one of a size that the GPU cannot draw to. -/
  | unusableSize (buffer : BufferId) (size : Extent)
  /-- No slot can take it. -/
  | noSlot (buffer : BufferId)
  deriving DecidableEq, Inhabited, Repr

/-- The wording of an acquisition fault. -/
def AcquisitionFault.message : AcquisitionFault → String
  | window text => text
  | unusableSize b size => s!"buffer {b.text} has size {size.text} outside of the supported range"
  | noSlot b => s!"no slot available for buffer {b.text}"

/-- Why an operation on a pool fails. -/
inductive PoolError where
  /-- The window refused its new settings. -/
  | configurationRejected (source : String)
  /-- The window's bounds leave no pixel to draw. -/
  | degenerateSize (size : Extent)
  /-- The colour setup has no dataspace. -/
  | unsupportedColor (color : ColorSetup)
  /-- The GPU cannot render to buffers of this format. -/
  | unsupportedUsage (format : PixelFormat) (required : Usage)
  /-- The window did not tell its properties. -/
  | queryFailed (source : String)
  /-- No buffer could be acquired. -/
  | acquisitionFailed (fault : AcquisitionFault)
  /-- The GPU could not make a buffer drawable. -/
  | wrapFailed (buffer : BufferId) (size : Extent) (source : String)
  /-- The buffer was not queued and stays dequeued. -/
  | presentFailed (buffer : BufferId) (source : String)
  /-- The window did not take a buffer back. -/
  | cancelFailed (buffer : BufferId) (source : String)
  /-- No buffer is dequeued. -/
  | noCurrentBuffer
  /-- A buffer is still dequeued. -/
  | bufferDequeued (buffer : BufferId)
  /-- The buffers asked for are more than a 64-bit word counts. This stands for the stop on overflow
  of a checked build; an unchecked one wraps the count and goes on. -/
  | countOverflow
  deriving DecidableEq, Inhabited, Repr

namespace PoolError

/-- What lies behind a failure. -/
def source : PoolError → Option String
  | configurationRejected s | queryFailed s => some s
  | wrapFailed _ _ s | presentFailed _ s | cancelFailed _ s => some s
  | acquisitionFailed fault => some fault.message
  | degenerateSize _ | unsupportedColor _ | unsupportedUsage _ _ => none
  | noCurrentBuffer | bufferDequeued _ | countOverflow => none

/-- The wording of a failure. -/
def message : PoolError → String
  | configurationRejected s => s!"Window rejected buffer configuration: {s}"
  | degenerateSize size => s!"Window geometry resolves to a degenerate size {size.text}"
  | unsupportedColor c =>
    s!"Unsupported color configuration {c.type.name} in {c.space.name} ({c.gamut.name})"
  | unsupportedUsage format required =>
    s!"GPU cannot use {format.name} buffers with usage {required.text}"
  | queryFailed s => s!"Failed to query window metrics: {s}"
  | acquisitionFailed fault => s!"Failed to dequeue a buffer: {fault.message}"
  | wrapFailed b size s => s!"Failed to wrap buffer {b.text} at {size.text}: {s}"
  | presentFailed b s => s!"Failed to present buffer {b.text}: {s}"
  | cancelFailed b s => s!"Failed to cancel buffer {b.text}: {s}"
  | noCurrentBuffer => "No buffer is currently dequeued"
  | bufferDequeued b => s!"Buffer {b.text} is still dequeued; present or cancel it first"
  | countOverflow => "attempt to add with overflow"

/-- Whether the next frame may simply try again. -/
def isTransient : PoolError → Bool
  | acquisitionFailed _ | wrapFailed _ _ _ | presentFailed _ _ => true
  | _ => false

end PoolError
end Swapchain
