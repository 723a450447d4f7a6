import Swapchain.Pool.Basic
import Swapchain.Settings

/-!
# Creating a pool

The window is asked for its properties and the GPU for its limits; from them follow the bounds
of the logical size, the number of buffers and the first layout, which is pushed to the window.

* `Pool.create`: the pool, or the first thing that stands in its way;
* `WindowProfile.requestedCount`: how many buffers are asked for;
* `WindowProfile.bufferCount`: how many there will be.
-/

namespace Swapchain

namespace WindowProfile

/-- The buffers asked for: those the consumer keeps, those to draw in and spare ones. They have to
be counted by a 64-bit word: the error stands for the stop on overflow of a checked build, where an
unchecked one wraps. That there is memory for a table of as many slots is taken for granted. -/
def requestedCount (m : WindowProfile) (s : Settings) : Except PoolError UInt64 :=
  let sum := m.minUndequeued.toNat + s.target.toNat + s.extra.toNat
  if sum < UInt64.size then .ok (UInt64.ofNat sum) else .error .countOverflow

/-- The buffers there will be: no more than the window supports, but at least one. -/
def bufferCount (m : WindowProfile) (requested : UInt64) : UInt64 :=
  max (min requested m.maxCount) 1

/-- A warning if the window supports fewer buffers than were asked for. -/
def countWarning (m : WindowProfile) (requested : UInt64) : List Log.Record :=
  if m.bufferCount requested < requested then
    [⟨.warn, s!"Window supports at most {m.maxCount} buffers, {requested} requested"⟩]
  else []

end WindowProfile

/-- What an attempt to create a pool gives and what happened on the way. -/
structure Creation where
  result : Except PoolError Pool
  trace : Trace

namespace Pool

/-- The first layout of a window: its default size under its transform. -/
def firstLayout (m : WindowProfile) (format : PixelFormat) (dataspace : Dataspace)
    (count : UInt64) : Layout where
  logicalSize := m.defaultSize
  format
  dataspace
  transform := m.transformHint
  bufferCount := count
  usage := .renderTarget
  physicalSize := ⟨0, 0⟩
  preTransform := .identity

/-- A pool without buffers whose layout is the given one brought within its bounds. -/
def ofLayout (m : WindowProfile) (gpuMax : UInt32) (color : ColorSetup) (l : Layout) : Pool :=
  let minSize := m.minSize.sup smallest
  let maxSize := m.maxSize.inf (.square gpuMax)
  { layout := l.resolve minSize maxSize
    color
    slots := .ofCapacity l.bufferCount.toNat
    current := none
    presents := 0
    epoch := 0
    minSize
    maxSize
    gpuMax := .square gpuMax }

/-- The log line of a pool just created. -/
def createdText (l : Layout) : String :=
  s!"Created surface: {l.sizesText}, " ++
  s!"transform {l.transform.text}, {l.format.name}/{l.dataspace.name}, {l.bufferCount} buffers"

/-- The last part of a creation: a layout that leaves pixels to draw is pushed to the window. -/
def configure (p : Pool) (answer : Answer Unit) : Creation :=
  if p.layout.physicalSize.isEmpty then ⟨.error (.degenerateSize p.layout.logicalSize), []⟩
  else
    match pushLayout p.layout answer with
    | (.error e, t) => ⟨.error e, t⟩
    | (.ok (), t) => ⟨.ok p, t ++ Trace.logged .debug (createdText p.layout)⟩

/-- A pool for a window, from what the window and the GPU answer. -/
def create (query : Answer WindowProfile) (gpu : GpuLimits) (configured : Answer Unit)
    (color : ColorSetup) (settings : Settings) : Creation :=
  let asked : Trace := [.call (.query query)]
  match query, color.dataspace? with
  | .refused e, _ => ⟨.error (.queryFailed e), asked⟩
  | .given _, none => ⟨.error (.unsupportedColor color), asked⟩
  | .given m, some dataspace =>
    let format := color.type.pixelFormat
    let usage := gpu.supportedUsage format
    let asked := asked ++ [.call (.supportedUsage format usage)]
    if !usage.contains .renderTarget then
      ⟨.error (.unsupportedUsage format .renderTarget), asked⟩
    else
      match m.requestedCount settings with
      | .error e => ⟨.error e, asked⟩
      | .ok requested =>
        let l := firstLayout m format dataspace (m.bufferCount requested)
        let p := ofLayout m gpu.maxDimension color l
        let warnings := m.countWarning requested ++ l.clampWarning p.minSize p.maxSize
        let made := p.configure configured
        { made with trace := asked ++ .ofRecords warnings ++ made.trace }

end Pool
end Swapchain
