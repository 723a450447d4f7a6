import Swapchain.Color
import Swapchain.Log
import Swapchain.Usage
import Swapchain.Geometry.Region
import Swapchain.Geometry.Transform

/-!
# The layout of a window

The logical size the renderer draws at, the compositor's transform, and what follows from
them: the physical size of the buffers and the map between the two. The other fields say what
the buffers are made of.

* `Layout.resolve`: the logical size brought within bounds and all that follows from it;
* `Layout.clampWarning`: the warning that this changed the size;
* `Layout.mapRect`: a logical rectangle in physical coordinates.
-/

namespace Swapchain

/-- Geometry and buffer format of a window. -/
structure Layout where
  /-- The size the renderer draws at. -/
  logicalSize : Extent
  format : PixelFormat
  dataspace : Dataspace
  transform : Transform
  bufferCount : UInt64
  usage : Usage
  /-- The physical size of the buffers. -/
  physicalSize : Extent
  /-- The map from logical to physical coordinates. -/
  preTransform : Affine
  deriving DecidableEq, Inhabited, Repr

namespace Layout

/-- The physical size of a logical size under a transform. -/
def physicalOf (t : Transform) (size : Extent) : Extent := size.swappedIf t.swapsAxes

/-- The logical size brought within bounds, with the physical size and the map that follow
from it and the transform. -/
def resolve (lower upper : Extent) (l : Layout) : Layout :=
  let size := l.logicalSize.clamp lower upper
  { l with
    logicalSize := size
    physicalSize := physicalOf l.transform size
    preTransform := l.transform.preTransform size }

/-- A warning if the bounds change the logical size. -/
def clampWarning (lower upper : Extent) (l : Layout) : List Log.Record :=
  let size := l.logicalSize.clamp lower upper
  if size = l.logicalSize then []
  else [⟨.warn, s!"Window size {l.logicalSize.text} clamped to {size.text} " ++
    s!"(bounds {lower.text} .. {upper.text})"⟩]

/-- The text of both sizes in log lines. -/
def sizesText (l : Layout) : String :=
  s!"{l.logicalSize.text} (actual {l.physicalSize.text})"

/-- The box around a logical rectangle in physical coordinates. -/
def mapRect (r : Rounding) (l : Layout) (rect : Rect) : Rect := l.preTransform.imageBox r rect

end Layout
end Swapchain
