import Swapchain.Geometry.Rect

/-!
# Damage in whole pixels

A region is a rectangle of whole pixels in a physical buffer.

* `Region.ofRect?`: a rectangle rounded outwards and cut to a buffer's bounds, or nothing.
-/

namespace Swapchain

/-- A rectangle of whole pixels; the origin is the upper left corner of the buffer. -/
structure Region where
  x : UInt32
  y : UInt32
  width : UInt32
  height : UInt32
  deriving DecidableEq, Inhabited, Repr

/-- The length of a span. After clipping its ends are one number or whole numbers within the
bounds, so the difference needs no rounding. -/
def spanLength (a b : Extended) : Extended := b.sub Rounding.exact a

/-- The part of a rectangle within `bounds`, rounded outwards to whole pixels; nothing if its
width or its height is not positive. -/
def Region.ofRect? (rect : Rect) (bounds : Extent) : Option Region :=
  let part := rect.sorted.roundedOut.inter bounds.rect
  let width := spanLength part.x0 part.x1
  let height := spanLength part.y0 part.y1
  if width.le (.finite 0) || height.le (.finite 0) then none
  else some ⟨part.x0.toWord, part.y0.toWord, width.toWord, height.toWord⟩

end Swapchain
