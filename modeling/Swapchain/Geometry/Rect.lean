import Swapchain.Number.Extended
import Swapchain.Geometry.Extent

/-!
# Rectangles

A rectangle is given by two opposite corners with extended rational coordinates, in any order.

* `Rect.sorted`: the lower corner first;
* `Rect.roundedOut`: moved out to whole coordinates;
* `Rect.inter`, `Rect.union`: the common part and the common hull of sorted rectangles.
-/

namespace Swapchain

/-- A point of the plane. -/
structure Point where
  x : Extended
  y : Extended
  deriving DecidableEq, Inhabited, Repr

/-- Two opposite corners of a rectangle. -/
structure Rect where
  x0 : Extended
  y0 : Extended
  x1 : Extended
  y1 : Extended
  deriving DecidableEq, Inhabited, Repr

/-- The rectangle of a size, with its lower corner at the origin. -/
def Extent.rect (s : Extent) : Rect :=
  ⟨.finite 0, .finite 0, Extended.ofWord s.width, Extended.ofWord s.height⟩

namespace Rect

/-- The rectangle of two corner points. -/
def ofPoints (p q : Point) : Rect := ⟨p.x, p.y, q.x, q.y⟩

/-- The lower coordinate first on both axes. -/
def sorted (r : Rect) : Rect :=
  ⟨r.x0.least r.x1, r.y0.least r.y1, r.x0.greatest r.x1, r.y0.greatest r.y1⟩

/-- The ends of one axis moved outwards to whole numbers, seen from the first end; ends that
do not rise move towards each other. -/
def spanOut (a b : Extended) : Extended × Extended :=
  if a.lt b then (a.floor, b.ceil) else (a.ceil, b.floor)

/-- Both axes moved outwards to whole numbers. -/
def roundedOut (r : Rect) : Rect :=
  let (x0, x1) := spanOut r.x0 r.x1
  let (y0, y1) := spanOut r.y0 r.y1
  ⟨x0, y0, x1, y1⟩

/-- The part of one axis within both spans; it ends where it starts if they have none. -/
def spanInter (a b c d : Extended) : Extended × Extended :=
  let lower := a.greatest c
  (lower, (b.least d).greatest lower)

/-- The part within both rectangles; it is flat on an axis on which they have none. -/
def inter (r s : Rect) : Rect :=
  let (x0, x1) := spanInter r.x0 r.x1 s.x0 s.x1
  let (y0, y1) := spanInter r.y0 r.y1 s.y0 s.y1
  ⟨x0, y0, x1, y1⟩

/-- The smallest rectangle around two sorted ones. -/
def union (r s : Rect) : Rect :=
  ⟨r.x0.least s.x0, r.y0.least s.y0, r.x1.greatest s.x1, r.y1.greatest s.y1⟩

end Rect
end Swapchain
