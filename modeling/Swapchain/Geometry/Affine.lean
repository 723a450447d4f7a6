import Swapchain.Geometry.Rect

/-!
# Affine maps of the plane

A map sends `(x, y)` to `(a x + c y + e, b x + d y + f)` with rational coefficients. Every
product and every sum is rounded on its own, from left to right.

* `Affine.apply`: the image of a point under a rounding;
* `Affine.imageBox`: the box around the images of a rectangle's four corners;
* `Affine.comp`: one map after another, in exact arithmetic.
-/

namespace Swapchain

/-- The coefficients of an affine map. -/
structure Affine where
  a : Rat
  b : Rat
  c : Rat
  d : Rat
  e : Rat
  f : Rat
  deriving DecidableEq, Repr

namespace Affine

/-- The map that moves no point. -/
def identity : Affine := ⟨1, 0, 0, 1, 0, 0⟩

instance : Inhabited Affine := ⟨identity⟩

/-- The coefficients in the order of the fields. -/
def coefficients (m : Affine) : List Rat := [m.a, m.b, m.c, m.d, m.e, m.f]

/-- The map `g` after the map `m`. -/
def comp (g m : Affine) : Affine where
  a := g.a * m.a + g.c * m.b
  b := g.b * m.a + g.d * m.b
  c := g.a * m.c + g.c * m.d
  d := g.b * m.c + g.d * m.d
  e := g.a * m.e + g.c * m.f + g.e
  f := g.b * m.e + g.d * m.f + g.f

/-- The sum `k x + l y + t`, rounded after every operation. -/
def combine (r : Rounding) (k l t : Rat) (p : Point) : Extended :=
  ((p.x.scale r k).add r (p.y.scale r l)).add r (.finite t)

/-- The image of a point. -/
def apply (r : Rounding) (m : Affine) (p : Point) : Point :=
  ⟨combine r m.a m.c m.e p, combine r m.b m.d m.f p⟩

/-- The box around the images of the four corners. -/
def imageBox (r : Rounding) (m : Affine) (s : Rect) : Rect :=
  let left := Rect.ofPoints (m.apply r ⟨s.x0, s.y0⟩) (m.apply r ⟨s.x0, s.y1⟩)
  let right := Rect.ofPoints (m.apply r ⟨s.x1, s.y0⟩) (m.apply r ⟨s.x1, s.y1⟩)
  left.sorted.union right.sorted

theorem apply_exact (m : Affine) (x y : Rat) :
    m.apply Rounding.exact ⟨.finite x, .finite y⟩ =
      ⟨.finite (m.a * x + m.c * y + m.e), .finite (m.b * x + m.d * y + m.f)⟩ := by
  simp [apply, combine]

end Affine
end Swapchain
