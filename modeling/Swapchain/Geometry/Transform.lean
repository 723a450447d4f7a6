import Swapchain.Flags
import Swapchain.Geometry.Affine

/-!
# The compositor's transform

The compositor flips a window's buffers and then turns them by 90° clockwise, as three bits
of a word say; other bits are kept and have no effect here. The renderer draws in logical
coordinates and applies the pre-transform, which carries them into the physical buffer.

* `Transform.swapsAxes`: whether the physical buffer has width and height exchanged;
* `Transform.inverse`: a quarter turn becomes the opposite one, every other word stays;
* `Transform.preTransform`: the map from logical to physical coordinates.
-/

namespace Swapchain

/-- A word that says how the compositor flips and turns a window's buffers. -/
structure Transform where
  bits : UInt32
  deriving DecidableEq, Inhabited, Repr

namespace Transform

/-- Flipped left to right. -/
def flipH : Transform := ⟨1⟩

/-- Flipped top to bottom. -/
def flipV : Transform := ⟨2⟩

/-- Turned by 90° clockwise. -/
def rot90 : Transform := ⟨4⟩

/-- Turned by 180°: flipped both ways. -/
def rot180 : Transform := ⟨3⟩

/-- Turned by 270° clockwise: flipped both ways, then turned by 90°. -/
def rot270 : Transform := ⟨7⟩

/-- Every bit of `u` is in `t`. -/
def contains (t u : Transform) : Bool := t.bits &&& u.bits == u.bits

/-- Whether width and height are exchanged. -/
def swapsAxes (t : Transform) : Bool := t.contains rot90

/-- The transform to undo this one: a quarter turn, given by exactly its word, becomes the
opposite one; every other word stays. -/
def inverse (t : Transform) : Transform :=
  if t = rot90 then rot270 else if t = rot270 then rot90 else t

/-- The map from the logical coordinates of a window of a size into its physical buffer, by
whether the transform turns, flips top to bottom and flips left to right. -/
def preTransform (t : Transform) (size : Extent) : Affine :=
  let w : Rat := size.width.toNat
  let h : Rat := size.height.toNat
  match t.contains rot90, t.contains flipV, t.contains flipH with
  | false, false, false => .identity
  | false, false, true => ⟨-1, 0, 0, 1, w, 0⟩
  | false, true, false => ⟨1, 0, 0, -1, 0, h⟩
  | false, true, true => ⟨-1, 0, 0, -1, w, h⟩
  | true, false, false => ⟨0, 1, -1, 0, h, 0⟩
  | true, false, true => ⟨0, -1, -1, 0, h, w⟩
  | true, true, false => ⟨0, 1, 1, 0, 0, 0⟩
  | true, true, true => ⟨0, -1, 1, 0, 0, w⟩

/-- The named bits. -/
def flags : List Flags.Flag := [⟨1, "FLIP_H"⟩, ⟨2, "FLIP_V"⟩, ⟨4, "ROT_90"⟩]

/-- The text of a transform in log lines. -/
def text (t : Transform) : String := "Transform(" ++ Flags.text flags t.bits.toNat ++ ")"

end Transform
end Swapchain
