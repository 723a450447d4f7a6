/-!
# Sizes in pixels

* `Extent.clamp`: a size brought within bounds, where the upper bound wins if they cross;
* `Extent.swapped`: width and height exchanged.
-/

namespace Swapchain

/-- A width and a height in pixels. -/
structure Extent where
  width : UInt32
  height : UInt32
  deriving DecidableEq, Inhabited, Repr

namespace Extent

/-- The same number of pixels both ways. -/
def square (n : UInt32) : Extent := ⟨n, n⟩

/-- Width and height exchanged. -/
def swapped (s : Extent) : Extent := ⟨s.height, s.width⟩

/-- Width and height exchanged if asked. -/
def swappedIf (swap : Bool) (s : Extent) : Extent := if swap then s.swapped else s

/-- Whether the size has no pixels. -/
def isEmpty (s : Extent) : Bool := s.width == 0 || s.height == 0

/-- The larger width and the larger height. -/
def sup (s t : Extent) : Extent := ⟨max s.width t.width, max s.height t.height⟩

/-- The smaller width and the smaller height. -/
def inf (s t : Extent) : Extent := ⟨min s.width t.width, min s.height t.height⟩

/-- Each dimension raised to `lower`, then cut to `upper`; so `upper` wins if they cross. -/
def clamp (s lower upper : Extent) : Extent := (s.sup lower).inf upper

/-- A size as text, width first. -/
def text (s : Extent) : String := s!"{s.width}x{s.height}"

@[simp] theorem swapped_swapped (s : Extent) : s.swapped.swapped = s := rfl

end Extent
end Swapchain
