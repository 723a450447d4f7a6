import Swapchain.Pool.Basic

/-!
# Resizing and releasing

* `Pool.resize`: another logical size, taken if the window takes the layout that follows from it;
* `Pool.release`: every buffer goes back to the window and every slot is free.
-/

namespace Swapchain.Pool

/-- The layout for another logical size. -/
def resizedLayout (size : Extent) (p : Pool) : Layout :=
  { p.layout with logicalSize := size }.resolve p.minSize p.maxSize

/-- Another logical size. Nothing may be dequeued; all buffers are forgotten. -/
def resize (a : Answers) (size : Extent) (p : Pool) : Outcome Unit :=
  match p.currentId with
  | some id => .error p (.bufferDequeued id) []
  | none =>
    let l := p.resizedLayout size
    let asked := { p.layout with logicalSize := size }
    let warnings : Trace := .ofRecords (asked.clampWarning p.minSize p.maxSize)
    if l.physicalSize.isEmpty then .error p (.degenerateSize l.logicalSize) warnings
    else
      match pushLayout l a.configure with
      | (.error e, t) => .error p e (warnings ++ t)
      | (.ok (), t) =>
        .ok (p.beginEpoch l).releaseIdle () (warnings ++ t ++ Trace.logged .debug
          s!"Resized surface to {l.sizesText}")

/-- What happens when a slot forgets its buffer: a dequeued buffer goes back to the window
with its fence, any other fence is closed. -/
def disposal (a : Answers) (s : Slot) : Trace :=
  match s.dequeued, s.buffer with
  | true, some b =>
    .call (.cancel b s.fence a.cancel) ::
      match a.cancel with
      | .given () => []
      | .refused e => Trace.logged .warn s!"cancelBuffer failed during release: {e}"
  | _, _ => .closing s.fence

/-- Every buffer goes back to the window and every slot is free. -/
def release (a : Answers) (p : Pool) : Outcome Unit :=
  .ok { p with slots := p.slots.releaseAll, current := none } ()
    (p.slots.slots.flatMap (disposal a))

end Swapchain.Pool
