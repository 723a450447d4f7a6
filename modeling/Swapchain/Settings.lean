/-!
# Settings

* `Settings.builtin`: the built-in settings.
-/

namespace Swapchain

/-- How many buffers a pool asks of its window, beside those the consumer keeps. -/
structure Settings where
  /-- The buffers to draw in. -/
  target : UInt64
  /-- Spare buffers. -/
  extra : UInt64
  deriving DecidableEq, Inhabited, Repr

/-- One buffer to draw in, one queued, none to spare. -/
def Settings.builtin : Settings := ⟨2, 0⟩

end Swapchain
