import Swapchain.Flags

/-!
# Buffer usage

How a window's buffers will be accessed, as a 64-bit flag set. Bits without a name are kept.

* `Usage.renderTarget`: what every rendered buffer needs;
* `Usage.contains`: every bit of one set is in another.
-/

namespace Swapchain

/-- How a window's buffers are accessed. -/
structure Usage where
  bits : UInt64
  deriving DecidableEq, Inhabited, Repr

namespace Usage

/-- The named usages: rare reads and writes by the processor, sampling and rendering by the
GPU, scan-out by the compositor, protected memory. -/
def flags : List Flags.Flag := [
  ⟨0x2, "CPU_READ_RARELY"⟩, ⟨0x20, "CPU_WRITE_RARELY"⟩, ⟨0x100, "GPU_SAMPLED_IMAGE"⟩,
  ⟨0x200, "GPU_COLOR_OUTPUT"⟩, ⟨0x800, "COMPOSER_OVERLAY"⟩, ⟨0x4000, "PROTECTED_CONTENT"⟩]

/-- What every rendered window buffer needs: the GPU renders into it and samples it. -/
def renderTarget : Usage := ⟨0x300⟩

/-- Every bit of `needed` is in `u`. -/
def contains (u needed : Usage) : Bool := u.bits &&& needed.bits == needed.bits

/-- The text of a usage in log lines and messages. -/
def text (u : Usage) : String := "BufferUsage(" ++ Flags.text flags u.bits.toNat ++ ")"

end Usage
end Swapchain
