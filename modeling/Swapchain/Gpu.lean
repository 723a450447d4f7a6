import Swapchain.Window

/-!
# The GPU's side

* `GpuLimits`: what a device can handle;
* `SurfaceSpec`: how a buffer is to be made drawable;
* `Surface`: a buffer that has been made drawable, with the draws made on it since.
-/

namespace Swapchain

/-- What a device can handle. -/
structure GpuLimits where
  /-- The largest width or height of an image. -/
  maxDimension : UInt32
  /-- How buffers of a format can be used. -/
  supportedUsage : PixelFormat → Usage

/-- How a buffer is to be made drawable. -/
structure SurfaceSpec where
  size : Extent
  colorType : ColorType
  colorSpace : ColorSpace
  textureFormat : Option TextureFormat
  usage : Usage
  deriving DecidableEq, Inhabited, Repr

/-- A drawable surface: the handle and the description it was wrapped from, the serial number
the GPU gave it, and how often it has been drawn on. -/
structure Surface where
  serial : Nat
  buffer : Buffer
  spec : SurfaceSpec
  draws : Nat
  deriving DecidableEq, Inhabited, Repr

/-- The surface after one more draw. -/
def Surface.draw (s : Surface) : Surface := { s with draws := s.draws + 1 }

end Swapchain
