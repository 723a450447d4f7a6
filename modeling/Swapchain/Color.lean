/-!
# Colour setup

The renderer picks a pixel layout and a colour space, the window asks for a gamut. Together
they decide the pixel format and the dataspace that the window's buffers are given.

* `ColorType.pixelFormat`, `ColorType.textureFormat`: the formats of a pixel layout;
* `ColorSetup.dataspace?`: the dataspace of a setup, if there is one.
-/

namespace Swapchain

/-- The gamut a window asks for. -/
inductive Gamut where
  | standard
  | wide
  deriving DecidableEq, Inhabited, Repr

/-- The layout of a pixel in memory as the renderer sees it. -/
inductive ColorType where
  | rgba8888
  | rgbaF16
  | rgb565
  | rgba1010102
  deriving DecidableEq, Inhabited, Repr

/-- The primaries and transfer curve the renderer draws in. -/
inductive ColorSpace where
  | srgb
  | linearSrgb
  | displayP3
  deriving DecidableEq, Inhabited, Repr

/-- The pixel format of a window buffer. -/
inductive PixelFormat where
  | rgba8888
  | rgb565
  | rgbaFp16
  | rgba1010102
  deriving DecidableEq, Inhabited, Repr

/-- How the values of a window buffer are to be read. -/
inductive Dataspace where
  | unknown
  | srgb
  | displayP3
  | scrgb
  | scrgbLinear
  deriving DecidableEq, Inhabited, Repr

/-- The GPU's name for a pixel layout. -/
inductive TextureFormat where
  | rgba8Unorm
  | rgba16Float
  | rgb10a2Unorm
  deriving DecidableEq, Inhabited, Repr

/-! ## Names and codes -/

/-- The name of a gamut in messages. -/
def Gamut.name : Gamut → String
  | standard => "Default"
  | wide => "WideColorGamut"

/-- The name of a pixel layout in messages. -/
def ColorType.name : ColorType → String
  | rgba8888 => "Rgba8888"
  | rgbaF16 => "RgbaF16"
  | rgb565 => "Rgb565"
  | rgba1010102 => "Rgba1010102"

/-- The name of a colour space in messages. -/
def ColorSpace.name : ColorSpace → String
  | srgb => "Srgb"
  | linearSrgb => "LinearSrgb"
  | displayP3 => "DisplayP3"

/-- The name of a pixel format in messages. -/
def PixelFormat.name : PixelFormat → String
  | rgba8888 => "Rgba8888"
  | rgb565 => "Rgb565"
  | rgbaFp16 => "RgbaFp16"
  | rgba1010102 => "Rgba1010102"

/-- The number of a pixel format in the graphics hardware interface. -/
def PixelFormat.code : PixelFormat → Nat
  | rgba8888 => 1
  | rgb565 => 4
  | rgbaFp16 => 0x16
  | rgba1010102 => 0x2B

/-- The name of a dataspace in messages. -/
def Dataspace.name : Dataspace → String
  | unknown => "Unknown"
  | srgb => "Srgb"
  | displayP3 => "DisplayP3"
  | scrgb => "Scrgb"
  | scrgbLinear => "ScrgbLinear"

/-- The number of a dataspace in the graphics hardware interface. -/
def Dataspace.code : Dataspace → Nat
  | unknown => 0
  | srgb => 0x08810000
  | displayP3 => 0x088A0000
  | scrgb => 0x18810000
  | scrgbLinear => 0x18410000

/-- The name of a texture format. -/
def TextureFormat.name : TextureFormat → String
  | rgba8Unorm => "Rgba8Unorm"
  | rgba16Float => "Rgba16Float"
  | rgb10a2Unorm => "Rgb10a2Unorm"

/-! ## What a setup decides -/

namespace ColorType

/-- The pixel format of buffers with this layout. -/
def pixelFormat : ColorType → PixelFormat
  | rgba8888 => .rgba8888
  | rgbaF16 => .rgbaFp16
  | rgb565 => .rgb565
  | rgba1010102 => .rgba1010102

/-- The GPU's format for this layout, if it has one. -/
def textureFormat : ColorType → Option TextureFormat
  | rgba8888 => some .rgba8Unorm
  | rgbaF16 => some .rgba16Float
  | rgba1010102 => some .rgb10a2Unorm
  | rgb565 => none

/-- Whether the channels are floating-point numbers. -/
def isFloat (t : ColorType) : Bool := t == rgbaF16

end ColorType

/-- Whether a dataspace reaches beyond the sRGB gamut. -/
def Dataspace.isWide : Dataspace → Bool
  | displayP3 | scrgb | scrgbLinear => true
  | unknown | srgb => false

/-- What a window and a renderer agree on. -/
structure ColorSetup where
  gamut : Gamut
  type : ColorType
  space : ColorSpace
  deriving DecidableEq, Inhabited, Repr

namespace ColorSetup

/-- The dataspace of a pixel layout and a colour space: floating-point channels go beyond
sRGB, linear values need them, and Display P3 has whole-number channels only. -/
def dataspaceOf (type : ColorType) (space : ColorSpace) : Option Dataspace :=
  match type.isFloat, space with
  | true, .linearSrgb => some .scrgbLinear
  | true, .srgb => some .scrgb
  | false, .srgb => some .srgb
  | false, .displayP3 => some .displayP3
  | true, .displayP3 | false, .linearSrgb => none

/-- The dataspace of a setup; a window that asks for a wide gamut takes a wide one only. -/
def dataspace? (c : ColorSetup) : Option Dataspace :=
  (dataspaceOf c.type c.space).filter fun d => c.gamut == .standard || d.isWide

end ColorSetup
end Swapchain
