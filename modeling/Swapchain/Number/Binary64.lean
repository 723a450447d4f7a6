import Swapchain.Number.Extended

/-!
# The 64-bit binary floating-point format

A word holds a sign bit, eleven bits of exponent and 52 bits of fraction. Read without
its sign, a word below `infinityBits` is a count of steps from zero: consecutive words are
consecutive numbers. `magnitude` says where the steps lie and `nearestMagnitude` finds the
step closest to a quotient, a tie going to the even word.

* `Binary64.value`: the number a word stands for;
* `Binary64.nearest`: the word nearest to a rational;
* `Binary64.round`: the rounding that these two give.
-/

namespace Swapchain

/-- A word of the 64-bit binary floating-point format. -/
structure Binary64 where
  bits : UInt64
  deriving DecidableEq, Inhabited, Repr

/-- The power `2 ^ e` for a whole exponent of either sign. -/
def twoPow (e : Int) : Rat :=
  if 0 ≤ e then (Nat.pow 2 e.toNat : Rat) else mkRat 1 (Nat.pow 2 (-e).toNat)

namespace Binary64

/-- The word of positive infinity: every larger magnitude is no number. -/
def infinityBits : Nat := 0x7FF0000000000000

/-- The number of words between two powers of two: `2 ^ 52`. -/
def binadeSize : Nat := 0x10000000000000

/-- The exponent of the step between neighbouring numbers near zero, the finest there is. -/
def finestStep : Int := -1074

/-! ## Reading a word -/

/-- Whether the sign bit is set. -/
def negative (x : Binary64) : Bool := x.bits >>> 63 == 1

/-- The word without its sign. -/
def steps (x : Binary64) : Nat := (x.bits &&& 0x7FFFFFFFFFFFFFFF).toNat

/-- The number `steps` steps above zero, as a whole significand and the exponent of its unit:
the steps keep one width for `2 ^ 53` words and then double every `2 ^ 52`. -/
def significand (steps : Nat) : Nat × Int :=
  let binade := steps / binadeSize
  if binade = 0 then (steps, finestStep)
  else (steps % binadeSize + binadeSize, finestStep + (binade - 1 : Nat))

/-- The number `steps` steps above zero. -/
def magnitude (steps : Nat) : Rat :=
  let (m, e) := significand steps
  (m : Rat) * twoPow e

/-- The number a word stands for. -/
def value (x : Binary64) : Extended :=
  if infinityBits < x.steps then .nan
  else if x.steps = infinityBits then if x.negative then .negInf else .posInf
  else .finite (if x.negative then -magnitude x.steps else magnitude x.steps)

/-! ## Writing a number -/

/-- The whole number nearest to `n / d`, a tie going to the even one. -/
def divNearest (n d : Nat) : Nat :=
  let (q, r) := (n / d, n % d)
  if 2 * r > d ∨ (2 * r = d ∧ q % 2 = 1) then q + 1 else q

/-- The exponent of the largest power of two that is not above `n / d`. -/
def exponent (n d : Nat) : Int :=
  let e : Int := (Nat.log2 n : Int) - Nat.log2 d
  if twoPow e * (d : Rat) ≤ (n : Rat) then e else e - 1

/-- The steps from zero to the number nearest to `n / d`, at most to the infinity. -/
def nearestMagnitude (n d : Nat) : Nat :=
  if n = 0 then 0
  else
    let unit := max (exponent n d - 52) finestStep
    let m := if 0 ≤ unit then divNearest n (d * Nat.pow 2 unit.toNat)
      else divNearest (n * Nat.pow 2 (-unit).toNat) d
    min ((unit - finestStep).toNat * binadeSize + m) infinityBits

/-- The word of a sign and a magnitude. -/
def ofMagnitude (negative : Bool) (steps : Nat) : Binary64 :=
  ⟨(if negative then 0x8000000000000000 else 0) ||| UInt64.ofNat steps⟩

/-- The word nearest to a rational. -/
def nearest (q : Rat) : Binary64 :=
  ofMagnitude (decide (q < 0)) (nearestMagnitude q.num.natAbs q.den)

/-- Every result is replaced by the nearest number of the format, or by an infinity. -/
def round : Rounding := fun q => (nearest q).value

/-- The word of a number: zero is written without a sign, and the undefined number as the
quiet word without one. -/
def ofExtended : Extended → Binary64
  | .nan => ⟨0x7FF8000000000000⟩
  | .posInf => ofMagnitude false infinityBits
  | .negInf => ofMagnitude true infinityBits
  | .finite q => if q = 0 then ⟨0⟩ else nearest q

end Binary64
end Swapchain
