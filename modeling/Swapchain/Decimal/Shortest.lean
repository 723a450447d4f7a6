import Swapchain.Number.Binary64

/-!
# The shortest decimal of a floating-point number

Of the decimal numbers that read back as a given magnitude, those with the fewest digits are
taken, and of these the nearest; of two equally near the larger.

* `Decimal.readsBack`: the numbers that are read as a magnitude;
* `Decimal.shortest`: the shortest decimal among them;
* `Decimal.positional`: a decimal written without an exponent.
-/

namespace Swapchain

/-- The number `digits * 10 ^ exponent`. -/
structure Decimal where
  digits : Nat
  exponent : Int
  deriving DecidableEq, Inhabited, Repr

namespace Decimal

/-- The power `10 ^ e` for a whole exponent of either sign. -/
def tenPow (e : Int) : Rat :=
  if 0 ≤ e then (Nat.pow 10 e.toNat : Rat) else mkRat 1 (Nat.pow 10 (-e).toNat)

/-- The number that a decimal stands for. -/
def value (d : Decimal) : Rat := (d.digits : Rat) * tenPow d.exponent

/-! ## The nearest floating-point number -/

/-- The decimal digits of a number. -/
def digitCount (n : Nat) : Nat := (Nat.toDigits 10 n).length

/-- The steps from zero to the number nearest to a decimal. Numbers far beyond both ends of
the format need no computation. -/
def nearestMagnitude (d : Decimal) : Nat :=
  let size : Int := digitCount d.digits + d.exponent
  if d.digits = 0 ∨ size < -330 then 0
  else if 310 < size then Binary64.infinityBits
  else if 0 ≤ d.exponent then Binary64.nearestMagnitude (d.digits * Nat.pow 10 d.exponent.toNat) 1
  else Binary64.nearestMagnitude d.digits (Nat.pow 10 (-d.exponent).toNat)

/-! ## The shortest decimal -/

/-- Whether a number is read as the magnitude `steps` steps above zero: it lies between the
midpoints to both neighbours, which themselves are read as the even one. -/
def readsBack (steps : Nat) (q : Rat) : Bool :=
  let v := Binary64.magnitude steps
  let lower := (Binary64.magnitude (steps - 1) + v) / 2
  let upper := (v + Binary64.magnitude (steps + 1)) / 2
  if steps % 2 = 0 then decide (lower ≤ q ∧ q ≤ upper) else decide (lower < q ∧ q < upper)

/-- The number `k` with `10 ^ (k - 1) ≤ v < 10 ^ k`, for a positive `v`. -/
def leading (v : Rat) : Int :=
  let k : Int := (digitCount v.num.natAbs : Int) - digitCount v.den
  if v < tenPow k then k else k + 1

/-- The decimal of a given exponent that is nearest to a magnitude among those read as it. -/
def nearestOn (steps : Nat) (exponent : Int) : Option Decimal :=
  let v := Binary64.magnitude steps
  let below : Decimal := ⟨(v / tenPow exponent).floor.toNat, exponent⟩
  let above : Decimal := ⟨below.digits + 1, exponent⟩
  match readsBack steps below.value, readsBack steps above.value with
  | true, true => some (if v - below.value < above.value - v then below else above)
  | true, false => some below
  | false, true => some above
  | false, false => none

/-- Zeros at the end of the digits moved into the exponent, at most `fuel` of them. -/
def withoutZeros : Nat → Decimal → Decimal
  | 0, d => d
  | fuel + 1, d =>
    if d.digits ≠ 0 ∧ d.digits % 10 = 0 then
      withoutZeros fuel ⟨d.digits / 10, d.exponent + 1⟩
    else d

/-- The shortest decimal that is read as a magnitude. Seventeen digits always suffice. -/
def shortest (steps : Nat) : Decimal :=
  if steps = 0 then ⟨0, 0⟩
  else
    let k := leading (Binary64.magnitude steps)
    let found := (List.range 17).findSome? fun n => nearestOn steps (k - (n + 1 : Nat))
    withoutZeros 17 (found.getD ⟨0, 0⟩)

/-! ## Writing -/

/-- A decimal without an exponent: whole numbers without a point, others with at least one
digit on each side of it. -/
def positional (d : Decimal) : String :=
  let digits := Nat.toDigits 10 d.digits
  if 0 ≤ d.exponent then
    String.ofList (digits ++ List.replicate d.exponent.toNat '0')
  else
    let places := (-d.exponent).toNat
    let padded := List.replicate (places + 1 - digits.length) '0' ++ digits
    let whole := padded.length - places
    String.ofList (padded.take whole ++ '.' :: padded.drop whole)

end Decimal
end Swapchain
