/-!
# Extended rational numbers

A coordinate is a rational number, one of two infinities, or undefined (`nan`).
Comparison, rounding to whole numbers and conversion to a 32-bit word are exact here.
Addition and multiplication take a `Rounding`, which says which number stands for an
exact rational result: `Rounding.exact` keeps it, `Binary64.round` gives the nearest
64-bit floating-point number.

* `Extended.least`, `Extended.greatest`: an undefined operand is ignored;
* `Extended.toWord`: a conversion that saturates, with 0 for the undefined number;
* `Extended.add_exact`, `Extended.sub_exact`, `Extended.scale_exact`: on rationals the
  exact rounding computes the rational sum, difference and multiple.
-/

namespace Swapchain

/-- A rational number, an infinity, or undefined. Zero has no sign. -/
inductive Extended where
  | nan
  | negInf
  | posInf
  | finite (q : Rat)
  deriving DecidableEq, Inhabited, Repr

/-- Which extended number stands for an exact rational result. -/
abbrev Rounding := Rat → Extended

/-- Every rational result stands for itself. -/
def Rounding.exact : Rounding := .finite

namespace Extended

instance : Coe Rat Extended := ⟨finite⟩

/-- A word as a number. -/
def ofWord (n : UInt32) : Extended := .finite (n.toNat : Rat)

/-! ## Order -/

/-- The order `a ≤ b`; no comparison with the undefined number holds. -/
def le : Extended → Extended → Bool
  | nan, _ | _, nan => false
  | negInf, _ | _, posInf => true
  | posInf, _ | _, negInf => false
  | finite p, finite q => decide (p ≤ q)

/-- The order `a < b`; no comparison with the undefined number holds. -/
def lt : Extended → Extended → Bool
  | nan, _ | _, nan => false
  | posInf, _ | _, negInf => false
  | negInf, _ | _, posInf => true
  | finite p, finite q => decide (p < q)

/-- The smaller operand; an undefined operand is ignored. -/
def least : Extended → Extended → Extended
  | nan, b => b
  | a, nan => a
  | a, b => if a.le b then a else b

/-- The larger operand; an undefined operand is ignored. -/
def greatest : Extended → Extended → Extended
  | nan, b => b
  | a, nan => a
  | a, b => if a.le b then b else a

/-! ## Whole numbers -/

/-- The largest whole number that is not above. -/
def floor : Extended → Extended
  | finite q => finite (q.floor : Rat)
  | a => a

/-- The smallest whole number that is not below. -/
def ceil : Extended → Extended
  | finite q => finite (q.ceil : Rat)
  | a => a

/-- The 32-bit word of a number, cut towards zero and limited to the words there are;
0 for the undefined number. -/
def toWord : Extended → UInt32
  | nan | negInf => 0
  | posInf => 0xFFFFFFFF
  | finite q => UInt32.ofNat (min q.floor.toNat 0xFFFFFFFF)

/-! ## Arithmetic -/

/-- The number of the opposite sign. -/
def neg : Extended → Extended
  | nan => nan
  | negInf => posInf
  | posInf => negInf
  | finite q => finite (-q)

/-- The rounded sum; infinities of opposite sign have none. -/
def add (r : Rounding) : Extended → Extended → Extended
  | nan, _ | _, nan => nan
  | posInf, negInf | negInf, posInf => nan
  | posInf, _ | _, posInf => posInf
  | negInf, _ | _, negInf => negInf
  | finite p, finite q => r (p + q)

/-- The rounded difference. -/
def sub (r : Rounding) (a b : Extended) : Extended := a.add r b.neg

/-- The rounded multiple by a rational factor; zero times an infinity is undefined. -/
def scale (r : Rounding) (k : Rat) : Extended → Extended
  | nan => nan
  | finite q => r (k * q)
  | posInf => if k = 0 then nan else if 0 < k then posInf else negInf
  | negInf => if k = 0 then nan else if 0 < k then negInf else posInf

@[simp] theorem add_exact (p q : Rat) :
    (finite p).add Rounding.exact (finite q) = finite (p + q) := rfl

@[simp] theorem sub_exact (p q : Rat) :
    (finite p).sub Rounding.exact (finite q) = finite (p - q) := by
  simp [sub, neg, Rat.sub_eq_add_neg]

@[simp] theorem scale_exact (k q : Rat) :
    (finite q).scale Rounding.exact k = finite (k * q) := rfl

@[simp] theorem le_finite (p q : Rat) : (finite p).le (finite q) = decide (p ≤ q) := rfl

@[simp] theorem lt_finite (p q : Rat) : (finite p).lt (finite q) = decide (p < q) := rfl

end Extended
end Swapchain
