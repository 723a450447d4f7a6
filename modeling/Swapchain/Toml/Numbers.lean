import Swapchain.Decimal.Shortest
import Swapchain.Text.Digits
import Swapchain.Toml.Scanner

/-!
# Numbers

A single underscore may stand between two digits. Whole numbers have to fit a signed 64-bit
word; a floating-point number is the nearest of its format.

* `Scanner.integer`: a whole number in base ten, sixteen, eight or two;
* `Scanner.float`: a number with a fraction or an exponent, an infinity, or `nan`.
-/

namespace Swapchain.Toml.Scanner

/-- Digits of a class, single underscores between them left out. -/
def digits (p : Char → Bool) : Scanner (List Char) := do
  let first ← one p
  let others ← many (one p <|> (exactly ['_'] *> one p))
  return first :: others

/-- A sign; `true` for minus. -/
def sign : Scanner Bool := do
  match ← optional (one fun c => c == '+' || c == '-') with
  | some '-' => return true
  | _ => return false

/-- The digits of a decimal number: a zero stands alone. -/
def wholeDigits : Scanner (List Char) := do
  match ← optional (exactly ['0']) with
  | some () => return ['0']
  | none => digits Char.isDigit

/-! ## Whole numbers -/

/-- A number in the range of a signed 64-bit word. -/
def inRange (n : Int) : Scanner Int :=
  if -0x8000000000000000 ≤ n ∧ n < 0x8000000000000000 then pure n else fail

/-- A number in base ten, with or without a sign. -/
def decimalInteger : Scanner Int := do
  let minus ← sign
  let n : Int := Digits.value 10 (← wholeDigits)
  inRange (if minus then -n else n)

/-- A number in another base, after `0` and the letter of the base. -/
def basedInteger (letter : Char) (base : Nat) (p : Char → Bool) : Scanner Int := do
  exactly ['0', letter]
  inRange (Digits.value base (← digits p))

/-- A whole number. -/
def integer : Scanner Int :=
  basedInteger 'x' 16 Digits.isHex <|>
  basedInteger 'o' 8 (fun c => '0' ≤ c && c ≤ '7') <|>
  basedInteger 'b' 2 (fun c => c == '0' || c == '1') <|>
  decimalInteger

/-! ## Floating-point numbers -/

/-- The exponent of a number. -/
def exponent : Scanner Int := do
  let _ ← one fun c => c == 'e' || c == 'E'
  let minus ← sign
  let n : Int := Digits.value 10 (← digits Char.isDigit)
  return if minus then -n else n

/-- The digits after the point. -/
def fraction : Scanner (List Char) := do
  exactly ['.']
  digits Char.isDigit

/-- What makes a number a floating-point one: an exponent, or a fraction with or without. -/
def fractionAndExponent : Scanner (List Char × Int) :=
  (fun e => ([], e)) <$> exponent <|> do
    let f ← fraction
    let e ← optional exponent
    return (f, e.getD 0)

/-- A finite number. One too large for the format is refused, unless it is negative. -/
def decimalFloat : Scanner Binary64 := do
  let minus ← sign
  let whole ← wholeDigits
  let (f, e) ← fractionAndExponent
  let steps := Decimal.nearestMagnitude ⟨Digits.value 10 (whole ++ f), e - f.length⟩
  if steps = Binary64.infinityBits ∧ !minus then fail else return .ofMagnitude minus steps

/-- An infinity or `nan`. -/
def namedFloat : Scanner Binary64 := do
  let minus ← sign
  (fun _ => .ofMagnitude minus Binary64.infinityBits) <$> word "inf" <|>
    (fun _ => .ofExtended .nan) <$> word "nan"

/-- A floating-point number. -/
def float : Scanner Binary64 := decimalFloat <|> namedFloat

end Swapchain.Toml.Scanner
