namespace ScriptRegistrar.Number

/-! ### Shortest decimals -/

/-- The positive value `mantissa * 2 ^ exponent`. `wideBelow` tells whether the next smaller float
is as far away as the next larger one. -/
structure Binary where
  mantissa : Nat
  exponent : Int
  wideBelow : Bool
deriving DecidableEq, Repr

structure Decimal where
  digits : Nat
  exponent : Int
deriving DecidableEq, Repr

namespace Binary

def numerator (x : Binary) : Nat := x.mantissa * Nat.pow 2 x.exponent.toNat

def denominator (x : Binary) : Nat := Nat.pow 2 (-x.exponent).toNat

def isIntegral (x : Binary) : Bool := x.numerator % x.denominator == 0

/-- The integer `k` with `10 ^ (k - 1) ≤ x < 10 ^ k`. -/
def magnitude (x : Binary) : Int :=
  if x.denominator ≤ x.numerator then (Nat.toDigits 10 (x.numerator / x.denominator)).length
  else
    let ceiling := (x.denominator + x.numerator - 1) / x.numerator
    1 - ((Nat.toDigits 10 (ceiling - 1)).length : Int)

/-- Whether the decimal rounds to `x`. The ends of the interval do when the mantissa is even. -/
def roundsTo (x : Binary) (d : Decimal) : Bool :=
  let scaled := 4 * (d.digits * Nat.pow 10 d.exponent.toNat) * x.denominator
  let unit := Nat.pow 2 x.exponent.toNat * Nat.pow 10 (-d.exponent).toNat
  let low := (4 * x.mantissa - (if x.wideBelow then 2 else 1)) * unit
  let high := (4 * x.mantissa + 2) * unit
  if x.mantissa % 2 == 0 then low ≤ scaled && scaled ≤ high else low < scaled && scaled < high

/-- The neighbours of `x` on the grid of multiples of `10 ^ exponent`, the nearer one first. Of
two equally near neighbours the larger comes first. -/
def neighbours (x : Binary) (exponent : Int) : List Decimal :=
  let num := x.numerator * Nat.pow 10 (-exponent).toNat
  let den := x.denominator * Nat.pow 10 exponent.toNat
  let below : Decimal := ⟨num / den, exponent⟩
  let above : Decimal := ⟨num / den + 1, exponent⟩
  if 2 * (num % den) < den then [below, above] else [above, below]

/-- A carry into a new leading digit leaves one zero at the end, which is dropped. -/
def trimCarry (d : Decimal) : Decimal :=
  if d.digits % 10 = 0 then ⟨d.digits / 10, d.exponent + 1⟩ else d

/-- Every 64-bit float has a decimal of at most 17 digits that rounds to it. -/
def digitBound : Nat := 17

/-- Only two neighbours need to be looked at on each grid: if any of its points rounds to `x`, one
of them does. -/
def shortest? (x : Binary) : Option Decimal :=
  (List.range digitBound).findSome? fun (n : Nat) =>
    (x.neighbours (x.magnitude - (n + 1))).find? x.roundsTo

def shortest (x : Binary) : Decimal :=
  (x.shortest?.map trimCarry).getD ⟨x.numerator / x.denominator, 0⟩

end Binary

/-! ### Text of doubles -/

inductive DoubleValue where
  | notANumber
  | infinite (negative : Bool)
  | zero (negative : Bool)
  | finite (negative : Bool) (magnitude : Binary)
deriving DecidableEq, Repr

/-- The mantissa of the smallest float with a full mantissa of 53 bits. -/
def hiddenBit : Nat := 0x10000000000000

def signBit : Nat := 0x8000000000000000

/-- Reads sign, exponent and fraction of the 64-bit interchange format. -/
def DoubleValue.ofBits (bits : Nat) : DoubleValue :=
  let negative : Bool := signBit ≤ bits
  let biased : Nat := bits / hiddenBit % 2048
  let fraction : Nat := bits % hiddenBit
  if biased = 2047 then
    if fraction = 0 then .infinite negative else .notANumber
  else if biased = 0 then
    if fraction = 0 then .zero negative else .finite negative ⟨fraction, -1074, true⟩
  else
    .finite negative
      ⟨hiddenBit + fraction, (biased : Int) - 1075, fraction != 0 || biased == 1⟩

def zeros (n : Nat) : List Char := List.replicate n '0'

/-- `d` in positional notation, without a point when its exponent is not negative. -/
def Decimal.positional (d : Decimal) : List Char :=
  let digits := Nat.toDigits 10 d.digits
  let places := (-d.exponent).toNat
  if places = 0 then digits ++ zeros d.exponent.toNat
  else if places < digits.length then
    digits.take (digits.length - places) ++ '.' :: digits.drop (digits.length - places)
  else '0' :: '.' :: (zeros (places - digits.length) ++ digits)

def Binary.positional (x : Binary) : List Char :=
  if x.isIntegral then Nat.toDigits 10 (x.numerator / x.denominator) ++ ['.', '0']
  else x.shortest.positional

def signed (negative : Bool) (digits : List Char) : List Char :=
  if negative then '-' :: digits else digits

def DoubleValue.chars : DoubleValue → List Char
  | .notANumber => ['N', 'a', 'N']
  | .infinite negative => signed negative ['i', 'n', 'f']
  | .zero negative => signed negative ['0', '.', '0']
  | .finite negative x => signed negative x.positional

def bitsText (bits : Nat) : String := String.ofList (DoubleValue.ofBits bits).chars

example : bitsText 0x44b52d02c7e14af6 = "99999999999999991611392.0" := by decide +kernel
example : bitsText 0x3e7ad7f29abcaf48 = "0.0000001" := by decide +kernel
example : bitsText 0x3fb999999999999a = "0.1" := by decide +kernel
example : bitsText 0x3fd3333333333334 = "0.30000000000000004" := by decide +kernel
example : bitsText 0x8000000000000000 = "-0.0" := by decide +kernel
example : bitsText 1 = "0." ++ String.ofList (zeros 323) ++ "5" := by decide +kernel

def doubleText (x : Float) : String := bitsText x.toBits.toNat

/-! ### The nearest double -/

/-- The middle between the largest double and the power of two after it. -/
def doubleLimit : Nat := Nat.pow 2 970 * (Nat.pow 2 54 - 1)

/-- How many digits the limit has in front of the point. -/
def limitDigits : Int := 309

/-- The integer `k` with `10 ^ (k - 1) ≤ digits * 10 ^ exponent < 10 ^ k`, for positive digits. -/
def decimalMagnitude (digits : Nat) (exponent : Int) : Int :=
  (Nat.toDigits 10 digits).length + exponent

def inDoubleRange (digits : Nat) (exponent : Int) : Bool :=
  let magnitude := decimalMagnitude digits exponent
  if digits = 0 ∨ magnitude < limitDigits then true
  else if limitDigits < magnitude then false
  else digits * Nat.pow 10 exponent.toNat < doubleLimit * Nat.pow 10 (-exponent).toNat

/-- Below this magnitude the nearest double is zero. -/
def leastMagnitude : Int := -400

def nearestDouble? (negative : Bool) (digits : Nat) (exponent : Int) : Option Float :=
  if inDoubleRange digits exponent then
    let value : Float :=
      if digits = 0 ∨ decimalMagnitude digits exponent < leastMagnitude then 0
      else .ofScientific digits (exponent < 0) exponent.natAbs
    some (if negative then -value else value)
  else none

end ScriptRegistrar.Number
