/-!
# Binary doubles

A double is kept as its 64 bits, so that equality is decidable and every operation below is exact
arithmetic on natural numbers followed by one rounding.

## Reading the bits

`Double.significand` and `Double.exponent` decode the value `significand * 2 ^ exponent`.

## Rounding

`Double.ofRatio` rounds a quotient of natural numbers to the nearest double, a tie to the even one.
`Double.ofDecimal` rounds a decimal once; `Double.scaled` is the two-step reading used for data, in
which a whole number is rounded first and then multiplied or divided by a rounded power of ten.
-/

namespace Docket

/-- A double precision number, given by its bits: sign, eleven exponent bits, 52 fraction bits. -/
structure Double where
  bits : UInt64
deriving DecidableEq, Inhabited

namespace Double

/-! ## Reading the bits -/

/-- The sign bit; it is set for `-0.0` too. -/
def negative (d : Double) : Bool := d.bits.toNat / Nat.pow 2 63 == 1

/-- The biased exponent, between 0 and 2047. -/
def biased (d : Double) : Nat := d.bits.toNat / Nat.pow 2 52 % Nat.pow 2 11

/-- The 52 stored bits of the significand. -/
def fraction (d : Double) : Nat := d.bits.toNat % Nat.pow 2 52

/-- Infinities and undefined values use the largest biased exponent. -/
def isFinite (d : Double) : Bool := d.biased != 2047

/-- Undefined values: the largest biased exponent with some fraction. -/
def isUndefined (d : Double) : Bool := d.biased == 2047 && d.fraction != 0

/-- The whole number that `2 ^ exponent` scales; subnormal numbers lack the leading bit. -/
def significand (d : Double) : Nat :=
  if d.biased = 0 then d.fraction else Nat.pow 2 52 + d.fraction

/-- The power of two that scales the significand. -/
def exponent (d : Double) : Int :=
  if d.biased = 0 then -1074 else (d.biased : Int) - 1075

/-- Both zeros. -/
def isZero (d : Double) : Bool := d.biased == 0 && d.fraction == 0

/-- Numeric equality: the two zeros are equal and an undefined value equals nothing. -/
def sameValue (a b : Double) : Bool :=
  !a.isUndefined && !b.isUndefined && (a == b || (a.isZero && b.isZero))

/-- The magnitude as a quotient of natural numbers. -/
def ratio (d : Double) : Nat × Nat :=
  match d.exponent with
  | .ofNat e => (d.significand * Nat.pow 2 e, 1)
  | .negSucc e => (d.significand, Nat.pow 2 (e + 1))

/-! ## Rounding -/

/-- A double from its sign and the other 63 bits. -/
def ofMagnitude (negative : Bool) (magnitude : Nat) : Double :=
  ⟨UInt64.ofNat (magnitude + if negative then Nat.pow 2 63 else 0)⟩

/-- The 63 bits of an infinity. -/
def infiniteMagnitude : Nat := 2047 * Nat.pow 2 52

/-- Positive and negative infinity. -/
def infinity (negative : Bool) : Double := ofMagnitude negative infiniteMagnitude

/-- The undefined value with only the first fraction bit set. -/
def undefined : Double := ofMagnitude false (infiniteMagnitude + Nat.pow 2 51)

/-- The quotient rounded to the nearest whole number, a half to the even neighbour. -/
def roundQuotient (num den : Nat) : Nat :=
  let q := num / den
  let twice := 2 * (num % den)
  if twice < den then q
  else if den < twice then q + 1
  else q + q % 2

/-- `num / den / 2 ^ e`, rounded to a whole number. -/
def roundScaled (num den : Nat) (e : Int) : Nat :=
  match e with
  | .ofNat e => roundQuotient num (den * Nat.pow 2 e)
  | .negSucc e => roundQuotient (num * Nat.pow 2 (e + 1)) den

/-- `num / den / 2 ^ e`, rounded down. -/
def floorScaled (num den : Nat) (e : Int) : Nat :=
  match e with
  | .ofNat e => num / (den * Nat.pow 2 e)
  | .negSucc e => num * Nat.pow 2 (e + 1) / den

/-- The power of two whose multiples between `2 ^ 52` and `2 ^ 53` surround `num / den`, but never
below the smallest power that a double has. -/
def gridExponent (num den : Nat) : Int :=
  let e : Int := (num.log2 : Int) - den.log2 - 53
  let e := if floorScaled num den e < Nat.pow 2 53 then e else e + 1
  max e (-1074)

/-- The nearest double to `num / den`, a tie to the one with an even significand; magnitudes beyond
the largest finite double become an infinity. A significand that rounds up to `2 ^ 53` carries into
the exponent bits, which is the right result. -/
def ofRatio (negative : Bool) (num den : Nat) : Double :=
  if num = 0 then ofMagnitude negative 0
  else
    let e := gridExponent num den
    let m := roundScaled num den e
    let magnitude :=
      if m < Nat.pow 2 52 then m else (e + 1075).toNat * Nat.pow 2 52 + (m - Nat.pow 2 52)
    ofMagnitude negative (min magnitude infiniteMagnitude)

/-- The nearest double to a whole number. -/
def ofNat (n : Nat) : Double := ofRatio false n 1

/-- The nearest double to `digits * 10 ^ power`. Powers that are out of reach for any double are
decided by the length of the decimal alone. -/
def ofDecimal (negative : Bool) (digits : Nat) (power : Int) : Double :=
  if digits = 0 then ofMagnitude negative 0
  else
    let top := power + (digits.log2 / 3 : Nat)
    if power > 400 then infinity negative
    else if top < -400 then ofMagnitude negative 0
    else
      match power with
      | .ofNat p => ofRatio negative (digits * Nat.pow 10 p) 1
      | .negSucc p => ofRatio negative digits (Nat.pow 10 (p + 1))

/-- The rounded product of two magnitudes. -/
def mulMagnitude (a b : Double) : Double :=
  let (n, d) := a.ratio
  let (m, e) := b.ratio
  ofRatio false (n * m) (d * e)

/-- The rounded quotient of two magnitudes. -/
def divMagnitude (a b : Double) : Double :=
  let (n, d) := a.ratio
  let (m, e) := b.ratio
  if m = 0 then undefined else ofRatio false (n * e) (d * m)

/-- The opposite number. -/
def neg (d : Double) : Double :=
  ofMagnitude (!d.negative) (d.bits.toNat % Nat.pow 2 63)

/-- The largest power of ten used in one step of `scaled`. -/
def stepPower : Nat := 308

/-- `whole * 10 ^ power` in steps that round: the whole number to a double, then one product or
quotient with a power of ten, preceded by quotients with `10 ^ 308` while the power is smaller than
that. No result if it is too large for a double. -/
def scaled (whole : Nat) (power : Int) : Option Double :=
  let start := ofNat whole
  match power with
  | .ofNat p =>
    if p ≤ stepPower then
      let d := start.mulMagnitude (ofNat (Nat.pow 10 p))
      if d.isFinite then some d else none
    else if whole = 0 then some start
    else none
  | .negSucc p =>
    let p := p + 1
    if 4 * stepPower ≤ p then some (ofNat 0)
    else
      let step := ofNat (Nat.pow 10 stepPower)
      let steps := (p - 1) / stepPower
      let d := steps.repeat (fun d => d.divMagnitude step) start
      some (d.divMagnitude (ofNat (Nat.pow 10 (p - steps * stepPower))))

end Double

end Docket
