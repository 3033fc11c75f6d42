import Docket.Number.Double
import Docket.Number.Numeral

/-!
# The shortest decimal of a double

Every finite double is written with the fewest digits that read back as the same double. Of two such
decimals the nearer is taken, and of two equally near ones the even one.

## Digits

`Double.shortest` tries one digit, two digits and so on. A decimal of a given length that reads back
exists only if one of the two neighbours of the double on that decimal grid does.

## Layouts

A `Layout` says where the point may stand before an exponent is used and how the exponent is
written. The three layouts of this library are `Layout.data`, `Layout.document` and
`Layout.message`.
-/

namespace Docket

open Numeral (digitsOf)

namespace Double

/-! ## Digits -/

/-- Whether `num / den < 10 ^ p`. -/
def belowTen (num den : Nat) (p : Int) : Bool :=
  match p with
  | .ofNat p => num < den * Nat.pow 10 p
  | .negSucc p => num * Nat.pow 10 (p + 1) < den

/-- The least `p` with `num / den < 10 ^ p`, for a positive quotient: a logarithm of base two gives
an estimate that is off by at most one on either side. -/
def pointOf (num den : Nat) : Int :=
  let estimate := ((num.log2 : Int) - den.log2) * 30103 / 100000
  let tries := [estimate - 1, estimate, estimate + 1, estimate + 2]
  (tries.find? (belowTen num den)).getD (estimate + 3)

/-- `num / den` in units of `10 ^ power`: the whole part, the remainder and the divisor. -/
def unitsOf (num den : Nat) (power : Int) : Nat × Nat × Nat :=
  let (n, d) := match power with
    | .ofNat p => (num, den * Nat.pow 10 p)
    | .negSucc p => (num * Nat.pow 10 (p + 1), den)
  (n / d, n % d, d)

/-- The nearest decimal to `d` with `length` digits, if there is one that reads back as `d`. -/
def decimalOfLength? (d : Double) (length : Nat) : Option (Nat × Int) :=
  let (num, den) := d.ratio
  let power := pointOf num den - length
  let (low, rest, unit) := unitsOf num den power
  let readsBack (n : Nat) : Bool := ofDecimal d.negative n power == d
  match readsBack low, readsBack (low + 1) with
  | true, true =>
    if 2 * rest < unit || (2 * rest == unit && low % 2 == 0) then some (low, power)
    else some (low + 1, power)
  | true, false => some (low, power)
  | false, true => some (low + 1, power)
  | false, false => none

/-- The digits and the power of ten that write a finite double: seventeen digits are always enough,
and the exact value stands behind them. -/
def shortest (d : Double) : Nat × Int :=
  if d.isZero then (0, 0)
  else
    match (List.range 17).findSome? fun n => d.decimalOfLength? (n + 1) with
    | some r => r
    | none =>
      let (num, den) := d.ratio
      (num * Nat.pow 5 den.log2, -(den.log2 : Int))

end Double

/-! ## Layouts -/

/-- How the digits of a double are laid out. The point position of `0.d₁d₂… * 10 ^ p` is `p`. -/
structure Layout where
  /-- Point positions above this one are written without exponent, … -/
  above : Option Int
  /-- … up to this one. -/
  upTo : Option Int
  /-- Whether a positive exponent shows its sign. -/
  plus : Bool
  /-- The text of an infinity, after a minus sign if negative. -/
  infinite : String
  /-- The text of an undefined value. -/
  undefined : String

namespace Layout

/-- Numbers in data: positional from `0.00001` up to sixteen digits before the point, then with a
signed exponent. Data holds finite doubles only. -/
def data : Layout := ⟨some (-5), some 16, true, "null", "null"⟩

/-- Numbers of a document that become text: as in data, but a positive exponent has no sign. -/
def document : Layout := ⟨some (-5), some 16, false, ".inf", ".nan"⟩

/-- Numbers in messages about documents: always positional. -/
def message : Layout := ⟨none, none, false, "inf", "NaN"⟩

/-- Whether a point position is written without exponent. -/
def isPositional (l : Layout) (point : Int) : Bool :=
  l.above.all (· < point) && l.upTo.all (point ≤ ·)

/-- Digits around a point at `point`, with at least one digit on both sides. -/
def positional (digits : List Char) (point : Int) : List Char :=
  match point with
  | .negSucc p => '0' :: '.' :: (List.replicate (p + 1) '0' ++ digits)
  | .ofNat 0 => '0' :: '.' :: digits
  | .ofNat p =>
    if digits.length ≤ p then digits ++ List.replicate (p - digits.length) '0' ++ ['.', '0']
    else digits.take p ++ '.' :: digits.drop p

/-- One digit, the others after a point, and the exponent. -/
def scientific (plus : Bool) (digits : List Char) (point : Int) : List Char :=
  let mantissa := match digits with
    | [] => []
    | [c] => [c]
    | c :: cs => c :: '.' :: cs
  let exponent := point - 1
  let sign := if plus && 0 ≤ exponent then ['+'] else []
  mantissa ++ 'e' :: (sign ++ Numeral.wholeText exponent)

/-- Digits without the zeros at their end, and how many were dropped. -/
def stripZeros (digits : List Char) : List Char × Nat :=
  let kept := (digits.reverse.dropWhile (· == '0')).reverse
  (kept, digits.length - kept.length)

/-- The text of the magnitude of a finite double. -/
def magnitude (l : Layout) (d : Double) : List Char :=
  if d.isZero then ['0', '.', '0']
  else
    let (n, power) := d.shortest
    let (digits, dropped) := stripZeros (digitsOf n)
    let point := power + dropped + digits.length
    if l.isPositional point then positional digits point
    else scientific l.plus digits point

/-- The text of a double. -/
def text (l : Layout) (d : Double) : List Char :=
  let sign := if d.negative then ['-'] else []
  if d.isUndefined then l.undefined.toList
  else if d.isFinite then sign ++ l.magnitude d
  else sign ++ l.infinite.toList

end Layout

end Docket
