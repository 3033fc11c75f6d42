/-!
# Numerals

Whole numbers and decimals as they are written in digits.

## Digits

`digitsOf` writes a natural number; `valueOf` reads a run of digits in any base.

## Bounded whole numbers

`unsigned?` and `signed?` read a numeral into a 64-bit range. A leading `+` is accepted, leading
zeros too, blanks never.

## Decimals

`decimal?` reads the sign, the digits and the power of ten of a decimal with an optional point and
an optional exponent. It does not round; that is the business of `Double`.
-/

namespace Docket.Numeral

/-! ## Digits -/

/-- The ten ASCII digits. -/
def isDigit (c : Char) : Bool := '0' ≤ c && c ≤ '9'

/-- The value of a digit in a base up to sixteen. -/
def digit? (base : Nat) (c : Char) : Option Nat :=
  let v :=
    if isDigit c then c.toNat - '0'.toNat
    else if 'a' ≤ c && c ≤ 'f' then c.toNat - 'a'.toNat + 10
    else if 'A' ≤ c && c ≤ 'F' then c.toNat - 'A'.toNat + 10
    else base
  if v < base then some v else none

/-- The decimal digits of a number, without leading zeros. -/
def digitsOf (n : Nat) : List Char := Nat.toDigits 10 n

/-- The text of a whole number. -/
def wholeText (n : Int) : List Char :=
  match n with
  | .ofNat n => digitsOf n
  | .negSucc n => '-' :: digitsOf (n + 1)

/-- The number that a non-empty run of digits stands for, continuing from `acc`. -/
def valueFrom (base : Nat) : Nat → List Char → Option Nat
  | acc, [] => some acc
  | acc, c :: cs => (digit? base c).bind fun v => valueFrom base (acc * base + v) cs

/-- The number that a run of digits stands for; an empty run stands for none. -/
def valueOf (base : Nat) : List Char → Option Nat
  | [] => none
  | cs => valueFrom base 0 cs

/-! ## Bounded whole numbers -/

/-- The first number above the unsigned 64-bit range. -/
def unsignedBound : Nat := Nat.pow 2 64

/-- The first number above the signed 64-bit range. -/
def signedBound : Nat := Nat.pow 2 63

/-- A numeral without minus sign, below `bound`. -/
def below? (base bound : Nat) (cs : List Char) : Option Nat :=
  let digits := match cs with
    | '+' :: rest => rest
    | _ => cs
  (valueOf base digits).bind fun n => if n < bound then some n else none

/-- A numeral with an optional sign, from `-bound` up to but not including `bound`. -/
def within? (base bound : Nat) (cs : List Char) : Option Int :=
  match cs with
  | '-' :: rest =>
    (valueOf base rest).bind fun n => if n ≤ bound then some (-(n : Int)) else none
  | _ => (below? base bound cs).map Int.ofNat

/-- An unsigned 64-bit decimal numeral. -/
def unsigned? (cs : List Char) : Option Nat := below? 10 unsignedBound cs

/-- A signed 64-bit decimal numeral. -/
def signed? (cs : List Char) : Option Int := within? 10 signedBound cs

/-! ## Decimals -/

/-- The number `digits * 10 ^ power` with its sign. -/
structure Decimal where
  negative : Bool
  digits : Nat
  power : Int
deriving DecidableEq, Repr

/-- The exponent part of a decimal: nothing, or an `e` with a signed run of digits. -/
def exponent? : List Char → Option Int
  | [] => some 0
  | c :: rest =>
    if c = 'e' || c = 'E' then
      match rest with
      | '-' :: ds => (valueOf 10 ds).map fun n => -(n : Int)
      | '+' :: ds => (valueOf 10 ds).map Int.ofNat
      | ds => (valueOf 10 ds).map Int.ofNat
    else none

/-- A decimal without its sign: digits with an optional point among or around them, at least one
digit in all, and an optional exponent. -/
def magnitude? (negative : Bool) (cs : List Char) : Option Decimal :=
  let before := cs.takeWhile isDigit
  let rest := cs.dropWhile isDigit
  let after := match rest with
    | '.' :: r => r.takeWhile isDigit
    | _ => []
  let tail := match rest with
    | '.' :: r => r.dropWhile isDigit
    | r => r
  (valueOf 10 (before ++ after)).bind fun digits =>
    (exponent? tail).map fun power => ⟨negative, digits, power - after.length⟩

/-- A decimal with an optional sign. -/
def decimal? : List Char → Option Decimal
  | '-' :: rest => magnitude? true rest
  | '+' :: rest => magnitude? false rest
  | cs => magnitude? false cs

end Docket.Numeral
