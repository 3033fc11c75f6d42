import Docket.Value.Basic

/-!
# Reading data from its notation

The strict notation of data: one value, white space around tokens, no trailing commas.

## Numbers

A numeral without point and exponent is a whole number if it fits 64 bits, apart from `-0`; every
other number becomes a double. Digits are gathered into 64 bits for as long as they fit, and the
result is scaled by a power of ten in rounded steps. Numbers beyond the largest double are refused.

## Texts

Texts may not hold raw control characters; an escaped surrogate must have its partner.

## Values

Nesting is bounded. The reader keeps the entries of a map as they are written; `Value.settled` sorts
them.
-/

namespace Docket.Value.Reader

/-- The white space between tokens. -/
def isSpace (c : Char) : Bool := c = ' ' || c = '\n' || c = '\t' || c = '\r'

/-- What follows a run of white space. -/
def skipSpace (cs : List Char) : List Char := cs.dropWhile isSpace

/-! ## Numbers -/

open Numeral (isDigit)

/-- Gathers digits into a whole number for as long as it stays within 64 bits. The result holds the
number, how many digits it took, and the rest from the first digit that did not fit. -/
def gather (acc : Nat) : List Char → Nat × Nat × List Char
  | [] => (acc, 0, [])
  | c :: cs =>
    if isDigit c then
      let next := acc * 10 + (c.toNat - '0'.toNat)
      if next < Numeral.unsignedBound then
        let (n, taken, rest) := gather next cs
        (n, taken + 1, rest)
      else (acc, 0, c :: cs)
    else (acc, 0, c :: cs)

/-- The exponent after its `e`: sign and digits. No result without a digit. -/
def readExponent (cs : List Char) : Option (Int × List Char) :=
  let (negative, ds) := match cs with
    | '-' :: r => (true, r)
    | '+' :: r => (false, r)
    | r => (false, r)
  (Numeral.valueOf 10 (ds.takeWhile isDigit)).map fun n =>
    (if negative then -(n : Int) else n, ds.dropWhile isDigit)

/-- A double from its gathered digits and power of ten. -/
def finishDouble (negative : Bool) (whole : Nat) (power : Int) (rest : List Char) :
    Option (Number × List Char) :=
  (Double.scaled whole power).map fun d =>
    (.double (if negative then d.neg else d), rest)

/-- What follows the digits: the exponent, if there is one, ends the number. -/
def readScale (negative : Bool) (whole : Nat) (power : Int) (cs : List Char) :
    Option (Number × List Char) :=
  match cs with
  | c :: rest =>
    if c = 'e' || c = 'E' then
      (readExponent rest).bind fun (e, rest) => finishDouble negative whole (power + e) rest
    else finishDouble negative whole power cs
  | [] => finishDouble negative whole power cs

/-- The digits after a point; at least one is needed. Digits that no longer fit are dropped. -/
def readFraction (negative : Bool) (whole : Nat) (power : Int) (cs : List Char) :
    Option (Number × List Char) :=
  match cs with
  | c :: _ =>
    if isDigit c then
      let (n, taken, rest) := gather whole cs
      readScale negative n (power - taken) (rest.dropWhile isDigit)
    else none
  | [] => none

/-- A number after its sign. A leading zero stands alone. -/
def readMagnitude (negative : Bool) (cs : List Char) : Option (Number × List Char) :=
  match cs with
  | c :: cs' =>
    if isDigit c then
      if c = '0' && (cs'.takeWhile isDigit).length ≠ 0 then none
      else
        let (n, _, rest) := gather 0 cs
        let dropped := rest.takeWhile isDigit
        let rest := rest.dropWhile isDigit
        match rest with
        | '.' :: rest' => readFraction negative n dropped.length rest'
        | _ =>
          let hasExponent := match rest with
            | e :: _ => e = 'e' || e = 'E'
            | [] => false
          if hasExponent || !dropped.isEmpty then readScale negative n dropped.length rest
          else if !negative then some (.whole n, rest)
          else if n = 0 || n > Numeral.signedBound then
            some (.double (Double.ofNat n).neg, rest)
          else some (.whole (-(n : Int)), rest)
    else none
  | [] => none

/-- A number. -/
def readNumber : List Char → Option (Number × List Char)
  | '-' :: rest => readMagnitude true rest
  | cs => readMagnitude false cs

/-! ## Texts -/

/-- The value of four hexadecimal digits. -/
def hexFour (a b c d : Char) : Option Nat := Numeral.valueOf 16 [a, b, c, d]

/-- The rest of a text after its opening quote. -/
def readText : List Char → Option (List Char × List Char)
  | [] => none
  | '"' :: rest => some ([], rest)
  | '\\' :: 'u' :: a :: b :: c :: d :: rest =>
    match hexFour a b c d with
    | none => none
    | some n =>
      if 0xD800 ≤ n && n < 0xDC00 then
        match rest with
        | '\\' :: 'u' :: a' :: b' :: c' :: d' :: rest' =>
          match hexFour a' b' c' d' with
          | none => none
          | some m =>
            if 0xDC00 ≤ m && m < 0xE000 then
              let n := 0x10000 + (n - 0xD800) * 0x400 + (m - 0xDC00)
              (readText rest').map fun (cs, r) => (Char.ofNat n :: cs, r)
            else none
        | _ => none
      else if 0xDC00 ≤ n && n < 0xE000 then none
      else (readText rest).map fun (cs, r) => (Char.ofNat n :: cs, r)
  | '\\' :: e :: rest =>
    let image := match e with
      | '"' => some '"'
      | '\\' => some '\\'
      | '/' => some '/'
      | 'b' => some (Char.ofNat 8)
      | 'f' => some (Char.ofNat 12)
      | 'n' => some '\n'
      | 'r' => some '\r'
      | 't' => some '\t'
      | _ => none
    match image with
    | none => none
    | some c => (readText rest).map fun (cs, r) => (c :: cs, r)
  | c :: rest =>
    if c.toNat < 32 || c = '\\' then none
    else (readText rest).map fun (cs, r) => (c :: cs, r)

/-! ## Values -/

/-- What follows a word that must stand here. -/
def expect (word : List Char) (cs : List Char) : Option (List Char) :=
  if word.isPrefixOf cs then some (cs.drop word.length) else none

mutual

/-- A value after white space. Each step into a token costs one unit of `fuel`; `depth` bounds the
nesting that is still allowed. -/
def readValue : (fuel depth : Nat) → List Char → Option (Value × List Char)
  | 0, _, _ => none
  | fuel + 1, depth, cs =>
    match skipSpace cs with
    | [] => none
    | '"' :: rest => (readText rest).map fun (s, r) => (.text (String.ofList s), r)
    | '[' :: rest =>
      match depth with
      | 0 => none
      | depth + 1 =>
        match skipSpace rest with
        | ']' :: r => some (.list [], r)
        | rest => (readItems fuel depth rest).map fun (vs, r) => (.list vs, r)
    | '\x7b' :: rest =>
      match depth with
      | 0 => none
      | depth + 1 =>
        match skipSpace rest with
        | '\x7d' :: r => some (.map [], r)
        | rest => (readEntries fuel depth rest).map fun (es, r) => (.map es, r)
    | 'n' :: rest => (expect ['u', 'l', 'l'] rest).map fun r => (.null, r)
    | 't' :: rest => (expect ['r', 'u', 'e'] rest).map fun r => (.bool true, r)
    | 'f' :: rest => (expect ['a', 'l', 's', 'e'] rest).map fun r => (.bool false, r)
    | cs => (readNumber cs).map fun (n, r) => (.number n, r)

/-- The items of a list up to its closing bracket. -/
def readItems : (fuel depth : Nat) → List Char → Option (List Value × List Char)
  | 0, _, _ => none
  | fuel + 1, depth, cs =>
    match readValue fuel depth cs with
    | none => none
    | some (v, rest) =>
      match skipSpace rest with
      | ',' :: rest => (readItems fuel depth rest).map fun (vs, r) => (v :: vs, r)
      | ']' :: rest => some ([v], rest)
      | _ => none

/-- The entries of a map up to its closing brace. -/
def readEntries : (fuel depth : Nat) → List Char → Option (List (String × Value) × List Char)
  | 0, _, _ => none
  | fuel + 1, depth, cs =>
    match skipSpace cs with
    | '"' :: rest =>
      match readText rest with
      | none => none
      | some (key, rest) =>
        match skipSpace rest with
        | ':' :: rest =>
          match readValue fuel depth rest with
          | none => none
          | some (v, rest) =>
            let entry := (String.ofList key, v)
            match skipSpace rest with
            | ',' :: rest => (readEntries fuel depth rest).map fun (es, r) => (entry :: es, r)
            | '\x7d' :: rest => some ([entry], rest)
            | _ => none
        | _ => none
    | _ => none

end

end Reader

/-- The nesting that data read from a text may have. -/
def maxDepth : Nat := 127

/-- One value that fills the whole text, its maps as they are written. Two units of fuel for each
character are more than the reader can use. -/
def readWithin (depth : Nat) (s : String) : Option Value :=
  let cs := s.toList
  (Reader.readValue (2 * cs.length + 2) depth cs).bind fun (v, rest) =>
    if (Reader.skipSpace rest).isEmpty then some v else none

/-- The value that a text denotes, its maps as they are written. -/
def readWritten (s : String) : Option Value := readWithin maxDepth s

/-- The value that a text denotes. -/
def read (s : String) : Option Value := (readWritten s).map settled

end Docket.Value
