/-!
# Spans of code points

Unicode properties are tables of spans in increasing order. A span may take every code point between
its ends or, where capitals and small letters alternate, every second one.
-/

namespace Docket.Text

/-- First code point, last code point and step. -/
abbrev Span := Nat × Nat × Nat

/-- Membership in an increasing table of spans; the search ends at the first span that starts after
the code point. -/
def inSpans : List Span → Nat → Bool
  | [], _ => false
  | (lo, hi, step) :: rest, n =>
    if n < lo then false
    else if n ≤ hi then (n - lo) % step == 0
    else inSpans rest n

/-- A span of code points that a mapping moves by the same distance. -/
structure Shift where
  first : Nat
  last : Nat
  step : Nat
  distance : Int

/-- The image of a code point under an increasing table of shifts, if it has one. -/
def shifted? : List Shift → Nat → Option Nat
  | [], _ => none
  | s :: rest, n =>
    if n < s.first then none
    else if n ≤ s.last then
      if (n - s.first) % s.step == 0 then some (n + s.distance).toNat else none
    else shifted? rest n

end Docket.Text
