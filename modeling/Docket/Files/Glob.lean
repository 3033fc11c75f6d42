import Docket.Objection

/-!
# Globs

Patterns for locations. A pattern matches a whole location, byte by byte.

## Pattern items

`?` is any byte, `*` any bytes, slashes included. `**/` at the start is nothing or any leading
directories, `/**` at the end anything below, `/**/` in between a slash or any directories between
two. `[…]` is one byte of a class, `{…,…}` one of several patterns, a backslash takes the next
character as it is.

## Reading

Reading goes through the characters once. Open alternatives are kept on a stack; a class has its own
state.

## Matching

An item turns the rests of a location that are still to be matched into those that remain after it.
A pattern matches if the empty rest is left in the end.
-/

namespace Docket

/-! ## Pattern items -/

/-- One item of a pattern. -/
inductive GlobItem where
  | literal (c : Char)
  | anyByte
  | anyBytes
  /-- Nothing or any leading directories. -/
  | leading
  /-- Anything below. -/
  | beneath
  /-- A slash or any directories in between. -/
  | between
  | oneOf (negated : Bool) (ranges : List (Char × Char))
  | alternatives (branches : List (List GlobItem))

/-- A pattern for locations. -/
abbrev Glob := List GlobItem

namespace Glob

/-! ## Reading -/

/-- What has been read of a pattern. Items and branches are kept in reverse. -/
structure Reader where
  /-- The items of the branch that is being read. -/
  items : List GlobItem := []
  /-- For each open alternative the items before it and its finished branches. -/
  opened : List (List GlobItem × List (List GlobItem)) := []
  /-- The character before. -/
  previous : Option Char := none

namespace Reader

/-- Adds items, the last one first. -/
def push (r : Reader) (last : Char) (items : List GlobItem) : Reader :=
  { r with items := items ++ r.items, previous := some last }

/-- Opens alternatives. -/
def enter (r : Reader) : Reader :=
  { items := [], opened := (r.items, []) :: r.opened, previous := some '\x7b' }

/-- Ends a branch; outside of alternatives a comma stands for itself. -/
def comma (r : Reader) : Reader :=
  match r.opened with
  | [] => r.push ',' [.literal ',']
  | (before, done) :: outer =>
    { items := [], opened := (before, r.items.reverse :: done) :: outer, previous := some ',' }

/-- Closes alternatives. -/
def close? (r : Reader) : Option Reader :=
  match r.opened with
  | [] => none
  | (before, done) :: outer =>
    some
      { items := .alternatives (r.items.reverse :: done).reverse :: before, opened := outer,
        previous := some '\x7d' }

/-- The pattern, unless alternatives are open. -/
def finish? (r : Reader) : Option Glob :=
  match r.opened with
  | [] => some r.items.reverse
  | _ => none

/-- What two stars stand for before a given character: items in place of the last one or behind it,
and whether a slash that follows belongs to them. -/
def twoStars (r : Reader) (next : Option Char) : Reader × Bool :=
  let plain : Reader × Bool := (r.push '*' [.anyBytes, .anyBytes], false)
  let atDirectory := r.previous = some '/'
  let atBranch := !r.opened.isEmpty && (r.previous = some ',' || r.previous = some '\x7b')
  match r.items with
  | [] =>
    match next with
    | none => (r.push '*' [.leading], false)
    | some c => if c = '/' then (r.push '/' [.leading], true) else plain
  | last :: before =>
    if !atDirectory && !atBranch then plain
    else
      let replace (item : GlobItem) (c : Char) : Reader :=
        { r with
          items := (match last with
            | .leading => .leading
            | .beneath => .beneath
            | _ => item) :: before
          previous := some c }
      match next with
      | none => (replace .beneath '*', false)
      | some c =>
        if (c = ',' || c = '\x7d') && !r.opened.isEmpty then (replace .beneath '*', false)
        else if c = '/' then (replace .between '/', true)
        else plain

end Reader

/-- What has been read of a class. Ranges are kept in reverse. -/
structure ClassReader where
  negated : Bool
  ranges : List (Char × Char) := []
  /-- Whether a hyphen waits for the end of its range. -/
  inRange : Bool := false

namespace ClassReader

/-- Adds a character, as the end of a range if one is open. A range may not run backwards. -/
def add? (k : ClassReader) (c : Char) : Option ClassReader :=
  match k.inRange, k.ranges with
  | true, (lo, _) :: rest =>
    if c < lo then none else some { k with ranges := (lo, c) :: rest, inRange := false }
  | _, ranges => some { k with ranges := (c, c) :: ranges, inRange := false }

/-- Takes in a character of a class that does not end it. A hyphen opens a range, unless it comes
first or ends one. -/
def take? (k : ClassReader) (c : Char) : Option ClassReader :=
  if c = '-' && !k.inRange && !k.ranges.isEmpty then some { k with inRange := true } else k.add? c

/-- The class; a hyphen at its end stands for itself. -/
def item (k : ClassReader) : GlobItem :=
  .oneOf k.negated ((if k.inRange then ('-', '-') :: k.ranges else k.ranges).reverse)

end ClassReader

mutual

/-- Reads a pattern. -/
def read : List Char → Reader → Option Glob
  | [], r => r.finish?
  | '*' :: '*' :: '/' :: rest, r =>
    match r.twoStars (some '/') with
    | (r, true) => read rest r
    | (r, false) => read rest (r.push '/' [.literal '/'])
  | ['*', '*'], r => (r.twoStars none).1.finish?
  | '*' :: '*' :: c :: rest, r => read (c :: rest) (r.twoStars (some c)).1
  | '*' :: rest, r => read rest (r.push '*' [.anyBytes])
  | '?' :: rest, r => read rest (r.push '?' [.anyByte])
  | '[' :: '!' :: rest, r => readClass rest ⟨true, [], false⟩ r
  | '[' :: '^' :: rest, r => readClass rest ⟨true, [], false⟩ r
  | '[' :: rest, r => readClass rest ⟨false, [], false⟩ r
  | '\x7b' :: rest, r => read rest r.enter
  | '\x7d' :: rest, r =>
    match r.close? with
    | some r => read rest r
    | none => none
  | ',' :: rest, r => read rest r.comma
  | '\\' :: c :: rest, r => read rest (r.push c [.literal c])
  | ['\\'], _ => none
  | c :: rest, r => read rest (r.push c [.literal c])

/-- Reads a class. A closing bracket that comes first belongs to the class. -/
def readClass : List Char → ClassReader → Reader → Option Glob
  | [], _, _ => none
  | ']' :: rest, k, r =>
    if k.ranges.isEmpty then
      match k.add? ']' with
      | some k => readClass rest k r
      | none => none
    else read rest (r.push ']' [k.item])
  | c :: rest, k, r =>
    match k.take? c with
    | some k => readClass rest k r
    | none => none

end

/-- The pattern that a text writes. -/
def parse? (s : String) : Option Glob := read s.toList {}

/-! ## Matching -/

/-- The bytes of a character. -/
def charBytes (c : Char) : List UInt8 := (String.singleton c).toUTF8.data.toList

/-- The bytes that a class lists, as ranges. Only the bytes next to the hyphen of a range are joined
by it. -/
def byteRanges : Char × Char → List (UInt8 × UInt8)
  | (lo, hi) =>
    let single (b : UInt8) : UInt8 × UInt8 := (b, b)
    if lo = hi then (charBytes lo).map single
    else
      let los := charBytes lo
      let his := charBytes hi
      los.dropLast.map single ++ (los.getLast?.getD 0, his.head?.getD 0) :: his.tail.map single

/-- Whether a byte belongs to a class. -/
def inClass (negated : Bool) (ranges : List (Char × Char)) (b : UInt8) : Bool :=
  let listed := (ranges.flatMap byteRanges).any fun (lo, hi) => lo ≤ b && b ≤ hi
  listed != negated

/-- All rests of bytes, the bytes themselves first. -/
def rests : List UInt8 → List (List UInt8)
  | [] => [[]]
  | b :: bs => (b :: bs) :: rests bs

/-- What follows each slash. -/
def afterSlashes : List UInt8 → List (List UInt8)
  | [] => []
  | b :: bs => if b = 47 then bs :: afterSlashes bs else afterSlashes bs

/-- What follows a byte that passes a test. -/
def afterByte (p : UInt8 → Bool) : List UInt8 → List (List UInt8)
  | [] => []
  | b :: bs => if p b then [bs] else []

/-- What follows given bytes. -/
def afterBytes : List UInt8 → List UInt8 → List (List UInt8)
  | [], bs => [bs]
  | _ :: _, [] => []
  | a :: as, b :: bs => if a = b then afterBytes as bs else []

/-- Rests of one location, each once; rests of equal length are equal. -/
def distinct (rs : List (List UInt8)) : List (List UInt8) :=
  rs.eraseDupsBy fun a b => a.length == b.length

end Glob

open Glob

mutual

/-- Whether an item is nothing but alternatives without branches that count. -/
def GlobItem.isVoid : GlobItem → Bool
  | .alternatives branches => Glob.areVoidBranches branches
  | _ => false

/-- Whether all items in a row are void. -/
def Glob.areVoid : List GlobItem → Bool
  | [] => true
  | item :: items => item.isVoid && Glob.areVoid items

/-- Whether all branches are void. -/
def Glob.areVoidBranches : List (List GlobItem) → Bool
  | [] => true
  | branch :: branches => Glob.areVoid branch && Glob.areVoidBranches branches

end

mutual

/-- The rests after an item. Void branches do not count, and without others there is nothing to
match. -/
def GlobItem.after (bs : List UInt8) : GlobItem → List (List UInt8)
  | .literal c => afterBytes (charBytes c) bs
  | .anyByte => afterByte (fun _ => true) bs
  | .anyBytes => rests bs
  | .leading => bs :: afterSlashes bs
  | .beneath => (afterByte (· == 47) bs).flatMap rests
  | .between => (afterByte (· == 47) bs).flatMap fun r => r :: afterSlashes r
  | .oneOf negated ranges => afterByte (inClass negated ranges) bs
  | .alternatives branches =>
    if Glob.areVoidBranches branches then [bs] else Glob.afterBranches bs branches

/-- The rests after any one of several branches. -/
def Glob.afterBranches (bs : List UInt8) : List (List GlobItem) → List (List UInt8)
  | [] => []
  | branch :: branches =>
    (if Glob.areVoid branch then [] else Glob.afterItems [bs] branch) ++
      Glob.afterBranches bs branches

/-- The rests after items in a row. -/
def Glob.afterItems (rs : List (List UInt8)) : List GlobItem → List (List UInt8)
  | [] => rs
  | item :: items => Glob.afterItems (distinct (rs.flatMap fun bs => item.after bs)) items

end

namespace Glob

/-- Whether a pattern is nothing but leading directories. -/
def isEverything : Glob → Bool
  | [.leading] => true
  | _ => false

/-- Whether a pattern matches a location. -/
def matchesBytes (g : Glob) (bs : List UInt8) : Bool :=
  g.isEverything || (afterItems [bs] g).any List.isEmpty

end Glob

/-! ## Sets of patterns -/

/-- Several patterns. -/
abbrev Globs := List Glob

namespace Globs

/-- The pattern with a text. -/
def patternOf [Objections] (pattern : String) : Except Error Glob :=
  match Glob.parse? pattern with
  | some glob => .ok glob
  | none => .error (.badGlob (Objections.glob pattern))

/-- The set of patterns with these texts; the first one that is malformed counts. -/
def ofTexts [Objections] (patterns : List String) : Except Error Globs := patterns.mapM patternOf

/-- Whether one of the patterns matches a location. -/
def matchesAny (s : Globs) (location : String) : Bool :=
  s.any fun g => g.matchesBytes location.toUTF8.data.toList

end Globs

end Docket
