import Docket.Text.Class
import Docket.Text.Table.CaseMaps

/-!
# Changing case

The full case mappings: one character may become several, and a capital sigma becomes the final
small sigma where it ends a word.
-/

namespace Docket.Text

/-- The image of a character under a table of one-character shifts and a table of longer images. -/
def mapCase (shifts : List Shift) (many : List (Nat × List Nat)) (c : Char) : List Char :=
  match many.lookup c.toNat with
  | some image => image.map Char.ofNat
  | none =>
    match shifted? shifts c.toNat with
    | some n => [Char.ofNat n]
    | none => [c]

/-- The upper case of one character. -/
def upperChar (c : Char) : List Char := mapCase Table.toUpper Table.toUpperMany c

/-- The lower case of one character, out of context. -/
def lowerChar (c : Char) : List Char := mapCase Table.toLower Table.toLowerMany c

/-- Text in upper case. -/
def upper (cs : List Char) : List Char := cs.flatMap upperChar

/-- Whether the first character that is not passed over is cased. -/
def startsCased (cs : List Char) : Bool :=
  match cs.dropWhile isCaseIgnorable with
  | c :: _ => isCased c
  | [] => false

/-- The capital sigma, whose lower case depends on its neighbours. -/
def capitalSigma : Char := Char.ofNat 0x3A3

/-- The small sigma that ends a word with more than one letter. -/
def finalSigma : Char := Char.ofNat 0x3C2

/-- The small sigma everywhere else. -/
def smallSigma : Char := Char.ofNat 0x3C3

/-- Text in lower case, given what stands before it in reverse. -/
def lowerAfter : List Char → List Char → List Char
  | _, [] => []
  | before, c :: cs =>
    let image :=
      if c = capitalSigma then
        if startsCased before && !startsCased cs then [finalSigma] else [smallSigma]
      else lowerChar c
    image ++ lowerAfter (c :: before) cs

/-- Text in lower case. -/
def lower (cs : List Char) : List Char := lowerAfter [] cs

end Docket.Text
