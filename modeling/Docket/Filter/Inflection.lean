import Docket.Text.Class

/-!
# Plural and singular

English number by rules. A rule has a stem and an ending; where both match, the stem is kept and the
ending replaced. Whatever stands before the stem is lost.

## Matching

A stem is a run of word characters, as long as possible, followed by one of several alternatives.
The earliest place at which a rule matches counts.

## Rules

Rules are tried from the last to the first. Words without number and a few irregular words come
before all rules.
-/

namespace Docket.Inflection

/-! ## Matching -/

/-- One character of a pattern. -/
inductive Item where
  | is (c : Char)
  | oneOf (cs : List Char)
  | noneOf (cs : List Char)

/-- Whether a character fits. -/
def Item.fits : Item → Char → Bool
  | is d, c => c == d
  | oneOf cs, c => cs.contains c
  | noneOf cs, c => !cs.contains c

/-- A run of characters of a pattern. -/
abbrev Pattern := List Item

/-- The text that fits a pattern at the start of a text, and what follows it. -/
def fitting? : Pattern → List Char → Option (List Char × List Char)
  | [], cs => some ([], cs)
  | _ :: _, [] => none
  | item :: items, c :: cs =>
    if item.fits c then (fitting? items cs).map fun (text, rest) => (c :: text, rest) else none

/-- A rule of inflection. -/
structure Rule where
  /-- The stem must start where the text starts. -/
  atStart : Bool := false
  /-- The stem may begin with any run of word characters. -/
  open_ : Bool := true
  /-- The alternatives for the rest of the stem. -/
  stems : List Pattern
  /-- The alternatives for the ending. -/
  endings : List Pattern
  /-- The ending must end where the text ends. -/
  atEnd : Bool := true
  /-- What replaces the ending. -/
  suffix : List Char

/-- The stem of a rule's match that begins with this stem alternative. -/
def Rule.stemWith? (r : Rule) (cs : List Char) (stem : Pattern) : Option (List Char) :=
  (fitting? stem cs).bind fun (text, rest) =>
    if r.endings.any fun ending =>
        match fitting? ending rest with
        | some (_, rest) => rest.isEmpty || !r.atEnd
        | none => false
    then some text else none

/-- The stem of a rule's match after exactly the word characters that have been passed over. -/
def Rule.closedStem? (r : Rule) (cs : List Char) : Option (List Char) :=
  r.stems.findSome? (r.stemWith? cs)

/-- The stem of a rule's match at the start of a text, passing over as many word characters as
possible. -/
def Rule.openStem? (r : Rule) : List Char → Option (List Char)
  | [] => r.closedStem? []
  | c :: cs =>
    let longer := if Text.isWordChar c then (r.openStem? cs).map (c :: ·) else none
    longer.or (r.closedStem? (c :: cs))

/-- The stem of a rule's match at the start of a text. -/
def Rule.stemAtStart? (r : Rule) (cs : List Char) : Option (List Char) :=
  if r.open_ then r.openStem? cs else r.closedStem? cs

/-- The stem of a rule's earliest match. -/
def Rule.stem? (r : Rule) : List Char → Option (List Char)
  | [] => r.stemAtStart? []
  | c :: cs =>
    (r.stemAtStart? (c :: cs)).or (if r.atStart then none else r.stem? cs)

/-- A text inflected by a rule. The result is itself a pattern in which a dollar sign starts a name
that stands for nothing, so it ends at a dollar sign. -/
def Rule.inflected? (r : Rule) (cs : List Char) : Option (List Char) :=
  (r.stem? cs).map fun stem => (stem ++ r.suffix).takeWhile (· ≠ '$')

/-! ## Notation of rules -/

/-- A pattern of plain characters. -/
def plain (s : String) : Pattern := s.toList.map .is

/-- Patterns of plain characters. -/
def plains (ss : List String) : List Pattern := ss.map plain

/-- A character outside a class, then plain characters. -/
def except (cs : String) (s : String) : Pattern := .noneOf cs.toList :: plain s

/-- A character of a class, then plain characters. -/
def either (cs : String) (s : String) : Pattern := .oneOf cs.toList :: plain s

/-- A rule that replaces one of several endings of any stem that ends in one of several ways. -/
def rule (stems endings : List Pattern) (suffix : String) : Rule :=
  { stems := stems, endings := endings, suffix := suffix.toList }

/-- A consonant before a final `y`. -/
def consonants : List Pattern := [except "aeiouy" "", plain "qu"]

/-! ## Rules -/

/-- The rules for plurals, the most general first. -/
def pluralRules : List Rule :=
  [rule [[]] (plains ["s"]) "s",
   rule [except "aeiou" "ese"] [[]] "",
   rule (plains ["ax", "test"]) (plains ["is"]) "es",
   rule [plain "alias", except "aou" "us", plain "tlas", plain "gas", plain "ris"] [[]] "es",
   rule [[.is 'e', .oneOf ['m', 'n'], .is 'u']] (plains ["s", ""]) "s",
   rule [except "l" "ias", either "aeiou" "las", either "emjzr" "as", either "iu" "am"] [[]] "",
   rule (plains ["alumn", "syllab", "octop", "vir", "radi", "nucle", "fung", "cact", "stimul",
     "termin", "bacill", "foc", "uter", "loc", "strat"]) (plains ["us", "i"]) "i",
   rule (plains ["alumn", "alg", "vertebr"]) (plains ["a", "ae"]) "ae",
   rule (plains ["seraph", "cherub"]) (plains ["im", ""]) "im",
   rule (plains ["her", "at", "gr"]) (plains ["o"]) "oes",
   rule (plains ["agend", "addend", "millenni", "dat", "extrem", "bacteri", "desiderat", "strat",
     "candelabr", "errat", "ov", "symposi", "curricul", "automat", "quor"])
     (plains ["a", "um"]) "a",
   rule (plains ["apheli", "hyperbat", "periheli", "asyndet", "noumen", "phenomen", "criteri",
     "organ", "prolegomen", "hedr", "automat"]) (plains ["a", "on"]) "a",
   rule [[]] (plains ["sis"]) "ses",
   rule (plains ["kni", "wi", "li"]) (plains ["fe"]) "ves",
   rule (plains ["ar", "l", "ea", "eo", "oa", "hoo"]) (plains ["f"]) "ves",
   rule consonants (plains ["y"]) "ies",
   rule [[.noneOf ['c', 'h'], .oneOf ['i', 'e', 'o'], .oneOf ['l', 'n']]] (plains ["ey"]) "ies",
   rule (plains ["xes", "ches", "sses", "shes", "zzes"]) [[]] "",
   rule (plains ["x", "ch", "ss", "sh", "zz"]) [[]] "es",
   rule (plains ["matr", "cod", "mur", "sil", "vert", "ind", "append"]) (plains ["ix", "ex"])
     "ices",
   rule (plains ["m", "l"]) (plains ["ice", "ouse"]) "ice",
   rule (plains ["pe"]) (plains ["rson", "ople"]) "ople",
   rule (plains ["child"]) (plains ["ren", ""]) "ren",
   rule (plains ["eaux"]) [[]] ""]

/-- The rules for singulars, the most general first. -/
def singularRules : List Rule :=
  [rule [[]] (plains ["s"]) "",
   rule (plains ["ss"]) [[]] "",
   rule (plains ["n"]) (plains ["ews"]) "ews",
   rule (plains ["o"]) (plains ["es"]) "",
   rule [either "ti" ""] (plains ["a"]) "um",
   rule (plains ["analy", "ba", "diagno", "parenthe", "progno", "synop", "the"])
     (plains ["sis", "ses"]) "sis",
   { atStart := true, open_ := false, stems := plains ["analy"],
     endings := plains ["sis", "ses"], suffix := ['s', 'i', 's'] },
   rule [except "f" ""] (plains ["ves"]) "fe",
   rule (plains ["hive"]) (plains ["s"]) "",
   rule (plains ["tive"]) (plains ["s"]) "",
   rule [either "lr" ""] (plains ["ves"]) "f",
   rule consonants (plains ["ies"]) "y",
   rule (plains ["s"]) (plains ["eries"]) "eries",
   rule (plains ["m"]) (plains ["ovies"]) "ovie",
   rule (plains ["x", "ch", "ss", "sh"]) (plains ["es"]) "",
   rule (plains ["m", "l"]) (plains ["ice"]) "ouse",
   rule (plains ["bus"]) (plains ["es", ""]) "",
   rule (plains ["shoe"]) (plains ["s"]) "",
   rule (plains ["cris", "test"]) (plains ["is", "es"]) "is",
   { atStart := true, open_ := false, stems := plains ["a"],
     endings := [[.is 'x', .oneOf ['i', 'e'], .is 's']], suffix := ['x', 'i', 's'] },
   rule (plains ["octop", "vir"]) (plains ["us", "i"]) "us",
   rule (plains ["alias", "status"]) (plains ["es", ""]) "",
   { atStart := true, open_ := false, stems := plains ["ox"], endings := plains ["en"],
     atEnd := false, suffix := [] },
   rule (plains ["vert", "ind"]) (plains ["ices"]) "ex",
   rule (plains ["matr"]) (plains ["ices"]) "ix",
   rule (plains ["quiz"]) (plains ["zes"]) "",
   rule (plains ["database"]) (plains ["s"]) ""]

/-- Singulars and plurals that follow no rule. -/
def irregular : List (String × String) :=
  [("ox", "oxen"), ("man", "men"), ("woman", "women"), ("die", "dice"), ("yes", "yeses"),
   ("foot", "feet"), ("eave", "eaves"), ("goose", "geese"), ("tooth", "teeth"),
   ("quiz", "quizzes")]

/-- Words that have no other number. -/
def uncountable : List String :=
  ["accommodation", "adulthood", "advertising", "advice", "aggression", "aid", "air", "aircraft",
   "alcohol", "anger", "applause", "arithmetic", "assistance", "athletics", "bacon", "baggage",
   "beef", "biology", "blood", "botany", "bread", "butter", "carbon", "cardboard", "cash",
   "chalk", "chaos", "chess", "crossroads", "countryside", "dancing", "deer", "dignity", "dirt",
   "dust", "economics", "education", "electricity", "engineering", "enjoyment", "envy",
   "equipment", "ethics", "evidence", "evolution", "fame", "fiction", "flour", "flu", "food",
   "fuel", "fun", "furniture", "gallows", "garbage", "garlic", "genetics", "gold", "golf",
   "gossip", "grammar", "gratitude", "grief", "guilt", "gymnastics", "happiness", "hardware",
   "harm", "hate", "hatred", "health", "heat", "help", "homework", "honesty", "honey",
   "hospitality", "housework", "humour", "hunger", "hydrogen", "ice", "importance", "inflation",
   "information", "innocence", "iron", "irony", "jam", "jewelry", "judo", "karate", "knowledge",
   "lack", "laughter", "lava", "leather", "leisure", "lightning", "linguine", "linguini",
   "linguistics", "literature", "litter", "livestock", "logic", "loneliness", "luck", "luggage",
   "macaroni", "machinery", "magic", "management", "mankind", "marble", "mathematics",
   "mayonnaise", "measles", "methane", "milk", "money", "mud", "music", "mumps", "nature",
   "news", "nitrogen", "nonsense", "nurture", "nutrition", "obedience", "obesity", "oxygen",
   "pasta", "patience", "physics", "poetry", "pollution", "poverty", "pride", "psychology",
   "publicity", "punctuation", "quartz", "racism", "relaxation", "reliability", "research",
   "respect", "revenge", "rice", "rubbish", "rum", "safety", "scenery", "seafood", "seaside",
   "series", "shame", "sheep", "shopping", "sleep", "smoke", "smoking", "snow", "soap",
   "software", "soil", "spaghetti", "species", "steam", "stuff", "stupidity", "sunshine",
   "symmetry", "tennis", "thirst", "thunder", "timber", "traffic", "transportation", "trust",
   "underwear", "unemployment", "unity", "validity", "veal", "vegetation", "vegetarianism",
   "vengeance", "violence", "vitality", "warmth", "wealth", "weather", "welfare", "wheat",
   "wildlife", "wisdom", "yoga", "zinc", "zoology"]

/-- The result of the last rule that matches. -/
def byRules? (rules : List Rule) (cs : List Char) : Option (List Char) :=
  rules.reverse.findSome? (·.inflected? cs)

/-- The plural of a word. -/
def plural (s : String) : String :=
  if uncountable.contains s then s
  else
    match irregular.lookup s with
    | some p => p
    | none =>
      match byRules? pluralRules s.toList with
      | some cs => String.ofList cs
      | none => s ++ "s"

/-- The singular of a word. -/
def singular (s : String) : String :=
  if uncountable.contains s then s
  else
    match (("box", "boxes") :: irregular).find? (·.2 = s) with
    | some (single, _) => single
    | none =>
      match byRules? singularRules s.toList with
      | some cs => String.ofList cs
      | none => s

end Docket.Inflection
