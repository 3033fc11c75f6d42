import Docket.Yaml.Token

/-!
# Documents as trees

## Trees as written

`Written` is the tree of a document with its anchors and aliases. The readers follow the grammar of
tokens; each takes one unit of fuel per token.

## Trees of nodes

`Node` is the tree in which every alias has been replaced by the node it stands for. An anchor is
numbered by how many different anchor names came before it; an alias stands for the last node with
the number that its name has at that point. Nesting and the number of replacements are bounded.

## Documents

`Document.read` reads a text that holds at most one document.
-/

namespace Docket.Yaml

/-! ## Trees as written -/

/-- What may stand in front of a node. -/
structure Properties where
  anchor : Option (List Char)
  tag : Option (List Char)

/-- A node as written. -/
inductive Written where
  | alias (mark : Mark) (name : List Char)
  | scalar (mark : Mark) (props : Properties) (style : Style) (text : List Char)
  | sequence (mark : Mark) (props : Properties) (items : List Written)
  | mapping (mark : Mark) (props : Properties) (entries : List (Written × Written))

namespace Written

/-- Tag handles with what they stand for. -/
abbrev Handles := List (List Char × List Char)

/-- A tag in full; a handle that has not been declared is malformed. -/
def fullTag? (handles : Handles) (handle suffix : List Char) : Option (List Char) :=
  if handle.isEmpty then some suffix
  else (handles.lookup handle).map (· ++ suffix)

/-- No properties. -/
def bare : Properties := ⟨none, none⟩

/-- An empty plain scalar. -/
def nothing (mark : Mark) : Written := .scalar mark bare .plain []

/-- An anchor and a tag in either order, with the place where the node starts and the tokens behind
them. -/
def properties? (handles : Handles) : List Token → Option (Properties × Option Mark × List Token)
  | ⟨.anchor name, start, _⟩ :: ⟨.tag h s, _, _⟩ :: rest =>
    (fullTag? handles h s).map fun tag => (⟨some name, some tag⟩, some start, rest)
  | ⟨.tag h s, start, _⟩ :: ⟨.anchor name, _, _⟩ :: rest =>
    (fullTag? handles h s).map fun tag => (⟨some name, some tag⟩, some start, rest)
  | ⟨.anchor name, start, _⟩ :: rest => some (⟨some name, none⟩, some start, rest)
  | ⟨.tag h s, start, _⟩ :: rest =>
    (fullTag? handles h s).map fun tag => (⟨none, some tag⟩, some start, rest)
  | rest => some (bare, none, rest)

/-- The properties of a scalar: the tag that says nothing is dropped. -/
def scalarProperties (props : Properties) : Properties :=
  if props.tag = some ['!'] then { props with tag := none } else props

/-- Whether the first token is one of some kinds. -/
def startsWith (kinds : List TokenKind) : List Token → Bool
  | t :: _ => kinds.contains t.kind
  | [] => false

mutual

/-- A node. `inBlock` allows block collections; `indentless` allows a sequence whose entries are not
indented. -/
def node (handles : Handles) (inBlock indentless : Bool) :
    (fuel : Nat) → List Token → Option (Written × List Token)
  | 0, _ => none
  | fuel + 1, tokens =>
    match tokens with
    | ⟨.alias name, start, _⟩ :: rest => some (.alias start name, rest)
    | _ =>
      match properties? handles tokens with
      | none => none
      | some (props, propsStart, tokens) =>
        match tokens with
        | [] => none
        | t :: rest =>
          let start := propsStart.getD t.start
          match t.kind with
          | .scalar style text => some (.scalar start (scalarProperties props) style text, rest)
          | .flowSequence =>
            (flowItems handles true fuel rest).map fun (items, rest) =>
              (.sequence start props items, rest)
          | .flowMapping =>
            (flowEntries handles true fuel rest).map fun (entries, rest) =>
              (.mapping start props entries, rest)
          | kind =>
            if indentless && kind = .blockEntry then
              (indentlessItems handles fuel tokens).map fun (items, rest) =>
                (.sequence start props items, rest)
            else if inBlock && kind = .blockSequence then
              (blockItems handles fuel rest).map fun (items, rest) =>
                (.sequence start props items, rest)
            else if inBlock && kind = .blockMapping then
              (blockEntries handles fuel rest).map fun (entries, rest) =>
                (.mapping start props entries, rest)
            else if props.anchor.isSome || props.tag.isSome then
              some (.scalar start props .plain [], tokens)
            else none

/-- The items of a block sequence. -/
def blockItems (handles : Handles) :
    (fuel : Nat) → List Token → Option (List Written × List Token)
  | 0, _ => none
  | fuel + 1, tokens =>
    match tokens with
    | ⟨.blockEnd, _, _⟩ :: rest => some ([], rest)
    | ⟨.blockEntry, _, stop⟩ :: rest =>
      let item :=
        if startsWith [.blockEntry, .blockEnd] rest then some (nothing stop, rest)
        else node handles true false fuel rest
      match item with
      | none => none
      | some (item, rest) =>
        (blockItems handles fuel rest).map fun (items, rest) => (item :: items, rest)
    | _ => none

/-- The items of a block sequence whose entries are not indented. -/
def indentlessItems (handles : Handles) :
    (fuel : Nat) → List Token → Option (List Written × List Token)
  | 0, _ => none
  | fuel + 1, tokens =>
    match tokens with
    | ⟨.blockEntry, _, stop⟩ :: rest =>
      let item :=
        if startsWith [.blockEntry, .key, .value, .blockEnd] rest then some (nothing stop, rest)
        else node handles true false fuel rest
      match item with
      | none => none
      | some (item, rest) =>
        (indentlessItems handles fuel rest).map fun (items, rest) => (item :: items, rest)
    | _ => some ([], tokens)

/-- The entries of a block mapping. -/
def blockEntries (handles : Handles) :
    (fuel : Nat) → List Token → Option (List (Written × Written) × List Token)
  | 0, _ => none
  | fuel + 1, tokens =>
    match tokens with
    | ⟨.blockEnd, _, _⟩ :: rest => some ([], rest)
    | ⟨.key, _, stop⟩ :: rest =>
      let key :=
        if startsWith [.key, .value, .blockEnd] rest then some (nothing stop, rest)
        else node handles true true fuel rest
      match key with
      | none => none
      | some (key, rest) =>
        let value := match rest with
          | ⟨.value, _, stop⟩ :: rest =>
            if startsWith [.key, .value, .blockEnd] rest then some (nothing stop, rest)
            else node handles true true fuel rest
          | t :: _ => some (nothing t.start, rest)
          | [] => none
        match value with
        | none => none
        | some (value, rest) =>
          (blockEntries handles fuel rest).map fun (entries, rest) =>
            ((key, value) :: entries, rest)
    | _ => none

/-- The items of a sequence in brackets. An item starting with a key is a mapping of one entry. -/
def flowItems (handles : Handles) (isFirst : Bool) :
    (fuel : Nat) → List Token → Option (List Written × List Token)
  | 0, _ => none
  | fuel + 1, tokens =>
    match tokens with
    | ⟨.flowSequenceEnd, _, _⟩ :: rest => some ([], rest)
    | _ =>
      let entry := match isFirst, tokens with
        | true, _ => some tokens
        | false, ⟨.flowEntry, _, _⟩ :: rest => some rest
        | false, _ => none
      match entry with
      | none => none
      | some (⟨.flowSequenceEnd, _, _⟩ :: rest) => some ([], rest)
      | some tokens =>
        let item := match tokens with
          | ⟨.key, start, _⟩ :: rest =>
            (singleEntry handles fuel rest).map fun (entry, rest) =>
              (.mapping start bare [entry], rest)
          | _ => node handles false false fuel tokens
        match item with
        | none => none
        | some (item, rest) =>
          (flowItems handles false fuel rest).map fun (items, rest) => (item :: items, rest)

/-- The one entry of a mapping that is an item in brackets. A missing key uses up the token that
stands in its place. -/
def singleEntry (handles : Handles) :
    (fuel : Nat) → List Token → Option ((Written × Written) × List Token)
  | 0, _ => none
  | fuel + 1, tokens =>
    let key :=
      if startsWith [.value, .flowEntry, .flowSequenceEnd] tokens then
        match tokens with
        | t :: rest => some (nothing t.stop, rest)
        | [] => none
      else node handles false false fuel tokens
    match key with
    | none => none
    | some (key, rest) =>
      let value := match rest with
        | ⟨.value, _, _⟩ :: rest =>
          if startsWith [.flowEntry, .flowSequenceEnd] rest then
            rest.head?.map fun (t : Token) => (nothing t.start, rest)
          else node handles false false fuel rest
        | t :: _ => some (nothing t.start, rest)
        | [] => none
      value.map fun (value, rest) => ((key, value), rest)

/-- The entries of a mapping in braces. -/
def flowEntries (handles : Handles) (isFirst : Bool) :
    (fuel : Nat) → List Token → Option (List (Written × Written) × List Token)
  | 0, _ => none
  | fuel + 1, tokens =>
    match tokens with
    | ⟨.flowMappingEnd, _, _⟩ :: rest => some ([], rest)
    | _ =>
      let entry := match isFirst, tokens with
        | true, _ => some tokens
        | false, ⟨.flowEntry, _, _⟩ :: rest => some rest
        | false, _ => none
      match entry with
      | none => none
      | some (⟨.flowMappingEnd, _, _⟩ :: rest) => some ([], rest)
      | some tokens =>
        let entry := match tokens with
          | ⟨.key, _, _⟩ :: rest =>
            let key :=
              if startsWith [.value, .flowEntry, .flowMappingEnd] rest then
                rest.head?.map fun (t : Token) => (nothing t.start, rest)
              else node handles false false fuel rest
            match key with
            | none => none
            | some (key, rest) =>
              let value := match rest with
                | ⟨.value, _, _⟩ :: rest =>
                  if startsWith [.flowEntry, .flowMappingEnd] rest then
                    rest.head?.map fun (t : Token) => (nothing t.start, rest)
                  else node handles false false fuel rest
                | t :: _ => some (nothing t.start, rest)
                | [] => none
              value.map fun (value, rest) => ((key, value), rest)
          | _ =>
            match node handles false false fuel tokens with
            | none => none
            | some (key, rest) =>
              rest.head?.map fun (t : Token) => ((key, nothing t.start), rest)
        match entry with
        | none => none
        | some (entry, rest) =>
          (flowEntries handles false fuel rest).map fun (entries, rest) =>
            (entry :: entries, rest)

end

end Written

/-! ## Trees of nodes -/

/-- A node without aliases. -/
inductive Node where
  | scalar (mark : Mark) (tag : Option (List Char)) (style : Style) (text : List Char)
  | sequence (mark : Mark) (tag : Option (List Char)) (items : List Node)
  | mapping (mark : Mark) (tag : Option (List Char)) (entries : List (Node × Node))

/-- The place where a node starts. -/
def Node.mark : Node → Mark
  | scalar m _ _ _ | sequence m _ _ | mapping m _ _ => m

/-- The tag of a node. -/
def Node.tag : Node → Option (List Char)
  | scalar _ t _ _ | sequence _ t _ | mapping _ t _ => t

/-- A node whose aliases are numbers of anchors. -/
inductive Numbered where
  | alias (number : Nat)
  | scalar (mark : Mark) (tag : Option (List Char)) (style : Style) (text : List Char)
  | sequence (mark : Mark) (tag : Option (List Char)) (items : List Numbered)
  | mapping (mark : Mark) (tag : Option (List Char)) (entries : List (Numbered × Numbered))

namespace Numbered

/-- Anchors met so far. -/
structure Anchors where
  /-- The number of each name. -/
  numbers : List (List Char × Nat)
  /-- Where each number was given last, counted in the events that announce nodes and their ends. -/
  places : List (Nat × Nat)
  /-- How many events came before. -/
  events : Nat

/-- Counts an event. -/
def Anchors.count (a : Anchors) : Anchors := { a with events := a.events + 1 }

/-- Notes an anchor: its number is how many different names there are already. -/
def Anchors.note (name : Option (List Char)) (a : Anchors) : Anchors :=
  match name with
  | none => a
  | some name =>
    let number := a.numbers.length
    { a with
      numbers := (name, number) :: a.numbers.filter fun (other, _) => other ≠ name
      places := (number, a.events) :: a.places }

/-- A node with an anchor and its place. -/
def anchored (props : Properties) (place : Nat) (n : Numbered) : List (Nat × Numbered) :=
  if props.anchor.isSome then [(place, n)] else []

mutual

/-- Numbers the aliases of a node and notes its anchors. The nodes with anchors come with the count
of events before them. -/
def ofWritten : Written → Anchors → Option (Numbered × List (Nat × Numbered) × Anchors)
  | .alias _ name, a =>
    (a.numbers.lookup name).map fun number => (.alias number, [], a.count)
  | .scalar mark props style text, a =>
    let n : Numbered := .scalar mark props.tag style text
    some (n, anchored props a.events n, (a.note props.anchor).count)
  | .sequence mark props items, a =>
    (ofItems items (a.note props.anchor).count).map fun (items, below, b) =>
      let n : Numbered := .sequence mark props.tag items
      (n, anchored props a.events n ++ below, b.count)
  | .mapping mark props entries, a =>
    (ofEntries entries (a.note props.anchor).count).map fun (entries, below, b) =>
      let n : Numbered := .mapping mark props.tag entries
      (n, anchored props a.events n ++ below, b.count)

/-- Numbers the aliases of items in order. -/
def ofItems : List Written → Anchors → Option (List Numbered × List (Nat × Numbered) × Anchors)
  | [], a => some ([], [], a)
  | w :: rest, a =>
    match ofWritten w a with
    | none => none
    | some (n, below, a) =>
      (ofItems rest a).map fun (ns, more, a) => (n :: ns, below ++ more, a)

/-- Numbers the aliases of entries in order. -/
def ofEntries : List (Written × Written) → Anchors →
    Option (List (Numbered × Numbered) × List (Nat × Numbered) × Anchors)
  | [], a => some ([], [], a)
  | (k, v) :: rest, a =>
    match ofWritten k a with
    | none => none
    | some (key, below, a) =>
      match ofWritten v a with
      | none => none
      | some (value, below', a) =>
        (ofEntries rest a).map fun (es, more, a) =>
          ((key, value) :: es, below ++ below' ++ more, a)

end

/-- Replaces aliases. `depth` bounds the nesting; the state counts the replacements that are still
allowed. -/
def expand (target? : Nat → Option Numbered) : (depth : Nat) → Numbered → StateT Nat Option Node
  | depth, n => do
    let n ← match n with
      | .alias number =>
        match ← get, target? number with
        | allowed + 1, some target => do
          set allowed
          pure target
        | _, _ => failure
      | n => pure n
    match depth, n with
    | _, .scalar mark tag style text => pure (.scalar mark tag style text)
    | depth + 1, .sequence mark tag items => do
      pure (.sequence mark tag (← items.mapM (expand target? depth)))
    | depth + 1, .mapping mark tag entries => do
      let entries ← entries.mapM fun (k, v) => do
        pure (← expand target? depth k, ← expand target? depth v)
      pure (.mapping mark tag entries)
    | _, _ => failure

end Numbered

/-- The nesting that a document may have. -/
def maxDepth : Nat := 127

/-- How many replacements of aliases each event of a document allows. -/
def aliasesPerEvent : Nat := 100

/-- The node without aliases that a node as written stands for. -/
def Node.ofWritten? (w : Written) : Option Node :=
  (Numbered.ofWritten w ⟨[], [], 0⟩).bind fun (n, nodes, anchors) =>
    let target? (number : Nat) : Option Numbered :=
      (anchors.places.lookup number).bind (List.lookup · nodes)
    ((n.expand target? maxDepth).run (anchors.events * aliasesPerEvent)).map (·.1)

/-! ## Documents -/

/-- What a text holds: no document, with the place of its end, or the root of one. -/
inductive Document where
  | empty (mark : Mark)
  | root (node : Node)

namespace Document

/-- The handles that need no declaration. -/
def defaultHandles : Written.Handles :=
  [(['!'], ['!']), (['!', '!'], "tag:yaml.org,2002:".toList)]

/-- Directives in front of a document: at most one version, 1.1 or 1.2, and handles, each declared
once. -/
def directives (hasVersion : Bool) (handles : Written.Handles) :
    List Token → Option (Written.Handles × List Token)
  | ⟨.version major minor, _, _⟩ :: rest =>
    if hasVersion || major ≠ 1 || (minor ≠ 1 && minor ≠ 2) then none
    else directives true handles rest
  | ⟨.tagHandle handle expansion, _, _⟩ :: rest =>
    if (handles.lookup handle).isSome then none
    else directives hasVersion (handles ++ [(handle, expansion)]) rest
  | tokens => some (handles, tokens)

/-- Behind a document: end markers, then the end of the text. -/
def atEnd : List Token → Bool
  | ⟨.documentEnd, _, _⟩ :: rest => atEnd rest
  | ⟨.streamEnd, _, _⟩ :: _ => true
  | _ => false

/-- The root of a document that fills the rest of the text. -/
def content (handles : Written.Handles) (explicit : Bool) (tokens : List Token) :
    Option Written :=
  let isEmpty := Written.startsWith [.documentStart, .documentEnd, .streamEnd] tokens
    || (tokens.head?.any fun t => match t.kind with
      | .version _ _ | .tagHandle _ _ => true
      | _ => false)
  let parsed :=
    if explicit && isEmpty then tokens.head?.map fun t => (Written.nothing t.start, tokens)
    else Written.node handles true false (tokens.length + 1) tokens
  parsed.bind fun (node, rest) => if atEnd rest then some node else none

/-- The document of a text that holds at most one. -/
def read (text : String) : Option Document :=
  (Token.scan text).bind fun tokens =>
    match tokens with
    | [⟨.streamEnd, start, _⟩] => some (.empty start)
    | _ =>
      (directives false [] tokens).bind fun (handles, rest) =>
        let explicit := rest.length ≠ tokens.length || Written.startsWith [.documentStart] tokens
        let handles := handles ++ defaultHandles
        let written :=
          if explicit then
            match rest with
            | ⟨.documentStart, _, _⟩ :: rest => content handles true rest
            | _ => none
          else content handles false rest
        written.bind fun w => (Node.ofWritten? w).map .root

end Document

end Docket.Yaml
