import TripletFacts.Yaml.Lexer

/-!
# Nodes of documents

A document is a tree of scalars, sequences and mappings. It is read from its tokens; an anchor
names a node, and an alias stands for the last node that was named so. A text holds at most one
document.

## Main definitions

* `Yaml.Node`: trees.
* `Yaml.Node.ofText?`: the tree that a text denotes, if it denotes one.
-/

namespace TripletFacts.Yaml

/-- Trees of scalars, sequences and mappings. -/
inductive Node where
  | scalar (tag : Option String) (style : Style) (text : String)
  | sequence (items : List Node)
  | mapping (entries : List (Node × Node))

namespace Node

/-- What stands where nothing is written. -/
def empty : Node := .scalar none .plain ""

/-! ### Names -/

/-- The nodes that anchors name, the latest first, and what the handles of tags stand for. -/
structure Names where
  anchors : List (List Char × Node)
  handles : List (List Char × List Char)

/-- What the handles of tags stand for where nothing is said about them. -/
def standardHandles : List (List Char × List Char) :=
  [(['!'], ['!']), (['!', '!'], "tag:yaml.org,2002:".toList)]

/-- The node with a name for it, if there is one. -/
def Names.record (names : Names) (anchor : Option (List Char)) (node : Node) : Names :=
  match anchor with
  | some a => { names with anchors := (a, node) :: names.anchors }
  | none => names

/-- The tag of a handle and a suffix; the handle has to be known. -/
def Names.resolve (names : Names) (handle suffix : List Char) : Option (List Char) :=
  if handle.isEmpty then some suffix else (names.handles.lookup handle).map (· ++ suffix)

/-- The anchor and the tag before a node. -/
structure Properties where
  anchor : Option (List Char)
  tag : Option (List Char)

/-- The anchor and the tag at the beginning of some tokens, in either order, and the rest. -/
def readProperties (names : Names) : List Token → Option (Properties × List Token)
  | .anchor a :: .tag h s :: ts => (names.resolve h s).map fun t => (⟨some a, some t⟩, ts)
  | .tag h s :: .anchor a :: ts => (names.resolve h s).map fun t => (⟨some a, some t⟩, ts)
  | .anchor a :: ts => some (⟨some a, none⟩, ts)
  | .tag h s :: ts => (names.resolve h s).map fun t => (⟨none, some t⟩, ts)
  | ts => some (⟨none, none⟩, ts)

/-! ### Trees -/

/-- What reading from tokens gives: a value, the names, and the tokens that remain. -/
abbrev Step (α : Type) := Option (α × Names × List Token)

/-- A node that is not written. It has to have an anchor or a tag. -/
def missing (names : Names) (properties : Properties) (ts : List Token) : Step Node :=
  if properties.anchor.isSome || properties.tag.isSome then
    some (.scalar (properties.tag.map String.ofList) .plain "", names, ts)
  else none

/-- The tokens after a comma that separates the parts of a flow collection; the first part has
none. -/
def afterComma (first : Bool) (ts : List Token) : Option (List Token) :=
  if first then some ts
  else
    match ts with
    | .flowEntry :: ts => some ts
    | _ => none

mutual

/-- A node. `block` says that block collections are allowed, and `loose` that a block sequence
without an indentation of its own is. The number bounds the nesting and the lengths of
collections. -/
def read (block loose : Bool) : Nat → Names → List Token → Step Node
  | 0, _, _ => none
  | n + 1, names, ts =>
    match ts with
    | .alias a :: ts => (names.anchors.lookup a).map fun node => (node, names, ts)
    | ts =>
      match readProperties names ts with
      | none => none
      | some (properties, ts) =>
        (readContent block loose n names properties ts).map fun (node, names, ts) =>
          (node, names.record properties.anchor node, ts)

/-- A node after its anchor and tag. -/
def readContent (block loose : Bool) : Nat → Names → Properties → List Token → Step Node
  | 0, _, _, _ => none
  | n + 1, names, properties, ts =>
    match ts with
    | .scalar style text :: ts =>
      let tag := (properties.tag.map String.ofList).filter (· ≠ "!")
      some (.scalar tag style (String.ofList text), names, ts)
    | .flowSequence :: ts =>
      (readFlowItems n true names ts).map fun (items, rest) => (.sequence items, rest)
    | .flowMapping :: ts =>
      (readFlowEntries n true names ts).map fun (entries, rest) => (.mapping entries, rest)
    | .blockEntry :: rest =>
      if loose then
        (readLooseItems n names (.blockEntry :: rest)).map fun (items, rest) =>
          (.sequence items, rest)
      else missing names properties (.blockEntry :: rest)
    | .blockSequence :: rest =>
      if block then
        (readBlockItems n names rest).map fun (items, rest) => (.sequence items, rest)
      else missing names properties (.blockSequence :: rest)
    | .blockMapping :: rest =>
      if block then
        (readBlockEntries n names rest).map fun (entries, rest) => (.mapping entries, rest)
      else missing names properties (.blockMapping :: rest)
    | ts => missing names properties ts

/-- A node, or the empty node before one of some tokens. -/
def readUnless (stops : List Token) (block loose : Bool) : Nat → Names → List Token → Step Node
  | 0, _, _ => none
  | _ + 1, _, [] => none
  | n + 1, names, t :: ts =>
    if stops.contains t then some (empty, names, t :: ts) else read block loose n names (t :: ts)

/-- The items of a block sequence up to its end. -/
def readBlockItems : Nat → Names → List Token → Step (List Node)
  | 0, _, _ => none
  | n + 1, names, ts =>
    match ts with
    | .blockEntry :: ts =>
      match readUnless [.blockEntry, .blockEnd] true false n names ts with
      | none => none
      | some (item, names, ts) =>
        (readBlockItems n names ts).map fun (items, rest) => (item :: items, rest)
    | .blockEnd :: ts => some ([], names, ts)
    | _ => none

/-- The items of a block sequence that has the indentation of the mapping around it. -/
def readLooseItems : Nat → Names → List Token → Step (List Node)
  | 0, _, _ => none
  | n + 1, names, ts =>
    match ts with
    | .blockEntry :: ts =>
      match readUnless [.blockEntry, .key, .value, .blockEnd] true false n names ts with
      | none => none
      | some (item, names, ts) =>
        (readLooseItems n names ts).map fun (items, rest) => (item :: items, rest)
    | ts => some ([], names, ts)

/-- The entries of a block mapping up to its end. -/
def readBlockEntries : Nat → Names → List Token → Step (List (Node × Node))
  | 0, _, _ => none
  | n + 1, names, ts =>
    match ts with
    | .key :: ts =>
      match readUnless [.key, .value, .blockEnd] true true n names ts with
      | none => none
      | some (key, names, ts) =>
        match readValue [.key, .value, .blockEnd] true n names ts with
        | none => none
        | some (value, names, ts) =>
          (readBlockEntries n names ts).map fun (entries, rest) => ((key, value) :: entries, rest)
    | .blockEnd :: ts => some ([], names, ts)
    | _ => none

/-- The value after a key; it is empty if there is no mark for it. -/
def readValue (stops : List Token) (block : Bool) : Nat → Names → List Token → Step Node
  | 0, _, _ => none
  | n + 1, names, ts =>
    match ts with
    | .value :: ts => readUnless stops block block n names ts
    | ts => some (empty, names, ts)

/-- The items of a flow sequence up to its end. A key among them begins a mapping of one entry;
where no key follows its mark, the next token is passed over. -/
def readFlowItems : Nat → Bool → Names → List Token → Step (List Node)
  | 0, _, _, _ => none
  | n + 1, first, names, ts =>
    match ts with
    | .flowSequenceEnd :: ts => some ([], names, ts)
    | ts =>
      match afterComma first ts with
      | none => none
      | some (.flowSequenceEnd :: ts) => some ([], names, ts)
      | some (.key :: ts) =>
        match readUnless [.value, .flowEntry, .flowSequenceEnd] false false n names ts with
        | none => none
        | some (key, names, rest) =>
          let rest := if rest.length = ts.length then rest.drop 1 else rest
          match readValue [.flowEntry, .flowSequenceEnd] false n names rest with
          | none => none
          | some (value, names, ts) =>
            (readFlowItems n false names ts).map fun (items, rest) =>
              (.mapping [(key, value)] :: items, rest)
      | some ts =>
        match read false false n names ts with
        | none => none
        | some (item, names, ts) =>
          (readFlowItems n false names ts).map fun (items, rest) => (item :: items, rest)

/-- The entries of a flow mapping up to its end. A node without the mark of a key has no value. -/
def readFlowEntries : Nat → Bool → Names → List Token → Step (List (Node × Node))
  | 0, _, _, _ => none
  | n + 1, first, names, ts =>
    match ts with
    | .flowMappingEnd :: ts => some ([], names, ts)
    | ts =>
      match afterComma first ts with
      | none => none
      | some (.flowMappingEnd :: ts) => some ([], names, ts)
      | some (.key :: ts) =>
        match readUnless [.value, .flowEntry, .flowMappingEnd] false false n names ts with
        | none => none
        | some (key, names, ts) =>
          match readValue [.flowEntry, .flowMappingEnd] false n names ts with
          | none => none
          | some (value, names, ts) =>
            (readFlowEntries n false names ts).map fun (entries, rest) =>
              ((key, value) :: entries, rest)
      | some ts =>
        match read false false n names ts with
        | none => none
        | some (key, names, ts) =>
          (readFlowEntries n false names ts).map fun (entries, rest) =>
            ((key, empty) :: entries, rest)

end

/-! ### Documents -/

/-- The handles that the directives at the beginning of some tokens define, and the rest. A version
may be given once and has to be 1.1 or 1.2, and no handle may be defined twice. -/
def readDirectives (versioned : Bool) (handles : List (List Char × List Char)) :
    List Token → Option (List (List Char × List Char) × List Token)
  | .version major minor :: ts =>
    if versioned || major ≠ 1 || !(minor == 1 || minor == 2) then none
    else readDirectives true handles ts
  | .handle name text :: ts =>
    if (handles.lookup name).isSome then none
    else readDirectives versioned ((name, text) :: handles) ts
  | ts => some (handles, ts)

/-- Whether a token can only stand between documents. -/
def isBetweenDocuments : Token → Bool
  | .version .. | .handle .. | .documentStart | .documentEnd | .streamEnd => true
  | _ => false

/-- The document whose root begins with the given tokens, up to the end of the text. -/
def readRoot (handles : List (List Char × List Char)) (ts : List Token) : Option Node :=
  match read true false (4 * ts.length + 4) ⟨[], handles ++ standardHandles⟩ ts with
  | some (node, _, rest) =>
    if rest.dropWhile (· == .documentEnd) = [.streamEnd] then some node else none
  | none => none

/-- The only document of some tokens; without any document the root is empty. -/
def ofTokens? (ts : List Token) : Option Node :=
  match ts with
  | [.streamEnd] => some empty
  | t :: _ =>
    if isBetweenDocuments t && t ≠ .documentEnd then
      match readDirectives false [] ts with
      | some (handles, .documentStart :: ts) =>
        if ts.head?.all isBetweenDocuments then
          if ts.dropWhile (· == .documentEnd) = [.streamEnd] then some empty else none
        else readRoot handles ts
      | _ => none
    else readRoot [] ts
  | [] => none

/-- The only document of a text. -/
def ofText? (text : List Char) : Option Node := (tokens? text).bind ofTokens?

end Node

end TripletFacts.Yaml
