import MappedCoverage.Yaml.Token

/-!
# Nodes

A document of a text is a tree of nodes: scalars, sequences, mappings, and aliases of nodes that are
anchored elsewhere. A node may have a tag, which is written by a handle and expanded by directives.
-/

namespace MappedCoverage.Yaml

/-- What stands in front of a node. -/
structure Properties where
  anchor : Option (List Char)
  tag : Option (List Char)

/-- No properties. -/
def Properties.none : Properties := ⟨Option.none, Option.none⟩

/-- A node. -/
inductive Node where
  | alias (name : List Char)
  | scalar (properties : Properties) (text : List Char) (isPlain : Bool)
  | sequence (properties : Properties) (items : List Node)
  | mapping (properties : Properties) (entries : List (Node × Node))

namespace Node

/-- A node that is not written. -/
def empty : Node := .scalar .none [] true

/-- The handles of tags and what they stand for. -/
abbrev Handles := List (List Char × List Char)

/-- The handles that need no directive. -/
def standardHandles : Handles :=
  [(['!'], ['!']), (['!', '!'], "tag:yaml.org,2002:".toList)]

/-- The tag that a handle and a suffix write. -/
def expandTag? (handles : Handles) (handle suffix : List Char) : Option (List Char) :=
  if handle.isEmpty then some suffix
  else (handles.lookup handle).map fun expansion => expansion ++ suffix

/-- Reads the properties of a node: an anchor and a tag in any order, each at most once. -/
def readProperties? (handles : Handles) : List Token → Option (Properties × List Token)
  | .anchor name :: .tag handle suffix :: rest => do
      let tag ← expandTag? handles handle suffix
      return (⟨some name, some tag⟩, rest)
  | .tag handle suffix :: .anchor name :: rest => do
      let tag ← expandTag? handles handle suffix
      return (⟨some name, some tag⟩, rest)
  | .anchor name :: rest => some (⟨some name, Option.none⟩, rest)
  | .tag handle suffix :: rest => do
      let tag ← expandTag? handles handle suffix
      return (⟨Option.none, some tag⟩, rest)
  | rest => some (.none, rest)

/-- Whether a node has properties. -/
def hasProperties (properties : Properties) : Bool :=
  properties.anchor.isSome || properties.tag.isSome

mutual

/-- Reads a node. Block collections are read only where `isBlock` holds, and a sequence at the
indentation of its key only where `isValue` does; `fuel` bounds the steps. -/
def read? (handles : Handles) :
    Nat → (isBlock isValue : Bool) → List Token → Option (Node × List Token)
  | 0, _, _, _ => Option.none
  | fuel + 1, isBlock, isValue, tokens =>
      match tokens with
      | .alias name :: rest => some (.alias name, rest)
      | _ => do
          let (properties, rest) ← readProperties? handles tokens
          match rest with
          | .scalar text isPlain :: rest => return (.scalar properties text isPlain, rest)
          | .flowSequenceStart :: rest =>
              let (items, rest) ← readFlowItems? handles fuel true [] rest
              return (.sequence properties items, rest)
          | .flowMappingStart :: rest =>
              let (entries, rest) ← readFlowEntries? handles fuel true [] rest
              return (.mapping properties entries, rest)
          | .blockEntry :: _ =>
              if isValue then do
                let (items, rest) ← readValueItems? handles fuel [] rest
                return (.sequence properties items, rest)
              else absent? properties rest
          | .blockSequenceStart :: inner =>
              if isBlock then do
                let (items, rest) ← readBlockItems? handles fuel [] inner
                return (.sequence properties items, rest)
              else absent? properties rest
          | .blockMappingStart :: inner =>
              if isBlock then do
                let (entries, rest) ← readBlockEntries? handles fuel [] inner
                return (.mapping properties entries, rest)
              else absent? properties rest
          | _ => absent? properties rest

/-- A node of which only properties are written. -/
def absent? (properties : Properties) (rest : List Token) : Option (Node × List Token) :=
  if hasProperties properties then some (.scalar properties [] true, rest) else Option.none

/-- Reads the items of a block sequence up to its end. -/
def readBlockItems? (handles : Handles) :
    Nat → List Node → List Token → Option (List Node × List Token)
  | 0, _, _ => Option.none
  | fuel + 1, taken, .blockEntry :: rest =>
      match rest with
      | .blockEntry :: _ => readBlockItems? handles fuel (empty :: taken) rest
      | .blockEnd :: _ => readBlockItems? handles fuel (empty :: taken) rest
      | _ => do
          let (item, rest) ← read? handles fuel true false rest
          readBlockItems? handles fuel (item :: taken) rest
  | _ + 1, taken, .blockEnd :: rest => some (taken.reverse, rest)
  | _ + 1, _, _ => Option.none

/-- Reads the items of a sequence at the indentation of its key, as far as they go. -/
def readValueItems? (handles : Handles) :
    Nat → List Node → List Token → Option (List Node × List Token)
  | 0, _, _ => Option.none
  | fuel + 1, taken, .blockEntry :: rest =>
      match rest with
      | .blockEntry :: _ => readValueItems? handles fuel (empty :: taken) rest
      | .key :: _ => readValueItems? handles fuel (empty :: taken) rest
      | .value :: _ => readValueItems? handles fuel (empty :: taken) rest
      | .blockEnd :: _ => readValueItems? handles fuel (empty :: taken) rest
      | _ => do
          let (item, rest) ← read? handles fuel true false rest
          readValueItems? handles fuel (item :: taken) rest
  | _ + 1, taken, rest => some (taken.reverse, rest)

/-- Reads a key or a value of a block mapping after its indicator; it may be missing. -/
def readBlockPart? (handles : Handles) : Nat → List Token → Option (Node × List Token)
  | 0, _ => Option.none
  | fuel + 1, tokens =>
      match tokens with
      | .key :: _ => some (empty, tokens)
      | .value :: _ => some (empty, tokens)
      | .blockEnd :: _ => some (empty, tokens)
      | _ => read? handles fuel true true tokens

/-- Reads the entries of a block mapping up to its end. -/
def readBlockEntries? (handles : Handles) :
    Nat → List (Node × Node) → List Token → Option (List (Node × Node) × List Token)
  | 0, _, _ => Option.none
  | _ + 1, taken, .blockEnd :: rest => some (taken.reverse, rest)
  | fuel + 1, taken, tokens => do
      let (key, rest) ←
        match tokens with
        | .key :: rest => readBlockPart? handles fuel rest
        | .value :: _ => some (empty, tokens)
        | _ => Option.none
      let (value, rest) ←
        match rest with
        | .value :: rest => readBlockPart? handles fuel rest
        | _ => some (empty, rest)
      readBlockEntries? handles fuel ((key, value) :: taken) rest

/-- Reads the items of a flow sequence up to its end. An item that starts with a key is a mapping
of one entry. -/
def readFlowItems? (handles : Handles) :
    Nat → Bool → List Node → List Token → Option (List Node × List Token)
  | 0, _, _, _ => Option.none
  | _ + 1, _, taken, .flowSequenceEnd :: rest => some (taken.reverse, rest)
  | fuel + 1, first, taken, tokens => do
      let tokens ←
        match tokens with
        | .flowEntry :: rest => if first then some tokens else some rest
        | _ => if first then some tokens else Option.none
      match tokens with
      | .flowSequenceEnd :: rest => return (taken.reverse, rest)
      | .key :: rest => do
          let (entry, rest) ← readFlowPair? handles fuel rest
          readFlowItems? handles fuel false (.mapping .none [entry] :: taken) rest
      | _ => do
          let (item, rest) ← read? handles fuel false false tokens
          readFlowItems? handles fuel false (item :: taken) rest

/-- Reads the only entry of a mapping in a flow sequence, after the indicator of its key. Where the
key is missing, the token in its place is passed over. -/
def readFlowPair? (handles : Handles) : Nat → List Token → Option ((Node × Node) × List Token)
  | 0, _ => Option.none
  | fuel + 1, tokens => do
      let (key, rest) ←
        match tokens with
        | .value :: rest => some (empty, rest)
        | .flowEntry :: rest => some (empty, rest)
        | .flowSequenceEnd :: rest => some (empty, rest)
        | _ => read? handles fuel false false tokens
      match rest with
      | .value :: rest =>
          match rest with
          | .flowEntry :: _ => return ((key, empty), rest)
          | .flowSequenceEnd :: _ => return ((key, empty), rest)
          | _ => do
              let (value, rest) ← read? handles fuel false false rest
              return ((key, value), rest)
      | _ => return ((key, empty), rest)

/-- Reads the entries of a flow mapping up to its end. A node without an indicator in front of it is
a key without a value. -/
def readFlowEntries? (handles : Handles) :
    Nat → Bool → List (Node × Node) → List Token → Option (List (Node × Node) × List Token)
  | 0, _, _, _ => Option.none
  | _ + 1, _, taken, .flowMappingEnd :: rest => some (taken.reverse, rest)
  | fuel + 1, first, taken, tokens => do
      let tokens ←
        match tokens with
        | .flowEntry :: rest => if first then some tokens else some rest
        | _ => if first then some tokens else Option.none
      match tokens with
      | .flowMappingEnd :: rest => return (taken.reverse, rest)
      | .key :: rest => do
          let (key, rest) ← readFlowPart? handles fuel rest
          let (value, rest) ←
            match rest with
            | .value :: rest => readFlowValue? handles fuel rest
            | _ => some (empty, rest)
          readFlowEntries? handles fuel false ((key, value) :: taken) rest
      | _ => do
          let (key, rest) ← read? handles fuel false false tokens
          readFlowEntries? handles fuel false ((key, empty) :: taken) rest

/-- Reads a key of a flow mapping after its indicator; it may be missing. -/
def readFlowPart? (handles : Handles) : Nat → List Token → Option (Node × List Token)
  | 0, _ => Option.none
  | fuel + 1, tokens =>
      match tokens with
      | .value :: _ => some (empty, tokens)
      | .flowEntry :: _ => some (empty, tokens)
      | .flowMappingEnd :: _ => some (empty, tokens)
      | _ => read? handles fuel false false tokens

/-- Reads a value of a flow mapping after its indicator; it may be missing. -/
def readFlowValue? (handles : Handles) : Nat → List Token → Option (Node × List Token)
  | 0, _ => Option.none
  | fuel + 1, tokens =>
      match tokens with
      | .flowEntry :: _ => some (empty, tokens)
      | .flowMappingEnd :: _ => some (empty, tokens)
      | _ => read? handles fuel false false tokens

end

/-- The directives in front of a document. -/
structure Directives where
  hasVersion : Bool
  handles : Handles

/-- Whether a version can be read. -/
def isKnownVersion (major minor : Nat) : Bool :=
  major = 1 && (minor = 1 || minor = 2)

/-- Reads the directives in front of a document; each is given at most once. -/
def readDirectives? : Directives → List Token → Option (Directives × List Token)
  | directives, .versionDirective major minor :: rest =>
      if directives.hasVersion || !isKnownVersion major minor then Option.none
      else readDirectives? { directives with hasVersion := true } rest
  | directives, .tagDirective handle expansion :: rest =>
      if (directives.handles.lookup handle).isSome then Option.none
      else
        readDirectives? { directives with handles := directives.handles ++ [(handle, expansion)] } rest
  | directives, rest => some (directives, rest)

/-- Reads the content of a document; nothing at all is an empty node. -/
def readContent? (handles : Handles) (tokens : List Token) : Option (Node × List Token) :=
  match tokens with
  | .versionDirective .. :: _ => some (empty, tokens)
  | .tagDirective .. :: _ => some (empty, tokens)
  | .documentStart :: _ => some (empty, tokens)
  | .documentEnd :: _ => some (empty, tokens)
  | .streamEnd :: _ => some (empty, tokens)
  | _ => read? handles (4 * tokens.length + 4) true false tokens

/-- Reads a document after its directives and its marker. -/
def readMarked? (tokens : List Token) : Option (Node × List Token) := do
  let (directives, rest) ← readDirectives? ⟨false, []⟩ tokens
  match rest with
  | .documentStart :: rest => readContent? (directives.handles ++ standardHandles) rest
  | _ => Option.none

/-- Whether tokens start with a directive or a marker. -/
def isMarked : List Token → Bool
  | .versionDirective .. :: _ => true
  | .tagDirective .. :: _ => true
  | .documentStart :: _ => true
  | _ => false

/-- The one document of a text, if it has any; a second document is refused. -/
def ofTokens? (tokens : List Token) : Option (Option Node) :=
  match tokens with
  | [.streamEnd] => some Option.none
  | _ => do
      let (node, rest) ←
        if isMarked tokens then readMarked? tokens
        else read? standardHandles (4 * tokens.length + 4) true false tokens
      match rest.dropWhile (· = .documentEnd) with
      | [.streamEnd] => return some node
      | _ => Option.none

end Node

end MappedCoverage.Yaml
