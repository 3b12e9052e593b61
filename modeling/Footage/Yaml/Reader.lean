import Footage.Yaml.Scanner

/-!
# Reading YAML

A text holds one document, whose content is a tree of scalars, sequences and mappings. An alias
stands for the node that was given its name last.
-/

namespace Footage.Yaml

/-- A node of a document. A scalar keeps its tag and its style, on which its meaning depends. -/
inductive Node where
  | scalar (tag : Option (List Char)) (style : Style) (text : List Char)
  | sequence (items : List Node)
  | mapping (entries : List (Node × Node))
  deriving Inhabited

namespace Node

/-- The node that stands where nothing is written. -/
def blank : Node := .scalar none .plain []

/-- What is known while the nodes of a document are read: the tokens left, the nodes with names,
and the starts of tags by their handles. -/
structure State where
  tokens : List Token
  anchors : List (List Char × Node) := []
  handles : List (List Char × List Char)

/-- A step of the reading of nodes, which may fail. -/
abbrev Reader := StateT State Option

namespace Reader

/-- The next token. -/
def peek : Reader (Option Token) := do
  return (← get).tokens.head?

/-- Drops the next token. -/
def skip : Reader Unit :=
  modify fun s => { s with tokens := s.tokens.drop 1 }

/-- Drops the next token if it is the given one, and says whether it was. -/
def accept (token : Token) : Reader Bool := do
  if (← peek) = some token then
    skip
    return true
  else return false

/-- Drops the next token, which must be the given one. -/
def expect (token : Token) : Reader Unit := do
  if !(← accept token) then failure

/-- Whether the next token is one of some tokens. -/
def nextIn (tokens : List Token) : Reader Bool := do
  return (← peek).any (· ∈ tokens)

/-- The properties of a node: its anchor and its tag, in any order. -/
structure Properties where
  anchor : Option (List Char) := none
  tag : Option (List Char) := none

/-- The full form of a tag. -/
def fullTag (handle suffix : List Char) : Reader (List Char) := do
  if handle.isEmpty then return suffix
  else
    match (← get).handles.lookup handle with
    | some start => return start ++ suffix
    | none => failure

/-- Takes the anchor of a node, if it has one. -/
def takeAnchor : Reader (Option (List Char)) := do
  match ← peek with
  | some (.anchor name) =>
    skip
    return some name
  | _ => return none

/-- Takes the tag of a node, if it has one. -/
def takeTag : Reader (Option (List Char)) := do
  match ← peek with
  | some (.tag handle suffix) =>
    skip
    return some (← fullTag handle suffix)
  | _ => return none

/-- Takes the properties of a node. -/
def takeProperties : Reader Properties := do
  match ← takeAnchor with
  | some anchor => return { anchor := some anchor, tag := ← takeTag }
  | none =>
    let tag ← takeTag
    return { anchor := ← takeAnchor, tag }

/-- Gives a node its name. -/
def name (anchor : Option (List Char)) (node : Node) : Reader Node := do
  match anchor with
  | some anchor => modify fun s => { s with anchors := (anchor, node) :: s.anchors }
  | none => pure ()
  return node

/-- The node that an alias stands for. -/
def named (anchor : List Char) : Reader Node := do
  match (← get).anchors.lookup anchor with
  | some node => return node
  | none => failure

mutual

/-- Takes a node. In a block it may be a block collection, and after a key or a colon also a
sequence in the column of the key. The first argument bounds the depth of the recursion. -/
def takeNode : Nat → Bool → Bool → Reader Node
  | 0, _, _ => failure
  | fuel + 1, inBlock, afterKey => do
    if let some (.alias anchor) := ← peek then
      skip
      return ← named anchor
    let properties ← takeProperties
    let content ← takeContent fuel inBlock afterKey properties
    name properties.anchor content

/-- Takes the content of a node after its properties. -/
def takeContent : Nat → Bool → Bool → Properties → Reader Node
  | 0, _, _, _ => failure
  | fuel + 1, inBlock, afterKey, properties => do
    match ← peek with
    | some (.scalar style text) =>
      skip
      return .scalar properties.tag style text
    | some .flowSequenceStart =>
      skip
      return .sequence (← takeFlowItems fuel true)
    | some .flowMappingStart =>
      skip
      return .mapping (← takeFlowEntries fuel true)
    | token =>
      if afterKey && token == some .blockEntry then
        return .sequence (← takeItems fuel)
      else if inBlock && token == some .blockSequenceStart then
        skip
        let items ← takeItems fuel
        expect .blockEnd
        return .sequence items
      else if inBlock && token == some .blockMappingStart then
        skip
        return .mapping (← takeEntries fuel)
      else if properties.anchor.isSome || properties.tag.isSome then
        return .scalar properties.tag .plain []
      else failure

/-- Takes a node in a block, or nothing before one of some tokens or the end of the text. -/
def takeBlockNode : Nat → Bool → List Token → Reader Node
  | 0, _, _ => failure
  | fuel + 1, afterKey, ends => do
    if ← nextIn ends then return blank else takeNode fuel true afterKey

/-- Takes the items of a block sequence. -/
def takeItems : Nat → Reader (List Node)
  | 0 => failure
  | fuel + 1 => do
    if ← accept .blockEntry then
      let item ← takeBlockNode fuel false [.blockEntry, .key, .value, .blockEnd]
      return item :: (← takeItems fuel)
    else return []

/-- Takes the entries of a block mapping and its end. -/
def takeEntries : Nat → Reader (List (Node × Node))
  | 0 => failure
  | fuel + 1 => do
    if ← accept .blockEnd then return []
    else
      let ends : List Token := [.key, .value, .blockEnd]
      let key ← do
        if ← accept .key then takeBlockNode fuel true ends
        else failure
      let value ←
        if ← accept .value then takeBlockNode fuel true ends else pure blank
      return (key, value) :: (← takeEntries fuel)

/-- Takes a node in a flow collection, or nothing before one of some tokens. -/
def takeFlowNode : Nat → List Token → Reader Node
  | 0, _ => failure
  | fuel + 1, ends => do
    if ← nextIn ends then return blank else takeNode fuel false false

/-- Takes the items of a flow sequence and its end. An item may be a mapping of one entry. -/
def takeFlowItems : Nat → Bool → Reader (List Node)
  | 0, _ => failure
  | fuel + 1, isFirst => do
    if ← accept .flowSequenceEnd then return []
    if !isFirst then expect .flowEntry
    if ← accept .flowSequenceEnd then return []
    let item ← do
      if ← accept .key then
        let ends : List Token := [.value, .flowEntry, .flowSequenceEnd]
        let hasKey := !(← nextIn ends)
        let key ← takeFlowNode fuel ends
        if !hasKey then skip
        let value ←
          if ← accept .value then takeFlowNode fuel [.flowEntry, .flowSequenceEnd]
          else pure blank
        pure (Node.mapping [(key, value)])
      else takeNode fuel false false
    return item :: (← takeFlowItems fuel false)

/-- Takes the entries of a flow mapping and its end. -/
def takeFlowEntries : Nat → Bool → Reader (List (Node × Node))
  | 0, _ => failure
  | fuel + 1, isFirst => do
    if ← accept .flowMappingEnd then return []
    if !isFirst then expect .flowEntry
    if ← accept .flowMappingEnd then return []
    let entry ← do
      if ← accept .key then
        let key ← takeFlowNode fuel [.value, .flowEntry, .flowMappingEnd]
        let value ←
          if ← accept .value then takeFlowNode fuel [.flowEntry, .flowMappingEnd]
          else pure blank
        pure (key, value)
      else
        pure (← takeNode fuel false false, blank)
    return entry :: (← takeFlowEntries fuel false)

end

/-! ## Documents -/

/-- The handles that every document has, with the starts of their tags. -/
def standardHandles : List (List Char × List Char) :=
  [(['!'], ['!']), (['!', '!'], "tag:yaml.org,2002:".toList)]

/-- Whether a version can be read. -/
def isKnownVersion (major minor : Nat) : Bool :=
  major == 1 && (minor == 1 || minor == 2)

/-- Takes the directives before a document: at most one version, and one start for each handle. -/
def takeDirectives : Nat → Bool → List (List Char × List Char) → Reader Unit
  | 0, _, _ => failure
  | fuel + 1, hasVersion, handles => do
    match ← peek with
    | some (.version major minor) =>
      if hasVersion || !isKnownVersion major minor then failure
      skip
      takeDirectives fuel true handles
    | some (.tagPrefix handle start) =>
      if (handles.lookup handle).isSome then failure
      skip
      takeDirectives fuel hasVersion ((handle, start) :: handles)
    | _ => modify fun s => { s with handles := handles ++ s.handles }

/-- Drops all marks of a document's end. -/
def skipEnds : Nat → Reader Unit
  | 0 => failure
  | fuel + 1 => do
    if ← accept .documentEnd then skipEnds fuel

/-- Whether the next token ends a document that is still without content. -/
def seesNoContent : Reader Bool := do
  match ← peek with
  | none | some (.version _ _) | some (.tagPrefix _ _) | some .documentStart
  | some .documentEnd => return true
  | _ => return false

/-- Takes a document. Only the first one may start without a mark. -/
def takeDocument (fuel : Nat) : Reader Node := do
  match ← peek with
  | some (.version _ _) | some (.tagPrefix _ _) | some .documentStart =>
    takeDirectives fuel false []
    expect .documentStart
    if ← seesNoContent then return blank else takeNode fuel true false
  | _ => takeNode fuel true false

end Reader

/-- The only document in some tokens. A text without tokens is a blank document. -/
def ofTokens? (tokens : List Token) : Option Node := do
  let fuel := 4 * tokens.length + 4
  if tokens.isEmpty then some blank
  else
    let reader : Reader Node := do
      let node ← Reader.takeDocument fuel
      Reader.skipEnds fuel
      return node
    let (node, s) ← reader.run { tokens, handles := Reader.standardHandles }
    if s.tokens.isEmpty then some node else none

/-- Reads the only document in a text. -/
def read? (text : List Char) : Option Node :=
  (tokens? text).bind ofTokens?

end Node

end Footage.Yaml
