import Structex.Yaml.Token

/-!
# Nodes

A text as a tree: scalars, sequences and mappings, each perhaps with an anchor and a tag, and
aliases for what an anchor marks. Reading goes over the tokens; afterwards the aliases are replaced
by what they stand for, so that a tree without them is left.
-/

namespace Structex.Yaml

/-- A node of the tree. A tag is named in full. The mark of a mapping tells it from all others once
aliases are replaced; it is zero before. -/
inductive Node where
  | reference (name : String)
  | scalar (anchor tag : Option String) (text : String) (plain : Bool)
  | sequence (anchor tag : Option String) (items : List Node)
  | mapping (mark : Nat) (anchor tag : Option String) (entries : List (Node × Node))
  deriving Inhabited

namespace Node

/-- The scalar that stands where nothing is written. -/
def empty : Node := .scalar none none "" true

/-! ## Reading -/

/-- The handles of tags with what they stand for. -/
abbrev Handles := List (String × String)

/-- The start of the tags that belong to YAML itself. -/
def ownTags : String := "tag:yaml.org,2002:"

/-- The handles that are always known. -/
def knownHandles : Handles := [("!", "!"), ("!!", ownTags)]

/-- The full name of a tag. -/
def fullTag (handles : Handles) (name : TagName) : Except Fault String :=
  match name.handle with
  | none => .ok name.suffix
  | some handle =>
    match handles.lookup handle with
    | some start => .ok (start ++ name.suffix)
    | none => .error .tagName

/-- The anchor and the tag here, in either order, and the tokens after them. -/
def properties (handles : Handles) (tokens : List Token) :
    Except Fault (Option String × Option String × List Token) :=
  match tokens with
  | .anchor anchor :: .tag name :: rest => do
    return (some anchor, some (← fullTag handles name), rest)
  | .anchor anchor :: rest => .ok (some anchor, none, rest)
  | .tag name :: .anchor anchor :: rest => do
    return (some anchor, some (← fullTag handles name), rest)
  | .tag name :: rest => do return (none, some (← fullTag handles name), rest)
  | rest => .ok (none, none, rest)

/-- Where a node stands: in brackets, in a block, or as the value of a block mapping's key, where a
sequence need not be indented. -/
inductive Position where
  | flow
  | block
  | indentless
  deriving DecidableEq, Repr

/-- Whether nothing is written where a node may stand before one of these tokens. -/
def isOmitted (before : List Token) : List Token → Bool
  | [] => true
  | token :: _ => before.contains token

mutual

/-- The node here, and the tokens after it. -/
def read (handles : Handles) (position : Position) :
    (fuel : Nat) → List Token → Except Fault (Node × List Token)
  | 0, _ => .error .misplaced
  | fuel + 1, tokens =>
    match tokens with
    | .reference name :: rest => .ok (.reference name, rest)
    | _ => do
      let (anchor, tag, tokens) ← properties handles tokens
      match tokens with
      | .scalar text plain :: rest => return (.scalar anchor tag text plain, rest)
      | .flowSequenceStart :: rest =>
        let (items, rest) ← readFlowItems handles fuel true rest
        return (.sequence anchor tag items, rest)
      | .flowMappingStart :: rest =>
        let (entries, rest) ← readFlowEntries handles fuel true rest
        return (.mapping 0 anchor tag entries, rest)
      | .entry :: rest =>
        if position == .indentless then
          let (items, rest) ← readItems handles false fuel (.entry :: rest)
          return (.sequence anchor tag items, rest)
        else if anchor.isSome || tag.isSome then return (.scalar anchor tag "" true, tokens)
        else throw .misplaced
      | .sequenceStart :: rest =>
        if position != .flow then
          let (items, rest) ← readItems handles true fuel rest
          return (.sequence anchor tag items, rest)
        else throw .misplaced
      | .mappingStart :: rest =>
        if position != .flow then
          let (entries, rest) ← readEntries handles fuel rest
          return (.mapping 0 anchor tag entries, rest)
        else throw .misplaced
      | _ =>
        if anchor.isSome || tag.isSome then return (.scalar anchor tag "" true, tokens)
        else throw .misplaced

/-- The items of a sequence of lines. One that is indented has an end of its own. -/
def readItems (handles : Handles) (indented : Bool) :
    (fuel : Nat) → List Token → Except Fault (List Node × List Token)
  | 0, _ => .error .misplaced
  | fuel + 1, tokens =>
    match tokens with
    | .entry :: rest => do
      let ends := if indented then [.entry, .blockEnd] else [.entry, .key, .value, .blockEnd]
      let (item, rest) ←
        if isOmitted ends rest then pure (empty, rest)
        else read handles .block fuel rest
      let (items, rest) ← readItems handles indented fuel rest
      return (item :: items, rest)
    | .blockEnd :: rest => .ok ([], if indented then rest else tokens)
    | rest => if indented then .error .misplaced else .ok ([], rest)

/-- The entries of a mapping of lines, with its end. -/
def readEntries (handles : Handles) :
    (fuel : Nat) → List Token → Except Fault (List (Node × Node) × List Token)
  | 0, _ => .error .misplaced
  | fuel + 1, tokens =>
    let ends := [.key, .value, .blockEnd]
    let part (rest : List Token) : Except Fault (Node × List Token) :=
      if isOmitted ends rest then .ok (empty, rest)
      else read handles .indentless fuel rest
    match tokens with
    | .key :: rest => do
      let (key, rest) ← part rest
      let (value, rest) ← match rest with
        | .value :: rest => part rest
        | rest => pure (empty, rest)
      let (entries, rest) ← readEntries handles fuel rest
      return ((key, value) :: entries, rest)
    | .blockEnd :: rest => .ok ([], rest)
    | _ => .error .misplaced

/-- The items of a sequence in brackets, with its end. An item with a colon is a mapping of one
entry. -/
def readFlowItems (handles : Handles) :
    (fuel : Nat) → (first : Bool) → List Token → Except Fault (List Node × List Token)
  | 0, _, _ => .error .misplaced
  | fuel + 1, first, tokens => do
    if let .flowSequenceEnd :: rest := tokens then return ([], rest)
    let tokens ←
      if first then pure tokens
      else match tokens with
        | .comma :: rest => pure rest
        | _ => throw .misplaced
    let ends := [.comma, .flowSequenceEnd]
    match tokens with
    | .flowSequenceEnd :: rest => return ([], rest)
    | .key :: rest =>
      let (key, rest) ←
        if isOmitted (.value :: ends) rest then pure (empty, rest)
        else read handles .flow fuel rest
      let (value, rest) ← match rest with
        | .value :: rest =>
          if isOmitted ends rest then pure (empty, rest) else read handles .flow fuel rest
        | rest => pure (empty, rest)
      let (items, rest) ← readFlowItems handles fuel false rest
      return (.mapping 0 none none [(key, value)] :: items, rest)
    | rest =>
      let (item, rest) ← read handles .flow fuel rest
      let (items, rest) ← readFlowItems handles fuel false rest
      return (item :: items, rest)

/-- The entries of a mapping in brackets, with its end. A key may stand alone. -/
def readFlowEntries (handles : Handles) :
    (fuel : Nat) → (first : Bool) → List Token → Except Fault (List (Node × Node) × List Token)
  | 0, _, _ => .error .misplaced
  | fuel + 1, first, tokens => do
    if let .flowMappingEnd :: rest := tokens then return ([], rest)
    let tokens ←
      if first then pure tokens
      else match tokens with
        | .comma :: rest => pure rest
        | _ => throw .misplaced
    let ends := [.comma, .flowMappingEnd]
    match tokens with
    | .flowMappingEnd :: rest => return ([], rest)
    | .key :: rest =>
      let (key, rest) ←
        if isOmitted (.value :: ends) rest then pure (empty, rest)
        else read handles .flow fuel rest
      let (value, rest) ← match rest with
        | .value :: rest =>
          if isOmitted ends rest then pure (empty, rest) else read handles .flow fuel rest
        | rest => pure (empty, rest)
      let (entries, rest) ← readFlowEntries handles fuel false rest
      return ((key, value) :: entries, rest)
    | rest =>
      let (key, rest) ← read handles .flow fuel rest
      let (entries, rest) ← readFlowEntries handles fuel false rest
      return ((key, empty) :: entries, rest)

end

/-! ## Documents -/

/-- The handles that the directions before a document set, and the tokens after them. A version
may be given once and has to be one of the first; a handle may be set once. -/
def readDirectives : (versioned : Bool) → Handles → List Token → Except Fault (Handles × List Token)
  | versioned, handles, .directive (.version major) :: rest =>
    if versioned || major != 1 then .error .directive else readDirectives true handles rest
  | versioned, handles, .directive (.tag handle start) :: rest =>
    if (handles.lookup handle).isSome then .error .directive
    else readDirectives versioned ((handle, start) :: handles) rest
  | versioned, handles, .directive .other :: rest => readDirectives versioned handles rest
  | _, handles, rest => .ok (handles, rest)

/-- Tokens without the ends of documents at their start. -/
def dropEnds : List Token → List Token
  | .documentEnd :: rest => dropEnds rest
  | rest => rest

/-- Whether what may follow a document is all that is here. -/
def isFinished (tokens : List Token) : Bool :=
  (dropEnds tokens).isEmpty

/-- Whether a token is a direction or a document's marker. -/
def isBoundary : Token → Bool
  | .directive _ => true
  | .documentStart => true
  | .documentEnd => true
  | _ => false

/-- The node of the only document among tokens, if there is one. -/
def ofTokens (tokens : List Token) : Except Fault (Option Node) := do
  let fuel := 4 * tokens.length + 4
  let starts := match tokens with
    | .directive _ :: _ => true
    | .documentStart :: _ => true
    | [] => true
    | _ => false
  if starts then
    let tokens := dropEnds tokens
    if tokens.isEmpty then return none
    let (handles, tokens) ← readDirectives false [] tokens
    let handles := handles ++ knownHandles.filter fun entry => (handles.lookup entry.1).isNone
    match tokens with
    | .documentStart :: rest =>
      let isEmpty := match rest with
        | [] => true
        | token :: _ => isBoundary token
      let (node, rest) ← if isEmpty then pure (empty, rest) else read handles .block fuel rest
      unless isFinished rest do throw .severalDocuments
      return some node
    | _ => throw .misplaced
  else
    let (node, rest) ← read knownHandles .block fuel tokens
    unless isFinished rest do throw .severalDocuments
    return some node

/-! ## Aliases -/

/-- What is known while aliases are replaced: the anchors that were met, each with its node once
that is complete, and the mark for the next mapping. -/
structure Known where
  anchors : List (String × Option Node)
  next : Nat

namespace Known

/-- Nothing is known before a text. -/
def start : Known := ⟨[], 1⟩

/-- What is known where a node with an anchor begins. -/
def beginAnchor (known : Known) : Option String → Except Fault Known
  | none => .ok known
  | some name =>
    if (known.anchors.lookup name).isSome then .error (.repeatedAnchor name)
    else .ok { known with anchors := (name, none) :: known.anchors }

/-- What is known where a node with an anchor is complete. -/
def endAnchor (known : Known) (node : Node) : Option String → Known
  | none => known
  | some name => { known with anchors := (name, some node) :: known.anchors }

end Known

mutual

/-- The node with what its aliases stand for in their places. Each mapping that is written gets a
mark of its own. -/
def resolve (known : Known) : Node → Except Fault (Node × Known)
  | .reference name =>
    match known.anchors.lookup name with
    | none => .error (.undefinedAlias name)
    | some none => .error (.selfReference name)
    | some (some node) => .ok (node, known)
  | .scalar anchor tag text plain => do
    let known ← known.beginAnchor anchor
    let node : Node := .scalar none tag text plain
    return (node, known.endAnchor node anchor)
  | .sequence anchor tag items => do
    let known ← known.beginAnchor anchor
    let (items, known) ← resolveItems known items
    let node : Node := .sequence none tag items
    return (node, known.endAnchor node anchor)
  | .mapping _ anchor tag entries => do
    let known ← known.beginAnchor anchor
    let (entries, known) ← resolveEntries known entries
    let node : Node := .mapping known.next none tag entries
    return (node, { known with next := known.next + 1 }.endAnchor node anchor)

/-- The items with what their aliases stand for. -/
def resolveItems (known : Known) : List Node → Except Fault (List Node × Known)
  | [] => .ok ([], known)
  | item :: rest => do
    let (item, known) ← resolve known item
    let (rest, known) ← resolveItems known rest
    return (item :: rest, known)

/-- The entries with what their aliases stand for. -/
def resolveEntries (known : Known) :
    List (Node × Node) → Except Fault (List (Node × Node) × Known)
  | [] => .ok ([], known)
  | (key, value) :: rest => do
    let (key, known) ← resolve known key
    let (value, known) ← resolve known value
    let (rest, known) ← resolveEntries known rest
    return ((key, value) :: rest, known)

end

end Node

end Structex.Yaml
