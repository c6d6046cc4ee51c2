import Structex.Yaml.Scalar

/-!
# Tokens

The text as tokens, with its indentation made explicit: where a block of entries begins and where
it ends. Whether something is the key of a mapping shows only at the colon after it, so the place
where a key may begin is kept until then, for each depth of brackets; a key stays on one line and
has a bounded length. The tokens themselves are only ever added at the end: a key that has been
found is kept as a mark, and the marks are put between the tokens when all are read.
-/

namespace Structex.Yaml

/-- The form of a tag: named in full, or by a handle and the rest. -/
structure TagName where
  handle : Option String
  suffix : String
  deriving DecidableEq, Repr

/-- A line with a direction for what follows. -/
inductive Directive where
  | version (major : Nat)
  | tag (handle start : String)
  | other
  deriving DecidableEq, Repr

/-- A token. -/
inductive Token where
  | directive (content : Directive)
  | documentStart
  | documentEnd
  | sequenceStart
  | mappingStart
  | blockEnd
  | flowSequenceStart
  | flowSequenceEnd
  | flowMappingStart
  | flowMappingEnd
  | entry
  | comma
  | key
  | value
  | anchor (name : String)
  | reference (name : String)
  | tag (name : TagName)
  | scalar (text : String) (plain : Bool)
  deriving DecidableEq, Repr

/-- A place where a key may begin: the number of the token it would stand before, whether it must
be a key, and where it is. -/
structure KeyPlace where
  token : Nat
  required : Bool
  offset : Nat
  line : Nat
  column : Nat

/-- How much of a text is read: the tokens with the last first and their number, the marks of keys
with whether a mapping begins there, the depth of brackets, the indentations of the blocks that
are open, whether a key may begin here, and the places where one may have begun. -/
structure Scan where
  cursor : Cursor
  tokens : List Token := []
  count : Nat := 0
  marks : List (Nat × Bool) := []
  depth : Nat := 0
  indent : Int := -1
  outer : List Int := []
  keyAllowed : Bool := true
  places : List (Nat × KeyPlace) := []

/-- The longest key of a mapping that is not marked as one, in characters. -/
def longestKey : Nat := 1024

namespace Scan

/-- Adds a token. -/
def add (scan : Scan) (token : Token) : Scan :=
  { scan with tokens := token :: scan.tokens, count := scan.count + 1 }

/-- The scan with the cursor moved past the next characters. -/
def skip (scan : Scan) (count : Nat) : Scan :=
  { scan with cursor := scan.cursor.skip count }

/-- The place where a key may have begun at this depth. -/
def place? (scan : Scan) : Option KeyPlace :=
  scan.places.lookup scan.depth

/-- The places of the other depths. -/
def otherPlaces (scan : Scan) : List (Nat × KeyPlace) :=
  scan.places.filter fun entry => entry.1 != scan.depth

/-- Gives up the places where a key can no longer have begun. -/
def dropStale (scan : Scan) : Except Fault Scan :=
  let isStale (place : KeyPlace) :=
    place.line != scan.cursor.line || scan.cursor.offset - place.offset > longestKey
  if scan.places.any fun entry => isStale entry.2 && entry.2.required then .error .missingColon
  else .ok { scan with places := scan.places.filter fun entry => !isStale entry.2 }

/-- Gives up the place where a key may have begun at this depth. -/
def dropPlace (scan : Scan) : Except Fault Scan :=
  match scan.place? with
  | some place =>
    if place.required then .error .missingColon else .ok { scan with places := scan.otherPlaces }
  | none => .ok scan

/-- Keeps this place as one where a key may begin, if it may. -/
def keepPlace (scan : Scan) : Except Fault Scan :=
  if scan.keyAllowed then do
    let scan ← scan.dropPlace
    let place : KeyPlace := ⟨scan.count, scan.depth == 0 && scan.indent == scan.cursor.column,
      scan.cursor.offset, scan.cursor.line, scan.cursor.column⟩
    return { scan with places := (scan.depth, place) :: scan.places }
  else .ok scan

/-- The indentations left and the number of blocks closed when all deeper than a column are. -/
def closed (column : Int) : (indent : Int) → (outer : List Int) → Int × List Int × Nat
  | indent, [] => (indent, [], 0)
  | indent, next :: outer =>
    if column < indent then
      let (indent, outer, count) := closed column next outer
      (indent, outer, count + 1)
    else (indent, next :: outer, 0)

/-- Closes the blocks that are indented deeper than a column, outside brackets. -/
def unwind (scan : Scan) (column : Int) : Scan :=
  if scan.depth == 0 then
    let (indent, outer, count) := closed column scan.indent scan.outer
    { scan with
      indent := indent, outer := outer, count := scan.count + count
      tokens := List.replicate count .blockEnd ++ scan.tokens }
  else scan

/-- Opens a block at a column if it is deeper than the one around it, and tells whether it is. -/
def openBlock (scan : Scan) (column : Nat) : Bool × Scan :=
  if scan.indent < column then
    (true, { scan with indent := column, outer := scan.indent :: scan.outer })
  else (false, scan)

/-- The place of the next token, spaces, comments and ends of lines left out. A key may begin on a
new line outside brackets. -/
def toNext : (fuel : Nat) → Scan → Scan
  | 0, scan => scan
  | fuel + 1, scan =>
    let cursor := scan.cursor.skipSpaces.skipComment
    match cursor.breakHere? with
    | some _ =>
      toNext fuel { scan with
        cursor := cursor.next, keyAllowed := scan.keyAllowed || scan.depth == 0 }
    | none => { scan with cursor := cursor }

/-! ## Signs -/

/-- A sign that opens brackets. -/
def openFlow (scan : Scan) (token : Token) : Except Fault Scan := do
  let scan ← scan.keepPlace
  return { (scan.add token).skip 1 with depth := scan.depth + 1, keyAllowed := true }

/-- A sign that closes brackets. -/
def closeFlow (scan : Scan) (token : Token) : Except Fault Scan := do
  let scan ← scan.dropPlace
  if scan.depth == 0 then throw .misplaced
  return { (scan.add token).skip 1 with depth := scan.depth - 1, keyAllowed := false }

/-- A comma in brackets. -/
def comma (scan : Scan) : Except Fault Scan := do
  let scan ← scan.dropPlace
  return { (scan.add .comma).skip 1 with keyAllowed := true }

/-- The sign of an entry of a sequence. -/
def entry (scan : Scan) : Except Fault Scan := do
  if scan.depth == 0 && !scan.keyAllowed then throw .misplaced
  let (opens, scan) := if scan.depth == 0 then scan.openBlock scan.cursor.column else (false, scan)
  let scan ← (if opens then scan.add .sequenceStart else scan).dropPlace
  return { (scan.add .entry).skip 1 with keyAllowed := true }

/-- The sign of a key. -/
def key (scan : Scan) : Except Fault Scan := do
  if scan.depth == 0 && !scan.keyAllowed then throw .misplaced
  let (opens, scan) := if scan.depth == 0 then scan.openBlock scan.cursor.column else (false, scan)
  let scan ← (if opens then scan.add .mappingStart else scan).dropPlace
  return { (scan.add .key).skip 1 with keyAllowed := scan.depth == 0 }

/-- The colon before a value. What may have been a key is one now. -/
def value (scan : Scan) : Except Fault Scan := do
  match scan.place? with
  | some place =>
    let scan := { scan with places := scan.otherPlaces }
    let (opens, scan) := if scan.depth == 0 then scan.openBlock place.column else (false, scan)
    return { (scan.add .value).skip 1 with
      marks := (place.token, opens) :: scan.marks, keyAllowed := false }
  | none =>
    if scan.depth == 0 && !scan.keyAllowed then throw .misplaced
    let (opens, scan) :=
      if scan.depth == 0 then scan.openBlock scan.cursor.column else (false, scan)
    let scan := if opens then scan.add .mappingStart else scan
    return { (scan.add .value).skip 1 with keyAllowed := scan.depth == 0 }

/-! ## Names -/

/-- Whether a character may stand in the name of an anchor, a handle or a directive. -/
def isNameChar (c : Char) : Bool :=
  c.isAlphanum || c == '-' || c == '_'

/-- The name here, if there is one. -/
def name? (text : List Char) : Option (List Char) :=
  match text.takeWhile isNameChar with
  | [] => none
  | name => some name

/-- Whether a text ends here or one of the characters stands here. -/
def followedBy (signs : String) : List Char → Bool
  | [] => true
  | c :: _ => isBreak c || signs.toList.contains c

/-- An anchor or an alias, by its sign and a name. -/
def anchor (scan : Scan) (token : String → Token) : Except Fault Scan := do
  let scan ← scan.keepPlace
  match name? (scan.cursor.rest.drop 1) with
  | none => throw .anchorName
  | some name =>
    unless followedBy " \t?:,]\x7d%@\x60" (scan.cursor.rest.drop (name.length + 1)) do
      throw .anchorName
    return { (scan.add (token (String.ofList name))).skip (name.length + 1) with
      keyAllowed := false }

/-- Whether a character may stand in the text of a tag. -/
def isTagChar (c : Char) : Bool :=
  c.isAlphanum || "-;/?:@&=+$,_.!~*'()[]%".toList.contains c

/-- The octets of a text in which octets may be written in hexadecimal. -/
def octets : List Char → Option (List UInt8)
  | [] => some []
  | '%' :: high :: low :: rest => do
    let octet ← hexNumber? 2 [high, low]
    return octet.toUInt8 :: (← octets rest)
  | c :: rest => do
    if c == '%' then none
    return (String.singleton c).toUTF8.toList ++ (← octets rest)

/-- The text of a tag here, and its length as it is written. -/
def tagText (text : List Char) : Except Fault (String × Nat) :=
  let raw := text.takeWhile isTagChar
  match raw, (octets raw).bind fun octets => String.fromUTF8? ⟨octets.toArray⟩ with
  | _ :: _, some content => .ok (content, raw.length)
  | _, _ => .error .tagName

/-- The handle of a tag here: an exclamation mark, or a name between two. -/
def tagHandle (text : List Char) : Except Fault String :=
  match text with
  | '!' :: rest =>
    let name := rest.takeWhile isNameChar
    match rest.drop name.length with
    | '!' :: _ => .ok (String.ofList ('!' :: name ++ ['!']))
    | _ => if rest.head? == some ' ' then .ok "!" else .error .tagName
  | _ => .error .tagName

/-- The tag here, and its length as it is written. -/
def tagName (text : List Char) : Except Fault (TagName × Nat) :=
  match text.drop 1 with
  | '<' :: rest => do
    let (suffix, length) ← tagText rest
    match rest.drop length with
    | '>' :: _ => return (⟨none, suffix⟩, length + 3)
    | _ => throw .tagName
  | rest => do
    if atWordEnd rest then return (⟨none, "!"⟩, 1)
    let word := rest.takeWhile fun c => c != ' ' && !isBreak c
    let handle ← if word.contains '!' then tagHandle text else pure "!"
    let (suffix, length) ← tagText (text.drop handle.length)
    return (⟨some handle, suffix⟩, handle.length + length)

/-- A tag. -/
def tag (scan : Scan) : Except Fault Scan := do
  let scan ← scan.keepPlace
  let (name, length) ← tagName scan.cursor.rest
  unless followedBy " " (scan.cursor.rest.drop length) do throw .tagName
  return { (scan.add (.tag name)).skip length with keyAllowed := false }

/-- The number here, and its count of digits. -/
def versionNumber (text : List Char) : Except Fault (Nat × Nat) :=
  let digits := text.takeWhile Char.isDigit
  if digits.isEmpty then .error .directive
  else .ok (Decimal.ofDigits 10 (digits.map Decimal.digitOf), digits.length)

/-- What a direction says whose name has been read, and the place after it. -/
def directiveContent (name : String) (cursor : Cursor) : Except Fault (Directive × Cursor) := do
  match name with
  | "YAML" =>
    let cursor := cursor.skipSpaces
    let (major, length) ← versionNumber cursor.rest
    let cursor := cursor.skip length
    unless cursor.rest.head? == some '.' do throw .directive
    let (_, length) ← versionNumber cursor.next.rest
    let cursor := cursor.next.skip length
    unless followedBy " " cursor.rest do throw .directive
    return (.version major, cursor)
  | "TAG" =>
    let cursor := cursor.skipSpaces
    let handle ← tagHandle cursor.rest
    let cursor := cursor.skip handle.length
    unless cursor.rest.head? == some ' ' do throw .directive
    let cursor := cursor.skipSpaces
    let (start, length) ← tagText cursor.rest
    let cursor := cursor.skip length
    unless followedBy " " cursor.rest do throw .directive
    return (.tag handle start, cursor)
  | _ => return (.other, cursor.skipWhile fun c => !isBreak c)

/-- A line with a direction. -/
def directive (scan : Scan) : Except Fault Scan := do
  let scan ← (scan.unwind (-1)).dropPlace
  let some name := name? (scan.cursor.rest.drop 1) | throw .directive
  let cursor := scan.cursor.skip (name.length + 1)
  unless followedBy " " cursor.rest do throw .directive
  let (content, cursor) ← directiveContent (String.ofList name) cursor
  let cursor := cursor.skipSpaces.skipComment
  unless atLineEnd cursor.rest do throw .directive
  return { scan.add (.directive content) with cursor := cursor.next, keyAllowed := false }

/-- The marker of a document's start or end. -/
def marker (scan : Scan) (token : Token) : Except Fault Scan := do
  let scan ← (scan.unwind (-1)).dropPlace
  return { (scan.add token).skip 3 with keyAllowed := false }

/-! ## Scalars -/

/-- A block of text. A key may begin after it, as its last line has ended. -/
def block (scan : Scan) (folds : Bool) : Except Fault Scan := do
  let scan ← scan.dropPlace
  let (text, cursor) ← readBlock folds scan.indent scan.cursor.next
  return { scan.add (.scalar (String.ofList text) false) with
    cursor := cursor, keyAllowed := true }

/-- A quoted text. -/
def quoted (scan : Scan) (quote : Char) : Except Fault Scan := do
  let scan ← scan.keepPlace
  let (text, cursor) ← readQuoted quote scan.cursor
  return { scan.add (.scalar (String.ofList text) false) with
    cursor := cursor, keyAllowed := false }

/-- Whether a plain scalar may begin here. -/
def startsPlain (inFlow : Bool) : List Char → Bool
  | [] => false
  | c :: rest =>
    !(isBlank c || isBreak c || "-?:,[]\x7b\x7d#&*!|>'\"%@\x60".toList.contains c) ||
      (!atWordEnd rest && (c == '-' || (!inFlow && (c == '?' || c == ':'))))

/-- A plain scalar. A key may begin after it if a line has ended. -/
def plain (scan : Scan) : Except Fault Scan := do
  let scan ← scan.keepPlace
  let found := Plain.read (scan.depth != 0) scan.indent scan.cursor
  return { scan.add (.scalar (String.ofList found.text) true) with
    cursor := found.cursor, keyAllowed := found.crossed }

/-! ## The whole -/

/-- Reads the token that stands here. -/
def token (scan : Scan) : Except Fault Scan :=
  let text := scan.cursor.rest
  let inFlow := scan.depth != 0
  let wordEnds := atWordEnd (text.drop 1)
  let atStart := scan.cursor.column == 0
  match text with
  | [] => .ok scan
  | c :: _ =>
    if c == '%' && atStart then scan.directive
    else if c == '-' && atStart && atMarker text then scan.marker .documentStart
    else if c == '.' && atStart && atMarker text then scan.marker .documentEnd
    else if c == '[' then scan.openFlow .flowSequenceStart
    else if c == '\x7b' then scan.openFlow .flowMappingStart
    else if c == ']' then scan.closeFlow .flowSequenceEnd
    else if c == '\x7d' then scan.closeFlow .flowMappingEnd
    else if c == ',' then scan.comma
    else if c == '-' && wordEnds then scan.entry
    else if c == '?' && (inFlow || wordEnds) then scan.key
    else if c == ':' && (inFlow || wordEnds) then scan.value
    else if c == '*' then scan.anchor .reference
    else if c == '&' then scan.anchor .anchor
    else if c == '!' then scan.tag
    else if c == '|' && !inFlow then scan.block false
    else if c == '>' && !inFlow then scan.block true
    else if c == '\'' || c == '"' then scan.quoted c
    else if startsPlain inFlow text then scan.plain
    else .error .misplaced

/-- Reads all tokens from here on. -/
def run : (fuel : Nat) → Scan → Except Fault Scan
  | 0, scan => .ok scan
  | fuel + 1, scan => do
    let scan ← (scan.toNext (scan.cursor.rest.length + 1)).dropStale
    if scan.cursor.atEnd then (scan.unwind (-1)).dropPlace
    else run fuel (← (scan.unwind scan.cursor.column).token)

/-- The tokens, the number of the first given, with the marks of keys put between them. -/
def marked (marks : List (Nat × Bool)) : (number : Nat) → List Token → List Token
  | _, [] => []
  | number, token :: rest =>
    (match marks.lookup number with
      | some true => [.mappingStart, .key]
      | some false => [.key]
      | none => []) ++ token :: marked marks (number + 1) rest

end Scan

/-- Whether a character may stand in a text. -/
def isAllowed (c : Char) : Bool :=
  c == '\t' || c == '\n' || c == '\r' || (' ' ≤ c && c ≤ '~') || c == '\u0085' ||
    ('\u00a0' ≤ c && c ≤ '\ufffd') || '\uffff' < c

/-- The text with every end of a line made a line feed. -/
def plainLineEnds : List Char → List Char
  | '\r' :: '\n' :: rest => '\n' :: plainLineEnds rest
  | c :: rest => (if c == '\r' then '\n' else c) :: plainLineEnds rest
  | [] => []

/-- The tokens of a text. A byte order mark at its start is left out. -/
def Token.scan (text : String) : Except Fault (List Token) := do
  let characters := plainLineEnds text.toList
  unless characters.all isAllowed do throw .character
  let cursor : Cursor := ⟨characters, 0, 0, 0⟩
  let cursor := if characters.head? == some '\ufeff' then cursor.next else cursor
  let scan ← Scan.run (characters.length + 1) ⟨cursor, [], 0, [], 0, -1, [], true, []⟩
  return Scan.marked scan.marks 0 scan.tokens.reverse

end Structex.Yaml
