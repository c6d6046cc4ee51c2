import Structex.Decimal.Numeral
import Structex.Yaml.Cursor
import Structex.Yaml.Fault

/-!
# Scalars

How the text of a scalar is read: plain words over lines, quoted texts, and blocks of lines. In all
of them a single end of a line folds into a space and further ends of lines are kept, except that a
literal block keeps every one.
-/

namespace Structex.Yaml

/-- What an end of a line with the empty lines after it folds into. -/
def folded (lineEnd : Char) (empty : List Char) : List Char :=
  if lineEnd != '\n' then lineEnd :: empty
  else if empty.isEmpty then [' ']
  else empty

/-! ## Plain scalars -/

/-- Whether a character separates the parts of a collection in brackets. -/
def isFlowSign (c : Char) : Bool :=
  c == ',' || c == '[' || c == ']' || c == '\x7b' || c == '\x7d'

/-- The length of the plain word here. -/
def plainLength (inFlow : Bool) : List Char → Nat
  | [] => 0
  | c :: rest =>
    let ends := isBlank c || isBreak c ||
      (c == ':' && (atWordEnd rest || (inFlow && isFlowSign (rest.headD ' ')))) ||
      (inFlow && (isFlowSign c || c == '?'))
    if ends then 0 else plainLength inFlow rest + 1

/-- What stands between two words of a plain scalar: the text that it stands for, whether a line
ended, and the place after it. At a document's marker the scalar ends. -/
structure Gap where
  text : Option (List Char)
  crossed : Bool
  cursor : Cursor

/-- The empty lines here, unless a document's marker follows one. -/
def emptyLines : (fuel : Nat) → Cursor → List Char → Option (List Char) × Cursor
  | 0, cursor, lines => (some lines, cursor)
  | fuel + 1, cursor, lines =>
    let cursor := cursor.skipSpaces
    match cursor.breakHere? with
    | none => (some lines, cursor)
    | some lineEnd =>
      let cursor := cursor.next
      if atMarker cursor.rest then (none, cursor)
      else emptyLines fuel cursor (lines ++ [lineEnd])

/-- The gap after a word. -/
def Gap.read (cursor : Cursor) : Gap :=
  let spaces := cursor.rest.takeWhile (· == ' ')
  let cursor := cursor.skip spaces.length
  match cursor.breakHere? with
  | none => ⟨some spaces, false, cursor⟩
  | some lineEnd =>
    let cursor := cursor.next
    if atMarker cursor.rest then ⟨none, true, cursor⟩
    else
      let (lines, cursor) := emptyLines (cursor.rest.length + 1) cursor []
      ⟨lines.map (folded lineEnd), true, cursor⟩

/-- A plain scalar: its text, whether a line ended after it, and the place after it. -/
structure Plain where
  text : List Char
  crossed : Bool
  cursor : Cursor

/-- The words of a plain scalar from here on; `gap` stands before the next one. Outside brackets
the lines of the scalar are indented further than what it stands in. -/
def plainFrom (inFlow : Bool) (indent : Int) :
    (fuel : Nat) → (text gap : List Char) → (crossed : Bool) → Cursor → Plain
  | 0, text, _, crossed, cursor => ⟨text, crossed, cursor⟩
  | fuel + 1, text, gap, crossed, cursor =>
    let length := plainLength inFlow cursor.rest
    if cursor.rest.head? == some '#' || length == 0 then ⟨text, crossed, cursor⟩
    else
      let text := text ++ gap ++ cursor.rest.take length
      let after := Gap.read (cursor.skip length)
      match after.text with
      | none | some [] => ⟨text, after.crossed, after.cursor⟩
      | some gap =>
        if !inFlow && (after.cursor.column : Int) < indent + 1 then
          ⟨text, after.crossed, after.cursor⟩
        else plainFrom inFlow indent fuel text gap after.crossed after.cursor

/-- The plain scalar here. -/
def Plain.read (inFlow : Bool) (indent : Int) (cursor : Cursor) : Plain :=
  plainFrom inFlow indent (cursor.rest.length + 1) [] [] false cursor

/-! ## Quoted scalars -/

/-- The empty lines in a quoted text, with the blanks around them left out. -/
def quotedLines : (fuel : Nat) → Cursor → List Char → Except Fault (List Char × Cursor)
  | 0, cursor, lines => .ok (lines, cursor)
  | fuel + 1, cursor, lines =>
    if atMarker cursor.rest then .error .unclosedQuote
    else
      let cursor := cursor.skipWhile isBlank
      match cursor.breakHere? with
      | none => .ok (lines, cursor)
      | some lineEnd => quotedLines fuel cursor.next (lines ++ [lineEnd])

/-- What a single letter after a backslash stands for. -/
def simpleEscape? (c : Char) : Option Char :=
  match c with
  | '0' => some (Char.ofNat 0)
  | 'a' => some (Char.ofNat 7)
  | 'b' => some (Char.ofNat 8)
  | 't' => some '\t'
  | '\t' => some '\t'
  | 'n' => some '\n'
  | 'v' => some (Char.ofNat 11)
  | 'f' => some (Char.ofNat 12)
  | 'r' => some '\r'
  | 'e' => some (Char.ofNat 27)
  | ' ' => some ' '
  | '"' => some '"'
  | '\\' => some '\\'
  | '/' => some '/'
  | 'N' => some '\u0085'
  | '_' => some '\u00a0'
  | 'L' => some '\u2028'
  | 'P' => some '\u2029'
  | _ => none

/-- How many digits a letter after a backslash asks for. -/
def escapeWidth? (c : Char) : Option Nat :=
  match c with
  | 'x' => some 2
  | 'u' => some 4
  | 'U' => some 8
  | _ => none

/-- The number that exactly so many hexadecimal digits write here. -/
def hexNumber? (width : Nat) (text : List Char) : Option Nat :=
  let digits := text.take width
  if digits.length == width && digits.all Text.isHexDigit then
    some (Decimal.ofDigits 16 (digits.map Decimal.digitOf))
  else none

/-- Whether the number is the second half of a character in two halves. -/
def isLowHalf (number : Nat) : Bool :=
  0xdc00 ≤ number && number < 0xe000

/-- The character of a number written here after its letter, and the count of characters read. A
character may be written as two halves. -/
def escapedCharacter (number width : Nat) (after : List Char) : Except Fault (Char × Nat) :=
  if number > 0x10ffff then .error (.noSuchCharacter (number > 0x7fffffff))
  else if 0xd800 ≤ number && number < 0xdc00 then
    match after with
    | '\\' :: 'u' :: rest =>
      match hexNumber? 4 rest with
      | some low =>
        if isLowHalf low then
          .ok (Char.ofNat (0x10000 + (number - 0xd800) * 0x400 + (low - 0xdc00)), width + 6)
        else .ok ('\ufffd', width)
      | none => .ok ('\ufffd', width)
    | _ => .ok ('\ufffd', width)
  else if isLowHalf number then .ok ('\ufffd', width)
  else .ok (Char.ofNat number, width)

/-- What an escape stands for whose backslash has been read, and the place after it. -/
def readEscape (cursor : Cursor) : Except Fault (List Char × Cursor) :=
  match cursor.rest with
  | [] => .error .escape
  | c :: rest =>
    match simpleEscape? c, escapeWidth? c with
    | some plain, _ => .ok ([plain], cursor.next)
    | none, some width =>
      match hexNumber? width rest with
      | none => .error .escape
      | some number => do
        let (character, length) ← escapedCharacter number width (rest.drop width)
        return ([character], cursor.next.skip length)
    | none, none =>
      if isBreak c then quotedLines (cursor.rest.length + 1) cursor.next []
      else .error .escape

/-- A quoted text from here on, and the place after its closing quote. -/
def quotedFrom (quote : Char) :
    (fuel : Nat) → (text : List Char) → Cursor → Except Fault (List Char × Cursor)
  | 0, _, _ => .error .unclosedQuote
  | fuel + 1, text, cursor =>
    match cursor.rest with
    | [] => .error .unclosedQuote
    | c :: rest =>
      if c == quote then
        if quote == '\'' && rest.head? == some quote then
          quotedFrom quote fuel (text ++ [quote]) (cursor.skip 2)
        else .ok (text, cursor.next)
      else if quote == '"' && c == '\\' then do
        let (piece, cursor) ← readEscape cursor.next
        quotedFrom quote fuel (text ++ piece) cursor
      else if isBlank c || isBreak c then
        let blanks := cursor.rest.takeWhile isBlank
        let after := cursor.skip blanks.length
        match after.breakHere? with
        | none => quotedFrom quote fuel (text ++ blanks) after
        | some lineEnd => do
          let (lines, cursor) ← quotedLines (after.rest.length + 1) after.next []
          quotedFrom quote fuel (text ++ folded lineEnd lines) cursor
      else quotedFrom quote fuel (text ++ [c]) cursor.next

/-- The quoted text whose opening quote stands here. -/
def readQuoted (quote : Char) (cursor : Cursor) : Except Fault (List Char × Cursor) :=
  quotedFrom quote (cursor.rest.length + 1) [] cursor.next

/-! ## Blocks of lines -/

/-- What becomes of the ends of lines after a block's last line. -/
inductive Chomping where
  | strip
  | clip
  | keep
  deriving DecidableEq, Repr

/-- What a sign says of a block's last lines. -/
def chompingOf? (c : Char) : Option Chomping :=
  if c == '-' then some .strip else if c == '+' then some .keep else none

/-- What a digit says of a block's indentation. -/
def incrementOf? (c : Char) : Option Nat :=
  if '1' ≤ c && c ≤ '9' then some (c.toNat - 48) else none

/-- The signs after the sign of a block, in either order, and the place of the block's first
line. -/
def blockHeader (cursor : Cursor) : Except Fault (Chomping × Option Nat × Cursor) := do
  let chomping (cursor : Cursor) := match cursor.rest.head?.bind chompingOf? with
    | some chomping => (some chomping, cursor.next)
    | none => (none, cursor)
  let increment (cursor : Cursor) := match cursor.rest.head?.bind incrementOf? with
    | some increment => (some increment, cursor.next)
    | none => (none, cursor)
  let (before, cursor) := chomping cursor
  let (width, cursor) := increment cursor
  let (after, cursor) := if before.isNone && width.isSome then chomping cursor else (none, cursor)
  match cursor.rest with
  | [] => pure ()
  | c :: _ => unless c == ' ' || isBreak c do throw .blockHeader
  let cursor := cursor.skipSpaces.skipComment
  unless atLineEnd cursor.rest do throw .blockHeader
  return ((before.or after).getD .clip, width, cursor.next)

/-- The empty lines at a block's start with the deepest column that their spaces reach. -/
def leadingLines : (fuel : Nat) → Cursor → (lines : List Char) → (deepest : Nat) →
    List Char × Nat × Cursor
  | 0, cursor, lines, deepest => (lines, deepest, cursor)
  | fuel + 1, cursor, lines, deepest =>
    let cursor := cursor.skipSpaces
    let deepest := max deepest cursor.column
    match cursor.breakHere? with
    | none => (lines, deepest, cursor)
    | some lineEnd => leadingLines fuel cursor.next (lines ++ [lineEnd]) deepest

/-- The place after the spaces of a line up to a column. -/
def indentTo (column : Nat) (cursor : Cursor) : Cursor :=
  cursor.skip ((cursor.rest.take (column - cursor.column)).takeWhile (· == ' ')).length

/-- The empty lines within a block. -/
def blockGap (indent : Nat) : (fuel : Nat) → Cursor → (lines : List Char) → List Char × Cursor
  | 0, cursor, lines => (lines, cursor)
  | fuel + 1, cursor, lines =>
    let cursor := indentTo indent cursor
    match cursor.breakHere? with
    | none => (lines, cursor)
    | some lineEnd => blockGap indent fuel cursor.next (lines ++ [lineEnd])

/-- Whether a line of the block stands here. -/
def inBlock (indent : Nat) (cursor : Cursor) : Bool :=
  cursor.column == indent && !cursor.atEnd

/-- The lines of a block from here on: its text without the end of its last line, that end, the
empty lines after it, and the place after them. -/
def blockLines (folds : Bool) (indent : Nat) :
    (fuel : Nat) → (text lineEnd empty : List Char) → Cursor →
    List Char × List Char × List Char × Cursor
  | 0, text, lineEnd, empty, cursor => (text, lineEnd, empty, cursor)
  | fuel + 1, text, lineEnd, empty, cursor =>
    if inBlock indent cursor then
      let content := cursor.rest.takeWhile fun c => !isBreak c
      let text := text ++ empty ++ content
      let after := cursor.skip content.length
      let lineEnd := after.breakHere?.toList
      let (empty, after) := blockGap indent (after.rest.length + 1) after.next []
      let startsBlank := fun text : List Char => isBlank (text.headD 'x')
      if inBlock indent after then
        let folds := folds && lineEnd == ['\n'] && !startsBlank cursor.rest &&
          !startsBlank after.rest
        let between := if folds then (if empty.isEmpty then [' '] else []) else lineEnd
        blockLines folds indent fuel (text ++ between) [] empty after
      else (text, lineEnd, empty, after)
    else (text, lineEnd, empty, cursor)

/-- The block of text whose sign has been read, in something with the given indentation. -/
def readBlock (folds : Bool) (outer : Int) (cursor : Cursor) :
    Except Fault (List Char × Cursor) := do
  let (chomping, increment, cursor) ← blockHeader cursor
  let least := max 1 (outer + 1).toNat
  let fuel := cursor.rest.length + 1
  let (indent, empty, cursor) := match increment with
    | none =>
      let (lines, deepest, cursor) := leadingLines fuel cursor [] 0
      (max least deepest, lines, cursor)
    | some increment =>
      let indent := least + increment - 1
      let (lines, cursor) := blockGap indent fuel cursor []
      (indent, lines, cursor)
  let (text, lineEnd, empty, cursor) := blockLines folds indent fuel [] [] empty cursor
  let tail := match chomping with
    | .strip => []
    | .clip => lineEnd
    | .keep => lineEnd ++ empty
  return (text ++ tail, cursor)

end Structex.Yaml
