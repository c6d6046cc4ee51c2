import Structex.Decimal.Numeral
import Structex.Regex.Source
import Structex.Text.Table.CharacterName

/-!
# The grammar of patterns

How the source of a pattern becomes a tree. Flags are resolved on the way: each part is read with
the flags that hold at its place. Reading is one pass from left to right; the fuel of the two
mutually recursive functions is computed from the length of the source, of which every call takes
at least one token or hands on to the other function.
-/

namespace Structex.Regex

/-- Widths and counts are cut off here. -/
def widthBound : Nat := Nat.pow 2 64

/-- The first repeat count that is too large. -/
def countBound : Nat := 4294967295

/-- The first group number that no pattern can have. -/
def groupBound : Nat := 2147483647

namespace Width

/-- Nothing at all. -/
def zero : Width := ⟨0, 0⟩

/-- One character. -/
def one : Width := ⟨1, 1⟩

/-- One part after another. -/
def add (first second : Width) : Width :=
  ⟨min (first.least + second.least) widthBound, min (first.most + second.most) widthBound⟩

/-- One part or another. -/
def either (first second : Width) : Width :=
  ⟨min first.least second.least, max first.most second.most⟩

/-- A part repeated. -/
def times (body : Width) (least : Nat) (most : Option Nat) : Width :=
  ⟨min (body.least * least) widthBound,
    match most with
    | some most => min (body.most * most) widthBound
    | none => if body.most == 0 then 0 else widthBound⟩

end Width

/-- What a part is to a repeat sign that follows it. -/
inductive Role where
  | part
  | anchor
  | repeated
  deriving DecidableEq, Repr

/-- A part of a sequence that has been read. -/
structure Piece where
  node : Node
  width : Width
  role : Role := .part

namespace Piece

/-- Parts in order as one part. -/
def join (pieces : List Piece) : Piece :=
  match pieces with
  | [] => { node := .empty, width := .zero }
  | [piece] => piece
  | piece :: rest =>
    let tail := join rest
    { node := .seq piece.node tail.node, width := piece.width.add tail.width }

/-- A part that takes one character of a set. -/
def ofSet (set : CharSet) : Piece :=
  { node := .one set, width := .one }

/-- A part that takes one character by its code point. -/
def literal (scope : Flags) (code : Nat) : Piece :=
  let fold := if scope.ignoreCase then (if scope.ascii then Fold.ascii else .unicode) else .exact
  ofSet ⟨false, fold, [.literal code]⟩

/-- A part that stands between characters. -/
def ofAnchor (anchor : Anchor) : Piece :=
  { node := .assertion anchor, width := .zero, role := .anchor }

end Piece

/-- How letters are compared under the flags. -/
def Flags.fold (flags : Flags) : Fold :=
  if flags.ignoreCase then (if flags.ascii then .ascii else .unicode) else .exact

namespace Reader

/-- The class that an escape names, and whether it is negated. -/
def category? : Char → Option (CharClass × Bool)
  | 'd' => some (.digit, false)
  | 'D' => some (.digit, true)
  | 's' => some (.space, false)
  | 'S' => some (.space, true)
  | 'w' => some (.word, false)
  | 'W' => some (.word, true)
  | _ => none

/-- The control character that an escape names. -/
def control? : Char → Option Nat
  | 'a' => some 7
  | 'f' => some 12
  | 'n' => some 10
  | 'r' => some 13
  | 't' => some 9
  | 'v' => some 11
  | '\\' => some 92
  | _ => none

/-- A code point written with a fixed number of hexadecimal digits. -/
def hexEscape (letter : Char) (digits : Nat) : Reader Nat := do
  let taken ← takeSome Text.isHexDigit digits
  let text := '\\' :: letter :: taken
  if taken.length != digits then
    fail (.incompleteEscape (String.ofList text)) text.length
  let code := Decimal.ofDigits 16 (taken.map Decimal.digitOf)
  if code > 0x7fffffff then throw .numberTooLarge
  if code > 0x10ffff then
    fail (.badEscape (String.ofList text)) text.length
  return code

/-- A code point written by its name. -/
def namedEscape : Reader Nat := do
  if !(← accept '\x7b') then fail .missingBrace 0
  let name ← takeName '\x7d' "character name"
  match Text.codeOfName? (String.ofList name) with
  | some code => return code
  | none => fail (.undefinedCharacter (String.ofList name)) (name.length + 4)

/-- The code point of up to three octal digits, the first of which has been taken. -/
def octalEscape (digits : List Char) : Reader Nat := do
  let code := Decimal.ofDigits 8 (digits.map Decimal.digitOf)
  if code > 255 then
    fail (.octalTooLarge (String.ofList ('\\' :: digits))) (digits.length + 1)
  return code

/-- The code point that an escaped letter or sign stands for when it has no other meaning. -/
def plainEscape (c : Char) : Reader Nat := do
  if Text.isAsciiLetter c || Text.isAsciiDigit c then
    fail (.badEscape (String.ofList ['\\', c])) 2
  return c.toNat

/-- The member of a set that an escape stands for. -/
def setEscape (scope : Flags) (c : Char) : Reader SetItem := do
  match control? c, category? c with
  | some code, _ => return .literal code
  | _, some (name, negated) => return .category name scope.ascii negated
  | none, none =>
    if c == 'b' then return .literal 8
    else if c == 'x' then return .literal (← hexEscape c 2)
    else if c == 'u' then return .literal (← hexEscape c 4)
    else if c == 'U' then return .literal (← hexEscape c 8)
    else if c == 'N' then return .literal (← namedEscape)
    else if Text.isOctalDigit c then
      return .literal (← octalEscape (c :: (← takeSome Text.isOctalDigit 2)))
    else return .literal (← plainEscape c)

/-- The anchor that an escape names. -/
def anchorEscape? (scope : Flags) : Char → Option Anchor
  | 'A' => some .textStart
  | 'Z' => some .textEnd
  | 'b' => some (.boundary scope.ascii false)
  | 'B' => some (.boundary scope.ascii true)
  | _ => none

/-- A reference to a group by its number. -/
def groupReference (scope : Flags) (digits : List Char) : Reader Piece := do
  let group := Decimal.ofDigits 10 (digits.map Decimal.digitOf)
  if group ≤ (← groupCount) then
    let width ← referredWidth group (digits.length + 1)
    checkLookbehind group
    noteReference group
    return { node := .reference group scope.fold, width := width }
  else
    fail (.invalidReference group) digits.length

/-- The part that an escape with a digit stands for: an octal code point or a reference. -/
def digitEscape (scope : Flags) (c : Char) : Reader Piece := do
  if c == '0' then
    let digits := c :: (← takeSome Text.isOctalDigit 2)
    return Piece.literal scope (Decimal.ofDigits 8 (digits.map Decimal.digitOf))
  else
    match ← takeSome Text.isAsciiDigit 1 with
    | [] => groupReference scope [c]
    | second :: _ =>
      if Text.isOctalDigit c && Text.isOctalDigit second then
        match ← takeSome Text.isOctalDigit 1 with
        | [] => groupReference scope [c, second]
        | third :: _ => return Piece.literal scope (← octalEscape [c, second, third])
      else
        groupReference scope [c, second]

/-- The part that an escape stands for outside sets. -/
def escapePiece (scope : Flags) (c : Char) : Reader Piece := do
  match anchorEscape? scope c, category? c, control? c with
  | some anchor, _, _ => return Piece.ofAnchor anchor
  | _, some (name, negated), _ =>
    return Piece.ofSet ⟨false, scope.fold, [.category name scope.ascii negated]⟩
  | _, _, some code => return Piece.literal scope code
  | none, none, none =>
    if c == 'x' then return Piece.literal scope (← hexEscape c 2)
    else if c == 'u' then return Piece.literal scope (← hexEscape c 4)
    else if c == 'U' then return Piece.literal scope (← hexEscape c 8)
    else if c == 'N' then return Piece.literal scope (← namedEscape)
    else if Text.isAsciiDigit c then digitEscape scope c
    else return Piece.literal scope (← plainEscape c)

/-- The member of a set that a token stands for. -/
def setMember (scope : Flags) : Token → Reader SetItem
  | .plain c => return .literal c.toNat
  | .escape c => setEscape scope c

/-- The members of a set up to its closing bracket. The first member may be a bracket itself. -/
def setMembers (scope : Flags) (start : Nat) : (fuel : Nat) → (members : List SetItem) →
    Reader (List SetItem)
  | 0, members => return members
  | fuel + 1, members => do
    match ← next with
    | none => failAt .unclosedSet start
    | some low =>
      if low == .plain ']' && !members.isEmpty then return members
      let first ← setMember scope low
      if ← accept '-' then
        match ← next with
        | none => failAt .unclosedSet start
        | some high =>
          if high == .plain ']' then return members ++ [first, .literal 45]
          let second ← setMember scope high
          match first, second with
          | .literal lowCode, .literal highCode =>
            if highCode < lowCode then
              fail (.badRange low.text high.text) (low.width + 1 + high.width)
            else
              setMembers scope start fuel (members ++ [.range lowCode highCode])
          | _, _ => fail (.badRange low.text high.text) (low.width + 1 + high.width)
      else
        setMembers scope start fuel (members ++ [first])

/-- A character set whose opening bracket has been taken. -/
def characterSet (scope : Flags) (start : Nat) : Reader Piece := do
  let negated ← accept '^'
  let members ← setMembers scope start ((← left) + 1) []
  return Piece.ofSet ⟨negated, scope.fold, members⟩

/-- The digits of the counts after an opening brace, and how many characters they take with the
closing brace; `none` if what comes next is no counts. -/
def countsNext? (rest : List Char) : Option (List Char × List Char × Nat) :=
  let low := rest.takeWhile Text.isAsciiDigit
  match rest.dropWhile Text.isAsciiDigit with
  | '\x7d' :: _ => if low.isEmpty then none else some (low, low, low.length + 1)
  | ',' :: after =>
    let high := after.takeWhile Text.isAsciiDigit
    match after.dropWhile Text.isAsciiDigit with
    | '\x7d' :: _ => some (low, high, low.length + high.length + 2)
    | _ => none
  | _ => none

/-- The counts that digits write; without digits for it there is no greatest count. -/
def countsOf (low high : List Char) (start : Nat) : Reader (Nat × Option Nat) := do
  let least := Decimal.ofDigits 10 (low.map Decimal.digitOf)
  let most := Decimal.ofDigits 10 (high.map Decimal.digitOf)
  if !low.isEmpty && least ≥ countBound then throw .numberTooLarge
  if !high.isEmpty && most ≥ countBound then throw .numberTooLarge
  if !high.isEmpty && most < least then failAt .leastAboveMost start
  return (least, if high.isEmpty then none else some most)

/-- Takes the counts that come next, given their digits and how many characters they take. -/
def takeCounts : Option (List Char × List Char × Nat) → Reader (Option (Nat × Option Nat))
  | none => return none
  | some (low, high, width) => do
    let start ← offset
    drop width
    return some (← countsOf low high start)

/-- The counts of a repeat sign that has been taken; `none` if a brace opens no counts, in which
case it stands for itself. -/
def repeatCounts (c : Char) : Reader (Option (Nat × Option Nat)) := do
  if c == '?' then return some (0, some 1)
  else if c == '*' then return some (0, none)
  else if c == '+' then return some (1, none)
  else takeCounts (countsNext? (← get).rest)

/-- How a repeat sign whose counts have been taken is meant. -/
def repeatGreed : Reader Greed := do
  if ← accept '?' then return .lazy
  else if ← accept '+' then return .possessive
  else return .greedy

/-- Repeats the last of the parts read so far, which are given last first. -/
def repeatLast (place : Nat) (least : Nat) (most : Option Nat) (pieces : List Piece) :
    Reader (List Piece) := do
  match pieces with
  | [] => failAt .nothingToRepeat place
  | last :: before =>
    match last.role with
    | .anchor => failAt .nothingToRepeat place
    | .repeated => failAt .multipleRepeat place
    | .part =>
      let greed ← repeatGreed
      return {
        node := .iterate greed least most last.node
        width := last.width.times least most
        role := .repeated } :: before

/-- Passes over a comment up to the end of its line. -/
def skipLine : (fuel : Nat) → Reader Unit
  | 0 => return ()
  | fuel + 1 => do
    match ← next with
    | none => return ()
    | some token => if token == .plain '\n' then return () else skipLine fuel

/-- Passes over a comment group up to its closing parenthesis. -/
def skipComment (start : Nat) : (fuel : Nat) → Reader Unit
  | 0 => return ()
  | fuel + 1 => do
    match ← next with
    | none => failAt .unclosedComment start
    | some token => if token == .plain ')' then return () else skipComment start fuel

/-- Whether a token is a letter that names a flag. -/
def isFlagLetter : Token → Bool
  | .plain c => c == 'L' || (Flags.ofLetter? c).isSome
  | .escape _ => false

/-- The flag of a letter. -/
def flagOf : Token → Flags
  | .plain c => (Flags.ofLetter? c).getD {}
  | .escape _ => {}

/-- Refuses a token that should have been a flag or the end of the flags. -/
def refuseFlag {α : Type} (token : Token) (otherwise : Cause) : Reader α :=
  fail (if token.isLetter then .unknownFlag else otherwise) token.width

/-- The flags that a group switches on, from the first letter to the sign that ends them. -/
def flagsOn : (fuel : Nat) → (token : Token) → (on : Flags) → Reader (Flags × Token)
  | 0, token, on => return (on, token)
  | fuel + 1, token, on => do
    if token == .plain 'L' then fail .localeFlag 0
    let flag := flagOf token
    let on := on.union flag
    if flag.choosesRepertoire && on.ascii && on.unicode then fail .incompatibleFlags 0
    match ← next with
    | none => fail .missingFlagsEnd 0
    | some following =>
      if following == .plain ')' || following == .plain '-' || following == .plain ':' then
        return (on, following)
      else if isFlagLetter following then flagsOn fuel following on
      else refuseFlag following .missingFlagsEnd

/-- The flags that a group switches off, from the first letter to the colon. -/
def flagsOff : (fuel : Nat) → (token : Token) → (off : Flags) → Reader Flags
  | 0, _, off => return off
  | fuel + 1, token, off => do
    let flag := flagOf token
    if token == .plain 'L' || flag.choosesRepertoire then fail .offRepertoire 0
    let off := off.union flag
    match ← next with
    | none => fail .missingColon 0
    | some following =>
      if following == .plain ':' then return off
      else if isFlagLetter following then flagsOff fuel following off
      else refuseFlag following .missingColon

/-- What a group is, as its opening signs tell. -/
inductive Opening where
  | capturing (name : Option (List Char))
  | grouping (on off : Flags)
  | atomic
  | look (ahead negated : Bool)
  | condition
  | reference
  | comment
  /-- Flags for the whole pattern. -/
  | flags (on : Flags)

/-- The flags that a group switches on, with the sign that ends them, from the first token after the
question mark. -/
def switchedOn (fuel : Nat) (token : Token) : Reader (Flags × Token) :=
  if token == .plain '-' then return ({}, token) else flagsOn fuel token {}

/-- The flags that a group switches off, from the sign that ends those switched on. -/
def switchedOff (fuel : Nat) (sign : Token) : Reader Flags := do
  if sign == .plain '-' then
    match ← next with
    | none => fail .missingFlag 0
    | some following =>
      if isFlagLetter following then flagsOff fuel following {}
      else refuseFlag following .missingFlag
  else return {}

/-- What a group is whose first flag character has been taken. -/
def flagsOpening (token : Token) : Reader Opening := do
  let fuel := (← left) + 1
  let (on, sign) ← switchedOn fuel token
  if sign == .plain ')' then return .flags on
  if on.plain then fail .onGlobal 1
  let off ← switchedOff fuel sign
  if off.plain then fail .offGlobal 1
  if on.meets off then fail .onAndOff 1
  return .grouping on off

/-- The group that a condition asks for, whose opening parenthesis has been taken. -/
def conditionGroup : Reader Nat := do
  let name ← takeName ')' "group name"
  if Text.isIdentifier name then namedGroup name
  else
    let text := String.ofList name
    match Decimal.int? text with
    | none => fail (.badName text) (name.length + 1)
    | some number =>
      if number < 0 then fail (.badName text) (name.length + 1)
      let group := number.toNat
      if group == 0 then fail .badGroupNumber (name.length + 1)
      if group ≥ groupBound then fail (.invalidReference group) (name.length + 1)
      noteCondition group (name.length + 1)
      return group

/-- A reference to a group by its name. -/
def namedReference (scope : Flags) : Reader Piece := do
  let name ← takeName ')' "group name"
  checkName name
  let group ← namedGroup name
  let width ← referredWidth group (name.length + 1)
  checkLookbehind group
  return { node := .reference group scope.fold, width := width }

/-- The opening signs of a group whose parenthesis has been taken. -/
def opening : Reader Opening := do
  if !(← accept '?') then return .capturing none
  match ← next with
  | none => fail .endOfPattern 0
  | some token =>
    match token with
    | .plain 'P' =>
      if ← accept '<' then
        let name ← takeName '>' "group name"
        checkName name
        return .capturing (some name)
      else if ← accept '=' then return .reference
      else
        match ← next with
        | none => fail .endOfPattern 0
        | some other => fail (.unknownExtension ("?P" ++ other.text)) (other.width + 2)
    | .plain ':' => return .grouping {} {}
    | .plain '#' => return .comment
    | .plain '=' => return .look true false
    | .plain '!' => return .look true true
    | .plain '<' =>
      match ← next with
      | none => fail .endOfPattern 0
      | some (.plain '=') => return .look false false
      | some (.plain '!') => return .look false true
      | some other => fail (.unknownExtension ("?<" ++ other.text)) (other.width + 2)
    | .plain '(' => return .condition
    | .plain '>' => return .atomic
    | other =>
      if isFlagLetter other || other == .plain '-' then flagsOpening other
      else fail (.unknownExtension ("?" ++ other.text)) (other.width + 1)

/-- The one or two branches of a condition. -/
def conditionBranches (branch : Reader Piece) : Reader (Piece × Piece) := do
  let present ← branch
  if ← accept '|' then
    let absent ← branch
    if ← sees '|' then fail .tooManyBranches 0
    return (present, absent)
  else
    return (present, Piece.join [])

/-- The part that a single sign outside groups stands for. -/
def signPiece (scope : Flags) (start : Nat) : Char → Reader Piece
  | '.' => return Piece.ofSet ⟨true, .exact, if scope.dotAll then [] else [.literal 10]⟩
  | '^' => return Piece.ofAnchor (if scope.multiline then .lineStart else .textStart)
  | '$' => return Piece.ofAnchor (if scope.multiline then .lineEnd else .lastLineEnd)
  | '[' => characterSet scope start
  | c => return Piece.literal scope c.toNat

/-- The part that a group stands for whose opening signs have been taken, given how alternations and
sequences are read; a comment stands for none. Flags for the whole pattern are out of place here. -/
def groupPiece (scope : Flags) (start : Nat) (branches : Flags → Reader Piece)
    (parts : Reader Piece) : Opening → Reader (Option Piece)
  | .comment => do
    skipComment start ((← left) + 1)
    return none
  | .flags _ => failAt .misplacedFlags start
  | .reference => do
    return some (← namedReference scope)
  | .look ahead negated => do
    let contents := branches scope
    let body ← closing start (if ahead then contents else lookingBehind contents)
    return some { node := .look ahead negated body.width body.node, width := .zero }
  | .condition => do
    let group ← conditionGroup
    checkLookbehind group
    let (present, absent) ← closing start (conditionBranches parts)
    return some {
      node := .condition group present.node absent.node
      width := present.width.either absent.width }
  | .atomic => do
    let body ← closing start (branches scope)
    return some { node := .atomic body.node, width := body.width }
  | .grouping on off => do
    let body ← closing start (branches (scope.switched on off))
    return some { body with role := .part }
  | .capturing name => do
    let group ← openGroup name
    let body ← closing start (branches scope)
    closeGroup group body.width
    return some { node := .group group body.node, width := body.width }

mutual

/-- The branches of an alternation, up to a closing parenthesis or the end. -/
def alternation : (fuel : Nat) → (scope : Flags) → Reader Piece
  | 0, _ => return Piece.join []
  | fuel + 1, scope => do
    let branch ← sequence fuel scope []
    if ← accept '|' then
      let others ← alternation fuel scope
      return { node := .choice branch.node others.node, width := branch.width.either others.width }
    else
      return { branch with role := .part }

/-- The parts of a sequence, those read so far given last first. -/
def sequence : (fuel : Nat) → (scope : Flags) → (pieces : List Piece) → Reader Piece
  | 0, _, pieces => return Piece.join pieces.reverse
  | fuel + 1, scope, pieces => do
    let start ← offset
    match ← peek with
    | none => return Piece.join pieces.reverse
    | some (.escape c) =>
      drop 2
      let piece ← escapePiece scope c
      sequence fuel scope (piece :: pieces)
    | some (.plain c) =>
      if c == '|' || c == ')' then
        return Piece.join pieces.reverse
      drop 1
      if scope.verbose && Text.isAsciiSpace c then
        sequence fuel scope pieces
      else if scope.verbose && c == '#' then
        skipLine ((← left) + 1)
        sequence fuel scope pieces
      else if c == '*' || c == '+' || c == '?' || c == '\x7b' then
        match ← repeatCounts c with
        | none => sequence fuel scope (Piece.literal scope c.toNat :: pieces)
        | some (least, most) =>
          let pieces ← repeatLast start least most pieces
          sequence fuel scope pieces
      else if c == '(' then
        let opening ← opening
        match ← groupPiece scope start (alternation fuel) (sequence fuel scope []) opening with
        | some piece => sequence fuel scope (piece :: pieces)
        | none => sequence fuel scope pieces
      else
        let piece ← signPiece scope start c
        sequence fuel scope (piece :: pieces)

end

/-- Whether flags for the whole pattern come next, after comments and blanks that mean nothing
under the flags; they are taken if so. -/
def leadingFlags (scope : Flags) : (fuel : Nat) → Reader (Option Flags)
  | 0 => return none
  | fuel + 1 => do
    let start ← offset
    match ← peek with
    | some (.plain c) =>
      if scope.verbose && Text.isAsciiSpace c then
        drop 1
        leadingFlags scope fuel
      else if scope.verbose && c == '#' then
        drop 1
        skipLine ((← left) + 1)
        leadingFlags scope fuel
      else if c == '(' then
        drop 1
        match ← opening with
        | .comment =>
          skipComment start ((← left) + 1)
          leadingFlags scope fuel
        | .flags on => return some on
        | _ => return none
      else return none
    | _ => return none

/-- The flags of the whole pattern: those given and those at its very start. -/
def globalFlags : (fuel : Nat) → (given : Flags) → Reader Flags
  | 0, given => return given
  | fuel + 1, given => do
    let here ← get
    match ← leadingFlags given ((← left) + 1) with
    | some on => globalFlags fuel (given.union on)
    | none =>
      rewind here
      return given

end Reader

/-- The first part of a tree, read from left to right and from outside in, that cannot be
matched: a look-behind without a fixed width, or a repetition where none is allowed. -/
def Node.firstCause (plain : Bool) : Node → Option Cause
  | .seq first second => (first.firstCause plain).or (second.firstCause plain)
  | .choice first second => (first.firstCause plain).or (second.firstCause plain)
  | .iterate greed _ _ body =>
    if plain then
      some (.plainRepeat (match greed with
        | .greedy => "MAX_REPEAT"
        | .lazy => "MIN_REPEAT"
        | .possessive => "POSSESSIVE_REPEAT"))
    else body.firstCause plain
  | .group _ body => body.firstCause plain
  | .condition _ present absent => (present.firstCause plain).or (absent.firstCause plain)
  | .look ahead _ width body =>
    if ahead then body.firstCause plain
    else if width.least ≥ Nat.pow 2 32 then some .lookbehindTooWide
    else if width.least != width.most then some .lookbehindWidth
    else body.firstCause plain
  | .atomic body => body.firstCause plain
  | _ => none

/-- A pattern that is ready to be matched. -/
structure Pattern where
  source : String
  flags : Flags
  groups : Nat
  names : List (String × Nat)
  node : Node
  deriving DecidableEq, Repr, Inhabited

/-- Refuses a pattern for what only the whole of it tells. -/
def Reader.checkWhole (flags : Flags) (node : Node) : Reader Unit := do
  if flags.ascii && flags.unicode then throw .repertoireClash
  let reading ← get
  if !reading.rest.isEmpty then Reader.fail .unbalancedClose 0
  match reading.conditions.find? fun condition => condition.1 > reading.widths.length with
  | some (group, position) => Reader.failAt (.invalidReference group) position
  | none =>
    match node.firstCause flags.plain with
    | some cause => throw (.malformed cause none reading.source)
    | none => pure ()

/-- The pattern that is read from a source. -/
def Reader.pattern (source : String) (given : Flags) : Reader Pattern := do
  Reader.checkEscape
  let flags ← Reader.globalFlags (source.length + 1) given
  let piece ← Reader.alternation (2 * source.length + 4) flags
  Reader.checkWhole flags piece.node
  let reading ← get
  return {
    source := source
    flags := if flags.ascii then flags else { flags with unicode := true }
    groups := reading.widths.length
    names := reading.names
    node := piece.node }

/-- The pattern that a source writes under flags given from outside. -/
def Pattern.parse (source : String) (flags : Flags) : Except Fault Pattern :=
  (Reader.pattern source flags).run' (Reading.start source)

end Structex.Regex
