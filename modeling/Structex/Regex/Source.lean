import Structex.Regex.Fault
import Structex.Regex.Flags
import Structex.Regex.Node

/-!
# Reading the source of a pattern

The state in which a source is read, and the small steps that the grammar is made of. The source
is taken in tokens: a character, or a backslash with the character after it. A backslash that ends
the source is refused as soon as the token before it has been taken.
-/

namespace Structex.Regex

/-- A unit of the source. -/
inductive Token where
  | plain (c : Char)
  | escape (c : Char)
  deriving DecidableEq, Repr

namespace Token

/-- The characters of a token. -/
def chars : Token → List Char
  | .plain c => [c]
  | .escape c => ['\\', c]

/-- The text of a token. -/
def text (token : Token) : String :=
  String.ofList token.chars

/-- How many characters the token has. -/
def width (token : Token) : Nat :=
  token.chars.length

/-- Whether the token is a letter by itself. -/
def isLetter : Token → Bool
  | .plain c => Text.isLetter c
  | .escape _ => false

end Token

/-- The token that a source starts with. -/
def firstToken : List Char → Option Token
  | [] => none
  | ['\\'] => none
  | '\\' :: c :: _ => some (.escape c)
  | c :: _ => some (.plain c)

/-- What is known while a source is read: what is left of it, and the groups seen so far. The width
of a group is known once the group is closed. -/
structure Reading where
  source : List Char
  rest : List Char
  position : Nat
  names : List (String × Nat)
  widths : List (Option Width)
  /-- Inside a look-behind, the number of the first group that it may not refer to. -/
  lookbehindLimit : Option Nat
  /-- The groups that conditions ask for by number, with the first place of each. -/
  conditions : List (Nat × Nat)
  /-- The groups that references ask for by number. -/
  references : List Nat
  deriving Inhabited

/-- The state in which a source is begun. -/
def Reading.start (source : String) : Reading where
  source := source.toList
  rest := source.toList
  position := 0
  names := []
  widths := []
  lookbehindLimit := none
  conditions := []
  references := []

/-- The width of a group that has been closed. -/
def Reading.closedWidth? (reading : Reading) (group : Nat) : Option Width :=
  if group == 0 then none else (reading.widths[group - 1]?).join

/-- A step of reading. -/
abbrev Reader (α : Type) := StateT Reading (Except Fault) α

namespace Reader

/-- Refuses the source, with the offset of the fault. -/
def failAt {α : Type} (cause : Cause) (position : Nat) : Reader α := do
  let reading ← get
  throw (.malformed cause (some position) reading.source)

/-- Refuses the source so many characters before the current offset. -/
def fail {α : Type} (cause : Cause) (back : Nat) : Reader α := do
  let reading ← get
  failAt cause (reading.position - back)

/-- The current offset. -/
def offset : Reader Nat := do
  return (← get).position

/-- How many characters are left. -/
def left : Reader Nat := do
  return (← get).rest.length

/-- The next token, which is not taken. -/
def peek : Reader (Option Token) := do
  return firstToken (← get).rest

/-- Whether the next token is the character. -/
def sees (c : Char) : Reader Bool := do
  return (← peek) == some (.plain c)

/-- Refuses a source of which only a backslash is left. -/
def checkEscape : Reader Unit := do
  let reading ← get
  match reading.rest with
  | ['\\'] => failAt .escapeAtEnd (reading.source.length - 1)
  | _ => pure ()

/-- Takes so many characters off the source. -/
def drop (count : Nat) : Reader Unit := do
  modify fun reading =>
    { reading with rest := reading.rest.drop count, position := reading.position + count }
  checkEscape

/-- Takes the next token; there is none at the end. -/
def next : Reader (Option Token) := do
  match ← peek with
  | some token => do
    drop token.width
    return some token
  | none => return none

/-- Takes the next token if it is the character. -/
def accept (c : Char) : Reader Bool := do
  if ← sees c then
    drop 1
    return true
  else
    return false

/-- Goes back to an earlier state of reading. -/
def rewind (earlier : Reading) : Reader Unit :=
  set earlier

/-- Takes characters of a class, at most so many. -/
def takeSome (holds : Char → Bool) : (most : Nat) → Reader (List Char)
  | 0 => return []
  | most + 1 => do
    match ← peek with
    | some (.plain c) =>
      if holds c then
        drop 1
        return c :: (← takeSome holds most)
      else
        return []
    | _ => return []

/-- Takes the source up to a closing character, which is taken too. -/
def untilLoop (terminator : Char) (what : String) : (fuel : Nat) → (taken : List Char) →
    Reader (List Char)
  | 0, taken => return taken
  | fuel + 1, taken => do
    match ← next with
    | none =>
      if taken.isEmpty then fail (.missingName what) 0
      else fail (.unclosedName terminator) taken.length
    | some token =>
      if token == .plain terminator then
        if taken.isEmpty then fail (.missingName what) 1 else return taken
      else
        untilLoop terminator what fuel (taken ++ token.chars)

/-- Takes a name that a character closes. -/
def takeName (terminator : Char) (what : String) : Reader (List Char) := do
  untilLoop terminator what ((← left) + 1) []

/-- Refuses a name that is no identifier. -/
def checkName (name : List Char) : Reader Unit := do
  if Text.isIdentifier name then pure ()
  else fail (.badName (String.ofList name)) (name.length + 1)

/-- How many groups the source has opened so far. -/
def groupCount : Reader Nat := do
  return (← get).widths.length

/-- Gives a group its name; a name that a group has already is refused. -/
def nameGroup (chars : List Char) (group : Nat) : Reader Unit := do
  let text := String.ofList chars
  match (← get).names.lookup text with
  | some earlier => fail (.redefinedName text group earlier) (chars.length + 1)
  | none => modify fun reading => { reading with names := reading.names ++ [(text, group)] }

/-- Opens a group and gives its number. -/
def openGroup (name : Option (List Char)) : Reader Nat := do
  let group := (← groupCount) + 1
  match name with
  | none => pure ()
  | some chars => nameGroup chars group
  modify fun reading => { reading with widths := reading.widths ++ [none] }
  return group

/-- Closes a group whose contents have the width. -/
def closeGroup (group : Nat) (width : Width) : Reader Unit :=
  modify fun reading => { reading with widths := reading.widths.set (group - 1) (some width) }

/-- The group of a name; a name that no group has is refused. -/
def namedGroup (name : List Char) : Reader Nat := do
  let text := String.ofList name
  match (← get).names.lookup text with
  | some group => return group
  | none => fail (.unknownName text) (name.length + 1)

/-- The width of a group that a reference may be made to: one that has been closed. -/
def referredWidth (group back : Nat) : Reader Width := do
  match (← get).closedWidth? group with
  | some width => return width
  | none => fail .openReference back

/-- Notes that a reference asks for a group by its number. -/
def noteReference (group : Nat) : Reader Unit :=
  modify fun reading => { reading with references := reading.references ++ [group] }

/-- Notes that a condition asks for a group by its number, so many characters before the current
offset; the first place is kept. -/
def noteCondition (group back : Nat) : Reader Unit :=
  modify fun reading =>
    if (reading.conditions.lookup group).isSome then reading
    else { reading with conditions := reading.conditions ++ [(group, reading.position - back)] }

/-- Refuses a reference from a look-behind to a group that it may not refer to. -/
def checkLookbehind (group : Nat) : Reader Unit := do
  let reading ← get
  match reading.lookbehindLimit with
  | none => pure ()
  | some limit =>
    if (reading.closedWidth? group).isNone then fail .openReference 0
    else if limit ≤ group then fail .lookbehindReference 0
    else pure ()

/-- Sets the first group that may not be referred to. -/
def limitReferences (limit : Option Nat) : Reader Unit :=
  modify fun reading => { reading with lookbehindLimit := limit }

/-- Reads the body of a look-behind. Inside the outermost one a reference may not be made to a
group that is opened in it. -/
def lookingBehind {α : Type} (body : Reader α) : Reader α := do
  if (← get).lookbehindLimit.isSome then body
  else
    limitReferences (some ((← groupCount) + 1))
    let contents ← body
    limitReferences none
    return contents

/-- Refuses the source unless a parenthesis closes the group that was opened at the offset. -/
def close (start : Nat) : Reader Unit := do
  if ← accept ')' then pure () else failAt .unclosedGroup start

/-- Reads the contents of a group that was opened at the offset, with the closing parenthesis. -/
def closing {α : Type} (start : Nat) (contents : Reader α) : Reader α := do
  let read ← contents
  close start
  return read

end Reader

end Structex.Regex
