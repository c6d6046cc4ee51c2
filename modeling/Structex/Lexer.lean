import Structex.Check
import Structex.Code
import Structex.Match

/-!
# Lexers

A lexer classifies runs of a text by an ordered list of named patterns. The patterns become the
branches of one alternation, each in a group of its own; the branch whose group took part in a
match is the definition that fired. Text that no match covers becomes error tokens, so that every
offset is accounted for.
-/

namespace Structex

/-- A token definition as given: its name, its pattern, and whether its tokens are left out. -/
structure TokenDefinition where
  name : Value
  pattern : PatternArgument
  skip : Bool

/-- What is given for a token definition. -/
inductive TokenArgument where
  | ready (definition : TokenDefinition)
  /-- A mapping with a name, a pattern, and perhaps a skip mark. -/
  | mapping (name : Option Value) (pattern : Option PatternArgument) (skip : Value)
  /-- A value that defines no token, by the text that shows it. -/
  | other (shown : String)

/-- Why no lexer comes of a list of definitions. -/
inductive LexerFault where
  | missingField (field : String)
  | unsupported (shown : String)
  | invalidToken (name : Value) (cause : Invalid)
  | conflict (fault : Regex.Fault)
  /-- A pattern has counts or flags that reading gives up on. -/
  | unreadable (fault : Regex.Fault)

/-- The message of a fault. -/
def LexerFault.message : LexerFault → String
  | .missingField field => "Token definition missing field: " ++ Text.quoted field
  | .unsupported shown => "Unsupported token definition: " ++ shown
  | .invalidToken name cause => "Invalid token '" ++ name.plain ++ "': " ++ cause.message
  | .conflict fault => "Token definitions cannot be combined: " ++ fault.message
  | .unreadable fault => fault.message

/-- The code of a fault. -/
def LexerFault.code : LexerFault → Code
  | .conflict _ => .conflict
  | _ => .invalidInput

namespace TokenArgument

/-- The definition that is given. -/
def coerce : TokenArgument → Except LexerFault TokenDefinition
  | .ready definition => .ok definition
  | .mapping none _ _ => .error (.missingField "name")
  | .mapping (some _) none _ => .error (.missingField "pattern")
  | .mapping (some name) (some pattern) skip => .ok ⟨name, pattern, skip.isTruthy⟩
  | .other shown => .error (.unsupported shown)

end TokenArgument

/-- A definition with its pattern read. -/
structure TokenRule where
  name : String
  pattern : Regex.Pattern
  skip : Bool
  deriving Inhabited

namespace TokenRule

/-- The rule of a definition. -/
def ofArgument (argument : TokenArgument) : Except LexerFault TokenRule := do
  let definition ← argument.coerce
  match Check.token definition.name definition.pattern with
  | .ok pattern =>
    match definition.name with
    | .str name => return ⟨name, pattern, definition.skip⟩
    | other => throw (.invalidToken other (.nameKind "Token" other))
  | .error (.invalid cause) => throw (.invalidToken definition.name cause)
  | .error (.unreadable fault) => throw (.unreadable fault)

/-- The letters of the flags that a group can switch on for its contents. -/
def flagLetters (flags : Regex.Flags) : List Char :=
  (if flags.ignoreCase then ['i'] else []) ++ (if flags.multiline then ['m'] else []) ++
  (if flags.dotAll then ['s'] else []) ++ (if flags.verbose then ['x'] else []) ++
  (if flags.ascii then ['a'] else [])

/-- The source of the rule's pattern, in a group that keeps its flags. A line feed before the end
of a verbose group closes a comment that may stand there. -/
def scopedSource (pattern : Regex.Pattern) : String :=
  let letters := flagLetters pattern.flags
  if letters.isEmpty then pattern.source
  else
    "(?" ++ String.ofList letters ++ ":" ++ pattern.source ++
      (if pattern.flags.verbose then "\n)" else ")")

/-- The number of the group around each rule's branch, the first of them given. -/
def offsetsFrom : (next : Nat) → List TokenRule → List Nat
  | _, [] => []
  | next, rule :: rest => next :: offsetsFrom (next + 1 + rule.pattern.groups) rest

/-- How many groups the alternation of rules has, those around the branches included. -/
def groupTotal : List TokenRule → Nat
  | [] => 0
  | rule :: rest => 1 + rule.pattern.groups + groupTotal rest

/-- The source of the alternation of all rules. -/
def combinedSource (rules : List TokenRule) : String :=
  String.intercalate "|" (rules.map fun rule => "(" ++ scopedSource rule.pattern ++ ")")

end TokenRule

/-- A token: its kind, its text, the groups of its definition with the token itself first, and
where it begins and ends. An error token has no groups. -/
structure LexToken where
  kind : String
  value : String
  groups : List String
  start : Nat
  stop : Nat
  deriving DecidableEq, Repr

namespace LexToken

/-- Whether the token stands for text that no definition takes. -/
def isError (token : LexToken) : Bool :=
  token.kind == errorTokenName

/-- The token for text between two offsets that no definition takes. -/
def error (text : String) (start stop : Nat) : LexToken :=
  ⟨errorTokenName, Text.slice text start stop, [], start, stop⟩

end LexToken

/-- A lexer: its rules in order and the alternation of their patterns, which is missing when there
are no rules. -/
structure Lexer where
  rules : List TokenRule
  combined : Option Regex.Pattern
  deriving Inhabited

namespace Lexer

/-- The lexer of rules. -/
def ofRules (rules : List TokenRule) : Except LexerFault Lexer :=
  if rules.isEmpty then .ok ⟨rules, none⟩
  else
    match Regex.Pattern.parse (TokenRule.combinedSource rules) {} with
    | .ok combined => .ok ⟨rules, some combined⟩
    | .error (.malformed cause position source) =>
      .error (.conflict (.malformed cause position source))
    | .error fault => .error (.unreadable fault)

/-- The lexer of definitions. -/
def create (arguments : List TokenArgument) : Except LexerFault Lexer := do
  ofRules (← arguments.mapM TokenRule.ofArgument)

/-- The number of the group around each rule's branch. -/
def offsets (lexer : Lexer) : List Nat :=
  TokenRule.offsetsFrom 1 lexer.rules

/-- The first rule whose group took part in a match, with the number of that group. -/
def fired? (lexer : Lexer) (found : Match) : Option (TokenRule × Nat) :=
  (lexer.rules.zip lexer.offsets).find? fun entry => (found.group? entry.2).isSome

/-- The token that a rule makes of a match whose group number is given. -/
def token (rule : TokenRule) (offset : Nat) (found : Match) : LexToken where
  kind := rule.name
  value := found.text
  groups := found.text ::
    (((found.groups.drop (offset + 1)).take rule.pattern.groups).map (·.getD ""))
  start := found.start
  stop := found.stop

/-- The tokens from an offset on, given the matches after it. -/
def tokensFrom (lexer : Lexer) (text : String) : (last : Nat) → List Match → List LexToken
  | last, [] => if last < text.length then [LexToken.error text last text.length] else []
  | last, found :: rest =>
    match lexer.fired? found with
    | none => tokensFrom lexer text last rest
    | some (rule, offset) =>
      (if last < found.start then [LexToken.error text last found.start] else []) ++
        (if rule.skip then [] else [token rule offset found]) ++
        tokensFrom lexer text found.stop rest

/-- The tokens of a text. -/
def scan (lexer : Lexer) (text : String) : List LexToken :=
  match lexer.combined with
  | some combined => lexer.tokensFrom text 0 (combined.findMatches text)
  | none => lexer.tokensFrom text 0 []

end Lexer

end Structex
