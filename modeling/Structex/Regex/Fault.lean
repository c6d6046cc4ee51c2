import Structex.Text.Quoted

/-!
# Faults of patterns

Why the source of a pattern is refused. Most causes have a place in the source, which the message
names by offset, and by line and column as well when the source has several lines.
-/

namespace Structex.Regex

/-- What is wrong with the source of a pattern. -/
inductive Cause where
  | unclosedGroup
  | unbalancedClose
  | unclosedSet
  | nothingToRepeat
  | multipleRepeat
  | leastAboveMost
  | endOfPattern
  | missingName (what : String)
  | unclosedName (terminator : Char)
  | unclosedComment
  | badName (name : String)
  | redefinedName (name : String) (group earlier : Nat)
  | unknownName (name : String)
  | unknownExtension (text : String)
  | lookbehindWidth
  | lookbehindTooWide
  | invalidReference (group : Nat)
  | openReference
  | lookbehindReference
  | badEscape (text : String)
  | escapeAtEnd
  | incompleteEscape (text : String)
  | octalTooLarge (text : String)
  | badRange (low high : String)
  | missingFlagsEnd
  | missingFlag
  | missingColon
  | unknownFlag
  | localeFlag
  | incompatibleFlags
  | offRepertoire
  | onGlobal
  | offGlobal
  | onAndOff
  | misplacedFlags
  | tooManyBranches
  | badGroupNumber
  | missingBrace
  | undefinedCharacter (name : String)
  | plainRepeat (kind : String)
  deriving DecidableEq, Repr

/-- The wording of a cause. -/
def Cause.text : Cause → String
  | .unclosedGroup => "missing ), unterminated subpattern"
  | .unbalancedClose => "unbalanced parenthesis"
  | .unclosedSet => "unterminated character set"
  | .nothingToRepeat => "nothing to repeat"
  | .multipleRepeat => "multiple repeat"
  | .leastAboveMost => "min repeat greater than max repeat"
  | .endOfPattern => "unexpected end of pattern"
  | .missingName what => "missing " ++ what
  | .unclosedName terminator => "missing " ++ String.ofList [terminator] ++ ", unterminated name"
  | .unclosedComment => "missing ), unterminated comment"
  | .badName name => "bad character in group name " ++ Text.quoted name
  | .redefinedName name group earlier =>
    "redefinition of group name " ++ Text.quoted name ++ " as group " ++ toString group ++
      "; was group " ++ toString earlier
  | .unknownName name => "unknown group name " ++ Text.quoted name
  | .unknownExtension text => "unknown extension " ++ text
  | .lookbehindWidth => "look-behind requires fixed-width pattern"
  | .lookbehindTooWide => "looks too much behind"
  | .invalidReference group => "invalid group reference " ++ toString group
  | .openReference => "cannot refer to an open group"
  | .lookbehindReference => "cannot refer to group defined in the same lookbehind subpattern"
  | .badEscape text => "bad escape " ++ text
  | .escapeAtEnd => "bad escape (end of pattern)"
  | .incompleteEscape text => "incomplete escape " ++ text
  | .octalTooLarge text => "octal escape value " ++ text ++ " outside of range 0-0o377"
  | .badRange low high => "bad character range " ++ low ++ "-" ++ high
  | .missingFlagsEnd => "missing -, : or )"
  | .missingFlag => "missing flag"
  | .missingColon => "missing :"
  | .unknownFlag => "unknown flag"
  | .localeFlag => "bad inline flags: cannot use 'L' flag with a str pattern"
  | .incompatibleFlags => "bad inline flags: flags 'a', 'u' and 'L' are incompatible"
  | .offRepertoire => "bad inline flags: cannot turn off flags 'a', 'u' and 'L'"
  | .onGlobal => "bad inline flags: cannot turn on global flag"
  | .offGlobal => "bad inline flags: cannot turn off global flag"
  | .onAndOff => "bad inline flags: flag turned on and off"
  | .misplacedFlags => "global flags not at the start of the expression"
  | .tooManyBranches => "conditional backref with more than two branches"
  | .badGroupNumber => "bad group number"
  | .missingBrace => "missing \x7b"
  | .undefinedCharacter name => "undefined character name " ++ Text.quoted name
  | .plainRepeat kind => "internal: unsupported template operator " ++ kind

/-- Why no pattern comes of a source. -/
inductive Fault where
  /-- The source breaks the grammar, at an offset if the cause has a place. -/
  | malformed (cause : Cause) (position : Option Nat) (source : List Char)
  /-- A repeat count, or the number of a character, is beyond all bounds. -/
  | numberTooLarge
  /-- The source asks for a repertoire that the flags given from outside exclude. -/
  | repertoireClash
  deriving DecidableEq, Repr

/-- The line of an offset, from one. -/
def lineAt (source : List Char) (position : Nat) : Nat :=
  (source.take position).count '\n' + 1

/-- The column of an offset, from one. -/
def columnAt (source : List Char) (position : Nat) : Nat :=
  ((source.take position).reverse.takeWhile (· != '\n')).length + 1

/-- The message of a fault. -/
def Fault.message : Fault → String
  | .malformed cause none _ => cause.text
  | .malformed cause (some position) source =>
    cause.text ++ " at position " ++ toString position ++
      (if source.contains '\n' then
        " (line " ++ toString (lineAt source position) ++ ", column " ++
          toString (columnAt source position) ++ ")"
      else "")
  | .numberTooLarge => "the number is too large"
  | .repertoireClash => "ASCII and UNICODE flags are incompatible"

end Structex.Regex
