import Structex.Rule.Registry
import Structex.Settings.Loading

/-!
# Rules from files

A file of rules holds a list of definitions, or a mapping with the list under a key of its own. An
empty file holds none.
-/

namespace Structex

namespace RuleDefinition

/-- The key under which a file's mapping has its list of definitions. -/
def listKey : String := "patterns"

/-- The list that the value of a file holds. -/
def listOf? : Value → Option (List Value)
  | .null => some []
  | .list items => some items
  | .map entries =>
    match Entries.get? entries listKey with
    | none => some []
    | some (.list items) => some items
    | some _ => none
  | _ => none

/-- The definitions of a file, not checked yet. -/
def loadFile (reader : TextReader) (files : Files) (path : String) :
    Except LoadFault (List Value) :=
  match files.value reader path with
  | .error cause => .error ⟨.rules, path, cause⟩
  | .ok content =>
    match listOf? content with
    | some items => .ok items
    | none => .error ⟨.rules, path, .shape⟩

end RuleDefinition

end Structex
