import Structex.Engine
import Structex.Proofs.Settings.Reloading

/-!
# Files with settings and with rules

Whatever reader is used, a file of settings becomes a layer as a whole, and a file of rules gives a
list of definitions; otherwise nothing is changed, and the fault says what is wrong with the file.
It is told as a fault of the file unless reading breaks off: at bytes that are the encoding of no
text, or where the reader ends with another error than one of form. A reader of YAML texts does so
at a day that does not exist.
-/

namespace Structex

namespace Files

variable {reader : TextReader} {files : Files} {path : String}

/-- Reading comes upon bytes that are the encoding of no text, or the reader ends with another error
than one of form. -/
def BreaksOff (files : Files) (reader : TextReader) (path : String) : Prop :=
  files.find? path = some .garbled ∨
    ∃ text errorName, files.find? path = some (.text text) ∧
      reader text = .error (.other errorName)

end Files

/-- What is wrong with a file of which a value of some kind is wanted. -/
inductive FileCause.IsRight (reader : TextReader) (files : Files) (path : String)
    (wanted : Value → Prop) : FileCause → Prop
  | missing (absent : files.find? path = none) : IsRight reader files path wanted .missing
  | directory (found : files.find? path = some .directory) :
      IsRight reader files path wanted (.directory ((Files.plainPath? path).getD path))
  | unreadable {reason : String} (found : files.find? path = some (.unreadable reason)) :
      IsRight reader files path wanted (.unreadable reason)
  | garbled (found : files.find? path = some .garbled) :
      IsRight reader files path wanted .garbled
  | malformed {text : String} {fault : ReadFault} (found : files.find? path = some (.text text))
      (unread : reader text = .error fault) :
      IsRight reader files path wanted (.malformed fault)
  | shape {text : String} {content : Shared} (found : files.find? path = some (.text text))
      (read : reader text = .ok content) (unwanted : ¬ wanted content.value) :
      IsRight reader files path wanted .shape

namespace FileCause

variable {reader : TextReader} {files : Files} {path : String} {wanted : Value → Prop}

end FileCause

namespace LoadFault

/-- A fault says what it should of a file that was to be read. -/
structure Tells (reader : TextReader) (files : Files) (purpose : FilePurpose) (path : String)
    (wanted : Value → Prop) (fault : LoadFault) : Prop where
  ofPurpose : fault.purpose = purpose
  ofPath : fault.path = path
  isRight : fault.cause.IsRight reader files path wanted
  /-- It is told as a fault of the file unless reading breaks off. -/
  told : (∃ message code, fault.report = .ofFile message code) ↔ ¬ files.BreaksOff reader path

end LoadFault

/-- A file of rules gives the list that its value holds. -/
theorem RuleDefinition.loadFile_eq_ok_iff {reader : TextReader} {files : Files} {path : String}
    {items : List Value} :
    RuleDefinition.loadFile reader files path = .ok items ↔
      ∃ value, files.value reader path = .ok value ∧ listOf? value = some items := by
  rw [RuleDefinition.loadFile]
  cases files.value reader path with
  | error cause => simp
  | ok value => cases held : listOf? value <;> simp [held]

end Structex
