import Structex.Identifier.Twister
import Structex.Text.Quoted
import Structex.Value.Key

/-!
# Identifiers

Identifiers of sixteen hexadecimal digits: eight of the clock in milliseconds and eight random
ones.
-/

namespace Structex

/-- The integer part of a number, towards zero, if it has one. -/
def truncate? (number : Float) : Option Int :=
  wholeNumber? (if number < 0.0 then number.ceil else number.floor)

namespace Identifier

/-- How many digits an identifier has. -/
def length : Nat := 16

/-- The low 32 bits of the milliseconds of a clock in seconds, if it shows a time. -/
def milliseconds? (clock : Float) : Option Nat :=
  (truncate? (clock * 1000.0)).map fun count => (count % 0x100000000).toNat

/-- The identifier of a clock's milliseconds and a random word. -/
def ofParts (milliseconds : Nat) (random : UInt32) : String :=
  String.ofList (Text.hexDigits 8 milliseconds ++ Text.hexDigits 8 random.toNat)

/-- An identifier has sixteen characters. -/
theorem length_ofParts (milliseconds : Nat) (random : UInt32) :
    (ofParts milliseconds random).length = length := by
  simp [ofParts, length]

/-- The next identifier of a generator at a clock, and the generator after it. -/
def next? (generator : Twister) (clock : Float) : Option (String × Twister) :=
  (milliseconds? clock).map fun count =>
    let (random, generator) := generator.next
    (ofParts count random, generator)

end Identifier

end Structex
