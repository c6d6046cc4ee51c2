import Structex.Value.Basic

/-!
# Keys and entries

When two keys of a mapping are the same, and how entries are looked up and put. Numbers are one
key when they are equal as numbers, whatever their kind, and true and false count as one and zero.
-/

namespace Structex

/-- The integer that a floating-point number is, if it is one. -/
def wholeNumber? (number : Float) : Option Int :=
  if number.isNaN || number.isInf || number.floor != number then none
  else
    let bits := number.toBits
    let fraction := (bits &&& 0xfffffffffffff).toNat
    let biased := ((bits >>> 52) &&& 0x7ff).toNat
    let magnitude : Nat :=
      if biased == 0 then 0
      else if biased ≥ 1075 then (fraction + Nat.pow 2 52) * Nat.pow 2 (biased - 1075)
      else (fraction + Nat.pow 2 52) / Nat.pow 2 (1075 - biased)
    some (if bits >>> 63 == 0 then (magnitude : Int) else -(magnitude : Int))

namespace Value

/-- The integer that a number or a truth value is equal to, if it is equal to one. -/
def asInteger? : Value → Option Int
  | .bool flag => some (if flag then 1 else 0)
  | .int number => some number
  | .float number => wholeNumber? number
  | _ => none

mutual

/-- Whether two values are the same key. -/
def sameKey : Value → Value → Bool
  | .null, .null => true
  | .str left, .str right => left == right
  | .date left, .date right => left == right
  | .moment left, .moment right => left == right
  | .tuple left, .tuple right => sameKeys left right
  | .float left, .float right => left == right
  | .pattern left, .pattern right => left == right
  | .record left _, .record right _ => left.number == right.number
  | .object left _, .object right _ => left.number == right.number
  | left, right =>
    match left.asInteger?, right.asInteger? with
    | some leftNumber, some rightNumber => leftNumber == rightNumber
    | _, _ => false

/-- Whether two sequences are the same key item by item. -/
def sameKeys : List Value → List Value → Bool
  | [], [] => true
  | left :: lefts, right :: rights => sameKey left right && sameKeys lefts rights
  | _, _ => false

end

mutual

/-- Whether the value may be a key, that is, holds no sequence or mapping that can change. -/
def isKey : Value → Bool
  | .list _ => false
  | .map _ => false
  | .tuple items => areKeys items
  | .record traits _ => traits.isKey
  | .object traits _ => traits.isKey
  | _ => true

/-- Whether all items may be keys. -/
def areKeys : List Value → Bool
  | [] => true
  | item :: rest => isKey item && areKeys rest

end

end Value

namespace Entries

/-- The value under a key. -/
def find? (entries : Entries) (key : Value) : Option Value :=
  (List.find? (fun entry => entry.1.sameKey key) entries).map (·.2)

/-- The value under a text key. -/
def get? (entries : Entries) (key : String) : Option Value :=
  entries.find? (.str key)

/-- Whether the mapping has the text key. -/
def hasKey (entries : Entries) (key : String) : Bool :=
  (entries.get? key).isSome

/-- The entries with a value put under a key: in the key's place if the mapping has it, else at
the end. -/
def put (entries : Entries) (key value : Value) : Entries :=
  match entries with
  | [] => [(key, value)]
  | (other, old) :: rest =>
    if other.sameKey key then (other, value) :: rest else (other, old) :: put rest key value

/-- The entries without a key. -/
def erase (entries : Entries) (key : Value) : Entries :=
  List.filter (fun entry => !entry.1.sameKey key) entries

/-- The entries put one after another, so that a later one replaces an earlier one of its key. -/
def ofList (pairs : List (Value × Value)) : Entries :=
  pairs.foldl (fun entries pair => entries.put pair.1 pair.2) []

end Entries

@[simp] theorem Value.sameKey_str (left right : String) :
    (Value.str left).sameKey (.str right) = (left == right) := by
  simp [Value.sameKey]

end Structex
