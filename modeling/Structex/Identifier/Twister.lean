/-!
# Random words

The generator of pseudo-random 32-bit words with a state of 624 words and a period of
2 ^ 19937 - 1, seeded from the words of a number. Every word is a fixed function of the seed and of
how many were drawn before.
-/

namespace Structex

/-- The state of the generator: its words and how many of them are used up. -/
structure Twister where
  words : Array UInt32
  used : Nat
  deriving Inhabited

namespace Twister

/-- How many words the state has. -/
def size : Nat := 624

/-- The distance of the word that a word is mixed with. -/
def shift : Nat := 397

/-- The word at a place; places go round. -/
def wordAt (words : Array UInt32) (place : Nat) : UInt32 :=
  (words[place % size]?).getD 0

/-- The words with the next one, made of the last and of its place. -/
def grow (words : Array UInt32) (index : Nat) : Array UInt32 :=
  let last : UInt32 := (words[index]?).getD 0
  let place : UInt32 := (index + 1).toUInt32
  words.push ((1812433253 : UInt32) * (last ^^^ (last >>> 30)) + place)

/-- The words that follow from one seed word. -/
def ofWord (seed : UInt32) : Array UInt32 :=
  (List.range (size - 1)).foldl grow #[seed]

/-- The little-endian words of a number, at least one. -/
def wordsOf (number : Nat) : List UInt32 :=
  if number < 0x100000000 then [number.toUInt32]
  else (number % 0x100000000).toUInt32 :: wordsOf (number / 0x100000000)
termination_by number
decreasing_by omega

/-- One round of mixing words into the state: the place moves on and goes round from the last to
the second, the first then taking over the last. -/
def mix (value : UInt32 → UInt32 → UInt32) (state : Array UInt32 × Nat) : Array UInt32 × Nat :=
  let (words, place) := state
  let before := (words[place - 1]?).getD 0
  let here := (words[place]?).getD 0
  let words := words.setIfInBounds place (value here (before ^^^ (before >>> 30)))
  if place + 1 ≥ size then (words.setIfInBounds 0 ((words[size - 1]?).getD 0), 1)
  else (words, place + 1)

/-- The generator that a number seeds; its sign does not matter. -/
def ofSeed (seed : Int) : Twister :=
  let key := wordsOf seed.natAbs
  let length := key.length
  let first := (List.range (max size length)).foldl (fun state round =>
    let index := round % length
    mix (fun here mixed => (here ^^^ (mixed * 1664525)) + (key[index]?).getD 0 + index.toUInt32)
      state) (ofWord 19650218, 1)
  let second := (List.range (size - 1)).foldl (fun state _ =>
    mix (fun here mixed => (here ^^^ (mixed * 1566083941)) - state.2.toUInt32) state) first
  ⟨second.1.setIfInBounds 0 0x80000000, size⟩

/-- The next words of the state from the present ones. -/
def twist (words : Array UInt32) : Array UInt32 :=
  (List.range size).foldl (fun words place =>
    let joined := (wordAt words place &&& 0x80000000) ||| (wordAt words (place + 1) &&& 0x7fffffff)
    let mixed := wordAt words (place + shift) ^^^ (joined >>> 1)
    words.setIfInBounds place (if joined &&& 1 == 0 then mixed else mixed ^^^ 0x9908b0df)) words

/-- A word of the state as it is given out. -/
def temper (word : UInt32) : UInt32 :=
  let word := word ^^^ (word >>> 11)
  let word := word ^^^ ((word <<< 7) &&& 0x9d2c5680)
  let word := word ^^^ ((word <<< 15) &&& 0xefc60000)
  word ^^^ (word >>> 18)

/-- The next random word, and the generator after it. -/
def next (generator : Twister) : UInt32 × Twister :=
  let generator := if generator.used < size then generator else ⟨twist generator.words, 0⟩
  (temper (wordAt generator.words generator.used), { generator with used := generator.used + 1 })

end Twister

end Structex
