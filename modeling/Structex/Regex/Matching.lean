import Structex.Regex.Node

/-!
# Matching

How a pattern tree is matched at a place of a text: by ordered choice with backtracking. A node is
given what is to happen after it, tries its ways in order, and gives the first outcome with which
all that follows succeeds.

A repetition goes round without bound only while it moves on: a round that took nothing is the
last. So the length of the text and the least count bound the rounds, and the loops are written
with that fuel.
-/

namespace Structex.Regex

/-- The spans that groups have taken, the latest first. -/
abbrev Captures := List (Nat × Nat × Nat)

/-- The span that a group took last. -/
def Captures.span? (captures : Captures) (group : Nat) : Option (Nat × Nat) :=
  captures.lookup group

/-- How far a match has come. -/
structure Place where
  position : Nat
  captures : Captures
  deriving DecidableEq, Repr

/-- A way of going on from a place with what is to follow. -/
abbrev Step := Place → (Place → Option Place) → Option Place

/-- Whether another round is allowed after so many. -/
def allowsRound (most : Option Nat) (count : Nat) : Bool :=
  match most with
  | none => true
  | some most => count < most

/-- Rounds of a body, as many as possible first. `last` is where the last free round began. -/
def greedyRounds (body : Step) (least : Nat) (most : Option Nat) :
    (fuel : Nat) → (count : Nat) → (last : Option Nat) → Step
  | 0, _, _ => fun _ _ => none
  | fuel + 1, count, last => fun place next =>
    if count < least then
      body place fun reached => greedyRounds body least most fuel (count + 1) last reached next
    else if allowsRound most count && last != some place.position then
      (body place fun reached =>
        greedyRounds body least most fuel (count + 1) (some place.position) reached next).or
        (next place)
    else
      next place

/-- Rounds of a body, as few as possible first. -/
def lazyRounds (body : Step) (least : Nat) (most : Option Nat) :
    (fuel : Nat) → (count : Nat) → (last : Option Nat) → Step
  | 0, _, _ => fun _ _ => none
  | fuel + 1, count, last => fun place next =>
    if count < least then
      body place fun reached => lazyRounds body least most fuel (count + 1) last reached next
    else
      (next place).or
        (if allowsRound most count && last != some place.position then
          body place fun reached =>
            lazyRounds body least most fuel (count + 1) (some place.position) reached next
        else none)

/-- Rounds of a body, as many as possible, each in its first way. -/
def possessiveRounds (body : Step) (least : Nat) (most : Option Nat) :
    (fuel : Nat) → (count : Nat) → (last : Option Nat) → Place → Option Place
  | 0, _, _, _ => none
  | fuel + 1, count, last, place =>
    if count < least then
      (body place some).bind (possessiveRounds body least most fuel (count + 1) last)
    else if allowsRound most count && last != some place.position then
      match body place some with
      | some reached =>
        possessiveRounds body least most fuel (count + 1) (some place.position) reached
      | none => some place
    else
      some place

/-- Whether the characters from one offset on are those from another on, so many of them. -/
def sameCharacters (subject : Array Char) (fold : Fold) (left right : Nat) : (count : Nat) → Bool
  | 0 => true
  | count + 1 =>
    match subject[left]?, subject[right]? with
    | some first, some second =>
      fold.lower first.toNat == fold.lower second.toNat &&
        sameCharacters subject fold (left + 1) (right + 1) count
    | _, _ => false

/-- Whether the character at an offset belongs to a word. -/
def wordAt (subject : Array Char) (ascii : Bool) (position : Nat) : Bool :=
  match subject[position]? with
  | some c => CharClass.word.holds ascii c
  | none => false

/-- Whether a line feed stands at an offset. -/
def lineFeedAt (subject : Array Char) (position : Nat) : Bool :=
  subject[position]? == some '\n'

/-- Whether a place between characters is of the kind asked for. An empty text has no place that
is or is not a word boundary. -/
def Anchor.holds (subject : Array Char) (position : Nat) : Anchor → Bool
  | .textStart => position == 0
  | .lineStart => position == 0 || lineFeedAt subject (position - 1)
  | .textEnd => position == subject.size
  | .lastLineEnd =>
    position == subject.size || (position + 1 == subject.size && lineFeedAt subject position)
  | .lineEnd => position == subject.size || lineFeedAt subject position
  | .boundary ascii negated =>
    subject.size != 0 &&
      ((position != 0 && wordAt subject ascii (position - 1)) != wordAt subject ascii position)
        != negated

/-- Matches a node at a place, and then what follows it. -/
def Node.run (subject : Array Char) : Node → Step
  | .empty => fun place next => next place
  | .one set => fun place next =>
    match subject[place.position]? with
    | some c => if set.accepts c then next { place with position := place.position + 1 } else none
    | none => none
  | .seq first second => fun place next =>
    first.run subject place fun reached => second.run subject reached next
  | .choice first second => fun place next =>
    (first.run subject place next).or (second.run subject place next)
  | .iterate greed least most body => fun place next =>
    let fuel := least + (subject.size - place.position) + 2
    match greed with
    | .greedy => greedyRounds (body.run subject) least most fuel 0 none place next
    | .lazy => lazyRounds (body.run subject) least most fuel 0 none place next
    | .possessive =>
      (possessiveRounds (body.run subject) least most fuel 0 none place).bind next
  | .group index body => fun place next =>
    body.run subject place fun reached =>
      next { reached with
        captures := (index, place.position, reached.position) :: reached.captures }
  | .reference index fold => fun place next =>
    match place.captures.span? index with
    | some (start, stop) =>
      if sameCharacters subject fold start place.position (stop - start) then
        next { place with position := place.position + (stop - start) }
      else none
    | none => none
  | .condition index present absent => fun place next =>
    if (place.captures.span? index).isSome then present.run subject place next
    else absent.run subject place next
  | .look ahead negated width body => fun place next =>
    let found :=
      if ahead then body.run subject place some
      else if place.position < width.least then none
      else body.run subject { place with position := place.position - width.least } some
    match found with
    | some reached => if negated then none else next { place with captures := reached.captures }
    | none => if negated then next place else none
  | .atomic body => fun place next => (body.run subject place some).bind next
  | .assertion anchor => fun place next =>
    if anchor.holds subject place.position then next place else none

end Structex.Regex
