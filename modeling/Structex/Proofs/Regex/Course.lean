import Structex.Regex.Matching

/-!
# What matching keeps

A pattern tree goes on from a place by taking characters and by writing down what its groups took.
A relation between places that both of these keep holds between the place where a match begins and
every place that it reaches, whatever is tried in between and given up again. `Node.run_keeps`
follows the constructors; what a relation has to keep is said by `Course`.
-/

namespace Structex.Regex

/-- The numbers of the groups in a tree. -/
def Node.groupNumbers : Node → List Nat
  | .seq first second => first.groupNumbers ++ second.groupNumbers
  | .choice first second => first.groupNumbers ++ second.groupNumbers
  | .iterate _ _ _ body => body.groupNumbers
  | .group number body => number :: body.groupNumbers
  | .condition _ present absent => present.groupNumbers ++ absent.groupNumbers
  | .look _ _ _ body => body.groupNumbers
  | .atomic body => body.groupNumbers
  | _ => []

/-- The place with one more span that a group took, from a place up to it. -/
def Place.captured (reached : Place) (number start : Nat) : Place :=
  { reached with captures := (number, start, reached.position) :: reached.captures }

/-- A relation between places that matching keeps in a text, for trees whose groups have certain
numbers: it holds where characters are taken, where a group writes down what it took, and where a
look gives back the place that it was asked at with its captures. -/
structure Course (subject : Array Char) (numbers : Nat → Prop)
    (related : Place → Place → Prop) : Prop where
  refl : ∀ place, related place place
  trans : ∀ {place middle reached}, related place middle → related middle reached →
    related place reached
  taken : ∀ {place : Place} {count}, place.position + count ≤ subject.size ∨ count = 0 →
    related place { place with position := place.position + count }
  captured : ∀ {place reached : Place} {number}, numbers number → related place reached →
    related place (reached.captured number place.position)
  looked : ∀ {place reached : Place} {position}, related { place with position } reached →
    related place { place with captures := reached.captures }

/-- A step keeps a relation: what it gives is what follows gives, at a place that is related to the
start. -/
def Step.Keeps (related : Place → Place → Prop) (step : Step) : Prop :=
  ∀ place next result, step place next = some result →
    ∃ reached, related place reached ∧ next reached = some result

variable {subject : Array Char} {numbers : Nat → Prop} {related : Place → Place → Prop}
  {body : Step}

/-- A step that is taken alone ends at a related place. -/
theorem Step.Keeps.alone {step : Step} (keeps : step.Keeps related) {place reached : Place}
    (found : step place some = some reached) : related place reached := by
  obtain ⟨_, same, done⟩ := keeps _ _ _ found
  cases done
  exact same

namespace Course

/-- Greedy rounds keep what their body keeps. -/
theorem greedyRounds (course : Course subject numbers related) (keeps : body.Keeps related)
    (least : Nat) (most : Option Nat) (fuel count : Nat) (last : Option Nat) :
    Step.Keeps related (Regex.greedyRounds body least most fuel count last) := by
  induction fuel generalizing count last with
  | zero =>
      intro place next result found
      cases found
  | succ fuel inductionHypothesis =>
      intro place next result found
      have round : ∀ last', body place (fun reached =>
          Regex.greedyRounds body least most fuel (count + 1) last' reached next) = some result →
          ∃ reached, related place reached ∧ next reached = some result := by
        intro last' taken
        obtain ⟨middle, before, rest⟩ := keeps _ _ _ taken
        obtain ⟨reached, after, done⟩ := inductionHypothesis _ _ _ _ _ rest
        exact ⟨reached, course.trans before after, done⟩
      simp only [Regex.greedyRounds] at found
      split at found
      · exact round _ found
      · split at found
        · rcases Option.or_eq_some_iff.mp found with taken | ⟨-, ended⟩
          · exact round _ taken
          · exact ⟨place, course.refl place, ended⟩
        · exact ⟨place, course.refl place, found⟩

/-- Lazy rounds keep what their body keeps. -/
theorem lazyRounds (course : Course subject numbers related) (keeps : body.Keeps related)
    (least : Nat) (most : Option Nat) (fuel count : Nat) (last : Option Nat) :
    Step.Keeps related (Regex.lazyRounds body least most fuel count last) := by
  induction fuel generalizing count last with
  | zero =>
      intro place next result found
      cases found
  | succ fuel inductionHypothesis =>
      intro place next result found
      have round : ∀ last', body place (fun reached =>
          Regex.lazyRounds body least most fuel (count + 1) last' reached next) = some result →
          ∃ reached, related place reached ∧ next reached = some result := by
        intro last' taken
        obtain ⟨middle, before, rest⟩ := keeps _ _ _ taken
        obtain ⟨reached, after, done⟩ := inductionHypothesis _ _ _ _ _ rest
        exact ⟨reached, course.trans before after, done⟩
      simp only [Regex.lazyRounds] at found
      split at found
      · exact round _ found
      · rcases Option.or_eq_some_iff.mp found with ended | ⟨-, taken⟩
        · exact ⟨place, course.refl place, ended⟩
        · split at taken
          · exact round _ taken
          · cases taken

/-- Possessive rounds keep what their body keeps. -/
theorem possessiveRounds (course : Course subject numbers related) (keeps : body.Keeps related)
    (least : Nat) (most : Option Nat) (fuel count : Nat) (last : Option Nat)
    {place reached : Place}
    (found : Regex.possessiveRounds body least most fuel count last place = some reached) :
    related place reached := by
  induction fuel generalizing count last place with
  | zero => cases found
  | succ fuel inductionHypothesis =>
      simp only [Regex.possessiveRounds] at found
      split at found
      · obtain ⟨middle, taken, rest⟩ := Option.bind_eq_some_iff.mp found
        exact course.trans (keeps.alone taken) (inductionHypothesis _ _ rest)
      · split at found
        · split at found
          · rename_i middle taken
            exact course.trans (keeps.alone taken) (inductionHypothesis _ _ found)
          · cases found
            exact course.refl _
        · cases found
          exact course.refl _

end Course

/-- Characters that are compared are in the text. -/
theorem sameCharacters_within {fold : Fold} {left right count : Nat}
    (same : sameCharacters subject fold left right count = true) :
    right + count ≤ subject.size ∨ count = 0 := by
  induction count generalizing left right with
  | zero => exact .inr rfl
  | succ count inductionHypothesis =>
      rw [sameCharacters] at same
      split at same
      · rename_i first second atLeft atRight
        have inside : right < subject.size := (Array.getElem?_eq_some_iff.mp atRight).1
        rcases inductionHypothesis (Bool.and_eq_true_iff.mp same).2 with within | none
        · exact .inl (by omega)
        · exact .inl (by omega)
      · cases same

/-- Every pattern tree keeps a relation that matching keeps for the numbers of its groups. -/
theorem Node.run_keeps (course : Course subject numbers related) {node : Node}
    (within : ∀ number ∈ node.groupNumbers, numbers number) :
    (node.run subject).Keeps related := by
  induction node with
  | empty =>
      intro place next result found
      exact ⟨place, course.refl place, found⟩
  | one set =>
      intro place next result found
      simp only [run] at found
      split at found
      · rename_i c atPlace
        have inside : place.position < subject.size := (Array.getElem?_eq_some_iff.mp atPlace).1
        split at found
        · exact ⟨_, course.taken (.inl inside), found⟩
        · cases found
      · cases found
  | seq first second firstKeeps secondKeeps =>
      intro place next result found
      obtain ⟨firstWithin, secondWithin⟩ := List.forall_mem_append.mp within
      obtain ⟨middle, before, rest⟩ := firstKeeps firstWithin _ _ _ found
      obtain ⟨reached, after, done⟩ := secondKeeps secondWithin _ _ _ rest
      exact ⟨reached, course.trans before after, done⟩
  | choice first second firstKeeps secondKeeps =>
      intro place next result found
      obtain ⟨firstWithin, secondWithin⟩ := List.forall_mem_append.mp within
      rcases Option.or_eq_some_iff.mp found with taken | ⟨-, taken⟩
      · exact firstKeeps firstWithin _ _ _ taken
      · exact secondKeeps secondWithin _ _ _ taken
  | iterate greed least most body bodyKeeps =>
      intro place next result found
      cases greed with
      | greedy => exact course.greedyRounds (bodyKeeps within) _ _ _ _ _ _ _ _ found
      | lazy => exact course.lazyRounds (bodyKeeps within) _ _ _ _ _ _ _ _ found
      | possessive =>
          obtain ⟨reached, rounds, done⟩ := Option.bind_eq_some_iff.mp found
          exact ⟨reached, course.possessiveRounds (bodyKeeps within) _ _ _ _ _ rounds, done⟩
  | group number body bodyKeeps =>
      intro place next result found
      obtain ⟨known, bodyWithin⟩ := List.forall_mem_cons.mp within
      obtain ⟨reached, same, done⟩ := bodyKeeps bodyWithin _ _ _ found
      exact ⟨_, course.captured known same, done⟩
  | reference number fold =>
      intro place next result found
      simp only [run] at found
      split at found
      · split at found
        · rename_i same
          exact ⟨_, course.taken (sameCharacters_within same), found⟩
        · cases found
      · cases found
  | condition number present absent presentKeeps absentKeeps =>
      intro place next result found
      obtain ⟨presentWithin, absentWithin⟩ := List.forall_mem_append.mp within
      simp only [run] at found
      split at found
      · exact presentKeeps presentWithin _ _ _ found
      · exact absentKeeps absentWithin _ _ _ found
  | look ahead negated width body bodyKeeps =>
      intro place next result found
      -- What is looked at may lie elsewhere: its captures are kept, but not where it ended.
      have asked : ∀ {reached : Place}, (if ahead then body.run subject place some
          else if place.position < width.least then none
          else body.run subject { place with position := place.position - width.least } some) =
            some reached → related place { place with captures := reached.captures } := by
        intro reached looked
        split at looked
        · have ahead : related { place with position := place.position } reached :=
            (bodyKeeps within).alone looked
          exact course.looked ahead
        · split at looked
          · cases looked
          · exact course.looked ((bodyKeeps within).alone looked)
      simp only [run] at found
      split at found
      · rename_i reached looked
        split at found
        · cases found
        · exact ⟨_, asked looked, found⟩
      · split at found
        · exact ⟨place, course.refl place, found⟩
        · cases found
  | atomic body bodyKeeps =>
      intro place next result found
      obtain ⟨reached, taken, done⟩ := Option.bind_eq_some_iff.mp found
      exact ⟨reached, (bodyKeeps within).alone taken, done⟩
  | assertion anchor =>
      intro place next result found
      simp only [run] at found
      split at found
      · exact ⟨place, course.refl place, found⟩
      · cases found

end Structex.Regex
