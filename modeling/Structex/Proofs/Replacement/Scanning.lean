import Structex.Command.Selection
import Structex.Proofs.Match.Completeness
import Structex.Proofs.Replacement.RoundTrip

/-!
# The two ways to scan a text

Commands on matches and substitution scan a text in different ways: after an empty match the one
moves on by a character, the other first tries for a match at the same offset that is not empty.
After any other match both resume at its end. So where a text has no empty match, both scans find
the same, and a command on matches is a substitution.
-/

namespace Structex

namespace Regex.Pattern

variable {pattern : Pattern} {subject : Array Char} {position : Nat} {yielded : List Found}

/-- The scan for substitution finds what a scan without empty matches comes to, as its fuel lasts
for every offset up to the end. -/
theorem scanFrom_of_scans (scans : pattern.Scans subject position yielded)
    (nonempty : ∀ found ∈ yielded, found.stop ≠ found.start) {fuel : Nat}
    (enough : subject.size + 1 ≤ fuel + position) :
    pattern.scanFrom subject fuel position false = yielded := by
  induction scans generalizing fuel with
  | done nothing =>
      cases fuel with
      | zero => rfl
      | succ fuel => simp [scanFrom, nothing]
  | @found position first rest taken further inductionHypothesis =>
      obtain ⟨begins, ordered, inside⟩ := search_bounds taken
      obtain ⟨differs, others⟩ := List.forall_mem_cons.mp nonempty
      have resumed : resumeAfter first = first.stop := if_neg differs
      have same : (first.start == first.stop) = false := by simpa using Ne.symm differs
      cases fuel with
      | zero =>
          -- The fuel would be used up only beyond the end, where nothing is found.
          omega
      | succ fuel =>
          have later : pattern.scanFrom subject fuel (resumeAfter first) false = rest :=
            inductionHypothesis others (by omega)
          rw [resumed] at later
          simp [scanFrom, taken, same, later]

/-- A match with a text does not end at its start. -/
theorem stop_ne_start {text : String} {found : Found}
    (nonempty : (Match.ofFound pattern text found).text ≠ "") : found.stop ≠ found.start := by
  intro same
  refine nonempty ?_
  change Text.slice text found.start found.stop = ""
  rw [same, Text.slice_self]

/-- A text without empty matches has the same matches for substitution. -/
theorem scanMatches_eq_findMatches {text : String}
    (nonempty : ∀ found ∈ pattern.findMatches text, found.text ≠ "") :
    pattern.scanMatches text = pattern.findMatches text := by
  have scans : pattern.Scans text.toList.toArray 0 (pattern.foundIn text) :=
    foundFrom_scans pattern (by omega)
  have differ : ∀ found ∈ pattern.foundIn text, found.stop ≠ found.start :=
    fun found member => stop_ne_start (nonempty _ (List.mem_map_of_mem member))
  rw [scanMatches, scan, scanFrom_of_scans scans differ (by omega), findMatches]

end Regex.Pattern

/-- Where a text has no empty match, a command on its matches is a substitution: of what the command
makes of each match, and for a command that puts a text, of this text with its dollar signs
doubled. -/
theorem Command.onMatches_eq_substitute {m : Type → Type} [Monad m] {pattern : Regex.Pattern}
    {text : String} (nonempty : ∀ found ∈ pattern.findMatches text, found.text ≠ "") :
    (∀ command : Command m,
      Command.onMatches pattern command text =
        Command.substituteWith pattern (fun found => command found.text) text) ∧
    ∀ value,
      Command.onMatches (m := m) pattern (Command.change value) text =
        Command.substitute pattern (Piece.doubled value) text := by
  have same := Regex.Pattern.scanMatches_eq_findMatches nonempty
  have onMatches : ∀ command : Command m, Command.onMatches pattern command text =
      Command.substituteWith pattern (fun found => command found.text) text := by
    intro command
    rw [Command.onMatches, Command.substituteWith, same]
  refine ⟨onMatches, fun value => ?_⟩
  rw [Command.substitute_doubled]
  exact onMatches (Command.change value)

/-- Two letters are put between dollar signs, and a text with such a sign is put in their place. -/
theorem Command.onMatches_eq_substitute_of_namedLetter :
    namedLetter.extract "xax" = ["x", "x"] ∧
      Command.onMatches (m := Id) namedLetter (fun text => "$" ++ text ++ "$") "xax" =
        Command.substituteWith (m := Id) namedLetter (fun found => "$" ++ found.text ++ "$") "xax" ∧
      Command.onMatches (m := Id) namedLetter (Command.change "$1") "xax" =
        Command.substitute (m := Id) namedLetter "$$1" "xax" := by
  have nonempty : ∀ found ∈ namedLetter.findMatches "xax", found.text ≠ "" := by decide +kernel
  obtain ⟨onMatches, onChange⟩ := Command.onMatches_eq_substitute (m := Id) nonempty
  exact ⟨by rfl, onMatches _, onChange "$1"⟩

end Structex
