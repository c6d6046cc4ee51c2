import Structex.Proofs.Match.Order

/-!
# No match is missed

A scan resumes behind a match, one character further if the match is empty. `Scans` is that loop
without a bound on its steps; the list of all matches is what it comes to. Its matches rise from
offset to offset, so that there are at most as many as offsets, and where the pattern matches at an
offset, a match of the list begins there or covers it.
-/

namespace Structex.Regex.Pattern

variable {pattern : Pattern} {subject : Array Char} {position : Nat}

/-! ## One search -/

/-- A match at an offset begins there. -/
theorem matchAt_start {found : Found} (taken : pattern.matchAt subject position = some found) :
    found.start = position := by
  obtain ⟨reached, -, rfl⟩ := Option.map_eq_some_iff.mp taken
  rfl

/-- A search tries all offsets up to the end in vain before it gives up. -/
theorem search_eq_none_iff :
    pattern.search subject position = none ↔
      ∀ offset, position ≤ offset → offset ≤ subject.size →
        pattern.matchAt subject offset = none := by
  rw [search, searchNext_eq_findSome?, List.findSome?_eq_none_iff]
  constructor
  · intro tried offset reached within
    exact tried offset (List.mem_range'_1.mpr ⟨reached, by omega⟩)
  · intro nowhere offset inRange
    obtain ⟨reached, within⟩ := List.mem_range'_1.mp inRange
    exact nowhere offset reached (by omega)

/-- One of the offsets that are tried is the first at which the pattern matches. -/
theorem searchNext_leftmost {tries : Nat} {found : Found}
    (taken : pattern.searchNext subject tries position = some found) :
    pattern.matchAt subject found.start = some found ∧
      ∀ offset, position ≤ offset → offset < found.start →
        pattern.matchAt subject offset = none := by
  induction tries generalizing position with
  | zero => cases taken
  | succ tries inductionHypothesis =>
      rcases Option.or_eq_some_iff.mp taken with here | ⟨missed, later⟩
      · have begins := matchAt_start here
        refine ⟨begins ▸ here, fun offset reached before => ?_⟩
        omega
      · obtain ⟨matched, nowhere⟩ := inductionHypothesis later
        refine ⟨matched, fun offset reached before => ?_⟩
        by_cases here : offset = position
        · rw [here]
          exact missed
        · exact nowhere offset (by omega) before

/-- A search finds the leftmost match. -/
theorem search_leftmost {found : Found} (taken : pattern.search subject position = some found) :
    pattern.matchAt subject found.start = some found ∧
      ∀ offset, position ≤ offset → offset < found.start →
        pattern.matchAt subject offset = none :=
  searchNext_leftmost taken

/-- What is found is the match at the offset where it begins. -/
theorem matchAt_of_mem_foundFrom {fuel : Nat} {found : Found}
    (member : found ∈ pattern.foundFrom subject fuel position) :
    pattern.matchAt subject found.start = some found := by
  induction fuel generalizing position with
  | zero => cases member
  | succ fuel inductionHypothesis =>
      rw [foundFrom] at member
      cases taken : pattern.search subject position with
      | none =>
          rw [taken] at member
          cases member
      | some first =>
          rw [taken] at member
          rcases List.mem_cons.mp member with rfl | later
          · exact (search_leftmost taken).1
          · exact inductionHypothesis later

/-! ## The scan -/

/-- The scan of a text from an offset on, with the matches that it comes to: it ends where nothing
more is found, and goes on behind what is found. -/
inductive Scans (pattern : Pattern) (subject : Array Char) : (position : Nat) → List Found → Prop
  | done {position : Nat} (nothing : pattern.search subject position = none) :
      Scans pattern subject position []
  | found {position : Nat} {first : Found} {rest : List Found}
      (taken : pattern.search subject position = some first)
      (further : Scans pattern subject (resumeAfter first) rest) :
      Scans pattern subject position (first :: rest)

/-- Behind a match the scan resumes after its start, and at most one character after its end. -/
theorem resumeAfter_bounds {found : Found} (ordered : found.start ≤ found.stop) :
    found.start < resumeAfter found ∧ resumeAfter found ≤ found.stop + 1 := by
  rw [resumeAfter]
  split <;> omega

/-- The scan comes to an end: the fuel is never used up, as every match lets the search resume at a
later offset. -/
theorem foundFrom_scans (pattern : Pattern) {subject : Array Char} {fuel position : Nat}
    (enough : subject.size + 2 ≤ fuel + position) :
    pattern.Scans subject position (pattern.foundFrom subject fuel position) := by
  induction fuel generalizing position with
  | zero =>
      refine .done (search_eq_none_iff.mpr fun offset reached within => ?_)
      omega
  | succ fuel inductionHypothesis =>
      rw [foundFrom]
      cases taken : pattern.search subject position with
      | none => exact .done taken
      | some first =>
          obtain ⟨begins, ordered, -⟩ := search_bounds taken
          obtain ⟨forward, -⟩ := resumeAfter_bounds ordered
          exact .found taken (inductionHypothesis (by omega))

namespace Scans

variable {yielded : List Found}

/-- The matches of a scan lie in the text, none before the offset where the scan began. -/
theorem within (scans : pattern.Scans subject position yielded) :
    ∀ found ∈ yielded,
      position ≤ found.start ∧ found.start ≤ found.stop ∧ found.stop ≤ subject.size := by
  induction scans with
  | done nothing => simp
  | found taken further inductionHypothesis =>
      obtain ⟨begins, ordered, inside⟩ := search_bounds taken
      obtain ⟨forward, -⟩ := resumeAfter_bounds ordered
      intro other isMatch
      rcases List.mem_cons.mp isMatch with rfl | isLater
      · exact ⟨begins, ordered, inside⟩
      · obtain ⟨resumed, rest⟩ := inductionHypothesis other isLater
        exact ⟨by omega, rest⟩

/-- Each match begins after the starts and not before the ends of those before it. -/
theorem rises (scans : pattern.Scans subject position yielded) :
    yielded.Pairwise fun earlier later =>
      earlier.start < later.start ∧ earlier.stop ≤ later.start := by
  induction scans with
  | done nothing => exact .nil
  | found taken further inductionHypothesis =>
      obtain ⟨-, ordered, -⟩ := search_bounds taken
      obtain ⟨forward, -⟩ := resumeAfter_bounds ordered
      refine .cons (fun later isLater => ?_) inductionHypothesis
      obtain ⟨resumed, -⟩ := further.within later isLater
      exact ⟨by omega, Nat.le_trans (resumeAfter_ge _) resumed⟩

/-- There is at most one match for each offset from the start of the scan on. -/
theorem length_le (scans : pattern.Scans subject position yielded)
    (started : position ≤ subject.size + 1) :
    yielded.length + position ≤ subject.size + 1 := by
  induction scans with
  | done nothing => simpa using started
  | found taken further inductionHypothesis =>
      obtain ⟨begins, ordered, inside⟩ := search_bounds taken
      obtain ⟨forward, near⟩ := resumeAfter_bounds ordered
      have rest := inductionHypothesis (by omega)
      rw [List.length_cons]
      omega

/-- Where the pattern matches, a match of the scan begins or goes on. -/
theorem covers (scans : pattern.Scans subject position yielded) {offset : Nat}
    (reached : position ≤ offset) (inside : offset ≤ subject.size)
    (matched : pattern.matchAt subject offset ≠ none) :
    ∃ found ∈ yielded,
      offset = found.start ∨ found.start < offset ∧ offset < found.stop := by
  induction scans with
  | done nothing => exact absurd (search_eq_none_iff.mp nothing offset reached inside) matched
  | @found _ first rest taken further inductionHypothesis =>
      obtain ⟨-, nowhere⟩ := search_leftmost taken
      have begun : first.start ≤ offset :=
        Nat.le_of_not_lt fun before => matched (nowhere offset reached before)
      by_cases here : offset = first.start
      · exact ⟨first, List.mem_cons_self, .inl here⟩
      by_cases covered : offset < first.stop
      · exact ⟨first, List.mem_cons_self, .inr ⟨by omega, covered⟩⟩
      -- Neither at the start nor inside: the scan has resumed at the offset or before it.
      have resumed : resumeAfter first ≤ offset := by
        rw [resumeAfter]
        split <;> omega
      obtain ⟨found, isLater, covers⟩ := inductionHypothesis resumed
      exact ⟨found, List.mem_cons_of_mem _ isLater, covers⟩

end Scans

/-- The first group of a match is the match. -/
theorem head?_groups_ofFound (pattern : Pattern) (text : String) (found : Found) :
    (Match.ofFound pattern text found).groups.head? =
      some (some (Match.ofFound pattern text found).text) := by
  rw [Match.ofFound, List.range_succ_eq_map]
  rfl

/-- The matches of a text are those of a scan that has come to its end. There is at most one for
each offset and one at the end, they rise and do not overlap, each holds its slice of the text, and
none is missed: at an offset where no match begins and that none covers the pattern does not
match. -/
theorem findMatches_complete (pattern : Pattern) (text : String) :
    pattern.Scans text.toList.toArray 0 (pattern.foundIn text) ∧
    (pattern.findMatches text).length ≤ text.length + 1 ∧
    ((pattern.findMatches text).Pairwise fun earlier later =>
      earlier.start < later.start ∧ earlier.stop ≤ later.start) ∧
    (∀ found ∈ pattern.findMatches text,
      found.start ≤ found.stop ∧ found.stop ≤ text.length ∧
      found.text = Text.slice text found.start found.stop ∧
      found.groups.head? = some (some found.text) ∧
      found.length = found.stop - found.start ∧ found.text.length = found.length) ∧
    ∀ offset ≤ text.length,
      (∀ found ∈ pattern.findMatches text,
        offset ≠ found.start ∧ ¬(found.start < offset ∧ offset < found.stop)) →
      pattern.matchAt text.toList.toArray offset = none := by
  have size : text.toList.toArray.size = text.length := by simp [String.length_toList]
  have scans : pattern.Scans text.toList.toArray 0 (pattern.foundIn text) :=
    foundFrom_scans pattern (by omega)
  refine ⟨scans, ?_, ?_, ?_, ?_⟩
  · have fewer := scans.length_le (Nat.zero_le _)
    rw [findMatches, List.length_map]
    omega
  · exact List.pairwise_map.mpr scans.rises
  · intro found isMatch
    obtain ⟨own, isFound, rfl⟩ := List.mem_map.mp isMatch
    obtain ⟨-, ordered, inside⟩ := scans.within own isFound
    rw [size] at inside
    exact ⟨ordered, inside, rfl, head?_groups_ofFound pattern text own, rfl,
      Text.length_slice inside⟩
  · intro offset inside uncovered
    refine Decidable.byContradiction fun matched => ?_
    obtain ⟨own, isFound, covered⟩ := scans.covers (Nat.zero_le _) (by omega) matched
    obtain ⟨notStart, notInside⟩ := uncovered _ (List.mem_map_of_mem isFound)
    rcases covered with here | inner
    · exact notStart here
    · exact notInside inner

end Structex.Regex.Pattern
