import Structex.Proofs.Regex.Bounds

/-!
# The ways of a pattern

For many patterns it does not matter in which order a match tries its ways: only whether there is
one. `Node.Reaches` tells, without any order, at which offsets a node can end. It says when what
follows can succeed for the plain trees: those without groups and references in which all
repetitions are free, greedy, and of something that takes a character at least.
-/

namespace Structex.Regex

/-- So many rounds of a relation between offsets. -/
def Rounds (ways : Nat → Nat → Prop) : (count : Nat) → (start stop : Nat) → Prop
  | 0, start, stop => start = stop
  | count + 1, start, stop => ∃ middle, ways start middle ∧ Rounds ways count middle stop

/-- Some number of rounds, at least so many. -/
def RoundsFrom (ways : Nat → Nat → Prop) (least start stop : Nat) : Prop :=
  ∃ count, least ≤ count ∧ Rounds ways count start stop

/-- The offsets that a node can end at when it begins at another. -/
def Node.Reaches (subject : Array Char) : Node → (start stop : Nat) → Prop
  | .empty, start, stop => start = stop
  | .one set, start, stop => stop = start + 1 ∧ ∃ c, subject[start]? = some c ∧ set.accepts c = true
  | .seq first second, start, stop =>
    ∃ middle, first.Reaches subject start middle ∧ second.Reaches subject middle stop
  | .choice first second, start, stop =>
    first.Reaches subject start stop ∨ second.Reaches subject start stop
  | .iterate _ least _ body, start, stop => RoundsFrom (body.Reaches subject) least start stop
  | .assertion anchor, start, stop => start = stop ∧ anchor.holds subject start = true
  | _, _, _ => False

/-- A step succeeds exactly if it can come to an offset from which what follows succeeds. -/
def Step.Follows (ways : Nat → Nat → Prop) (step : Step) : Prop :=
  ∀ place next, (step place next).isSome = true ↔
    ∃ stop, ways place.position stop ∧ (next { place with position := stop }).isSome = true

/-- A relation between offsets that goes forward in a text of a size. -/
def Forward (size : Nat) (ways : Nat → Nat → Prop) : Prop :=
  ∀ start stop, ways start stop → start < stop ∧ stop ≤ size

/-- Free greedy rounds of a body that goes forward. The fuel suffices, as each round leaves less of
the text. -/
theorem greedyRounds_follows {size : Nat} {ways : Nat → Nat → Prop} {body : Step}
    (follows : body.Follows ways) (forward : Forward size ways) {least fuel count : Nat}
    {last : Option Nat} {place : Place} (next : Place → Option Place)
    (enough : size - place.position < fuel)
    (fresh : ∀ earlier, last = some earlier → earlier < place.position) :
    (greedyRounds body least none fuel count last place next).isSome = true ↔
      ∃ rounds stop, least ≤ count + rounds ∧ Rounds ways rounds place.position stop ∧
        (next { place with position := stop }).isSome = true := by
  induction fuel generalizing count last place with
  | zero => omega
  | succ fuel inductionHypothesis =>
      -- One round, whatever is remembered of where it began.
      have round : ∀ last', (∀ earlier, last' = some earlier → earlier ≤ place.position) →
          ((body place fun reached =>
            greedyRounds body least none fuel (count + 1) last' reached next).isSome = true ↔
          ∃ rounds stop, least ≤ count + (rounds + 1) ∧
            Rounds ways (rounds + 1) place.position stop ∧
            (next { place with position := stop }).isSome = true) := by
        intro last' began
        rw [follows]
        constructor
        · rintro ⟨middle, way, rest⟩
          obtain ⟨later, inside⟩ := forward _ _ way
          rw [inductionHypothesis (by dsimp only; omega)
            fun earlier same => Nat.lt_of_le_of_lt (began earlier same) later] at rest
          obtain ⟨rounds, stop, most, further, done⟩ := rest
          exact ⟨rounds, stop, by omega, ⟨middle, way, further⟩, done⟩
        · rintro ⟨rounds, stop, most, ⟨middle, way, further⟩, done⟩
          obtain ⟨later, inside⟩ := forward _ _ way
          refine ⟨middle, way, ?_⟩
          rw [inductionHypothesis (by dsimp only; omega)
            fun earlier same => Nat.lt_of_le_of_lt (began earlier same) later]
          exact ⟨rounds, stop, by omega, further, done⟩
      rw [greedyRounds]
      dsimp only
      by_cases few : count < least
      · rw [if_pos few, round last fun earlier same => Nat.le_of_lt (fresh earlier same)]
        constructor
        · rintro ⟨rounds, stop, most, further, done⟩
          exact ⟨rounds + 1, stop, most, further, done⟩
        · rintro ⟨rounds, stop, most, further, done⟩
          cases rounds with
          | zero => omega
          | succ rounds => exact ⟨rounds, stop, most, further, done⟩
      · have moved : (last != some place.position) = true := by
          rw [bne_iff_ne]
          exact fun same => Nat.lt_irrefl _ (fresh _ same)
        rw [if_neg few, allowsRound, moved, Bool.and_self, if_pos rfl, Option.isSome_or,
          Bool.or_eq_true, round _ fun earlier same => Nat.le_of_eq (Option.some.inj same).symm]
        constructor
        · rintro (⟨rounds, stop, most, further, done⟩ | ended)
          · exact ⟨rounds + 1, stop, most, further, done⟩
          · exact ⟨0, place.position, by omega, rfl, ended⟩
        · rintro ⟨rounds, stop, most, further, done⟩
          cases rounds with
          | zero =>
              cases further
              exact .inr done
          | succ rounds => exact .inl ⟨rounds, stop, most, further, done⟩

/-- Trees for which only the existence of a way matters. -/
def Node.Plain (subject : Array Char) : Node → Prop
  | .empty => True
  | .one _ => True
  | .seq first second => first.Plain subject ∧ second.Plain subject
  | .choice first second => first.Plain subject ∧ second.Plain subject
  | .iterate greed _ most body =>
    greed = .greedy ∧ most = none ∧ body.Plain subject ∧
      Forward subject.size (body.Reaches subject)
  | .assertion _ => True
  | _ => False

/-- A plain tree succeeds exactly if one of its ways does. -/
theorem Node.run_follows {subject : Array Char} {node : Node} (plain : node.Plain subject) :
    Step.Follows (node.Reaches subject) (node.run subject) := by
  induction node with
  | empty =>
      intro place next
      simp [run, Reaches]
  | one set =>
      intro place next
      simp only [run, Reaches]
      cases read : subject[place.position]? with
      | none => simp
      | some c =>
          by_cases accepted : set.accepts c = true
          · simp [accepted]
          · simp [accepted]
  | seq first second firstFollows secondFollows =>
      intro place next
      rw [run, firstFollows plain.1]
      constructor
      · rintro ⟨middle, way, rest⟩
        obtain ⟨stop, further, done⟩ := (secondFollows plain.2 _ _).mp rest
        exact ⟨stop, ⟨middle, way, further⟩, done⟩
      · rintro ⟨stop, ⟨middle, way, further⟩, done⟩
        exact ⟨middle, way, (secondFollows plain.2 _ _).mpr ⟨stop, further, done⟩⟩
  | choice first second firstFollows secondFollows =>
      intro place next
      rw [run, Option.isSome_or, Bool.or_eq_true, firstFollows plain.1, secondFollows plain.2,
        ← exists_or]
      simp only [Reaches, or_and_right]
  | iterate greed least most body bodyFollows =>
      obtain ⟨rfl, rfl, bodyPlain, forward⟩ := plain
      intro place next
      have fresh : ∀ earlier, none = some earlier → earlier < place.position := by
        intro earlier missing
        cases missing
      rw [run]
      dsimp only
      rw [greedyRounds_follows (bodyFollows bodyPlain) forward next (by omega) fresh]
      simp only [Reaches, RoundsFrom, Nat.zero_add]
      constructor
      · rintro ⟨rounds, stop, most, further, done⟩
        exact ⟨stop, ⟨rounds, most, further⟩, done⟩
      · rintro ⟨stop, ⟨rounds, most, further⟩, done⟩
        exact ⟨rounds, stop, most, further, done⟩
  | assertion anchor =>
      intro place next
      simp only [run, Reaches]
      by_cases holds : anchor.holds subject place.position = true
      · simp [holds]
      · simp [holds]
  | _ => exact plain.elim

/-- A pattern with a plain tree matches at an offset exactly if its tree has a way from there. -/
theorem Pattern.matchAt_isSome_iff {pattern : Pattern} {subject : Array Char}
    (plain : pattern.node.Plain subject) (position : Nat) :
    (pattern.matchAt subject position).isSome = true ↔
      ∃ stop, pattern.node.Reaches subject position stop := by
  rw [matchAt, matchAtWhere, Option.isSome_map, Node.run_follows plain]
  simp

/-! ## Nodes in order -/

/-- Nodes in order as one node. -/
def Node.join : List Node → Node
  | [] => .empty
  | [node] => node
  | node :: second :: rest => .seq node (join (second :: rest))

/-- The ways of nodes in order. -/
theorem Node.reaches_join_cons {subject : Array Char} (node : Node) (rest : List Node)
    {start stop : Nat} :
    (join (node :: rest)).Reaches subject start stop ↔
      ∃ middle, node.Reaches subject start middle ∧ (join rest).Reaches subject middle stop := by
  cases rest with
  | nil =>
      constructor
      · exact fun way => ⟨stop, way, rfl⟩
      · rintro ⟨middle, way, rfl⟩
        exact way
  | cons second rest => rfl

/-- The ways of nodes in order before others. -/
theorem Node.reaches_join_append {subject : Array Char} (first second : List Node)
    {start stop : Nat} :
    (join (first ++ second)).Reaches subject start stop ↔
      ∃ middle, (join first).Reaches subject start middle ∧
        (join second).Reaches subject middle stop := by
  induction first generalizing start with
  | nil =>
      constructor
      · exact fun way => ⟨start, rfl, way⟩
      · rintro ⟨middle, rfl, way⟩
        exact way
  | cons node rest inductionHypothesis =>
      rw [List.cons_append, reaches_join_cons]
      simp only [reaches_join_cons, inductionHypothesis]
      constructor
      · rintro ⟨after, way, middle, further, last⟩
        exact ⟨middle, ⟨after, way, further⟩, last⟩
      · rintro ⟨middle, ⟨after, way, further⟩, last⟩
        exact ⟨after, way, middle, further, last⟩

/-- Nodes in order are plain if each of them is. -/
theorem Node.plain_join {subject : Array Char} {nodes : List Node}
    (plain : ∀ node ∈ nodes, node.Plain subject) : (join nodes).Plain subject := by
  induction nodes with
  | nil => trivial
  | cons node rest inductionHypothesis =>
      have first := plain node List.mem_cons_self
      have others := inductionHypothesis fun other member =>
        plain other (List.mem_cons_of_mem node member)
      cases rest with
      | nil => exact first
      | cons second rest => exact ⟨first, others⟩

/-! ## Ways in the front of a text -/

/-- Rounds of a relation that never goes back do not go back. -/
theorem Rounds.le {ways : Nat → Nat → Prop} (onward : ∀ start stop, ways start stop → start ≤ stop)
    {count start stop : Nat} (rounds : Rounds ways count start stop) : start ≤ stop := by
  induction count generalizing start with
  | zero => exact Nat.le_of_eq rounds
  | succ count inductionHypothesis =>
      obtain ⟨middle, way, further⟩ := rounds
      exact Nat.le_trans (onward _ _ way) (inductionHypothesis further)

/-- No node goes back. -/
theorem Node.reaches_le {subject : Array Char} (node : Node) (start stop : Nat)
    (way : node.Reaches subject start stop) : start ≤ stop := by
  induction node generalizing start stop with
  | empty => exact Nat.le_of_eq way
  | one set => exact way.1 ▸ Nat.le_succ start
  | seq first second ofFirst ofSecond =>
      obtain ⟨middle, before, after⟩ := way
      exact Nat.le_trans (ofFirst _ _ before) (ofSecond _ _ after)
  | choice first second ofFirst ofSecond => exact way.elim (ofFirst _ _) (ofSecond _ _)
  | iterate greed least most body ofBody =>
      obtain ⟨count, -, rounds⟩ := way
      exact rounds.le ofBody
  | assertion anchor => exact Nat.le_of_eq way.1
  | _ => exact way.elim

/-- Rounds of relations that agree up to an offset agree up to it. -/
theorem rounds_congr {ways ways' : Nat → Nat → Prop} {limit : Nat}
    (onward : ∀ start stop, ways start stop → start ≤ stop)
    (onward' : ∀ start stop, ways' start stop → start ≤ stop)
    (same : ∀ start stop, stop ≤ limit → (ways start stop ↔ ways' start stop))
    {count start stop : Nat} (within : stop ≤ limit) :
    Rounds ways count start stop ↔ Rounds ways' count start stop := by
  induction count generalizing start with
  | zero => exact Iff.rfl
  | succ count inductionHypothesis =>
      simp only [Rounds]
      constructor
      · rintro ⟨middle, way, further⟩
        have before := Nat.le_trans (further.le onward) within
        exact ⟨middle, (same _ _ before).mp way, inductionHypothesis.mp further⟩
      · rintro ⟨middle, way, further⟩
        have before := Nat.le_trans (further.le onward') within
        exact ⟨middle, (same _ _ before).mpr way, inductionHypothesis.mpr further⟩

/-- Trees that ask for no place but the start of the text. -/
def Node.StartOnly : Node → Prop
  | .seq first second => first.StartOnly ∧ second.StartOnly
  | .choice first second => first.StartOnly ∧ second.StartOnly
  | .iterate _ _ _ body => body.StartOnly
  | .assertion anchor => anchor = .textStart
  | _ => True

/-- What such a tree takes in the front of a text does not depend on what follows. -/
theorem Node.reaches_append {node : Node} (startOnly : node.StartOnly) {front : List Char}
    (rest : List Char) (start stop : Nat) (within : stop ≤ front.length) :
    node.Reaches (front ++ rest).toArray start stop ↔ node.Reaches front.toArray start stop := by
  induction node generalizing start stop with
  | one set =>
      simp only [Reaches, List.getElem?_toArray]
      refine and_congr_right fun same => ?_
      rw [List.getElem?_append_left (by omega)]
  | seq first second ofFirst ofSecond =>
      simp only [Reaches]
      constructor
      · rintro ⟨middle, before, after⟩
        have inside := Nat.le_trans (second.reaches_le _ _ after) within
        exact ⟨middle, (ofFirst startOnly.1 _ _ inside).mp before,
          (ofSecond startOnly.2 _ _ within).mp after⟩
      · rintro ⟨middle, before, after⟩
        have inside := Nat.le_trans (second.reaches_le _ _ after) within
        exact ⟨middle, (ofFirst startOnly.1 _ _ inside).mpr before,
          (ofSecond startOnly.2 _ _ within).mpr after⟩
  | choice first second ofFirst ofSecond =>
      exact or_congr (ofFirst startOnly.1 _ _ within) (ofSecond startOnly.2 _ _ within)
  | iterate greed least most body ofBody =>
      refine exists_congr fun count => and_congr_right fun _ => ?_
      exact rounds_congr body.reaches_le body.reaches_le (ofBody startOnly) within
  | assertion anchor =>
      cases startOnly
      exact Iff.rfl
  | _ => exact Iff.rfl

/-- Nodes in order ask for no place but the start of the text if none of them does. -/
theorem Node.startOnly_join {nodes : List Node}
    (startOnly : ∀ node ∈ nodes, node.StartOnly) : (join nodes).StartOnly := by
  induction nodes with
  | nil => trivial
  | cons node rest inductionHypothesis =>
      obtain ⟨first, others⟩ := List.forall_mem_cons.mp startOnly
      cases rest with
      | nil => exact first
      | cons second rest => exact ⟨first, inductionHypothesis others⟩

/-! ## Texts as ways -/

/-- The set of one character alone. -/
def CharSet.only (c : Char) : CharSet :=
  ⟨false, .exact, [.literal c.toNat]⟩

/-- The set of all characters but one. -/
def CharSet.allBut (c : Char) : CharSet :=
  ⟨true, .exact, [.literal c.toNat]⟩

theorem CharSet.accepts_only (c d : Char) : (only c).accepts d = true ↔ d = c := by
  have same : c.toNat = d.toNat ↔ d = c := by
    rw [Char.toNat_inj]
    exact eq_comm
  simp [only, accepts, SetItem.accepts, Fold.variants, same]

theorem CharSet.accepts_allBut (c d : Char) : (allBut c).accepts d = true ↔ d ≠ c := by
  have same : c.toNat = d.toNat ↔ d = c := by
    rw [Char.toNat_inj]
    exact eq_comm
  simp [allBut, accepts, SetItem.accepts, Fold.variants, same]

/-- A text stands between two offsets. -/
def Spells (chars word : List Char) (start stop : Nat) : Prop :=
  stop = start + word.length ∧ chars.drop start = word ++ chars.drop stop

/-- The empty text stands between an offset and itself. -/
theorem spells_nil {chars : List Char} {start stop : Nat} :
    Spells chars [] start stop ↔ stop = start := by
  constructor
  · exact fun spells => spells.1
  · rintro rfl
    exact ⟨rfl, rfl⟩

/-- A text is spelled character by character. -/
theorem spells_cons {chars word : List Char} {c : Char} {start stop : Nat} :
    Spells chars (c :: word) start stop ↔
      chars[start]? = some c ∧ Spells chars word (start + 1) stop := by
  have length : start + (c :: word).length = start + 1 + word.length := by
    rw [List.length_cons]
    omega
  have head : (chars.drop start)[0]? = chars[start]? := by
    rw [List.getElem?_drop, Nat.add_zero]
  have tail : (chars.drop start).tail = chars.drop (start + 1) := List.tail_drop
  rw [Spells, Spells, length]
  constructor
  · rintro ⟨same, spelled⟩
    rw [spelled] at head tail
    exact ⟨head.symm, same, tail.symm⟩
  · rintro ⟨first, same, spelled⟩
    refine ⟨same, ?_⟩
    rw [first] at head
    cases shape : chars.drop start with
    | nil =>
        rw [shape] at head
        cases head
    | cons d rest =>
        rw [shape] at head tail
        cases head
        rw [List.cons_append, ← spelled, ← tail]
        rfl

/-- A text that is not empty is spelled inside the whole. -/
theorem Spells.le_length {chars word : List Char} {start stop : Nat}
    (spells : Spells chars word start stop) (nonempty : word ≠ []) : stop ≤ chars.length := by
  have lengths := congrArg List.length spells.2
  have positive := List.length_pos_iff.mpr nonempty
  have same := spells.1
  rw [List.length_append, List.length_drop, List.length_drop] at lengths
  omega

/-- A set takes the characters that it accepts. -/
theorem Node.reaches_one {chars : List Char} {set : CharSet} {start stop : Nat} :
    (one set).Reaches chars.toArray start stop ↔
      ∃ c, set.accepts c = true ∧ Spells chars [c] start stop := by
  simp only [Reaches, List.getElem?_toArray, spells_cons, spells_nil]
  constructor
  · rintro ⟨same, c, read, accepted⟩
    exact ⟨c, accepted, read, same⟩
  · rintro ⟨c, accepted, read, same⟩
    exact ⟨same, c, read, accepted⟩

/-- A set goes forward. -/
theorem Node.forward_one (chars : List Char) (set : CharSet) :
    Forward chars.toArray.size ((one set).Reaches chars.toArray) := by
  rintro start stop ⟨rfl, c, read, -⟩
  have within : start < chars.toArray.size := (Array.getElem?_eq_some_iff.mp read).1
  exact ⟨Nat.lt_succ_self _, within⟩

/-- Rounds of a set take a text of characters that it accepts. -/
theorem rounds_one {chars : List Char} {set : CharSet} {count start stop : Nat} :
    Rounds ((Node.one set).Reaches chars.toArray) count start stop ↔
      ∃ word, word.length = count ∧ (∀ c ∈ word, set.accepts c = true) ∧
        Spells chars word start stop := by
  induction count generalizing start with
  | zero =>
      constructor
      · rintro rfl
        exact ⟨[], rfl, nofun, spells_nil.mpr rfl⟩
      · rintro ⟨word, none, -, spells⟩
        cases List.length_eq_zero_iff.mp none
        exact (spells_nil.mp spells).symm
  | succ count inductionHypothesis =>
      simp only [Rounds, inductionHypothesis, Node.reaches_one, spells_cons, spells_nil]
      constructor
      · rintro ⟨_, ⟨c, accepted, read, rfl⟩, word, length, all, spells⟩
        exact ⟨c :: word, congrArg (· + 1) length, List.forall_mem_cons.mpr ⟨accepted, all⟩,
          spells_cons.mpr ⟨read, spells⟩⟩
      · rintro ⟨word, length, all, spells⟩
        cases word with
        | nil => cases length
        | cons c word =>
            obtain ⟨accepted, others⟩ := List.forall_mem_cons.mp all
            obtain ⟨read, further⟩ := spells_cons.mp spells
            exact ⟨_, ⟨c, accepted, read, rfl⟩, word, Nat.succ.inj length, others, further⟩

/-- A free repetition of a set takes a text of characters that it accepts. -/
theorem Node.reaches_iterate_one {chars : List Char} {set : CharSet} {greed : Greed} {least : Nat}
    {most : Option Nat} {start stop : Nat} :
    (iterate greed least most (one set)).Reaches chars.toArray start stop ↔
      ∃ word, least ≤ word.length ∧ (∀ c ∈ word, set.accepts c = true) ∧
        Spells chars word start stop := by
  simp only [Reaches, RoundsFrom]
  constructor
  · rintro ⟨count, few, rounds⟩
    obtain ⟨word, rfl, all, spells⟩ := rounds_one.mp rounds
    exact ⟨word, few, all, spells⟩
  · rintro ⟨word, few, all, spells⟩
    exact ⟨word.length, few, rounds_one.mpr ⟨word, rfl, all, spells⟩⟩

/-- Single characters in order take the text that they write. -/
theorem Node.reaches_word {chars word : List Char} {start stop : Nat} :
    (join (word.map fun c => one (.only c))).Reaches chars.toArray start stop ↔
      Spells chars word start stop := by
  induction word generalizing start with
  | nil => exact spells_nil.trans eq_comm |>.symm
  | cons c word inductionHypothesis =>
      rw [List.map_cons, reaches_join_cons, spells_cons]
      simp only [inductionHypothesis, reaches_one, CharSet.accepts_only, spells_cons, spells_nil]
      constructor
      · rintro ⟨_, ⟨_, rfl, read, rfl⟩, spells⟩
        exact ⟨read, spells⟩
      · rintro ⟨read, spells⟩
        exact ⟨_, ⟨c, rfl, read, rfl⟩, spells⟩

end Structex.Regex
