import Structex.Proofs.Regex.Course

/-!
# Group numbers do not matter

A pattern tree whose group numbers are all raised by the same amount matches as before, with the
numbers of its captures raised in the same way. References and conditions move with the groups
that they ask for. `Node.Alike` relates trees that differ in such numbers alone, and leaves open how
the groups and what is asked for are related; `Node.run_alike` says when this makes no difference.
It is about steps with whatever follows them, so that it goes through backtracking:
`Step.Renumbers` is kept by every constructor.
-/

namespace Structex.Regex

/-- The tree with all group numbers raised. -/
def Node.renumber (shift : Nat) : Node → Node
  | .seq first second => .seq (first.renumber shift) (second.renumber shift)
  | .choice first second => .choice (first.renumber shift) (second.renumber shift)
  | .iterate greed least most body => .iterate greed least most (body.renumber shift)
  | .group index body => .group (shift + index) (body.renumber shift)
  | .reference index fold => .reference (shift + index) fold
  | .condition index present absent =>
    .condition (shift + index) (present.renumber shift) (absent.renumber shift)
  | .look ahead negated width body => .look ahead negated width (body.renumber shift)
  | .atomic body => .atomic (body.renumber shift)
  | node => node

/-- Whether what a tree takes depends on what a group took. -/
def Node.refers : Node → Bool
  | .seq first second => first.refers || second.refers
  | .choice first second => first.refers || second.refers
  | .iterate _ _ _ body => body.refers
  | .group _ body => body.refers
  | .reference _ _ => true
  | .condition _ present absent => present.refers || absent.refers
  | .look _ _ _ body => body.refers
  | .atomic body => body.refers
  | _ => false

/-- Two trees are alike up to the numbers of groups: `number` gives the number of a group in the
second tree, and `asks` says which group may be asked for there instead of one in the first. How
far a look goes back is the same in both if it is to be, or if its body refers to no group. -/
inductive Node.Alike (number : Nat → Nat) (asks : Nat → Nat → Prop) (exact : Prop) :
    Node → Node → Prop where
  | empty : Alike number asks exact .empty .empty
  | one (set : CharSet) : Alike number asks exact (.one set) (.one set)
  | seq {first first' second second' : Node} (ofFirst : Alike number asks exact first first')
      (ofSecond : Alike number asks exact second second') :
      Alike number asks exact (.seq first second) (.seq first' second')
  | choice {first first' second second' : Node} (ofFirst : Alike number asks exact first first')
      (ofSecond : Alike number asks exact second second') :
      Alike number asks exact (.choice first second) (.choice first' second')
  | iterate (greed : Greed) (least : Nat) (most : Option Nat) {body body' : Node}
      (ofBody : Alike number asks exact body body') :
      Alike number asks exact (.iterate greed least most body) (.iterate greed least most body')
  | group (index : Nat) {body body' : Node} (ofBody : Alike number asks exact body body') :
      Alike number asks exact (.group index body) (.group (number index) body')
  | reference {index index' : Nat} (asked : asks index index') (fold : Fold) :
      Alike number asks exact (.reference index fold) (.reference index' fold)
  | condition {index index' : Nat} (asked : asks index index')
      {present present' absent absent' : Node}
      (ofPresent : Alike number asks exact present present')
      (ofAbsent : Alike number asks exact absent absent') :
      Alike number asks exact (.condition index present absent) (.condition index' present' absent')
  | look (ahead negated : Bool) {width width' : Width} {body body' : Node}
      (same : exact ∨ body.refers = false → width' = width)
      (ofBody : Alike number asks exact body body') :
      Alike number asks exact (.look ahead negated width body) (.look ahead negated width' body')
  | atomic {body body' : Node} (ofBody : Alike number asks exact body body') :
      Alike number asks exact (.atomic body) (.atomic body')
  | assertion (anchor : Anchor) : Alike number asks exact (.assertion anchor) (.assertion anchor)

section

variable {number : Nat → Nat} {asks : Nat → Nat → Prop} {exact : Prop}

/-- A tree with raised numbers is like the tree. -/
theorem Node.alike_renumber (shift : Nat) (node : Node) :
    Alike (shift + ·) (fun index index' => index' = shift + index) exact node
      (node.renumber shift) := by
  induction node with
  | empty => exact .empty
  | one set => exact .one set
  | seq first second ofFirst ofSecond => exact .seq ofFirst ofSecond
  | choice first second ofFirst ofSecond => exact .choice ofFirst ofSecond
  | iterate greed least most body ofBody => exact .iterate greed least most ofBody
  | group index body ofBody => exact .group index ofBody
  | reference index fold => exact .reference (by rfl) fold
  | condition index present absent ofPresent ofAbsent =>
      exact .condition (by rfl) ofPresent ofAbsent
  | look ahead negated width body ofBody => exact .look ahead negated (fun _ => rfl) ofBody
  | atomic body ofBody => exact .atomic ofBody
  | assertion anchor => exact .assertion anchor

/-- The groups of a tree have their numbers in every tree that is like it. -/
theorem Node.Alike.groupNumbers {node node' : Node} (alike : Alike number asks exact node node') :
    node'.groupNumbers = node.groupNumbers.map number := by
  induction alike with
  | seq _ _ ofFirst ofSecond | choice _ _ ofFirst ofSecond =>
      rw [Node.groupNumbers, Node.groupNumbers, ofFirst, ofSecond, List.map_append]
  | condition _ _ _ ofPresent ofAbsent =>
      rw [Node.groupNumbers, Node.groupNumbers, ofPresent, ofAbsent, List.map_append]
  | group index _ ofBody => rw [Node.groupNumbers, Node.groupNumbers, ofBody, List.map_cons]
  | iterate _ _ _ _ ofBody | look _ _ _ _ ofBody | atomic _ ofBody => exact ofBody
  | empty | one set | reference _ fold | assertion anchor => rfl

/-- What is asked for may be changed first, and the numbers of the groups then. -/
theorem Node.Alike.factor {first second : Nat → Nat → Prop} {node node' : Node}
    (alike : Alike number asks exact node node')
    (split : ∀ index index', asks index index' → ∃ between, first index between ∧
      second between index') :
    ∃ middle, Alike id first exact node middle ∧ Alike number second True middle node' := by
  induction alike with
  | empty => exact ⟨.empty, .empty, .empty⟩
  | one set => exact ⟨.one set, .one set, .one set⟩
  | seq _ _ ofFirst ofSecond =>
      obtain ⟨_, ownFirst, wholeFirst⟩ := ofFirst
      obtain ⟨_, ownSecond, wholeSecond⟩ := ofSecond
      exact ⟨_, .seq ownFirst ownSecond, .seq wholeFirst wholeSecond⟩
  | choice _ _ ofFirst ofSecond =>
      obtain ⟨_, ownFirst, wholeFirst⟩ := ofFirst
      obtain ⟨_, ownSecond, wholeSecond⟩ := ofSecond
      exact ⟨_, .choice ownFirst ownSecond, .choice wholeFirst wholeSecond⟩
  | iterate greed least most _ ofBody =>
      obtain ⟨_, own, whole⟩ := ofBody
      exact ⟨_, .iterate greed least most own, .iterate greed least most whole⟩
  | group index _ ofBody =>
      obtain ⟨_, own, whole⟩ := ofBody
      exact ⟨_, .group index own, .group index whole⟩
  | reference asked fold =>
      obtain ⟨_, own, whole⟩ := split _ _ asked
      exact ⟨_, .reference own fold, .reference whole fold⟩
  | condition asked _ _ ofPresent ofAbsent =>
      obtain ⟨_, own, whole⟩ := split _ _ asked
      obtain ⟨_, ownPresent, wholePresent⟩ := ofPresent
      obtain ⟨_, ownAbsent, wholeAbsent⟩ := ofAbsent
      exact ⟨_, .condition own ownPresent ownAbsent, .condition whole wholePresent wholeAbsent⟩
  | look ahead negated same _ ofBody =>
      obtain ⟨_, own, whole⟩ := ofBody
      exact ⟨_, .look ahead negated same own, .look ahead negated (fun _ => rfl) whole⟩
  | atomic _ ofBody =>
      obtain ⟨_, own, whole⟩ := ofBody
      exact ⟨_, .atomic own, .atomic whole⟩
  | assertion anchor => exact ⟨.assertion anchor, .assertion anchor, .assertion anchor⟩

/-- Where what is asked for moves with the groups, the second tree is the first with raised
numbers. -/
theorem Node.Alike.eq_renumber {shift : Nat} {node node' : Node}
    (alike : Alike (shift + ·) asks exact node node') (known : exact)
    (moves : ∀ index index', asks index index' → index' = shift + index) :
    node' = node.renumber shift := by
  induction alike with
  | reference asked fold => rw [moves _ _ asked, renumber]
  | condition asked _ _ ofPresent ofAbsent =>
      rw [moves _ _ asked, renumber, ofPresent, ofAbsent]
  | look ahead negated same _ ofBody => rw [same (.inl known), renumber, ofBody]
  | seq _ _ ofFirst ofSecond | choice _ _ ofFirst ofSecond => rw [renumber, ofFirst, ofSecond]
  | iterate _ _ _ _ ofBody | group _ _ ofBody | atomic _ ofBody => rw [renumber, ofBody]
  | empty | one set | assertion anchor => rfl

end

/-- The captures with all group numbers raised. -/
def Captures.renumber (shift : Nat) (captures : Captures) : Captures :=
  captures.map fun entry => (shift + entry.1, entry.2)

/-- The place with the group numbers of its captures raised. -/
def Place.renumber (shift : Nat) (place : Place) : Place :=
  { place with captures := place.captures.renumber shift }

/-- What a group has taken is found under its raised number. -/
theorem Captures.span?_renumber (shift : Nat) (captures : Captures) (group : Nat) :
    (captures.renumber shift).span? (shift + group) = captures.span? group := by
  induction captures with
  | nil => rfl
  | cons entry rest inductionHypothesis =>
      obtain ⟨number, span⟩ := entry
      have same : (shift + group == shift + number) = (group == number) := by
        rw [Bool.eq_iff_iff, beq_iff_eq, beq_iff_eq]
        omega
      simp only [span?, renumber, List.map_cons, List.lookup_cons, same] at inductionHypothesis ⊢
      rw [inductionHypothesis]

/-- No group below the raised numbers has taken anything. -/
theorem Captures.span?_renumber_of_lt {shift group : Nat} (below : group < shift)
    (captures : Captures) : (captures.renumber shift).span? group = none := by
  induction captures with
  | nil => rfl
  | cons entry rest inductionHypothesis =>
      have apart : (group == shift + entry.1) = false := beq_eq_false_iff_ne.mpr (by omega)
      simpa only [span?, renumber, List.map_cons, List.lookup_cons, apart] using
        inductionHypothesis

/-- No groups but certain ones have taken anything. -/
def Place.Within (numbers : Nat → Prop) (place : Place) : Prop :=
  ∀ entry ∈ place.captures, numbers entry.1

/-- Matching adds no other captures than those of the tree's groups. -/
theorem Course.within (subject : Array Char) (numbers : Nat → Prop) :
    Course subject numbers fun place reached => place.Within numbers → reached.Within numbers where
  refl := fun _ within => within
  trans := fun before after within => after (before within)
  taken := fun _ within => within
  captured := fun isNumber moved within => List.forall_mem_cons.mpr ⟨isNumber, moved within⟩
  looked := fun moved within => moved within

/-- One step does what another does up to raised group numbers, whatever follows, if what follows
does the same, as long as only certain groups have taken anything. -/
structure Step.Renumbers (numbers : Nat → Prop) (shift : Nat) (own raised : Step) : Prop where
  runs : ∀ (place : Place) (next next' : Place → Option Place) (finish : Place → Place),
    place.Within numbers →
    (∀ reached : Place, reached.Within numbers →
      next' (reached.renumber shift) = (next reached).map finish) →
    raised (place.renumber shift) next' = (own place next).map finish
  keeps : own.Keeps fun place reached => place.Within numbers → reached.Within numbers

namespace Step.Renumbers

variable {numbers : Nat → Prop} {shift : Nat} {own raised : Step}

/-- A step that is taken alone. -/
theorem alone (renumbers : Renumbers numbers shift own raised) (place : Place)
    (within : place.Within numbers) :
    raised (place.renumber shift) some = (own place some).map (Place.renumber shift) :=
  renumbers.runs place some some _ within fun _ _ => rfl

/-- Greedy rounds of a body. -/
theorem greedyRounds (renumbers : Renumbers numbers shift own raised) (least : Nat)
    (most : Option Nat) (fuel count : Nat) (last : Option Nat) (place : Place)
    (next next' : Place → Option Place) (finish : Place → Place) (within : place.Within numbers)
    (follows : ∀ reached : Place, reached.Within numbers →
      next' (reached.renumber shift) = (next reached).map finish) :
    Regex.greedyRounds raised least most fuel count last (place.renumber shift) next' =
      (Regex.greedyRounds own least most fuel count last place next).map finish := by
  induction fuel generalizing count last place with
  | zero => rfl
  | succ fuel inductionHypothesis =>
      have round : ∀ last', raised (place.renumber shift) (fun reached =>
          Regex.greedyRounds raised least most fuel (count + 1) last' reached next') =
          (own place fun reached =>
            Regex.greedyRounds own least most fuel (count + 1) last' reached next).map finish :=
        fun last' => renumbers.runs _ _ _ _ within fun reached => inductionHypothesis _ _ reached
      simp only [Regex.greedyRounds]
      split
      · exact round last
      · -- The place that the round began at is the same on both sides.
        change (if (allowsRound most count && last != some place.position) = true then _ else _) = _
        split
        · rw [Option.map_or, ← follows place within, ← round]
          rfl
        · exact follows place within

/-- Lazy rounds of a body. -/
theorem lazyRounds (renumbers : Renumbers numbers shift own raised) (least : Nat)
    (most : Option Nat) (fuel count : Nat) (last : Option Nat) (place : Place)
    (next next' : Place → Option Place) (finish : Place → Place) (within : place.Within numbers)
    (follows : ∀ reached : Place, reached.Within numbers →
      next' (reached.renumber shift) = (next reached).map finish) :
    Regex.lazyRounds raised least most fuel count last (place.renumber shift) next' =
      (Regex.lazyRounds own least most fuel count last place next).map finish := by
  induction fuel generalizing count last place with
  | zero => rfl
  | succ fuel inductionHypothesis =>
      have round : ∀ last', raised (place.renumber shift) (fun reached =>
          Regex.lazyRounds raised least most fuel (count + 1) last' reached next') =
          (own place fun reached =>
            Regex.lazyRounds own least most fuel (count + 1) last' reached next).map finish :=
        fun last' => renumbers.runs _ _ _ _ within fun reached => inductionHypothesis _ _ reached
      simp only [Regex.lazyRounds]
      split
      · exact round last
      · rw [Option.map_or, ← follows place within]
        congr 1
        change (if (allowsRound most count && last != some place.position) = true then _ else _) = _
        split
        · exact round _
        · rfl

/-- Possessive rounds of a body. -/
theorem possessiveRounds (renumbers : Renumbers numbers shift own raised) (least : Nat)
    (most : Option Nat) (fuel count : Nat) (last : Option Nat) {place : Place}
    (within : place.Within numbers) :
    Regex.possessiveRounds raised least most fuel count last (place.renumber shift) =
      (Regex.possessiveRounds own least most fuel count last place).map
        (Place.renumber shift) := by
  induction fuel generalizing count last place with
  | zero => rfl
  | succ fuel inductionHypothesis =>
      simp only [Regex.possessiveRounds, renumbers.alone place within]
      split
      · cases taken : own place some with
        | none => rfl
        | some reached => exact inductionHypothesis _ _ (renumbers.keeps.alone taken within)
      · change (if (allowsRound most count && last != some place.position) = true then _ else _) = _
        split
        · cases taken : own place some with
          | none => rfl
          | some reached => exact inductionHypothesis _ _ (renumbers.keeps.alone taken within)
        · rfl

end Step.Renumbers

/-- Whatever the body of a look came to, the place is left as it was but for the captures. -/
theorem look_renumber {numbers : Nat → Prop} {shift : Nat} {next next' : Place → Option Place}
    {finish : Place → Place} (negated : Bool) {place : Place} (within : place.Within numbers)
    (follows : ∀ reached : Place, reached.Within numbers →
      next' (reached.renumber shift) = (next reached).map finish)
    (found : Option Place) (foundWithin : ∀ reached ∈ found, reached.Within numbers) :
    (match found.map (Place.renumber shift) with
      | some reached =>
        if negated then none
        else next' { place.renumber shift with captures := reached.captures }
      | none => if negated then next' (place.renumber shift) else none) =
    (match found with
      | some reached =>
        if negated then none else next { place with captures := reached.captures }
      | none => if negated then next place else none).map finish := by
  cases negated with
  | false =>
      cases found with
      | none => rfl
      | some reached =>
          exact follows { place with captures := reached.captures } (foundWithin reached rfl)
  | true =>
      cases found with
      | none => exact follows place within
      | some reached => rfl

/-- A pattern tree matches as one that is like it, with raised group numbers, as long as what either
asks for has taken the same. -/
theorem Node.run_alike (subject : Array Char) {numbers : Nat → Prop} {shift : Nat}
    {asks : Nat → Nat → Prop} {node node' : Node} (alike : Alike (shift + ·) asks True node node')
    (within : ∀ number ∈ node.groupNumbers, numbers number)
    (finds : ∀ index index' captures, asks index index' → Place.Within numbers ⟨0, captures⟩ →
      (Captures.renumber shift captures).span? index' = captures.span? index) :
    Step.Renumbers numbers shift (node.run subject) (node'.run subject) := by
  refine ⟨?_, Node.run_keeps (Course.within subject numbers) within⟩
  have keeps : ∀ {node : Node}, (∀ number ∈ node.groupNumbers, numbers number) →
      (node.run subject).Keeps fun place reached => place.Within numbers → reached.Within numbers :=
    fun within => Node.run_keeps (Course.within subject numbers) within
  induction alike with
  | empty => exact fun place next next' finish inside follows => follows place inside
  | one set =>
      intro place next next' finish inside follows
      simp only [run, Place.renumber]
      split
      · split
        · exact follows { place with position := place.position + 1 } inside
        · rfl
      · rfl
  | seq _ _ firstRuns secondRuns =>
      obtain ⟨firstWithin, secondWithin⟩ := List.forall_mem_append.mp within
      exact fun place next next' finish inside follows =>
        firstRuns firstWithin _ _ _ _ inside fun reached reachedInside =>
          secondRuns secondWithin _ _ _ _ reachedInside follows
  | choice _ _ firstRuns secondRuns =>
      obtain ⟨firstWithin, secondWithin⟩ := List.forall_mem_append.mp within
      intro place next next' finish inside follows
      simp only [run, Option.map_or]
      rw [firstRuns firstWithin _ _ _ _ inside follows,
        secondRuns secondWithin _ _ _ _ inside follows]
  | iterate greed least most _ bodyRuns =>
      have renumbers : Step.Renumbers numbers shift _ _ := ⟨bodyRuns within, keeps within⟩
      intro place next next' finish inside follows
      cases greed with
      | greedy => exact renumbers.greedyRounds _ _ _ _ _ _ _ _ _ inside follows
      | lazy => exact renumbers.lazyRounds _ _ _ _ _ _ _ _ _ inside follows
      | possessive =>
          simp only [run]
          rw [renumbers.possessiveRounds _ _ _ _ _ inside]
          simp only [Place.renumber]
          cases rounds : possessiveRounds _ least most _ 0 none place with
          | none => rfl
          | some reached =>
              exact follows reached ((Course.within subject numbers).possessiveRounds
                renumbers.keeps _ _ _ _ _ rounds inside)
  | group index _ bodyRuns =>
      obtain ⟨isNumber, bodyWithin⟩ := List.forall_mem_cons.mp within
      exact fun place next next' finish inside follows =>
        bodyRuns bodyWithin _ _ _ _ inside fun reached reachedInside =>
          follows (reached.captured index place.position)
            (List.forall_mem_cons.mpr ⟨isNumber, reachedInside⟩)
  | @reference index index' asked fold =>
      intro place next next' finish inside follows
      simp only [run, Place.renumber, finds _ _ place.captures asked inside]
      cases place.captures.span? index with
      | none => rfl
      | some span =>
          by_cases same : sameCharacters subject fold span.1 place.position (span.2 - span.1) = true
          · simp only [same, reduceIte]
            exact follows { place with position := place.position + _ } inside
          · simp only [same]
            rfl
  | condition asked _ _ presentRuns absentRuns =>
      obtain ⟨presentWithin, absentWithin⟩ := List.forall_mem_append.mp within
      intro place next next' finish inside follows
      simp only [run]
      rw [presentRuns presentWithin _ _ _ _ inside follows,
        absentRuns absentWithin _ _ _ _ inside follows]
      simp only [Place.renumber, finds _ _ place.captures asked inside]
      split <;> rfl
  | look ahead negated same _ bodyRuns =>
      have renumbers : Step.Renumbers numbers shift _ _ := ⟨bodyRuns within, keeps within⟩
      cases same (.inl trivial)
      rename_i width body body' _
      intro place next next' finish inside follows
      have answer := look_renumber negated inside follows
      have taken : ∀ {begun : Place}, begun.Within numbers →
          ∀ reached ∈ body.run subject begun some, reached.Within numbers :=
        fun begunInside reached found => renumbers.keeps.alone found begunInside
      cases ahead with
      | true =>
          simp only [run, renumbers.alone place inside]
          exact answer _ (taken inside)
      | false =>
          simp only [run]
          by_cases early : place.position < width.least
          · simp only [Place.renumber, early, reduceIte]
            exact answer none fun reached found => absurd found (Option.not_mem_none reached)
          · have behind := renumbers.alone
              { place with position := place.position - width.least } inside
            simp only [Place.renumber, early, reduceIte]
            exact behind ▸ answer _ (taken inside)
  | atomic _ bodyRuns =>
      have renumbers : Step.Renumbers numbers shift _ _ := ⟨bodyRuns within, keeps within⟩
      intro place next next' finish inside follows
      simp only [run, renumbers.alone _ inside]
      cases found : run subject _ place some with
      | none => rfl
      | some reached => exact follows reached (renumbers.keeps.alone found inside)
  | assertion anchor =>
      intro place next next' finish inside follows
      simp only [run, Place.renumber]
      by_cases holds : anchor.holds subject place.position = true
      · simp only [holds, reduceIte]
        exact follows place inside
      · simp only [holds]
        rfl

/-- Every pattern tree matches with raised group numbers as it does with its own. -/
theorem Node.run_renumber (subject : Array Char) (shift : Nat) (node : Node) :
    Step.Renumbers (fun _ => True) shift (node.run subject)
      ((node.renumber shift).run subject) := by
  refine Node.run_alike subject (node.alike_renumber shift) (fun _ _ => trivial) ?_
  rintro index _ captures rfl -
  exact Captures.span?_renumber shift captures index

end Structex.Regex
