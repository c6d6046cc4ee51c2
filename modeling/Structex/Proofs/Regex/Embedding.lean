import Structex.Proofs.Regex.Reading

/-!
# Reading inside a longer source

The source of one pattern may stand inside the source of another, after other groups and before a
closing parenthesis. A reader embeds if it does there what it does alone: where both go through it
takes the same characters, opens as many groups, and gives them the same names. A line feed stands
before the parenthesis if the surrounding group is verbose, so that a comment does not swallow it.

How far the rest of the state agrees, and with it what is read, depends on references. A reference
to a group by its number means another group in the whole, and from then on the two may differ in
the widths of groups and in what is refused. As long as there is none, the whole is in the state of
the part with the numbers of groups raised, and it is not refused where the part is not, unless a
name of the part was given before. Whether there is one is a matter of the frame, so that one proof
for each reader serves both.
-/

namespace Structex.Regex

/-- What surrounds the source of a part: what was read of the whole before it, and what comes after
the parenthesis that closes it. -/
structure Frame where
  source : List Char
  position : Nat
  names : List (String × Nat)
  widths : List (Option Width)
  conditions : List (Nat × Nat)
  references : List Nat
  verbose : Bool
  after : List Char
  /-- The whole is to agree with the part in all, which asks for no group by its number. -/
  exact : Prop
  /-- The groups of the part that have names. -/
  named : List Nat
  deriving Inhabited

namespace Frame

open Reader (Gives)

variable {α β γ δ : Type} {frame : Frame}

/-- By how much the numbers of groups are raised. -/
def shift (frame : Frame) : Nat :=
  frame.widths.length

/-- What stands between the part and the parenthesis. -/
def blank (frame : Frame) : List Char :=
  if frame.verbose then ['\n'] else []

/-- What follows the part. -/
def tail (frame : Frame) : List Char :=
  frame.blank ++ ')' :: frame.after

/-- The state in which the whole is read when the part has been read so far. -/
def embed (frame : Frame) (own : Reading) : Reading where
  source := frame.source
  rest := own.rest ++ frame.tail
  position := frame.position + own.position
  names := frame.names ++ own.names.map fun entry => (entry.1, frame.shift + entry.2)
  widths := frame.widths ++ own.widths
  lookbehindLimit := own.lookbehindLimit.map (frame.shift + ·)
  conditions := frame.conditions
  references := frame.references

/-- The state in which the whole is read when the part is at its end and the closing parenthesis
comes next. -/
def finish (frame : Frame) (own : Reading) : Reading :=
  { frame.embed own with
    rest := ')' :: frame.after
    position := frame.position + own.position + frame.blank.length }

/-- No name of the part has been given to a group before it. -/
def Apart (frame : Frame) (own : Reading) : Prop :=
  ∀ entry ∈ own.names, frame.names.lookup entry.1 = none

/-- What is known of a state of the whole that should be another, the part being in a state: as much
is left, as many groups are open and they have the same names, and the states are the same if the
part asks for no group by its number. -/
structure Agrees (frame : Frame) (own target whole : Reading) : Prop where
  rest : whole.rest = target.rest
  groups : whole.widths.length = target.widths.length
  names : whole.names = target.names
  apart : frame.Apart own
  exact : frame.exact → whole = target

/-- The whole is not refused up to where the part has been read: the part asks for no group by its
number, and no name of it has been given before. -/
structure Accepts (frame : Frame) (own : Reading) : Prop where
  exact : frame.exact
  apart : frame.Apart own

/-- Names that have been met stay known. -/
theorem Accepts.before {own ended : Reading} (accepts : frame.Accepts ended)
    (leads : own.Leads ended) : frame.Accepts own :=
  ⟨accepts.exact, fun entry known => accepts.apart entry (leads.names.subset known)⟩

/-- What the frame says about the part is so up to where the part has been read. -/
structure Hears (frame : Frame) (own : Reading) : Prop where
  quiet : frame.exact → own.Quiet
  named : ∀ entry ∈ own.names, entry.2 ∈ frame.named

/-- What is said about more of the part is said about less. -/
theorem Hears.before {own ended : Reading} (heard : frame.Hears ended) (leads : own.Leads ended) :
    frame.Hears own :=
  ⟨fun exact => leads.quiet (heard.quiet exact),
    fun entry known => heard.named entry (leads.names.subset known)⟩

/-- What is known of an outcome of the whole where the part gave an answer: an answer is related to
that of the part, and the state agrees with the target. Nothing is too large in the whole that was
not in the part. -/
abbrev Mirrors (frame : Frame) (related : α → β → Prop) (answer : α) (ended target : Reading)
    (outcome : Except Fault (β × Reading)) : Prop :=
  Gives (frame.Accepts ended)
    (fun answer' reached => related answer answer' ∧ frame.Agrees ended target reached)
    Fault.IsMalformed outcome

/-- The whole is refused because it breaks the grammar. -/
abbrev Refused (outcome : Except Fault (α × Reading)) : Prop :=
  Gives False (fun _ _ => False) Fault.IsMalformed outcome

/-- From a state on, one reader does in the whole what another does alone. What the whole answers is
related to the answer of the part. The state that the whole is left in is given by `place`; nothing
is promised where that gives none. -/
structure EmbedsAt (frame : Frame) (place : Reading → Option Reading) (related : α → β → Prop)
    (own : Reader α) (whole : Reader β) (start : Reading) : Prop where
  leads : ∀ {answer ended}, own.run start = .ok (answer, ended) → start.Leads ended
  possible : ∀ {answer ended}, own.run start = .ok (answer, ended) →
    ∃ answer', related answer answer'
  mirrors : ∀ {answer ended target begun}, own.run start = .ok (answer, ended) →
    frame.Hears ended → place ended = some target →
    frame.Agrees start (frame.embed start) begun →
    frame.Mirrors related answer ended target (whole.run begun)

/-- The whole is left in the state of the part, still inside it. -/
def inside (frame : Frame) (ended : Reading) : Option Reading :=
  some (frame.embed ended)

/-- From a state on, one reader does in the whole what another does alone, and answers the same. -/
abbrev RepeatsAt (frame : Frame) (own whole : Reader α) (start : Reading) : Prop :=
  frame.EmbedsAt frame.inside (fun answer answer' => answer' = answer) own whole start

/-- From every state with at most so many characters left, one reader does in the whole what
another does alone. -/
def Embeds (frame : Frame) (limit : Nat) (place : Reading → Option Reading)
    (related : α → β → Prop) (own : Reader α) (whole : Reader β) : Prop :=
  ∀ start, start.rest ≠ ['\\'] → start.rest.length ≤ limit →
    frame.EmbedsAt place related own whole start

/-- A reader does in the whole what another does alone, with a related answer. -/
abbrev Raises (frame : Frame) (limit : Nat) (related : α → β → Prop) (own : Reader α)
    (whole : Reader β) : Prop :=
  frame.Embeds limit frame.inside related own whole

/-- A reader does in the whole what another does alone, and answers the same. -/
abbrev Repeats (frame : Frame) (limit : Nat) (own whole : Reader α) : Prop :=
  frame.Raises limit (fun answer answer' => answer' = answer) own whole

/-- A reader does in the whole what it does alone, and answers the same. -/
abbrev Copies (frame : Frame) (limit : Nat) (reader : Reader α) : Prop :=
  frame.Repeats limit reader reader

variable {limit : Nat} {place : Reading → Option Reading} {related : α → β → Prop}
  {related' : γ → δ → Prop}

/-- From a state on, what goes on from readers that embed embeds if it does so from the state that
the whole is left in. -/
theorem EmbedsAt.bindTo {place' : Reading → Option Reading} {first : Reader α} {first' : Reader β}
    {second : α → Reader γ} {second' : β → Reader δ} {start : Reading}
    (firstEmbeds : frame.EmbedsAt place' related first first' start)
    (leads : ∀ {given given' middle answer ended}, first.run start = .ok (given, middle) →
      related given given' → (second given).run middle = .ok (answer, ended) →
      middle.Leads ended ∧ ∃ answer', related' answer answer')
    (mirrors : ∀ {given middle answer ended target}, first.run start = .ok (given, middle) →
      (second given).run middle = .ok (answer, ended) → frame.Hears ended →
      place ended = some target →
      ∃ between, place' middle = some between ∧ ∀ {given' begun}, related given given' →
        frame.Agrees middle between begun →
        frame.Mirrors related' answer ended target ((second' given').run begun)) :
    frame.EmbedsAt place related' (first >>= second) (first' >>= second') start where
  leads := by
    intro answer ended ran
    obtain ⟨given, middle, ranFirst, ranSecond⟩ := Reader.run_bind_eq_ok.mp ran
    obtain ⟨given', same⟩ := firstEmbeds.possible ranFirst
    exact (firstEmbeds.leads ranFirst).trans (leads ranFirst same ranSecond).1
  possible := by
    intro answer ended ran
    obtain ⟨given, middle, ranFirst, ranSecond⟩ := Reader.run_bind_eq_ok.mp ran
    obtain ⟨given', same⟩ := firstEmbeds.possible ranFirst
    exact (leads ranFirst same ranSecond).2
  mirrors := by
    intro answer ended target begun ran heard placed agrees
    obtain ⟨given, middle, ranFirst, ranSecond⟩ := Reader.run_bind_eq_ok.mp ran
    obtain ⟨given', same⟩ := firstEmbeds.possible ranFirst
    have after := (leads ranFirst same ranSecond).1
    obtain ⟨between, placedMiddle, further⟩ := mirrors ranFirst ranSecond heard placed
    have mirrored := firstEmbeds.mirrors ranFirst (heard.before after) placedMiddle agrees
    exact mirrored.bind (·.before after) fun both => further both.1 both.2

/-- From a state on, what goes on from readers that embed embeds if it does from every state that
is reached, whatever the whole answers that it may. -/
theorem EmbedsAt.bindRaised {first : Reader α} {first' : Reader β} {second : α → Reader γ}
    {second' : β → Reader δ} {start : Reading}
    (firstEmbeds : frame.EmbedsAt frame.inside related first first' start)
    (secondEmbeds : ∀ given given' middle, first.run start = .ok (given, middle) →
      related given given' → frame.EmbedsAt place related' (second given) (second' given') middle) :
    frame.EmbedsAt place related' (first >>= second) (first' >>= second') start :=
  firstEmbeds.bindTo
    (fun ranFirst same ranSecond =>
      have embeds := secondEmbeds _ _ _ ranFirst same
      ⟨embeds.leads ranSecond, embeds.possible ranSecond⟩)
    fun ranFirst ranSecond heard placed => ⟨_, rfl, fun same agrees =>
      (secondEmbeds _ _ _ ranFirst same).mirrors ranSecond heard placed agrees⟩

/-- From a state on, what goes on from readers that embed embeds if it does from every state that
is reached. -/
theorem EmbedsAt.bind {map : α → β} {first : Reader α} {first' : Reader β} {second : α → Reader γ}
    {second' : β → Reader δ} {start : Reading}
    (firstEmbeds : frame.EmbedsAt frame.inside (fun answer answer' => answer' = map answer) first
      first' start)
    (secondEmbeds : ∀ given middle, first.run start = .ok (given, middle) →
      frame.EmbedsAt place related' (second given) (second' (map given)) middle) :
    frame.EmbedsAt place related' (first >>= second) (first' >>= second') start :=
  firstEmbeds.bindRaised fun given _ middle ran same => same ▸ secondEmbeds given middle ran

/-- Where what goes on from an answer is refused, so is the whole. -/
theorem EmbedsAt.refused_bind {own : Reader α} {whole : Reader β} {second : β → Reader δ}
    {start middle begun : Reading} {given : α}
    (embeds : frame.EmbedsAt frame.inside related own whole start)
    (ran : own.run start = .ok (given, middle)) (heard : frame.Hears middle)
    (agrees : frame.Agrees start (frame.embed start) begun)
    (refused : ∀ given', related given given' → ∀ begun,
      frame.Agrees middle (frame.embed middle) begun → Refused ((second given').run begun)) :
    Refused ((whole >>= second).run begun) :=
  (embeds.mirrors ran heard rfl agrees).bind False.elim fun both => refused _ both.1 _ both.2

/-- What goes on from readers that embed embeds, whatever the whole answers that it may. -/
theorem Embeds.bindRaised {first : Reader α} {first' : Reader β} {second : α → Reader γ}
    {second' : β → Reader δ} (firstEmbeds : frame.Embeds limit frame.inside related first first')
    (secondEmbeds : ∀ given given', related given given' →
      frame.Embeds limit place related' (second given) (second' given')) :
    frame.Embeds limit place related' (first >>= second) (first' >>= second') := by
  intro start escapes short
  refine (firstEmbeds start escapes short).bindRaised fun given given' middle ran same => ?_
  have leads := (firstEmbeds start escapes short).leads ran
  exact secondEmbeds given given' same middle leads.escapes (Nat.le_trans leads.remains short)

/-- What goes on from readers that embed embeds. -/
theorem Embeds.bind {map : α → β} {first : Reader α} {first' : Reader β} {second : α → Reader γ}
    {second' : β → Reader δ}
    (firstEmbeds : frame.Embeds limit frame.inside (fun answer answer' => answer' = map answer)
      first first')
    (secondEmbeds : ∀ given,
      frame.Embeds limit place related' (second given) (second' (map given))) :
    frame.Embeds limit place related' (first >>= second) (first' >>= second') :=
  firstEmbeds.bindRaised fun given _ same => same ▸ secondEmbeds given

/-- What is made of an answer embeds wherever the whole is left. -/
theorem Embeds.answer {own : Reader α} {whole : Reader β}
    (embeds : frame.Embeds limit place related own whole) {make : α → γ} {make' : β → δ}
    (same : ∀ given given', related given given' → related' (make given) (make' given')) :
    frame.Embeds limit place related' (do return make (← own)) (do return make' (← whole)) := by
  intro start escapes short
  have first := embeds start escapes short
  refine first.bindTo ?_ ?_
  · intro given given' middle answer ended ranFirst known ranSecond
    cases ranSecond
    exact ⟨.refl (first.leads ranFirst).escapes, _, same given given' known⟩
  · intro given middle answer ended target ranFirst ranSecond heard placed
    cases ranSecond
    exact ⟨target, placed, fun known agrees => .of_ok rfl ⟨same given _ known, agrees⟩⟩

/-- An answer without reading. -/
theorem Embeds.pure {answer : γ} {answer' : δ} (same : related' answer answer') :
    frame.Raises limit related' (Pure.pure answer) (Pure.pure answer') := by
  intro start escapes short
  refine ⟨?_, fun ran => ?_, ?_⟩
  · intro answer ended ran
    cases ran
    exact .refl escapes
  · cases ran
    exact ⟨answer', same⟩
  · intro answer ended target begun ran heard placed agrees
    cases ran
    cases placed
    exact .of_ok rfl ⟨same, agrees⟩

/-- Nothing is asked of the whole where the part is refused. -/
theorem EmbedsAt.of_refused {own : Reader α} {whole : Reader β} {start : Reading}
    (refused : ∀ outcome, own.run start ≠ .ok outcome) :
    frame.EmbedsAt place related own whole start :=
  ⟨fun ran => absurd ran (refused _), fun ran => absurd ran (refused _),
    fun ran => absurd ran (refused _)⟩

theorem Embeds.of_refuses {own : Reader α} (refuses : own.Refuses) (whole : Reader β) :
    frame.Embeds limit place related own whole :=
  fun start _ _ => .of_refused (refuses start)

/-- Readers that do the same from a state on embed alike. -/
theorem EmbedsAt.congr {own own' : Reader α} {whole whole' : Reader β} {start : Reading}
    (embeds : frame.EmbedsAt place related own' whole' start)
    (sameOwn : own.run start = own'.run start)
    (sameWhole : ∀ begun, begun.rest = (frame.embed start).rest →
      whole.run begun = whole'.run begun) :
    frame.EmbedsAt place related own whole start where
  leads := fun ran => embeds.leads (sameOwn ▸ ran)
  possible := fun ran => embeds.possible (sameOwn ▸ ran)
  mirrors := fun ran heard placed agrees =>
    sameWhole _ agrees.rest ▸ embeds.mirrors (sameOwn ▸ ran) heard placed agrees

/-- A step that only looks at the state embeds if the whole does no more. -/
theorem EmbedsAt.of_look {own : Reader α} {whole : Reader β} {start : Reading} {answer : α}
    (escapes : start.rest ≠ ['\\']) (ran : own.run start = .ok (answer, start))
    (possible : ∃ answer', related answer answer')
    (looks : ∀ begun, frame.Hears start → frame.Agrees start (frame.embed start) begun →
      frame.Mirrors related answer start (frame.embed start) (whole.run begun)) :
    frame.EmbedsAt frame.inside related own whole start where
  leads := by
    intro given ended ranOwn
    cases ran.symm.trans ranOwn
    exact .refl escapes
  possible := by
    intro given ended ranOwn
    cases ran.symm.trans ranOwn
    exact possible
  mirrors := by
    intro given ended target begun ranOwn heard placed agrees
    cases ran.symm.trans ranOwn
    cases placed
    exact looks begun heard agrees

/-! ## Small steps -/

/-- The part is followed by a line feed or a parenthesis. -/
theorem firstToken_tail (frame : Frame) :
    firstToken frame.tail = some (.plain '\n') ∨ firstToken frame.tail = some (.plain ')') := by
  unfold tail blank
  split
  · exact .inl rfl
  · exact .inr rfl

/-- A lone backslash is never left of the whole. -/
theorem append_tail_escapes (frame : Frame) (rest : List Char) :
    rest ++ frame.tail ≠ ['\\'] := by
  unfold tail blank
  cases rest with
  | nil => split <;> simp
  | cons c rest => simp

/-- The next token of the part is the next token of the whole. -/
theorem firstToken_embed {start : Reading} {token : Token} (escapes : start.rest ≠ ['\\'])
    (first : firstToken start.rest = some token) :
    firstToken (frame.embed start).rest = some token := by
  have nonempty : start.rest ≠ [] := by
    intro ended
    rw [ended] at first
    cases first
  exact (firstToken_append nonempty escapes _).trans first

/-- Dropping characters of the part commutes with the embedding. -/
theorem embed_dropped {start : Reading} {count : Nat} (within : count ≤ start.rest.length) :
    (frame.embed start).dropped count = frame.embed (start.dropped count) := by
  simp only [embed, Reading.dropped, List.drop_append_of_le_length within, Nat.add_assoc]

/-- States agree after the same characters have been dropped. -/
theorem Agrees.dropped {start begun : Reading} {count : Nat}
    (agrees : frame.Agrees start (frame.embed start) begun)
    (within : count ≤ start.rest.length) :
    frame.Agrees (start.dropped count) (frame.embed (start.dropped count))
      (begun.dropped count) where
  rest := by
    rw [← embed_dropped within, Reading.dropped, Reading.dropped, agrees.rest]
  groups := agrees.groups
  names := agrees.names
  apart := agrees.apart
  exact := fun exact => agrees.exact exact ▸ embed_dropped within

/-- Dropping characters of the part never leaves a lone backslash of the whole. -/
theorem Agrees.escapes_dropped {start begun : Reading} {count : Nat}
    (agrees : frame.Agrees start (frame.embed start) begun)
    (within : count ≤ start.rest.length) : begun.rest.drop count ≠ ['\\'] := fun alone =>
  append_tail_escapes frame _ ((agrees.dropped within).rest.symm.trans alone)

/-- Characters of the part can be dropped. -/
theorem drop_embedsAt {start : Reading} {count : Nat} (within : count ≤ start.rest.length) :
    frame.RepeatsAt (Reader.drop count) (Reader.drop count) start where
  leads := by
    intro answer ended ran
    obtain ⟨escapes, rfl⟩ := Reader.run_drop_eq_ok.mp ran
    exact .dropped escapes
  possible := fun _ => ⟨_, rfl⟩
  mirrors := by
    intro answer ended target begun ran heard placed agrees
    obtain ⟨escapes, rfl⟩ := Reader.run_drop_eq_ok.mp ran
    cases placed
    exact .of_ok (Reader.run_drop (agrees.escapes_dropped within)) ⟨rfl, agrees.dropped within⟩

/-- What follows a token that has been dropped embeds if it does with fewer characters left. -/
theorem EmbedsAt.bindDrop {own : Unit → Reader γ} {whole : Unit → Reader δ} {start : Reading}
    {token : Token} (first : firstToken start.rest = some token)
    (short : start.rest.length ≤ limit)
    (embeds : ∀ fewer < limit, frame.Embeds fewer place related' (own ()) (whole ())) :
    frame.EmbedsAt place related' (Reader.drop token.width >>= own)
      (Reader.drop token.width >>= whole) start := by
  have within := width_le_of_firstToken first
  refine (drop_embedsAt within).bind fun _ middle ran => ?_
  obtain ⟨escapes, rfl⟩ := Reader.run_drop_eq_ok.mp ran
  have fewer := Nat.lt_of_lt_of_le (Reading.length_dropped_lt first) short
  exact embeds _ fewer _ escapes (Nat.le_refl _)

/-- What follows a look at the next token embeds if it does for that token. -/
theorem EmbedsAt.bindPeek {own : Option Token → Reader γ} {whole : Option Token → Reader δ}
    {start : Reading} {token : Token} (escapes : start.rest ≠ ['\\'])
    (first : firstToken start.rest = some token)
    (embeds : frame.EmbedsAt place related' (own (some token)) (whole (some token)) start) :
    frame.EmbedsAt place related' (Reader.peek >>= own) (Reader.peek >>= whole) start := by
  refine embeds.congr ?_ fun begun sameRest => ?_
  · rw [Reader.run_bind_of_ok (Reader.run_peek start), first]
  · rw [Reader.run_bind_of_ok (Reader.run_peek _), sameRest, firstToken_embed escapes first]

/-- What follows a token embeds if the part is refused without one. -/
theorem Embeds.bindNext {own : Option Token → Reader γ} {whole : Option Token → Reader δ}
    (ended : (own none).Refuses)
    (embeds : ∀ token, ∀ fewer < limit, frame.Embeds fewer place related' (own (some token))
      (whole (some token))) :
    frame.Embeds limit place related' (Reader.next >>= own) (Reader.next >>= whole) := by
  intro start escapes short
  cases first : firstToken start.rest with
  | none =>
      have nothing := (firstToken_eq_none_iff escapes).mp first
      refine .of_refused fun outcome => ?_
      rw [Reader.run_bind_of_ok (Reader.run_next_of_end nothing)]
      exact ended start outcome
  | some token =>
      have dropped : frame.EmbedsAt place related'
          (Reader.drop token.width >>= fun _ => own (some token))
          (Reader.drop token.width >>= fun _ => whole (some token)) start :=
        .bindDrop first short (embeds token)
      refine dropped.congr (Reader.run_next_bind first own) fun begun sameRest => ?_
      exact Reader.run_next_bind (sameRest ▸ firstToken_embed escapes first) whole

/-- The end of the part looks like no character but the two that may follow it. -/
theorem firstToken_embed_ne {start : Reading} {c : Char} (escapes : start.rest ≠ ['\\'])
    (apart : c ≠ '\n' ∧ c ≠ ')') (first : firstToken start.rest ≠ some (.plain c)) :
    firstToken (frame.embed start).rest ≠ some (.plain c) := by
  by_cases ended : start.rest = []
  · have atEnd : (frame.embed start).rest = frame.tail := by simp [embed, ended]
    rw [atEnd]
    rcases firstToken_tail frame with tail | tail
    · simpa [tail] using Ne.symm apart.1
    · simpa [tail] using Ne.symm apart.2
  · exact (firstToken_append ended escapes _).symm ▸ first

/-- A look at the next token sees the same in the whole. -/
theorem sees_copies {c : Char} (apart : c ≠ '\n' ∧ c ≠ ')') :
    frame.Copies limit (Reader.sees c) := by
  intro start escapes short
  have same : (firstToken (frame.embed start).rest == some (.plain c)) =
      (firstToken start.rest == some (.plain c)) := by
    by_cases first : firstToken start.rest = some (.plain c)
    · rw [first, firstToken_embed escapes first]
    · rw [beq_eq_false_iff_ne.mpr first,
        beq_eq_false_iff_ne.mpr (firstToken_embed_ne escapes apart first)]
  refine .of_look escapes rfl ⟨_, rfl⟩ fun begun heard agrees =>
    .of_ok (Reader.run_sees c begun) ⟨?_, agrees⟩
  rw [agrees.rest]
  exact same

/-- From a state on, what follows a test for a character embeds, with fewer characters left if it
was taken. -/
theorem EmbedsAt.bindAccept {own : Bool → Reader γ} {whole : Bool → Reader δ} {c : Char}
    {start : Reading} (escapes : start.rest ≠ ['\\']) (short : start.rest.length ≤ limit)
    (apart : c ≠ '\n' ∧ c ≠ ')')
    (taken : ∀ fewer < limit, frame.Embeds fewer place related' (own true) (whole true))
    (other : frame.EmbedsAt place related' (own false) (whole false) start) :
    frame.EmbedsAt place related' (Reader.accept c >>= own) (Reader.accept c >>= whole)
      start := by
  by_cases first : firstToken start.rest = some (.plain c)
  · have dropped : frame.EmbedsAt place related' (Reader.drop 1 >>= fun _ => own true)
        (Reader.drop 1 >>= fun _ => whole true) start :=
      .bindDrop first short taken
    refine dropped.congr (Reader.run_accept_bind first own) fun begun sameRest => ?_
    exact Reader.run_accept_bind (sameRest ▸ firstToken_embed escapes first) whole
  · refine other.congr (Reader.run_bind_of_ok (Reader.run_accept_of_ne first) own)
      fun begun sameRest => Reader.run_bind_of_ok (Reader.run_accept_of_ne ?_) whole
    exact sameRest ▸ firstToken_embed_ne escapes apart first

/-- What follows a test for a character embeds, with fewer characters left if it was taken. -/
theorem Embeds.bindAccept {own : Bool → Reader γ} {whole : Bool → Reader δ} {c : Char}
    (apart : c ≠ '\n' ∧ c ≠ ')')
    (taken : ∀ fewer < limit, frame.Embeds fewer place related' (own true) (whole true))
    (other : frame.Embeds limit place related' (own false) (whole false)) :
    frame.Embeds limit place related' (Reader.accept c >>= own) (Reader.accept c >>= whole) :=
  fun start escapes short => .bindAccept escapes short apart taken (other start escapes short)

/-- What follows a count of the characters left embeds if it does with a count that is larger in
the whole. -/
theorem Embeds.bindLeft {own : Nat → Reader γ} {whole : Nat → Reader δ}
    (embeds : ∀ count count', count ≤ limit → count ≤ count' →
      frame.Embeds count place related' (own count) (whole count')) :
    frame.Embeds limit place related' (Reader.left >>= own) (Reader.left >>= whole) := by
  intro start escapes short
  have more : start.rest.length ≤ (frame.embed start).rest.length := by
    rw [embed, List.length_append]
    exact Nat.le_add_right _ _
  refine (embeds _ _ short more start escapes (Nat.le_refl _)).congr
    (Reader.run_bind_of_ok (Reader.run_left start) own) fun begun sameRest => ?_
  rw [Reader.run_bind_of_ok (Reader.run_left begun), sameRest]

/-- The part may stand anywhere in the whole. -/
theorem offset_embeds : frame.Raises limit (fun _ _ => True) Reader.offset Reader.offset :=
  fun start escapes _ => .of_look escapes rfl ⟨start.position, trivial⟩ fun begun _ agrees =>
    .of_ok (Reader.run_offset begun) ⟨trivial, agrees⟩

/-- Characters of a class are taken up to the end of the part at most. -/
theorem takeSome_copies {holds : Char → Bool} (apart : holds '\n' = false ∧ holds ')' = false)
    (most : Nat) : frame.Copies limit (Reader.takeSome holds most) := by
  induction most generalizing limit with
  | zero => exact .pure rfl
  | succ most inductionHypothesis =>
      intro start escapes short
      have nothing : frame.Copies limit (Pure.pure ([] : List Char)) := .pure rfl
      rw [Reader.takeSome]
      cases first : firstToken start.rest with
      | none =>
          have ended := (firstToken_eq_none_iff escapes).mp first
          have atEnd : (frame.embed start).rest = frame.tail := by simp [embed, ended]
          refine (nothing start escapes short).congr ?_ fun begun sameRest => ?_
          · rw [Reader.run_bind_of_ok (Reader.run_peek start), first]
          · rw [Reader.run_bind_of_ok (Reader.run_peek _), sameRest, atEnd]
            rcases firstToken_tail frame with tail | tail
            · simp [tail, apart.1]
            · simp [tail, apart.2]
      | some token =>
          refine .bindPeek escapes first ?_
          cases token with
          | escape c => exact nothing start escapes short
          | plain c =>
              dsimp only
              split
              · exact .bindDrop first short fun fewer _ =>
                  inductionHypothesis.bind fun taken => .pure rfl
              · exact nothing start escapes short

/-- A closed text ends inside the part, whatever is left after it. -/
theorem untilLoop_embeds (terminator : Char) (what : String) {fuel fuel' : Nat}
    (enough : limit < fuel) (enough' : limit < fuel') (taken : List Char) :
    frame.Repeats limit (Reader.untilLoop terminator what fuel taken)
      (Reader.untilLoop terminator what fuel' taken) := by
  induction fuel generalizing limit fuel' taken with
  | zero => exact absurd enough (Nat.not_lt_zero _)
  | succ fuel inductionHypothesis =>
      obtain ⟨fuel', rfl⟩ : ∃ less, fuel' = less + 1 := ⟨fuel' - 1, by omega⟩
      rw [Reader.untilLoop, Reader.untilLoop]
      refine .bindNext ?_ fun token fewer less => ?_
      · dsimp only
        split <;> exact Reader.fail_refuses _ _
      · dsimp only
        split
        · split
          · exact .of_refuses (Reader.fail_refuses _ _) _
          · exact .pure rfl
        · exact inductionHypothesis (by omega) (by omega) _

/-- A name ends inside the part. -/
theorem takeName_copies (terminator : Char) (what : String) :
    frame.Copies limit (Reader.takeName terminator what) :=
  .bindLeft fun _ _ _ more => untilLoop_embeds terminator what (Nat.lt_succ_self _)
    (Nat.lt_succ_of_le more) []

/-- A name is checked alike. -/
theorem checkName_copies (name : List Char) : frame.Copies limit (Reader.checkName name) := by
  unfold Reader.checkName
  split
  · exact .pure rfl
  · exact .of_refuses (Reader.fail_refuses _ _) _

/-! ## Groups -/

/-- A change of the state embeds if the whole changes in the same way, and no name is given and
nothing taken. -/
theorem modify_embeds {change change' : Reading → Reading}
    (leads : ∀ start : Reading, start.rest ≠ ['\\'] → start.Leads (change start))
    (names : ∀ start, (change start).names = start.names)
    (loose : ∀ start begun, begun.rest = (frame.embed start).rest →
      begun.widths.length = (frame.embed start).widths.length →
      begun.names = (frame.embed start).names →
      (change' begun).rest = (frame.embed (change start)).rest ∧
        (change' begun).widths.length = (frame.embed (change start)).widths.length ∧
        (change' begun).names = (frame.embed (change start)).names)
    (same : frame.exact → ∀ start, change' (frame.embed start) = frame.embed (change start)) :
    frame.Repeats limit (modify change) (modify change') := by
  intro start escapes short
  refine ⟨?_, fun _ => ⟨_, rfl⟩, ?_⟩
  · intro answer ended ran
    cases ran
    exact leads start escapes
  · intro answer ended target begun ran heard placed agrees
    cases ran
    cases placed
    obtain ⟨rest, groups, named⟩ := loose start begun agrees.rest agrees.groups agrees.names
    refine .of_ok rfl ⟨rfl, rest, groups, named, fun entry known => ?_, fun exact => ?_⟩
    · rw [names] at known
      exact agrees.apart entry known
    · rw [agrees.exact exact, same exact start]

/-- A name of the whole that is apart from those before the part is a name of the part. -/
theorem lookup_embed {own : Reading} {name : String} (free : frame.names.lookup name = none) :
    (frame.embed own).names.lookup name = (own.names.lookup name).map (frame.shift + ·) := by
  have shifted : ∀ names : List (String × Nat),
      (names.map fun entry => (entry.1, frame.shift + entry.2)).lookup name =
        (names.lookup name).map (frame.shift + ·) := by
    intro names
    induction names with
    | nil => rfl
    | cons entry rest inductionHypothesis =>
        obtain ⟨known, group⟩ := entry
        simp only [List.map_cons, List.lookup_cons, inductionHypothesis]
        split <;> rfl
  simp only [embed, List.lookup_append, free, Option.none_or, shifted]

/-- The group that the whole asks for where the part asks for one: the same one under its raised
number, or, if the part asks by number, the one that has this number in the whole. -/
def Asks (frame : Frame) (group group' : Nat) : Prop :=
  (frame.exact ∨ group ∈ frame.named) ∧ group' = frame.shift + group ∨
    ¬ frame.exact ∧ group' = group

/-- Some group is asked for. -/
theorem exists_asks (group : Nat) : ∃ group', frame.Asks group group' := by
  by_cases exact : frame.exact
  · exact ⟨_, .inl ⟨.inl exact, rfl⟩⟩
  · exact ⟨_, .inr ⟨exact, rfl⟩⟩

theorem Asks.of_exact {group group' : Nat} (asks : frame.Asks group group') (exact : frame.exact) :
    group' = frame.shift + group := by
  rcases asks with ⟨-, same⟩ | ⟨noisy, -⟩
  · exact same
  · exact absurd exact noisy

/-- A name stands for the same group, under its raised number. -/
theorem namedGroup_embeds (name : List Char) :
    frame.Raises limit frame.Asks (Reader.namedGroup name) (Reader.namedGroup name) := by
  intro start escapes short
  refine ⟨?_, fun _ => exists_asks _, ?_⟩
  · intro group ended ran
    obtain ⟨-, rfl⟩ := Reader.run_namedGroup_eq_ok.mp ran
    exact .refl escapes
  · intro group ended target begun ran heard placed agrees
    obtain ⟨known, rfl⟩ := Reader.run_namedGroup_eq_ok.mp ran
    cases placed
    obtain ⟨_, _, split, -⟩ := List.lookup_eq_some_iff.mp known
    have member : (String.ofList name, group) ∈ ended.names := by simp [split]
    have free := agrees.apart _ member
    have knownWhole : begun.names.lookup (String.ofList name) = some (frame.shift + group) := by
      rw [agrees.names, lookup_embed free, known]
      rfl
    exact .of_ok (Reader.run_namedGroup_eq_ok.mpr ⟨knownWhole, rfl⟩)
      ⟨.inl ⟨.inr (heard.named _ member), rfl⟩, agrees⟩

/-- A name that the part gives to a group is given in the whole if and only if no group before has
it. -/
theorem nameGroup_embeds (chars : List Char) (group : Nat) :
    frame.Repeats limit (Reader.nameGroup chars group)
      (Reader.nameGroup chars (frame.shift + group)) := by
  intro start escapes short
  refine ⟨?_, fun _ => ⟨_, rfl⟩, ?_⟩
  · intro answer ended ran
    obtain ⟨-, rfl⟩ := Reader.run_nameGroup_eq_ok.mp ran
    exact ⟨Nat.le_refl _, escapes, List.prefix_append _ _, Nat.le_refl _, fun quiet => quiet, rfl⟩
  · intro answer ended target begun ran heard placed agrees
    obtain ⟨unknown, rfl⟩ := Reader.run_nameGroup_eq_ok.mp ran
    cases placed
    refine ⟨fun ranWhole => ⟨rfl, ?_⟩, fun failed => Reader.nameGroup_declines _ _ _ _ failed,
      fun accepts => ?_⟩
    · obtain ⟨unknownWhole, rfl⟩ := Reader.run_nameGroup_eq_ok.mp ranWhole
      have taken : frame.names.lookup (String.ofList chars) = none := by
        simp only [agrees.names, embed, List.lookup_append, Option.or_eq_none_iff] at unknownWhole
        exact unknownWhole.1
      refine ⟨agrees.rest, agrees.groups, by simp [agrees.names, embed, List.append_assoc],
        fun entry known => ?_, fun exact => ?_⟩
      · rcases List.mem_append.mp known with before | new
        · exact agrees.apart entry before
        · rw [List.mem_singleton.mp new]
          exact taken
      · simp [agrees.exact exact, embed, List.append_assoc]
    · have free := accepts.apart (String.ofList chars, group) (by simp)
      refine ⟨(), _, Reader.run_nameGroup_eq_ok.mpr ⟨?_, rfl⟩⟩
      rw [agrees.names, lookup_embed free, unknown]
      rfl

/-- The groups of the part are counted after those before it. -/
theorem groupCount_embeds :
    frame.Raises limit (fun count count' => count' = frame.shift + count) Reader.groupCount
      Reader.groupCount := by
  intro start escapes short
  refine .of_look escapes rfl ⟨_, rfl⟩ fun begun _ agrees => .of_ok rfl ⟨?_, agrees⟩
  exact agrees.groups.trans List.length_append

/-- A group is opened under its raised number. -/
theorem openGroup_embeds (name : Option (List Char)) :
    frame.Raises limit (fun group group' => group' = frame.shift + group) (Reader.openGroup name)
      (Reader.openGroup name) := by
  have opened : frame.Copies limit
      (modify fun reading => { reading with widths := reading.widths ++ [none] }) :=
    modify_embeds
      (fun start escapes => ⟨Nat.le_refl _, escapes, List.prefix_refl _,
        by simp, fun quiet => quiet, rfl⟩)
      (fun _ => rfl)
      (fun start begun rest groups names =>
        ⟨rest, by simp [embed, groups, Nat.add_assoc], names⟩)
      (fun _ _ => by simp [embed, List.append_assoc])
  unfold Reader.openGroup
  refine groupCount_embeds.bind fun count => ?_
  have last : frame.Raises limit (fun group group' => group' = frame.shift + group)
      (do
        modify fun reading => { reading with widths := reading.widths ++ [none] }
        return count + 1)
      (do
        modify fun reading => { reading with widths := reading.widths ++ [none] }
        return frame.shift + count + 1) :=
    opened.bind fun _ => .pure rfl
  cases name with
  | none => exact last
  | some chars => exact (nameGroup_embeds chars (count + 1)).bind fun _ => last

/-- The groups of the part come after those of the frame. -/
theorem widths_index {group : Nat} (positive : 0 < group) :
    frame.shift + group - 1 = frame.widths.length + (group - 1) := by
  unfold shift
  omega

/-- A group is closed under its raised number. -/
theorem closeGroup_embeds {group : Nat} (positive : 0 < group) {width width' : Width}
    (sameWidth : frame.exact → width' = width) :
    frame.Repeats limit (Reader.closeGroup group width)
      (Reader.closeGroup (frame.shift + group) width') := by
  refine modify_embeds
    (fun _ escapes => ⟨Nat.le_refl _, escapes, List.prefix_refl _,
      Nat.le_of_eq List.length_set.symm, fun quiet => quiet, rfl⟩)
    (fun _ => rfl)
    (fun start begun rest groups names => ⟨rest, by simpa [embed] using groups, names⟩)
    (fun exact start => ?_)
  have set : (frame.widths ++ start.widths).set (frame.shift + group - 1) (some width) =
      frame.widths ++ start.widths.set (group - 1) (some width) := by
    rw [widths_index positive, List.set_append_right _ _ (Nat.le_add_right _ _),
      Nat.add_sub_cancel_left]
  simp only [embed, sameWidth exact, set]

/-- A closed group of the part is closed in the whole. -/
theorem closedWidth?_embed {own : Reading} {group : Nat} {width : Width}
    (closed : own.closedWidth? group = some width) :
    (frame.embed own).closedWidth? (frame.shift + group) = some width := by
  unfold Reading.closedWidth? at closed ⊢
  split at closed
  · cases closed
  · rename_i zero
    have positive : 0 < group := Nat.pos_of_ne_zero (by simpa using zero)
    have zeroWhole : ¬ (frame.shift + group == 0) = true := by
      rw [beq_iff_eq]
      omega
    rw [if_neg zeroWhole, widths_index positive, embed,
      List.getElem?_append_right (Nat.le_add_right _ _), Nat.add_sub_cancel_left]
    exact closed

/-- A reference to the same group, under its raised number, is to what is as wide, if the part asks
for no group by its number. -/
theorem referredWidth_embeds {group group' : Nat}
    (same : frame.exact → group' = frame.shift + group) (back back' : Nat) :
    frame.Raises limit (fun width width' => frame.exact → width' = width)
      (Reader.referredWidth group back) (Reader.referredWidth group' back') := by
  intro start escapes short
  refine ⟨?_, fun _ => ⟨_, fun _ => rfl⟩, ?_⟩
  · intro width ended ran
    obtain ⟨-, rfl⟩ := Reader.run_referredWidth_eq_ok.mp ran
    exact .refl escapes
  · intro width ended target begun ran heard placed agrees
    obtain ⟨closed, rfl⟩ := Reader.run_referredWidth_eq_ok.mp ran
    cases placed
    have closedWhole : (frame.embed ended).closedWidth? (frame.shift + group) = some width :=
      closedWidth?_embed closed
    refine ⟨fun ranWhole => ?_, fun failed => Reader.referredWidth_declines _ _ _ _ failed,
      fun accepts => ?_⟩
    · obtain ⟨found, rfl⟩ := Reader.run_referredWidth_eq_ok.mp ranWhole
      refine ⟨fun exact => ?_, agrees⟩
      rw [agrees.exact exact, same exact, closedWhole] at found
      exact (Option.some.inj found).symm
    · cases agrees.exact accepts.exact
      cases same accepts.exact
      exact ⟨_, _, Reader.run_referredWidth_eq_ok.mpr ⟨closedWhole, rfl⟩⟩

/-- A look-behind of the part may refer to the same groups, under their raised numbers. -/
theorem checkLookbehind_embeds {group group' : Nat}
    (same : frame.exact → group' = frame.shift + group) :
    frame.Repeats limit (Reader.checkLookbehind group) (Reader.checkLookbehind group') := by
  intro start escapes short
  refine ⟨?_, fun _ => ⟨_, rfl⟩, ?_⟩
  · intro answer ended ran
    obtain ⟨-, rfl⟩ := Reader.run_checkLookbehind_eq_ok.mp ran
    exact .refl escapes
  · intro answer ended target begun ran heard placed agrees
    obtain ⟨allowed, rfl⟩ := Reader.run_checkLookbehind_eq_ok.mp ran
    cases placed
    refine ⟨fun ranWhole => ?_, fun failed => Reader.checkLookbehind_declines _ _ _ failed,
      fun accepts => ?_⟩
    · obtain ⟨-, rfl⟩ := Reader.run_checkLookbehind_eq_ok.mp ranWhole
      exact ⟨rfl, agrees⟩
    · cases agrees.exact accepts.exact
      cases same accepts.exact
      refine ⟨(), _, Reader.run_checkLookbehind_eq_ok.mpr ⟨fun limit limited => ?_, rfl⟩⟩
      obtain ⟨before, isLimit, rfl⟩ := Option.map_eq_some_iff.mp limited
      obtain ⟨closed, lower⟩ := allowed before isLimit
      obtain ⟨width, closed⟩ := Option.isSome_iff_exists.mp closed
      exact ⟨by rw [closedWidth?_embed closed]; rfl, Nat.add_lt_add_left lower _⟩

/-! ## The end of the part -/

/-- The whole is left in the state of the part, or before the closing parenthesis once the part is
at its end. Of an end inside a group that is verbose where the part is not, or the other way
round, nothing is promised: the part is refused there later on. -/
def ends (frame : Frame) (verbose : Bool) (ended : Reading) : Option Reading :=
  if ended.rest = [] then if verbose = frame.verbose then some (frame.finish ended) else none
  else some (frame.embed ended)

theorem ends_of_rest {verbose : Bool} {ended : Reading} (nonempty : ended.rest ≠ []) :
    frame.ends verbose ended = some (frame.embed ended) :=
  if_neg nonempty

/-- At its end the part leaves the whole before the parenthesis, in a group that is verbose as the
part is. -/
theorem ends_eq_some_of_end {verbose : Bool} {ended target : Reading} (atEnd : ended.rest = [])
    (placed : frame.ends verbose ended = some target) :
    verbose = frame.verbose ∧ target = frame.finish ended := by
  rw [ends, if_pos atEnd] at placed
  split at placed
  · rename_i same
    cases placed
    exact ⟨same, rfl⟩
  · cases placed

/-- An answer without reading, before the end. -/
theorem EmbedsAt.pure_ends {verbose : Bool} {start : Reading} (escapes : start.rest ≠ ['\\'])
    (nonempty : start.rest ≠ []) {answer : α} {answer' : β} (same : related answer answer') :
    frame.EmbedsAt (frame.ends verbose) related (Pure.pure answer) (Pure.pure answer') start where
  leads := by
    intro given ended ran
    cases ran
    exact .refl escapes
  possible := by
    intro given ended ran
    cases ran
    exact ⟨answer', same⟩
  mirrors := by
    intro given ended target begun ran heard placed agrees
    cases ran
    cases (ends_of_rest nonempty).symm.trans placed
    exact .of_ok rfl ⟨same, agrees⟩

/-- The closing parenthesis comes next at the end. -/
theorem firstToken_finish (own : Reading) :
    firstToken (frame.finish own).rest = some (.plain ')') :=
  firstToken_cons (by decide) _

/-- Where the whole is left at the end of the part, the closing parenthesis comes next. -/
theorem Agrees.firstToken_finish {own whole : Reading}
    (agrees : frame.Agrees own (frame.finish own) whole) :
    firstToken whole.rest = some (.plain ')') :=
  agrees.rest ▸ Frame.firstToken_finish own

/-- Only the blank stands between the end and the parenthesis. -/
theorem dropped_blank {own : Reading} (atEnd : own.rest = []) (mode : frame.verbose = true) :
    firstToken (frame.embed own).rest = some (.plain '\n') ∧
      (frame.embed own).rest.drop 1 ≠ ['\\'] ∧
      (frame.embed own).dropped 1 = frame.finish own := by
  have rest : (frame.embed own).rest = '\n' :: ')' :: frame.after := by
    simp [embed, atEnd, tail, blank, mode]
  refine ⟨?_, ?_, ?_⟩
  · rw [rest]
    exact firstToken_cons (by decide) _
  · rw [rest]
    simp
  · simp only [Reading.dropped, rest]
    simp [finish, embed, blank, mode]

/-- Once the blank is dropped, the whole is left at the end of the part. -/
theorem Agrees.dropped_blank {own whole : Reading}
    (agrees : frame.Agrees own (frame.embed own) whole) (atEnd : own.rest = [])
    (mode : frame.verbose = true) : frame.Agrees own (frame.finish own) (whole.dropped 1) where
  rest := by
    rw [← (Frame.dropped_blank atEnd mode).2.2, Reading.dropped, Reading.dropped, agrees.rest]
  groups := agrees.groups
  names := agrees.names
  apart := agrees.apart
  exact := fun exact => agrees.exact exact ▸ (Frame.dropped_blank atEnd mode).2.2

/-- Without a blank the end is right before the parenthesis. -/
theorem embed_of_end {own : Reading} (atEnd : own.rest = []) (mode : frame.verbose = false) :
    frame.embed own = frame.finish own := by
  simp [finish, embed, atEnd, tail, blank, mode]

variable {verbose : Bool}

/-- From a state on, what goes on from readers that embed up to the end embeds up to the end, if
nothing more is read there. -/
theorem EmbedsAt.bindEnds {first : Reader α} {first' : Reader β} {second : α → Reader γ}
    {second' : β → Reader δ} {start : Reading}
    (firstEmbeds : frame.EmbedsAt (frame.ends verbose) related first first' start)
    (secondEmbeds : ∀ given given' middle, first.run start = .ok (given, middle) →
      related given given' → middle.rest ≠ [] →
      frame.EmbedsAt (frame.ends verbose) related' (second given) (second' given') middle)
    (atEnd : ∀ given given' middle, first.run start = .ok (given, middle) →
      related given given' → middle.rest = [] →
      ∃ answer answer', (second given).run middle = .ok (answer, middle) ∧
        related' answer answer' ∧ ∀ begun, firstToken begun.rest = some (.plain ')') →
          (second' given').run begun = .ok (answer', begun)) :
    frame.EmbedsAt (frame.ends verbose) related' (first >>= second) (first' >>= second')
      start := by
  refine firstEmbeds.bindTo ?_ ?_
  · intro given given' middle answer ended ranFirst same ranSecond
    by_cases nothing : middle.rest = []
    · obtain ⟨_, answer', stays, sameAnswer, -⟩ := atEnd _ _ _ ranFirst same nothing
      cases stays.symm.trans ranSecond
      exact ⟨.refl (firstEmbeds.leads ranFirst).escapes, answer', sameAnswer⟩
    · have embeds := secondEmbeds _ _ _ ranFirst same nothing
      exact ⟨embeds.leads ranSecond, embeds.possible ranSecond⟩
  · intro given middle answer ended target ranFirst ranSecond heard placed
    by_cases nothing : middle.rest = []
    · obtain ⟨given', same⟩ := firstEmbeds.possible ranFirst
      obtain ⟨_, _, stays, -⟩ := atEnd _ _ _ ranFirst same nothing
      cases stays.symm.trans ranSecond
      obtain ⟨-, rfl⟩ := ends_eq_some_of_end nothing placed
      refine ⟨_, placed, fun {given' begun} same agrees => ?_⟩
      obtain ⟨_, _, staysToo, sameAnswer, staysWhole⟩ := atEnd _ _ _ ranFirst same nothing
      cases stays.symm.trans staysToo
      exact .of_ok (staysWhole begun agrees.firstToken_finish) ⟨sameAnswer, agrees⟩
    · exact ⟨_, ends_of_rest nothing, fun same agrees =>
        (secondEmbeds _ _ _ ranFirst same nothing).mirrors ranSecond heard placed agrees⟩

/-- The contents of a group embed with the parenthesis that closes it. -/
theorem closing_embeds {contents : Reader α} {contents' : Reader β}
    (embeds : frame.Embeds limit (frame.ends verbose) related contents contents')
    (place place' : Nat) :
    frame.Raises limit related (Reader.closing place contents)
      (Reader.closing place' contents') := by
  intro start escapes short
  refine (embeds start escapes short).bindTo ?_ ?_
  · intro given given' middle answer ended ranFirst same ranSecond
    obtain ⟨_, _, closed, returned⟩ := Reader.run_bind_eq_ok.mp ranSecond
    obtain ⟨-, escapesAfter, rfl⟩ := Reader.run_close_eq_ok.mp closed
    cases returned
    exact ⟨.dropped escapesAfter, given', same⟩
  · intro given middle answer ended target ranFirst ranSecond heard placed
    obtain ⟨_, _, closed, returned⟩ := Reader.run_bind_eq_ok.mp ranSecond
    obtain ⟨first, escapesAfter, rfl⟩ := Reader.run_close_eq_ok.mp closed
    cases returned
    cases placed
    have within : 1 ≤ middle.rest.length := width_le_of_firstToken first
    have nonempty : middle.rest ≠ [] := List.ne_nil_of_length_pos within
    refine ⟨_, ends_of_rest nonempty, fun {given' begun} same agrees => ?_⟩
    have firstWhole : firstToken begun.rest = some (.plain ')') :=
      agrees.rest ▸ firstToken_embed (firstToken_escapes first) first
    have closedWhole : (Reader.close place').run begun = .ok ((), begun.dropped 1) :=
      Reader.run_close_eq_ok.mpr ⟨firstWhole, agrees.escapes_dropped within, rfl⟩
    exact .of_ok (Reader.run_bind_eq_ok.mpr ⟨(), _, closedWhole, rfl⟩)
      ⟨same, agrees.dropped within⟩

/-- The limit tells nothing of where the whole is left. -/
theorem ends_limited {middle target : Reading} {limit : Option Nat}
    (placed : frame.ends verbose { middle with lookbehindLimit := limit } = some target) :
    ∃ reached, frame.ends verbose middle = some reached ∧
      reached.lookbehindLimit = middle.lookbehindLimit.map (frame.shift + ·) ∧
      target = { reached with lookbehindLimit := limit.map (frame.shift + ·) } := by
  by_cases nothing : ({ middle with lookbehindLimit := limit } : Reading).rest = []
  · obtain ⟨sameMode, rfl⟩ := ends_eq_some_of_end nothing placed
    exact ⟨frame.finish middle, (if_pos nothing).trans (if_pos sameMode), rfl, rfl⟩
  · cases (ends_of_rest nothing).symm.trans placed
    exact ⟨frame.embed middle, ends_of_rest nothing, rfl, rfl⟩

/-- Limiting references commutes with the embedding. -/
theorem embed_limited (frame : Frame) (start : Reading) :
    (frame.embed start).limited = frame.embed start.limited := by
  cases limited : start.lookbehindLimit <;>
    simp [Reading.limited, embed, shift, limited, Nat.add_assoc]

/-- States agree after references have been limited. -/
theorem Agrees.limited {start begun : Reading}
    (agrees : frame.Agrees start (frame.embed start) begun) :
    frame.Agrees start.limited (frame.embed start.limited) begun.limited where
  rest := agrees.rest
  groups := agrees.groups
  names := agrees.names
  apart := agrees.apart
  exact := fun exact => agrees.exact exact ▸ embed_limited frame start

/-- The body of a look-behind embeds up to the end. -/
theorem lookingBehind_embeds {body : Reader α} {body' : Reader β}
    (embeds : frame.Embeds limit (frame.ends verbose) related body body') :
    frame.Embeds limit (frame.ends verbose) related (Reader.lookingBehind body)
      (Reader.lookingBehind body') := by
  intro start escapes short
  have ofBody := embeds start.limited escapes short
  refine ⟨?_, ?_, ?_⟩
  · intro answer ended ran
    obtain ⟨inner, ranBody, rfl⟩ := Reader.run_lookingBehind_eq_ok.mp ran
    have leads := ofBody.leads ranBody
    refine ⟨leads.remains, leads.escapes, leads.names, leads.groups, leads.quiet, ?_⟩
    rw [leads.limit, Reading.limited]
    cases start.lookbehindLimit <;> rfl
  · intro answer ended ran
    obtain ⟨inner, ranBody, -⟩ := Reader.run_lookingBehind_eq_ok.mp ran
    exact ofBody.possible ranBody
  · intro answer ended target begun ran heard placed agrees
    obtain ⟨inner, ranBody, rfl⟩ := Reader.run_lookingBehind_eq_ok.mp ran
    obtain ⟨between, placedInner, limitBetween, rfl⟩ := ends_limited placed
    have mirrored := ofBody.mirrors ranBody ⟨heard.quiet, heard.named⟩ placedInner agrees.limited
    refine ⟨fun ranWhole => ?_,
      fun failed => mirrored.wrong (Reader.run_lookingBehind_eq_error.mp failed),
      fun accepts => ?_⟩
    · obtain ⟨innerWhole, ranBodyWhole, rfl⟩ := Reader.run_lookingBehind_eq_ok.mp ranWhole
      obtain ⟨same, inside⟩ := mirrored.right ranBodyWhole
      refine ⟨same, inside.rest, inside.groups, inside.names, inside.apart, fun exact => ?_⟩
      rw [agrees.exact exact, inside.exact exact, limitBetween]
      cases limited : start.lookbehindLimit <;> simp [embed, limited]
    · obtain ⟨answer', innerWhole, ranBodyWhole⟩ :=
        mirrored.answers ⟨accepts.exact, accepts.apart⟩
      exact ⟨answer', _, Reader.run_lookingBehind_eq_ok.mpr ⟨innerWhole, ranBodyWhole, rfl⟩⟩

end Frame

end Structex.Regex
