import Mathlib.Data.List.Forall2
import Structex.Proofs.Cascade.Bound
import Structex.Proofs.Cascade.Identifiers
import Structex.Proofs.Result
import Structex.Proofs.Rule.Registry

/-!
# Which rules react to a document

Three evaluations decide for themselves which rules react to a document: `wouldMatch` filters the
rules without a reaction being made, `applyOne` evaluates the rule of a name alone, and `cascade`
evaluates all of them. Each comes down to `Rule.accepts`. So a cascade begins with one reaction for
each name that `wouldMatch` gives, and the rule of that name alone makes the same of the document
but for the identifiers: they take the places of others in the key and the payload, and nothing
else depends on them.
-/

namespace Structex

open Registry

variable {log ids : Type}

/-- A document with another key and payload. -/
def Document.withContents (document : Document) (contents : String × Value) : Document :=
  { document with key := .str contents.1, data := contents.2 }

namespace Rule

/-- Whether a rule watches the key of a document and lets its payload pass. -/
def accepts (rule : Rule) (document : Document) (payload : String) : Bool :=
  match rule.watches document.key with
  | .ok watched => watched && rule.admits payload
  | .error _ => false

/-- The key and the payload of the reaction to a document. -/
def contents (rule : Rule) (document : Document) (payload : String) (draw : Drawing ids String) :
    Drawing ids (String × Value) := do
  let key ← Template.expand rule.emitPath (rule.context document payload) draw
  let data ← Template.expandValue (rule.context document payload) draw rule.template
  return (key, data)

/-- The reaction of a rule with a key and a payload. -/
def reactionWith (rule : Rule) (contents : String × Value) : Document :=
  ⟨.str contents.1, .str rule.emit, contents.2, some rule.metadata⟩

variable {rule : Rule} {document : Document} {payload : String} {draw : Drawing ids String}

theorem accepts_of_watches {watched : Bool} (watches : rule.watches document.key = .ok watched) :
    rule.accepts document payload = (watched && rule.admits payload) := by
  rw [accepts, watches]

/-- A rule makes a reaction of the documents that it accepts, and nothing of the others. -/
theorem fire?_eq {watched : Bool} (watches : rule.watches document.key = .ok watched)
    (readable : payloadText document.data = .ok payload) :
    rule.fire? document draw =
      if rule.accepts document payload then some <$> rule.reaction document payload draw
      else pure none := by
  rw [fire?, watches, readable, accepts_of_watches watches]
  cases watched with
  | false => rfl
  | true =>
      cases admitted : rule.admits payload with
      | false =>
          simp only [orThrow, Except.mapError, pure_bind, admitted]
          rfl
      | true => simp [orThrow, Except.mapError, admitted]

/-- Whatever comes of a rule, the key of the document is one that it can look at. -/
theorem watches_of_fire? {start : ids} {result : Option Document × ids}
    (fired : (rule.fire? document draw).run start = .ok result) :
    ∃ watched, rule.watches document.key = .ok watched := by
  obtain ⟨watched, middle, looked, -⟩ := drawing_bind_eq_ok.mp fired
  exact ⟨watched, (run_orThrow_eq_ok.mp looked).1⟩

theorem reaction_eq : rule.reaction document payload draw =
    rule.reactionWith <$> rule.contents document payload draw := by
  simp [reaction, contents, reactionWith]

theorem contents_uniform (rule : Rule) (document : Document) (payload : String) :
    Uniform fun _ draw => rule.contents document payload draw :=
  (Template.expand_uniform rule.emitPath _).both Prod.mk
    (Template.expandValue_uniform _ rule.template)

end Rule

namespace Registry

variable {draw : Drawing ids String} {record : Event → log → log} {document : Document}
  {payload : String}

/-- A reaction that was made is made again by its rule, with the identifiers that are drawn then. -/
theorem reaction_keeps {rule : Rule} {start stop : ids} {reaction : Document}
    (made : (rule.reaction document payload draw).run start = .ok (reaction, stop)) :
    ∃ recipe : Recipe (String × Value), ∀ (ids : Type) (draw : Drawing ids String) start value stop,
      (rule.reaction document payload draw).run start = .ok (value, stop) ↔
        ∃ contents, recipe.Makes draw start contents stop ∧
          value = reaction.withContents contents := by
  rw [Rule.reaction_eq] at made
  obtain ⟨contents, ran, rfl⟩ := drawing_map_eq_ok.mp made
  cases rule.contents_uniform document payload with
  | fails never => exact absurd ran (never _ _ _ _)
  | keeps recipe makes =>
      refine ⟨recipe, fun ids draw start value stop => ?_⟩
      rw [Rule.reaction_eq, drawing_map_eq_ok]
      exact exists_congr fun contents => and_congr_left fun _ => makes _ _ _ _ _

/-! ### The three evaluations -/

/-- The rules can look at the key of a document. -/
def Watchable (rules : List Rule) (document : Document) : Prop :=
  ∀ rule ∈ rules, ∃ watched, rule.watches document.key = .ok watched

/-- Rules respond to a document only if they can look at its key. -/
theorem watchable_of_responses {rules : List Rule} {start : ids}
    {result : List (Rule × Document) × ids}
    (responded : (responses draw document rules).run start = .ok result) :
    Watchable rules document := by
  induction rules generalizing start result with
  | nil => exact fun rule member => nomatch member
  | cons rule rest inductionHypothesis =>
      simp only [responses, List.filterMapM_cons, bind_map_left] at responded
      obtain ⟨fired, middle, ran, others⟩ := drawing_bind_eq_ok.mp responded
      refine List.forall_mem_cons.mpr ⟨Rule.watches_of_fire? ran, ?_⟩
      cases fired with
      | none => exact inductionHypothesis others
      | some reaction =>
          obtain ⟨tail, last, tailRan, -⟩ := drawing_bind_eq_ok.mp others
          exact inductionHypothesis tailRan

/-- Those rules respond that accept the document. -/
theorem responses_eq {rules : List Rule} (watchable : Watchable rules document)
    (readable : payloadText document.data = .ok payload) :
    responses draw document rules =
      (rules.filter (·.accepts document payload)).mapM fun rule =>
        (rule, ·) <$> rule.reaction document payload draw := by
  induction rules with
  | nil => rfl
  | cons rule rest inductionHypothesis =>
      obtain ⟨⟨watched, watches⟩, others⟩ := List.forall_mem_cons.mp watchable
      have tail := inductionHypothesis others
      rw [responses] at tail ⊢
      rw [List.filterMapM_cons, Rule.fire?_eq watches readable, List.filter_cons]
      cases rule.accepts document payload with
      | false => simpa using tail
      | true => simp [tail]

/-- The rules that are said to match are those that accept the document. -/
theorem wouldMatch_eq {registry : Registry} (watchable : Watchable registry document)
    (readable : payloadText document.data = .ok payload) :
    registry.wouldMatch document = .ok (names (registry.filter (·.accepts document payload))) := by
  have filtered : List.filterM (fun rule : Rule => do
      return (← rule.watches document.key) && rule.admits payload) registry =
        .ok (registry.filter (·.accepts document payload)) := by
    refine filterM_eq_ok fun rule member => ?_
    obtain ⟨watched, watches⟩ := watchable rule member
    rw [Rule.accepts_of_watches watches, watches]
    rfl
  rw [wouldMatch, readable]
  exact congrArg (fun found => found >>= fun matching => pure (names matching)) filtered

/-- Evaluating a rule alone gives what the rule makes, and notes nothing. -/
theorem applyOne_returns_iff {registry : Registry} {name : String} {rule : Rule}
    (present : registry.get? name = some rule) {logs logs' : log} {start stop : ids}
    {value : Option Document} :
    Returns (registry.applyOne (recording draw record) name document) logs start value logs' stop ↔
      (rule.fire? document draw).run start = .ok (value, stop) ∧ logs' = logs := by
  rw [applyOne, present]
  simp only [recording_newIdentifier, Rule.fire?_liftM]
  exact returns_liftM_iff

/-- The rule of a name alone makes a reaction up to identifiers: it returns wherever the source
gives as many identifiers as a recipe takes, and then the reaction with the key and the payload
that are made of these. -/
def MakesAlone (registry : Registry) (document : Document) (name : String) (reaction : Document) :
    Prop :=
  ∃ recipe : Recipe (String × Value), ∀ (log ids : Type) (draw : Drawing ids String)
    (record : Event → log → log) (logs : log) start value logs' stop,
    Returns (registry.applyOne (recording draw record) name document) logs start value logs' stop ↔
      logs' = logs ∧ ∃ contents, recipe.Makes draw start contents stop ∧
        value = some (reaction.withContents contents)

/-- What a cascade begins with: the reactions of the rules of these names, which are the names that
are said to match. -/
structure Opens (registry : Registry) (draw : Drawing ids String) (record : Event → log → log)
    (document : Document) (names : List String) (reactions : List Document) (logs : log)
    (start stop : ids) : Prop where
  matching : registry.wouldMatch document = .ok names
  /-- The names come in the order of registration. -/
  inOrder : names.Sublist registry.names
  /-- Any other name makes nothing by itself. -/
  others : ∀ name ∉ names, ∀ logs start value logs' stop,
    Returns (registry.applyOne (recording draw record) name document) logs start value logs' stop ↔
      value = none ∧ logs' = logs ∧ stop = start
  /-- The rules of the names, evaluated alone one after another, make just these reactions. -/
  inTurn : Returns (names.mapM fun name =>
      registry.applyOne (recording draw record) name document)
    logs start (reactions.map some) logs stop
  /-- From any state, each of them makes its reaction up to identifiers. -/
  alike : List.Forall₂ (registry.MakesAlone document) names reactions

/-- The rule of a name that accepts a document makes its reaction to it. -/
theorem applyOne_returns_iff_of_accepts {registry : Registry} {rule : Rule}
    (present : registry.get? rule.name = some rule) {watched : Bool}
    (watches : rule.watches document.key = .ok watched)
    (readable : payloadText document.data = .ok payload)
    (accepts : rule.accepts document payload = true) {logs logs' : log} {start stop : ids}
    {value : Option Document} :
    Returns (registry.applyOne (recording draw record) rule.name document)
        logs start value logs' stop ↔
      logs' = logs ∧ ∃ reaction, (rule.reaction document payload draw).run start =
        .ok (reaction, stop) ∧ value = some reaction := by
  rw [applyOne_returns_iff present, Rule.fire?_eq watches readable, accepts, if_pos rfl,
    drawing_map_eq_ok, and_comm]

/-- A reaction that a rule of the registry made is one that its name makes alone. -/
theorem makesAlone_of_reaction {registry : Registry} {rule : Rule}
    (present : registry.get? rule.name = some rule) {watched : Bool}
    (watches : rule.watches document.key = .ok watched)
    (readable : payloadText document.data = .ok payload)
    (accepts : rule.accepts document payload = true) {start stop : ids} {reaction : Document}
    (reacted : (rule.reaction document payload draw).run start = .ok (reaction, stop)) :
    registry.MakesAlone document rule.name reaction := by
  obtain ⟨recipe, keeps⟩ := reaction_keeps reacted
  refine ⟨recipe, fun log ids draw record logs start value logs' stop => ?_⟩
  rw [applyOne_returns_iff_of_accepts present watches readable accepts]
  refine and_congr_right fun _ => ?_
  constructor
  · rintro ⟨other, again, rfl⟩
    obtain ⟨contents, makes, rfl⟩ := (keeps ids draw start other stop).mp again
    exact ⟨contents, makes, rfl⟩
  · rintro ⟨contents, makes, rfl⟩
    exact ⟨_, (keeps ids draw start _ stop).mpr ⟨contents, makes, rfl⟩, rfl⟩

/-- The rules that accept a document respond with what each of them makes alone. -/
theorem makesAlone_of_responses {registry : Registry} (distinct : registry.names.Nodup)
    (watchable : Watchable registry document) (readable : payloadText document.data = .ok payload)
    {rules : List Rule} (accepting : ∀ rule ∈ rules, rule ∈ registry ∧
      rule.accepts document payload = true) {start stop : ids} {made : List (Rule × Document)}
    (ran : (rules.mapM fun rule => (rule, ·) <$> rule.reaction document payload draw :
      Drawing ids (List (Rule × Document))).run start = .ok (made, stop))
    (record : Event → log → log) (logs : log) :
    Returns ((names rules).mapM fun name =>
        registry.applyOne (recording draw record) name document)
      logs start ((made.map (·.2)).map some) logs stop ∧
    List.Forall₂ (registry.MakesAlone document) (names rules) (made.map (·.2)) := by
  induction rules generalizing start made with
  | nil =>
      cases ran
      exact ⟨rfl, .nil⟩
  | cons rule rest inductionHypothesis =>
      obtain ⟨⟨member, accepts⟩, others⟩ := List.forall_mem_cons.mp accepting
      rw [List.mapM_cons] at ran
      obtain ⟨entry, middle, first, ran⟩ := drawing_bind_eq_ok.mp ran
      obtain ⟨tail, _, tailRan, same⟩ := drawing_bind_eq_ok.mp ran
      cases same
      obtain ⟨reaction, reacted, rfl⟩ := drawing_map_eq_ok.mp first
      obtain ⟨tailReturns, tailAlike⟩ := inductionHypothesis others tailRan
      have present := get?_of_mem distinct member
      obtain ⟨watched, watches⟩ := watchable rule member
      have returns : Returns (registry.applyOne (recording draw record) rule.name document)
          logs start (some reaction) logs middle :=
        (applyOne_returns_iff_of_accepts present watches readable accepts).mpr
          ⟨rfl, reaction, reacted, rfl⟩
      refine ⟨?_, .cons (makesAlone_of_reaction present watches readable accepts reacted) tailAlike⟩
      show Returns ((rule.name :: names rest).mapM _) _ _ _ _ _
      rw [List.mapM_cons]
      exact returns_bind_iff.mpr ⟨_, _, _, returns,
        returns_bind_iff.mpr ⟨_, _, _, tailReturns, returns_pure_iff.mpr ⟨rfl, rfl, rfl⟩⟩⟩

/-- The rule of a name that does not accept a document makes nothing of it, and neither does a name
that is not registered. -/
theorem applyOne_returns_none_iff {registry : Registry} (watchable : Watchable registry document)
    (readable : payloadText document.data = .ok payload) {name : String}
    (refused : name ∉ names (registry.filter (·.accepts document payload))) {logs logs' : log}
    {start stop : ids} {value : Option Document} :
    Returns (registry.applyOne (recording draw record) name document) logs start value logs' stop ↔
      value = none ∧ logs' = logs ∧ stop = start := by
  cases present : registry.get? name with
  | none =>
      rw [applyOne, present]
      exact returns_pure_iff
  | some rule =>
      have member : rule ∈ registry := List.mem_of_find?_eq_some present
      obtain ⟨watched, watches⟩ := watchable rule member
      have rejects : ¬ rule.accepts document payload = true := fun accepts =>
        refused (List.mem_map.mpr ⟨rule, List.mem_filter.mpr ⟨member, accepts⟩,
          name_of_get? present⟩)
      rw [applyOne_returns_iff present, Rule.fire?_eq watches readable, if_neg rejects]
      constructor
      · rintro ⟨returned, rfl⟩
        cases returned
        exact ⟨rfl, rfl, rfl⟩
      · rintro ⟨rfl, rfl, rfl⟩
        exact ⟨rfl, rfl⟩

/-- Whenever a cascade returns for a document whose payload has a text, it begins with one reaction
for each rule that is said to match, in the order of registration; these are the rules that make a
reaction alone, and what they make alone differs in the identifiers only. No name comes twice in
the registry of an engine (`Records.distinct`). -/
theorem cascade_opens (registry : Registry) (distinct : registry.names.Nodup)
    (draw : Drawing ids String) (record : Event → log → log) (steps : Nat) (document : Document)
    (payload : String) (readable : payloadText document.data = .ok payload) (logs logs' : log)
    (start stop : ids) (made : List Document)
    (returned : Returns (registry.cascade (recording draw record) steps document)
      logs start (some made) logs' stop) :
    ∃ names first later middle, made = first ++ later ∧
      registry.Opens draw record document names first logs start middle := by
  rw [cascade] at returned
  split at returned
  case isFalse => cases returned
  case isTrue =>
    obtain ⟨trace, rfl, ran⟩ := cascadeFrom_reactions registry draw record steps returned
    -- The document itself is new, so its responses come before all others.
    rw [List.singleton_append, unseen_cons_of_new rfl, reactions_cons] at ran
    obtain ⟨first, middle, responded, ran⟩ := drawing_bind_eq_ok.mp ran
    obtain ⟨later, _, -, same⟩ := drawing_bind_eq_ok.mp ran
    cases same
    have watchable := watchable_of_responses responded
    rw [responses_eq watchable readable] at responded
    have accepting : ∀ rule ∈ registry.filter (·.accepts document payload),
        rule ∈ registry ∧ rule.accepts document payload = true :=
      fun rule member => List.mem_filter.mp member
    obtain ⟨inTurn, alike⟩ :=
      makesAlone_of_responses distinct watchable readable accepting responded record logs
    exact ⟨_, first.map (·.2), later.map (·.2), middle, List.map_append, {
      matching := wouldMatch_eq watchable readable
      inOrder := List.filter_sublist.map _
      others := fun name refused logs start value logs' stop =>
        applyOne_returns_none_iff watchable readable refused
      inTurn := inTurn
      alike := alike }⟩

/-- Both colliding rules react to a document at the path of the second one; the cascade goes on with
the reactions to the first reaction, and takes other identifiers for these. -/
theorem cascade_opens_of_collidingRules :
    let document : Document := ⟨.str "/a/b", .str "s", .str "", none⟩
    let given (path kind name : String) : Document :=
      ⟨.str path, .str kind, .null, some { version := .int 1, producedBy := .str name }⟩
    let made := [given "/a/b" "t" "first", given "/a/0" "u" "second", given "/a/b" "t" "first",
      given "/a/1" "u" "second"]
    collidingRules.wouldMatch document = .ok ["first", "second"] ∧
    Returns
      (collidingRules.cascade (recording counting fun _ (count : Nat) => count + 1) 3 document)
      0 0 (some made) 5 2 ∧
    ∃ names first later middle, made = first ++ later ∧
      collidingRules.Opens counting (fun _ (count : Nat) => count + 1) document names first 0 0
        middle := by
  intro document given made
  have returned : Returns (collidingRules.cascade
      (recording counting fun _ (count : Nat) => count + 1) 3 document) 0 0 (some made) 5 2 := by
    rfl
  exact ⟨rfl, returned,
    cascade_opens collidingRules (by decide) counting _ 3 document "" rfl 0 5 0 2 made returned⟩

end Registry

end Structex
