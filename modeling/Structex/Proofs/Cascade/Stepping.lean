import Structex.Proofs.Cascade.BreadthFirst

/-!
# A cascade document by document

The loop of a cascade as a relation. A step takes the first document that waits and either passes
it over or evaluates all rules for it; what was expanded and the state of the source of
identifiers are carried along. A run of such steps is what `cascadeFrom` computes: with as many
steps as documents are taken it returns what the run makes, and with fewer it returns nothing.

Nothing here bounds the number of steps. A run either halts or goes on as far as is asked
(`halts_or_continues`), so statements about the end of cascades become statements about runs.
-/

namespace Structex.Registry

variable {log ids : Type}

/-- Where a cascade is between two documents: what waits, what was expanded, latest first, and the
state of the source of identifiers. -/
structure Agenda (ids : Type) where
  queue : List Document
  seen : List (Value × Value)
  source : ids

/-- Where the cascade of a document starts. -/
def Agenda.start (document : Document) (source : ids) : Agenda ids :=
  ⟨[document], [], source⟩

/-- One document is taken from the queue, and these are the reactions to it. -/
inductive Step (registry : Registry) (draw : Drawing ids String) :
    Agenda ids → List Document → Agenda ids → Prop
  /-- A document of a key and type that were expanded is passed over. -/
  | skip {document queue seen source} (isOld : isSeen seen document = true) :
      Step registry draw ⟨document :: queue, seen, source⟩ [] ⟨queue, seen, source⟩
  /-- All rules are evaluated for a document, and those of the reactions wait that go through the
  rules again. -/
  | expand {document queue seen before after made} (isNew : isSeen seen document = false)
      (responded : (responses draw document registry).run before = .ok (made, after)) :
      Step registry draw ⟨document :: queue, seen, before⟩ (made.map (·.2))
        ⟨queue ++ registry.expanding made, identity document :: seen, after⟩

/-- So many documents are taken from the queue one after another, and these are the reactions. -/
inductive Run (registry : Registry) (draw : Drawing ids String) :
    Nat → Agenda ids → List Document → Agenda ids → Prop
  | refl (agenda : Agenda ids) : Run registry draw 0 agenda [] agenda
  | step {agenda middle last made later pops} (first : Step registry draw agenda made middle)
      (rest : Run registry draw pops middle later last) :
      Run registry draw (pops + 1) agenda (made ++ later) last

/-- Where a cascade ends: nothing waits any more, or a rule fails for the first document. -/
inductive Halts (registry : Registry) (draw : Drawing ids String) :
    Agenda ids → Except EvaluationFault ids → Prop
  | done {seen source} : Halts registry draw ⟨[], seen, source⟩ (.ok source)
  | fails {document queue seen source fault} (isNew : isSeen seen document = false)
      (failed : (responses draw document registry).run source = .error fault) :
      Halts registry draw ⟨document :: queue, seen, source⟩ (.error fault)

/-- What is expanded stays expanded. -/
theorem Step.seen_subset {registry : Registry} {draw : Drawing ids String}
    {agenda next : Agenda ids} {made : List Document} (step : Step registry draw agenda made next) :
    agenda.seen ⊆ next.seen := by
  cases step with
  | skip isOld => exact List.Subset.refl _
  | expand isNew responded => exact List.subset_cons_self ..

theorem Run.seen_subset {registry : Registry} {draw : Drawing ids String} {pops : Nat}
    {agenda last : Agenda ids} {made : List Document}
    (run : Run registry draw pops agenda made last) : agenda.seen ⊆ last.seen := by
  induction run with
  | refl agenda => exact List.Subset.refl _
  | step first rest inductionHypothesis =>
      exact List.Subset.trans first.seen_subset inductionHypothesis

/-- A step leads to one place only, and the reactions are determined. -/
theorem Step.unique {registry : Registry} {draw : Drawing ids String}
    {agenda next other : Agenda ids} {made made' : List Document}
    (step : Step registry draw agenda made next) (again : Step registry draw agenda made' other) :
    made = made' ∧ next = other := by
  cases step with
  | skip isOld =>
      cases again with
      | skip _ => exact ⟨rfl, rfl⟩
      | expand isNew _ => exact absurd isOld (by simp [isNew])
  | expand isNew responded =>
      cases again with
      | skip isOld => exact absurd isOld (by simp [isNew])
      | expand _ responded' =>
          rw [responded] at responded'
          cases responded'
          exact ⟨rfl, rfl⟩

/-- A cascade that has ended takes no document. -/
theorem Halts.no_step {registry : Registry} {draw : Drawing ids String}
    {agenda next : Agenda ids} {result : Except EvaluationFault ids} {made : List Document}
    (halts : Halts registry draw agenda result) (step : Step registry draw agenda made next) :
    False := by
  cases halts with
  | done => cases step
  | fails isNew failed =>
      cases step with
      | skip isOld => exact absurd isOld (by simp [isNew])
      | expand _ responded =>
          rw [failed] at responded
          cases responded

/-- Every run of a cascade that halts is the beginning of the run that halts. -/
theorem Run.continues_to_halt {registry : Registry} {draw : Drawing ids String} {pops fewer : Nat}
    {agenda middle last : Agenda ids} {made early : List Document}
    {result : Except EvaluationFault ids} (run : Run registry draw fewer agenda early middle)
    (whole : Run registry draw pops agenda made last) (halts : Halts registry draw last result) :
    ∃ more late, Run registry draw more middle late last := by
  -- Steps are unique, so both runs take the same ones as long as the shorter goes.
  induction run generalizing pops made with
  | refl agenda => exact ⟨pops, made, whole⟩
  | step first rest inductionHypothesis =>
      cases whole with
      | refl => exact (halts.no_step first).elim
      | step first' rest' =>
          obtain ⟨-, rfl⟩ := first.unique first'
          exact inductionHypothesis rest'

/-- A cascade that has not ended takes a document. -/
theorem halts_or_steps (registry : Registry) (draw : Drawing ids String) (agenda : Agenda ids) :
    (∃ result, Halts registry draw agenda result) ∨
      ∃ made next, Step registry draw agenda made next := by
  obtain ⟨queue, seen, source⟩ := agenda
  cases queue with
  | nil => exact .inl ⟨_, .done⟩
  | cons document queue =>
      cases known : isSeen seen document with
      | true => exact .inr ⟨_, _, .skip known⟩
      | false =>
          cases responded : (responses draw document registry).run source with
          | error fault => exact .inl ⟨_, .fails known responded⟩
          | ok found => exact .inr ⟨_, _, .expand known responded⟩

/-- Within any number of documents a cascade ends, or that many are taken. -/
theorem halts_or_continues (registry : Registry) (draw : Drawing ids String) (pops : Nat)
    (agenda : Agenda ids) :
    (∃ fewer made last result, fewer < pops ∧ Run registry draw fewer agenda made last ∧
        Halts registry draw last result) ∨
      ∃ made last, Run registry draw pops agenda made last := by
  induction pops generalizing agenda with
  | zero => exact .inr ⟨_, _, .refl agenda⟩
  | succ pops inductionHypothesis =>
      obtain ⟨result, halts⟩ | ⟨made, middle, first⟩ := halts_or_steps registry draw agenda
      · exact .inl ⟨0, _, agenda, result, by omega, .refl agenda, halts⟩
      · obtain ⟨fewer, later, last, result, fits, rest, halts⟩ | ⟨later, last, rest⟩ :=
          inductionHypothesis middle
        · exact .inl ⟨fewer + 1, _, last, result, by omega, .step first rest, halts⟩
        · exact .inr ⟨_, last, .step first rest⟩

/-- What a logging run returns and leaves of the source, or its fault; the log is left out. -/
def outcome {α : Type} (run : Logging log ids α) (logs : log) (start : ids) :
    Except EvaluationFault (α × ids) :=
  ((run.run logs).run start).map fun found => (found.1.1, found.2)

variable {registry : Registry} {draw : Drawing ids String}

/-- With a step to spare the loop takes a document as a step does, and works the rest off. -/
theorem outcome_cascadeFrom_step {agenda next : Agenda ids} {made : List Document}
    (step : Step registry draw agenda made next) (record : Event → log → log) (steps : Nat)
    (logs : log) :
    ∃ logs', outcome (cascadeFrom registry (recording draw record) (steps + 1)
        agenda.queue agenda.seen) logs agenda.source =
      (outcome (cascadeFrom registry (recording draw record) steps next.queue next.seen)
        logs' next.source).map fun found => (found.1.map (made ++ ·), found.2) := by
  cases step with
  | @skip document queue seen source isOld =>
      refine ⟨record (.skipped document.key document.kind) logs, ?_⟩
      simp only [cascadeFrom, isOld, if_true]
      show outcome (cascadeFrom registry (recording draw record) steps queue seen) _ source = _
      cases outcome (cascadeFrom registry (recording draw record) steps queue seen) _ source with
      | error fault => rfl
      | ok found =>
          obtain ⟨later, stop⟩ := found
          cases later <;> rfl
  | @expand document queue seen before after reacted isNew responded =>
      refine ⟨noteAll record logs reacted, ?_⟩
      simp only [cascadeFrom, isNew, Bool.false_eq_true, if_false]
      have ran := react_run draw record document registry logs before
      rw [responded] at ran
      simp only [outcome, StateT.run_bind, ran]
      show Except.map _ (StateT.run (StateT.run (cascadeFrom _ _ _ (queue ++
        registry.expanding reacted) _) _) after >>= _) = _
      cases StateT.run (StateT.run (cascadeFrom registry (recording draw record) steps (queue ++
        registry.expanding reacted) (identity document :: seen)) _) after <;> rfl

/-- A cascade that halts within the steps returns what its run makes, or the fault it halts at. -/
theorem outcome_cascadeFrom_of_halts {pops : Nat} {agenda last : Agenda ids}
    {made : List Document} {result : Except EvaluationFault ids}
    (run : Run registry draw pops agenda made last) (halts : Halts registry draw last result)
    (record : Event → log → log) {steps : Nat} (enough : pops + last.queue.length ≤ steps)
    (logs : log) :
    outcome (cascadeFrom registry (recording draw record) steps agenda.queue agenda.seen) logs
      agenda.source = result.map fun stop => (some made, stop) := by
  induction run generalizing steps logs with
  | refl agenda =>
      cases halts with
      | done => cases steps <;> rfl
      | @fails document queue seen source fault isNew failed =>
          obtain ⟨steps, rfl⟩ : ∃ fewer, steps = fewer + 1 := by
            rw [List.length_cons] at enough
            exact ⟨steps - 1, by omega⟩
          have ran := react_run draw record document registry logs source
          rw [failed] at ran
          simp only [cascadeFrom, isNew, Bool.false_eq_true, if_false]
          simp only [outcome, StateT.run_bind, ran]
          rfl
  | @step agenda middle last made later pops first rest inductionHypothesis =>
      obtain ⟨steps, rfl⟩ : ∃ fewer, steps = fewer + 1 := ⟨steps - 1, by omega⟩
      obtain ⟨logs', same⟩ := outcome_cascadeFrom_step first record steps logs
      rw [same, inductionHypothesis halts (by omega)]
      cases result <;> rfl

/-- A cascade that does not come to an end within the steps returns nothing. -/
theorem outcome_cascadeFrom_of_waiting {pops : Nat} {agenda last : Agenda ids}
    {made : List Document} (run : Run registry draw pops agenda made last)
    (waiting : last.queue ≠ []) (record : Event → log → log) (logs : log) :
    outcome (cascadeFrom registry (recording draw record) pops agenda.queue agenda.seen) logs
      agenda.source = .ok (none, last.source) := by
  induction run generalizing logs with
  | refl agenda =>
      obtain ⟨queue, seen, source⟩ := agenda
      cases queue with
      | nil => exact absurd rfl waiting
      | cons document queue => rfl
  | @step agenda middle last made later pops first rest inductionHypothesis =>
      obtain ⟨logs', same⟩ := outcome_cascadeFrom_step first record pops logs
      rw [same, inductionHypothesis waiting]
      rfl

/-- Whether a document has a key and a type that a cascade can remember. -/
def isKeyed (document : Document) : Bool :=
  document.key.isKey && document.kind.isKey

/-- What the cascade of a document comes to when nothing bounds its steps. -/
inductive Ends (registry : Registry) (draw : Drawing ids String) (document : Document)
    (source : ids) : Except EvaluationFault (List Document × ids) → Prop
  /-- A document that cannot be remembered is refused. -/
  | refused (unkeyed : isKeyed document = false) : Ends registry draw document source
      (.error .unhashable)
  | halts {pops made last result} (keyed : isKeyed document = true)
      (run : Run registry draw pops (.start document source) made last)
      (halts : Halts registry draw last result) :
      Ends registry draw document source (result.map (made, ·))

/-- What a cascade gives that came to an end within its steps. -/
def ended (result : Except EvaluationFault (List Document × ids)) :
    Except EvaluationFault (Option (List Document) × ids) :=
  result.map fun found => (some found.1, found.2)

/-- The cascade of a document that can be remembered is the loop from its start. -/
theorem cascade_of_isKeyed (around : Surroundings (Logging log ids)) (steps : Nat)
    {document : Document} (keyed : isKeyed document = true) :
    registry.cascade around steps document = registry.cascadeFrom around steps [document] [] := by
  rw [cascade, ← isKeyed, if_pos keyed]

/-- The cascade of any other document is refused. -/
theorem outcome_cascade_of_not_isKeyed (around : Surroundings (Logging log ids)) (steps : Nat)
    {document : Document} (unkeyed : isKeyed document = false) (logs : log) (start : ids) :
    outcome (registry.cascade around steps document) logs start = .error .unhashable := by
  rw [cascade, ← isKeyed, unkeyed]
  rfl

end Structex.Registry
