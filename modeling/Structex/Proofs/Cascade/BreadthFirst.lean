import Structex.Proofs.Template.Lifting
import Structex.Rule.Cascade

/-!
# What a cascade returns

A cascade is a queue, a list of what was expanded, and the reactions so far. None of the three is
needed to say what it returns: the reactions solve an equation. They are all reactions of all
rules to the start and to those among themselves that go through the rules again, each key and
type expanded once, in order. `cascadeFrom_reactions` is the invariant of the loop from which this
follows.

Identifiers come from a source with a state of its own that may fail; the log is another state,
which no reaction depends on.
-/

namespace Structex.Registry

/-- A run that draws identifiers from a source. -/
abbrev Drawing (ids : Type) := StateT ids (Except EvaluationFault)

/-- A run that also keeps a log, which the source of identifiers does not see. -/
abbrev Logging (log ids : Type) := StateT log (Drawing ids)

variable {log ids : Type}

/-- The surroundings of a cascade that draws from a source and notes its events in a log. -/
def recording (draw : Drawing ids String) (record : Event → log → log) :
    Surroundings (Logging log ids) where
  newIdentifier := liftM draw
  note event := modify (record event)

@[simp] theorem recording_newIdentifier (draw : Drawing ids String)
    (record : Event → log → log) : (recording draw record).newIdentifier = liftM draw :=
  rfl

/-- Whether a cascade takes a later document for one that came before. -/
def clashes (later earlier : Document) : Bool :=
  earlier.key.sameKey later.key && earlier.kind.sameKey later.kind

/-- The documents with only the first of each key and type. -/
def distinct (documents : List Document) : List Document :=
  documents.eraseDupsBy clashes

/-- The reactions of rules to one document, rule by rule, each with its rule. -/
def responses (draw : Drawing ids String) (document : Document) (rules : List Rule) :
    Drawing ids (List (Rule × Document)) :=
  rules.filterMapM fun rule => Option.map (rule, ·) <$> rule.fire? document draw

/-- The reactions of all rules to documents, document by document. -/
def reactions (registry : Registry) (draw : Drawing ids String) (documents : List Document) :
    Drawing ids (List (Rule × Document)) :=
  List.flatten <$> documents.mapM fun document => responses draw document registry

/-- The reactions that go through the rules again, from reactions with their rules. -/
def expanding (registry : Registry) (trace : List (Rule × Document)) : List Document :=
  (trace.filter fun entry => registry.continues entry.1).map (·.2)

/-- The documents that are still to be expanded when some were seen before. -/
def unseen (seen : List (Value × Value)) (documents : List Document) : List Document :=
  distinct (documents.filter fun document => !isSeen seen document)

theorem unseen_nil (documents : List Document) : unseen [] documents = distinct documents := by
  have all : documents.filter (fun document => !isSeen [] document) = documents :=
    List.filter_eq_self.mpr (by simp [isSeen])
  rw [unseen, all]

/-- A document that was seen before is not expanded. -/
theorem unseen_cons_of_seen {seen : List (Value × Value)} {document : Document}
    (isOld : isSeen seen document = true) (rest : List Document) :
    unseen seen (document :: rest) = unseen seen rest := by
  simp [unseen, isOld]

/-- A document that is new is expanded, and seen from then on. -/
theorem unseen_cons_of_new {seen : List (Value × Value)} {document : Document}
    (isNew : isSeen seen document = false) (rest : List Document) :
    unseen seen (document :: rest) =
      document :: unseen (identity document :: seen) rest := by
  have step : ∀ other, isSeen (identity document :: seen) other =
      (clashes other document || isSeen seen other) := fun other => rfl
  simp only [unseen, distinct, isNew, Bool.not_false, List.filter_cons_of_pos,
    List.eraseDupsBy_cons, List.filter_filter, step]
  congr 2
  apply List.filter_congr
  intro other _
  cases clashes other document <;> simp

/-- The reactions to one document more come before those to the others. -/
theorem reactions_cons (registry : Registry) (draw : Drawing ids String) (document : Document)
    (rest : List Document) :
    registry.reactions draw (document :: rest) = do
      let first ← responses draw document registry
      let others ← registry.reactions draw rest
      return first ++ others := by
  simp [reactions, List.mapM_cons]

/-- A sequence of two runs returns what the second returns where the first has ended. -/
theorem drawing_bind_eq_ok {α β : Type} {first : Drawing ids α} {next : α → Drawing ids β}
    {start : ids} {result : β × ids} :
    (first >>= next).run start = .ok result ↔
      ∃ value middle, first.run start = .ok (value, middle) ∧
        (next value).run middle = .ok result := by
  rw [StateT.run_bind]
  cases ran : first.run start with
  | error fault => simp [bind, Except.bind]
  | ok found =>
      constructor
      · intro rest
        exact ⟨found.1, found.2, rfl, rest⟩
      · rintro ⟨value, middle, same, rest⟩
        cases same
        exact rest

/-- A change of what is drawn is made wherever something is. -/
theorem drawing_map_eq_ok {α β : Type} {drawing : Drawing ids α} {change : α → β}
    {start stop : ids} {result : β} :
    (change <$> drawing).run start = .ok (result, stop) ↔
      ∃ value, drawing.run start = .ok (value, stop) ∧ result = change value := by
  rw [map_eq_pure_bind, drawing_bind_eq_ok]
  constructor
  · rintro ⟨value, middle, ran, same⟩
    cases same
    exact ⟨value, ran, rfl⟩
  · rintro ⟨value, ran, rfl⟩
    exact ⟨value, stop, ran, rfl⟩

/-- What a logging run returns from a log and a state of the source, and what it leaves. -/
def Returns {α : Type} (run : Logging log ids α) (logs : log) (start : ids) (value : α)
    (logs' : log) (stop : ids) : Prop :=
  (run.run logs).run start = .ok ((value, logs'), stop)

theorem returns_bind_iff {α β : Type} {first : Logging log ids α} {next : α → Logging log ids β}
    {logs logs' : log} {start stop : ids} {result : β} :
    Returns (first >>= next) logs start result logs' stop ↔
      ∃ value between middle, Returns first logs start value between middle ∧
        Returns (next value) between middle result logs' stop := by
  simp only [Returns, StateT.run_bind (m := Drawing ids), drawing_bind_eq_ok]
  constructor
  · rintro ⟨⟨value, between⟩, middle, ran, rest⟩
    exact ⟨value, between, middle, ran, rest⟩
  · rintro ⟨value, between, middle, ran, rest⟩
    exact ⟨(value, between), middle, ran, rest⟩

theorem returns_pure_iff {α : Type} {value result : α} {logs logs' : log} {start stop : ids} :
    Returns (pure value) logs start result logs' stop ↔
      result = value ∧ logs' = logs ∧ stop = start := by
  constructor
  · intro returned
    cases returned
    exact ⟨rfl, rfl, rfl⟩
  · rintro ⟨rfl, rfl, rfl⟩
    rfl

/-- A note is always taken, and no identifier is drawn for it. -/
theorem returns_note {draw : Drawing ids String} {record : Event → log → log} {event : Event}
    {logs logs' : log} {start stop : ids} {value : Unit}
    (returned : Returns ((recording draw record).note event) logs start value logs' stop) :
    stop = start := by
  cases returned
  rfl

/-- The log after the reactions of rules were noted in it. -/
def noteAll (record : Event → log → log) (logs : log) (made : List (Rule × Document)) : log :=
  made.foldl (fun logs entry =>
    record (.emitted entry.1.name entry.2.key entry.2.kind) logs) logs

/-- A drawing that a logging run begins with leaves the log to what follows. -/
theorem run_liftM_bind {α β : Type} (drawing : Drawing ids α) (next : α → Logging log ids β)
    (logs : log) (start : ids) :
    (((liftM drawing : Logging log ids α) >>= next).run logs).run start =
      drawing.run start >>= fun found => ((next found.1).run logs).run found.2 := by
  simp [StateT.run_bind]

/-- A drawing leaves the log of a logging run as it is. -/
theorem returns_liftM_iff {α : Type} {drawing : Drawing ids α} {logs logs' : log}
    {start stop : ids} {value : α} :
    Returns (liftM drawing) logs start value logs' stop ↔
      drawing.run start = .ok (value, stop) ∧ logs' = logs := by
  rw [← bind_pure (liftM drawing), Returns, run_liftM_bind]
  cases drawing.run start with
  | error fault =>
      constructor
      · intro returned
        cases returned
      · rintro ⟨returned, -⟩
        cases returned
  | ok found =>
      constructor
      · intro returned
        cases returned
        exact ⟨rfl, rfl⟩
      · rintro ⟨same, rfl⟩
        cases same
        rfl

/-- Evaluating rules in a logging run gives what the rules give without the log, faults included,
and notes each reaction. -/
theorem react_run (draw : Drawing ids String) (record : Event → log → log) (document : Document)
    (rules : List Rule) (logs : log) (start : ids) :
    ((react (recording draw record) document rules).run logs).run start =
      ((responses draw document rules).run start).map fun found =>
        ((found.1, noteAll record logs found.1), found.2) := by
  induction rules generalizing logs start with
  | nil => rfl
  | cons rule rest inductionHypothesis =>
      simp only [react, recording_newIdentifier, Rule.fire?_liftM, responses,
        List.filterMapM_cons, bind_map_left]
      rw [run_liftM_bind, StateT.run_bind]
      cases fired : (rule.fire? document draw).run start with
      | error fault => rfl
      | ok found =>
          obtain ⟨result, middle⟩ := found
          cases result with
          | none => exact inductionHypothesis logs middle
          | some reaction =>
              have others := inductionHypothesis
                (record (.emitted rule.name reaction.key reaction.kind) logs) middle
              show ((react (recording draw record) document rest).run _).run middle >>= _ =
                Except.map _ ((responses draw document rest).run middle >>= _)
              rw [others]
              cases (responses draw document rest).run middle <;> rfl

/-- What the rules make of a document does not depend on the log. -/
theorem react_returns (draw : Drawing ids String) (record : Event → log → log)
    (document : Document) (rules : List Rule) {logs logs' : log} {start stop : ids}
    {made : List (Rule × Document)}
    (returned : Returns (react (recording draw record) document rules) logs start made logs' stop) :
    (responses draw document rules).run start = .ok (made, stop) := by
  rw [Returns, react_run] at returned
  cases responded : (responses draw document rules).run start with
  | error fault =>
      rw [responded] at returned
      cases returned
  | ok found =>
      rw [responded] at returned
      cases returned
      rfl

/-- The loop: what is returned for a queue are the reactions to what is still to be expanded of
the queue and of the reactions themselves. -/
theorem cascadeFrom_reactions (registry : Registry) (draw : Drawing ids String)
    (record : Event → log → log) (steps : Nat) {queue : List Document}
    {seen : List (Value × Value)} {logs logs' : log} {start stop : ids} {made : List Document}
    (returned : Returns (cascadeFrom registry (recording draw record) steps queue seen)
      logs start (some made) logs' stop) :
    ∃ trace : List (Rule × Document), made = trace.map (·.2) ∧
      (registry.reactions draw (unseen seen (queue ++ registry.expanding trace))).run start =
        .ok (trace, stop) := by
  induction steps generalizing queue seen logs logs' start made with
  | zero =>
      cases queue with
      | nil =>
          rw [cascadeFrom] at returned
          obtain ⟨same, -, rfl⟩ := returns_pure_iff.mp returned
          cases same
          exact ⟨[], rfl, rfl⟩
      | cons document queue => cases returned
  | succ steps inductionHypothesis =>
      cases queue with
      | nil =>
          rw [cascadeFrom] at returned
          obtain ⟨same, -, rfl⟩ := returns_pure_iff.mp returned
          cases same
          exact ⟨[], rfl, rfl⟩
      | cons document queue =>
          rw [cascadeFrom] at returned
          cases old : isSeen seen document with
          | true =>
              rw [old, if_pos rfl] at returned
              obtain ⟨_, between, middle, note, rest⟩ := returns_bind_iff.mp returned
              obtain rfl := returns_note note
              obtain ⟨trace, same, ran⟩ := inductionHypothesis rest
              refine ⟨trace, same, ?_⟩
              rw [List.cons_append, unseen_cons_of_seen old]
              exact ran
          | false =>
              rw [old, if_neg (by simp)] at returned
              obtain ⟨first, between, middle, reacted, rest⟩ := returns_bind_iff.mp returned
              obtain ⟨later, _, _, looped, last⟩ := returns_bind_iff.mp rest
              obtain ⟨same, -, rfl⟩ := returns_pure_iff.mp last
              cases later with
              | none => cases same
              | some later =>
                  cases same
                  obtain ⟨trace, rfl, ran⟩ := inductionHypothesis looped
                  refine ⟨first ++ trace, by simp, ?_⟩
                  have expands : registry.expanding (first ++ trace) =
                      registry.expanding first ++ registry.expanding trace := by
                    simp [expanding]
                  rw [List.cons_append, unseen_cons_of_new old, reactions_cons, expands,
                    ← List.append_assoc]
                  refine drawing_bind_eq_ok.mpr
                    ⟨first, middle, react_returns draw record document registry reacted, ?_⟩
                  exact drawing_bind_eq_ok.mpr ⟨trace, _, ran, rfl⟩

/-- Whenever a cascade returns, what it returns are exactly the reactions of all rules, in the
order of their registration, to the documents of one list in order: the start followed by those
of the returned reactions whose rule names a registered rule to follow, with only the first of
each key and type kept. Identifiers are drawn from the source in the same order. -/
theorem cascade_eq_reactions (registry : Registry) (draw : Drawing ids String)
    (record : Event → log → log) (steps : Nat) (document : Document) (logs logs' : log)
    (start stop : ids) (made : List Document)
    (returned : Returns (registry.cascade (recording draw record) steps document)
      logs start (some made) logs' stop) :
    ∃ trace : List (Rule × Document), made = trace.map (·.2) ∧
      (registry.reactions draw (distinct (document :: registry.expanding trace))).run start =
        .ok (trace, stop) := by
  rw [cascade] at returned
  split at returned
  · obtain ⟨trace, same, ran⟩ := cascadeFrom_reactions registry draw record steps returned
    refine ⟨trace, same, ?_⟩
    rw [unseen_nil] at ran
    exact ran
  · cases returned

/-- Two rules: one reacts to everything under a key, itself included, and its reactions go on; the
other names a rule that does not exist. -/
def collidingRules : Registry := [
  { name := "first", watch := "/a/**", glob := ⟨"/a/**", [.literal "a", .double]⟩, emit := "t",
    emitPath := "/a/b", template := .null, extract := none, guard := none, veto := none,
    following := some "second" },
  { name := "second", watch := "/a/b", glob := ⟨"/a/b", [.literal "a", .literal "b"]⟩, emit := "u",
    emitPath := "/a/${uuid}", template := .null, extract := none, guard := none, veto := none,
    following := some "third" }]

/-- A source that counts. -/
def counting : Drawing Nat String :=
  fun count => .ok (toString count, count + 1)

/-- What the colliding rules make of a document under their key: the second reaction has the key
and type of the first, so it is returned and not expanded. -/
def collidingReactions : List Document :=
  [⟨.str "/a/b", .str "t", .null, some { version := .int 1, producedBy := .str "first" }⟩,
    ⟨.str "/a/b", .str "t", .null, some { version := .int 1, producedBy := .str "first" }⟩,
    ⟨.str "/a/0", .str "u", .null, some { version := .int 1, producedBy := .str "second" }⟩]

/-- The equation at rules that collide: three reactions, four events, one identifier. -/
theorem cascade_eq_reactions_of_collidingRules :
    Returns (collidingRules.cascade (recording counting fun _ (count : Nat) => count + 1) 3
      ⟨.str "/a", .str "s", .str "", none⟩) 0 0 (some collidingReactions) 4 1 ∧
    ∃ trace : List (Rule × Document), collidingReactions = trace.map (·.2) ∧
      (collidingRules.reactions counting (distinct (⟨.str "/a", .str "s", .str "", none⟩ ::
        collidingRules.expanding trace))).run 0 = .ok (trace, 1) := by
  have returned : Returns (collidingRules.cascade
      (recording counting fun _ (count : Nat) => count + 1) 3
      ⟨.str "/a", .str "s", .str "", none⟩) 0 0 (some collidingReactions) 4 1 := by
    rfl
  exact ⟨returned, cascade_eq_reactions _ _ _ _ _ _ _ _ _ _ returned⟩

end Structex.Registry
