import Mathlib.Data.Finset.Card
import Structex.Proofs.Cascade.Stepping

/-!
# How long a cascade can go on

A cascade ends exactly when it meets finitely many keys and types. Every document that is expanded
has a key and type of its own and brings at most one document for each rule, so the documents
taken, those that wait and the reactions are all bounded by the number of pairs and of rules
(`Within`). A finite set of pairs that the rules do not lead out of (`Encloses`) holds all that is
expanded, whatever the payloads and the identifiers are.
-/

namespace Structex

namespace Rule

variable {ids : Type}

/-- A result that is put into a drawing run leaves the source as it is. -/
theorem run_orThrow_eq_ok {α : Type} {result : Except EvaluationFault α} {value : α}
    {start stop : ids} :
    (orThrow result : Registry.Drawing ids α).run start = .ok (value, stop) ↔
      result = .ok value ∧ stop = start := by
  cases result with
  | error fault =>
      constructor
      · intro refused
        cases refused
      · rintro ⟨refused, -⟩
        cases refused
  | ok found =>
      constructor
      · intro given
        cases given
        exact ⟨rfl, rfl⟩
      · rintro ⟨same, rfl⟩
        cases same
        rfl

/-- A reaction is made for some text of the payload; its key is what the rule's path gives there,
and its type the one of the rule. -/
theorem fire?_eq_some {rule : Rule} {document reaction : Document}
    {draw : Registry.Drawing ids String} {before after : ids}
    (fired : (rule.fire? document draw).run before = .ok (some reaction, after)) :
    ∃ payload key middle,
      (Template.expand rule.emitPath (rule.context document payload) draw).run before =
        .ok (key, middle) ∧
      reaction.key = .str key ∧ reaction.kind = .str rule.emit := by
  obtain ⟨watched, _, looked, rest⟩ := Registry.drawing_bind_eq_ok.mp fired
  obtain ⟨-, rfl⟩ := run_orThrow_eq_ok.mp looked
  cases watched with
  | false => cases rest
  | true =>
      rw [if_pos rfl] at rest
      obtain ⟨payload, _, read, guarded⟩ := Registry.drawing_bind_eq_ok.mp rest
      obtain ⟨-, rfl⟩ := run_orThrow_eq_ok.mp read
      cases admitted : rule.admits payload with
      | false =>
          rw [admitted] at guarded
          cases guarded
      | true =>
          rw [admitted, if_pos rfl] at guarded
          obtain ⟨_, _, made, same⟩ := Registry.drawing_bind_eq_ok.mp guarded
          cases same
          obtain ⟨key, middle, expanded, filling⟩ := Registry.drawing_bind_eq_ok.mp made
          obtain ⟨_, _, filled, same⟩ := Registry.drawing_bind_eq_ok.mp filling
          cases same
          exact ⟨payload, key, middle, expanded, rfl, rfl⟩

end Rule

namespace Registry

variable {log ids : Type} {registry : Registry} {draw : Drawing ids String}

/-- The responses are at most one for each rule, and each is what its rule makes of the
document. -/
theorem responses_eq_ok {document : Document} {rules : List Rule} {before after : ids}
    {made : List (Rule × Document)}
    (responded : (responses draw document rules).run before = .ok (made, after)) :
    made.length ≤ rules.length ∧ ∀ entry ∈ made, entry.1 ∈ rules ∧
      ∃ start stop, (entry.1.fire? document draw).run start = .ok (some entry.2, stop) := by
  induction rules generalizing before made with
  | nil =>
      cases responded
      exact ⟨Nat.le_refl 0, by simp⟩
  | cons rule rest inductionHypothesis =>
      simp only [responses, List.filterMapM_cons, bind_map_left] at responded
      obtain ⟨result, middle, fired, others⟩ := drawing_bind_eq_ok.mp responded
      cases result with
      | none =>
          obtain ⟨fits, each⟩ := inductionHypothesis others
          refine ⟨Nat.le_succ_of_le fits, fun entry member => ?_⟩
          obtain ⟨registered, fires⟩ := each entry member
          exact ⟨List.mem_cons_of_mem _ registered, fires⟩
      | some reaction =>
          obtain ⟨tail, last, tailResponded, same⟩ := drawing_bind_eq_ok.mp others
          cases same
          obtain ⟨fits, each⟩ := inductionHypothesis tailResponded
          refine ⟨Nat.succ_le_succ fits, fun entry member => ?_⟩
          rcases List.mem_cons.mp member with rfl | later
          · exact ⟨List.mem_cons_self, before, middle, fired⟩
          · obtain ⟨registered, fires⟩ := each entry later
            exact ⟨List.mem_cons_of_mem _ registered, fires⟩

/-- What waits after a document are reactions to it whose rule goes on. -/
theorem mem_expanding {made : List (Rule × Document)} {reaction : Document}
    (waits : reaction ∈ registry.expanding made) :
    ∃ rule, registry.continues rule = true ∧ (rule, reaction) ∈ made := by
  simp only [expanding, List.mem_map, List.mem_filter] at waits
  obtain ⟨⟨rule, _⟩, ⟨member, goesOn⟩, rfl⟩ := waits
  exact ⟨rule, goesOn, member⟩

/-- Whether a document that comes again is known again, as any whose key and type are texts. -/
abbrev IsRecognized (document : Document) : Prop :=
  clashes document document = true

/-- A reaction is known again when it comes again. -/
theorem isRecognized_of_fires {rule : Rule} {document reaction : Document} {start stop : ids}
    (fired : (rule.fire? document draw).run start = .ok (some reaction, stop)) :
    IsRecognized reaction := by
  obtain ⟨_, _, _, -, sameKey, sameKind⟩ := Rule.fire?_eq_some fired
  simp [IsRecognized, clashes, sameKey, sameKind]

/-- What was expanded counts as seen. -/
theorem isSeen_of_mem {seen : List (Value × Value)} {document : Document}
    (recognized : IsRecognized document) (member : identity document ∈ seen) :
    isSeen seen document = true :=
  List.any_eq_true.mpr ⟨_, member, recognized⟩

/-- What the number of pairs that were expanded says about a cascade. Only the document that it
starts with may be one that is not known again, and that is taken before anything is expanded. -/
structure Within (registry : Registry) (pops : Nat) (made : List Document) (agenda : Agenda ids) :
    Prop where
  pops_le : pops + agenda.queue.length ≤ 1 + agenda.seen.length * registry.length
  made_le : made.length ≤ agenda.seen.length * registry.length
  seen_nodup : agenda.seen.Nodup
  recognized : ∀ document ∈ agenda.queue,
    IsRecognized document ∨ agenda.queue = [document] ∧ agenda.seen = []

theorem within_start (registry : Registry) (document : Document) (source : ids) :
    Within registry 0 [] (.start document source) where
  pops_le := by simp [Agenda.start]
  made_le := by simp
  seen_nodup := List.nodup_nil
  recognized := by simp [Agenda.start]

/-- The bounds hold after a document more: one that is passed over makes the queue shorter, and
one that is expanded brings at most a document for each rule. -/
theorem Within.step {pops : Nat} {made later : List Document} {agenda next : Agenda ids}
    (within : Within registry pops made agenda) (step : Step registry draw agenda later next) :
    Within registry (pops + 1) (made ++ later) next := by
  obtain ⟨popsFit, madeFits, nodup, recognized⟩ := within
  cases step with
  | skip isOld =>
      refine ⟨?_, ?_, nodup, ?_⟩
      · simp only [List.length_cons] at popsFit
        simp only
        omega
      · simpa using madeFits
      · intro other waits
        refine (recognized other (List.mem_cons_of_mem _ waits)).imp_right ?_
        rintro ⟨alone, -⟩
        cases alone
        cases waits
  | @expand document queue seen before after reacted isNew responded =>
      obtain ⟨fits, each⟩ := responses_eq_ok responded
      have waiting : (registry.expanding reacted).length ≤ registry.length := by
        refine Nat.le_trans ?_ fits
        rw [expanding, List.length_map]
        exact List.length_filter_le ..
      refine ⟨?_, ?_, ?_, ?_⟩
      · simp only [List.length_cons, List.length_append, Nat.succ_mul] at popsFit ⊢
        omega
      · simp only [List.length_cons, List.length_append, List.length_map, Nat.succ_mul]
          at madeFits ⊢
        omega
      · -- A pair that is known again cannot have been expanded before; the start, which may not be
        -- known again, comes when nothing has been.
        refine List.nodup_cons.mpr ⟨fun member => ?_, nodup⟩
        rcases recognized document List.mem_cons_self with known | ⟨-, empty⟩
        · rw [isSeen_of_mem known member] at isNew
          cases isNew
        · simp only at empty member
          rw [empty] at member
          cases member
      · intro other waits
        left
        rcases List.mem_append.mp waits with earlier | reaction
        · rcases recognized other (List.mem_cons_of_mem _ earlier) with known | ⟨alone, -⟩
          · exact known
          · cases alone
            cases earlier
        · obtain ⟨rule, -, member⟩ := mem_expanding reaction
          obtain ⟨-, start, stop, fired⟩ := each _ member
          exact isRecognized_of_fires fired

/-- The bounds hold after any run. -/
theorem Within.run {before pops : Nat} {made later : List Document} {agenda last : Agenda ids}
    (within : Within registry before made agenda)
    (run : Run registry draw pops agenda later last) :
    Within registry (before + pops) (made ++ later) last := by
  induction run generalizing before made with
  | refl agenda => simpa using within
  | @step agenda middle last first later pops step rest inductionHypothesis =>
      have after := inductionHypothesis (within.step step)
      rwa [List.append_assoc, Nat.add_right_comm] at after

/-- All keys and types of a set that the rules with a registered rule to follow do not lead out
of, whatever the payload and whatever identifiers the source gives. -/
def Encloses (pairs : Finset (Value × Value)) (registry : Registry) (draw : Drawing ids String) :
    Prop :=
  ∀ rule ∈ registry, registry.continues rule = true →
    ∀ document reaction start stop, identity document ∈ pairs →
      (rule.fire? document draw).run start = .ok (some reaction, stop) →
      identity reaction ∈ pairs

/-- Whether all that waits and all that was expanded is in a set. -/
structure Confined (pairs : Finset (Value × Value)) (agenda : Agenda ids) : Prop where
  queue : ∀ document ∈ agenda.queue, identity document ∈ pairs
  seen : ∀ pair ∈ agenda.seen, pair ∈ pairs

/-- A document more does not lead out of a set that encloses the rules. -/
theorem Confined.step {pairs : Finset (Value × Value)} (encloses : Encloses pairs registry draw)
    {made : List Document} {agenda next : Agenda ids} (confined : Confined pairs agenda)
    (step : Step registry draw agenda made next) : Confined pairs next := by
  obtain ⟨queued, expanded⟩ := confined
  cases step with
  | skip isOld => exact ⟨fun other waits => queued other (List.mem_cons_of_mem _ waits), expanded⟩
  | @expand document queue seen before after reacted isNew responded =>
      have here := queued document List.mem_cons_self
      constructor
      · intro other waits
        rcases List.mem_append.mp waits with earlier | reaction
        · exact queued other (List.mem_cons_of_mem _ earlier)
        · obtain ⟨rule, goesOn, member⟩ := mem_expanding reaction
          obtain ⟨registered, start, stop, fired⟩ := (responses_eq_ok responded).2 _ member
          exact encloses rule registered goesOn document other start stop here fired
      · intro pair member
        rcases List.mem_cons.mp member with rfl | earlier
        · exact here
        · exact expanded pair earlier

/-- No run leads out of a set that encloses the rules. -/
theorem Confined.run {pairs : Finset (Value × Value)} (encloses : Encloses pairs registry draw)
    {pops : Nat} {made : List Document} {agenda last : Agenda ids}
    (confined : Confined pairs agenda) (run : Run registry draw pops agenda made last) :
    Confined pairs last := by
  induction run with
  | refl agenda => exact confined
  | step first rest inductionHypothesis => exact inductionHypothesis (confined.step encloses first)

/-- Pairs of a set that are all different are no more than the set has. -/
theorem length_le_card {pairs : Finset (Value × Value)} {seen : List (Value × Value)}
    (nodup : seen.Nodup) (subset : ∀ pair ∈ seen, pair ∈ pairs) : seen.length ≤ pairs.card := by
  have included : (⟨(seen : Multiset (Value × Value)), nodup⟩ : Finset (Value × Value)) ⊆ pairs :=
    subset
  exact Finset.card_le_card included

/-- Whether all pairs that a cascade ever expands are in a set. -/
def StaysIn (pairs : Finset (Value × Value)) (registry : Registry) (draw : Drawing ids String)
    (document : Document) (source : ids) : Prop :=
  ∀ pops made agenda, Run registry draw pops (.start document source) made agenda →
    ∀ pair ∈ agenda.seen, pair ∈ pairs

/-- The bounds of a cascade whose pairs are all in a set. -/
theorem StaysIn.bounds {pairs : Finset (Value × Value)} {document : Document} {source : ids}
    (stays : StaysIn pairs registry draw document source) {pops : Nat} {made : List Document}
    {agenda : Agenda ids} (run : Run registry draw pops (.start document source) made agenda) :
    pops + agenda.queue.length ≤ 1 + pairs.card * registry.length ∧
      made.length ≤ pairs.card * registry.length ∧ agenda.seen.Nodup := by
  have within := (within_start registry document source).run run
  rw [Nat.zero_add, List.nil_append] at within
  have few : agenda.seen.length * registry.length ≤ pairs.card * registry.length :=
    Nat.mul_le_mul_right _ (length_le_card within.seen_nodup (stays _ _ _ run))
  exact ⟨Nat.le_trans within.pops_le (Nat.add_le_add_left few 1),
    Nat.le_trans within.made_le few, within.seen_nodup⟩

/-- A cascade whose pairs are all in a set comes to an end within its bound. -/
theorem StaysIn.ends {pairs : Finset (Value × Value)} {document : Document} {source : ids}
    (stays : StaysIn pairs registry draw document source) (record : Event → log → log) :
    ∃ result, Ends registry draw document source result ∧
      ∀ steps logs, 1 + pairs.card * registry.length ≤ steps →
        outcome (registry.cascade (recording draw record) steps document) logs source =
          ended result := by
  cases keyed : isKeyed document with
  | false =>
      exact ⟨_, .refused keyed, fun steps logs _ =>
        outcome_cascade_of_not_isKeyed _ steps keyed logs source⟩
  | true =>
      obtain ⟨pops, made, last, result, -, run, halts⟩ | ⟨made, last, run⟩ :=
        halts_or_continues registry draw (1 + pairs.card * registry.length + 1)
          (.start document source)
      · refine ⟨_, .halts keyed run halts, fun steps logs enough => ?_⟩
        have fits := Nat.le_trans (stays.bounds run).1 enough
        have same := outcome_cascadeFrom_of_halts run halts record fits logs
        rw [cascade_of_isKeyed _ steps keyed]
        cases result <;> exact same
      · have fits := (stays.bounds run).1
        omega

/-- Take any finite set of keys and types that holds those of a document and all that a rule with
a registered rule to follow can emit for a document of the set. Along the whole cascade the
documents taken from the queue and those that wait are at most one more than the set has pairs
times the number of rules, the reactions are at most as many as that product, and the rules are
evaluated for pairs of the set only, for none of them twice. With steps for so many documents, and
with any more, the cascade gives what it comes to without a bound. -/
theorem cascade_bounded (registry : Registry) (draw : Drawing ids String)
    (record : Event → log → log) (document : Document) (source : ids)
    (pairs : Finset (Value × Value)) (starts : identity document ∈ pairs)
    (encloses : Encloses pairs registry draw) :
    (∀ pops made agenda, Run registry draw pops (.start document source) made agenda →
      pops + agenda.queue.length ≤ 1 + pairs.card * registry.length ∧
      made.length ≤ pairs.card * registry.length ∧
      agenda.seen.Nodup ∧ ∀ pair ∈ agenda.seen, pair ∈ pairs) ∧
    ∃ result, Ends registry draw document source result ∧
      (∀ made stop, result = .ok (made, stop) → made.length ≤ pairs.card * registry.length) ∧
      ∀ steps logs, 1 + pairs.card * registry.length ≤ steps →
        outcome (registry.cascade (recording draw record) steps document) logs source =
          ended result := by
  have confined : Confined pairs (Agenda.start document source) :=
    ⟨by simpa [Agenda.start] using starts, by simp [Agenda.start]⟩
  have stays : StaysIn pairs registry draw document source :=
    fun pops made agenda run => (confined.run encloses run).seen
  refine ⟨fun pops made agenda run => ?_, ?_⟩
  · obtain ⟨popsFit, madeFits, nodup⟩ := stays.bounds run
    exact ⟨popsFit, madeFits, nodup, stays pops made agenda run⟩
  · obtain ⟨result, ends, same⟩ := stays.ends record
    refine ⟨result, ends, fun made stop returned => ?_, same⟩
    cases ends with
    | refused unkeyed => cases returned
    | @halts pops made' last halted keyed run halts =>
        cases halted with
        | error fault => cases returned
        | ok stop' =>
            cases returned
            exact (stays.bounds run).2.1

/-- A rule that follows itself to the same key every time. -/
def echoingRule : Rule where
  name := "loop"
  watch := "/**"
  glob := ⟨"/**", [.double]⟩
  emit := "echo"
  emitPath := "/echo"
  template := .null
  extract := none
  guard := none
  veto := none
  following := some "loop"

/-- The pairs of a cascade through the echoing rule: the first document's and the rule's own. -/
def echoingPairs : Finset (Value × Value) :=
  ⟨([(.str "/start", .str "t"), (.str "/echo", .str "echo")] : List (Value × Value)), by simp⟩

/-- The bound at a rule that follows itself: two pairs and one rule, so three documents are taken
and two reactions made, at most. -/
theorem cascade_bounded_of_echoingRule :
    identity ⟨.str "/start", .str "t", .null, none⟩ ∈ echoingPairs ∧
    Encloses echoingPairs [echoingRule] counting ∧
    (∀ pops made agenda, Run [echoingRule] counting pops
        (.start ⟨.str "/start", .str "t", .null, none⟩ 0) made agenda →
      pops + agenda.queue.length ≤ 3 ∧ made.length ≤ 2 ∧
      agenda.seen.Nodup ∧ ∀ pair ∈ agenda.seen, pair ∈ echoingPairs) ∧
    ∃ result, Ends [echoingRule] counting ⟨.str "/start", .str "t", .null, none⟩ 0 result ∧
      (∀ made stop, result = .ok (made, stop) → made.length ≤ 2) ∧
      ∀ steps (logs : Nat), 3 ≤ steps →
        outcome (cascade [echoingRule] (recording counting fun _ count => count + 1) steps
          ⟨.str "/start", .str "t", .null, none⟩) logs 0 = ended result := by
  have starts : identity ⟨.str "/start", .str "t", .null, none⟩ ∈ echoingPairs := by
    simp [echoingPairs, identity]
  have encloses : Encloses echoingPairs [echoingRule] counting := by
    intro rule registered goesOn document reaction start stop member fired
    obtain rfl := List.mem_singleton.mp registered
    obtain ⟨payload, key, middle, expanded, sameKey, sameKind⟩ := Rule.fire?_eq_some fired
    have plain : (Template.expand "/echo" (echoingRule.context document payload) counting).run
        start = .ok ("/echo", start) := rfl
    cases plain.symm.trans expanded
    simp [identity, sameKey, sameKind, echoingPairs, echoingRule]
  exact ⟨starts, encloses, cascade_bounded _ _ _ _ _ _ starts encloses⟩

/-- A run that halts takes the pairs of all runs with it. -/
theorem StaysIn.of_halts {pops : Nat} {made : List Document} {last : Agenda ids}
    {document : Document} {source : ids} {result : Except EvaluationFault ids}
    (run : Run registry draw pops (.start document source) made last)
    (halts : Halts registry draw last result) :
    ∃ pairs, StaysIn pairs registry draw document source := by
  classical
  refine ⟨last.seen.toFinset, fun fewer early agenda start pair member => ?_⟩
  obtain ⟨more, late, rest⟩ := start.continues_to_halt run halts
  exact List.mem_toFinset.mpr (rest.seen_subset member)

/-- A cascade comes to an end within some number of steps exactly when its document is refused or
the pairs that it expands are finitely many. -/
theorem cascade_ends_iff (registry : Registry) (draw : Drawing ids String)
    (record : Event → log → log) (document : Document) (logs : log) (source : ids) :
    (∃ steps result, outcome (registry.cascade (recording draw record) steps document) logs source =
        ended result) ↔
      isKeyed document = false ∨ ∃ pairs, StaysIn pairs registry draw document source := by
  constructor
  · rintro ⟨steps, result, same⟩
    refine (Bool.eq_false_or_eq_true (isKeyed document)).symm.imp_right fun keyed => ?_
    obtain ⟨_, made, last, halted, -, run, halts⟩ | ⟨made, last, run⟩ :=
      halts_or_continues registry draw steps (.start document source)
    · exact StaysIn.of_halts run halts
    · -- All steps are used up. If a document still waited, the loop would have given up.
      by_cases idle : last.queue = []
      · obtain ⟨queue, seen, stop⟩ := last
        cases idle
        exact StaysIn.of_halts run .done
      · have waiting := outcome_cascadeFrom_of_waiting run idle record logs
        rw [cascade_of_isKeyed _ steps keyed] at same
        have unfinished := same.symm.trans waiting
        cases result <;> cases unfinished
  · rintro (unkeyed | ⟨pairs, stays⟩)
    · exact ⟨0, .error .unhashable, outcome_cascade_of_not_isKeyed _ 0 unkeyed logs source⟩
    · obtain ⟨result, -, same⟩ := stays.ends record
      exact ⟨_, result, same _ logs (Nat.le_refl _)⟩

end Registry

end Structex
