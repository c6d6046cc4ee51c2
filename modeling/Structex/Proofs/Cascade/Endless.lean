import Structex.Proofs.Cascade.Bound
import Structex.Proofs.Glob.Rows

/-!
# A cascade without an end

What a cascade has expanded stops it only where a key and type come again. A rule that follows
itself and puts a fresh identifier into the path of its reactions never meets one: each reaction
is new, is expanded and makes the next, whatever the number of steps.
-/

namespace Structex.Registry

variable {log : Type}

/-- The definition of a rule that watches everything, follows itself and takes an identifier into
its path. -/
def renewingDefinition : RuleArgument :=
  .value (.map [(.str "name", .str "renew"), (.str "watch", .str "/**"), (.str "emit", .str "t"),
    (.str "emit_path", .str "/${uuid}"), (.str "then", .str "renew")])

/-- The rule of the definition. -/
def renewingRule : Rule where
  name := "renew"
  watch := "/**"
  glob := ⟨"/**", [.double]⟩
  emit := "t"
  emitPath := "/${uuid}"
  template := .null
  extract := none
  guard := none
  veto := none
  following := some "renew"

/-- The definition passes all checks. -/
theorem compile_renewingDefinition : Rule.compile renewingDefinition = .ok renewingRule := by
  rfl

/-- A source that gives the identifiers of a sequence in order. -/
def enumerating (identifiers : Nat → String) : Drawing Nat String :=
  fun count => .ok (identifiers count, count + 1)

/-- The reaction that takes an identifier. -/
def renewed (identifier : String) : Document :=
  ⟨.str ("/" ++ identifier), .str "t", .null, some renewingRule.metadata⟩

/-- The glob of the rule matches every path. -/
theorem renewingRule_watches (path : String) : renewingRule.glob.isMatch path = true := by
  rw [Glob.isMatch]
  induction pathSegments path with
  | nil => rfl
  | cons part path inductionHypothesis =>
      show Segment.matchAll [.double] (part :: path) = true
      rw [Segment.matchAll_double]
      exact Bool.or_eq_true_iff.mpr (.inr inductionHypothesis)

/-- The path of the rule takes the next identifier, whatever the document is. -/
theorem expand_renewingRule (identifiers : Nat → String) (context : TemplateContext) (count : Nat) :
    (Template.expand renewingRule.emitPath context (enumerating identifiers)).run count =
      .ok ("/" ++ identifiers count, count + 1) := by
  show Except.ok ("/" ++ (identifiers count ++ ""), count + 1) = _
  rw [String.append_empty]

/-- The rule reacts to every text key with the next identifier. -/
theorem fire?_renewingRule (identifiers : Nat → String) (path : String) (kind : Value)
    (metadata : Option Metadata) (count : Nat) :
    (renewingRule.fire? ⟨.str path, kind, .null, metadata⟩ (enumerating identifiers)).run count =
      .ok (some (renewed (identifiers count)), count + 1) := by
  have watched : renewingRule.watches (.str path) = .ok true :=
    congrArg Except.ok (renewingRule_watches path)
  rw [Rule.fire?, watched]
  show (some <$> renewingRule.reaction ⟨.str path, kind, .null, metadata⟩ "null"
    (enumerating identifiers)).run count = _
  rw [Rule.reaction, StateT.run_map, StateT.run_bind, expand_renewingRule]
  rfl

/-- A registry of this rule alone gives that reaction alone. -/
theorem responses_renewingRule (identifiers : Nat → String) (path : String) (kind : Value)
    (metadata : Option Metadata) (count : Nat) :
    (responses (enumerating identifiers) ⟨.str path, kind, .null, metadata⟩ [renewingRule]).run
      count = .ok ([(renewingRule, renewed (identifiers count))], count + 1) := by
  simp only [responses, List.filterMapM_cons, bind_map_left, StateT.run_bind, fire?_renewingRule]
  rfl

/-- Where a cascade through the rule is after it took a number of identifiers: the reaction with
the last one waits, and what was expanded is of another type or has an earlier one. -/
structure Renewing (identifiers : Nat → String) (taken : Nat) (agenda : Agenda Nat) : Prop where
  queue : agenda.queue = [renewed (identifiers taken)]
  source : agenda.source = taken + 1
  seen : ∀ pair ∈ agenda.seen, pair.2.sameKey (.str "t") = false ∨
    ∃ earlier < taken, pair = identity (renewed (identifiers earlier))

/-- Identifiers that do not come again make reactions that were not seen. -/
theorem Renewing.isNew {identifiers : Nat → String} (fresh : identifiers.Injective) {taken : Nat}
    {agenda : Agenda Nat} (renewing : Renewing identifiers taken agenda) :
    isSeen agenda.seen (renewed (identifiers taken)) = false := by
  refine List.any_eq_false.mpr fun pair member same => ?_
  rcases renewing.seen pair member with other | ⟨earlier, before, rfl⟩
  · simp [renewed, other] at same
  · have equal : identifiers earlier = identifiers taken := by
      simpa [renewed, identity] using same
    exact absurd (fresh equal) (Nat.ne_of_lt before)

/-- From there the next identifier is taken. -/
theorem Renewing.step {identifiers : Nat → String} (fresh : identifiers.Injective) {taken : Nat}
    {agenda : Agenda Nat} (renewing : Renewing identifiers taken agenda) :
    ∃ made next, Step [renewingRule] (enumerating identifiers) agenda made next ∧
      Renewing identifiers (taken + 1) next := by
  have isNew := renewing.isNew fresh
  obtain ⟨queue, seen, source⟩ := agenda
  obtain ⟨rfl, rfl, known⟩ := renewing
  refine ⟨_, _, .expand isNew (responses_renewingRule identifiers _ _ _ _), rfl, rfl, ?_⟩
  intro pair member
  rcases List.mem_cons.mp member with rfl | before
  · exact .inr ⟨taken, Nat.lt_succ_self taken, rfl⟩
  · refine (known pair before).imp_right ?_
    rintro ⟨earlier, less, same⟩
    exact ⟨earlier, Nat.lt_succ_of_lt less, same⟩

/-- From there any number of documents is taken, and one still waits. -/
theorem Renewing.run {identifiers : Nat → String} (fresh : identifiers.Injective) {taken : Nat}
    {agenda : Agenda Nat} (renewing : Renewing identifiers taken agenda) (pops : Nat) :
    ∃ made last, Run [renewingRule] (enumerating identifiers) pops agenda made last ∧
      Renewing identifiers (taken + pops) last := by
  induction pops generalizing taken agenda with
  | zero => exact ⟨_, _, .refl agenda, renewing⟩
  | succ pops inductionHypothesis =>
      obtain ⟨made, middle, first, after⟩ := renewing.step fresh
      obtain ⟨later, last, rest, still⟩ := inductionHypothesis after
      rw [Nat.add_assoc, Nat.add_comm 1] at still
      exact ⟨_, last, .step first rest, still⟩

/-- Where identifiers do not come again, the cascade of a document of another type and without a
payload does not end within any number of steps. -/
theorem renewing_waits {identifiers : Nat → String} (fresh : identifiers.Injective)
    (record : Event → log → log) (path : String) {kind : Value} (keyed : kind.isKey = true)
    (other : kind.sameKey (.str "t") = false) (steps : Nat) (logs : log) :
    ∃ stop, outcome (cascade [renewingRule] (recording (enumerating identifiers) record) steps
      ⟨.str path, kind, .null, none⟩) logs 0 = .ok (none, stop) := by
  have isKeyed : isKeyed ⟨.str path, kind, .null, none⟩ = true := keyed
  rw [cascade_of_isKeyed _ _ isKeyed]
  cases steps with
  | zero => exact ⟨0, rfl⟩
  | succ steps =>
      have first : Step [renewingRule] (enumerating identifiers)
          (.start ⟨.str path, kind, .null, none⟩ 0) [renewed (identifiers 0)]
          ⟨[renewed (identifiers 0)], [(.str path, kind)], 1⟩ :=
        .expand rfl (responses_renewingRule identifiers path kind none 0)
      have after : Renewing identifiers 0
          ⟨[renewed (identifiers 0)], [(.str path, kind)], 1⟩ := by
        refine ⟨rfl, rfl, fun pair member => .inl ?_⟩
        cases List.mem_singleton.mp member
        exact other
      obtain ⟨later, last, rest, still⟩ := after.run fresh steps
      have waits : last.queue ≠ [] := by
        rw [still.queue]
        simp
      exact ⟨_, outcome_cascadeFrom_of_waiting (.step first rest) waits record logs⟩

/-- An identifier of a length. -/
def identifierOfLength (length : Nat) : String :=
  String.ofList (List.replicate length 'a')

/-- The rule is valid, and where identifiers get longer and longer its cascade never comes to an
end. -/
theorem renewing_never_ends :
    Rule.compile renewingDefinition = .ok renewingRule ∧
      ¬ ∃ steps result, outcome (cascade [renewingRule]
        (recording (enumerating identifierOfLength) fun _ (count : Nat) => count + 1) steps
        ⟨.str "/", .str "s", .null, none⟩) 0 0 = ended result := by
  refine ⟨compile_renewingDefinition, ?_⟩
  rintro ⟨steps, result, same⟩
  have fresh : identifierOfLength.Injective := by
    intro shorter longer equal
    have lengths := congrArg (·.toList.length) equal
    simpa [identifierOfLength] using lengths
  have other : (Value.str "s").sameKey (.str "t") = false := by simp
  obtain ⟨stop, waits⟩ := renewing_waits fresh (fun _ (count : Nat) => count + 1) "/"
    rfl other steps 0
  have unfinished := same.symm.trans waits
  cases result <;> cases unfinished

end Structex.Registry
