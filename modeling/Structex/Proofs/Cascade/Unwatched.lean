import Structex.Proofs.Rule.Payload

/-!
# Documents that no rule watches

Where no rule watches the key of a document, no rule looks at its payload: a cascade ends at once
with no reactions, and the rule of a name alone makes nothing. The names of the rules that would
match are none as well, but they are asked for with the text of the payload, so that they are given
only if the payload has one.
-/

namespace Structex.Registry

open Interchange

/-- No rule watches the key of a document. -/
def Unwatched (rules : List Rule) (document : Document) : Prop :=
  ∀ rule ∈ rules, rule.watches document.key = .ok false

variable {m : Type → Type} [Monad m] [LawfulMonad m] [MonadExceptOf EvaluationFault m]
  {registry : Registry} {document : Document}

/-- A rule that does not watch a document makes nothing of it, whatever its payload. -/
theorem fire?_of_unwatched {rule : Rule} (unwatched : rule.watches document.key = .ok false)
    (newIdentifier : m String) : rule.fire? document newIdentifier = pure none := by
  rw [Rule.fire?, unwatched, Rule.orThrow, pure_bind]
  rfl

/-- Rules that do not watch a document react with nothing. -/
theorem react_of_unwatched {rules : List Rule} (unwatched : Unwatched rules document)
    (around : Surroundings m) : react around document rules = pure [] := by
  induction rules with
  | nil => rfl
  | cons rule rest inductionHypothesis =>
      obtain ⟨first, others⟩ := List.forall_mem_cons.mp unwatched
      rw [react, fire?_of_unwatched first, pure_bind]
      exact inductionHypothesis others

/-- The rule of a name alone makes nothing of a document that no rule watches. -/
theorem applyOne_of_unwatched (unwatched : Unwatched registry document) (around : Surroundings m)
    (name : String) : registry.applyOne around name document = pure none := by
  rw [applyOne]
  cases found : registry.get? name with
  | none => rfl
  | some rule =>
      exact fire?_of_unwatched (unwatched rule (List.mem_of_find?_eq_some found)) _

/-- A cascade from a document that no rule watches ends after it. -/
theorem cascade_of_unwatched (unwatched : Unwatched registry document)
    (keyed : document.key.isKey = true ∧ document.kind.isKey = true) (around : Surroundings m)
    (steps : Nat) : registry.cascade around (steps + 1) document = pure (some []) := by
  rw [cascade, keyed.1, keyed.2]
  show cascadeFrom registry around (steps + 1) [document] [] = _
  rw [cascadeFrom, react_of_unwatched unwatched]
  simp [isSeen, cascadeFrom]

/-- No rule would match a document that none watches, as far as its payload has a text. -/
theorem wouldMatch_of_unwatched (unwatched : Unwatched registry document) :
    registry.wouldMatch document =
      ((payloadText document.data).mapError .interchange).map fun _ => [] := by
  cases readable : payloadText document.data with
  | error fault =>
      rw [wouldMatch, readable]
      rfl
  | ok payload =>
      rw [wouldMatch_eq (fun rule member => ⟨false, unwatched rule member⟩) readable]
      have none : List.filter (·.accepts document payload) registry = [] := by
        refine List.filter_eq_nil_iff.mpr fun rule member => ?_
        rw [Rule.accepts_of_watches (unwatched rule member)]
        simp
      rw [none]
      rfl

/-- A document that no rule watches is inert, whatever its payload: its cascade ends at once with no
reactions, and no name makes anything of it, both without a note and without an identifier drawn.
That no rule would match it is said exactly if the payload has a text. -/
theorem inert_of_unwatched (keyed : document.key.isKey = true ∧ document.kind.isKey = true)
    (unwatched : Unwatched registry document) :
    (∀ (m : Type → Type) [Monad m] [LawfulMonad m] [MonadExceptOf EvaluationFault m]
      (around : Surroundings m),
      (∀ steps, registry.cascade around (steps + 1) document = pure (some [])) ∧
        ∀ name, registry.applyOne around name document = pure none) ∧
    ((∃ names, registry.wouldMatch document = .ok names) ↔
      ∀ fault, ¬ Obstacle document.data fault) ∧
    (∀ names, registry.wouldMatch document = .ok names → names = []) ∧
    ∀ fault, registry.wouldMatch document = .error fault →
      ∃ cause, fault = .interchange cause ∧ Obstacle document.data cause := by
  refine ⟨fun m _ _ _ around => ⟨cascade_of_unwatched unwatched keyed around,
    applyOne_of_unwatched unwatched around⟩, ?_⟩
  rw [wouldMatch_of_unwatched unwatched, ← exists_payloadText_iff]
  cases readable : payloadText document.data with
  | ok payload =>
      exact ⟨iff_of_true ⟨[], rfl⟩ ⟨payload, rfl⟩, fun names same => (Except.ok.inj same).symm,
        nofun⟩
  | error cause =>
      exact ⟨iff_of_false nofun nofun, nofun, fun fault same =>
        ⟨cause, (Except.error.inj same).symm, payloadText_eq_error readable⟩⟩

/-- A document with a pair for a key in its payload. -/
def pairKeyedDocument : Document :=
  ⟨.str "/orders/7", .str "order", .map [(.tuple [.int 1, .int 2], .int 3)], none⟩

/-- A rule that watches users and extracts a digit. -/
def usersRule : Rule where
  name := "users"
  watch := "/users/*"
  glob := ⟨"/users/*", [.literal "users", .single]⟩
  emit := "t"
  emitPath := "/out/${1}"
  template := .str "${uuid}"
  extract := some {
    source := "\\d", flags := { unicode := true }, groups := 0, names := [],
    node := .one ⟨false, .exact, [.category .digit false false]⟩ }
  guard := none
  veto := none
  following := some "users"

/-- The document is inert for the rule, but the names of the rules that would match it are not
given. -/
theorem inert_of_unwatched_of_users :
    pairKeyedDocument.key.isKey = true ∧ pairKeyedDocument.kind.isKey = true ∧
      Unwatched [usersRule] pairKeyedDocument ∧
      (∀ draw : Drawing Nat String, ∀ steps,
        cascade [usersRule] ⟨draw, fun _ => pure ()⟩ (steps + 1) pairKeyedDocument =
            pure (some []) ∧
          applyOne [usersRule] ⟨draw, fun _ => pure ()⟩ "users" pairKeyedDocument = pure none) ∧
      ∀ names, wouldMatch [usersRule] pairKeyedDocument ≠ .ok names := by
  have elsewhere : usersRule.glob.isMatch "/orders/7" = false := by decide +kernel
  have unwatched : Unwatched [usersRule] pairKeyedDocument :=
    List.forall_mem_singleton.mpr (congrArg Except.ok elsewhere)
  obtain ⟨inert, given, -⟩ := inert_of_unwatched ⟨rfl, rfl⟩ unwatched
  refine ⟨rfl, rfl, unwatched, fun draw steps => ?_, fun names same => ?_⟩
  · obtain ⟨ends, alone⟩ := inert (Drawing Nat) ⟨draw, fun _ => pure ()⟩
    exact ⟨ends steps, alone "users"⟩
  · exact given.mp ⟨names, same⟩ _ (payloadText_eq_error rfl)

/-- Even where there are no rules at all, it is not said that none would match the document. -/
theorem wouldMatch_fails_without_rules :
    Unwatched [] pairKeyedDocument ∧
      wouldMatch [] pairKeyedDocument = .error (.interchange (.keyKind "tuple")) :=
  ⟨List.forall_mem_nil _, rfl⟩

end Structex.Registry
