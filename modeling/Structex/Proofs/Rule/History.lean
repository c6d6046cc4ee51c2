import Mathlib.Data.List.Nodup
import Mathlib.Data.Nat.Find
import Structex.Engine
import Structex.Proofs.Rule.Registry

/-!
# The registry of an engine over its history

What was asked of an engine comes down to a history of changes: a rule was registered, a name was
removed, everything was cleared. What fails leaves no change, so a list of definitions counts up to
the first that is no rule. `Records` says what a registry holds of such a history: each name that
lasts once, in the order in which the names came since they were last ended, each with the rule
that was registered for it last. One change keeps this (`Records.apply`), so it holds for every
sequence of requests to an engine.
-/

namespace Structex

namespace Registry

/-- A change of a registry. -/
inductive Change where
  | registered (rule : Rule)
  | removed (name : String)
  | cleared

namespace Change

/-- The registry after a change. -/
def apply (registry : Registry) : Change → Registry
  | .registered rule => registry.put rule
  | .removed name => registry.erase name
  | .cleared => []

/-- Whether a change registers a rule of a name. -/
def Registers (name : String) : Change → Prop
  | .registered rule => rule.name = name
  | _ => False

/-- Whether a change ends what was registered for a name. -/
def Ends (name : String) : Change → Prop
  | .registered _ => False
  | .removed other => other = name
  | .cleared => True

end Change

variable {history : List Change} {change : Change} {name : String} {place : Nat} {rule : Rule}

/-- The change at a place of a history does something, and no later one undoes it. -/
def Stands (does undoes : Change → Prop) (history : List Change) (place : Nat) : Prop :=
  (∃ change, history[place]? = some change ∧ does change) ∧
    ∀ later change, place < later → history[later]? = some change → ¬ undoes change

/-- A rule of a name is registered at a place, and the name was not ended since. -/
def Lasts (history : List Change) (name : String) (place : Nat) : Prop :=
  Stands (Change.Registers name) (Change.Ends name) history place

/-- The first place at which a name is registered since it was last ended. -/
def Enters (history : List Change) (name : String) (place : Nat) : Prop :=
  Lasts history name place ∧ ∀ earlier < place, ¬ Lasts history name earlier

/-- One name enters before another. -/
def EntersBefore (history : List Change) (name later : String) : Prop :=
  ∃ place laterPlace, Enters history name place ∧ Enters history later laterPlace ∧
    place < laterPlace

/-- A rule is the last that is registered for its name, and the name was not ended since. -/
def IsLatest (history : List Change) (rule : Rule) : Prop :=
  ∃ place, Stands (· = .registered rule)
    (fun change => change.Registers rule.name ∨ change.Ends rule.name) history place

/-- What a registry holds of a history. -/
structure Records (registry : Registry) (history : List Change) : Prop where
  /-- No name comes twice. -/
  distinct : registry.names.Nodup
  /-- The names are those that last. -/
  lasting : ∀ name, name ∈ registry.names ↔ ∃ place, Lasts history name place
  /-- They come in the order in which they entered. -/
  inOrder : registry.names.Pairwise (EntersBefore history)
  /-- What is found under a name has it, and is what was registered for it last. -/
  latest : ∀ name rule, registry.get? name = some rule ↔ rule.name = name ∧ IsLatest history rule

/-! ### One more change -/

/-- What stands after one more change: what stood and is not undone by it, and what it does. -/
theorem stands_snoc {does undoes : Change → Prop} :
    Stands does undoes (history ++ [change]) place ↔
      (Stands does undoes history place ∧ ¬ undoes change) ∨
        (place = history.length ∧ does change) := by
  have last : (history ++ [change])[history.length]? = some change := by simp
  constructor
  · rintro ⟨⟨done, present, doing⟩, kept⟩
    rcases Nat.lt_trichotomy place history.length with inside | rfl | outside
    · rw [List.getElem?_append_left inside] at present
      refine .inl ⟨⟨⟨done, present, doing⟩, ?_⟩, kept _ _ inside last⟩
      intro later other behind found
      have within := (List.getElem?_eq_some_iff.mp found).choose
      exact kept later other behind (by rwa [List.getElem?_append_left within])
    · rw [last] at present
      cases present
      exact .inr ⟨rfl, doing⟩
    · rw [List.getElem?_eq_none (by simp; omega)] at present
      cases present
  · rintro (⟨⟨⟨done, present, doing⟩, kept⟩, spared⟩ | ⟨rfl, doing⟩)
    · have inside := (List.getElem?_eq_some_iff.mp present).choose
      refine ⟨⟨done, by rwa [List.getElem?_append_left inside], doing⟩, ?_⟩
      intro later other behind found
      rcases Nat.lt_or_ge later history.length with within | beyond
      · rw [List.getElem?_append_left within] at found
        exact kept later other behind found
      · have length := (List.getElem?_eq_some_iff.mp found).choose
        rw [List.length_append, List.length_singleton] at length
        obtain rfl : later = history.length := by omega
        rw [last] at found
        cases found
        exact spared
    · refine ⟨⟨change, last, doing⟩, ?_⟩
      intro later other behind found
      rw [List.getElem?_eq_none (by simp; omega)] at found
      cases found

theorem Stands.place_lt {does undoes : Change → Prop} (stands : Stands does undoes history place) :
    place < history.length := by
  obtain ⟨⟨change, present, -⟩, -⟩ := stands
  exact (List.getElem?_eq_some_iff.mp present).choose

/-- A name that lasts has entered. -/
theorem exists_enters (lasts : Lasts history name place) : ∃ first, Enters history name first := by
  classical
  have some : ∃ place, Lasts history name place := ⟨place, lasts⟩
  exact ⟨Nat.find some, Nat.find_spec some, fun _ before => Nat.find_min some before⟩

/-- A name that a change does not end still enters where it did. -/
theorem Enters.snoc (enters : Enters history name place) (spared : ¬ change.Ends name) :
    Enters (history ++ [change]) name place := by
  refine ⟨stands_snoc.mpr (.inl ⟨enters.1, spared⟩), ?_⟩
  intro earlier before lasts
  rcases stands_snoc.mp lasts with ⟨already, -⟩ | ⟨rfl, -⟩
  · exact enters.2 earlier before already
  · exact absurd enters.1.place_lt (Nat.not_lt.mpr (Nat.le_of_lt before))

/-- A name that did not last enters with the change that registers it. -/
theorem enters_last (registers : change.Registers name)
    (absent : ¬ ∃ place, Lasts history name place) :
    Enters (history ++ [change]) name history.length := by
  refine ⟨stands_snoc.mpr (.inr ⟨rfl, registers⟩), ?_⟩
  intro earlier before lasts
  rcases stands_snoc.mp lasts with ⟨already, -⟩ | ⟨rfl, -⟩
  · exact absent ⟨earlier, already⟩
  · exact absurd before (Nat.lt_irrefl _)

/-- The names that last after one more change. -/
theorem exists_lasts_snoc :
    (∃ place, Lasts (history ++ [change]) name place) ↔
      ((∃ place, Lasts history name place) ∧ ¬ change.Ends name) ∨ change.Registers name := by
  constructor
  · rintro ⟨place, lasts⟩
    rcases stands_snoc.mp lasts with ⟨already, spared⟩ | ⟨-, registers⟩
    · exact .inl ⟨⟨place, already⟩, spared⟩
    · exact .inr registers
  · rintro (⟨⟨place, already⟩, spared⟩ | registers)
    · exact ⟨place, stands_snoc.mpr (.inl ⟨already, spared⟩)⟩
    · exact ⟨history.length, stands_snoc.mpr (.inr ⟨rfl, registers⟩)⟩

/-- The latest rules after one more change. -/
theorem isLatest_snoc :
    IsLatest (history ++ [change]) rule ↔
      (IsLatest history rule ∧ ¬ change.Registers rule.name ∧ ¬ change.Ends rule.name) ∨
        change = .registered rule := by
  constructor
  · rintro ⟨place, stands⟩
    rcases stands_snoc.mp stands with ⟨already, spared⟩ | ⟨-, registers⟩
    · exact .inl ⟨⟨place, already⟩, not_or.mp spared⟩
    · exact .inr registers
  · rintro (⟨⟨place, already⟩, spared⟩ | registers)
    · exact ⟨place, stands_snoc.mpr (.inl ⟨already, not_or.mpr spared⟩)⟩
    · exact ⟨history.length, stands_snoc.mpr (.inr ⟨rfl, registers⟩)⟩

/-- The order of names that a change does not end stays as it was. -/
theorem EntersBefore.snoc {later : String} (before : EntersBefore history name later)
    (spared : ¬ change.Ends name) (laterSpared : ¬ change.Ends later) :
    EntersBefore (history ++ [change]) name later := by
  obtain ⟨place, laterPlace, enters, laterEnters, less⟩ := before
  exact ⟨place, laterPlace, enters.snoc spared, laterEnters.snoc laterSpared, less⟩

/-! ### Changes keep the records -/

variable {registry : Registry}

/-- An empty registry holds what nothing at all leaves. -/
theorem records_nil : Records [] [] where
  distinct := List.nodup_nil
  lasting name := by simp [names, Lasts, Stands]
  inOrder := .nil
  latest name rule := by simp [get?, IsLatest, Stands]

/-- Registering a rule: it takes the place of the one of its name, or stands behind all others. -/
theorem Records.put (records : Records registry history) (rule : Rule) :
    Records (registry.put rule) (history ++ [.registered rule]) where
  distinct := by
    rw [names_put]
    split
    case isTrue => exact records.distinct
    case isFalse absent =>
      refine List.nodup_append.mpr ⟨records.distinct, List.nodup_singleton _, ?_⟩
      intro name member other isOther
      rw [List.mem_singleton.mp isOther]
      exact fun same => absent (same ▸ member)
  lasting name := by
    rw [exists_lasts_snoc, ← records.lasting, names_put]
    simp only [Change.Ends, Change.Registers, not_false_iff, and_true]
    split
    case isTrue present =>
      exact ⟨.inl, fun either => either.elim id fun same => same ▸ present⟩
    case isFalse => simp [eq_comm]
  inOrder := by
    have kept : registry.names.Pairwise (EntersBefore (history ++ [.registered rule])) :=
      records.inOrder.imp fun before => before.snoc id id
    rw [names_put]
    split
    case isTrue => exact kept
    case isFalse absent =>
      rw [records.lasting] at absent
      refine List.pairwise_append.mpr ⟨kept, List.pairwise_singleton _ _, ?_⟩
      intro name member later isLater
      rw [List.mem_singleton.mp isLater]
      obtain ⟨_, lasts⟩ := (records.lasting name).mp member
      obtain ⟨first, enters⟩ := exists_enters lasts
      exact ⟨first, history.length, enters.snoc id, enters_last rfl absent, enters.1.place_lt⟩
  latest name found := by
    rw [isLatest_snoc, get?_put]
    simp only [Change.Registers, Change.Ends, not_false_iff, and_true, Change.registered.injEq]
    split
    case isTrue same =>
      subst same
      constructor
      · intro equal
        cases equal
        exact ⟨rfl, .inr rfl⟩
      · rintro ⟨named, ⟨-, differ⟩ | rfl⟩
        · exact absurd named.symm differ
        · rfl
    case isFalse differ =>
      rw [records.latest]
      constructor
      · rintro ⟨rfl, latest⟩
        exact ⟨rfl, .inl ⟨latest, differ⟩⟩
      · rintro ⟨rfl, ⟨latest, -⟩ | rfl⟩
        · exact ⟨rfl, latest⟩
        · exact absurd rfl differ

/-- Removing a name: the others stay as they are. -/
theorem Records.erase (records : Records registry history) (removed : String) :
    Records (registry.erase removed) (history ++ [.removed removed]) where
  distinct := by
    rw [names_erase]
    exact records.distinct.filter _
  lasting name := by
    rw [exists_lasts_snoc, ← records.lasting, names_erase]
    simp [Change.Ends, Change.Registers, @eq_comm _ name removed]
  inOrder := by
    rw [names_erase]
    refine (records.inOrder.filter _).imp_of_mem ?_
    intro name later member laterMember before
    refine before.snoc ?_ ?_
    · rintro rfl
      simp at member
    · rintro rfl
      simp at laterMember
  latest name rule := by
    rw [isLatest_snoc, get?_erase]
    simp only [Change.Registers, Change.Ends, not_false_iff, true_and, reduceCtorEq, or_false]
    split
    case isTrue same =>
      subst same
      constructor
      · intro found
        cases found
      · rintro ⟨rfl, -, differ⟩
        exact absurd rfl differ
    case isFalse differ =>
      rw [records.latest]
      constructor
      · rintro ⟨rfl, latest⟩
        exact ⟨rfl, latest, differ⟩
      · rintro ⟨rfl, latest, -⟩
        exact ⟨rfl, latest⟩

/-- Clearing: nothing lasts. -/
theorem records_cleared (history : List Change) : Records [] (history ++ [.cleared]) where
  distinct := List.nodup_nil
  lasting name := by
    rw [exists_lasts_snoc]
    simp [names, Change.Ends, Change.Registers]
  inOrder := .nil
  latest name rule := by
    rw [isLatest_snoc]
    simp [get?, Change.Ends]

/-- Every change keeps the records. -/
theorem Records.apply (records : Records registry history) (change : Change) :
    Records (change.apply registry) (history ++ [change]) := by
  cases change with
  | registered rule => exact records.put rule
  | removed name => exact records.erase name
  | cleared => exact records_cleared history

/-- So does every sequence of changes. -/
theorem Records.applyAll (records : Records registry history) (changes : List Change) :
    Records (changes.foldl Change.apply registry) (history ++ changes) := by
  induction changes generalizing registry history with
  | nil => simpa using records
  | cons change rest inductionHypothesis =>
      simpa using inductionHypothesis (records.apply change)

end Registry

/-! ### Requests to an engine -/

/-- The rules of what is given, up to the first that is none. -/
def Rule.compiled : List RuleArgument → List Rule
  | [] => []
  | given :: rest =>
    match Rule.compile given with
    | .error _ => []
    | .ok rule => rule :: compiled rest

namespace Registry

theorem add_of_compile {registry : Registry} {given : RuleArgument} {rule : Rule}
    (valid : Rule.compile given = .ok rule) :
    registry.add given =
      .ok (rule, registry.put rule, .added rule.name rule.watch (registry.has rule.name)) := by
  rw [add, valid]
  rfl

theorem add_of_fault {registry : Registry} {given : RuleArgument} {fault : RuleFault}
    (invalid : Rule.compile given = .error fault) : registry.add given = .error fault := by
  rw [add, invalid]
  rfl

/-- Registering a list puts its rules into the registry in order, up to the first that is none. -/
theorem addAll_registry (registry : Registry) (given : List RuleArgument) :
    (registry.addAll given).registry = (Rule.compiled given).foldl put registry := by
  induction given generalizing registry with
  | nil => rfl
  | cons first rest inductionHypothesis =>
      rw [addAll, Rule.compiled]
      cases compiled : Rule.compile first with
      | error fault =>
          rw [add_of_fault compiled]
          rfl
      | ok rule =>
          rw [add_of_compile compiled]
          exact inductionHypothesis _

end Registry

namespace Engine

open Log

/-- What the registry of an engine can be asked for. -/
inductive Request where
  | add (given : RuleArgument)
  | remove (name : String)
  | clear
  | addAll (given : List RuleArgument)

namespace Request

/-- The engine and the logs after a request, whether it failed or not. -/
def perform (state : Engine × Logs) : Request → Engine × Logs
  | .add given => let after := state.1.add state.2 given; (after.engine, after.logs)
  | .remove name => (state.1.remove state.2 name).2
  | .clear => (state.1.clear, state.2)
  | .addAll given => let after := state.1.addAll state.2 given; (after.engine, after.logs)

/-- The engine and the logs after several requests in order. -/
def performAll (state : Engine × Logs) (requests : List Request) : Engine × Logs :=
  requests.foldl perform state

/-- The changes that a request makes. -/
def changes : Request → List Registry.Change
  | .add given => (Rule.compiled [given]).map .registered
  | .remove name => [.removed name]
  | .clear => [.cleared]
  | .addAll given => (Rule.compiled given).map .registered

end Request

variable {engine : Engine} {logs : Logs} {given : RuleArgument}

/-- What is a rule is registered and returned. -/
theorem add_of_compile {rule : Rule} (valid : Rule.compile given = .ok rule) :
    engine.add logs given = ⟨engine.withRules (engine.registry.put rule),
      logs.note engine.logger (.added rule.name rule.watch (engine.registry.has rule.name)),
      .ok rule⟩ := by
  rw [add, Registry.add_of_compile valid]

/-- What is no rule changes nothing. -/
theorem add_of_fault {fault : RuleFault} (invalid : Rule.compile given = .error fault) :
    engine.add logs given = ⟨engine, logs, .error (.rule fault)⟩ := by
  rw [add, Registry.add_of_fault invalid]

/-- Registering one definition gives its rule or its fault. -/
theorem add_result (engine : Engine) (logs : Logs) (given : RuleArgument) :
    (engine.add logs given).result = (Rule.compile given).mapError .rule := by
  cases compiled : Rule.compile given with
  | error fault =>
      rw [add_of_fault compiled]
      rfl
  | ok rule =>
      rw [add_of_compile compiled]
      rfl

/-- A list whose first definition is a rule: it is registered, then the others are. -/
theorem addAll_cons_of_compile {rule : Rule} (valid : Rule.compile given = .ok rule)
    (rest : List RuleArgument) :
    engine.addAll logs (given :: rest) =
      let later := (engine.add logs given).engine.addAll (engine.add logs given).logs rest
      { later with result := later.result.map (rule :: ·) } := by
  rw [add_of_compile valid]
  simp only [addAll, Registry.addAll, Registry.add_of_compile valid, withRules]
  congr 1
  cases (Registry.addAll (engine.registry.put rule) rest).outcome <;> rfl

/-- A list is registered as its definitions are one by one, up to the first that is no rule. -/
theorem addAll_of_invalid (engine : Engine) (logs : Logs) {before : List RuleArgument}
    (valid : ∀ given ∈ before, ∃ rule, Rule.compile given = .ok rule) {fault : RuleFault}
    (invalid : Rule.compile given = .error fault) (rest : List RuleArgument) :
    let reached := Request.performAll (engine, logs) (before.map .add)
    engine.addAll logs (before ++ given :: rest) =
      ⟨reached.1, reached.2, .error (.rule fault)⟩ := by
  induction before generalizing engine logs with
  | nil =>
      simp only [List.nil_append, addAll, Registry.addAll, Registry.add_of_fault invalid]
      rfl
  | cons first others inductionHypothesis =>
      obtain ⟨rule, compiled⟩ := valid first List.mem_cons_self
      rw [List.cons_append, addAll_cons_of_compile compiled,
        inductionHypothesis _ _ fun given member => valid given (List.mem_cons_of_mem _ member)]
      rfl

/-- A request changes the registry as its changes do. -/
theorem registry_perform (state : Engine × Logs) (request : Request) :
    (request.perform state).1.registry =
      request.changes.foldl Registry.Change.apply state.1.registry := by
  cases request with
  | add given =>
      rw [Request.perform, Request.changes, Rule.compiled]
      cases compiled : Rule.compile given with
      | error fault =>
          rw [add_of_fault compiled]
          rfl
      | ok rule =>
          rw [add_of_compile compiled]
          rfl
  | remove name => exact Registry.remove_registry _ name
  | clear => rfl
  | addAll given =>
      rw [Request.changes, List.foldl_map]
      exact Registry.addAll_registry _ given

/-- Every sequence of requests keeps the records. -/
theorem records_performAll {state : Engine × Logs} {history : List Registry.Change}
    (records : state.1.registry.Records history) (requests : List Request) :
    (Request.performAll state requests).1.registry.Records
      (history ++ requests.flatMap Request.changes) := by
  induction requests generalizing state history with
  | nil => simpa [Request.performAll] using records
  | cons request rest inductionHypothesis =>
      have after : (request.perform state).1.registry.Records (history ++ request.changes) := by
        rw [registry_perform]
        exact records.applyAll request.changes
      rw [List.flatMap_cons, ← List.append_assoc]
      exact inductionHypothesis after

/-- Whatever was asked of a new engine, its registry holds what the history of its changes leaves;
its size is the number of its names, and removing tells whether a name is among them. A definition
that is no rule changes nothing, and neither does what follows it in a list. -/
theorem records_of_requests (logs : Logs) (logger : Option Logger) (requests : List Request) :
    let engine := (Request.performAll (create logs logger) requests).1
    engine.registry.Records (requests.flatMap Request.changes) ∧
    List.length engine.registry = engine.registry.names.length ∧
    (∀ logs name, (engine.remove logs name).1 = true ↔ name ∈ engine.registry.names) ∧
    (∀ logs given, (engine.add logs given).result = (Rule.compile given).mapError .rule) ∧
    (∀ logs given fault, Rule.compile given = .error fault →
      engine.add logs given = ⟨engine, logs, .error (.rule fault)⟩) ∧
    (∀ logs before given rest fault, (∀ valid ∈ before, ∃ rule, Rule.compile valid = .ok rule) →
      Rule.compile given = .error fault →
      let reached := Request.performAll (engine, logs) (before.map .add)
      engine.addAll logs (before ++ given :: rest) =
        ⟨reached.1, reached.2, .error (.rule fault)⟩) := by
  intro engine
  have start : (create logs logger).1.registry.Records [] := by
    cases logger <;> exact Registry.records_nil
  refine ⟨records_performAll start requests, (Registry.length_names _).symm, ?_,
    engine.add_result, fun logs given fault => add_of_fault, ?_⟩
  · intro logs name
    show (engine.registry.remove name).1 = true ↔ _
    rw [Registry.remove_fst, Registry.has_iff]
  · intro logs before given rest fault valid invalid
    exact engine.addAll_of_invalid logs valid invalid rest

/-- The definition of a rule of a name that watches a path. -/
def watching (name path : String) : RuleArgument :=
  .value (.map [(.str "name", .str name), (.str "watch", .str path), (.str "emit", .str "t"),
    (.str "emit_path", .str "/out")])

/-- The rule of such a definition. -/
def watchingRule (name path : String) : Rule where
  name := name
  watch := path
  glob := Glob.compile path
  emit := "t"
  emitPath := "/out"
  template := .null
  extract := none
  guard := none
  veto := none
  following := none

/-- A rule is registered, registered again at its place, removed and registered once more; between,
a list fails at its second definition. -/
def reordering : List Request :=
  [.add (watching "a" "/x"), .add (watching "b" "/x"), .add (watching "a" "/y"),
    .add (.value .null), .addAll [watching "b" "/y", .value .null, watching "c" "/x"], .remove "a",
    .add (watching "a" "/x")]

/-- After these requests the rule that was removed stands behind the other one, and what fails
again changes no more than its beginning does. -/
theorem records_of_requests_of_reordering :
    let engine := (Request.performAll (create {} none) reordering).1
    engine.registry.names = ["b", "a"] ∧
    engine.registry.Records [.registered (watchingRule "a" "/x"),
      .registered (watchingRule "b" "/x"), .registered (watchingRule "a" "/y"),
      .registered (watchingRule "b" "/y"), .removed "a", .registered (watchingRule "a" "/x")] ∧
    engine.add {} (.value .null) =
      ⟨engine, {}, .error (.rule (.invalid .definitionKind .null))⟩ ∧
    let reached := engine.add {} (watching "c" "/x")
    engine.addAll {} [watching "c" "/x", .value .null, watching "d" "/x"] =
      ⟨reached.engine, reached.logs, .error (.rule (.invalid .definitionKind .null))⟩ := by
  obtain ⟨records, -, -, -, fails, failsAfter⟩ := records_of_requests {} none reordering
  refine ⟨rfl, records, fails {} _ _ rfl, failsAfter {} [watching "c" "/x"] _ [_] _ ?_ rfl⟩
  intro given member
  rw [List.mem_singleton.mp member]
  exact ⟨watchingRule "c" "/x", rfl⟩

end Engine

end Structex
