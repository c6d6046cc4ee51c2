import Structex.Value.Basic

/-!
# Layers of settings

The sources that settings come from, the lowest first: what comes with the program, the settings
of the system and of the user, the environment, and what was set while running.
-/

namespace Structex

/-- A source of settings. -/
inductive Layer where
  | defaults
  | system
  | user
  | environment
  | runtime
  deriving DecidableEq, Repr

namespace Layer

/-- The layers, the lowest first. -/
def all : List Layer := [.defaults, .system, .user, .environment, .runtime]

/-- The place of a layer, counted from one. -/
def number : Layer → Nat
  | .defaults => 1
  | .system => 2
  | .user => 3
  | .environment => 4
  | .runtime => 5

/-- The name of a layer. -/
def name : Layer → String
  | .defaults => "COMPILED_DEFAULTS"
  | .system => "SYSTEM_CONFIG"
  | .user => "USER_CONFIG"
  | .environment => "ENVIRONMENT"
  | .runtime => "RUNTIME"

/-- The layer of a name. -/
def ofName? (name : String) : Option Layer :=
  all.find? fun layer => layer.name == name

theorem mem_all (layer : Layer) : layer ∈ all := by
  cases layer <;> decide

end Layer

end Structex
