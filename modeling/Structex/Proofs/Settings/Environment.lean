import Structex.Proofs.Settings.Assignment
import Structex.Proofs.Settings.Reloading
import Structex.Proofs.Settings.Starting

/-!
# Variables read back

Variables of which none sets a place on the way to another's can be set in any order, and each of
them is found under the dotted key of its path, above the defaults and a file. Names that give no
path set nothing, and a key that neither leads to a variable nor lies below one is looked up as if
there were no environment.
-/

namespace Structex

namespace Environment

theorem splitPairs_ne_nil (text : List Char) : splitPairs text ≠ [] := by
  unfold splitPairs
  split
  · simp
  · simp
  · split <;> simp

/-- A variable sets a place below the library's own name. -/
theorem path?_ne_nil {name : String} {path : List String} (found : path? name = some path) :
    path ≠ [] := by
  obtain ⟨-, -, found⟩ := Option.bind_eq_some_iff.mp found
  obtain ⟨-, -, same⟩ := Option.bind_eq_some_iff.mp found
  cases same
  simpa using splitPairs_ne_nil _

theorem mem_assigned {assignments : List (String × String)} {name text : String}
    {path : List String} (member : (name, text) ∈ assignments) (found : path? name = some path) :
    (path, value text) ∈ assigned assignments :=
  List.mem_filterMap.mpr ⟨(name, text), member, by rw [found]; rfl⟩

/-- Only the variables that give a path set something. -/
theorem assigned_filter (assignments : List (String × String)) :
    assigned (assignments.filter fun entry => (path? entry.1).isSome) = assigned assignments := by
  rw [assigned, assigned, List.filterMap_filter]
  congr 1
  funext entry
  cases path? entry.1 <;> rfl

/-- Variables can be set in every order if none sets a place on the way to another's. -/
theorem exists_putAll_of_apart {assignments : List (String × String)}
    (once : (paths assignments).Nodup)
    (apart : ∀ path ∈ paths assignments, ∀ other ∈ paths assignments,
      path <+: other → path = other) :
    ∃ content, putAll (assigned assignments) = .ok content := by
  refine (exists_putAll_iff (fun _ => isMap_of_mem_assigned) (map_assigned _ ▸ once)).mpr ?_
  rw [map_assigned]
  exact once.imp_of_mem fun member memberOther differs leads =>
    differs (apart _ member _ memberOther leads)

namespace Mirrors

variable {settings : List (List String × Value)} {content : Value}

/-- A setting is where it was put if none is on the way to it. -/
theorem at?_of_mem (mirrors : Mirrors settings content) {path : List String} {value : Value}
    (noMap : value.isMap = false) (member : (path, value) ∈ settings)
    (apart : ∀ setting ∈ settings, setting.1 <+: path → setting.1 = path) :
    Value.at? path content = some value :=
  ((mirrors.mirrorsAt path).value_iff value noMap).mpr
    ⟨member, fun ⟨setting, present, leads, differs⟩ => differs (apart setting present leads)⟩

/-- Where no setting is on the way and none lies below, there is nothing. -/
theorem at?_of_apart (mirrors : Mirrors settings content) {path : List String} (below : path ≠ [])
    (apart : ∀ setting ∈ settings, ¬ setting.1 <+: path ∧ ¬ path <+: setting.1) :
    Value.at? path content = none := by
  obtain ⟨values, sections⟩ := mirrors.mirrorsAt path
  rw [Option.eq_none_iff_forall_ne_some]
  intro held reached
  cases isMap : held.isMap with
  | false =>
      obtain ⟨member, -⟩ := (values held isMap).mp reached
      exact (apart _ member).1 (List.prefix_refl path)
  | true =>
      cases held with
      | map entries =>
          obtain ⟨-, isRoot | ⟨setting, member, leads⟩⟩ := sections.mp ⟨entries, reached⟩
          · exact below isRoot
          · exact (apart setting member).2 leads
      | _ => cases isMap

end Mirrors

end Environment

namespace Settings

/-- Below the library's own name stands what is put there. -/
theorem at?_ownSection (content : Value) (path : List String) :
    Value.at? (ownKey :: path) (mapping [(ownKey, content)]) = Value.at? path content := by
  rw [mapping, List.map_singleton, Value.at?_cons_map, Entries.get?_cons_same, Option.bind_some]

theorem at?_ownSection_other (content : Value) {part : String} (other : part ≠ ownKey)
    (path : List String) :
    Value.at? (part :: path) (mapping [(ownKey, content)]) = none := by
  have differs : Value.str ownKey ≠ .str part := fun same => other (Value.str.inj same).symm
  rw [mapping, List.map_singleton, Value.at?_cons_map, Entries.get?_cons_other differs]
  rfl

theorem withVariables_of_some (settings : Settings) {content held : Value} {path : List String}
    (below : path ≠ []) (reached : Value.at? path content = some held) :
    settings.withVariables content =
      settings.withLayer .environment (some (mapping [(ownKey, content)])) := by
  unfold withVariables
  split
  · obtain ⟨part, rest, rfl⟩ := List.exists_cons_of_ne_nil below
    cases reached
  · rfl

theorem layer_withVariables (settings : Settings) (content : Value) {layer : Layer}
    (other : layer ≠ .environment) :
    (settings.withVariables content).layer layer = settings.layer layer := by
  unfold withVariables
  split
  · rfl
  · exact layer_withLayer_other other _

/-- Without an environment nothing is in its layer, nor in the one above. -/
theorem layer_of_start {reader : TextReader} {files : Files} {file : String} {plain : Settings}
    (started : start reader files file none = .ok plain) :
    plain.layer .environment = none ∧ plain.layer .runtime = none := by
  rw [start] at started
  split at started
  · cases started
    exact ⟨rfl, rfl⟩
  · cases loaded : initial.loadFile reader files file .user with
    | error fault =>
        rw [loaded] at started
        cases started
    | ok after =>
        rw [loaded] at started
        cases started
        obtain ⟨mark, entries, path, -, -, rfl⟩ := loadFile_eq_ok_iff.mp loaded
        exact ⟨rfl, rfl⟩

/-- The key of a variable is found in the layer of the environment. -/
theorem find?_withVariables {plain : Settings} (empty : plain.layer .runtime = none)
    {content value : Value} (notNull : value.isNull = false) {path : List String}
    (below : path ≠ []) (dotFree : ∀ part ∈ path, '.' ∉ part.toList)
    (reached : Value.at? path content = some value) :
    (plain.withVariables content).find? (Text.join '.' (ownKey :: path)) =
      some (value, .environment) := by
  have same : parts (Text.join '.' (ownKey :: path)) = ownKey :: path :=
    parts_join (by simp) (List.forall_mem_cons.mpr ⟨by decide, dotFree⟩)
  rw [plain.withVariables_of_some below reached]
  refine find?_eq_some_iff.mpr ⟨inLayer?_eq_some_iff.mpr ⟨?_, notNull⟩, fun other higher => ?_⟩
  · rw [same, at?_withLayer_same, Shared.value_ofValue, at?_ownSection, reached]
  · cases other with
    | runtime => exact inLayer?_of_none empty _
    | _ => cases Nat.lt_irrefl _ (Nat.lt_of_lt_of_le higher (by decide))

/-- The layer of the environment has nothing for a key that neither leads to a variable nor lies
below one. -/
theorem inLayer?_withVariables {plain : Settings} (empty : plain.layer .environment = none)
    {settings : List (List String × Value)} {content : Value}
    (put : Environment.putAll settings = .ok content)
    (mirrors : Environment.Mirrors settings content) {key : String}
    (apart : ∀ setting ∈ settings,
      ¬ ownKey :: setting.1 <+: parts key ∧ ¬ parts key <+: ownKey :: setting.1) :
    (plain.withVariables content).inLayer? key .environment = none := by
  unfold withVariables
  split
  case h_1 => exact inLayer?_of_none empty key
  case h_2 filled =>
    rw [inLayer?_eq_none_iff, at?_withLayer_same, Shared.value_ofValue]
    obtain ⟨part, rest, shape⟩ := List.exists_cons_of_ne_nil (parts_ne_nil key)
    rw [shape] at apart ⊢
    by_cases own : part = ownKey
    · subst own
      simp only [List.prefix_cons_inj] at apart
      rw [at?_ownSection]
      refine .inl (mirrors.at?_of_apart ?_ apart)
      -- The library's own name leads to every variable, and without any the layer stays empty.
      rintro rfl
      have unset : settings = [] := List.eq_nil_iff_forall_not_mem.mpr fun setting member =>
        (apart setting member).2 List.nil_prefix
      subst unset
      cases put
      exact filled rfl
    · exact .inl (at?_ownSection_other _ own rest)

/-- Where no variable sets the place of another or one on the way to it, a program that starts
without them starts with them, in whatever order they come. It finds each of them under the dotted
key of its path, in the layer of the environment; names that give no path make no difference; and a
key that neither leads to a variable nor lies below one leads to what it leads to without them. -/
theorem start_reads_variables (reader : TextReader) (files : Files) (file : String)
    (assignments : List (String × String)) (plain : Settings)
    (started : start reader files file none = .ok plain)
    (dotFree : ∀ path ∈ Environment.paths assignments, ∀ part ∈ path, '.' ∉ part.toList)
    (once : (Environment.paths assignments).Nodup)
    (apart : ∀ path ∈ Environment.paths assignments, ∀ other ∈ Environment.paths assignments,
      path <+: other → path = other) :
    ∃ settings, start reader files file (some assignments) = .ok settings ∧
      (∀ name text path, (name, text) ∈ assignments → Environment.path? name = some path →
        let key := Text.join '.' (ownKey :: path)
        settings.find? key = some (Environment.value text, .environment) ∧
          ∀ default, settings.getD key default = Environment.value text) ∧
      start reader files file
        (some (assignments.filter fun entry => (Environment.path? entry.1).isSome)) =
          .ok settings ∧
      ∀ key, (∀ path ∈ Environment.paths assignments,
          ¬ ownKey :: path <+: parts key ∧ ¬ parts key <+: ownKey :: path) →
        settings.find? key = plain.find? key ∧
          ∀ default, settings.getD key default = plain.getD key default := by
  obtain ⟨content, put⟩ := Environment.exists_putAll_of_apart once apart
  have leaves : ∀ setting ∈ Environment.assigned assignments, setting.2.isMap = false :=
    fun _ => Environment.isMap_of_mem_assigned
  have mirrors : Environment.Mirrors (Environment.assigned assignments) content :=
    Environment.mirrors_of_putAll leaves (Environment.map_assigned _ ▸ once) put
  have isPath : ∀ setting ∈ Environment.assigned assignments,
      setting.1 ∈ Environment.paths assignments := fun setting member =>
    Environment.map_assigned assignments ▸ List.mem_map_of_mem member
  obtain ⟨noEnvironment, noRuntime⟩ := layer_of_start started
  refine ⟨plain.withVariables content, start_eq_ok_iff.mpr ⟨plain, content, started, put, rfl⟩,
    fun name text path member found => ?_, ?_, fun key free => ?_⟩
  · have set := Environment.mem_assigned member found
    have reached := mirrors.at?_of_mem (Environment.isMap_value text) set
      fun setting present leads => apart _ (isPath _ present) _ (isPath _ set) leads
    have read := find?_withVariables noRuntime (Environment.isNull_value text)
      (Environment.path?_ne_nil found) (dotFree path (isPath _ set)) reached
    exact ⟨read, getD_of_find? read⟩
  · exact start_eq_ok_iff.mpr
      ⟨plain, content, started, by rw [Environment.assigned_filter, put], rfl⟩
  · have same : (plain.withVariables content).find? key = plain.find? key := by
      refine find?_congr fun layer => ?_
      by_cases own : layer = .environment
      · subst own
        rw [inLayer?_of_none noEnvironment,
          inLayer?_withVariables noEnvironment put mirrors fun setting member =>
            free _ (isPath setting member)]
      · rw [inLayer?, inLayer?, layer_withVariables plain content own]
    exact ⟨same, getD_congr same⟩

/-- A file with a section of the library's settings. -/
def loggingFile : Files :=
  [("c.yaml", .text "\"pikesre\":\n  \"logging\":\n    \"level\": \"ERROR\"\n")]

/-- Variables of several sections among others, with a run of three underscores and one of four. -/
def interleaved : List (String × String) :=
  [("PIKESRE_LOGGING__LEVEL", "Debug"), ("HOME", "/"), ("PIKESRE_a___B", "yes"),
    ("PIKESRE_A____B", "1"), ("PIKESRE_A__C", "12")]

theorem paths_interleaved :
    Environment.paths interleaved = [["logging", "level"], ["a", "_b"], ["a", "c"]] := by
  decide +kernel

/-- Above a file, the variables are found under their keys, and the file's own section reads as it
would without them where they set nothing. -/
theorem start_reads_variables_of_interleaved :
    ∃ plain settings, start Yaml.reader loggingFile "c.yaml" none = .ok plain ∧
      (∀ path ∈ Environment.paths interleaved, ∀ part ∈ path, '.' ∉ part.toList) ∧
      (Environment.paths interleaved).Nodup ∧
      (∀ path ∈ Environment.paths interleaved, ∀ other ∈ Environment.paths interleaved,
        path <+: other → path = other) ∧
      start Yaml.reader loggingFile "c.yaml" (some interleaved) = .ok settings ∧
      settings.find? "pikesre.logging.level" = some (.str "Debug", .environment) ∧
      settings.find? "pikesre.a._b" = some (.bool true, .environment) ∧
      settings.find? "pikesre.a.c" = some (.int 12, .environment) ∧
      settings.find? "pikesre.logging.file" = plain.find? "pikesre.logging.file" := by
  have started : start Yaml.reader loggingFile "c.yaml" none =
      .ok ((start Yaml.reader loggingFile "c.yaml" none).toOption.getD initial) :=
    eq_ok_of_isSome (by decide +kernel) initial
  have dotFree : ∀ path ∈ Environment.paths interleaved, ∀ part ∈ path, '.' ∉ part.toList := by
    rw [paths_interleaved]
    decide
  have once : (Environment.paths interleaved).Nodup := by
    rw [paths_interleaved]
    decide
  have apart : ∀ path ∈ Environment.paths interleaved,
      ∀ other ∈ Environment.paths interleaved, path <+: other → path = other := by
    rw [paths_interleaved]
    decide
  obtain ⟨settings, withThem, reads, -, others⟩ :=
    start_reads_variables Yaml.reader loggingFile "c.yaml" interleaved _ started dotFree once apart
  have level := (reads "PIKESRE_LOGGING__LEVEL" "Debug" ["logging", "level"] (by decide)
    (by decide +kernel)).1
  have flag := (reads "PIKESRE_a___B" "yes" ["a", "_b"] (by decide) (by decide +kernel)).1
  have count := (reads "PIKESRE_A__C" "12" ["a", "c"] (by decide) (by decide +kernel)).1
  refine ⟨_, settings, started, dotFree, once, apart, withThem, level, flag, count,
    (others "pikesre.logging.file" ?_).1⟩
  rw [paths_interleaved]
  decide +kernel

end Settings

end Structex
