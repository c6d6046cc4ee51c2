import Structex.Proofs.Settings.Reloading

/-!
# Reading again that stops

Reading the files again stops at the first of which nothing comes, and what was read before it
stays. So a layer holds afterwards what the last of the files before reads as, if there is one for
it, and what it held otherwise; the settings are as they were if these files read as their layers
were.
-/

namespace Structex.Settings

variable {settings others after : Settings} {reader : TextReader} {files : Files}

/-- Whether something comes of a file does not depend on the settings. -/
theorem loadFile_eq_error_congr {path : String} {layer : Layer} {fault : LoadFault}
    (failed : settings.loadFile reader files path layer = .error fault) (others : Settings) :
    others.loadFile reader files path layer = .error fault := by
  rw [loadFile] at failed ⊢
  split at failed
  case h_1 => cases failed
  case h_2 | h_3 => exact failed

theorem layer_reread (settings : Settings) (table : List (String × Layer)) (layer : Layer) :
    (settings.reread reader files table).layer layer =
      match lastFor layer table with
      | some path => (files.value reader path).toOption
      | none => settings.layer layer := by
  rw [Settings.layer, reread]
  dsimp only
  cases lastFor layer table with
  | none => rfl
  | some path =>
      dsimp only
      rw [Files.value]
      cases files.content reader path <;> rfl

theorem layer_reread_congr (same : settings.layer = others.layer) (table : List (String × Layer)) :
    (settings.reread reader files table).layer = (others.reread reader files table).layer := by
  funext layer
  rw [layer_reread, layer_reread, same]

/-- Files that are read up to one of which nothing comes leave the layers as the files before it
read. -/
theorem loadFiles_eq_error {table : List (String × Layer)} {fault : LoadFault}
    (failed : (settings.loadFiles reader files table).2 = .error fault) :
    ∃ before path layer rest, table = before ++ (path, layer) :: rest ∧
      (∀ entry ∈ before, ∃ entries, files.value reader entry.1 = .ok (.map entries)) ∧
      settings.loadFile reader files path layer = .error fault ∧
      (settings.loadFiles reader files table).1.layer =
        (settings.reread reader files before).layer := by
  induction table generalizing settings with
  | nil => cases failed
  | cons entry table inductionHypothesis =>
      obtain ⟨path, layer⟩ := entry
      rw [loadFiles] at failed ⊢
      cases done : settings.loadFile reader files path layer with
      | error other =>
          rw [done] at failed
          cases failed
          exact ⟨[], path, layer, table, rfl, List.forall_mem_nil _, done, rfl⟩
      | ok after =>
          rw [done] at failed
          obtain ⟨before, last, lastLayer, rest, rfl, readable, stops, layers⟩ :=
            inductionHypothesis failed
          obtain ⟨mark, entries, plain, reads, -, rfl⟩ := loadFile_eq_ok_iff.mp done
          have isMapping : files.value reader path = .ok (.map (Shared.valueEntries entries)) := by
            rw [Files.value, reads]
            rfl
          refine ⟨(path, layer) :: before, last, lastLayer, rest, rfl,
            List.forall_mem_cons.mpr ⟨⟨_, isMapping⟩, readable⟩,
            loadFile_eq_error_congr stops settings, layers.trans ?_⟩
          rw [settings.reread_cons reads]
          exact layer_reread_congr rfl before

/-- The whole of the settings depends on the layers only. -/
theorem all?_congr (same : settings.layer = others.layer) : settings.all? = others.all? := by
  rw [all?, all?, contents, contents, same]

/-- The lookup of a key sees no difference where the files read as the layers were. -/
theorem find?_of_reread {table : List (String × Layer)} {key : String}
    (layers : after.layer = (settings.reread reader files table).layer)
    (same : ∀ layer path, lastFor layer table = some path →
      (files.value reader path).toOption.bind (Value.at? (parts key)) =
        settings.at? (parts key) layer) :
    after.find? key = settings.find? key := by
  refine find?_congr fun layer => ?_
  have held : after.at? (parts key) layer = settings.at? (parts key) layer := by
    rw [at?, layers, layer_reread]
    cases last : lastFor layer table with
    | none => rfl
    | some path => exact same layer path last
  rw [inLayer?, inLayer?, ← at?, ← at?, held]

/-- If reading the files again fails, it does so at a file before which every file of the table
reads as a mapping. A layer for which such a file stands holds what the last of them reads as, and
the others what they held. So a key leads to what it led to if these files have there what their
layers had, and everything is as it was if they read as their layers were. -/
theorem reload_of_failing (settings : Settings) (reader : TextReader) (files : Files)
    (fault : LoadFault) (failed : (settings.reload reader files).2 = .error fault) :
    ∃ before path layer rest, settings.files = before ++ (path, layer) :: rest ∧
      (∀ entry ∈ before, ∃ entries, files.value reader entry.1 = .ok (.map entries)) ∧
      settings.loadFile reader files path layer = .error fault ∧
      (∀ layer, (settings.reload reader files).1.layer layer =
        match lastFor layer before with
        | some path => (files.value reader path).toOption
        | none => settings.layer layer) ∧
      (∀ key, (∀ layer path, lastFor layer before = some path →
          (files.value reader path).toOption.bind (Value.at? (parts key)) =
            settings.at? (parts key) layer) →
        (settings.reload reader files).1.find? key = settings.find? key ∧
          ∀ default,
            (settings.reload reader files).1.getD key default = settings.getD key default) ∧
      ((∀ layer path, lastFor layer before = some path →
          (files.value reader path).toOption = settings.layer layer) →
        (settings.reload reader files).1.all? = settings.all?) := by
  obtain ⟨before, path, layer, rest, table, readable, stops, layers⟩ := loadFiles_eq_error failed
  have held (layer : Layer) : (settings.reload reader files).1.layer layer =
      match lastFor layer before with
      | some path => (files.value reader path).toOption
      | none => settings.layer layer := (congrFun layers layer).trans (layer_reread ..)
  refine ⟨before, path, layer, rest, table, readable, stops, held, fun key same => ?_,
    fun same => all?_congr ?_⟩
  · have found := find?_of_reread layers same
    exact ⟨found, getD_congr found⟩
  · funext layer
    rw [held]
    cases last : lastFor layer before with
    | none => rfl
    | some path => exact same layer path last

/-- Two files. -/
def keyAndName : Files :=
  [("a.yaml", .text "\"key\": \"first\"\n"), ("b.yaml", .text "\"name\": \"second\"\n")]

/-- The first of them was written anew, and the second erased. -/
def nameOnly : Files :=
  [("a.yaml", .text "\"name\": \"third\"\n")]

/-- The settings that the two files were read into, as layers of their own. -/
def twoLayers : Settings :=
  [Action.loadFile keyAndName "a.yaml" .user, .loadFile keyAndName "b.yaml" .system].foldl
    (Action.perform Yaml.reader) initial

/-- The first file is read again before the second fails. What neither of its texts has, stays. -/
theorem reload_of_failing_of_twoLayers :
    (twoLayers.reload Yaml.reader nameOnly).2 = .error ⟨.settings, "b.yaml", .missing⟩ ∧
      (twoLayers.reload Yaml.reader nameOnly).1.find? "pikesre.logging.level" =
        twoLayers.find? "pikesre.logging.level" := by
  have failed : (twoLayers.reload Yaml.reader nameOnly).2 =
      .error ⟨.settings, "b.yaml", .missing⟩ := by
    decide +kernel
  have entries : twoLayers.files = [("a.yaml", .user), ("b.yaml", .system)] := by decide +kernel
  have erased : nameOnly.read "b.yaml" = .error .missing := by decide +kernel
  obtain ⟨before, path, layer, rest, table, readable, -, -, keys, -⟩ :=
    reload_of_failing twoLayers Yaml.reader nameOnly _ failed
  refine ⟨failed, (keys "pikesre.logging.level" fun layer path last => ?_).1⟩
  have read := mem_of_lastFor last
  have member : (path, layer) ∈ twoLayers.files := table ▸ List.mem_append_left _ read
  rw [entries] at member
  rcases List.mem_pair.mp member with first | second
  · cases first
    have unset : (nameOnly.value Yaml.reader "a.yaml").toOption.bind
          (Value.at? (parts "pikesre.logging.level")) = none := by
      rw [← Option.isNone_iff_eq_none]
      decide +kernel
    have unsetBefore : twoLayers.at? (parts "pikesre.logging.level") .user = none := by
      rw [← Option.isNone_iff_eq_none]
      decide +kernel
    rw [unset, unsetBefore]
  · cases second
    obtain ⟨found, reads⟩ := readable _ read
    rw [Files.value, Files.content, erased] at reads
    cases reads

/-- Reading again fails at the second file, but the key of the first is gone. -/
theorem reload_loses_key :
    (∃ fault, (twoLayers.reload Yaml.reader nameOnly).2 = .error fault) ∧
      twoLayers.get? "key" ≠ none ∧
      (twoLayers.reload Yaml.reader nameOnly).1.get? "key" = none := by
  refine ⟨⟨⟨.settings, "b.yaml", .missing⟩, by decide +kernel⟩, ?_⟩
  simp only [← Option.isSome_iff_ne_none, ← Option.isNone_iff_eq_none]
  decide +kernel

end Structex.Settings
