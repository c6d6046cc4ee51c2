import Structex.Proofs.Settings.Reachable
import Structex.Yaml.Basic

/-!
# Files that are read again

Reading the files again goes through the table of files, in which a file stands once, under its
plain path, where it came in first. As long as the files stay as they are, every one of them can be
read again, and a layer then holds what the file that stands last for it reads as. That is what
the layer held before if reading this file was also the last thing that was done to the layer. It
is not if the layer was taken away since, as the table still has the file, or if an earlier file
was read again since, as it keeps its place in the table.
-/

namespace Structex

namespace Files

/-- A step that stands in plain paths. -/
structure IsPlainStep (step : String) : Prop where
  nonempty : step ≠ ""
  staying : step ≠ "."
  back : step ≠ ".."
  named : step.startsWith "~" = false
  whole : '/' ∉ step.toList

theorem plainSteps_cons (done : List String) (step : String) (rest : List String) :
    plainSteps done (step :: rest) =
      if step == "" || step == "." then plainSteps done rest
      else if step == ".." then
        match done with
        | [] => none
        | _ :: done => plainSteps done rest
      else plainSteps (step :: done) rest := by
  cases done <;> rw [plainSteps]

/-- Plain steps are taken as they are. -/
theorem plainSteps_of_plain {steps : List String} (plain : ∀ step ∈ steps, IsPlainStep step)
    (done : List String) : plainSteps done steps = some (done.reverse ++ steps) := by
  induction steps generalizing done with
  | nil => rw [plainSteps, List.append_nil]
  | cons step rest inductionHypothesis =>
      obtain ⟨here, others⟩ := List.forall_mem_cons.mp plain
      rw [plainSteps_cons, if_neg (by simp [here.nonempty, here.staying]),
        if_neg (by simp [here.back]), inductionHypothesis others]
      simp

/-- Only plain steps are left of a path. -/
theorem isPlainStep_of_plainSteps {steps done left : List String}
    (before : ∀ step ∈ done, IsPlainStep step)
    (named : ∀ step ∈ steps, step.startsWith "~" = false)
    (whole : ∀ step ∈ steps, '/' ∉ step.toList)
    (found : plainSteps done steps = some left) : ∀ step ∈ left, IsPlainStep step := by
  induction steps generalizing done with
  | nil =>
      cases found
      exact fun step member => before step (List.mem_reverse.mp member)
  | cons step rest inductionHypothesis =>
      obtain ⟨here, others⟩ := List.forall_mem_cons.mp whole
      obtain ⟨name, names⟩ := List.forall_mem_cons.mp named
      rw [plainSteps_cons] at found
      split at found
      case isTrue => exact inductionHypothesis before names others found
      case isFalse kept =>
        simp only [Bool.or_eq_true, beq_iff_eq, not_or] at kept
        split at found
        case isTrue =>
          cases done with
          | nil => cases found
          | cons last done =>
              exact inductionHypothesis (List.forall_mem_cons.mp before).2 names others found
        case isFalse forward =>
          have plain : IsPlainStep step := ⟨kept.1, kept.2, by simpa using forward, name, here⟩
          exact inductionHypothesis (List.forall_mem_cons.mpr ⟨plain, before⟩) names others found

/-- Steps that are joined do not lead from the root. -/
theorem startsWith_join {steps : List String} (plain : ∀ step ∈ steps, IsPlainStep step) :
    (Text.join '/' steps).startsWith "/" = false := by
  rw [String.startsWith_string_eq_false_iff, Text.join, String.toList_ofList]
  cases steps with
  | nil => decide
  | cons step rest =>
      obtain ⟨here, -⟩ := List.forall_mem_cons.mp plain
      obtain ⟨c, chars, shape⟩ := List.exists_cons_of_ne_nil
        (fun empty => here.nonempty (String.toList_inj.mp empty) : step.toList ≠ [])
      have first : ∃ more, Text.joinChars '/' ((step :: rest).map String.toList) = c :: more := by
        cases rest <;> exact ⟨_, by rw [List.map_cons, shape]; rfl⟩
      obtain ⟨more, joined⟩ := first
      rintro ⟨after, same⟩
      rw [joined, String.toList_ofList] at same
      have isSlash : '/' = c := (List.cons.inj same).1
      refine here.whole ?_
      rw [shape, isSlash]
      exact List.mem_cons_self

/-- The plain path of a plain path is the path itself. -/
theorem plainPath?_of_plainPath? {path plain : String} (found : plainPath? path = some plain) :
    plainPath? plain = some plain := by
  rw [plainPath?] at found
  split at found
  case isTrue => cases found
  case isFalse followed =>
    obtain ⟨steps, left, rfl⟩ := Option.map_eq_some_iff.mp found
    have named : ∀ step ∈ Text.split '/' path, step.startsWith "~" = false := by
      simp only [Bool.or_eq_true, not_or, List.any_eq_true, not_exists, not_and] at followed
      exact fun step member => Bool.eq_false_iff.mpr (followed.2 step member)
    have whole : ∀ step ∈ Text.split '/' path, '/' ∉ step.toList :=
      fun step => Text.notMem_of_mem_split
    have plain := isPlainStep_of_plainSteps (List.forall_mem_nil _) named whole left
    by_cases empty : steps = []
    · subst empty
      decide +kernel
    · have again := Text.split_join empty fun step member => (plain step member).whole
      have followed : ¬ ((Text.join '/' steps).startsWith "/" ||
          (Text.split '/' (Text.join '/' steps)).any (·.startsWith "~")) := by
        rw [again, startsWith_join plain, Bool.false_or, List.any_eq_true]
        rintro ⟨step, member, begins⟩
        exact Bool.eq_false_iff.mp (plain step member).named begins
      rw [if_neg (by simpa using empty), plainPath?, if_neg followed, again,
        plainSteps_of_plain plain]
      simp [empty]

/-- A file reads the same under its plain path. -/
theorem content_of_plainPath? (files : Files) (reader : TextReader) {path plain : String}
    (found : plainPath? path = some plain) :
    files.content reader plain = files.content reader path := by
  have again := plainPath?_of_plainPath? found
  have same : files.find? plain = files.find? path := by rw [find?, find?, found, again]
  rw [content, content, read, read, same, found, again, Option.getD_some, Option.getD_some]

/-- A file that can be read has a plain path. -/
theorem exists_plainPath? {files : Files} {reader : TextReader} {path : String} {content : Shared}
    (reads : files.content reader path = .ok content) : ∃ plain, plainPath? path = some plain := by
  cases found : plainPath? path with
  | some plain => exact ⟨plain, rfl⟩
  | none =>
      have missing : files.find? path = none := by rw [find?, found]; rfl
      rw [Files.content, read, missing] at reads
      cases reads

end Files

namespace Settings

/-- The file that stands last for a layer in a table of files. -/
def lastFor (layer : Layer) (table : List (String × Layer)) : Option String :=
  (table.filter fun entry => entry.2 = layer).getLast?.map (·.1)

theorem lastFor_cons (layer : Layer) (entry : String × Layer) (rest : List (String × Layer)) :
    lastFor layer (entry :: rest) =
      (lastFor layer rest).or (if entry.2 = layer then some entry.1 else none) := by
  rw [lastFor, lastFor, List.filter_cons]
  by_cases own : entry.2 = layer
  · rw [if_pos (by simpa using own), if_pos own, List.getLast?_cons]
    cases (rest.filter fun entry => entry.2 = layer).getLast? <;> rfl
  · rw [if_neg (by simpa using own), if_neg own, Option.or_none]

theorem mem_of_lastFor {layer : Layer} {table : List (String × Layer)} {path : String}
    (last : lastFor layer table = some path) : (path, layer) ∈ table := by
  obtain ⟨entry, isLast, rfl⟩ := Option.map_eq_some_iff.mp last
  obtain ⟨member, own⟩ := List.mem_filter.mp (List.mem_of_getLast? isLast)
  have own : entry.2 = layer := by simpa using own
  exact own ▸ member

/-- The files of a table after one is recorded: it stands last if it is new. -/
theorem map_record (path : String) (layer : Layer) (table : List (String × Layer)) :
    (record path layer table).map (·.1) =
      if path ∈ table.map (·.1) then table.map (·.1) else table.map (·.1) ++ [path] := by
  induction table with
  | nil => rfl
  | cons entry rest inductionHypothesis =>
      obtain ⟨other, old⟩ := entry
      rw [record]
      by_cases same : other = path
      · simp [same]
      · rw [if_neg (by simpa using same), List.map_cons, inductionHypothesis]
        simp only [List.map_cons, List.mem_cons, Ne.symm same, false_or]
        split <;> rfl

theorem mem_record {path : String} {layer : Layer} {table : List (String × Layer)}
    {entry : String × Layer} (member : entry ∈ record path layer table) :
    entry = (path, layer) ∨ entry ∈ table := by
  induction table with
  | nil => exact .inl (List.mem_singleton.mp member)
  | cons known rest inductionHypothesis =>
      obtain ⟨other, old⟩ := known
      rw [record] at member
      split at member
      case isTrue same =>
        rcases List.mem_cons.mp member with rfl | later
        · exact .inl (by rw [eq_of_beq same])
        · exact .inr (List.mem_cons_of_mem _ later)
      case isFalse =>
        rcases List.mem_cons.mp member with rfl | later
        · exact .inr List.mem_cons_self
        · exact (inductionHypothesis later).imp_right (List.mem_cons_of_mem _)

/-- Recording a file for the layer that it is recorded for changes nothing. -/
theorem record_of_mem {path : String} {layer : Layer} {table : List (String × Layer)}
    (once : (table.map (·.1)).Nodup) (present : (path, layer) ∈ table) :
    record path layer table = table := by
  induction table with
  | nil => cases present
  | cons entry rest inductionHypothesis =>
      obtain ⟨other, old⟩ := entry
      rw [List.map_cons, List.nodup_cons] at once
      rw [record]
      rcases List.mem_cons.mp present with same | later
      · cases same
        rw [if_pos (beq_self_eq_true path)]
      · have different : other ≠ path := by
          rintro rfl
          exact once.1 (List.mem_map.mpr ⟨_, later, rfl⟩)
        rw [if_neg (by simpa using different), inductionHypothesis once.2 later]

/-- The settings after the files of a table are read: a layer that files stand for holds what the
last of them reads as. -/
def reread (settings : Settings) (reader : TextReader) (files : Files)
    (table : List (String × Layer)) : Settings :=
  { settings with held := fun layer =>
      match lastFor layer table with
      | some path => (files.content reader path).toOption
      | none => settings.held layer }

/-- Reading one more file first puts it under what the others put into the layers. -/
theorem reread_cons (settings : Settings) {reader : TextReader} {files : Files} {path : String}
    {content : Shared} (reads : files.content reader path = .ok content) (layer : Layer)
    (rest : List (String × Layer)) :
    settings.reread reader files ((path, layer) :: rest) =
      (settings.withLayer layer (some content)).reread reader files rest := by
  simp only [reread, withLayer, Settings.mk.injEq, and_true]
  funext other
  rw [lastFor_cons]
  cases lastFor other rest with
  | some last => rfl
  | none =>
      by_cases own : layer = other
      · simp [own, reads, Except.toOption]
      · simp [own, Ne.symm own]

/-- Settings whose files all read as mappings; each stands in the table once, under its plain
path. -/
structure Readable (settings : Settings) (reader : TextReader) (files : Files) : Prop where
  plain : ∀ entry ∈ settings.files, Files.plainPath? entry.1 = some entry.1
  reads : ∀ entry ∈ settings.files, ∃ mark entries,
    files.content reader entry.1 = .ok (.map mark entries)
  once : (settings.files.map (·.1)).Nodup

/-- A file that reads as a mapping becomes the layer and is recorded for it. -/
theorem loadFile_eq_ok_iff {settings after : Settings} {reader : TextReader} {files : Files}
    {path : String} {layer : Layer} : settings.loadFile reader files path layer = .ok after ↔
      ∃ mark entries plain, files.content reader path = .ok (.map mark entries) ∧
        Files.plainPath? path = some plain ∧
        after = { settings.withLayer layer (some (.map mark entries)) with
          files := record plain layer settings.files } := by
  rw [loadFile]
  constructor
  · intro done
    split at done
    case h_1 mark entries reads =>
      obtain ⟨plain, isPlain⟩ := Files.exists_plainPath? reads
      rw [isPlain, Option.getD_some] at done
      cases done
      exact ⟨mark, entries, plain, reads, isPlain, rfl⟩
    case h_2 => cases done
    case h_3 => cases done
  · rintro ⟨mark, entries, plain, reads, isPlain, rfl⟩
    rw [reads, isPlain]
    rfl

namespace Readable

variable {settings : Settings} {reader : TextReader} {files : Files}

theorem of_files_eq_nil (none : settings.files = []) : settings.Readable reader files where
  plain := by simp [none]
  reads := by simp [none]
  once := by simp [none]

/-- Only the table of files matters. -/
theorem congr (readable : settings.Readable reader files) {other : Settings}
    (same : other.files = settings.files) : other.Readable reader files where
  plain := same ▸ readable.plain
  reads := same ▸ readable.reads
  once := same ▸ readable.once

/-- A file that was just read can be read again. -/
theorem loadFile (readable : settings.Readable reader files) {path : String} {layer : Layer}
    {after : Settings} (done : settings.loadFile reader files path layer = .ok after) :
    after.Readable reader files := by
  obtain ⟨mark, entries, plain, reads, isPlain, rfl⟩ := loadFile_eq_ok_iff.mp done
  refine ⟨fun entry member => ?_, fun entry member => ?_, ?_⟩
  · rcases mem_record member with rfl | known
    · exact Files.plainPath?_of_plainPath? isPlain
    · exact readable.plain entry known
  · rcases mem_record member with rfl | known
    · exact ⟨mark, entries, (files.content_of_plainPath? reader isPlain).trans reads⟩
    · exact readable.reads entry known
  · rw [map_record]
    split
    · exact readable.once
    · rename_i fresh
      exact List.nodup_append.mpr ⟨readable.once, List.pairwise_singleton _ _, fun known member last
        isLast same => fresh (by rwa [← List.mem_singleton.mp isLast, ← same])⟩

/-- Reading files of the table leaves the table as it is. -/
theorem loadFiles (readable : settings.Readable reader files) {table : List (String × Layer)}
    (known : ∀ entry ∈ table, entry ∈ settings.files) :
    settings.loadFiles reader files table = (settings.reread reader files table, .ok ()) := by
  induction table generalizing settings with
  | nil => rfl
  | cons entry rest inductionHypothesis =>
      obtain ⟨path, layer⟩ := entry
      obtain ⟨here, others⟩ := List.forall_mem_cons.mp known
      obtain ⟨mark, entries, reads⟩ := readable.reads _ here
      have done : settings.loadFile reader files path layer =
          .ok (settings.withLayer layer (some (.map mark entries))) := by
        refine loadFile_eq_ok_iff.mpr ⟨mark, entries, path, reads, readable.plain _ here, ?_⟩
        rw [record_of_mem readable.once here]
        rfl
      rw [Settings.loadFiles, done, settings.reread_cons reads]
      exact inductionHypothesis (readable.congr rfl) others

/-- Reading the files again always comes to an end of the table. -/
theorem reload (readable : settings.Readable reader files) :
    settings.reload reader files = (settings.reread reader files settings.files, .ok ()) :=
  readable.loadFiles fun _ member => member

end Readable

namespace Action

/-- Whether an action reads files only as they are now, and only one of them. -/
def OnFiles (files : Files) : Action → Prop
  | .loadFile given _ _ => given = files
  | .reload _ => False
  | _ => True

/-- Whether an action can change what a layer holds. -/
def Touches (layer : Layer) : Action → Prop
  | .set _ _ other | .load _ other | .loadFile _ _ other | .clearLayer other => other = layer
  | .loadEnvironment _ => layer = .environment
  | .reload _ | .clear => True

/-- Whether reading a file was the last thing that was done to a layer. -/
def LoadedLast (files : Files) (path : String) (layer : Layer) (actions : List Action) : Prop :=
  ∃ before given after, actions = before ++ .loadFile files given layer :: after ∧
    Files.plainPath? given = some path ∧ ∀ action ∈ after, ¬ action.Touches layer

variable {settings : Settings} {reader : TextReader} {files : Files}

/-- Every single action leaves the files readable. -/
theorem readable_perform (readable : settings.Readable reader files) {action : Action}
    (onFiles : action.OnFiles files) : (action.perform reader settings).Readable reader files := by
  cases action with
  | set key value layer => exact readable.congr rfl
  | load content layer => exact readable.congr rfl
  | loadFile given path layer =>
      cases onFiles
      rw [perform]
      cases done : settings.loadFile reader files path layer with
      | error fault => exact readable
      | ok after => exact readable.loadFile done
  | reload given => exact onFiles.elim
  | loadEnvironment assignments =>
      rw [perform]
      cases done : settings.loadEnvironment assignments with
      | error fault => exact readable
      | ok after =>
          rcases loadEnvironment_cases done with rfl | ⟨content, -, rfl⟩
          · exact readable
          · exact readable.congr rfl
  | clearLayer layer =>
      refine readable.congr ?_
      rw [perform, Settings.clearLayer]
      split <;> rfl
  | clear => exact .of_files_eq_nil rfl

/-- An action that does not touch a layer leaves what it holds. -/
theorem held_perform {action : Action} {layer : Layer} (untouched : ¬ action.Touches layer) :
    (action.perform reader settings).held layer = settings.held layer := by
  cases action with
  | set key value other => exact if_neg (Ne.symm untouched)
  | load content other => exact if_neg (Ne.symm untouched)
  | loadFile given path other =>
      rw [perform]
      cases done : settings.loadFile reader given path other with
      | error fault => rfl
      | ok after =>
          obtain ⟨mark, entries, plain, -, -, rfl⟩ := loadFile_eq_ok_iff.mp done
          exact if_neg (Ne.symm untouched)
  | reload given => exact (untouched trivial).elim
  | loadEnvironment assignments =>
      rw [perform]
      cases done : settings.loadEnvironment assignments with
      | error fault => rfl
      | ok after =>
          rcases loadEnvironment_cases done with rfl | ⟨content, -, rfl⟩
          · rfl
          · exact if_neg untouched
  | clearLayer other =>
      rw [perform, Settings.clearLayer]
      split
      · rfl
      · exact if_neg (Ne.symm untouched)
  | clear => exact (untouched trivial).elim

/-- Nor do several. -/
theorem held_of_actions {actions : List Action} {layer : Layer}
    (untouched : ∀ action ∈ actions, ¬ action.Touches layer) :
    (actions.foldl (perform reader) settings).held layer = settings.held layer :=
  List.foldlRecOn (motive := fun after => after.held layer = settings.held layer) actions
    (perform reader) rfl
    fun _ kept action member => (held_perform (untouched action member)).trans kept

/-- After any actions from the defaults on, the files that were read can be read again. -/
theorem readable_of_actions {actions : List Action}
    (onFiles : ∀ action ∈ actions, action.OnFiles files) :
    (actions.foldl (perform reader) initial).Readable reader files :=
  List.foldlRecOn (motive := fun after => after.Readable reader files) actions (perform reader)
    (.of_files_eq_nil rfl)
    fun _ readable action member => readable_perform readable (onFiles action member)

/-- A layer that a file was read as, and that was not touched since, holds what the file reads
as. -/
theorem held_of_loadedLast {actions : List Action} {path : String} {layer : Layer}
    {mark : Option Nat} {entries : List (Value × Shared)}
    (last : LoadedLast files path layer actions)
    (reads : files.content reader path = .ok (.map mark entries)) :
    (actions.foldl (perform reader) settings).held layer = some (.map mark entries) := by
  obtain ⟨before, given, after, rfl, isPlain, untouched⟩ := last
  have readsGiven := (files.content_of_plainPath? reader isPlain).symm.trans reads
  rw [List.foldl_append, List.foldl_cons, held_of_actions untouched, perform,
    loadFile_eq_ok_iff.mpr ⟨mark, entries, path, readsGiven, isPlain, rfl⟩]
  exact if_pos rfl

end Action

/-- Reading again, after any actions from the defaults on and while the files stay as they are,
never fails: a layer that files were read as becomes what the last of the table reads as. If reading
that file was the last thing that was done to the layer, for every such layer, nothing changes at
all. -/
theorem reload_of_actions {reader : TextReader} {files : Files} {actions : List Action}
    (onFiles : ∀ action ∈ actions, action.OnFiles files) :
    let settings := actions.foldl (Action.perform reader) initial
    settings.reload reader files = (settings.reread reader files settings.files, .ok ()) ∧
      ((∀ layer path, lastFor layer settings.files = some path →
          Action.LoadedLast files path layer actions) →
        settings.reload reader files = (settings, .ok ())) := by
  intro settings
  have readable : settings.Readable reader files := Action.readable_of_actions onFiles
  refine ⟨readable.reload, fun loadedLast => ?_⟩
  have same : settings.reread reader files settings.files = settings := by
    rw [reread]
    congr 1
    funext layer
    cases last : lastFor layer settings.files with
    | none => rfl
    | some path =>
        obtain ⟨mark, entries, reads⟩ := readable.reads _ (mem_of_lastFor last)
        rw [Action.held_of_loadedLast (loadedLast layer path last) reads]
        exact congrArg Except.toOption reads
  rw [readable.reload, same]

/-- Two files with the same key. -/
def twoFiles : Files :=
  [("a.yaml", .text "\"key\": \"first\"\n"), ("b.yaml", .text "\"key\": \"second\"\n")]

theorem reload_of_actions_of_twoFiles :
    let actions := [Action.loadFile twoFiles "a.yaml" .user, .loadFile twoFiles "b.yaml" .user]
    (∀ action ∈ actions, action.OnFiles twoFiles) ∧
      (actions.foldl (Action.perform Yaml.reader) initial).reload Yaml.reader twoFiles =
        (actions.foldl (Action.perform Yaml.reader) initial, .ok ()) := by
  intro actions
  have onFiles : ∀ action ∈ actions, action.OnFiles twoFiles := by simp [actions, Action.OnFiles]
  refine ⟨onFiles, (reload_of_actions onFiles).2 fun layer path last => ?_⟩
  have table : (actions.foldl (Action.perform Yaml.reader) initial).files =
      [("a.yaml", .user), ("b.yaml", .user)] := by
    decide +kernel
  rw [table] at last
  have isUser : layer = .user ∧ path = "b.yaml" := by
    cases layer <;> cases last
    exact ⟨rfl, rfl⟩
  obtain ⟨rfl, rfl⟩ := isUser
  exact ⟨[_], "b.yaml", [], rfl, by decide +kernel, by simp⟩

/-- A layer that was taken away comes back, as its file is still in the table. -/
theorem reload_restores_layer :
    let settings := [Action.loadFile twoFiles "a.yaml" .user, .clearLayer .user].foldl
      (Action.perform Yaml.reader) initial
    settings.get? "key" = none ∧ (settings.reload Yaml.reader twoFiles).1.get? "key" ≠ none := by
  dsimp only
  simp only [← Option.isSome_iff_ne_none, ← Option.isNone_iff_eq_none]
  decide +kernel

/-- A file that is read again is not the last of the table for that. -/
example : lastFor .user ([Action.loadFile twoFiles "a.yaml" .user,
    .loadFile twoFiles "b.yaml" .user, .loadFile twoFiles "a.yaml" .user].foldl
      (Action.perform Yaml.reader) initial).files = some "b.yaml" := by
  decide +kernel

end Settings

end Structex
