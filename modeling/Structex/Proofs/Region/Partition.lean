import Mathlib.Data.List.Chain
import Structex.Command.Selection
import Structex.Proofs.Match.Order

/-!
# One partition for all commands

The regions of a text are a partition of it: they touch, they cover it, and between two matches
there is at most one gap, which is not empty. Every command that a pattern selects for, the list
of matches and their replacement by a function of the groups are read off this one list, each by a
rule that does not look at offsets again.
-/

namespace Structex

namespace Region

/-- Regions that touch, from one offset up to another. -/
def Tiles : (start : Nat) → List Region → (stop : Nat) → Prop
  | start, [], stop => start = stop
  | start, region :: rest, stop =>
    region.start = start ∧ region.start ≤ region.stop ∧ Tiles region.stop rest stop

/-- Regions are a partition of a text: they cover it from its start to its end, each with its own
slice, no gap is empty, and no two gaps touch. -/
structure Partition (text : String) (regions : List Region) : Prop where
  tiles : Tiles 0 regions text.length
  slices : ∀ region ∈ regions, region.text = Text.slice text region.start region.stop
  gapsNonempty : ∀ region ∈ regions, region.kind = .between → region.start < region.stop
  gapsApart : regions.IsChain fun left right => left.kind = .between → right.kind = .matched

/-- The last region that touches ends no earlier than the first begins. -/
theorem Tiles.le {start stop : Nat} {regions : List Region} (tiles : Tiles start regions stop) :
    start ≤ stop := by
  induction regions generalizing start with
  | nil => exact Nat.le_of_eq tiles
  | cons region rest inductionHypothesis =>
      obtain ⟨rfl, forward, touching⟩ := tiles
      exact Nat.le_trans forward (inductionHypothesis touching)

/-- Regions that touch and hold their slices put together are the slice that they cover. -/
theorem Tiles.join_text {text : String} {start stop : Nat} {regions : List Region}
    (tiles : Tiles start regions stop)
    (slices : ∀ region ∈ regions, region.text = Text.slice text region.start region.stop) :
    String.join (regions.map (·.text)) = Text.slice text start stop := by
  induction regions generalizing start with
  | nil =>
      obtain rfl := tiles
      simp
  | cons region rest inductionHypothesis =>
      obtain ⟨rfl, forward, touching⟩ := tiles
      have others := inductionHypothesis touching fun other isOther =>
        slices other (List.mem_cons_of_mem _ isOther)
      rw [List.map_cons, String.join_cons, others, slices region List.mem_cons_self,
        Text.slice_append forward touching.le]

/-- The regions of a partition put together are the text. -/
theorem Partition.join_text {text : String} {regions : List Region}
    (partition : Partition text regions) : String.join (regions.map (·.text)) = text := by
  rw [partition.tiles.join_text partition.slices, Text.slice_all]

/-- The gap before an offset, none if it would be empty. -/
def gapBefore (text : String) (last start : Nat) : List Region :=
  if last < start then [gap text last start] else []

theorem regionsFrom_cons (text : String) (last : Nat) (found : Match) (rest : List Match) :
    regionsFrom text last (found :: rest) =
      gapBefore text last found.start ++ ofMatch found :: regionsFrom text found.stop rest :=
  rfl

theorem regionsFrom_nil (text : String) (last : Nat) :
    regionsFrom text last [] = gapBefore text last text.length :=
  rfl

/-- The regions between matches in order touch up to the end of the text. -/
theorem regionsFrom_tiles {text : String} {last : Nat} {found : List Match}
    (within : last ≤ text.length) (follow : Match.Follow text last found) :
    Tiles last (regionsFrom text last found) text.length := by
  induction found generalizing last with
  | nil =>
      rw [regionsFrom_nil, gapBefore]
      split
      · exact ⟨rfl, within, rfl⟩
      · show last = text.length
        omega
  | cons first rest inductionHypothesis =>
      obtain ⟨begins, ends, inside, -, others⟩ := follow
      have tail := inductionHypothesis inside others
      rw [regionsFrom_cons, gapBefore]
      split
      · exact ⟨rfl, begins, rfl, ends, tail⟩
      · have touching : last = first.start := by omega
        exact ⟨touching.symm, ends, tail⟩

/-- Every region holds its slice of the text, and a gap is not empty. -/
theorem regionsFrom_slices {text : String} {last : Nat} {found : List Match}
    (follow : Match.Follow text last found) :
    ∀ region ∈ regionsFrom text last found,
      region.text = Text.slice text region.start region.stop ∧
        (region.kind = .between → region.start < region.stop) := by
  have gaps : ∀ {last start : Nat}, ∀ region ∈ gapBefore text last start,
      region.text = Text.slice text region.start region.stop ∧
        (region.kind = .between → region.start < region.stop) := by
    intro last start region isGap
    rw [gapBefore] at isGap
    split at isGap
    · rename_i before
      obtain rfl := List.mem_singleton.mp isGap
      exact ⟨rfl, fun _ => before⟩
    · cases isGap
  induction found generalizing last with
  | nil => exact gaps
  | cons first rest inductionHypothesis =>
      obtain ⟨-, -, -, slice, others⟩ := follow
      intro region isRegion
      rw [regionsFrom_cons, List.mem_append, List.mem_cons] at isRegion
      rcases isRegion with isGap | rfl | isLater
      · exact gaps region isGap
      · exact ⟨slice, fun isGap => by cases isGap⟩
      · exact inductionHypothesis others region isLater

/-- After a gap comes a match. -/
theorem regionsFrom_gapsApart (text : String) (last : Nat) (found : List Match) :
    (regionsFrom text last found).IsChain
      fun left right => left.kind = .between → right.kind = .matched := by
  induction found generalizing last with
  | nil =>
      rw [regionsFrom_nil, gapBefore]
      split <;> simp
  | cons first rest inductionHypothesis =>
      have afterMatch : (ofMatch first :: regionsFrom text first.stop rest).IsChain
          fun left right => left.kind = .between → right.kind = .matched := by
        have tail := inductionHypothesis first.stop
        cases shape : regionsFrom text first.stop rest with
        | nil => exact List.isChain_singleton _
        | cons second others =>
            rw [shape] at tail
            exact List.isChain_cons_cons.mpr ⟨(fun isGap => by cases isGap), tail⟩
      rw [regionsFrom_cons, gapBefore]
      split
      · exact List.isChain_cons_cons.mpr ⟨fun _ => rfl, afterMatch⟩
      · exact afterMatch

/-- The regions of a pattern are a partition of the text. -/
theorem regions_partition (pattern : Regex.Pattern) (text : String) :
    Partition text (pattern.regions text) where
  tiles := regionsFrom_tiles (Nat.zero_le _) (pattern.findMatches_follow text)
  slices region isRegion :=
    (regionsFrom_slices (pattern.findMatches_follow text) region isRegion).1
  gapsNonempty region isRegion :=
    (regionsFrom_slices (pattern.findMatches_follow text) region isRegion).2
  gapsApart := regionsFrom_gapsApart text 0 _

section

variable {m : Type → Type} [Monad m]

/-- What is put for a region when only regions of one kind are rewritten. -/
def putOn (kind : RegionKind) (put : Region → m String) (region : Region) : m String :=
  if region.kind = kind then put region else pure region.text

/-- Regions put together again with those of one kind rewritten. -/
def rewrite (kind : RegionKind) (put : Region → m String) (regions : List Region) : m String :=
  String.join <$> regions.mapM (putOn kind put)

/-- Regions put together again with the first match rewritten. -/
def rewriteFirst (put : Region → m String) : List Region → m String
  | [] => pure ""
  | region :: rest =>
    if region.kind = .matched then (· ++ String.join (rest.map (·.text))) <$> put region
    else (region.text ++ ·) <$> rewriteFirst put rest

variable [LawfulMonad m]

theorem rewrite_nil (kind : RegionKind) (put : Region → m String) :
    rewrite kind put [] = pure "" := by
  simp [rewrite]

theorem rewrite_cons (kind : RegionKind) (put : Region → m String) (region : Region)
    (rest : List Region) :
    rewrite kind put (region :: rest) = do
      let first ← putOn kind put region
      let others ← rewrite kind put rest
      return first ++ others := by
  simp [rewrite, String.join_cons]

/-- Rewriting a region to its own text changes nothing. -/
theorem rewrite_text (kind : RegionKind) (regions : List Region) :
    rewrite (m := m) kind (fun region => pure region.text) regions =
      pure (String.join (regions.map (·.text))) := by
  induction regions with
  | nil => simp [rewrite_nil]
  | cons region rest inductionHypothesis =>
      have kept : putOn (m := m) kind (fun region => pure region.text) region =
          pure region.text := by
        rw [putOn]
        split <;> rfl
      simp [rewrite_cons, kept, inductionHypothesis, String.join_cons]

/-- A gap before a match is kept when matches are rewritten. -/
theorem rewrite_matched_gapBefore (text : String) {last start : Nat} (before : last ≤ start)
    (put : Region → m String) (rest : List Region) :
    rewrite .matched put (gapBefore text last start ++ rest) =
      (Text.slice text last start ++ ·) <$> rewrite .matched put rest := by
  rw [gapBefore]
  split
  · simp [rewrite_cons, putOn, gap]
  · have touching : last = start := by omega
    simp [touching]

/-- A gap before a match is rewritten when gaps are, unless it is empty. -/
theorem rewrite_between_gapBefore (text : String) (last start : Nat) (put : Region → m String)
    (rest : List Region) :
    rewrite .between put (gapBefore text last start ++ rest) = do
      let first ← if last < start then put (gap text last start) else pure ""
      let others ← rewrite .between put rest
      return first ++ others := by
  rw [gapBefore]
  split
  · simp [rewrite_cons, putOn, gap]
  · have nothing : (fun others : String => "" ++ others) = id := funext fun _ => by simp
    simp [nothing]

end

end Region

open Region

section

variable {m : Type → Type} [Monad m] [LawfulMonad m]

namespace Regex.Pattern

/-- Replacing matches is rewriting the regions of matches. -/
theorem replaceFrom_eq_rewrite {text : String} {last : Nat} {found : List Match}
    (within : last ≤ text.length) (follow : Match.Follow text last found)
    (put : Region → m String) :
    replaceFrom text (fun found => put (ofMatch found)) last found =
      rewrite .matched put (regionsFrom text last found) := by
  induction found generalizing last with
  | nil =>
      have alone := rewrite_matched_gapBefore text within put []
      rw [List.append_nil, rewrite_nil] at alone
      rw [regionsFrom_nil, alone]
      simp [replaceFrom]
  | cons first rest inductionHypothesis =>
      obtain ⟨begins, ends, inside, -, others⟩ := follow
      rw [regionsFrom_cons, rewrite_matched_gapBefore text begins, rewrite_cons,
        ← inductionHypothesis inside others]
      simp [replaceFrom, putOn, ofMatch, String.append_assoc]

end Regex.Pattern

namespace Command

/-- Applying a command to gaps is rewriting the regions between matches. -/
theorem gapsFrom_eq_rewrite (text : String) (command : Command m) (last : Nat)
    (found : List Match) :
    gapsFrom text command last found =
      rewrite .between (fun region => command region.text) (regionsFrom text last found) := by
  induction found generalizing last with
  | nil =>
      have alone := rewrite_between_gapBefore text last text.length
        (fun region => command region.text) []
      rw [List.append_nil, rewrite_nil] at alone
      rw [regionsFrom_nil, alone]
      simp [gapsFrom, gap]
  | cons first rest inductionHypothesis =>
      rw [regionsFrom_cons, rewrite_between_gapBefore, rewrite_cons,
        ← inductionHypothesis first.stop]
      simp [gapsFrom, gap, putOn, ofMatch, String.append_assoc]

/-- Before the first match there is at most one gap, which is kept. -/
theorem rewriteFirst_gapBefore (text : String) {last start : Nat} (before : last ≤ start)
    (put : Region → m String) (rest : List Region) :
    rewriteFirst put (gapBefore text last start ++ rest) =
      (Text.slice text last start ++ ·) <$> rewriteFirst put rest := by
  rw [gapBefore]
  split
  · simp [rewriteFirst, gap]
  · have touching : last = start := by omega
    simp [touching]

/-- A command on all matches rewrites the regions of matches. -/
theorem onMatches_eq_rewrite (pattern : Regex.Pattern) (command : Command m) (text : String) :
    onMatches pattern command text =
      rewrite .matched (fun region => command region.text) (pattern.regions text) :=
  Regex.Pattern.replaceFrom_eq_rewrite (Nat.zero_le _) (pattern.findMatches_follow text)
    fun region => command region.text

/-- A command on the first match rewrites the first region of a match. -/
theorem onFirstMatch_eq_rewriteFirst (pattern : Regex.Pattern) (command : Command m)
    (text : String) :
    onFirstMatch pattern command text =
      rewriteFirst (fun region => command region.text) (pattern.regions text) := by
  have follow := pattern.findMatches_follow text
  rw [onFirstMatch, ← Regex.Pattern.head?_findMatches, Regex.Pattern.regions]
  cases shape : pattern.findMatches text with
  | nil =>
      have alone := rewriteFirst_gapBefore (m := m) text (Nat.zero_le text.length)
        (fun region => command region.text) []
      rw [List.append_nil] at alone
      rw [regionsFrom_nil, alone]
      simp [rewriteFirst]
  | cons first rest =>
      rw [shape] at follow
      obtain ⟨begins, ends, inside, slice, others⟩ := follow
      have after : String.join ((regionsFrom text first.stop rest).map (·.text)) =
          Text.slice text first.stop text.length :=
        (regionsFrom_tiles inside others).join_text fun region isRegion =>
          (regionsFrom_slices others region isRegion).1
      rw [regionsFrom_cons, rewriteFirst_gapBefore text begins]
      simp [rewriteFirst, ofMatch, after, String.append_assoc]

/-- A command on the gaps rewrites the regions between matches; only a text that is empty and not
matched is no region, and it is given to the command as it is. -/
theorem onGaps_eq_rewrite (pattern : Regex.Pattern) (command : Command m) (text : String) :
    onGaps pattern command text =
      if text = "" ∧ pattern.containsMatch text = false then command ""
      else rewrite .between (fun region => command region.text) (pattern.regions text) := by
  have unmatched := pattern.findMatches_eq_nil_iff text
  rw [onGaps, Regex.Pattern.regions]
  simp only [← unmatched]
  cases shape : pattern.findMatches text with
  | nil =>
      by_cases isEmpty : text = ""
      · simp [isEmpty]
      · have positive : 0 < text.length := by
          rw [← String.length_toList]
          exact List.length_pos_iff.mpr fun none => isEmpty (String.toList_eq_nil_iff.mp none)
        have whole : regionsFrom text 0 [] = [gap text 0 text.length] := by
          rw [regionsFrom_nil, gapBefore, if_pos positive]
        simp [isEmpty, whole, rewrite_cons, rewrite_nil, putOn, gap]
  | cons first rest =>
      rw [if_neg (by simp)]
      exact gapsFrom_eq_rewrite text command 0 (first :: rest)

end Command

/-- The regions of matches are the matches. -/
theorem Region.filter_matched_regionsFrom (text : String) (last : Nat) (found : List Match) :
    (regionsFrom text last found).filter (·.kind = .matched) = found.map ofMatch := by
  have gaps : ∀ last start, (gapBefore text last start).filter (·.kind = .matched) = [] := by
    intro last start
    rw [gapBefore]
    split <;> simp [gap]
  induction found generalizing last with
  | nil => exact gaps last text.length
  | cons first rest inductionHypothesis =>
      rw [regionsFrom_cons, List.filter_append, gaps, List.nil_append,
        List.filter_cons_of_pos (by simp [ofMatch]), inductionHypothesis, List.map_cons]

/-- All commands that a pattern selects for agree on one partition of the text: they rewrite its
matches, its first match or its gaps, and list its matches. -/
theorem Regex.Pattern.commands_agree_on_regions (pattern : Regex.Pattern) (text : String)
    (onMatch onGap : Command m) (build : String → List (Option String) → m String) :
    Partition text (pattern.regions text) ∧
    Command.onMatches pattern onMatch text =
      rewrite .matched (fun region => onMatch region.text) (pattern.regions text) ∧
    pattern.transform build text =
      rewrite .matched (fun region => build region.text (region.groups.getD []))
        (pattern.regions text) ∧
    Command.onFirstMatch pattern onMatch text =
      rewriteFirst (fun region => onMatch region.text) (pattern.regions text) ∧
    Command.mapMatches pattern onMatch text =
      ((pattern.regions text).filter (·.kind = .matched)).mapM
        (fun region => onMatch region.text) ∧
    pattern.extract text =
      ((pattern.regions text).filter (·.kind = .matched)).map (·.text) ∧
    Command.onGaps pattern onGap text =
      (if text = "" ∧ pattern.containsMatch text = false then onGap ""
      else rewrite .between (fun region => onGap region.text) (pattern.regions text)) ∧
    Command.onMatches pattern Command.keep text = (pure text : m String) ∧
    Command.onGaps pattern Command.keep text = (pure text : m String) := by
  have partition := regions_partition pattern text
  have matched : (pattern.regions text).filter (·.kind = .matched) =
      (pattern.findMatches text).map ofMatch := filter_matched_regionsFrom text 0 _
  have kept : ∀ kind, rewrite (m := m) kind (fun region => Command.keep region.text)
      (pattern.regions text) = pure text := by
    intro kind
    have same := rewrite_text (m := m) kind (pattern.regions text)
    rwa [partition.join_text] at same
  refine ⟨partition, Command.onMatches_eq_rewrite pattern onMatch text, ?_,
    Command.onFirstMatch_eq_rewriteFirst pattern onMatch text, ?_, ?_,
    Command.onGaps_eq_rewrite pattern onGap text, ?_, ?_⟩
  · exact replaceFrom_eq_rewrite (Nat.zero_le _) (pattern.findMatches_follow text)
      fun region => build region.text (region.groups.getD [])
  · rw [matched, Command.mapMatches, List.mapM_map]
    rfl
  · rw [matched, extract, List.map_map]
    rfl
  · rw [Command.onMatches_eq_rewrite, kept]
  · rw [Command.onGaps_eq_rewrite, kept]
    split
    · rename_i nothing
      rw [nothing.1]
      rfl
    · rfl

end

/-- The pattern of any number of letters `a`, which also matches the empty text. -/
def lettersPattern : Regex.Pattern where
  source := "a*"
  flags := { unicode := true }
  groups := 0
  names := []
  node := .iterate .greedy 0 none (.one ⟨false, .exact, [.literal 97]⟩)

/-- A text with empty matches at both ends, a match that touches one, and two gaps. -/
theorem Regex.Pattern.commands_agree_on_letters :
    (lettersPattern.regions "baac").map (fun region => (region.kind, region.text)) =
      [(.matched, ""), (.between, "b"), (.matched, "aa"), (.matched, ""), (.between, "c"),
        (.matched, "")] ∧
    Command.onMatches (m := Id) lettersPattern (fun text => "<" ++ text ++ ">") "baac" =
      "<>b<aa><>c<>" ∧
    Command.onGaps (m := Id) lettersPattern (fun text => "<" ++ text ++ ">") "baac" =
      "<b>aa<c>" := by
  obtain ⟨-, onMatches, -, -, -, -, onGaps, -⟩ := lettersPattern.commands_agree_on_regions
    (m := Id) "baac" (fun text => "<" ++ text ++ ">") (fun text => "<" ++ text ++ ">")
    (fun text _ => text)
  exact ⟨by rfl, onMatches.trans (by rfl), onGaps.trans (by rfl)⟩

end Structex
