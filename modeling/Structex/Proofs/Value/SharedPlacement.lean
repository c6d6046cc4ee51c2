import Structex.Proofs.Value.Sharing

/-!
# Putting something into shared mappings

What is put under a path is put into the last mapping that the path goes through, and that mapping
stands in all places of its mark. So other paths lead to what was put as well: those that come to
the same marked mapping and go on alike (`SameEntry`). All that lies apart from these paths stays,
unless it has the mapping in it (`Involves`), as a list may have. Afterwards the places of a mark
still hold the same, if what is put brings no mark that is there already.
-/

namespace Structex.Shared

variable {content item new changed : Shared} {entries : List (Value × Shared)} {mark : Nat}

/-! ## The last marked mapping on the way -/

/-- Where no marked mapping is on the way, the path goes through none. -/
theorem not_leadsTo_of_home? {path : List String} (free : content.home? path = none)
    {before rest : List String} (split : path = before ++ rest) (goesOn : rest ≠ []) (mark : Nat) :
    ¬ content.LeadsTo before mark := by
  induction path generalizing content before with
  | nil => exact absurd (List.append_eq_nil_iff.mp split.symm).2 goesOn
  | cons part path inductionHypothesis =>
      rintro ⟨inner, reached⟩
      cases content with
      | map own entries =>
          obtain ⟨freeBelow, freeHere⟩ := Option.or_eq_none_iff.mp free
          cases before with
          | nil =>
              cases reached
              cases freeHere
          | cons first before =>
              obtain ⟨rfl, tails⟩ := List.cons.inj split
              obtain ⟨item, held, further⟩ := Option.bind_eq_some_iff.mp reached
              rw [held] at freeBelow
              exact inductionHypothesis freeBelow tails ⟨inner, further⟩
      | _ =>
          cases before with
          | nil => cases reached
          | cons first before => cases reached

/-- The last marked mapping on the way to a path: the path leads to it and goes on, and every other
place of a mark on the way comes before. -/
structure IsHome (content : Shared) (path : List String) (mark : Nat) (held : Shared)
    (before rest : List String) : Prop where
  split : path = before ++ rest
  goesOn : rest ≠ []
  reached : content.at? before = some held
  isMap : ∃ entries, held = .map (some mark) entries
  last : ∀ {earlier more : List String} {other : Nat}, path = earlier ++ more → more ≠ [] →
    content.LeadsTo earlier other → earlier <+: before

theorem isHome_of_home? {path rest : List String} {held : Shared}
    (found : content.home? path = some (mark, held, rest)) :
    ∃ before, content.IsHome path mark held before rest := by
  induction path generalizing content with
  | nil => cases found
  | cons part path inductionHypothesis =>
      cases content with
      | map own entries =>
          rw [home?] at found
          cases below : (get? entries part).bind (home? path) with
          | some home =>
              rw [below, Option.some_or] at found
              cases found
              obtain ⟨item, here, further⟩ := Option.bind_eq_some_iff.mp below
              obtain ⟨before, home⟩ := inductionHypothesis further
              refine ⟨part :: before, by rw [home.split, List.cons_append], home.goesOn, ?_,
                home.isMap, ?_⟩
              · rw [at?, here]
                exact home.reached
              · intro earlier more other split goesOn leads
                cases earlier with
                | nil => exact List.nil_prefix
                | cons first earlier =>
                    obtain ⟨rfl, tails⟩ := List.cons.inj split
                    obtain ⟨inner, reached⟩ := leads
                    obtain ⟨item', here', reached⟩ := Option.bind_eq_some_iff.mp reached
                    cases here.symm.trans here'
                    exact List.cons_prefix_cons.mpr
                      ⟨rfl, home.last tails goesOn ⟨inner, reached⟩⟩
          | none =>
              rw [below, Option.none_or] at found
              obtain ⟨own, rfl, same⟩ := Option.map_eq_some_iff.mp found
              cases same
              refine ⟨[], rfl, List.cons_ne_nil _ _, rfl, ⟨entries, rfl⟩, ?_⟩
              intro earlier more other split goesOn leads
              cases earlier with
              | nil => exact List.nil_prefix
              | cons first earlier =>
                  obtain ⟨rfl, tails⟩ := List.cons.inj split
                  obtain ⟨inner, reached⟩ := leads
                  obtain ⟨item, here, reached⟩ := Option.bind_eq_some_iff.mp reached
                  rw [here] at below
                  exact absurd ⟨inner, reached⟩ (not_leadsTo_of_home? below tails goesOn other)
      | _ => cases found

/-! ## Putting something under a path -/

/-- The other path leads to the entry that the path leads to: it is the same path, or both go on
alike from places of one mark. -/
def SameEntry (content : Shared) (path other : List String) : Prop :=
  other = path ∨ ∃ mark before beforeOther rest, rest ≠ [] ∧ path = before ++ rest ∧
    other = beforeOther ++ rest ∧ content.LeadsTo before mark ∧ content.LeadsTo beforeOther mark

/-- In what the other path leads to stands a marked mapping that the path goes through. -/
def Involves (content : Shared) (path other : List String) : Prop :=
  ∃ mark before rest held entries, rest ≠ [] ∧ path = before ++ rest ∧
    content.LeadsTo before mark ∧ content.at? other = some held ∧
    Occurs (.map (some mark) entries) held

/-- Where nothing is shared, only the path itself leads to its entry. -/
theorem Unmarked.sameEntry_iff (unmarked : content.Unmarked) {path other : List String} :
    content.SameEntry path other ↔ other = path := by
  refine ⟨fun same => ?_, .inl⟩
  rcases same with isPath | ⟨mark, before, -, -, -, -, -, ⟨entries, reached⟩, -⟩
  · exact isPath
  · exact (unmarked (occurs_of_at? reached)).elim

theorem Unmarked.not_involves (unmarked : content.Unmarked) (path other : List String) :
    ¬ content.Involves path other := by
  rintro ⟨mark, before, -, -, -, -, -, ⟨entries, reached⟩, -⟩
  exact unmarked (occurs_of_at? reached)

theorem mem_contents_put {key : Value} (member : item ∈ (put entries key new).map (·.2)) :
    item = new ∨ item ∈ entries.map (·.2) := by
  induction entries with
  | nil => exact .inl (List.mem_singleton.mp member)
  | cons entry rest inductionHypothesis =>
      obtain ⟨other, old⟩ := entry
      rw [put] at member
      split at member
      case isTrue =>
        rw [List.map_cons, List.mem_cons] at member ⊢
        exact member.imp_right .inr
      case isFalse =>
        rw [List.map_cons, List.mem_cons] at member ⊢
        rcases member with here | later
        · exact .inr (.inl here)
        · exact (inductionHypothesis later).imp_right .inr

/-- A mapping stays one, with its mark, if something is put below it. -/
theorem exists_map_of_putAt {path : List String} (goesOn : path ≠ []) {own : Option Nat}
    (done : putAt new path (.map own entries) = .ok changed) :
    ∃ made, changed = .map own made := by
  obtain ⟨part, rest, rfl⟩ := List.exists_cons_of_ne_nil goesOn
  obtain ⟨inner, -, same⟩ := bind_eq_ok_iff.mp done
  cases same
  exact ⟨_, rfl⟩

/-- A marked mapping of what comes of putting something in one place is of what was put, stood in
what it was put into, or is one on the way, with what was put in it. -/
theorem occurs_putAt {path : List String} {result : Shared}
    (done : putAt new path content = .ok result)
    (occurs : Occurs (.map (some mark) entries) result) :
    Occurs (.map (some mark) entries) new ∨
      (∃ item ∈ content.contents, Occurs (.map (some mark) entries) item) ∨
      ∃ before rest, rest ≠ [] ∧ path = before ++ rest ∧ content.LeadsTo before mark ∧
        (before = [] → result = .map (some mark) entries) := by
  induction path generalizing content result with
  | nil =>
      cases done
      exact .inl occurs
  | cons part rest inductionHypothesis =>
      cases content with
      | map own known =>
          obtain ⟨inner, lower, same⟩ := bind_eq_ok_iff.mp done
          cases same
          cases occurs with
          | here =>
              exact .inr (.inr ⟨[], part :: rest, List.cons_ne_nil _ _, rfl, ⟨known, rfl⟩,
                fun _ => rfl⟩)
          | within member inside =>
              rcases mem_contents_put member with rfl | old
              · cases held : get? known part with
                | none =>
                    rw [held, Option.getD_none] at lower
                    rcases inductionHypothesis lower inside with ofNew | ⟨item, none, -⟩ | onWay
                    · exact .inl ofNew
                    · cases none
                    · obtain ⟨before, more, -, -, ⟨_, reached⟩, -⟩ := onWay
                      cases before <;> cases reached
                | some item =>
                    rw [held, Option.getD_some] at lower
                    have present := mem_contents_of_get? held own
                    rcases inductionHypothesis lower inside with ofNew | ⟨old, stands, deep⟩ | onWay
                    · exact .inl ofNew
                    · exact .inr (.inl ⟨item, present, .within stands deep⟩)
                    · obtain ⟨before, more, goesOn, rfl, ⟨others, reached⟩, -⟩ := onWay
                      refine .inr (.inr ⟨part :: before, more, goesOn, rfl, ⟨others, ?_⟩,
                        fun absurd => nomatch absurd⟩)
                      rw [at?, held]
                      exact reached
              · exact .inr (.inl ⟨_, old, inside⟩)
      | _ => cases rest <;> cases done

section Assigned

variable {path : List String} {result : Shared}

/-- Going along a path step by step either comes to its end or changes nothing. -/
theorem assignInPlace_eq (consistent : content.Consistent) (new : Shared) (path : List String) :
    assignInPlace new path content =
      match assign new path content with
      | .ok result => (result, .ok ())
      | .error fault => (content, .error fault) := by
  rw [assignInPlace, assign]
  cases found : content.home? path with
  | none => exact putInPlace_eq new path content
  | some home =>
      obtain ⟨mark, held, rest⟩ := home
      obtain ⟨before, home⟩ := isHome_of_home? found
      obtain ⟨entries, rfl⟩ := home.isMap
      dsimp only
      rw [putInPlace_eq]
      cases putAt new rest (.map (some mark) entries) with
      | ok changed => rfl
      | error fault =>
          have same : spread mark (.map (some mark) entries) content = content :=
            spread_eq_self fun others occurs =>
              congrArg (map (some mark)) (consistent occurs (occurs_of_at? home.reached))
          exact congrArg (fun kept => (kept, Except.error fault)) same

/-- What has become of a value on the way to a path has each key of a mapping once. -/
theorem hasDistinctKeys_of_assigned (inner : new.value.HasDistinctKeys)
    (distinct : content.value.HasDistinctKeys) (path : List String) :
    (assignInPlace new path content).1.value.HasDistinctKeys := by
  have placed {path : List String} {content : Shared} (distinct : content.value.HasDistinctKeys) :
      (putInPlace new path content).1.value.HasDistinctKeys := by
    rw [putInPlace_eq]
    cases done : putAt new path content with
    | ok result => exact inner.putAt distinct (putAt_eq_ok done)
    | error fault => exact distinct
  rw [assignInPlace]
  cases found : content.home? path with
  | none => exact placed distinct
  | some home =>
      obtain ⟨mark, held, rest⟩ := home
      obtain ⟨before, home⟩ := isHome_of_home? found
      have reached : Value.at? before content.value = some held.value := by
        rw [at?_value, home.reached, Option.map_some]
      exact hasDistinctKeys_spread (placed (distinct.of_at? reached)) distinct

/-- Something can be put under a path unless something is in the way to it. -/
theorem exists_assign_iff :
    (∃ result, assign new path content = .ok result) ↔ ¬ Value.Blocks path content.value := by
  rw [assign]
  cases found : content.home? path with
  | none => exact exists_putAt_iff
  | some home =>
      obtain ⟨mark, held, rest⟩ := home
      obtain ⟨before, home⟩ := isHome_of_home? found
      have reached : Value.at? before content.value = some held.value := by
        rw [at?_value, home.reached, Option.map_some]
      rw [home.split, Value.blocks_append_iff reached, ← @exists_putAt_iff held new]
      dsimp only
      cases putAt new rest held <;> simp [bind, Except.bind, pure, Except.pure]

/-- What is put under a path stands under all paths to the same entry. -/
theorem at?_assign_of_sameEntry (consistent : content.Consistent)
    (done : assign new path content = .ok result) {other : List String}
    (same : content.SameEntry path other) : (result.at? other).map value = some new.value := by
  rw [assign] at done
  cases found : content.home? path with
  | none =>
      rw [found] at done
      have isPath : other = path := by
        rcases same with isPath | ⟨mark, before, beforeOther, rest, goesOn, split, -, leads, -⟩
        · exact isPath
        · exact absurd leads (not_leadsTo_of_home? found split goesOn mark)
      rw [isPath, ← at?_value, ← List.append_nil path, Value.at?_putAt_append (putAt_eq_ok done)]
      rfl
  | some home =>
      obtain ⟨mark, held, rest⟩ := home
      rw [found] at done
      obtain ⟨changed, put, made⟩ := bind_eq_ok_iff.mp done
      cases made
      obtain ⟨before, home⟩ := isHome_of_home? found
      obtain ⟨entries, rfl⟩ := home.isMap
      -- Every path to the entry goes through the changed mapping and on by the same rest.
      have through : ∃ place, other = place ++ rest ∧ content.LeadsTo place mark := by
        rcases same with rfl | ⟨otherMark, place, placeOther, more, goesOn, split, rfl, leads, also⟩
        · exact ⟨before, home.split, entries, home.reached⟩
        · obtain ⟨between, rfl⟩ := home.last split goesOn leads
          have tails : more = between ++ rest := by
            have whole := split.symm.trans home.split
            rwa [List.append_assoc, List.append_cancel_left_eq] at whole
          refine ⟨placeOther ++ between, by rw [tails, List.append_assoc], entries, ?_⟩
          rw [← consistent.at?_append_congr leads also between]
          exact home.reached
      obtain ⟨place, rfl, leads⟩ := through
      rw [at?_spread_append consistent leads, ← at?_value, ← List.append_nil rest,
        Value.at?_putAt_append (putAt_eq_ok put)]
      rfl

/-- What lies apart from all paths to the entry, and does not have the changed mapping in it, stays
as it is. -/
theorem at?_assign_of_apart (consistent : content.Consistent)
    (done : assign new path content = .ok result) {other : List String}
    (apart : ∀ same, content.SameEntry path same → ¬ other <+: same ∧ ¬ same <+: other)
    (free : ¬ content.Involves path other) :
    (result.at? other).map value = (content.at? other).map value := by
  rw [assign] at done
  cases found : content.home? path with
  | none =>
      rw [found] at done
      obtain ⟨notBefore, notBelow⟩ := apart path (.inl rfl)
      rw [← at?_value, ← at?_value,
        Value.at?_putAt_apart (putAt_eq_ok done) notBefore notBelow]
  | some home =>
      obtain ⟨mark, held, rest⟩ := home
      rw [found] at done
      obtain ⟨changed, put, made⟩ := bind_eq_ok_iff.mp done
      cases made
      obtain ⟨before, home⟩ := isHome_of_home? found
      obtain ⟨entries, rfl⟩ := home.isMap
      have leadsHome : content.LeadsTo before mark := ⟨entries, home.reached⟩
      by_cases through : ∃ place, place <+: other ∧ content.LeadsTo place mark
      · obtain ⟨place, ⟨more, rfl⟩, leads⟩ := through
        obtain ⟨notBefore, notBelow⟩ := apart (place ++ rest)
          (.inr ⟨mark, before, place, rest, home.goesOn, home.split, rfl, leadsHome, leads⟩)
        rw [List.prefix_append_right_inj] at notBefore notBelow
        rw [at?_spread_append consistent leads, consistent.at?_append_congr leads leadsHome,
          at?_append, home.reached, Option.bind_some, ← at?_value, ← at?_value,
          Value.at?_putAt_apart (putAt_eq_ok put) notBefore notBelow]
      · have noPlace (place : List String) (shorter : place <+: other) :
            ¬ content.LeadsTo place mark := fun leads => through ⟨place, shorter, leads⟩
        rw [at?_spread_of_apart noPlace]
        cases reached : content.at? other with
        | none => rfl
        | some item =>
            have kept : spread mark changed item = item := by
              refine spread_eq_self fun others occurs => (free ?_).elim
              exact ⟨mark, before, rest, item, others, home.goesOn, home.split, leadsHome,
                reached, occurs⟩
            rw [Option.map_some, kept]

/-- What is put has no mark of what it is put into. -/
def Apart (new content : Shared) : Prop :=
  ∀ ⦃mark : Nat⦄ ⦃left right : List (Value × Shared)⦄,
    Occurs (.map (some mark) left) new → ¬ Occurs (.map (some mark) right) content

/-- A marked mapping of what comes of it is of what was put, is the changed one, or has another mark
and was changed where it stood. -/
theorem IsHome.occurs_spread {held : Shared} {before rest : List String}
    (home : content.IsHome path mark held before rest) (consistent : content.Consistent)
    (put : putAt new rest held = .ok changed) {other : Nat}
    (occurs : Occurs (.map (some other) entries) (spread mark changed content)) :
    Occurs (.map (some other) entries) new ∨
      (other = mark ∧ map (some other) entries = changed) ∨
      ∃ old, other ≠ mark ∧ Occurs (.map (some other) old) content ∧
        map (some other) entries = spread mark changed (.map (some other) old) := by
  obtain ⟨known, rfl⟩ := home.isMap
  have atHome : Occurs (.map (some mark) known) content := occurs_of_at? home.reached
  rcases Shared.occurs_spread occurs with ofChanged | ⟨old, stood, same⟩
  · rcases occurs_putAt put ofChanged with ofNew | ⟨item, member, inside⟩ | onWay
    · exact .inl ofNew
    · -- What stands in the mapping does not have it in it, and so it stays as it is.
      have free {inner : List (Value × Shared)} : ¬ Occurs (.map (some mark) inner) item :=
        consistent.not_occurs_within atHome member
      have kept : spread mark changed (.map (some other) entries) = .map (some other) entries :=
        spread_eq_self fun inner occurs => (free (occurs.trans inside)).elim
      have stood : Occurs (.map (some other) entries) content :=
        (Occurs.within member inside).trans atHome
      exact .inr (.inr ⟨entries, fun isOwn => free (isOwn ▸ inside), stood, kept.symm⟩)
    · obtain ⟨between, more, goesOn, tails, ⟨inner, reached⟩, atStart⟩ := onWay
      have leads : content.LeadsTo (before ++ between) other :=
        ⟨inner, by rw [at?_append, home.reached, Option.bind_some, reached]⟩
      have whole : path = (before ++ between) ++ more := by
        rw [home.split, tails, List.append_assoc]
      have noLonger := (home.last whole goesOn leads).length_le
      have isHome : between = [] := by
        rw [List.length_append] at noLonger
        exact List.eq_nil_of_length_eq_zero (by omega)
      subst isHome
      cases reached
      exact .inr (.inl ⟨rfl, (atStart rfl).symm⟩)
  · cases old with
    | map own old =>
        by_cases isOwn : own = some mark
        · subst isOwn
          rw [spread_map_self] at same
          obtain ⟨made, rfl⟩ := exists_map_of_putAt home.goesOn put
          obtain ⟨isMark, -⟩ := map.inj same
          exact .inr (.inl ⟨Option.some.inj isMark, same⟩)
        · have kept := same
          rw [spread_map_other isOwn] at same
          obtain ⟨rfl, -⟩ := map.inj same
          exact .inr (.inr ⟨old, fun isMark => isOwn (congrArg some isMark), stood, kept⟩)
    | _ => cases same

/-- The places of a mark hold the same after something is put under a path, if it has no mark of
what it is put into. -/
theorem Consistent.assign (consistent : content.Consistent) (inner : new.Consistent)
    (apart : new.Apart content) (done : assign new path content = .ok result) :
    result.Consistent := by
  rw [Shared.assign] at done
  cases found : content.home? path with
  | none =>
      rw [found] at done
      -- No marked mapping is on the way, so each of the result stood in one or the other before.
      have sources {mark : Nat} {entries : List (Value × Shared)}
          (occurs : Occurs (.map (some mark) entries) result) :
          Occurs (.map (some mark) entries) new ∨ Occurs (.map (some mark) entries) content := by
        rcases occurs_putAt done occurs with ofNew | ⟨item, member, inside⟩ | onWay
        · exact .inl ofNew
        · exact .inr (.within member inside)
        · obtain ⟨before, rest, goesOn, split, leads, -⟩ := onWay
          exact absurd leads (not_leadsTo_of_home? found split goesOn _)
      intro mark left right first second
      rcases sources first with ofNew | old <;> rcases sources second with alsoNew | alsoOld
      · exact inner ofNew alsoNew
      · exact absurd alsoOld (apart ofNew)
      · exact absurd old (apart alsoNew)
      · exact consistent old alsoOld
  | some home =>
      obtain ⟨own, held, rest⟩ := home
      rw [found] at done
      obtain ⟨changed, put, made⟩ := bind_eq_ok_iff.mp done
      cases made
      obtain ⟨before, home⟩ := isHome_of_home? found
      obtain ⟨known, rfl⟩ := home.isMap
      have atHome : Occurs (.map (some own) known) content := occurs_of_at? home.reached
      intro mark left right first second
      rcases home.occurs_spread consistent put first with
          ofNew | ⟨isOwn, same⟩ | ⟨old, notOwn, stood, same⟩ <;>
        rcases home.occurs_spread consistent put second with
          alsoNew | ⟨alsoOwn, alsoSame⟩ | ⟨other, alsoOther, alsoStood, alsoSame⟩
      case inl.inl => exact inner ofNew alsoNew
      case inl.inr.inl => exact absurd atHome (apart (alsoOwn ▸ ofNew))
      case inl.inr.inr => exact absurd alsoStood (apart ofNew)
      case inr.inl.inl => exact absurd atHome (apart (isOwn ▸ alsoNew))
      case inr.inl.inr.inl => exact (map.inj (same.trans alsoSame.symm)).2
      case inr.inl.inr.inr => exact absurd isOwn alsoOther
      case inr.inr.inl => exact absurd stood (apart alsoNew)
      case inr.inr.inr.inl => exact absurd alsoOwn notOwn
      case inr.inr.inr.inr =>
        obtain rfl := consistent stood alsoStood
        exact (map.inj (same.trans alsoSame.symm)).2

/-- So they do on the way to a path at which something is in the way. -/
theorem consistent_of_assigned (consistent : content.Consistent) (inner : new.Consistent)
    (apart : new.Apart content) (path : List String) :
    (assignInPlace new path content).1.Consistent := by
  rw [assignInPlace_eq consistent]
  cases done : Shared.assign new path content with
  | ok result => exact consistent.assign inner apart done
  | error fault => exact consistent

end Assigned

end Structex.Shared
