import AlertSound.Proofs.Config.Checks
import AlertSound.Proofs.Resolution
import AlertSound.Proofs.Text.Utf8

/-!
Titles. A sound of the index has the title of its row if there is one row, the cursor moves to
it and the cell holds a text; every other sound, and one whose query is refused, has the last
name of its locator, or else the unknown label. The title of a default is made from that of
what it stands for, and is looked up no further. A title is empty only if the sound brings an
empty text with it.
-/
namespace AlertSound

open Program

namespace Text

end Text

/-- The cursor is closed when the work is done. -/
theorem ensures_withCursor {α : Type} {cursor : CursorId} {work : Program Resources α}
    {Q : Trace Resources → α → Prop} :
    (Resource.withCursor cursor work).Ensures Q ↔
      work.Ensures fun t a => Q (t ++ [⟨.close cursor, ()⟩]) a := by
  simp only [Resource.withCursor, Resource.close, ensures_bind, ensures_call, ensures_done,
    ensures_pure, List.append_nil]
  exact ⟨fun h t a runs => h runs (), fun h t a runs _ => h runs⟩

namespace Title

inductive Lookup (r : Locator) : Trace Resources → Option String → Prop where
  | refused {e entry} :
      Lookup r [⟨.query r [.id, .data, .title], .error e⟩, ⟨.log entry, ()⟩] none
  | unclear {cursor} {rows : Nat} : rows ≠ 1 →
      Lookup r [⟨.query r [.id, .data, .title], .ok cursor⟩, ⟨.count cursor, rows⟩,
        ⟨.close cursor, ()⟩] none
  | stuck {cursor} :
      Lookup r [⟨.query r [.id, .data, .title], .ok cursor⟩, ⟨.count cursor, (1 : Nat)⟩,
        ⟨.moveToFirst cursor, false⟩, ⟨.close cursor, ()⟩] none
  | read {cursor cell} :
      Lookup r [⟨.query r [.id, .data, .title], .ok cursor⟩, ⟨.count cursor, (1 : Nat)⟩,
        ⟨.moveToFirst cursor, true⟩, ⟨.cell cursor 2, cell⟩, ⟨.close cursor, ()⟩] cell

def Titled (r : Locator) (t : Trace Resources) (title : String) : Prop :=
  ∃ cursor, (⟨.query r [.id, .data, .title], .ok cursor⟩ : Event Resources) ∈ t ∧
    (⟨.count cursor, (1 : Nat)⟩ : Event Resources) ∈ t ∧
    (⟨.moveToFirst cursor, true⟩ : Event Resources) ∈ t ∧
    (⟨.cell cursor 2, some title⟩ : Event Resources) ∈ t

def IsIndexed (r : Locator) : Prop := r.origin = .mediaIndex ∨ r.origin = .drmIndex

variable {labels : Labels} {r : Locator} {t : Trace Resources} {found : Option String}
  {title : String}

theorem Lookup.found_iff (h : Lookup r t found) : found = some title ↔ Titled r t title := by
  cases h with
  | refused | stuck => simp [Titled]
  | unclear several => simp [Titled, several.symm]
  | read => simp [Titled, eq_comm]

theorem indexed_lookup (entry : IsIndexed r) : (indexed r).Ensures fun t result =>
    (∃ e, result = .error e ∧ t = [⟨.query r [.id, .data, .title], .error e⟩]) ∨
      ∃ found, result = .ok found ∧ Lookup r t found := by
  have columns : titleColumns? r.origin = some [.id, .data, .title] := by
    obtain origin | origin := entry
    · rw [origin]; rfl
    · rw [origin]; rfl
  simp only [indexed, columns, Resource.query, ensures_bind, ensures_call, ensures_done]
  intro answer
  cases answer with
  | error e => exact ensures_pure.mpr (.inl ⟨e, rfl, rfl⟩)
  | ok cursor =>
      simp only [ensures_bind, ensures_withCursor, Resource.count, ensures_call, ensures_done]
      intro rows
      by_cases one : rows = 1
      · subst one
        simp only [Resource.moveToFirst, bne_self_eq_false, Bool.false_eq_true, if_false,
          ensures_bind, ensures_call, ensures_done]
        intro moved
        cases moved with
        | false => exact ensures_pure.mpr (.inr ⟨none, rfl, .stuck⟩)
        | true =>
            simp only [Resource.cell, Bool.not_true, Bool.false_eq_true, if_false, ensures_bind,
              ensures_call, ensures_done]
            exact fun cell => ensures_pure.mpr (.inr ⟨cell, rfl, .read⟩)
      · have several : (rows != 1) = true := bne_iff_ne.mpr one
        simp only [several, if_true]
        exact ensures_pure.mpr (.inr ⟨none, rfl, .unclear one⟩)

theorem direct_lookup (entry : IsIndexed r) : (direct r).Ensures fun t result =>
    ∃ found, Lookup r t found ∧ result = found.or r.lastName? := by
  unfold direct
  split
  · rename_i default
    simp [IsIndexed, default] at entry
  · rename_i file
    simp [IsIndexed, file] at entry
  all_goals
    refine (indexed_lookup entry).bind fun t result outcome => ?_
    obtain ⟨e, rfl, rfl⟩ | ⟨found, rfl, lookup⟩ := outcome
    · exact ensures_bind.mpr (ensures_call.mpr fun _ => ensures_done.mpr
        (ensures_pure.mpr ⟨none, .refused, rfl⟩))
    · cases found with
      | none => exact ensures_pure.mpr ⟨none, by simpa using lookup, rfl⟩
      | some title => exact ensures_pure.mpr ⟨some title, by simpa using lookup, rfl⟩

theorem direct_of_file (file : r.origin = .localFile) : direct r = pure r.lastName? := by
  simp only [direct, file]

theorem direct_of_default (default : r.origin = .settingsDefault) : direct r = pure none := by
  simp only [direct, default]

/-- A sound that is no default has a title of its own, however defaults are dealt with. -/
theorem resolve_of_ne (other : r.origin ≠ .settingsDefault) (indirection : Indirection) :
    resolve labels (some r) indirection = do return (← direct r).getD labels.unknown := by
  simp [resolve, other]

/-- The title of a default is made from the title of what it stands for. -/
theorem resolve_follow_runs (default : r.origin = .settingsDefault) :
    (resolve labels (some r) .follow).Runs t title ↔ ∃ actual u v, t = u ++ v ∧
      (resolveActual r).Runs u actual ∧
      match actual with
      | none => v = [] ∧ title = labels.default
      | some actual => ∃ shown, (resolve labels (some actual) .stop).Runs v shown ∧
          title = labels.withActual shown := by
  have followed : resolve labels (some r) .follow = ofDefault labels r := by
    simp [resolve, default]
  rw [followed, ofDefault, runs_bind]
  refine exists_congr fun actual => exists_congr fun u => exists_congr fun v =>
    and_congr_right fun _ => and_congr_right fun resolves => ?_
  cases actual with
  | none => simp only [pure, runs_done, eq_comm]
  | some actual =>
      have other := (resolveActual_ensures r resolves).2 actual rfl
      simp only [resolve_of_ne other, bind_pure_comp, runs_map]
      constructor
      · rintro ⟨found, runs, rfl⟩
        exact ⟨_, ⟨found, runs, rfl⟩, rfl⟩
      · rintro ⟨_, ⟨found, runs, rfl⟩, rfl⟩
        exact ⟨found, runs, rfl⟩

/-- A text that a sound brings with it: a cell of its row, or the last name of its locator or
of the locator that it stands for. -/
inductive Own (reference : Option Locator) (t : Trace Resources) : String → Prop where
  | cell {cursor column text} : (⟨.cell cursor column, some text⟩ : Event Resources) ∈ t →
      Own reference t text
  | name {r text} : reference = some r → r.lastName? = some text → Own reference t text
  | actual {r u v actual text} : reference = some r → t = u ++ v →
      (resolveActual r).Runs u (some actual) → actual.lastName? = some text → Own reference t text

theorem direct_own (r : Locator) : (direct r).Ensures fun t found => ∀ text, found = some text →
    (∃ cursor column, (⟨.cell cursor column, some text⟩ : Event Resources) ∈ t) ∨
      r.lastName? = some text := by
  cases origin : r.origin with
  | localFile =>
      rw [direct_of_file origin]
      exact ensures_pure.mpr fun text => .inr
  | settingsDefault =>
      rw [direct_of_default origin]
      exact ensures_pure.mpr fun text none => by cases none
  | mediaIndex | drmIndex =>
      refine (direct_lookup (by simp [IsIndexed, origin])).mono fun t result looked => ?_
      obtain ⟨found, lookup, rfl⟩ := looked
      intro text shown
      cases found with
      | none => exact .inr shown
      | some title =>
          cases shown
          obtain ⟨cursor, -, -, -, cell⟩ := lookup.found_iff.mp rfl
          exact .inl ⟨cursor, 2, cell⟩

/-- Labels bring nothing bad into a title: what is wrong with a title, and would be wrong with
it in any place, is wrong with a text that the sound brings with it. -/
theorem resolve_own {Wrong : List Char → Prop} (everywhere : ∀ s s', s <:+: s' → Wrong s' → Wrong s)
    (default : ¬Wrong labels.default.toList) (unknown : ¬Wrong labels.unknown.toList)
    (place : Labels.placeholder <:+: labels.defaultWithActual.toList)
    (reference : Option Locator) (indirection : Indirection) :
    (resolve labels reference indirection).Ensures fun t title =>
      Wrong title.toList → ∃ own, Own reference t own ∧ Wrong own.toList := by
  have shown (found : Option String) (wrong : Wrong (found.getD labels.unknown).toList) :
      ∃ own, found = some own ∧ Wrong own.toList := by
    cases found with
    | none => exact absurd wrong unknown
    | some own => exact ⟨own, rfl, wrong⟩
  unfold resolve
  split
  · exact ensures_pure.mpr fun wrong => absurd wrong unknown
  · rename_i r
    split
    · refine (ensures_runs (resolveActual r)).bind fun u actual resolves => ?_
      cases actual with
      | none => exact ensures_pure.mpr fun wrong => absurd wrong default
      | some actual =>
          refine (direct_own actual).bind fun v found own => ensures_pure.mpr fun wrong => ?_
          have within := Labels.infix_withActual_iff.mpr place (found.getD labels.unknown)
          obtain ⟨text, rfl, wrong'⟩ := shown found (everywhere _ _ within wrong)
          refine ⟨text, ?_, wrong'⟩
          obtain ⟨cursor, column, cell⟩ | last := own text rfl
          · exact .cell (List.mem_append_right u (List.mem_append_left [] cell))
          · exact .actual rfl rfl resolves last
    · refine (direct_own r).bind fun t found own => ensures_pure.mpr fun wrong => ?_
      obtain ⟨text, rfl, wrong'⟩ := shown found wrong
      refine ⟨text, ?_, wrong'⟩
      obtain ⟨cursor, column, cell⟩ | last := own text rfl
      · exact .cell (List.mem_append_left [] cell)
      · exact .name rfl last

end Title
end AlertSound
