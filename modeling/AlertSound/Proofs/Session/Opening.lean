import AlertSound.Proofs.Session.Binding
import AlertSound.Proofs.Settings.Settling
import AlertSound.Proofs.Settings.Standing

/-!
What a session opens that is bound to a default. The setting of the default is read after a
restore pass, which leaves it as it is if its sound is there. So the sound that is opened is
the one that the setting holds, and no other is.
-/
namespace AlertSound

open Program

namespace Session

structure OpensOnly (t : Trace Studio) (r : Locator) (attributes : Attributes) : Prop where
  opened : ∃ answer,
    (⟨.inl (.inr (.openSource (.locator r) attributes)), answer⟩ : Event Studio) ∈ t
  only : ∀ e ∈ t, ∀ use, Use.ofStudio? e.call = some use → use = .source (.locator r)

variable {t u v : Trace Studio} {r : Locator} {attributes : Attributes}

theorem OpensOnly.extend (h : OpensOnly t r attributes) (before : ∀ e ∈ u, Still e.call)
    (after : ∀ e ∈ v, Still e.call) : OpensOnly (u ++ t ++ v) r attributes where
  opened := by
    obtain ⟨answer, member⟩ := h.opened
    exact ⟨answer, List.mem_append_left v (List.mem_append_right u member)⟩
  only e member use used := by
    have still (quiet : Still e.call) : use = .source (.locator r) := by
      rw [show Use.ofStudio? e.call = none from quiet] at used
      cases used
    obtain member | member := List.mem_append.mp member
    · obtain member | member := List.mem_append.mp member
      · exact still (before e member)
      · exact h.only e member use used
    · exact still (after e member)

theorem openPrepared_opens {t : Trace Stage} {result : Except EngineError Player}
    (runs : (Player.openPrepared (.locator r) attributes).Runs t result) :
    OpensOnly (t.map Event.left) r attributes where
  opened := by
    obtain ⟨answer, rest, same, -⟩ := (Player.openPrepared_ensures _ _ runs).eq_cons
    have member : (⟨.openSource (.locator r) attributes, answer⟩ : Event Engines) ∈ t.rights := by
      rw [same]
      exact List.mem_cons_self
    exact ⟨answer, List.mem_map_of_mem (Trace.mem_rights.mp member)⟩
  only := List.forall_mem_map.mpr (Player.openPrepared_only _ _ runs)

/-- A default stands for what its setting holds. -/
theorem defaultLocator?_of_path {kind : DefaultKind} {t : Trace Resources} {found : Option Locator}
    {held held' : Contents} {raw : String} (runs : (defaultLocator? kind).Runs t found)
    (path : Contents.conduct.Path t held held') (holds : held kind.settingKey = some raw)
    (read : Locator.parse raw = .ok r) : found = some r := by
  rw [Contents.defaultLocator?_told kind runs path, Contents.default?_of_read holds read]

theorem resolveActual_of_path {kind : DefaultKind}
    (named : (Locator.settingsDefault kind).defaultKind? = some kind) {t : Trace Resources}
    {found : Option Locator} {held held' : Contents} {raw : String}
    (runs : (resolveActual (.settingsDefault kind)).Runs t found)
    (path : Contents.conduct.Path t held held') (holds : held kind.settingKey = some raw)
    (read : Locator.parse raw = .ok r) (direct : r.origin ≠ .settingsDefault) :
    found = some r := by
  have default : (Locator.settingsDefault kind).origin = .settingsDefault := rfl
  rw [Contents.resolveActual_told _ runs path, Contents.actual?, if_pos default, named,
    Option.bind_some, Contents.default?_of_read holds read]
  simp [Option.filter, direct]

section Default

variable {kind : DefaultKind} (named : (Locator.settingsDefault kind).defaultKind? = some kind)
  {raw : String} (read : Locator.parse raw = .ok r) (direct : r.origin ≠ .settingsDefault)
  (s : Session)

include named read direct

theorem openHere_opens {t : Trace Stage} {result : Except OpenError Player}
    (runs : (s.openHere (.settingsDefault kind)).Runs t result) {held held' : Contents}
    (path : Contents.conduct.inStudio.Path (t.map Event.left) held held')
    (holds : held kind.settingKey = some raw) : OpensOnly (t.map Event.left) r s.attributes := by
  obtain ⟨x, found, y, resolves, rfl, opens⟩ := openHere_runs runs
  rw [List.map_append] at path ⊢
  obtain ⟨_, here, -⟩ := Conduct.path_append.mp path
  rw [List.map_map] at here
  obtain rfl := resolveActual_of_path named resolves (Conduct.path_inStudio_left.mp here) holds read
    direct
  obtain ⟨made, opens, -⟩ := opens
  rw [← List.append_nil (List.map _ y), ← List.append_assoc]
  refine (openPrepared_opens opens).extend ?_ (by simp)
  rw [List.map_map]
  refine List.forall_mem_map.mpr fun e member => ?_
  exact ofStage?_left ((resolveActual_looks _).quiet resolves e member)

variable {K : Type} {library : Library K} {c c' : Contents × Table K}

theorem openReference_opens {s' : Session}
    (runs : (s.openReference (.settingsDefault kind)).Runs t s')
    (path : library.serves.inStudio.Path t c c') (holds : c.1 kind.settingKey = some raw)
    (there : Restore.isGone library raw = false) : OpensOnly t r s.attributes := by
  obtain ⟨x, n, y, opened, entry, restores, here, rfl, -⟩ := openReference_runs runs
  obtain ⟨c₁, pass, rest⟩ := Conduct.path_append.mp path
  obtain ⟨c₂, opening, -⟩ := Conduct.path_append.mp rest
  have kept := Restore.all_keeps restores (Conduct.path_inStudio_left.mp pass) holds there
  have still : ∀ e ∈ x.map fun e => e.left.left, Still e.call := List.forall_mem_map.mpr
    fun e member => ofStage?_left ((Restore.all_looks _).quiet restores e member)
  rw [← List.append_assoc]
  exact (openHere_opens named read direct s here (Library.studio_path opening) kept).extend still
    (List.forall_mem_singleton.mpr rfl)

/-- A session that is bound to a default opens what the setting holds, if that is there. -/
theorem bind_opens {s' : Session} (sound : s.reference = some (.settingsDefault kind))
    (runs : s.bind.Runs t s') (path : library.serves.inStudio.Path t c c')
    (holds : c.1 kind.settingKey = some raw) (there : Restore.isGone library raw = false) :
    OpensOnly t r s.attributes := by
  obtain ⟨s₁, u, v, rfl, released, rest⟩ := runs_bind.mp runs
  obtain ⟨c₁, first, last⟩ := Conduct.path_append.mp path
  obtain rfl := s.releaseBacking_result released
  have same : c₁.1 = c.1 := Contents.inStudio_path_of_spares
    (fun e member => (s.releaseBacking_plain released e member).spares)
    (Library.studio_path first)
  simp only [sound] at rest
  have opens := openReference_opens named read direct _ rest last
    (by rw [same, holds]) there
  simpa using opens.extend (s.releaseBacking_calm.still released) (v := []) (by simp)

end Default

end Session
end AlertSound
