import AlertSound.Proofs.Remote.Desk
import AlertSound.Proofs.Session.Binding
import AlertSound.Proofs.Session.Rebacking
import AlertSound.Proofs.Settings.Settling
import AlertSound.Proofs.Settings.Standing
import Mathlib.Data.List.Induction

/-!
A session that is given a sound and attributes, in one order or the other. Whatever it was
before, what it plays with in the end is told by the sound, the attributes and the settings that
a restore pass leaves, and a second pass leaves the same.
-/
namespace AlertSound

open Function Program Trace Studio

variable {K H : Type}

namespace Library

/-- The store and the library answer the resources' calls, and the shop those of the engine. The
remote player answers what it pleases. -/
def beside (library : Library K) (shop : Workshop H) :
    Conduct Studio ((Contents × Table K) × Table H)
  | ⟨.inl (.inl c), answer⟩, w, w' => library.serves ⟨c, answer⟩ w.1 w'.1 ∧ w'.2 = w.2
  | ⟨.inl (.inr c), answer⟩, w, w' => shop.conduct ⟨c, answer⟩ w.2 w'.2 ∧ w'.1 = w.1
  | _, w, w' => w' = w

variable {library : Library K} {shop : Workshop H} {t : Trace Studio}
  {w w' : (Contents × Table K) × Table H}

theorem beside_serves (path : (library.beside shop).Path t w w') :
    library.serves.inStudio.Path t w.1 w'.1 := by
  refine path.map Prod.fst fun e w w' step => ?_
  obtain ⟨(_ | _) | _, _⟩ := e
  · exact step.1
  · exact step.2
  · exact congrArg Prod.fst step

theorem beside_engine (path : (library.beside shop).Path t w w') :
    shop.conduct.Path (engine t) w.2 w'.2 := by
  induction t generalizing w with
  | nil => exact congrArg Prod.snd path
  | cons e t ih =>
      obtain ⟨w₁, step, rest⟩ := path
      have later := ih rest
      obtain ⟨(_ | _) | _, _⟩ := e
      · rwa [step.2] at later
      · exact ⟨_, step.1, later⟩
      · rwa [show w₁ = w from step] at later

end Library

/-- A player is named by the source that it was opened for. -/
theorem Player.Opening.player_eq {source : Source} {attributes : Attributes} {t : Trace Engines}
    {player : Player} (h : Opening source attributes t (.ok player)) :
    player = ⟨player.handle, source.text⟩ := by
  cases h with
  | ready handle => rfl

def Workshop.sounding? (shop : Workshop H) (held : Contents) (r : Locator)
    (attributes : Attributes) : Option (Source × H) :=
  (held.actual? r).bind fun actual =>
    (shop.readied (.locator actual) attributes).map fun h => (.locator actual, h)

namespace Session

/-- The backing is what was made. It was opened with these attributes, and it is there. -/
inductive Obtains (attributes : Attributes) (t : Trace Engines) (T : Table H) :
    Option (Source × H) → Backing → Prop where
  | nothing : Obtains attributes t T none .unbound
  | held {source handle h} : ⟨.openSource source attributes, .ok handle⟩ ∈ t →
      T handle = some h → Obtains attributes t T (some (source, h)) (.held ⟨handle, source.text⟩)

variable {s s' : Session} {r : Locator} {t : Trace Studio}

variable {library : Library K} {shop : Workshop H} {w w' : (Contents × Table K) × Table H}

theorem Obtains.within {attributes : Attributes} {t t' : Trace Engines} {T : Table H}
    {made : Option (Source × H)} {backing : Backing} (h : Obtains attributes t T made backing)
    (within : ∀ e ∈ t, e ∈ t') : Obtains attributes t' T made backing := by
  cases h with
  | nothing => exact .nothing
  | held opened there => exact .held (within _ opened) there

theorem openHere_obtains {v : Trace Stage} {opened : Except OpenError Player}
    (runs : (s.openHere r).Runs v opened)
    (path : (library.beside shop).Path (v.map Event.left) w w') :
    Obtains s.attributes (rights v) w'.2 (shop.sounding? w.1.1 r s.attributes)
      (opened.toOption.elim .unbound .held) := by
  obtain ⟨x, found, y, resolves, rfl, opens⟩ := openHere_runs runs
  rw [List.map_append] at path
  obtain ⟨w₁, first, rest⟩ := Conduct.path_append.mp path
  rw [List.map_map] at first
  have contents := Library.contents_path
    (Conduct.path_inStudio_left.mp (Library.beside_serves first))
  rw [Workshop.sounding?, ← Contents.resolveActual_told r resolves contents]
  cases found with
  | none =>
      obtain ⟨rfl, rfl⟩ := opens
      exact .nothing
  | some actual =>
      obtain ⟨result, opens, rfl⟩ := opens
      have opening := Player.openPrepared_ensures _ _ opens
      have path : shop.conduct.Path (rights y) w₁.2 w'.2 := by
        simpa using Library.beside_engine rest
      have made := opening.made path
      rw [Option.bind_some]
      cases result with
      | error e =>
          rw [made.failed rfl]
          exact .nothing
      | ok player =>
          obtain ⟨h, ready, there⟩ := made.there rfl
          obtain ⟨opened, -⟩ := opening.mem
          rw [ready, opening.player_eq]
          exact .held (by simpa using opened) there

/-- What a session with a sound plays with is told by the settings that the pass leaves. -/
structure Bound (library : Library K) (shop : Workshop H) (s : Session) (t : Trace Studio)
    (w w' : (Contents × Table K) × Table H) (s' : Session) : Prop where
  rest : Rebacked s s'
  silent : s.reference = none → w'.1.1 = w.1.1
  contents : ∀ r, s.reference = some r → w'.1.1 = Restore.passed library s.restore w.1.1
  obtains : ∀ r, s.reference = some r →
    Obtains s.attributes (engine t) w'.2 (shop.sounding? w'.1.1 r s.attributes) s'.backing

theorem bind_bound (runs : s.bind.Runs t s') (path : (library.beside shop).Path t w w') :
    Bound library shop s t w w' s' := by
  have rest := s.bind_rebacked runs
  obtain ⟨s₁, u, v, rfl, released, opens⟩ := runs_bind.mp runs
  obtain ⟨w₁, first, last⟩ := Conduct.path_append.mp path
  obtain rfl := s.releaseBacking_result released
  have spared : w₁.1.1 = w.1.1 := Contents.inStudio_path_of_spares
    (fun e member => (s.releaseBacking_plain released e member).spares)
    (Library.studio_path (Library.beside_serves first))
  cases sound : s.reference with
  | none =>
      simp only [sound] at opens
      obtain ⟨rfl, rfl⟩ := runs_done.mp opens
      have same : w'.1.1 = w.1.1 := by rw [show w' = w₁ from last, spared]
      exact ⟨rest, fun _ => same, by simp [sound], by simp [sound]⟩
  | some r =>
      simp only [sound] at opens
      obtain ⟨x, n, y, opened, entry, restores, here, rfl, rfl⟩ := openReference_runs opens
      obtain ⟨w₂, pass, last⟩ := Conduct.path_append.mp last
      obtain ⟨w₃, opening, _, noted, rfl⟩ := Conduct.path_append.mp last
      have contents : w₂.1.1 = Restore.passed library s.restore w.1.1 := by
        rw [← spared]
        exact Restore.all_passed restores
          (Conduct.path_inStudio_left.mp (Library.beside_serves pass))
      have same : w₃.1.1 = w₂.1.1 := Contents.inStudio_path_of_spares
        (List.forall_mem_map.mpr fun e member => (openHere_plain _ r here e member).spares)
        (Library.studio_path (Library.beside_serves opening))
      have still : w'.1.1 = w₃.1.1 := noted.1.2
      have obtains := openHere_obtains here opening
      refine ⟨rest, by simp [sound], fun r' _ => by rw [still, same, contents], fun r' same' => ?_⟩
      cases sound.symm.trans same'
      rw [still, same, show w'.2 = w₃.2 from noted.2]
      have heard : ∀ e ∈ rights y, e ∈ engine (u ++ (x.map (fun e => e.left.left) ++
          (y.map Event.left ++ [⟨.inl (.inl (.log entry)), ()⟩]))) :=
        fun e member => by simp [member]
      cases opened with
      | ok player => exact obtains.within heard
      | error e => exact obtains.within heard

structure Arranged (library : Library K) (shop : Workshop H) (s : Session) (r : Locator)
    (attributes : Attributes) (t : Trace Studio) (w w' : (Contents × Table K) × Table H)
    (s' : Session) : Prop where
  rest : Rebacked { s with title := none, reference := some r, attributes } s'
  contents : w'.1.1 = Restore.passed library s.restore w.1.1
  obtains : Obtains attributes (engine t) w'.2 (shop.sounding? w'.1.1 r attributes) s'.backing

variable {attributes : Attributes}

theorem engine_of_append {t u : Trace Studio} : ∀ e ∈ engine u, e ∈ engine (t ++ u) := by
  intro e member
  rw [engine_append]
  exact List.mem_append_right _ member

/-- The sound comes first. -/
theorem arranged_of_reference
    (runs : (s.setReference (some r) >>= fun s => s.setAttributes attributes).Runs t s')
    (path : (library.beside shop).Path t w w') :
    Arranged library shop s r attributes t w w' s' := by
  obtain ⟨s₁, u, v, rfl, first, second⟩ := runs_bind.mp runs
  obtain ⟨w₁, before, after⟩ := Conduct.path_append.mp path
  have bound := bind_bound first before
  obtain ⟨backing, rfl⟩ : ∃ backing, s₁ = { s with title := none, reference := some r, backing } :=
    ⟨_, bound.rest⟩
  have bound' := bind_bound second after
  exact
    { rest := bound'.rest
      contents := by rw [bound'.contents r rfl, bound.contents r rfl, Restore.passed_passed]
      obtains := (bound'.obtains r rfl).within engine_of_append }

/-- The attributes come first. A pass is made for the sound from before, if there is one. -/
theorem arranged_of_attributes
    (runs : (s.setAttributes attributes >>= fun s => s.setReference (some r)).Runs t s')
    (path : (library.beside shop).Path t w w') :
    Arranged library shop s r attributes t w w' s' := by
  obtain ⟨s₁, u, v, rfl, first, second⟩ := runs_bind.mp runs
  obtain ⟨w₁, before, after⟩ := Conduct.path_append.mp path
  have bound := bind_bound first before
  obtain ⟨backing, rfl⟩ : ∃ backing, s₁ = { s with attributes, backing } := ⟨_, bound.rest⟩
  have bound' := bind_bound second after
  refine
    { rest := bound'.rest
      contents := ?_
      obtains := (bound'.obtains r rfl).within engine_of_append }
  rw [bound'.contents r rfl]
  cases sound : s.reference with
  | none => rw [bound.silent sound]
  | some before => rw [bound.contents before sound, Restore.passed_passed]

/-- Two players for one sound were opened with the same attributes, and are alike. -/
theorem Obtains.alike {t t' : Trace Engines} {T T' : Table H} {made : Option (Source × H)}
    {backing backing' : Backing} (h : Obtains attributes t T made backing)
    (h' : Obtains attributes t' T' made backing') :
    backing.name = backing'.name ∧
      ∀ player, backing = .held player → ∃ player' source h, backing' = .held player' ∧
        player.source = source.text ∧ player'.source = source.text ∧
        ⟨.openSource source attributes, .ok player.handle⟩ ∈ t ∧
        ⟨.openSource source attributes, .ok player'.handle⟩ ∈ t' ∧
        T player.handle = some h ∧ T' player'.handle = some h := by
  cases h with
  | nothing =>
      cases h'
      exact ⟨rfl, nofun⟩
  | held opened there =>
      cases h' with
      | held opened' there' =>
          refine ⟨rfl, fun player same => ?_⟩
          cases same
          exact ⟨_, _, _, rfl, rfl, rfl, opened, opened', there, there'⟩

theorem setStreamNumber_refused (number : Int) :
    (s.perform (.setStreamNumber number)).Ensures fun t result =>
      ∀ error, result.1 = .refused error → t = [] ∧ result.2 = s := by
  simp only [perform, setStreamNumber]
  cases SoundStream.ofNumber? number with
  | none => exact ensures_pure.mpr fun _ _ => ⟨rfl, rfl⟩
  | some stream =>
      simp only [ensures_bind, ensures_pure]
      exact .of_forall fun _ _ _ refused => by cases refused

/-- A run goes on as if a stream number that was refused had not been given. -/
theorem History.of_refused {s₀ : Session} {before after : List Episode} {e : Episode} {number : Int}
    {error : Error} (h : History s₀ (before ++ e :: after) s')
    (given : e.operation = .setStreamNumber number) (refused : e.reply = .refused error) :
    e.events = [] ∧ History s₀ (before ++ after) s' := by
  induction after using List.reverseRecOn generalizing s' with
  | nil =>
      obtain ⟨s₁, history, runs⟩ := history_snoc.mp h
      rw [given, refused] at runs
      obtain ⟨quiet, rfl⟩ := s₁.setStreamNumber_refused number runs error rfl
      exact ⟨quiet, by simpa using history⟩
  | append_singleton after last ih =>
      rw [← List.cons_append, ← List.append_assoc] at h
      obtain ⟨s₁, history, runs⟩ := history_snoc.mp h
      obtain ⟨quiet, shorter⟩ := ih history
      exact ⟨quiet, by rw [← List.append_assoc]; exact shorter.next runs⟩

/-- In whichever order a session is given the sound and the attributes, the settings, the sound,
the attributes and the title are the same in the end, and so is what it plays with, but for the
name of the handle. A stream number that is refused changes nothing and asks nothing. -/
theorem order_of_arranging {t₁ t₂ : Trace Studio} {s₁ s₂ : Session}
    {w₁ w₂ : (Contents × Table K) × Table H}
    (runs₁ : (s.setReference (some r) >>= fun s => s.setAttributes attributes).Runs t₁ s₁)
    (path₁ : (library.beside shop).Path t₁ w w₁)
    (runs₂ : (s.setAttributes attributes >>= fun s => s.setReference (some r)).Runs t₂ s₂)
    (path₂ : (library.beside shop).Path t₂ w w₂) :
    s₁.reference = some r ∧ s₁.attributes = attributes ∧ s₁.title = none ∧
    s₂ = { s₁ with backing := s₂.backing } ∧ w₁.1.1 = w₂.1.1 ∧
    s₁.backing.name = s₂.backing.name ∧
    (∀ player, s₁.backing = .held player → ∃ player' source h, s₂.backing = .held player' ∧
      player.source = source.text ∧ player'.source = source.text ∧
      ⟨.openSource source attributes, .ok player.handle⟩ ∈ engine t₁ ∧
      ⟨.openSource source attributes, .ok player'.handle⟩ ∈ engine t₂ ∧
      w₁.2 player.handle = some h ∧ w₂.2 player'.handle = some h) ∧
    ∀ s₀ before e after s' number error, History s₀ (before ++ e :: after) s' →
      e.operation = .setStreamNumber number → e.reply = .refused error →
      e.events = [] ∧ History s₀ (before ++ after) s' := by
  have arranged₁ := arranged_of_reference runs₁ path₁
  have arranged₂ := arranged_of_attributes runs₂ path₂
  have contents : w₁.1.1 = w₂.1.1 := arranged₁.contents.trans arranged₂.contents.symm
  have obtains := arranged₁.obtains
  rw [contents] at obtains
  obtain ⟨name, player⟩ := obtains.alike arranged₂.obtains
  obtain ⟨backing, rfl⟩ : ∃ backing, s₁ =
    { s with title := none, reference := some r, attributes, backing } := ⟨_, arranged₁.rest⟩
  exact ⟨rfl, rfl, rfl, arranged₂.rest, contents, name, player,
    fun _ _ _ _ _ _ _ h => h.of_refused⟩

end Session

namespace Library

def keeperBeside (library : Library K) (shop : Workshop H) :
    Handler Studio ((Contents × Register K) × Register H)
  | .inl (.inl c), (store, handles) =>
    ((library.keeper c store).1, (library.keeper c store).2, handles)
  | .inl (.inr c), (store, handles) =>
    (((shop.dealing c).deal handles).1, store, ((shop.dealing c).deal handles).2)
  | .inr c, state => ((Session.obliging (.inr c) 0).1, state)

theorem keeperBeside_path {α : Type} (library : Library K) (shop : Workshop H)
    (p : Program Studio α) (state : (Contents × Register K) × Register H) :
    (library.beside shop).Path (p.record (library.keeperBeside shop) state)
      (kept state.1, state.2.table)
      (kept (p.run (library.keeperBeside shop) state).2.1,
        (p.run (library.keeperBeside shop) state).2.2.table) := by
  refine Conduct.path_record (fun state => (kept state.1, state.2.table)) (fun c state => ?_)
    p state
  obtain (c | c) | c := c
  · exact ⟨library.keeper_serves c state.1, rfl⟩
  · exact ⟨Dealing.deal_follows _ _, rfl⟩
  · rfl

end Library

namespace Session

def seventh : Library Nat where
  volume _ := 5
  setting _ := none
  putSetting _ _ := .ok ()
  query _ _ := .ok 0
  find name := if name = "a.ogg" then .ok 1 else .error (.unavailable name)
  count k := k
  moveToFirst k := (true, k)
  cell _ _ := some "7"
  close := id
  asset := .error (.notFound "")
  duplicate := .ok

def horn : Workshop Unit where
  make _ _ := .ok ()
  prepare h := (.ok (), h)
  start h := (.ok (), h)
  stop := id
  reset := id
  release := id
  isPlaying _ := true

def arranged (first : Bool) : Program Studio Session :=
  let s := Session.new ⟨true, .ordinary, Restore.twoSlots⟩ none
  if first then s.setAttributes (.ofStream .alarm) >>= fun s =>
    s.setReference (some (.settingsDefault (.ringtone 0)))
  else s.setReference (some (.settingsDefault (.ringtone 0))) >>= fun s =>
    s.setAttributes (.ofStream .alarm)

def arrangement (first : Bool) : Session × (Contents × Register Nat) × Register Unit :=
  (arranged first).run (seventh.keeperBeside horn) ((Restore.twoGone, .empty), .empty)

theorem order_of_arranging_restored :
    (arrangement false).1.backing = .held ⟨1, "content://media/internal/audio/media/7"⟩ ∧
      (arrangement true).1.backing = .held ⟨0, "content://media/internal/audio/media/7"⟩ ∧
      (arrangement false).2.1.1 "ringtone" = some "content://media/internal/audio/media/7" ∧
      (arrangement false).2.1.1 = (arrangement true).2.1.1 := by
  have path (first : Bool) := Library.keeperBeside_path seventh horn (arranged first)
    ((Restore.twoGone, .empty), .empty)
  obtain ⟨-, -, -, -, contents, -⟩ := order_of_arranging (runs_record _ (arranged false) _)
    (path false) (runs_record _ (arranged true) _) (path true)
  exact ⟨by decide +kernel, by decide +kernel, by decide +kernel, contents⟩

end Session
end AlertSound
