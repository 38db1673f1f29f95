import AlertSound.Proofs.Session.History
import AlertSound.Proofs.Session.Rebacking
import Mathlib.Data.List.DropRight

/-!
The title of a session along its runs. A session remembers the title that it was given, or the
one that it looked up, until it gets another sound, and asks for a title only if it remembers
none. What it remembers is told by the operations since then: the title that was given last, or
else the one that was shown first.
-/
namespace AlertSound.Session

open Program

/-- Whether the operation gives the session another sound, or the same or none once more. -/
def Operation.setsReference : Operation → Bool
  | .setReference _ => true
  | _ => false

def Operation.titles : Operation → Bool
  | .setTitle _ | .title => true
  | _ => false

def Episode.given? (e : Episode) : Option String :=
  match e.operation with
  | .setTitle title => some title
  | _ => none

def Episode.shown? (e : Episode) : Option String :=
  match e.operation, e.reply with
  | .title, .title title => some title
  | _, _ => none

def sinceReference (run : List Episode) : List Episode :=
  run.rtakeWhile fun e => !e.operation.setsReference

def givenSince (run : List Episode) : Option String :=
  ((sinceReference run).filterMap Episode.given?).getLast?

def shownSince (run : List Episode) : Option String :=
  ((sinceReference run).filterMap Episode.shown?).head?

def remembered (held : Option String) (e : Episode) : Option String :=
  if e.operation.setsReference then none else (e.given?.or held).or e.shown?

/-- The reply is the title that the index and the settings have for the sound. -/
def LooksUp (labels : Labels) (reference : Option Locator) (t : Trace Studio) (reply : Reply) :
    Prop :=
  ∃ title u, reply = .title title ∧ t = u.map (fun e => e.left.left) ∧
    (Title.resolve labels reference .follow).Runs u title

variable {s s' : Session} {run : List Episode} {e : Episode} {t : Trace Studio} {reply : Reply}

/-- A remembered title is shown at once, and another is looked up and remembered. -/
theorem title_ensures (s : Session) : (s.perform .title).Ensures fun t result =>
    (∃ title, s.title = some title ∧ t = [] ∧ result = (.title title, s)) ∨
      s.title = none ∧ ∃ title, LooksUp s.labels s.reference t (.title title) ∧
        result = (.title title, { s with title := some title }) := by
  simp only [perform, bind_pure_comp, ensures_map, getTitle]
  cases held : s.title with
  | some title => exact ensures_pure.mpr (.inl ⟨title, rfl, rfl, rfl⟩)
  | none =>
      simp only [lift_left_left, ensures_map, ensures_left]
      refine (ensures_runs _).mono fun u title runs => .inr ⟨trivial, title, ?_, rfl⟩
      exact ⟨title, u, rfl, List.map_map, runs⟩

theorem Rebacked.title (h : Rebacked s s') : s'.title = s.title := by rw [show s' = _ from h]

theorem Rebacked.labels (h : Rebacked s s') : s'.labels = s.labels := by rw [show s' = _ from h]

structure Remembers (s : Session) (e : Episode) (s' : Session) : Prop where
  title : s'.title = remembered s.title e
  titled : e.operation.titles = true → s'.title ≠ none
  labels : s'.labels = s.labels
  reference : e.operation.setsReference = false → s'.reference = s.reference

/-- An operation that has nothing to do with titles leaves them alone. -/
theorem Remembers.of_rebacked {attributes : Attributes} (stays : e.operation.setsReference = false)
    (other : e.operation.titles = false) (h : Rebacked { s with attributes } s') :
    Remembers s e s' where
  title := by
    obtain ⟨operation, events, reply⟩ := e
    have kept : remembered s.title ⟨operation, events, reply⟩ = s.title := by
      cases operation with
      | setReference | setTitle | title => cases stays <;> cases other
      | _ => simp [remembered, Episode.given?, Episode.shown?, Operation.setsReference]
    rw [kept, h.title]
  titled given := by rw [other] at given; cases given
  labels := h.labels
  reference _ := h.reference

theorem perform_remembers (s : Session) (o : Operation) : (s.perform o).Ensures fun t result =>
    Remembers s ⟨o, t, result.1⟩ result.2 := by
  have still (reply : Reply) (stays : o.setsReference = false) (other : o.titles = false) :
      (pure (reply, s) : Program Studio (Reply × Session)).Ensures fun t result =>
        Remembers s ⟨o, t, result.1⟩ result.2 := ensures_pure.mpr (.of_rebacked stays other .rfl)
  cases o with
  | attributes | stream | reference | allowsRemote => exact still _ rfl rfl
  | setTitle title => exact ensures_pure.mpr ⟨rfl, nofun, rfl, fun _ => rfl⟩
  | setReference reference =>
      refine ensures_map.mpr ((bind_rebacked { s with title := none, reference }).mono
        fun t s' same => ⟨same.title, nofun, same.labels, nofun⟩)
  | setAttributes attributes =>
      exact ensures_map.mpr ((bind_rebacked { s with attributes }).mono fun _ _ =>
        .of_rebacked rfl rfl)
  | play => exact ensures_map.mpr (s.play_rebacked.mono fun _ _ => .of_rebacked rfl rfl)
  | stop => exact ensures_map.mpr (s.releaseBacking_rebacked.mono fun _ _ => .of_rebacked rfl rfl)
  | isPlaying => exact ensures_map.mpr (.of_forall fun _ _ => .of_rebacked rfl rfl .rfl)
  | playFallback =>
      exact ensures_map.mpr (s.playFallback_rebacked.mono fun _ _ => .of_rebacked rfl rfl)
  | title =>
      refine s.title_ensures.mono fun t result outcome => ?_
      obtain ⟨title, held, -, rfl⟩ | ⟨none, title, -, rfl⟩ := outcome
      · exact ⟨by rw [held]; rfl, fun _ => by simp [held], rfl, fun _ => rfl⟩
      · exact ⟨by rw [none]; rfl, nofun, rfl, fun _ => rfl⟩
  | setStreamNumber number =>
      simp only [perform, setStreamNumber]
      split
      · exact still _ rfl rfl
      · rename_i stream _
        simp only [setAttributes, ensures_bind, ensures_pure, List.append_nil]
        exact (bind_rebacked _).mono fun _ _ => .of_rebacked rfl rfl

theorem sinceReference_snoc : sinceReference (run ++ [e]) =
    if e.operation.setsReference then [] else sinceReference run ++ [e] := by
  rw [sinceReference, List.rtakeWhile_concat]
  cases e.operation.setsReference <;> rfl

section Stays

variable (stays : e.operation.setsReference = false)

include stays

theorem givenSince_snoc : givenSince (run ++ [e]) = e.given?.or (givenSince run) := by
  rw [givenSince, sinceReference_snoc, stays, if_neg Bool.false_ne_true, List.filterMap_append,
    List.getLast?_append]
  cases given : e.given? <;> simp [given, givenSince]

theorem shownSince_snoc : shownSince (run ++ [e]) = (shownSince run).or e.shown? := by
  rw [shownSince, sinceReference_snoc, stays, if_neg Bool.false_ne_true, List.filterMap_append,
    List.head?_append]
  cases shown : e.shown? <;> simp [shown, shownSince]

end Stays

/-- What is remembered is the title that was given last, or else the one shown first. -/
theorem remembered_since : remembered ((givenSince run).or (shownSince run)) e =
    (givenSince (run ++ [e])).or (shownSince (run ++ [e])) := by
  cases stays : e.operation.setsReference with
  | true => simp [remembered, givenSince, shownSince, sinceReference_snoc, stays]
  | false =>
      rw [remembered, stays, if_neg Bool.false_ne_true, givenSince_snoc stays,
        shownSince_snoc stays, Option.or_assoc, Option.or_assoc, Option.or_assoc]

theorem shown?_eq_some {title : String} (shown : e.shown? = some title) :
    e.operation = .title ∧ e.reply = .title title := by
  unfold Episode.shown? at shown
  split at shown
  · rename_i asked replied
    cases shown
    exact ⟨asked, replied⟩
  · cases shown

/-- The title that was shown first had been looked up, when none had been given or shown. -/
def ShownFirst (labels : Labels) (reference : Option Locator) (run : List Episode)
    (title : String) : Prop :=
  ∃ before e after, run = before ++ e :: after ∧ e.operation = .title ∧
    (∀ e' ∈ sinceReference before, e'.operation.titles = false) ∧
    (∀ e' ∈ after, e'.operation.setsReference = false) ∧
    e.reply = .title title ∧ LooksUp labels reference e.events e.reply

/-- What a run tells of the title that is remembered after it. -/
structure Recalls (s₀ : Session) (run : List Episode) (s : Session) : Prop where
  title : s.title = (givenSince run).or (shownSince run)
  untitled : s.title = none → ∀ e ∈ sinceReference run, e.operation.titles = false
  labels : s.labels = s₀.labels
  first : ∀ title, givenSince run = none → shownSince run = some title →
    ShownFirst s₀.labels s.reference run title

theorem Recalls.next {s₀ s₁ s₂ : Session} (recalls : Recalls s₀ run s₁)
    (runs : (s₁.perform e.operation).Runs e.events (e.reply, s₂)) :
    Recalls s₀ (run ++ [e]) s₂ := by
  have remembers : Remembers s₁ e s₂ := perform_remembers _ _ runs
  refine ⟨by rw [remembers.title, recalls.title, ← remembered_since], fun none => ?_,
    remembers.labels.trans recalls.labels, fun title ungiven shown => ?_⟩
  · rw [sinceReference_snoc]
    split
    · simp
    · rename_i stays
      have before := none
      simp only [remembers.title, remembered, stays, Bool.false_eq_true, if_false,
        Option.or_eq_none_iff] at before
      refine List.forall_mem_append.mpr ⟨recalls.untitled before.1.2, ?_⟩
      simpa using fun titles => remembers.titled titles none
  · cases stays : e.operation.setsReference with
    | true => simp [shownSince, sinceReference_snoc, stays] at shown
    | false =>
        rw [givenSince_snoc stays, Option.or_eq_none_iff] at ungiven
        rw [shownSince_snoc stays] at shown
        cases earlier : shownSince run with
        | some first =>
            rw [earlier] at shown
            cases shown
            obtain ⟨before, e', after, rfl, asked, fresh, stayed, reply⟩ :=
              recalls.first _ ungiven.2 earlier
            refine ⟨before, e', after ++ [e], by simp, asked, fresh, ?_, ?_⟩
            · exact List.forall_mem_append.mpr ⟨stayed, by simpa using stays⟩
            · rwa [remembers.reference stays]
        | none =>
            rw [earlier, Option.none_or] at shown
            obtain ⟨asked, replied⟩ := shown?_eq_some shown
            have untitled : s₁.title = none := by rw [recalls.title, ungiven.2, earlier]; rfl
            refine ⟨run, e, [], rfl, asked, recalls.untitled untitled, by simp, replied, ?_⟩
            rw [asked] at runs
            obtain ⟨title', held, -⟩ | ⟨-, title', looks, same⟩ := s₁.title_ensures runs
            · exact absurd (held ▸ untitled) (Option.some_ne_none title')
            · have reply : e.reply = .title title' := congrArg Prod.fst same
              rwa [reply, ← recalls.labels, remembers.reference stays]

theorem History.recalls {s₀ : Session} (h : History s₀ run s) (untitled : s₀.title = none) :
    Recalls s₀ run s := by
  induction h with
  | start => exact ⟨untitled, by simp [sinceReference], rfl, fun _ _ shown => by cases shown⟩
  | next _ runs ih => exact ih.next runs

/-- A title lasts until the sound is set, whatever becomes of the sound, the index and the
settings. The title that was given last is shown, or else the one that was looked up when the
title was first asked for; only that first time is anything looked up. -/
theorem title_lasts_until_reference (config : Config) (surface : Option Token)
    (h : History (.new config surface) run s) :
    (∀ e s', (s.perform e.operation).Runs e.events (e.reply, s') →
      s'.title = remembered s.title e) ∧
    (∀ t reply s', (s.perform .title).Runs t (reply, s') →
      (∀ title, givenSince run = some title → reply = .title title) ∧
      (∀ title, givenSince run = none → shownSince run = some title →
        reply = .title title ∧ ShownFirst config.labels s.reference run title) ∧
      (givenSince run = none → shownSince run = none →
        LooksUp config.labels s.reference t reply) ∧
      (t ≠ [] → ∀ e ∈ sinceReference run, e.operation.titles = false)) := by
  have recalls := h.recalls rfl
  refine ⟨fun e s' runs => (perform_remembers s e.operation runs).title, fun t reply s' runs => ?_⟩
  obtain ⟨title, held, quiet, same⟩ | ⟨untitled, title, looks, same⟩ := s.title_ensures runs
  · cases same
    have told := recalls.title.symm.trans held
    refine ⟨fun given since => ?_, fun shown ungiven since => ?_, fun ungiven unshown => ?_,
      fun asks => absurd quiet asks⟩
    · rw [since, Option.some_or] at told
      rw [Option.some.inj told]
    · rw [ungiven, since, Option.none_or] at told
      rw [Option.some.inj told]
      exact ⟨rfl, recalls.first _ ungiven (since.trans told)⟩
    · rw [ungiven, unshown] at told
      cases told
  · cases same
    obtain ⟨ungiven, unshown⟩ := Option.or_eq_none_iff.mp (recalls.title.symm.trans untitled)
    rw [recalls.labels] at looks
    refine ⟨fun given since => ?_, fun shown _ since => ?_, fun _ _ => looks,
      fun _ => recalls.untitled untitled⟩
    · rw [ungiven] at since
      cases since
    · rw [unshown] at since
      cases since

/-- An index with one sound, where no other is found, and a setting that another writer changes
after two openings. -/
def fickle : Handler Studio Nat
  | .inl (.inl (.setting _)), n =>
    (some (if n < 2 then "content://media/internal/audio/media/7" else "a sound"), n)
  | .inl (.inl (.find _)), n => ((.ok 1 : Except QueryError CursorId), n)
  | .inl (.inl (.count cursor)), n => (cursor, n)
  | .inl (.inl (.moveToFirst _)), n => (true, n)
  | .inl (.inl (.cell _ _)), n => (some "8", n)
  | c, n => obliging c n

def restoring : Config := ⟨true, .ordinary, true, .ordinary, [(.ringtone 0, "a.ogg")]⟩

def askedEarly : List Episode × Session × Nat :=
  replay fickle (.new restoring none) 0
    [.setReference (some (.settingsDefault (.ringtone 0))), .title,
      .setAttributes (.ofStream .alarm), .setStreamNumber 99, .play, .stop]

theorem title_lasts_until_reference_asked :
    shownSince askedEarly.1 = some "Default (7)" ∧
      ((askedEarly.2.1.setReference askedEarly.2.1.reference >>= getTitle).run fickle
        askedEarly.2.2).1.1 = "Default ringtone" ∧
      ∀ t reply s', (askedEarly.2.1.perform .title).Runs t (reply, s') →
        reply = .title "Default (7)" := by
  have shown : shownSince askedEarly.1 = some "Default (7)" := by decide +kernel
  refine ⟨shown, by decide +kernel, fun t reply s' runs => ?_⟩
  obtain ⟨-, kept⟩ := title_lasts_until_reference restoring none (history_replay fickle _ 0 _)
  exact ((kept t reply s' runs).2.1 _ (by decide +kernel) shown).1

end AlertSound.Session
