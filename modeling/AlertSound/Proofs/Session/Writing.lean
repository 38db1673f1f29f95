import AlertSound.Proofs.Host.Store
import AlertSound.Proofs.Session.Rebacking

/-!
Who writes in a session. Restoring is the one thing a session does that may change files or
settings, and it restores when its sound is opened anew. So what restoring keeps is kept by
every operation that opens the sound. The slots that are restored stay the same.
-/
namespace AlertSound.Session

open Program Host

variable {P : Machine → Prop} (s : Session)

theorem getTitle_spares : s.getTitle.Asks Studio.Spares := by
  unfold getTitle
  split
  · exact .pure _
  · have looks := (Title.resolve_finds s.labels s.reference .follow).mono
      fun _ => Resource.Call.Finds.spares
    exact .bind (.left (.left looks)) fun _ => .pure _

theorem log_spares (level : Log.Level) (message : String)
    (fields : List (String × Log.FieldValue)) :
    ((log level message fields).left.left : Program Studio Unit).Asks Studio.Spares :=
  (log_plain ..).mono fun _ => Studio.Plain.spares

/-- What restoring keeps, it keeps before anything that keeps it too. -/
theorem afterRestore_preserves {config : RestoreConfig} {p : Program Studio Session}
    (restores : (Restore.all config).Preserves Machine.handler P)
    (h : p.Preserves Host.handler fun host => P host.machine) :
    (if config.enabled = true then do
      let _ ← liftM (Restore.all config)
      p
    else p).Preserves Host.handler fun host => P host.machine := by
  split
  · refine .bind (fun host before => ?_) fun _ => h
    rw [lift_left_left, run_resources]
    exact restores _ before
  · exact h

theorem openReference_preserves (lasting : Lasting P)
    (restores : (Restore.all s.restore).Preserves Machine.handler P) (r : Locator) :
    (s.openReference r).Preserves Host.handler fun host => P host.machine := by
  simp only [openReference]
  refine afterRestore_preserves restores (lasting.studio ?_)
  refine .bind (.left ((s.openHere_plain r).mono fun _ => Studio.Plain.spares)) fun opened => ?_
  split
  · exact .bind (log_spares ..) fun _ => .pure _
  · split
    · exact .bind (log_spares ..) fun _ => .pure _
    · exact .bind (log_spares ..) fun _ => .pure _

theorem bind_preserves (lasting : Lasting P)
    (restores : (Restore.all s.restore).Preserves Machine.handler P) :
    s.bind.Preserves Host.handler fun host => P host.machine := by
  refine .bind_of (lasting.studio (s.releaseBacking_plain.mono fun _ => Studio.Plain.spares))
    s.releaseBacking_result fun s' released => ?_
  subst released
  split
  · exact .pure _
  · exact openReference_preserves { s with backing := .unbound } lasting restores _

theorem setStreamNumber_preserves (lasting : Lasting P)
    (restores : (Restore.all s.restore).Preserves Machine.handler P) (number : Int) :
    (s.setStreamNumber number).Preserves Host.handler fun host => P host.machine := by
  unfold setStreamNumber
  split
  · exact .pure _
  · exact .bind (bind_preserves _ lasting restores) fun _ => .pure _

theorem setStreamNumber_restore (number : Int) :
    (s.setStreamNumber number).Ensures fun _ result =>
      ∀ s', result = .ok s' → s'.restore = s.restore := by
  unfold setStreamNumber
  split
  · exact ensures_pure.mpr fun s' given => by cases given
  · rename_i stream _
    simp only [setAttributes, ensures_bind, ensures_pure]
    refine (bind_rebacked { s with attributes := .ofStream stream }).mono
      fun t s' same s'' given => ?_
    cases given
    exact same.restore

def PassesOnce (config : RestoreConfig) (t : Trace Studio) : Prop :=
  ∃ u v w n, t = u ++ v.map (fun e => e.left.left) ++ w ∧ (∀ e ∈ u, Studio.Spares e.call) ∧
    (∀ e ∈ w, Studio.Spares e.call) ∧ (Restore.all config).Runs v n

def Writes (config : RestoreConfig) (t : Trace Studio) : Prop :=
  (∀ e ∈ t, Studio.Spares e.call) ∨ config.enabled = true ∧ PassesOnce config t

theorem Writes.extend {config : RestoreConfig} {t u w : Trace Studio} (h : Writes config t)
    (before : ∀ e ∈ u, Studio.Spares e.call) (after : ∀ e ∈ w, Studio.Spares e.call) :
    Writes config (u ++ t ++ w) := by
  cases h with
  | inl spares =>
      exact .inl (List.forall_mem_append.mpr ⟨List.forall_mem_append.mpr ⟨before, spares⟩, after⟩)
  | inr passes =>
      obtain ⟨enabled, u', v, w', n, rfl, before', after', runs⟩ := passes
      exact .inr ⟨enabled, u ++ u', v, w' ++ w, n, by simp, List.forall_mem_append.mpr
        ⟨before, before'⟩, List.forall_mem_append.mpr ⟨after', after⟩, runs⟩

theorem afterRestore_writes {config : RestoreConfig} {p : Program Studio Session}
    (h : p.Asks Studio.Spares) :
    (if config.enabled = true then do
      let _ ← liftM (Restore.all config)
      p
    else p).Ensures fun t _ => Writes config t := by
  split
  · rename_i enabled
    rw [lift_left_left, ensures_bind, ensures_left, ensures_left]
    intro v n runs
    refine Ensures.mono h fun w s' spares => .inr ⟨enabled, [], v, w, n, ?_, by simp, spares, runs⟩
    simp
  · exact Ensures.mono h fun w s' spares => .inl spares

theorem openReference_writes (r : Locator) :
    (s.openReference r).Ensures fun t _ => Writes s.restore t := by
  simp only [openReference]
  refine afterRestore_writes (.bind (.left ((s.openHere_plain r).mono fun _ =>
    Studio.Plain.spares)) fun opened => ?_)
  split
  · exact .bind (log_spares ..) fun _ => .pure _
  · split
    · exact .bind (log_spares ..) fun _ => .pure _
    · exact .bind (log_spares ..) fun _ => .pure _

/-- Binding writes for a sound only. -/
theorem bind_writes : s.bind.Ensures fun t _ => (∀ e ∈ t, Studio.Spares e.call) ∨
    s.reference ≠ none ∧ s.restore.enabled = true ∧ PassesOnce s.restore t := by
  have released := s.releaseBacking_plain.mono fun _ => Studio.Plain.spares
  refine (s.releaseBacking_result.and released).bind fun u s' ⟨same, before⟩ => ?_
  subst same
  split
  · exact ensures_pure.mpr (.inl (by simpa using before))
  · rename_i r sound
    refine (openReference_writes _ r).mono fun t s' writes => ?_
    have some : s.reference ≠ none := by
      rw [show s.reference = _ from sound]
      exact Option.some_ne_none r
    have extended := writes.extend before (w := []) (by simp)
    rw [List.append_nil] at extended
    exact extended.imp_right fun passes => ⟨some, passes⟩

/-- Nothing is written, or the sound was opened anew and a restore pass was made for it. -/
def WritesFor (config : RestoreConfig) (o : Operation) (t : Trace Studio)
    (result : Reply × Session) : Prop :=
  (∀ e ∈ t, Studio.Spares e.call) ∨ Rebinds o result.1 ∧ result.2.reference ≠ none ∧
    config.enabled = true ∧ PassesOnce config t

theorem rebind_writes {o : Operation} {reply : Reply} (anew : Rebinds o reply) :
    s.bind.Ensures fun t s' => s'.restore = s.restore ∧ WritesFor s.restore o t (reply, s') := by
  refine (s.bind_rebacked.and s.bind_writes).mono fun t s' ⟨same, writes⟩ =>
    ⟨same.restore, writes.imp_right fun passes => ⟨anew, ?_, passes.2⟩⟩
  rw [same.reference]
  exact passes.1

theorem perform_writes (o : Operation) : (s.perform o).Ensures fun t result =>
    result.2.restore = s.restore ∧ WritesFor s.restore o t result := by
  have quiet {α : Type} {p : Program Studio α} {f : α → Reply × Session}
      (spares : p.Asks Studio.Spares) (keeps : p.Ensures fun _ a => (f a).2.restore = s.restore) :
      (f <$> p).Ensures fun t result =>
        result.2.restore = s.restore ∧ WritesFor s.restore o t result :=
    ensures_map.mpr ((keeps.and spares).mono fun t a ⟨same, spares⟩ => ⟨same, .inl spares⟩)
  have plain {α : Type} {p : Program Studio α} (h : p.Asks Studio.Plain) : p.Asks Studio.Spares :=
    h.mono fun _ => Studio.Plain.spares
  have still (reply : Reply) (s' : Session) (same : s'.restore = s.restore) :
      (pure (reply, s') : Program Studio (Reply × Session)).Ensures fun t result =>
        result.2.restore = s.restore ∧ WritesFor s.restore o t result :=
    ensures_pure.mpr ⟨same, .inl (by simp)⟩
  cases o with
  | setReference reference =>
      exact ensures_map.mpr (rebind_writes { s with title := none, reference } trivial)
  | setAttributes attributes => exact ensures_map.mpr (rebind_writes { s with attributes } trivial)
  | attributes | stream | reference | allowsRemote => exact still _ s rfl
  | setTitle title => exact still _ (s.setTitle title) rfl
  | play =>
      exact quiet (plain s.play_plain) (s.play_rebacked.mono fun _ _ same => same.restore)
  | stop =>
      refine quiet (plain s.releaseBacking_plain)
        (s.releaseBacking_result.mono fun _ s' released => ?_)
      subst released
      rfl
  | isPlaying => exact quiet (plain s.isPlaying_plain) (.of_forall fun _ _ => rfl)
  | playFallback =>
      exact quiet (plain s.playFallback_plain)
        (s.playFallback_rebacked.mono fun _ _ same => same.restore)
  | title =>
      refine quiet s.getTitle_spares ?_
      unfold getTitle
      split
      · exact ensures_pure.mpr rfl
      · exact ensures_map.mpr (.of_forall fun _ _ => rfl)
  | setStreamNumber number =>
      simp only [perform, setStreamNumber]
      split
      · exact still _ s rfl
      · rename_i stream _
        simp only [setAttributes, ensures_bind, ensures_pure, List.append_nil]
        exact rebind_writes { s with attributes := .ofStream stream } trivial

end AlertSound.Session
