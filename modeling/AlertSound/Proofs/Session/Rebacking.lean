import AlertSound.Proofs.Session.Sourced

/-!
What the parts of an operation leave of a session. Opening the sound anew, playing and stopping
change what the session plays with and nothing else of it.
-/
namespace AlertSound.Session

open Program

def Rebacked (s s' : Session) : Prop := s' = { s with backing := s'.backing }

variable {s s₁ s' : Session}

theorem Rebacked.rfl : Rebacked s s := by cases s; exact Eq.refl _

theorem Rebacked.of_backing {backing : Backing} : Rebacked s { s with backing } := Eq.refl _

theorem Rebacked.trans (h : Rebacked s s₁) (h' : Rebacked s₁ s') : Rebacked s s' :=
  Eq.trans h' (congrArg (fun b : Session => { b with backing := s'.backing }) h)

theorem Rebacked.restore (h : Rebacked s s') : s'.restore = s.restore := by rw [show s' = _ from h]

theorem Rebacked.reference (h : Rebacked s s') : s'.reference = s.reference := by
  rw [show s' = _ from h]

variable (s)

theorem releaseBacking_rebacked : s.releaseBacking.Ensures fun _ s' => Rebacked s s' :=
  s.releaseBacking_result.mono fun _ _ released => released ▸ .of_backing

theorem afterRestore_result {Q : Session → Prop} {config : RestoreConfig}
    {p : Program Studio Session} (h : p.Ensures fun _ s' => Q s') :
    (if config.enabled = true then do
      let _ ← liftM (Restore.all config)
      p
    else p).Ensures fun _ s' => Q s' := by
  split
  · exact Ensures.bind (Q := fun _ _ => True) (.of_forall fun _ _ => trivial) fun _ _ _ => h
  · exact h

theorem openReference_rebacked (r : Locator) :
    (s.openReference r).Ensures fun _ s' => Rebacked s s' := by
  simp only [openReference]
  refine afterRestore_result (.bind (Q := fun _ _ => True) (.of_forall fun _ _ => trivial)
    fun t opened _ => ?_)
  split
  · simp [log, Resource.log, Rebacked]
  · split
    · simp [log, Resource.log, Rebacked]
    · simp [log, Resource.log, Rebacked]

theorem bind_rebacked : s.bind.Ensures fun _ s' => Rebacked s s' := by
  refine s.releaseBacking_rebacked.bind fun t s₁ released => ?_
  split
  · exact ensures_pure.mpr released
  · exact (s₁.openReference_rebacked _).mono fun _ _ => released.trans

theorem playFallback_rebacked :
    s.playFallback.Ensures fun _ result => Rebacked s result.2 := by
  refine Ensures.bind (Q := fun _ _ => True) (.of_forall fun _ _ => trivial) fun _ played _ => ?_
  cases played with
  | none => exact ensures_pure.mpr .rfl
  | some player =>
      exact s.releaseBacking_rebacked.bind fun _ s₁ released =>
        ensures_pure.mpr (released.trans .of_backing)

theorem playInstead_rebacked (message : String) (fields : List (String × Log.FieldValue)) :
    (s.playInstead message fields).Ensures fun _ s' => Rebacked s s' := by
  refine s.playFallback_rebacked.bind fun _ result same => ?_
  obtain ⟨played, s'⟩ := result
  cases played with
  | false => simpa [log, Resource.log] using same
  | true => exact ensures_pure.mpr same

theorem play_rebacked : s.play.Ensures fun _ s' => Rebacked s s' := by
  refine Ensures.bind (Q := fun _ _ => True) (.of_forall fun _ _ => trivial) fun _ volume _ => ?_
  split
  · split
    · simp [logMuted, log, Resource.log, Rebacked]
    · refine Ensures.bind (Q := fun _ _ => True) (.of_forall fun _ _ => trivial)
        fun _ started _ => ?_
      cases started with
      | ok _ => exact ensures_pure.mpr .rfl
      | error e => simp [log, Resource.log, Rebacked]
  · split
    · simp [logMuted, log, Resource.log, Rebacked]
    · refine Ensures.bind (Q := fun _ _ => True) (.of_forall fun _ _ => trivial)
        fun _ delegated _ => ?_
      split
      · exact ensures_pure.mpr .of_backing
      · exact playInstead_rebacked ..
      · exact playInstead_rebacked ..

end AlertSound.Session
