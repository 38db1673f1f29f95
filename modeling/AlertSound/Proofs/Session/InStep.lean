import AlertSound.Proofs.InStep

/-!
Operations of two runs that are alike. Sessions that differ in the name of a handle only
give the same replies to the same operation, and afterwards they differ in the name of a
handle only.
-/
namespace AlertSound

open Function Program Trace

variable {K H D : Type}

namespace Session

inductive Backing.Like (ν : Names) : Backing → Backing → Prop where
  | unbound : Like ν .unbound .unbound
  | held {player player'} : Player.Like ν player player' → Like ν (.held player) (.held player')
  | delegated : Like ν .delegated .delegated

theorem Backing.Like.mono {ν ν' : Names} {b b' : Backing} (h : Like ν b b') (more : ν ≤ ν') :
    Like ν' b b' := by
  cases h with
  | unbound => exact .unbound
  | held alike => exact .held (alike.mono more)
  | delegated => exact .delegated

/-- Sessions that restore nothing and differ in the name of a handle only. -/
inductive Like (ν : Names) : Session → Session → Prop where
  | intro (s : Session) {b b'} : s.restore.enabled = false → Backing.Like ν b b' →
      Like ν { s with backing := b } { s with backing := b' }

theorem Like.mono {ν ν' : Names} {s s' : Session} (h : Like ν s s') (more : ν ≤ ν') :
    Like ν' s s' := by
  cases h with
  | intro s plain backing => exact .intro s plain (backing.mono more)

end Session

namespace Premises

variable (P : Premises K H D) {ν : Names}

section Sessions

variable {s s' : Session} (alike : Session.Like ν s s')

theorem sessionLog_inStep (level : Log.Level) (message : String)
    (fields : List (String × Log.FieldValue)) :
    InStep P.conduct ν (Session.log level message fields).left.left
      (Session.log level message fields).left.left fun _ => Eq :=
  .left (.left (P.log_inStep ..))

include alike

theorem releaseBacking_inStep :
    InStep P.conduct ν s.releaseBacking s'.releaseBacking Session.Like := by
  cases alike with
  | intro s plain backing =>
      cases backing with
      | unbound => exact .pure (.intro s plain .unbound)
      | held player =>
          exact .bind_same (.left (P.drop_inStep player)) fun _ _ _ =>
            .pure (.intro s plain .unbound)
      | delegated =>
          obtain ⟨labels, restore, delegate, attributes, reference, title, backing⟩ := s
          cases delegate with
          | none => exact .pure (.intro _ plain .unbound)
          | some token =>
              refine .bind_same (.right (P.remote_inStep _)) fun ν₁ answer _ => ?_
              split
              · exact .pure (.intro _ plain .unbound)
              · exact .bind_same (P.sessionLog_inStep ..) fun _ _ _ =>
                  .pure (.intro _ plain .unbound)

theorem openHere_inStep (r : Locator) :
    InStep P.conduct.left ν (s.openHere r) (s'.openHere r) fun ν => Likewise (Player.Like ν) := by
  cases alike with
  | intro s plain backing =>
      refine .bind_same (.left (P.inStep_of_plain (resolveActual_plain r))) fun ν₁ actual _ => ?_
      split
      · exact .pure (.error _)
      · refine .bind (P.openPrepared_inStep ..) fun ν₂ opened opened' _ same => ?_
        cases same with
        | error e => exact .pure (.error _)
        | ok alike => exact .pure (.ok alike)

theorem openReference_inStep (r : Locator) :
    InStep P.conduct ν (s.openReference r) (s'.openReference r) Session.Like := by
  have opening := P.openHere_inStep alike r
  cases alike with
  | intro s plain backing =>
      unfold Session.openReference
      simp only [plain, Bool.false_eq_true, if_false]
      refine .bind (.left opening) fun ν₁ opened opened' more same => ?_
      cases same with
      | @ok player player' alike =>
          -- What is logged names the source of the player and not its handle.
          simp only [alike.source]
          exact .bind_same (P.sessionLog_inStep ..) fun ν₂ _ more =>
            .pure (.intro s plain (.held (alike.mono more)))
      | error e =>
          have alike := Session.Like.intro s plain (backing.mono more)
          cases may : s.delegate.isSome with
          | true | false =>
              simp only [Session.allowsRemote, may, Bool.false_eq_true, if_true, if_false]
              exact .bind_same (P.sessionLog_inStep ..) fun ν₂ _ more => .pure (alike.mono more)

theorem bind_inStep : InStep P.conduct ν s.bind s'.bind Session.Like := by
  refine .bind (P.releaseBacking_inStep alike) fun ν₁ s₁ s₁' _ alike => ?_
  have opening := fun r => P.openReference_inStep alike r
  cases alike with
  | intro s plain backing =>
      simp only
      split
      · exact .pure (.intro s plain backing)
      · exact opening _

theorem setReference_inStep (reference : Option Locator) :
    InStep P.conduct ν (s.setReference reference) (s'.setReference reference) Session.Like := by
  cases alike with
  | intro s plain backing =>
      exact P.bind_inStep (.intro { s with title := none, reference } plain backing)

theorem setAttributes_inStep (attributes : Attributes) :
    InStep P.conduct ν (s.setAttributes attributes) (s'.setAttributes attributes) Session.Like := by
  cases alike with
  | intro s plain backing => exact P.bind_inStep (.intro { s with attributes } plain backing)

theorem setStreamNumber_inStep (number : Int) :
    InStep P.conduct ν (s.setStreamNumber number) (s'.setStreamNumber number)
      fun ν => Likewise (Session.Like ν) := by
  unfold Session.setStreamNumber
  split
  · exact .pure (.error _)
  · exact .bind (P.setAttributes_inStep alike _) fun _ _ _ _ alike => .pure (.ok alike)

theorem getTitle_inStep :
    InStep P.conduct ν s.getTitle s'.getTitle
      fun ν r r' => r.1 = r'.1 ∧ Session.Like ν r.2 r'.2 := by
  cases alike with
  | intro s plain backing =>
      unfold Session.getTitle
      simp only
      split
      · exact .pure ⟨rfl, .intro s plain backing⟩
      · refine .bind_same (.left (.left (P.resolve_inStep ..))) fun ν₁ title more => ?_
        exact .pure ⟨rfl, .intro { s with title := some title } plain (backing.mono more)⟩

theorem playFallback_inStep :
    InStep P.conduct ν s.playFallback s'.playFallback
      fun ν r r' => r.1 = r'.1 ∧ Session.Like ν r.2 r'.2 := by
  have same : s.reference = s'.reference ∧ s.attributes = s'.attributes := by
    cases alike
    exact ⟨rfl, rfl⟩
  unfold Session.playFallback
  rw [same.1, same.2]
  refine .bind (.left (P.fallback_inStep ..)) fun ν₁ played played' more related => ?_
  have alike := alike.mono more
  cases related with
  | none => exact .pure ⟨rfl, alike⟩
  | some player =>
      refine .bind (P.releaseBacking_inStep alike) fun ν₂ s₁ s₁' more alike => ?_
      cases alike with
      | intro s plain _ => exact .pure ⟨rfl, .intro s plain (.held (player.mono more))⟩

theorem delegatePlay_inStep :
    InStep P.conduct ν s.delegatePlay s'.delegatePlay fun _ => Eq := by
  cases alike with
  | intro s plain backing =>
      unfold Session.delegatePlay
      simp only
      split
      · refine .bind_same (.left (.left (P.inStep_of_plain (resolveActual_plain _))))
          fun ν₁ actual _ => ?_
        split
        · exact .bind_same (P.sessionLog_inStep ..) fun _ _ _ => .pure rfl
        · refine .bind_same (P.sessionLog_inStep ..) fun ν₂ _ _ => ?_
          refine .bind_same (.right (P.remote_inStep _)) fun ν₃ answer _ => ?_
          exact .pure rfl
      · exact .pure rfl

theorem playInstead_inStep (message : String) (fields : List (String × Log.FieldValue)) :
    InStep P.conduct ν (s.playInstead message fields) (s'.playInstead message fields)
      Session.Like := by
  refine .bind (P.playFallback_inStep alike) fun ν₁ r r' _ related => ?_
  obtain ⟨played, s⟩ := r
  obtain ⟨_, s'⟩ := r'
  obtain ⟨rfl, alike⟩ := related
  cases played with
  | false => exact .bind_same (P.sessionLog_inStep ..) fun _ _ more => .pure (alike.mono more)
  | true => exact .pure alike

theorem play_inStep : InStep P.conduct ν s.play s'.play Session.Like := by
  -- Both are about sessions, which the case below takes apart.
  have instead {ν'} (more : ν ≤ ν') (message : String) (fields : List (String × Log.FieldValue)) :=
    P.playInstead_inStep (alike.mono more) message fields
  have delegating {ν'} (more : ν ≤ ν') := P.delegatePlay_inStep (alike.mono more)
  cases alike with
  | intro s plain backing =>
      unfold Session.play
      refine .bind_same (.left (.left (P.inStep_of_plain (.request trivial))))
        fun ν₁ volume more => ?_
      have alike := Session.Like.intro s plain (backing.mono more)
      have muted : InStep P.conduct ν₁ s.logMuted.left.left s.logMuted.left.left fun _ => Eq :=
        P.sessionLog_inStep ..
      cases backing with
      | held player =>
          simp only
          split
          · exact .bind_same muted fun _ _ more => .pure (alike.mono more)
          · refine .bind_same (.left (P.start_inStep (player.mono more))) fun ν₂ started more => ?_
            split
            · exact .pure (alike.mono more)
            · exact .bind_same (P.sessionLog_inStep ..) fun _ _ more' =>
                .pure (alike.mono (le_trans more more'))
      | unbound | delegated =>
          simp only
          split
          · exact .bind_same muted fun _ _ more => .pure (alike.mono more)
          · refine .bind_same (delegating more) fun ν₂ answer more' => ?_
            split
            · exact .pure (.intro s plain .delegated)
            · exact instead (le_trans more more') ..
            · exact instead (le_trans more more') ..

theorem sessionIsPlaying_inStep : InStep P.conduct ν s.isPlaying s'.isPlaying fun _ => Eq := by
  cases alike with
  | intro s plain backing =>
      cases backing with
      | held player => exact .left (P.isPlaying_inStep player)
      | unbound | delegated =>
          obtain ⟨labels, restore, delegate, attributes, reference, title, backing⟩ := s
          cases delegate with
          | none => exact .bind_same (P.sessionLog_inStep ..) fun _ _ _ => .pure rfl
          | some token =>
              refine .bind_same (.right (P.remote_inStep _)) fun ν₁ answer _ => ?_
              split
              · exact .pure rfl
              · exact .bind_same (P.sessionLog_inStep ..) fun _ _ _ => .pure rfl

/-- Sessions that are alike give the same replies to the same operation. -/
theorem perform_inStep (operation : Session.Operation) :
    InStep P.conduct ν (s.perform operation) (s'.perform operation)
      fun ν r r' => r.1 = r'.1 ∧ Session.Like ν r.2 r'.2 := by
  cases operation with
  | setReference reference =>
      exact .bind (P.setReference_inStep alike reference) fun _ _ _ _ alike => .pure ⟨rfl, alike⟩
  | setAttributes attributes =>
      exact .bind (P.setAttributes_inStep alike attributes) fun _ _ _ _ alike => .pure ⟨rfl, alike⟩
  | setStreamNumber number =>
      refine .bind (P.setStreamNumber_inStep alike number) fun ν₁ r r' more related => ?_
      cases related with
      | error e => exact .pure ⟨rfl, alike.mono more⟩
      | ok alike => exact .pure ⟨rfl, alike⟩
  | attributes | stream | reference | allowsRemote =>
      cases alike with
      | intro s plain backing => exact .pure ⟨rfl, .intro s plain backing⟩
  | title =>
      exact .bind (P.getTitle_inStep alike) fun _ _ _ _ related =>
        .pure ⟨congrArg Session.Reply.title related.1, related.2⟩
  | setTitle title =>
      cases alike with
      | intro s plain backing =>
          exact .pure ⟨rfl, .intro { s with title := some title } plain backing⟩
  | play => exact .bind (P.play_inStep alike) fun _ _ _ _ alike => .pure ⟨rfl, alike⟩
  | stop => exact .bind (P.releaseBacking_inStep alike) fun _ _ _ _ alike => .pure ⟨rfl, alike⟩
  | isPlaying =>
      exact .bind_same (P.sessionIsPlaying_inStep alike) fun _ _ more =>
        .pure ⟨rfl, alike.mono more⟩
  | playFallback =>
      exact .bind (P.playFallback_inStep alike) fun _ _ _ _ related =>
        .pure ⟨congrArg Session.Reply.flag related.1, related.2⟩

end Sessions

end Premises
end AlertSound
