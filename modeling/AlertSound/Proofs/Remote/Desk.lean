import AlertSound.Proofs.Premises
import AlertSound.Proofs.Remote.Serving

/-!
One worker, and a desk for each client. On each desk lies what plays for that client. A
call of a client is answered by what lies on its own desk and changes no other, so that a
worker that serves many clients is to each of them what a worker of its own would be.
-/
namespace AlertSound

open Function Program Trace

variable {H : Type}

namespace Workshop

def desk (shop : Workshop H) : Handler Remotes (Option H)
  | .play _ r attributes, _ => (.ok (), shop.begun (.locator r) attributes)
  | .stop _, _ => (.ok (), none)
  | .isPlaying _, here => (.ok (here.elim false shop.isPlaying), here)

/-- Every call goes to the desk of its client. -/
def desks (shop : Workshop H) : Handler Remotes (Token → Option H) := fun c all =>
  let (answer, here) := shop.desk c (all c.token)
  (answer, update all c.token here)

end Workshop

namespace Player

variable {shop : Workshop H} {source : Source} {attributes : Attributes} {t : Trace Engines}
  {T T' : Table H} {result : Except EngineError Player}

theorem ending_elsewhere {handle handle' : HandleId} {h : H}
    (path : shop.conduct.Path (ending handle) T T') (known : T handle' = some h)
    (other : handle' ≠ handle) : T' handle' = some h := by
  refine shop.frame path known fun e mem operation asked => other ?_
  simp only [ending, List.mem_cons, List.not_mem_nil, or_false] at mem
  obtain rfl | rfl | rfl := mem <;> cases asked <;> rfl

/-- Handles that were there are as they were. A new one, if there is one, is this. -/
structure Made (T T' : Table H) (made : Option H) (result : Except EngineError Player) : Prop where
  kept : ∀ {handle h}, T handle = some h → T' handle = some h
  failed : ∀ {e}, result = .error e → made = none
  fresh : ∀ {player}, result = .ok player → T player.handle = none
  there : ∀ {player}, result = .ok player → ∃ h, made = some h ∧ T' player.handle = some h

theorem Opening.made (opening : Opening source attributes t result)
    (path : shop.conduct.Path t T T') :
    Made T T' (shop.readied source attributes) result := by
  cases opening with
  | refused e =>
      obtain ⟨_, opened, rfl⟩ := path
      obtain ⟨refused, rfl⟩ := Dealing.follows_opens.mp opened
      exact
        { kept := id
          failed := fun _ => by simp [Workshop.readied, refused, Except.toOption]
          fresh := by simp
          there := by simp }
  | unprepared handle e =>
      obtain ⟨_, opened, _, prepared, ended⟩ := path
      obtain ⟨h, made, free, rfl⟩ := Dealing.follows_opens.mp opened
      obtain ⟨failed, rfl⟩ := (Dealing.follows_uses (update_self ..)).mp prepared
      refine
        { kept := fun known => ?_
          failed := fun _ => by
            simp [Workshop.readied, Workshop.unlessFailed, made, ← failed, Except.toOption]
          fresh := by simp
          there := by simp }
      have other := Table.ne_of_free known free
      refine ending_elsewhere ended ?_ other
      rwa [update_of_ne other, update_of_ne other]
  | ready handle =>
      obtain ⟨_, opened, _, prepared, rfl⟩ := path
      obtain ⟨h, made, free, rfl⟩ := Dealing.follows_opens.mp opened
      obtain ⟨fine, rfl⟩ := (Dealing.follows_uses (update_self ..)).mp prepared
      refine
        { kept := fun known => ?_
          failed := by simp
          fresh := fun same => by cases same; exact free
          there := fun same => ?_ }
      · have other := Table.ne_of_free known free
        rwa [update_of_ne other, update_of_ne other]
      · cases same
        refine ⟨_, ?_, update_self ..⟩
        simp [Workshop.readied, Workshop.unlessFailed, made, ← fine, Except.toOption]

theorem Starting.made (starting : Starting source attributes t result)
    (path : shop.conduct.Path t T T') :
    Made T T' (shop.begun source attributes) result := by
  cases starting with
  | unopened opening =>
      have made := opening.made path
      exact
        { kept := made.kept
          failed := fun same => by simp [Workshop.begun, made.failed same]
          fresh := by simp
          there := by simp }
  | @unstarted _ player e opening =>
      rw [List.append_assoc] at path
      obtain ⟨T₁, opened, _, started, ended⟩ := Conduct.path_append.mp path
      have made := opening.made opened
      obtain ⟨h, ready, there⟩ := made.there rfl
      obtain ⟨failed, rfl⟩ := (Dealing.follows_uses there).mp started
      refine
        { kept := fun known => ?_
          failed := fun _ => by
            simp [Workshop.begun, Workshop.unlessFailed, ready, ← failed, Except.toOption]
          fresh := by simp
          there := by simp }
      have other := Table.ne_of_free known (made.fresh rfl)
      refine ending_elsewhere ended ?_ other
      rw [update_of_ne other, made.kept known]
  | @started _ player opening =>
      obtain ⟨T₁, opened, _, started, rfl⟩ := Conduct.path_append.mp path
      have made := opening.made opened
      obtain ⟨h, ready, there⟩ := made.there rfl
      obtain ⟨fine, rfl⟩ := (Dealing.follows_uses there).mp started
      refine
        { kept := fun known => ?_
          failed := by simp
          fresh := made.fresh
          there := fun same => ?_ }
      · rw [update_of_ne (Table.ne_of_free known (made.fresh rfl)), made.kept known]
      · cases same
        refine ⟨_, ?_, update_self ..⟩
        simp [Workshop.begun, Workshop.unlessFailed, ready, ← fine, Except.toOption]

end Player

namespace Remote

namespace Worker

def desks (w : Worker) (T : Table H) : Token → Option H :=
  fun token => (w.player? token).bind fun player => T player.handle

end Worker

structure Keeps (T : Table H) (w : Worker) : Prop where
  known : ∀ {token player}, w.player? token = some player → ∃ h, T player.handle = some h
  own : ∀ {token token' player player'}, w.player? token = some player →
    w.player? token' = some player' → player.handle = player'.handle → token = token'

namespace Keeps

variable {shop : Workshop H} {T T' : Table H} {w w' : Worker} {token : Token}

theorem idle (T : Table H) : Keeps T .idle := ⟨nofun, nofun⟩

/-- Ending what a client had clears its desk and no other. -/
theorem ended (keeps : Keeps T w) (path : shop.conduct.Path (w.ended token) T T') :
    Keeps T' (w.without token) ∧
      (w.without token).desks T' = update (w.desks T) token none := by
  -- What is ended is the client's own handle, and no other player has it.
  have still {token' player} (other : token' ≠ token) (found : w.player? token' = some player) :
      T' player.handle = T player.handle := by
    obtain ⟨h, known⟩ := keeps.known found
    rw [known]
    unfold Worker.ended at path
    split at path
    · exact path ▸ known
    · rename_i mine
      exact Player.ending_elsewhere path known fun same => other (keeps.own found mine same)
  have left {token' player} (found : (w.without token).player? token' = some player) :
      token' ≠ token ∧ w.player? token' = some player := by
    have other : token' ≠ token := by
      rintro rfl
      simp [Worker.player?_without_self] at found
    exact ⟨other, Worker.player?_without other ▸ found⟩
  refine ⟨⟨fun found => ?_, fun found found' => ?_⟩, funext fun token' => ?_⟩
  · obtain ⟨other, found⟩ := left found
    rw [still other found]
    exact keeps.known found
  · exact keeps.own (left found).2 (left found').2
  · by_cases same : token' = token
    · simp [same, Worker.desks, Worker.player?_without_self]
    · rw [update_of_ne same]
      simp only [Worker.desks, Worker.player?_without same]
      cases found : w.player? token' with
      | none => rfl
      | some player => exact still same found

/-- Handles that are made besides lie on no desk. -/
theorem kept (keeps : Keeps T w) (more : ∀ {handle h}, T handle = some h → T' handle = some h) :
    Keeps T' w ∧ w.desks T' = w.desks T := by
  refine ⟨⟨fun found => ?_, keeps.own⟩, funext fun token => ?_⟩
  · obtain ⟨h, known⟩ := keeps.known found
    exact ⟨h, more known⟩
  · simp only [Worker.desks]
    cases found : w.player? token with
    | none => rfl
    | some player =>
        obtain ⟨h, known⟩ := keeps.known found
        simp [known, more known]

/-- A new player takes the empty desk of its client. -/
theorem cons (keeps : Keeps T w) {player : Player} {made : Option H}
    (more : Player.Made T T' made (.ok player)) (none : w.player? token = none) :
    Keeps T' ⟨(token, player) :: w.players⟩ ∧
      Worker.desks ⟨(token, player) :: w.players⟩ T' = update (w.desks T) token made := by
  have self : Worker.player? ⟨(token, player) :: w.players⟩ token = some player := by
    simp [Worker.player?]
  have elsewhere {token' : Token} (other : token' ≠ token) :
      Worker.player? ⟨(token, player) :: w.players⟩ token' = w.player? token' := by
    simp [Worker.player?, List.lookup_cons, beq_false_of_ne other]
  obtain ⟨h, new, there⟩ := more.there rfl
  -- The handle is new, and the players that are there have known ones.
  have apart {token' player'} (found : w.player? token' = some player') :
      player'.handle ≠ player.handle := by
    obtain ⟨h', known⟩ := keeps.known found
    exact Table.ne_of_free known (more.fresh rfl)
  have either {token' player'}
      (found : Worker.player? ⟨(token, player) :: w.players⟩ token' = some player') :
      token' = token ∧ player' = player ∨ w.player? token' = some player' := by
    by_cases same : token' = token
    · subst same
      exact .inl ⟨rfl, Option.some.inj (found.symm.trans self)⟩
    · exact .inr (elsewhere same ▸ found)
  obtain ⟨keeps', desks⟩ := keeps.kept more.kept
  refine ⟨⟨fun found => ?_, fun found₁ found₂ shared => ?_⟩, funext fun token' => ?_⟩
  · cases either found with
    | inl new => exact ⟨h, new.2 ▸ there⟩
    | inr old => exact keeps'.known old
  · cases either found₁ with
    | inl new₁ =>
        cases either found₂ with
        | inl new₂ => exact new₁.1.trans new₂.1.symm
        | inr old₂ =>
            exact absurd (shared.symm.trans (congrArg Player.handle new₁.2)) (apart old₂)
    | inr old₁ =>
        cases either found₂ with
        | inl new₂ => exact absurd (shared.trans (congrArg Player.handle new₂.2)) (apart old₁)
        | inr old₂ => exact keeps.own old₁ old₂ shared
  · by_cases same : token' = token
    · subst same
      simp [Worker.desks, self, there, new]
    · rw [update_of_ne same, ← desks]
      simp only [Worker.desks, elsewhere same]

/-- Serving a call answers it from the desk of its client. -/
theorem served (keeps : Keeps T w) {c : Call} {t : Trace Engines} {answer : Remotes.Answer c}
    (served : Served w c t answer w') (path : shop.conduct.Path t T T') :
    Keeps T' w' ∧ (answer, w'.desks T') = shop.desks c (w.desks T) := by
  cases served with
  | @failed token r attributes t e starting =>
      obtain ⟨T₁, first, rest⟩ := Conduct.path_append.mp path
      obtain ⟨keeps, cleared⟩ := keeps.ended first
      have made := starting.made rest
      obtain ⟨keeps, desks⟩ := keeps.kept made.kept
      refine ⟨keeps, ?_⟩
      rw [desks, cleared, ← made.failed rfl]
      rfl
  | @playing token r attributes t player starting =>
      obtain ⟨T₁, first, rest⟩ := Conduct.path_append.mp path
      obtain ⟨keeps, cleared⟩ := keeps.ended first
      obtain ⟨keeps, desks⟩ := keeps.cons (starting.made rest) Worker.player?_without_self
      refine ⟨keeps, ?_⟩
      rw [desks, cleared, update_idem]
      rfl
  | stopped token =>
      obtain ⟨keeps, cleared⟩ := keeps.ended path
      refine ⟨keeps, ?_⟩
      rw [cleared]
      rfl
  | @nothing token none =>
      cases path
      have empty : w.desks T token = .none := by simp [Worker.desks, none]
      exact ⟨keeps, by simp [Workshop.desks, Workshop.desk, Call.token, empty]⟩
  | @asked token player playing found =>
      obtain ⟨_, asked, rfl⟩ := path
      obtain ⟨h, known⟩ := keeps.known found
      obtain ⟨said, same⟩ := (Dealing.follows_uses known).mp asked
      have same : T' = T := same.trans (update_eq_self_iff.mpr known.symm)
      have here : w.desks T token = some h := by simp [Worker.desks, found, known]
      have said : playing = shop.isPlaying h := said
      rw [said, same]
      exact ⟨keeps, by simp [Workshop.desks, Workshop.desk, Call.token, here]⟩

end Keeps
end Remote
end AlertSound
