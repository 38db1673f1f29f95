import AlertSound.Remote.Worker
import AlertSound.Proofs.Session.Passage

/-!
What the remote player does with one call. `Served` lists the traces that serving
can leave: the handle a client had is ended before another is opened, and a client
has a player afterwards exactly if the new handle was opened, prepared and started.
-/
namespace AlertSound.Remote

open Program Trace

/-- The answer to a call that no worker is there to serve. -/
def Call.unreached : (c : Call) → Remotes.Answer c
  | .play _ _ _ => .error .disconnected
  | .stop _ => .error .disconnected
  | .isPlaying _ => .error .disconnected

namespace Worker

def serve (w : Worker) : (c : Call) → Program Stage (Remotes.Answer c × Worker)
  | .play token r attributes => return (.ok (), ← w.servePlay token r attributes)
  | .stop token => return (.ok (), ← w.serveStop token)
  | .isPlaying token => return (.ok (← w.serveIsPlaying token), w)

def handles (w : Worker) : List HandleId := w.players.map fun entry => entry.2.handle

def Distinct (w : Worker) : Prop := (w.players.map Prod.fst).Nodup

def entries (w : Worker) (token : Token) : Nat := (w.players.map Prod.fst).count token

def ended (w : Worker) (token : Token) : Trace Engines :=
  match w.player? token with
  | none => []
  | some player => Player.ending player.handle

variable {w : Worker} {token token' : Token} {player : Player}

theorem distinct_idle : idle.Distinct := .nil

theorem player?_eq_none_iff : w.player? token = none ↔ token ∉ w.players.map Prod.fst := by
  simp only [player?, List.lookup_eq_none_iff, List.mem_map, not_exists, not_and]
  constructor
  · intro h entry he same
    simpa [same] using h entry he
  · intro h entry he
    simpa using fun same : token = entry.1 => h entry he same.symm

theorem entries_le_one (distinct : w.Distinct) : w.entries token ≤ 1 :=
  List.nodup_iff_count.mp distinct token

theorem entries_eq_zero_iff : w.entries token = 0 ↔ w.player? token = none := by
  rw [entries, List.count_eq_zero, player?_eq_none_iff]

theorem player?_without_self : (w.without token).player? token = none := by
  rw [player?_eq_none_iff]
  simp [without]

theorem player?_without (other : token' ≠ token) :
    (w.without token).player? token' = w.player? token' := by
  obtain ⟨players⟩ := w
  induction players with
  | nil => rfl
  | cons entry rest ih =>
      obtain ⟨key, player⟩ := entry
      simp only [player?, without, List.filter_cons] at ih ⊢
      by_cases same : key = token
      · subst same
        have miss : (token' == key) = false := by simpa using other
        simpa [List.lookup_cons, miss] using ih
      · have keep : (key != token) = true := by simpa using same
        simp only [keep, if_true, List.lookup_cons]
        split
        · rfl
        · exact ih

theorem without_of_none (none : w.player? token = none) : w.without token = w := by
  rw [player?_eq_none_iff] at none
  obtain ⟨players⟩ := w
  simp only [without, mk.injEq, List.filter_eq_self]
  intro entry he
  simpa using fun same : entry.1 = token => none (List.mem_map.mpr ⟨entry, he, same⟩)

theorem distinct_without (distinct : w.Distinct) : (w.without token).Distinct :=
  distinct.sublist (List.filter_sublist.map Prod.fst)

theorem distinct_cons (distinct : w.Distinct) (none : w.player? token = none) :
    Distinct ⟨(token, player) :: w.players⟩ :=
  List.nodup_cons.mpr ⟨player?_eq_none_iff.mp none, distinct⟩

/-- The players are those of the other clients and the one that the client has. -/
theorem players_perm (distinct : w.Distinct) (found : w.player? token = some player) :
    w.players.Perm ((token, player) :: (w.without token).players) := by
  obtain ⟨players⟩ := w
  induction players with
  | nil => cases found
  | cons entry rest ih =>
      obtain ⟨key, held⟩ := entry
      obtain ⟨fresh, distinct⟩ := List.nodup_cons.mp distinct
      by_cases same : key = token
      · subst same
        have none : player? ⟨rest⟩ key = none := player?_eq_none_iff.mpr fresh
        have stays := without_of_none none
        simp only [without, mk.injEq] at stays
        cases show held = player by simpa [player?, List.lookup_cons] using found
        simp [without, stays]
      · have miss : (token == key) = false := by simpa using fun h : token = key => same h.symm
        have keep : (key != token) = true := by simpa using same
        have found : player? ⟨rest⟩ token = some player := by
          simpa [player?, List.lookup_cons, miss] using found
        simp only [without, List.filter_cons, keep, if_true]
        exact ((ih distinct found).cons _).trans (.swap ..)

theorem custody_ended (distinct : w.Distinct) (token : Token) :
    Engine.Custody w.handles (w.ended token) (w.without token).handles := by
  unfold ended
  split
  · rename_i none
    rw [without_of_none none]
    exact .refl w.handles
  · rename_i player found
    have perm : w.handles.Perm (player.handle :: (w.without token).handles) := by
      simpa [handles] using (players_perm distinct found).map fun entry => entry.2.handle
    exact (Engine.Custody.perm perm).append (Player.custody_ending _ player.handle)

end Worker

/-- The sound was opened under this handle, which was prepared and started without fault. -/
def Plays (r : Locator) (attributes : Attributes) (t : Trace Engines) (handle : HandleId) : Prop :=
  ⟨.openSource (.locator r) attributes, .ok handle⟩ ∈ t ∧ ⟨.prepare handle, .ok ()⟩ ∈ t ∧
    ⟨.start handle, .ok ()⟩ ∈ t

inductive Served (w : Worker) : (c : Call) → Trace Engines → Remotes.Answer c → Worker → Prop where
  | failed {token r attributes t e} : Player.Starting (.locator r) attributes t (.error e) →
      Served w (.play token r attributes) (w.ended token ++ t) (.ok ()) (w.without token)
  | playing {token r attributes t player} : Player.Starting (.locator r) attributes t (.ok player) →
      Served w (.play token r attributes) (w.ended token ++ t) (.ok ())
        ⟨(token, player) :: (w.without token).players⟩
  | stopped (token) : Served w (.stop token) (w.ended token) (.ok ()) (w.without token)
  | nothing {token} : w.player? token = none → Served w (.isPlaying token) [] (.ok false) w
  | asked {token player} (playing) : w.player? token = some player →
      Served w (.isPlaying token) [⟨.isPlaying player.handle, playing⟩] (.ok playing) w

theorem serveStop_ensures (w : Worker) (token : Token) :
    (w.serveStop token).Ensures fun t w' => rights t = w.ended token ∧ w' = w.without token := by
  unfold Worker.serveStop
  split
  · rename_i none
    exact ensures_pure.mpr ⟨by simp [Worker.ended, none], (Worker.without_of_none none).symm⟩
  · rename_i player found
    simp only [ensures_bind]
    refine (Player.drop_ensures player).mono fun t _ ended => ensures_pure.mpr ?_
    exact ⟨by simpa [Worker.ended, found] using ended, rfl⟩

theorem servePlay_ensures (w : Worker) (token : Token) (r : Locator) (attributes : Attributes) :
    (w.servePlay token r attributes).Ensures fun t w' =>
      Served w (.play token r attributes) (rights t) (.ok ()) w' := by
  simp only [Worker.servePlay, Worker.report]
  refine (serveStop_ensures w token).bind fun t w₁ ⟨ended, left⟩ => ?_
  subst left
  refine (Player.openPrepared_ensures (.locator r) attributes).bind fun u result opening => ?_
  cases result with
  | error e =>
      simpa [Resource.log, ended] using Served.failed (.unopened opening)
  | ok player =>
      simp only [Player.start, Engine.start, ensures_bind, lift_right, ensures_right, ensures_call,
        ensures_done]
      intro started
      cases started with
      | ok => simpa [Resource.log, ended] using Served.playing (.started opening)
      | error e =>
          simp only [Resource.log, ensures_bind, lift_left, ensures_left, ensures_call,
            ensures_done]
          intro _
          refine (Player.drop_ensures player).mono fun v _ left => ensures_pure.mpr ?_
          have unstarted := Player.Starting.unstarted e opening
          have failed : Served w (.play token r attributes) _ (.ok ()) _ := .failed unstarted
          simpa [ended, left] using failed

theorem serve_ensures (w : Worker) (c : Call) :
    (w.serve c).Ensures fun t result => Served w c (rights t) result.1 result.2 := by
  cases c with
  | play token r attributes =>
      simp only [Worker.serve, ensures_bind, ensures_pure, List.append_nil]
      exact servePlay_ensures w token r attributes
  | stop token =>
      simp only [Worker.serve, ensures_bind, ensures_pure, List.append_nil]
      refine (serveStop_ensures w token).mono fun t w' stopped => ?_
      obtain ⟨ended, left⟩ := stopped
      rw [ended, left]
      exact .stopped token
  | isPlaying token =>
      simp only [Worker.serve, Worker.serveIsPlaying, ensures_bind, ensures_pure, List.append_nil]
      split
      · rename_i none
        exact ensures_pure.mpr (.nothing none)
      · rename_i player found
        simp only [Player.isPlaying, Engine.isPlaying, lift_right, ensures_right, ensures_call,
          ensures_done]
        intro playing
        exact .asked playing found

/-- Shutting down ends every player. -/
theorem shutDown_ensures (w : Worker) :
    w.shutDown.Ensures fun t _ => rights t = w.handles.flatMap Player.ending := by
  have all (players : List (Token × Player)) : (Worker.dropAll players).Ensures fun t _ =>
      rights t = (players.map fun entry => entry.2.handle).flatMap Player.ending := by
    induction players with
    | nil => exact ensures_pure.mpr rfl
    | cons entry rest ih =>
        obtain ⟨token, player⟩ := entry
        refine (Player.drop_ensures player).bind fun t _ ended => ih.mono fun u _ others => ?_
        simp [ended, others]
  simp only [Worker.shutDown, Resource.log, ensures_bind, lift_left, ensures_left, ensures_call,
    ensures_done]
  exact fun _ => (all w.players).mono fun t _ ended => by simpa [Worker.handles] using ended

namespace Served

variable {w w' : Worker} {c : Call} {t : Trace Engines} {answer : Remotes.Answer c}

theorem distinct (h : Served w c t answer w') (distinct : w.Distinct) : w'.Distinct := by
  cases h with
  | failed _ | stopped token => exact Worker.distinct_without distinct
  | playing _ =>
      exact Worker.distinct_cons (Worker.distinct_without distinct) Worker.player?_without_self
  | nothing _ | asked _ _ => exact distinct

theorem custody (h : Served w c t answer w') (distinct : w.Distinct) :
    Engine.Custody w.handles t w'.handles := by
  cases h with
  | failed starting | playing starting =>
      exact (Worker.custody_ended distinct _).append (starting.custody _)
  | stopped token => exact Worker.custody_ended distinct token
  | nothing _ => exact .refl w.handles
  | asked playing found =>
      have perm := (Worker.players_perm distinct found).map fun entry => entry.2.handle
      exact ((Engine.Custody.perm perm).append (.asked _ _ playing)).append (.perm perm.symm)

/-- Serving a client changes nothing for the others. -/
theorem elsewhere (h : Served w c t answer w') {token : Token} (other : token ≠ c.token) :
    w'.player? token = w.player? token := by
  cases h with
  | failed _ | stopped _ => exact Worker.player?_without other
  | @playing token' _ _ _ player _ =>
      have miss : (token == token') = false := beq_false_of_ne other
      have cons : Worker.player? ⟨(token', player) :: (w.without token').players⟩ token =
          (w.without token').player? token := by
        simp [Worker.player?, List.lookup_cons, miss]
      exact cons.trans (Worker.player?_without other)
  | nothing _ | asked _ _ => rfl

theorem after_stop {token : Token} {answer : Remotes.Answer (.stop token)}
    (h : Served w (.stop token) t answer w') : w'.player? token = none := by
  cases h with
  | stopped token => exact Worker.player?_without_self

theorem after_isPlaying {token : Token} {answer : Remotes.Answer (.isPlaying token)}
    (h : Served w (.isPlaying token) t answer w') : w' = w := by
  cases h with
  | nothing _ | asked _ _ => rfl

/-- A client that has a player after a call counts as delegated. -/
theorem delegated (h : Served w c t answer w') {player : Player}
    (found : w'.player? c.token = some player) {before : Bool}
    (known : ∀ player, w.player? c.token = some player → before = true) :
    delegatedAfter before ⟨c, answer⟩ = true := by
  cases h with
  | failed _ => simp [Call.token, Worker.player?_without_self] at found
  | playing _ => rfl
  | stopped token => simp [Call.token, Worker.player?_without_self] at found
  | nothing _ | asked _ _ => exact known player found

/-- Only a player that the client has can be said to be playing. -/
theorem said {token : Token} (h : Served w c t answer w')
    (playing : (⟨c, answer⟩ : Event Remotes) = ⟨.isPlaying token, .ok true⟩) :
    ∃ player, w.player? token = some player := by
  cases playing
  cases h with
  | asked _ found => exact ⟨_, found⟩

/-- After a play the client has a player under exactly those handles that were opened,
prepared and started. -/
theorem after_play {token : Token} {r : Locator} {attributes : Attributes}
    {answer : Remotes.Answer (.play token r attributes)}
    (h : Served w (.play token r attributes) t answer w') (handle : HandleId) :
    (∃ player, w'.player? token = some player ∧ player.handle = handle) ↔
      Plays r attributes t handle := by
  have quiet : ⟨.start handle, .ok ()⟩ ∉ w.ended token := by
    unfold Worker.ended
    split <;> simp [Player.ending]
  cases h with
  | failed starting =>
      rw [Worker.player?_without_self]
      constructor
      · intro given
        obtain ⟨player, none, -⟩ := given
        cases none
      · intro given
        obtain ⟨-, -, started⟩ := given
        obtain ⟨player, failed, -⟩ :=
          starting.started_iff.mp ((List.mem_append.mp started).resolve_left quiet)
        cases failed
  | @playing _ _ _ u player starting =>
      have now : Worker.player? ⟨(token, player) :: (w.without token).players⟩ token =
          some player := by
        simp [Worker.player?]
      obtain ⟨opened, prepared, started⟩ := starting.mem
      rw [now]
      constructor
      · intro given
        obtain ⟨_, same, rfl⟩ := given
        cases same
        exact ⟨List.mem_append_right _ opened, List.mem_append_right _ prepared,
          List.mem_append_right _ started⟩
      · intro given
        obtain ⟨-, -, started⟩ := given
        obtain ⟨player', same, known⟩ :=
          starting.started_iff.mp ((List.mem_append.mp started).resolve_left quiet)
        cases same
        exact ⟨player, rfl, known⟩

/-- Only a play opens a handle, and until then it has done nothing but end the handle
that the client had. -/
theorem opens {source : Source} {attributes : Attributes} {result : Except EngineError HandleId}
    {before after : Trace Engines}
    (h : Served w c (before ++ ⟨.openSource source attributes, result⟩ :: after) answer w') :
    ∃ token r, c = .play token r attributes ∧ source = .locator r ∧ before = w.ended token := by
  generalize shape : before ++ ⟨.openSource source attributes, result⟩ :: after = u at h
  have ended (token) : ∀ e ∈ w.ended token, e.call.operation? ≠ none := by
    unfold Worker.ended
    split <;> simp [Player.ending, Engine.Call.operation?]
  cases h with
  | failed starting | playing starting =>
      obtain ⟨result', rest, rfl, later⟩ := starting.eq_cons
      obtain ⟨same, first, -⟩ := append_cons_inj shape (fun h => h rfl) (ended _) later
      cases first
      exact ⟨_, _, rfl, rfl, same⟩
  | stopped token =>
      exact absurd rfl (ended token _ (shape ▸ List.mem_append_right _ List.mem_cons_self))
  | nothing _ => simp at shape
  | asked playing found =>
      have mem : ⟨.openSource source attributes, result⟩ ∈
          [(⟨.isPlaying _, playing⟩ : Event Engines)] :=
        shape ▸ List.mem_append_right _ List.mem_cons_self
      cases List.mem_singleton.mp mem

end Served
end AlertSound.Remote
