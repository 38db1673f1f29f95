import AlertSound.Proofs.Remote.Serving
import AlertSound.Proofs.Session.History
import Mathlib.Logic.Function.Basic
import Mathlib.Logic.Relation

/-!
Sessions beside one remote player. Each session makes its calls one by one while the
others make theirs; the worker serves one remote call at a time, and may be shut down
between any two of them. Engines and resources answer what they like. Whatever handlers
answer, the sessions can take turns at whole operations.
-/
namespace AlertSound

open Program Trace Studio

namespace Session

/-- An operation under way: the calls it has made and what is left of it. -/
structure Turn where
  operation : Operation
  events : Trace Studio
  rest : Program Studio (Reply × Session)

structure Party where
  session : Session
  run : List Episode
  turn : Option Turn

namespace Party

def new (s : Session) : Party := ⟨s, [], none⟩

/-- All calls so far, those of an operation under way included. -/
def trace (p : Party) : Trace Studio :=
  events p.run ++ match p.turn with
    | none => []
    | some turn => turn.events

def amid (p : Party) (operation : Operation) (events : Trace Studio)
    (rest : Program Studio (Reply × Session)) : Party :=
  { p with turn := some ⟨operation, events, rest⟩ }

inductive Move (p : Party) : Trace Remotes → Party → Prop where
  | begins (operation) : p.turn = none →
      Move p [] (p.amid operation [] (p.session.perform operation))
  | here {operation events c next} (answer) :
      p.turn = some ⟨operation, events, .call (.inl c) next⟩ →
      Move p [] (p.amid operation (events ++ [⟨.inl c, answer⟩]) (next answer))
  | there {operation events c next} (answer) :
      p.turn = some ⟨operation, events, .call (.inr c) next⟩ →
      Move p [⟨c, answer⟩] (p.amid operation (events ++ [⟨.inr c, answer⟩]) (next answer))
  | ends {operation events reply s} : p.turn = some ⟨operation, events, .done (reply, s)⟩ →
      Move p [] ⟨s, p.run ++ [⟨operation, events, reply⟩], none⟩

/-- The past of the session is one it can have had. -/
structure Sound (s₀ : Session) (p : Party) : Prop where
  history : History s₀ p.run p.session
  turn : ∀ turn, p.turn = some turn →
    (p.session.perform turn.operation).Steps turn.events turn.rest

variable {s₀ : Session} {p p' : Party} {r : Trace Remotes}

theorem Sound.move (sound : Sound s₀ p) (h : Move p r p') : Sound s₀ p' := by
  cases h with
  | begins operation free =>
      exact ⟨sound.history, fun turn same => by cases same; rfl⟩
  | here answer under | there answer under =>
      refine ⟨sound.history, fun turn same => ?_⟩
      cases same
      exact (sound.turn _ under).snoc answer
  | ends under => exact ⟨sound.history.next (sound.turn _ under), nofun⟩

theorem Move.remote_trace (h : Move p r p') : remote p'.trace = remote p.trace ++ r := by
  cases h with
  | begins operation free => simp [trace, amid, free]
  | @here _ _ c _ answer under =>
      have quiet : remote [⟨.inl c, answer⟩] = [] := rfl
      simp [trace, amid, under, quiet]
  | @there _ _ c _ answer under =>
      have asked : remote [⟨.inr c, answer⟩] = [⟨c, answer⟩] := rfl
      simp [trace, amid, under, asked]
  | ends under => simp [trace, under]

/-- Remote calls carry the session's own token. -/
theorem Move.token (sound : Sound s₀ p) (unbound : s₀.backing = .unbound)
    (silent : s₀.reference = none) (h : Move p r p') :
    ∀ e ∈ r, s₀.delegate = some e.call.token := by
  cases h with
  | begins _ _ | here _ _ | ends _ => simp
  | @there operation events c next answer under =>
      have carried := sound.history.carried unbound silent
      have tokens : (p.session.perform operation).Ensures fun t _ =>
          ∀ e ∈ t, ∀ called, e = Event.right called →
            p.session.delegate = some called.call.token :=
        (perform_ensures carried.valid operation).mono fun t result act e he called same =>
          act.token called (mem_rights.mpr (same ▸ he))
      have asked := tokens.of_steps ((sound.turn _ under).snoc answer) ⟨.inr c, answer⟩ (by simp)
      intro e he
      cases List.mem_singleton.mp he
      exact carried.delegate ▸ asked ⟨c, answer⟩ rfl

theorem Move.token_eq {config : Config} {token : Token}
    (sound : Sound (.new config (some token)) p) (h : Move p r p') :
    ∀ e ∈ r, e.call.token = token := by
  intro e he
  have known := h.token sound rfl rfl e he
  simp only [Session.new] at known
  split at known
  · exact (Option.some.inj known).symm
  · cases known

end Party
end Session

/-- Sessions and the worker that they share, which may be gone. What the worker has
asked its own engine is kept. -/
structure World (ι : Type) where
  worker : Option Remote.Worker
  heard : Trace Engines
  parties : ι → Session.Party

namespace World

open Session Function

variable {ι : Type}

def start (config : ι → Config) (token : ι → Token) : World ι where
  worker := some .idle
  heard := []
  parties i := .new (.new (config i) (some (token i)))

variable [DecidableEq ι]

def put (W : World ι) (i : ι) (p : Party) : World ι := { W with parties := update W.parties i p }

@[simp] theorem parties_put (W : World ι) (i : ι) (p : Party) : (W.put i p).parties i = p :=
  update_self ..

/-- One session makes a move. A remote call is served if the worker is up, and is
refused if it is gone. The worker may be shut down at any time. -/
inductive Step (W : World ι) : World ι → Prop where
  | alone (i) {p} : (W.parties i).Move [] p → Step W (W.put i p)
  | served (i) {c answer p w u w'} : (W.parties i).Move [⟨c, answer⟩] p → W.worker = some w →
      (w.serve c).Runs u (answer, w') →
      Step W (put { W with worker := some w', heard := W.heard ++ rights u } i p)
  | refused (i) {c p} : (W.parties i).Move [⟨c, c.unreached⟩] p → W.worker = none →
      Step W (W.put i p)
  | shutDown {w u} : W.worker = some w → w.shutDown.Runs u () →
      Step W { W with worker := none, heard := W.heard ++ rights u }

abbrev Reachable (W W' : World ι) : Prop := Relation.ReflTransGen Step W W'

variable {W W' : World ι}

/-- In one step a session makes one move at most. -/
theorem Step.party (h : Step W W') (i : ι) :
    W'.parties i = W.parties i ∨ ∃ r, (W.parties i).Move r (W'.parties i) := by
  have put (W : World ι) {j : ι} {r : Trace Remotes} {p : Party} (move : (W.parties j).Move r p) :
      (W.put j p).parties i = W.parties i ∨
        ∃ r, (W.parties i).Move r ((W.put j p).parties i) := by
    by_cases here : i = j
    · subst here
      exact .inr ⟨r, by rwa [parties_put]⟩
    · exact .inl (update_of_ne here ..)
  cases h with
  | alone j move => exact put W move
  | @served j c answer p w u w' move up runs =>
      exact put { W with worker := some w', heard := W.heard ++ rights u } move
  | refused j move gone => exact put W move
  | shutDown up runs => exact .inl rfl

theorem Reachable.sound {config : ι → Config} {token : ι → Token}
    (h : Reachable (start config token) W) (i : ι) :
    (W.parties i).Sound (.new (config i) (some (token i))) := by
  induction h with
  | refl => exact ⟨.start, nofun⟩
  | tail _ step ih =>
      cases step.party i with
      | inl same => exact same ▸ ih
      | inr moved =>
          obtain ⟨r, move⟩ := moved
          exact ih.move move

section Drive

variable {σ τ : Type} (own : Handler Stage σ) (theirs : Handler Stage τ)

def answer (c : Remote.Call) (W : World ι) (b : τ) : Remotes.Answer c × World ι × τ :=
  match W.worker with
  | none => (c.unreached, W, b)
  | some w =>
    let ((answer, worker), after) := (w.serve c).run theirs b
    let heard := W.heard ++ rights ((w.serve c).record theirs b)
    (answer, { W with worker := some worker, heard }, after)

omit [DecidableEq ι] in
theorem parties_answer (c : Remote.Call) (W : World ι) (b : τ) :
    (answer theirs c W b).2.1.parties = W.parties := by
  unfold answer
  split <;> rfl

def finish (i : ι) (operation : Operation) :
    Program Studio (Reply × Session) → Trace Studio → World ι → σ → τ → World ι × σ × τ
  | .done (reply, s), events, W, a, b =>
    (W.put i ⟨s, (W.parties i).run ++ [⟨operation, events, reply⟩], none⟩, a, b)
  | .call (.inl c) next, events, W, a, b =>
    let (answer, a) := own c a
    let events := events ++ [⟨.inl c, answer⟩]
    let p := (W.parties i).amid operation events (next answer)
    finish i operation (next answer) events (W.put i p) a b
  | .call (.inr c) next, events, W, a, b =>
    let (answer, after, b) := answer theirs c W b
    let events := events ++ [⟨.inr c, answer⟩]
    let p := (W.parties i).amid operation events (next answer)
    finish i operation (next answer) events (after.put i p) a b

def perform (i : ι) (operation : Operation) (W : World ι) (a : σ) (b : τ) : World ι × σ × τ :=
  let first := (W.parties i).session.perform operation
  finish own theirs i operation first [] (W.put i ((W.parties i).amid operation [] first)) a b

theorem step_answer {i : ι} {c : Remote.Call} {p : Party} {b : τ}
    (move : (W.parties i).Move [⟨c, (answer theirs c W b).1⟩] p) :
    Step W ((answer theirs c W b).2.1.put i p) := by
  unfold answer at move ⊢
  split at move
  · rename_i gone
    exact .refused i move gone
  · rename_i w up
    exact .served i move up (runs_record theirs (w.serve c) b)

structure Performed (W : World ι) (i : ι) (operation : Operation) (W' : World ι) : Prop where
  reachable : Reachable W W'
  run : ∃ events reply, (W'.parties i).run = (W.parties i).run ++ [⟨operation, events, reply⟩]
  free : (W'.parties i).turn = none
  others : ∀ j ≠ i, W'.parties j = W.parties j

theorem Performed.head {i : ι} {operation : Operation} {W₀ : World ι} {events : Trace Studio}
    {rest : Program Studio (Reply × Session)} (same : W₀.parties = W.parties)
    (step : Step W (W₀.put i ((W.parties i).amid operation events rest)))
    (h : Performed (W₀.put i ((W.parties i).amid operation events rest)) i operation W') :
    Performed W i operation W' where
  reachable := .head step h.reachable
  run := by
    obtain ⟨events', reply, grown⟩ := h.run
    rw [parties_put] at grown
    exact ⟨events', reply, grown⟩
  free := h.free
  others j other := by
    rw [h.others j other]
    exact (update_of_ne other ..).trans (congrFun same j)

theorem finish_performed (i : ι) (operation : Operation) (rest : Program Studio (Reply × Session))
    (events : Trace Studio) (W : World ι) (a : σ) (b : τ)
    (under : (W.parties i).turn = some ⟨operation, events, rest⟩) :
    Performed W i operation (finish own theirs i operation rest events W a b).1 := by
  induction rest generalizing events W a b with
  | done result =>
      obtain ⟨reply, s⟩ := result
      exact
        { reachable := .single (.alone i (.ends under))
          run := ⟨events, reply, by simp [finish]⟩
          free := by simp [finish]
          others := fun j other => update_of_ne other .. }
  | call c next ih =>
      match c, next with
      | .inl c, next =>
          refine .head rfl (.alone i (.here (own c a).1 under)) (ih _ _ _ _ _ ?_)
          rw [parties_put]
          rfl
      | .inr c, next =>
          have step := step_answer theirs (.there (answer theirs c W b).1 under)
          refine .head (parties_answer theirs c W b) step (ih _ _ _ _ _ ?_)
          rw [parties_put]
          rfl

theorem perform_performed (i : ι) (operation : Operation) (W : World ι) (a : σ) (b : τ)
    (free : (W.parties i).turn = none) :
    Performed W i operation (perform own theirs i operation W a b).1 := by
  refine .head rfl (.alone i (.begins operation free)) ?_
  refine finish_performed own theirs i operation _ _ _ a b ?_
  rw [parties_put]
  rfl

def performAll : List (ι × Operation) → World ι → σ → τ → World ι
  | [], W, _, _ => W
  | (i, operation) :: rest, W, a, b =>
    let (W, a, b) := perform own theirs i operation W a b
    performAll rest W a b

theorem reachable_performAll (operations : List (ι × Operation)) (W : World ι) (a : σ) (b : τ)
    (free : ∀ i, (W.parties i).turn = none) :
    Reachable W (performAll own theirs operations W a b) := by
  induction operations generalizing W a b with
  | nil => exact .refl
  | cons first rest ih =>
      obtain ⟨i, operation⟩ := first
      have performed := perform_performed own theirs i operation W a b (free i)
      refine performed.reachable.trans (ih _ _ _ fun j => ?_)
      by_cases same : j = i
      · exact same ▸ performed.free
      · rw [performed.others j same]
        exact free j

end Drive
end World
end AlertSound
