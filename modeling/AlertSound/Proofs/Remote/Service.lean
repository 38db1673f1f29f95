import AlertSound.Proofs.Remote.Serving
import Mathlib.Logic.Function.Basic

/-!
The remote player behind its queue. Callers put their calls into one bounded queue and
wait; the worker takes them out in order and serves them call by call of its engine; the
owner may put a shutdown into the queue at any time. When the worker leaves, what is
still in the queue is lost. A run is told by its log. A call is made once, under a
name of its own; calls of one caller are calls that do not overlap.
-/
namespace AlertSound.Remote

open Program Trace Function

inductive Message (ι : Type) where
  | request (id : ι) (c : Call)
  | shutdown

inductive Errand where
  | unmade
  | sending (c : Call)
  | waiting (c : Call)
  | answered (c : Call) (answer : Remotes.Answer c)
  | lost (c : Call)
  | returned (c : Call) (answer : Remotes.Answer c)

/-- What the worker is at, with what it has asked for it so far and what is left. -/
inductive Post (ι : Type) where
  | resting (w : Worker)
  | serving (id : ι) (c : Call) (w : Worker) (heard : Trace Stage)
      (rest : Program Stage (Remotes.Answer c × Worker))
  | stopping (w : Worker) (heard : Trace Stage) (rest : Program Stage Unit)
  | gone

inductive Owner where
  | keeping
  | closing
  | joining
  | joined

/-- What happens in a run. What the worker asks is asked for a call, or for none when
it stops. -/
inductive Note (ι : Type) where
  | made (id : ι) (c : Call)
  | sent (id : ι)
  | tookRequest (id : ι) (c : Call)
  | asked (id? : Option ι) (e : Event Stage)
  | replied (id : ι) (c : Call) (answer : Remotes.Answer c)
  | returned (id : ι) (c : Call) (answer : Remotes.Answer c)
  | closing
  | sentShutdown
  | tookShutdown
  | exited
  | joined

structure Service (ι : Type) where
  queue : List (Message ι)
  calls : ι → Errand
  post : Post ι
  owner : Owner

def depth : Nat := 16

theorem depth_pos : 0 < depth := by decide

variable {ι : Type}

def Message.request? : Message ι → Option (ι × Call)
  | .request id c => some (id, c)
  | .shutdown => none

def Errand.call? : Errand → Option Call
  | .unmade => none
  | .sending c | .waiting c | .answered c _ | .lost c | .returned c _ => some c

theorem Errand.made_of_call? {errand : Errand} {c : Call} (h : errand.call? = some c) :
    errand ≠ .unmade := by
  intro same
  subst same
  cases h

/-- The worker with its players as they stood after the last call that was served, until
the shutdown is taken. -/
def Post.worker? : Post ι → Option Worker
  | .resting w | .serving _ _ w _ _ => some w
  | .stopping _ _ _ | .gone => none

namespace Service

def requests (S : Service ι) : List (ι × Call) := S.queue.filterMap Message.request?

theorem mem_requests {S : Service ι} {id : ι} {c : Call} :
    (id, c) ∈ S.requests ↔ .request id c ∈ S.queue := by
  simp only [requests, List.mem_filterMap]
  constructor
  · intro h
    obtain ⟨message, mem, same⟩ := h
    cases message with
    | request id' c' => cases same; exact mem
    | shutdown => cases same
  · exact fun mem => ⟨_, mem, rfl⟩

def start : Service ι where
  queue := []
  calls _ := .unmade
  post := .resting .idle
  owner := .keeping

variable [DecidableEq ι]

def setCall (S : Service ι) (id : ι) (errand : Errand) : Service ι :=
  { S with calls := update S.calls id errand }

@[simp] theorem calls_setCall_self (S : Service ι) (id : ι) (errand : Errand) :
    (S.setCall id errand).calls id = errand := update_self ..

theorem calls_setCall_of_ne (S : Service ι) {id id' : ι} (errand : Errand) (h : id' ≠ id) :
    (S.setCall id errand).calls id' = S.calls id' := update_of_ne h ..

/-- The calls whose requests are still in the queue are lost. -/
def lose (queue : List (Message ι)) (calls : ι → Errand) : ι → Errand :=
  queue.foldr (fun message calls => match message with
    | .request id c => update calls id (.lost c)
    | .shutdown => calls) calls

theorem lose_of_request {queue : List (Message ι)} {id : ι} {c : Call}
    (h : .request id c ∈ queue) (calls : ι → Errand) :
    ∃ c', .request id c' ∈ queue ∧ lose queue calls id = .lost c' := by
  induction queue with
  | nil => cases h
  | cons first rest ih =>
      by_cases here : ∃ c', first = .request id c'
      · obtain ⟨c', rfl⟩ := here
        exact ⟨c', List.mem_cons_self, update_self ..⟩
      · have later : .request id c ∈ rest :=
          (List.mem_cons.mp h).resolve_left fun same => here ⟨c, same.symm⟩
        obtain ⟨c', mem, lost⟩ := ih later
        refine ⟨c', List.mem_cons_of_mem _ mem, ?_⟩
        cases first with
        | shutdown => exact lost
        | request id' c₁ =>
            have other : id ≠ id' := fun same => here ⟨c₁, same ▸ rfl⟩
            exact (update_of_ne other ..).trans lost

theorem lose_of_not_request {queue : List (Message ι)} {id : ι}
    (h : ∀ c, .request id c ∉ queue) (calls : ι → Errand) : lose queue calls id = calls id := by
  induction queue with
  | nil => rfl
  | cons first rest ih =>
      have later := ih fun c mem => h c (List.mem_cons_of_mem _ mem)
      cases first with
      | shutdown => exact later
      | request id' c =>
          have other : id ≠ id' := fun same => h c (same ▸ List.mem_cons_self)
          exact (update_of_ne other ..).trans later

/-- The players are dropped in no particular order. -/
inductive Step (S : Service ι) : Note ι → Service ι → Prop where
  | made (id c) : S.calls id = .unmade → Step S (.made id c) (S.setCall id (.sending c))
  | sent {id c} : S.calls id = .sending c → S.post ≠ .gone → S.queue.length < depth →
      Step S (.sent id) { S.setCall id (.waiting c) with queue := S.queue ++ [.request id c] }
  | refused {id c} : S.calls id = .sending c → S.post = .gone →
      Step S (.returned id c c.unreached) (S.setCall id (.returned c c.unreached))
  | tookRequest {id c w rest} : S.post = .resting w → S.queue = .request id c :: rest →
      Step S (.tookRequest id c)
        { S with post := .serving id c w [] (w.serve c), queue := rest }
  | asked {id c w heard call next} (answer) :
      S.post = .serving id c w heard (.call call next) →
      Step S (.asked (some id) ⟨call, answer⟩)
        { S with post := .serving id c w (heard ++ [⟨call, answer⟩]) (next answer) }
  | replied {id c w heard answer w'} : S.post = .serving id c w heard (.done (answer, w')) →
      Step S (.replied id c answer)
        { S.setCall id (.answered c answer) with post := .resting w' }
  | returned {id c answer} : S.calls id = .answered c answer →
      Step S (.returned id c answer) (S.setCall id (.returned c answer))
  | disconnected {id c} : S.calls id = .lost c →
      Step S (.returned id c c.unreached) (S.setCall id (.returned c c.unreached))
  | closing : S.owner = .keeping → Step S .closing { S with owner := .closing }
  | sentShutdown : S.owner = .closing → S.queue.length < depth →
      Step S .sentShutdown { S with owner := .joining, queue := S.queue ++ [.shutdown] }
  | tookShutdown {w w' rest} : S.post = .resting w → S.queue = .shutdown :: rest →
      w'.players.Perm w.players →
      Step S .tookShutdown { S with post := .stopping w' [] w'.shutDown, queue := rest }
  | askedLast {w heard call next} (answer) : S.post = .stopping w heard (.call call next) →
      Step S (.asked none ⟨call, answer⟩)
        { S with post := .stopping w (heard ++ [⟨call, answer⟩]) (next answer) }
  | exited {w heard} : S.post = .stopping w heard (.done ()) →
      Step S .exited { S with post := .gone, queue := [], calls := lose S.queue S.calls }
  | joined : S.owner = .joining → S.post = .gone → Step S .joined { S with owner := .joined }

inductive Run : List (Note ι) → Service ι → Prop where
  | start : Run [] start
  | next {log S note S'} : Run log S → Step S note S' → Run (log ++ [note]) S'

namespace Run

variable {log : List (Note ι)} {calls : ι → Errand} {id : ι} {c : Call} {w w' : Worker}
  {owner : Owner}

theorem asks {queue : List (Message ι)} {heard t : Trace Stage}
    {p q : Program Stage (Remotes.Answer c × Worker)}
    (h : Run log ⟨queue, calls, .serving id c w heard p, owner⟩) (steps : p.Steps t q) :
    Run (log ++ t.map (.asked (some id)))
      ⟨queue, calls, .serving id c w (heard ++ t) q, owner⟩ := by
  induction t generalizing log heard p with
  | nil => cases steps; simpa using h
  | cons e t ih =>
      obtain ⟨next, rfl, steps⟩ := steps
      simpa using ih (h.next (.asked e.answer rfl)) steps

theorem asksLast {queue : List (Message ι)} {heard t : Trace Stage} {p q : Program Stage Unit}
    (h : Run log ⟨queue, calls, .stopping w heard p, owner⟩) (steps : p.Steps t q) :
    Run (log ++ t.map (.asked none)) ⟨queue, calls, .stopping w (heard ++ t) q, owner⟩ := by
  induction t generalizing log heard p with
  | nil => cases steps; simpa using h
  | cons e t ih =>
      obtain ⟨next, rfl, steps⟩ := steps
      simpa using ih (h.next (.askedLast e.answer rfl)) steps

/-- A call that is made while nothing else is going on. -/
theorem serves {t : Trace Stage} {answer : Remotes.Answer c}
    (h : Run log ⟨[], calls, .resting w, owner⟩) (unmade : calls id = .unmade)
    (runs : (w.serve c).Runs t (answer, w')) :
    Run (log ++ [.made id c, .sent id, .tookRequest id c] ++ t.map (.asked (some id)) ++
        [.replied id c answer, .returned id c answer])
      ⟨[], update calls id (.returned c answer), .resting w', owner⟩ := by
  have made := h.next (.made id c unmade)
  have sent := made.next (.sent (calls_setCall_self ..) nofun depth_pos)
  have took := sent.next (.tookRequest rfl rfl)
  have replied := (took.asks runs).next (.replied rfl)
  have returned := replied.next (.returned (calls_setCall_self ..))
  simpa [setCall] using returned

/-- A call that is made when the worker is gone. -/
theorem refuses {queue : List (Message ι)} (h : Run log ⟨queue, calls, .gone, owner⟩)
    (unmade : calls id = .unmade) :
    Run (log ++ [.made id c, .returned id c c.unreached])
      ⟨queue, update calls id (.returned c c.unreached), .gone, owner⟩ := by
  have made := h.next (.made id c unmade)
  have refused := made.next (.refused (calls_setCall_self ..) rfl)
  simpa [setCall] using refused

/-- The owner shuts the player down while nothing else is going on. -/
theorem shutsDown {t : Trace Stage} (h : Run log ⟨[], calls, .resting w, .keeping⟩)
    (runs : w.shutDown.Runs t ()) :
    Run (log ++ [.closing, .sentShutdown, .tookShutdown] ++ t.map (.asked none) ++
      [.exited, .joined]) ⟨[], calls, .gone, .joined⟩ := by
  have closing := h.next (.closing rfl)
  have sent := closing.next (.sentShutdown rfl depth_pos)
  have took := sent.next (.tookShutdown rfl rfl (.refl _))
  have exited := (took.asksLast runs).next (.exited rfl)
  have joined := exited.next (.joined rfl rfl)
  simpa [lose] using joined

end Run
end Service
end AlertSound.Remote
