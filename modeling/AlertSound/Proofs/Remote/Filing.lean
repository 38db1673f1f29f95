import AlertSound.Proofs.Remote.Service

/-!
What callers can rely on. A call comes back with an answer of the worker if its request
was taken before the shutdown, and otherwise it was never touched. A client has a player
exactly if the last play or stop that was served for it is a play that succeeded. Both
are read off the log of a run, whatever the order of its steps.
-/
namespace AlertSound.Remote

open Program Trace Service

variable {ι : Type}

def Note.actor? : Note ι → Option ι
  | .tookRequest id _ | .replied id _ _ => some id
  | .asked id? _ => id?
  | _ => none

def Note.heard? : Note ι → Option (Event Stage)
  | .asked _ e => some e
  | _ => none

def heard (log : List (Note ι)) : Trace Stage := log.filterMap Note.heard?

def Untouched (log : List (Note ι)) (id : ι) : Prop := ∀ note ∈ log, note.actor? ≠ some id

/-- The request was taken off the queue before the shutdown was. -/
def InTime (log : List (Note ι)) (id : ι) (c : Call) : Prop :=
  ∃ before after, log = before ++ .tookRequest id c :: after ∧ .tookShutdown ∉ before

def Call.Accepts : (c : Call) → Remotes.Answer c → Prop
  | .play _ _ _, answer => answer = .ok ()
  | .stop _, answer => answer = .ok ()
  | .isPlaying _, answer => ∃ playing, answer = .ok playing

/-- Whether a call decides if the client has a player. -/
def Call.Sets (token : Token) : Call → Prop
  | .play token' _ _ | .stop token' => token' = token
  | .isPlaying _ => False

def LastServed (log : List (Note ι)) (token : Token) (id : ι) (c : Call) : Prop :=
  ∃ before answer after, log = before ++ .replied id c answer :: after ∧ c.Sets token ∧
    ∀ id' c' answer', .replied id' c' answer' ∈ after → ¬c'.Sets token

section Heard

variable [DecidableEq ι]

def Note.heardFor? (id : ι) : Note ι → Option (Event Stage)
  | .asked (some id') e => if id' = id then some e else none
  | _ => none

def heardFor (id : ι) (log : List (Note ι)) : Trace Stage := log.filterMap (Note.heardFor? id)

theorem Note.heardFor?_of_ne {id : ι} {note : Note ι} (h : note.actor? ≠ some id) :
    note.heardFor? id = none := by
  unfold Note.heardFor?
  split
  · rename_i id' e
    exact if_neg fun same => h (congrArg some same)
  · rfl

theorem heardFor_of_untouched {log : List (Note ι)} {id : ι} (h : Untouched log id) :
    heardFor id log = [] :=
  List.filterMap_eq_nil_iff.mpr fun note mem => Note.heardFor?_of_ne (h note mem)

theorem heardFor_snoc_of_ne {id : ι} {note : Note ι} (log : List (Note ι))
    (h : note.actor? ≠ some id) : heardFor id (log ++ [note]) = heardFor id log := by
  simp [heardFor, Note.heardFor?_of_ne h]

theorem heardFor_snoc_asked (log : List (Note ι)) (id : ι) (e : Event Stage) :
    heardFor id (log ++ [.asked (some id) e]) = heardFor id log ++ [e] := by
  simp [heardFor, Note.heardFor?]

/-- The client has a player under exactly the handle that the last call that was served
for it has opened, prepared and started. -/
def Standing (log : List (Note ι)) (w : Worker) : Prop :=
  ∀ token handle, (∃ player, w.player? token = some player ∧ player.handle = handle) ↔
    ∃ id r attributes, LastServed log token id (.play token r attributes) ∧
      Plays r attributes (rights (heardFor id log)) handle

end Heard

variable {log : List (Note ι)} {note : Note ι} {id : ι} {c : Call}

@[simp] theorem heard_append (log log' : List (Note ι)) :
    heard (log ++ log') = heard log ++ heard log' := List.filterMap_append

theorem untouched_snoc :
    Untouched (log ++ [note]) id ↔ Untouched log id ∧ note.actor? ≠ some id := by
  simp only [Untouched, List.forall_mem_append, List.forall_mem_singleton]

theorem InTime.append (h : InTime log id c) (log' : List (Note ι)) : InTime (log ++ log') id c := by
  obtain ⟨before, after, rfl, none⟩ := h
  exact ⟨before, after ++ log', by simp, none⟩

theorem InTime.touched (h : InTime log id c) : ¬Untouched log id := by
  obtain ⟨before, after, rfl, none⟩ := h
  exact fun untouched => untouched (.tookRequest id c) (by simp) rfl

theorem inTime_snoc (none : .tookShutdown ∉ log) : InTime (log ++ [.tookRequest id c]) id c :=
  ⟨log, [], rfl, none⟩

theorem Served.accepted {w w' : Worker} {t : Trace Engines} {answer : Remotes.Answer c}
    (h : Served w c t answer w') : c.Accepts answer := by
  cases h with
  | failed _ | playing _ | stopped _ => rfl
  | nothing _ | asked _ _ => exact ⟨_, rfl⟩

theorem lastServed_snoc {token : Token}
    (other : ∀ id c answer, note = .replied id c answer → ¬c.Sets token) :
    LastServed (log ++ [note]) token id c ↔ LastServed log token id c := by
  constructor
  · intro h
    obtain ⟨before, answer, after, same, sets, none⟩ := h
    cases snoc_eq_append_cons same with
    | inl here =>
        obtain ⟨rfl, rfl, rfl⟩ := here
        exact absurd sets (other id c answer rfl)
    | inr earlier =>
        obtain ⟨after', rfl, rfl⟩ := earlier
        refine ⟨before, answer, after', rfl, sets, fun id' c' answer' mem => ?_⟩
        exact none id' c' answer' (List.mem_append_left _ mem)
  · intro given
    obtain ⟨before, answer, after, rfl, sets, none⟩ := given
    refine ⟨before, answer, after ++ [note], by simp, sets, fun id' c' answer' mem => ?_⟩
    cases List.mem_append.mp mem with
    | inl mem => exact none id' c' answer' mem
    | inr mem => exact other id' c' answer' (List.mem_singleton.mp mem).symm

theorem lastServed_snoc_replied {token : Token} {id' : ι} {c' : Call} {answer : Remotes.Answer c}
    (sets : c.Sets token) :
    LastServed (log ++ [.replied id c answer]) token id' c' ↔ id' = id ∧ c' = c := by
  constructor
  · intro h
    obtain ⟨before, answer', after, same, -, none⟩ := h
    cases snoc_eq_append_cons same with
    | inl here =>
        obtain ⟨-, last, -⟩ := here
        cases last
        exact ⟨rfl, rfl⟩
    | inr earlier =>
        obtain ⟨after', rfl, -⟩ := earlier
        exact absurd sets (none id c answer (by simp))
  · intro given
    obtain ⟨rfl, rfl⟩ := given
    exact ⟨log, answer, [], rfl, sets, by simp⟩

theorem LastServed.replied {token : Token} (h : LastServed log token id c) :
    ∃ answer, .replied id c answer ∈ log := by
  obtain ⟨before, answer, after, rfl, -, -⟩ := h
  exact ⟨answer, by simp⟩

section Standing

variable [DecidableEq ι] {w w' : Worker}

/-- What is done for a call that has not been answered changes nothing for the clients. -/
theorem Standing.snoc (h : Standing log w) (quiet : ∀ id c answer, note ≠ .replied id c answer)
    (fresh : ∀ id c answer, .replied id c answer ∈ log → note.actor? ≠ some id) :
    Standing (log ++ [note]) w := by
  intro token handle
  rw [h token handle]
  have last (id r attributes) : LastServed (log ++ [note]) token id (.play token r attributes) ↔
      LastServed log token id (.play token r attributes) :=
    lastServed_snoc fun id c answer same => absurd same (quiet id c answer)
  constructor
  · intro given
    obtain ⟨id, r, attributes, served, plays⟩ := given
    obtain ⟨answer, mem⟩ := served.replied
    refine ⟨id, r, attributes, (last ..).mpr served, ?_⟩
    rwa [heardFor_snoc_of_ne log (fresh id _ answer mem)]
  · intro given
    obtain ⟨id, r, attributes, served, plays⟩ := given
    have served := (last ..).mp served
    obtain ⟨answer, mem⟩ := served.replied
    rw [heardFor_snoc_of_ne log (fresh id _ answer mem)] at plays
    exact ⟨id, r, attributes, served, plays⟩

/-- A call that was served sets its own client, and only that one. -/
theorem Standing.replied {answer : Remotes.Answer c} (h : Standing log w)
    (served : Served w c (rights (heardFor id log)) answer w') :
    Standing (log ++ [.replied id c answer]) w' := by
  intro token handle
  have silent (id') : heardFor id' (log ++ [.replied id c answer]) = heardFor id' log := by
    simp [heardFor, Note.heardFor?]
  simp only [silent]
  by_cases sets : c.Sets token
  · simp only [lastServed_snoc_replied sets]
    cases c with
    | play token' r attributes =>
        cases show token' = token from sets
        rw [served.after_play handle]
        constructor
        · exact fun plays => ⟨id, r, attributes, ⟨rfl, rfl⟩, plays⟩
        · intro given
          obtain ⟨_, _, _, ⟨rfl, same⟩, plays⟩ := given
          cases same
          exact plays
    | stop token' =>
        cases show token' = token from sets
        rw [served.after_stop]
        constructor
        · intro given
          obtain ⟨player, none, -⟩ := given
          cases none
        · intro given
          obtain ⟨_, _, _, ⟨-, same⟩, -⟩ := given
          cases same
    | isPlaying token' => exact sets.elim
  · have last (id' r attributes) :
        LastServed (log ++ [.replied id c answer]) token id' (.play token r attributes) ↔
          LastServed log token id' (.play token r attributes) :=
      lastServed_snoc fun id c answer same => by cases same; exact sets
    have unchanged : w'.player? token = w.player? token := by
      cases c with
      | play token' _ _ | stop token' => exact served.elsewhere fun same => sets same.symm
      | isPlaying token' => rw [served.after_isPlaying]
    simp only [last, unchanged]
    exact h token handle

end Standing

def Answered (log : List (Note ι)) (id : ι) (c : Call) (answer : Remotes.Answer c) : Prop :=
  InTime log id c ∧ .replied id c answer ∈ log ∧ c.Accepts answer

def Told (log : List (Note ι)) (S : Service ι) (id : ι) : Errand → Prop
  | .unmade | .sending _ | .lost _ => Untouched log id
  | .waiting c => (id, c) ∈ S.requests ∨ ∃ w t rest, S.post = .serving id c w t rest
  | .answered c answer => Answered log id c answer
  | .returned c answer => answer = c.unreached ∧ Untouched log id ∨ Answered log id c answer

/-- The call is where the log says, and it is nowhere else. -/
structure Entry (log : List (Note ι)) (S : Service ι) (id : ι) : Prop where
  told : Told log S id (S.calls id)
  queued : ∀ c, (id, c) ∈ S.requests → S.calls id = .waiting c ∧ Untouched log id
  serving : ∀ c w t rest, S.post = .serving id c w t rest →
    S.calls id = .waiting c ∧ InTime log id c ∧ (w.serve c).Steps t rest
  replied : ∀ c answer, .replied id c answer ∈ log →
    S.calls id = .answered c answer ∨ S.calls id = .returned c answer

structure Filed (log : List (Note ι)) (S : Service ι) : Prop where
  call : ∀ id, Entry log S id
  distinct : (S.requests.map Prod.fst).Nodup
  up : ∀ w, S.post.worker? = some w → .tookShutdown ∉ log

theorem Answered.append {answer : Remotes.Answer c} (h : Answered log id c answer)
    (log' : List (Note ι)) : Answered (log ++ log') id c answer :=
  ⟨h.1.append log', List.mem_append_left log' h.2.1, h.2.2⟩

namespace Entry

variable {S S' : Service ι} {errand : Errand}

theorem known (h : Entry log S id) (now : S.calls id = errand) : Told log S id errand :=
  now ▸ h.told

theorem unanswered (h : Entry log S id) (waiting : S.calls id = .waiting c) {c' : Call}
    {answer : Remotes.Answer c'} : .replied id c' answer ∉ log := by
  intro mem
  cases h.replied c' answer mem with
  | inl answered => cases waiting.symm.trans answered
  | inr returned => cases waiting.symm.trans returned

theorem unanswered_snoc (h : Entry log S id) (waiting : S.calls id = .waiting c)
    (silent : ∀ c answer, note ≠ .replied id c answer) {c' : Call} {answer : Remotes.Answer c'} :
    .replied id c' answer ∉ log ++ [note] := by
  intro mem
  cases List.mem_append.mp mem with
  | inl mem => exact h.unanswered waiting mem
  | inr mem => exact silent c' answer (List.mem_singleton.mp mem).symm

/-- The call that is served is not in the queue. -/
theorem away (h : Entry log S id) (touched : InTime log id c) (c' : Call) :
    (id, c') ∉ S.requests :=
  fun mem => touched.touched (h.queued c' mem).2

/-- What is done for others leaves a call as it is. -/
theorem snoc (h : Entry log S id) (apart : note.actor? ≠ some id)
    (calls : S'.calls id = S.calls id)
    (requests : ∀ c, (id, c) ∈ S'.requests ↔ (id, c) ∈ S.requests)
    (post : ∀ c w t rest, S'.post = .serving id c w t rest ↔ S.post = .serving id c w t rest) :
    Entry (log ++ [note]) S' id where
  told := by
    rw [calls]
    have told := h.told
    cases errand : S.calls id with
    | unmade | sending c | lost c =>
        rw [errand] at told
        exact untouched_snoc.mpr ⟨told, apart⟩
    | waiting c =>
        rw [errand] at told
        simpa only [Told, requests, post] using told
    | answered c answer =>
        rw [errand] at told
        exact Answered.append told [note]
    | returned c answer =>
        rw [errand] at told
        cases told with
        | inl unreached =>
            exact .inl ⟨unreached.1, untouched_snoc.mpr ⟨unreached.2, apart⟩⟩
        | inr answered => exact .inr (answered.append [note])
  queued c mem := by
    obtain ⟨waiting, untouched⟩ := h.queued c ((requests c).mp mem)
    exact ⟨calls.trans waiting, untouched_snoc.mpr ⟨untouched, apart⟩⟩
  serving c w t rest same := by
    obtain ⟨waiting, inTime, steps⟩ := h.serving c w t rest ((post ..).mp same)
    exact ⟨calls.trans waiting, inTime.append [note], steps⟩
  replied c answer mem := by
    rw [calls]
    cases List.mem_append.mp mem with
    | inl mem => exact h.replied c answer mem
    | inr mem =>
        cases List.mem_singleton.mp mem
        exact absurd rfl apart

/-- What is done for a call that is served leaves the others as they are. -/
theorem other {id' : ι} (h : Entry log S id') (apart : id' ≠ id) (actor : note.actor? = some id)
    (calls : S'.calls id' = S.calls id')
    (requests : ∀ c, (id', c) ∈ S'.requests ↔ (id', c) ∈ S.requests)
    (before : ∀ c w t rest, S.post = .serving id' c w t rest → id' = id)
    (after : ∀ c w t rest, S'.post = .serving id' c w t rest → id' = id) :
    Entry (log ++ [note]) S' id' := by
  refine h.snoc (fun same => ?_) calls requests fun c w t rest => ?_
  · exact apart (Option.some.inj (same.symm.trans actor))
  · constructor
    · exact fun same => absurd (after c w t rest same) apart
    · exact fun same => absurd (before c w t rest same) apart

/-- A call moves on that does not wait. -/
theorem setCall [DecidableEq ι] (h : Entry log S id) (apart : note.actor? ≠ some id)
    (free : ∀ c, S.calls id ≠ .waiting c) (told : Told (log ++ [note]) S id errand)
    (kept : ∀ c answer, S.calls id = .answered c answer ∨ S.calls id = .returned c answer →
      errand = .returned c answer) : Entry (log ++ [note]) (S.setCall id errand) id where
  told := by
    rw [calls_setCall_self]
    exact told
  queued c mem := absurd (h.queued c mem).1 (free c)
  serving c w t rest same := absurd (h.serving c w t rest same).1 (free c)
  replied c answer mem := by
    cases List.mem_append.mp mem with
    | inl mem =>
        exact .inr ((calls_setCall_self S id errand).trans (kept c answer (h.replied c answer mem)))
    | inr mem =>
        cases List.mem_singleton.mp mem
        exact absurd rfl apart

end Entry

theorem filed_start : Filed ([] : List (Note ι)) .start where
  call id := by
    refine ⟨?_, ?_, ?_, ?_⟩
    · intro note mem
      cases mem
    · intro c mem
      cases mem
    · intro c w t rest same
      cases same
    · intro c answer mem
      cases mem
  distinct := .nil
  up _ _ := List.not_mem_nil

namespace Filed

variable {S S' : Service ι}

theorem up_snoc (h : Filed log S) (calm : note ≠ .tookShutdown) :
    ∀ w, S.post.worker? = some w → .tookShutdown ∉ log ++ [note] := by
  intro w same mem
  cases List.mem_append.mp mem with
  | inl mem => exact h.up w same mem
  | inr mem => exact calm (List.mem_singleton.mp mem).symm

/-- A step that concerns no call. -/
theorem quiet (h : Filed log S) (apart : note.actor? = none) (calls : S'.calls = S.calls)
    (requests : S'.requests = S.requests)
    (post : ∀ id c w t rest, S'.post = .serving id c w t rest ↔ S.post = .serving id c w t rest)
    (up : ∀ w, S'.post.worker? = some w → .tookShutdown ∉ log ++ [note]) :
    Filed (log ++ [note]) S' where
  call id := (h.call id).snoc (by simp [apart]) (congrFun calls id) (by simp [requests]) (post id)
  distinct := requests ▸ h.distinct
  up := up

/-- The call at the head of the queue, and the others behind it. -/
theorem head (h : Filed log S) {rest : List (Message ι)}
    (first : S.queue = .request id c :: rest) :
    S.calls id = .waiting c ∧ Untouched log id ∧
      id ∉ (rest.filterMap Message.request?).map Prod.fst ∧
      ((rest.filterMap Message.request?).map Prod.fst).Nodup := by
  have requests : S.requests = (id, c) :: rest.filterMap Message.request? := by
    rw [Service.requests, first]
    rfl
  obtain ⟨waiting, untouched⟩ := (h.call id).queued c (by simp [requests])
  have distinct := h.distinct
  rw [requests, List.map_cons, List.nodup_cons] at distinct
  exact ⟨waiting, untouched, distinct.1, distinct.2⟩

theorem tookRequest (h : Filed log S) {w : Worker} {rest : List (Message ι)}
    (resting : S.post = .resting w) (first : S.queue = .request id c :: rest) :
    Filed (log ++ [.tookRequest id c])
      { S with post := .serving id c w [] (w.serve c), queue := rest } := by
  obtain ⟨waiting, untouched, once, distinct⟩ := h.head first
  have running : .tookShutdown ∉ log := h.up w (by rw [resting]; rfl)
  refine ⟨fun id' => ?_, distinct, fun w' _ mem => ?_⟩
  · by_cases same : id' = id
    · subst same
      refine ⟨?_, fun c' mem => ?_, fun c' w' t left same => ?_, fun c' answer mem => ?_⟩
      · change Told _ _ id' (S.calls id')
        rw [waiting]
        exact .inr ⟨w, [], w.serve c, rfl⟩
      · exact absurd (List.mem_map_of_mem mem) once
      · cases same
        exact ⟨waiting, inTime_snoc running, rfl⟩
      · exact absurd mem ((h.call id').unanswered_snoc waiting fun _ _ same => by cases same)
    · refine (h.call id').other same rfl rfl (fun c' => ?_) (fun _ _ _ _ serving => ?_)
        fun _ _ _ _ serving => ?_
      · rw [Service.requests, Service.requests, first]
        simp [Message.request?, same]
      · cases resting.symm.trans serving
      · cases serving
        rfl
  · cases List.mem_append.mp mem with
    | inl mem => exact running mem
    | inr mem => cases List.mem_singleton.mp mem

theorem asked (h : Filed log S) {w : Worker} {t : Trace Stage} {call : Stage.Call}
    {next : Stage.Answer call → Program Stage (Remotes.Answer c × Worker)}
    (post : S.post = .serving id c w t (.call call next)) (answer : Stage.Answer call) :
    Filed (log ++ [.asked (some id) ⟨call, answer⟩])
      { S with post := .serving id c w (t ++ [⟨call, answer⟩]) (next answer) } := by
  obtain ⟨waiting, inTime, steps⟩ := (h.call id).serving c w t _ post
  refine ⟨fun id' => ?_, h.distinct, fun w' same => ?_⟩
  · by_cases same : id' = id
    · subst same
      refine ⟨?_, fun c' mem => ?_, fun c' w' t' left same => ?_, fun c' answer' mem => ?_⟩
      · change Told _ _ id' (S.calls id')
        rw [waiting]
        exact .inr ⟨w, _, _, rfl⟩
      · exact absurd mem ((h.call id').away inTime c')
      · cases same
        exact ⟨waiting, inTime.append _, steps.snoc answer⟩
      · exact absurd mem ((h.call id').unanswered_snoc waiting fun _ _ same => by cases same)
    · refine (h.call id').other same rfl rfl (fun _ => .rfl) (fun _ _ _ _ serving => ?_)
        fun _ _ _ _ serving => ?_
      · cases post.symm.trans serving
        rfl
      · cases serving
        rfl
  · exact h.up_snoc nofun w' (by rw [post]; exact same)

section Calls

variable [DecidableEq ι]

/-- A step of one call that does not wait. -/
theorem setCall (h : Filed log S) {errand : Errand} (apart : note.actor? = none)
    (calm : note ≠ .tookShutdown) (free : ∀ c, S.calls id ≠ .waiting c)
    (told : Told (log ++ [note]) S id errand)
    (kept : ∀ c answer, S.calls id = .answered c answer ∨ S.calls id = .returned c answer →
      errand = .returned c answer) : Filed (log ++ [note]) (S.setCall id errand) where
  call id' := by
    by_cases same : id' = id
    · subst same
      exact (h.call id').setCall (by simp [apart]) free told kept
    · exact (h.call id').snoc (by simp [apart]) (calls_setCall_of_ne S errand same)
        (fun _ => .rfl) (fun _ _ _ _ => .rfl)
  distinct := h.distinct
  up := h.up_snoc calm

theorem sent (h : Filed log S) (sending : S.calls id = .sending c) :
    Filed (log ++ [.sent id])
      { S.setCall id (.waiting c) with queue := S.queue ++ [.request id c] } := by
  have untouched : Untouched log id := (h.call id).known sending
  have away (c') : (id, c') ∉ S.requests := fun mem => by
    cases sending.symm.trans ((h.call id).queued c' mem).1
  have requests : Service.requests
      { S.setCall id (.waiting c) with queue := S.queue ++ [.request id c] } =
        S.requests ++ [(id, c)] := by
    simp [Service.requests, Message.request?]
  refine ⟨fun id' => ?_, ?_, h.up_snoc (by simp)⟩
  · by_cases same : id' = id
    · subst same
      have waiting := calls_setCall_self S id' (.waiting c)
      refine ⟨?_, fun c' mem => ?_, fun c' w t rest post => ?_, fun c' answer mem => ?_⟩
      · change Told _ _ id' ((S.setCall id' (.waiting c)).calls id')
        rw [waiting]
        exact .inl (by simp [requests])
      · rw [requests, List.mem_append] at mem
        cases mem with
        | inl mem => exact absurd mem (away c')
        | inr mem =>
            cases List.mem_singleton.mp mem
            exact ⟨waiting, untouched_snoc.mpr ⟨untouched, by simp [Note.actor?]⟩⟩
      · cases sending.symm.trans ((h.call id').serving c' w t rest post).1
      · cases List.mem_append.mp mem with
        | inl mem =>
            cases (h.call id').replied c' answer mem with
            | inl answered => cases sending.symm.trans answered
            | inr returned => cases sending.symm.trans returned
        | inr mem => cases List.mem_singleton.mp mem
    · refine (h.call id').snoc (by simp [Note.actor?]) (calls_setCall_of_ne S _ same) (fun c' => ?_)
        fun _ _ _ _ => .rfl
      rw [requests]
      simp [same]
  · rw [requests, List.map_append]
    refine List.nodup_append.mpr ⟨h.distinct, by simp, fun _ mem _ last same => ?_⟩
    obtain ⟨⟨id', c'⟩, found, rfl⟩ := List.mem_map.mp mem
    have mine : id' = id := same.trans (List.mem_singleton.mp last)
    exact away c' (mine ▸ found)

theorem replied (h : Filed log S) {w w' : Worker} {t : Trace Stage}
    {answer : Remotes.Answer c} (post : S.post = .serving id c w t (.done (answer, w'))) :
    Filed (log ++ [.replied id c answer])
      { S.setCall id (.answered c answer) with post := .resting w' } := by
  obtain ⟨waiting, inTime, steps⟩ := (h.call id).serving c w t _ post
  have served : Served w c (rights t) answer w' := serve_ensures w c steps
  refine ⟨fun id' => ?_, h.distinct, fun w₁ _ => ?_⟩
  · by_cases same : id' = id
    · subst same
      have now := calls_setCall_self S id' (.answered c answer)
      refine ⟨?_, fun c' mem => ?_, fun c' w₁ t' left same => ?_, fun c' answer' mem => ?_⟩
      · change Told _ _ id' ((S.setCall id' (.answered c answer)).calls id')
        rw [now]
        exact ⟨inTime.append _, by simp, served.accepted⟩
      · exact absurd mem ((h.call id').away inTime c')
      · cases same
      · cases List.mem_append.mp mem with
        | inl mem => exact absurd mem ((h.call id').unanswered waiting)
        | inr mem =>
            cases List.mem_singleton.mp mem
            exact .inl now
    · refine (h.call id').other same rfl (calls_setCall_of_ne S _ same) (fun _ => .rfl)
        (fun _ _ _ _ serving => ?_) fun _ _ _ _ serving => ?_
      · cases post.symm.trans serving
        rfl
      · cases serving
  · exact h.up_snoc nofun w (by rw [post]; rfl)

theorem exited (h : Filed log S) {w : Worker} {t : Trace Stage}
    (post : S.post = .stopping w t (.done ())) :
    Filed (log ++ [.exited])
      { S with post := .gone, queue := [], calls := lose S.queue S.calls } := by
  refine ⟨fun id => ?_, .nil, fun w' up => by cases up⟩
  have apart (c w' t' rest) : .gone = Post.serving id c w' t' rest ↔
      S.post = .serving id c w' t' rest := by
    rw [post]
    exact ⟨nofun, nofun⟩
  by_cases queued : ∃ c, (id, c) ∈ S.requests
  · obtain ⟨c, mem⟩ := queued
    obtain ⟨waiting, untouched⟩ := (h.call id).queued c mem
    obtain ⟨c', mem', lost⟩ := lose_of_request (mem_requests.mp mem) S.calls
    refine ⟨?_, fun c₁ mem => ?_, fun c₁ w' t' left same => ?_, fun c₁ answer mem => ?_⟩
    · change Told _ _ id (lose S.queue S.calls id)
      rw [lost]
      exact untouched_snoc.mpr ⟨untouched, nofun⟩
    · cases mem
    · cases same
    · exact absurd mem ((h.call id).unanswered_snoc waiting fun _ _ same => by cases same)
  · refine (h.call id).snoc nofun ?_ (fun c => ⟨nofun, fun mem => absurd ⟨c, mem⟩ queued⟩) apart
    exact lose_of_not_request (fun c mem => queued ⟨c, mem_requests.mpr mem⟩) S.calls

theorem step (h : Filed log S) (step : Step S note S') : Filed (log ++ [note]) S' := by
  cases step with
  | @made id c unmade =>
      have untouched : Untouched log id := (h.call id).known unmade
      exact h.setCall rfl (by simp) (by simp [unmade])
        (untouched_snoc.mpr ⟨untouched, by simp [Note.actor?]⟩) (by simp [unmade])
  | sent sending up room => exact h.sent sending
  | @refused id c sending gone =>
      have untouched : Untouched log id := (h.call id).known sending
      exact h.setCall rfl (by simp) (by simp [sending])
        (.inl ⟨rfl, untouched_snoc.mpr ⟨untouched, by simp [Note.actor?]⟩⟩) (by simp [sending])
  | tookRequest resting first => exact h.tookRequest resting first
  | asked answer post => exact h.asked post answer
  | replied post => exact h.replied post
  | @returned id c answer answered =>
      have known : Answered log id c answer := (h.call id).known answered
      refine h.setCall rfl (by simp) (by simp [answered]) (.inr (known.append _)) ?_
      intro c' answer' same
      cases same with
      | inl same =>
          cases answered.symm.trans same
          rfl
      | inr same => cases answered.symm.trans same
  | @disconnected id c lost =>
      have untouched : Untouched log id := (h.call id).known lost
      exact h.setCall rfl (by simp) (by simp [lost])
        (.inl ⟨rfl, untouched_snoc.mpr ⟨untouched, by simp [Note.actor?]⟩⟩) (by simp [lost])
  | closing keeping => exact h.quiet rfl rfl rfl (fun _ _ _ _ _ => .rfl) (h.up_snoc (by simp))
  | sentShutdown closing room =>
      refine h.quiet rfl rfl ?_ (fun _ _ _ _ _ => .rfl) (h.up_snoc (by simp))
      simp [requests, Message.request?]
  | tookShutdown resting first perm =>
      refine h.quiet rfl rfl ?_ (fun _ _ _ _ _ => ?_) (fun _ up => by cases up)
      · rw [requests, requests, first]
        rfl
      · rw [resting]
        exact iff_of_false (fun serving => by cases serving) fun serving => by cases serving
  | askedLast answer post =>
      refine h.quiet rfl rfl rfl (fun _ _ _ _ _ => ?_) (fun _ up => by cases up)
      rw [post]
      exact iff_of_false (fun serving => by cases serving) fun serving => by cases serving
  | exited post => exact h.exited post
  | joined joining gone => exact h.quiet rfl rfl rfl (fun _ _ _ _ _ => .rfl) (h.up_snoc (by simp))

/-- What a call is for stays the same. -/
theorem call?_eq (h : Filed log S) (step : Step S note S') (made : S.calls id ≠ .unmade) :
    (S'.calls id).call? = (S.calls id).call? := by
  have moved {id' : ι} {errand : Errand} (same : errand.call? = (S.calls id').call?) :
      ((S.setCall id' errand).calls id).call? = (S.calls id).call? := by
    by_cases here : id = id'
    · rw [here, calls_setCall_self, same]
    · rw [calls_setCall_of_ne S errand here]
  cases step with
  | tookRequest _ _ | asked _ _ | closing _ | sentShutdown _ _ | tookShutdown _ _ _
  | askedLast _ _ | joined _ _ => rfl
  | made id' c unmade =>
      have other : id ≠ id' := fun same => made (same ▸ unmade)
      rw [calls_setCall_of_ne S _ other]
  | sent before _ _ | refused before _ | returned before | disconnected before =>
      exact moved (by rw [before]; rfl)
  | @replied id' _ _ _ _ _ post =>
      exact moved (by rw [((h.call id').serving _ _ _ _ post).1]; rfl)
  | exited post =>
      change (lose S.queue S.calls id).call? = _
      by_cases queued : ∃ c, .request id c ∈ S.queue
      · obtain ⟨c, mem⟩ := queued
        obtain ⟨c', mem', lost⟩ := lose_of_request mem S.calls
        rw [lost, ((h.call id).queued c' (mem_requests.mpr mem')).1]
        rfl
      · rw [lose_of_not_request (fun c mem => queued ⟨c, mem⟩) S.calls]

end Calls

end Filed

theorem filed_run [DecidableEq ι] {S : Service ι} (h : Run log S) : Filed log S := by
  induction h with
  | start => exact filed_start
  | next _ step ih => exact ih.step step

end AlertSound.Remote
