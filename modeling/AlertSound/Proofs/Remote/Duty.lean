import AlertSound.Proofs.Remote.Filing

/-!
The worker on duty. Between the calls the players it has are those that the log
accounts for, and it owns the handles of exactly these; while it serves a call or
stops, the rest of what it has asked is what it has asked for that. When it is gone
it owns nothing.
-/
namespace AlertSound.Remote

open Program Trace Service

variable {ι : Type}

theorem heard_snoc_of_none {log : List (Note ι)} {note : Note ι} (h : note.heard? = none) :
    heard (log ++ [note]) = heard log := by
  simp [heard, h]

theorem heard_snoc_asked (log : List (Note ι)) (id? : Option ι) (e : Event Stage) :
    heard (log ++ [.asked id? e]) = heard log ++ [e] := heard_append log [.asked id? e]

/-- Whoever gives up all its handles owns none. -/
theorem custody_endings (handles : List HandleId) :
    Engine.Custody handles (handles.flatMap Player.ending) [] := by
  induction handles with
  | nil => exact .refl []
  | cons handle rest ih => exact (Player.custody_ending rest handle).append ih

variable [DecidableEq ι]

/-- What the worker has, by the log. While a call is served this is what it had before. -/
structure Accounts (log : List (Note ι)) (past : Trace Stage) (w : Worker) : Prop where
  distinct : w.Distinct
  standing : Standing log w
  custody : Engine.Custody [] (rights past) w.handles

def OnDuty (log : List (Note ι)) : Post ι → Prop
  | .resting w => Accounts log (heard log) w
  | .serving id _ w t _ =>
      heardFor id log = t ∧ ∃ past, heard log = past ++ t ∧ Accounts log past w
  | .stopping w t rest =>
      w.shutDown.Steps t rest ∧
        ∃ past, heard log = past ++ t ∧ Engine.Custody [] (rights past) w.handles
  | .gone => Engine.Custody [] (rights (heard log)) []

variable {log : List (Note ι)} {note : Note ι} {past : Trace Stage} {w w' : Worker}

theorem Accounts.snoc (h : Accounts log past w) (quiet : ∀ id c answer, note ≠ .replied id c answer)
    (fresh : ∀ id c answer, .replied id c answer ∈ log → note.actor? ≠ some id) :
    Accounts (log ++ [note]) past w :=
  ⟨h.distinct, h.standing.snoc quiet fresh, h.custody⟩

theorem Accounts.replied {id : ι} {c : Call} {answer : Remotes.Answer c}
    (h : Accounts log past w) (served : Served w c (rights (heardFor id log)) answer w') :
    Accounts (log ++ [.replied id c answer]) (past ++ heardFor id log) w' where
  distinct := served.distinct h.distinct
  standing := h.standing.replied served
  custody := by
    rw [rights_append]
    exact h.custody.append (served.custody h.distinct)

/-- A step that the worker takes no part in. -/
theorem OnDuty.snoc {post : Post ι} (h : OnDuty log post) (apart : note.actor? = none)
    (silent : note.heard? = none) : OnDuty (log ++ [note]) post := by
  have quiet : ∀ id c answer, note ≠ .replied id c answer := by
    intro id c answer same
    subst same
    cases apart
  have away (id : ι) : note.actor? ≠ some id := by simp [apart]
  cases post with
  | resting w =>
      change Accounts _ (heard (log ++ [note])) w
      rw [heard_snoc_of_none silent]
      exact Accounts.snoc h quiet fun id _ _ _ => away id
  | serving id c w t rest =>
      obtain ⟨own, past, split, accounts⟩ := h
      refine ⟨(heardFor_snoc_of_ne log (away id)).trans own, past, ?_, ?_⟩
      · exact (heard_snoc_of_none silent).trans split
      · exact accounts.snoc quiet fun id _ _ _ => away id
  | stopping w t rest =>
      obtain ⟨steps, past, split, custody⟩ := h
      exact ⟨steps, past, (heard_snoc_of_none silent).trans split, custody⟩
  | gone =>
      change Engine.Custody [] (rights (heard (log ++ [note]))) []
      rw [heard_snoc_of_none silent]
      exact h

theorem OnDuty.step {S S' : Service ι} (h : OnDuty log S.post) (filed : Filed log S)
    (step : Step S note S') : OnDuty (log ++ [note]) S'.post := by
  cases step with
  | made _ _ _ | sent _ _ _ | refused _ _ | returned _ | disconnected _ | closing _
  | sentShutdown _ _ | joined _ _ => exact h.snoc rfl rfl
  | @tookRequest id c w rest resting first =>
      rw [resting] at h
      obtain ⟨waiting, untouched, -⟩ := filed.head first
      refine ⟨?_, heard log, (heard_snoc_of_none rfl).trans (List.append_nil _).symm, ?_⟩
      · simpa [heardFor, Note.heardFor?] using heardFor_of_untouched untouched
      · refine Accounts.snoc h (fun _ _ _ same => by cases same) fun id' c' answer' mem same => ?_
        cases same
        exact (filed.call id).unanswered waiting mem
  | @asked id c w t call next answer serving =>
      rw [serving] at h
      obtain ⟨own, past, split, accounts⟩ := h
      obtain ⟨waiting, -, -⟩ := (filed.call id).serving c w t _ serving
      refine ⟨by rw [heardFor_snoc_asked, own], past, ?_, ?_⟩
      · rw [heard_snoc_asked, split, List.append_assoc]
      · refine accounts.snoc (fun _ _ _ same => by cases same) fun id' c' answer' mem same => ?_
        cases same
        exact (filed.call id).unanswered waiting mem
  | @replied id c w t answer w' serving =>
      rw [serving] at h
      obtain ⟨own, past, split, accounts⟩ := h
      obtain ⟨-, -, steps⟩ := (filed.call id).serving c w t _ serving
      have served : Served w c (rights (heardFor id log)) answer w' :=
        own ▸ serve_ensures w c steps
      have replied := accounts.replied served
      rw [own, ← split] at replied
      change Accounts _ (heard (log ++ [.replied id c answer])) w'
      rw [heard_snoc_of_none rfl]
      exact replied
  | @tookShutdown w w' rest resting first perm =>
      rw [resting] at h
      refine ⟨rfl, heard log, (heard_snoc_of_none rfl).trans (List.append_nil _).symm, ?_⟩
      have handles : w.handles.Perm w'.handles :=
        perm.symm.map fun entry : Token × Player => entry.2.handle
      simpa using (Accounts.custody h).append (.perm handles)
  | askedLast answer stopping =>
      rw [stopping] at h
      obtain ⟨steps, past, split, custody⟩ := h
      refine ⟨steps.snoc answer, past, ?_, custody⟩
      rw [heard_snoc_asked, split, List.append_assoc]
  | @exited w t stopping =>
      rw [stopping] at h
      obtain ⟨steps, past, split, custody⟩ := h
      have ended : rights t = w.handles.flatMap Player.ending := shutDown_ensures w steps
      change Engine.Custody [] (rights (heard (log ++ [.exited]))) []
      rw [heard_snoc_of_none rfl, split, rights_append, ended]
      exact custody.append (custody_endings w.handles)

end AlertSound.Remote
