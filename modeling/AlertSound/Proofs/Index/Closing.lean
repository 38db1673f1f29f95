import AlertSound.Proofs.Index.Cursors
import AlertSound.Proofs.Playback.Output
import AlertSound.Session.Operation

/-!
Every cursor is closed. Four functions ask the index; each closes what it was given before
it returns, whatever its rows are and whatever fails. An engine that opens its sounds by
the index, here or beside the remote player, is only called while no cursor is open.
-/
namespace AlertSound

open Program Index

/-- No cursor is open before and after, nor whenever others are called. -/
abbrev Studio.Tidy {α : Type} (p : Program Studio α) : Prop :=
  Tends (besides (besides role)) none p none

variable {α : Type}

theorem fits_of_stage_plain (e : Event Stage) (h : Stage.Plain e.call) :
    (besides role e).Fits none none := by
  obtain ⟨c, answer⟩ := e
  cases c with
  | inl c =>
      change (role ⟨c, answer⟩).Fits none none
      rw [role_of_plain (e := ⟨c, answer⟩) h]
      exact .aside none
  | inr c => exact .apart

theorem tidy_of_plain {p : Program Studio α} (h : p.Asks Studio.Plain) : Studio.Tidy p := by
  refine .of_asks h fun e plain => ?_
  obtain ⟨c, answer⟩ := e
  cases c with
  | inl c => exact fits_of_stage_plain ⟨c, answer⟩ plain
  | inr c => exact .apart

/-- Asking for a cell of the only row leaves the cursor open. -/
theorem onlyRow_tends {cursor : CursorId} {a : α} {p : Program Resources α}
    (h : Tends role (some cursor) p (some cursor)) :
    Tends role (some cursor) (do
      if (← Resource.count cursor) != 1 then return a
      else if !(← Resource.moveToFirst cursor) then return a
      else p) (some cursor) := by
  refine .bind (tends_looking fun _ => rfl) fun count => ?_
  split
  · exact .pure _
  · refine .bind (tends_looking fun _ => rfl) fun moved => ?_
    split
    · exact .pure _
    · exact h

theorem dataPath_tends (r : Locator) : Tends role none (dataPath r) none := by
  unfold dataPath
  split
  · exact .pure _
  · exact .pure _
  all_goals
    refine query_tends ?_ ?_
    · exact fun _ => .pure _
    · exact fun cursor => withCursor_tends
        (onlyRow_tends (.bind (tends_looking fun _ => rfl) fun _ => .pure _))

namespace Title

theorem indexed_tends (r : Locator) : Tends role none (indexed r) none := by
  unfold indexed
  split
  · exact .pure _
  · refine query_tends ?_ ?_
    · exact fun _ => .pure _
    · exact fun cursor => withCursor_tends
        (onlyRow_tends (.bind (tends_looking fun _ => rfl) fun _ => .pure _))

theorem direct_tends (r : Locator) : Tends role none (direct r) none := by
  unfold direct
  split
  · exact .pure _
  · exact .pure _
  all_goals
    refine .bind (indexed_tends r) fun found => ?_
    split
    · exact .pure _
    · exact .pure _
    · exact .bind (log_tends ..) fun _ => .pure _

theorem resolve_tends (labels : Labels) (reference : Option Locator) (indirection : Indirection) :
    Tends role none (resolve labels reference indirection) none := by
  unfold resolve
  split
  · exact .pure _
  · split
    · refine .bind (tends_of_plain (resolveActual_plain _)) fun actual => ?_
      split
      · exact .pure _
      · exact .bind (direct_tends _) fun _ => .pure _
    · exact .bind (direct_tends _) fun _ => .pure _

end Title

namespace Restore

theorem stillExists_tends (raw : String) : Tends role none (stillExists raw) none := by
  unfold stillExists
  split
  · exact .bind (log_tends ..) fun _ => .pure _
  · refine query_tends ?_ ?_
    · exact fun _ => .pure _
    · exact fun cursor => withCursor_tends (.bind (tends_looking fun _ => rfl) fun _ => .pure _)

/-- The cursor stays open while the setting is written. -/
theorem repoint_tends (key current fileName : String) (cursor : CursorId) :
    Tends role (some cursor) (repoint key current fileName cursor) (some cursor) := by
  refine .bind (tends_looking fun _ => rfl) fun count => ?_
  split
  · exact .bind (log_tends ..) fun _ => .pure _
  · refine .bind (tends_looking fun _ => rfl) fun moved => ?_
    split
    · exact .bind (log_tends ..) fun _ => .pure _
    · refine .bind (tends_looking fun _ => rfl) fun cell => ?_
      split
      · exact .pure _
      · refine .bind (tends_putSetting ..) fun written => ?_
        split
        · exact .pure _
        · exact .bind (log_tends ..) fun _ => .pure _

theorem one_tends (config : RestoreConfig) (kind : DefaultKind) :
    Tends role none (one config kind) none := by
  refine .bind (tends_of_plain (.request trivial)) fun raw => ?_
  split
  · exact .pure _
  · refine .bind (stillExists_tends _) fun exists' => ?_
    split
    · exact .pure _
    · exact .pure _
    · split
      · exact .bind (log_tends ..) fun _ => .pure _
      · refine find_tends ?_ ?_
        · exact fun _ => .pure _
        · exact fun cursor => withCursor_tends (repoint_tends ..)

theorem each_tends (config : RestoreConfig) (kinds : List DefaultKind) :
    Tends role none (each config kinds) none := by
  induction kinds with
  | nil => exact .pure _
  | cons kind kinds ih =>
      refine .bind (one_tends config kind) fun restored => ?_
      split
      · exact .bind ih fun _ => .pure _
      · exact .bind (log_tends ..) fun _ => ih

theorem all_tends (config : RestoreConfig) : Tends role none (all config) none := by
  unfold all
  split
  · exact each_tends ..
  · exact .pure _

end Restore

namespace EngineKind

theorem load_tends (tree : FileTree) (source : Source) :
    Tends role none (load tree source) none := by
  unfold load
  split
  · split
    · exact .pure _
    · exact .pure _
    · exact .pure _
  · refine .bind (dataPath_tends _) fun path => ?_
    split
    · exact .pure _
    · exact .pure _
    · exact .pure _
    · split
      · exact .pure _
      · exact .pure _
      · exact .pure _

theorem openSource_tends (kind : EngineKind) (tree : FileTree) (source : Source)
    (attributes : Attributes) : Tends role none (kind.openSource tree source attributes) none := by
  unfold openSource
  split
  · exact .bind (log_tends ..) fun _ => .pure _
  · refine .bind (load_tends ..) fun loaded => ?_
    split
    · exact .pure _
    · exact .bind (log_tends ..) fun _ => .pure _

end EngineKind

namespace Remote.Worker

theorem serveStop_plain (w : Worker) (token : Token) : (w.serveStop token).Asks Stage.Plain := by
  unfold serveStop
  split
  · exact .pure _
  · exact .bind (Player.drop_plain _) fun _ => .pure _

theorem servePlay_plain (w : Worker) (token : Token) (r : Locator) (attributes : Attributes) :
    (w.servePlay token r attributes).Asks Stage.Plain := by
  refine .bind (w.serveStop_plain token) fun w => ?_
  refine .bind (Player.openPrepared_plain ..) fun opened => ?_
  split
  · exact .bind (.left (.request trivial)) fun _ => .pure _
  · refine .bind (.right (.request trivial)) fun started => ?_
    split
    · exact .bind (.left (.request trivial)) fun _ => .pure _
    · exact .bind (.left (.request trivial)) fun _ => .bind (Player.drop_plain _) fun _ => .pure _

theorem serveIsPlaying_plain (w : Worker) (token : Token) :
    (w.serveIsPlaying token).Asks Stage.Plain := by
  unfold serveIsPlaying
  split
  · exact .pure _
  · exact .right (.request trivial)

/-- The remote player uses the index through its engine alone. -/
theorem serve_plain (w : Worker) (c : Call) : (w.serve c).Asks Stage.Plain := by
  cases c with
  | play token r attributes => exact .bind (w.servePlay_plain ..) fun _ => .pure _
  | stop token => exact .bind (w.serveStop_plain token) fun _ => .pure _
  | isPlaying token => exact .bind (w.serveIsPlaying_plain token) fun _ => .pure _

end Remote.Worker

namespace Session

theorem afterRestore_tidy {config : RestoreConfig} {p : Program Studio Session}
    (h : Studio.Tidy p) :
    Studio.Tidy (if config.enabled = true then do
      let _ ← liftM (Restore.all config)
      p
    else p) := by
  split
  · exact .bind (.left (.left (Restore.all_tends _))) fun _ => h
  · exact h

theorem openReference_tidy (s : Session) (r : Locator) : Studio.Tidy (s.openReference r) := by
  simp only [openReference]
  refine afterRestore_tidy (tidy_of_plain (.bind (.left (s.openHere_plain r)) fun opened => ?_))
  split
  · exact .bind (log_plain ..) fun _ => .pure _
  · split
    · exact .bind (log_plain ..) fun _ => .pure _
    · exact .bind (log_plain ..) fun _ => .pure _

theorem bind_tidy (s : Session) : Studio.Tidy s.bind := by
  refine .bind (tidy_of_plain s.releaseBacking_plain) fun s => ?_
  split
  · exact .pure _
  · exact openReference_tidy _ _

theorem setStreamNumber_tidy (s : Session) (number : Int) :
    Studio.Tidy (s.setStreamNumber number) := by
  unfold setStreamNumber
  split
  · exact .pure _
  · exact .bind (bind_tidy _) fun _ => .pure _

theorem getTitle_tidy (s : Session) : Studio.Tidy s.getTitle := by
  unfold getTitle
  split
  · exact .pure _
  · exact .bind (.left (.left (Title.resolve_tends ..))) fun _ => .pure _

theorem perform_tidy (s : Session) (o : Operation) : Studio.Tidy (s.perform o) := by
  cases o with
  | setReference _ | setAttributes _ => exact .bind (bind_tidy _) fun _ => .pure _
  | setStreamNumber number =>
      refine .bind (s.setStreamNumber_tidy number) fun result => ?_
      split
      · exact .pure _
      · exact .pure _
  | attributes | stream | reference | allowsRemote | setTitle _ => exact .pure _
  | title => exact .bind s.getTitle_tidy fun _ => .pure _
  | play => exact .bind (tidy_of_plain s.play_plain) fun _ => .pure _
  | stop => exact .bind (tidy_of_plain s.releaseBacking_plain) fun _ => .pure _
  | isPlaying => exact .bind (tidy_of_plain s.isPlaying_plain) fun _ => .pure _
  | playFallback => exact .bind (tidy_of_plain s.playFallback_plain) fun _ => .pure _

end Session

/-- What an engine asks the resources while it serves a call. One that does not open its
sounds by the index asks nothing. -/
def Engine.Serves : Event Engines → Trace Resources → Prop
  | ⟨.openSource source attributes, _⟩, u =>
    u = [] ∨ ∃ (kind : EngineKind) (tree : FileTree) (result : Except EngineError EngineHandle),
      (kind.openSource tree source attributes).Runs u result
  | ⟨.prepare _, _⟩, u =>
    u = [] ∨
      ∃ kind line handle result, (EngineHandle.prepare kind line handle).Runs u result
  | _, u => u = []

/-- What the remote player asks its engine and the resources while it serves a call. One
that is not here asks nothing. -/
def Remote.Serves (e : Event Remotes) (u : Trace Stage) : Prop :=
  u = [] ∨ ∃ w w', (Worker.serve w e.call).Runs u (e.answer, w')

theorem Engine.Serves.tended {e : Event Engines} {u : Trace Resources} (h : Serves e u) :
    Tended role none u none := by
  obtain ⟨c, answer⟩ := e
  cases c with
  | openSource source attributes =>
      cases h with
      | inl quiet => exact quiet ▸ .done
      | inr opens =>
          obtain ⟨kind, tree, result, runs⟩ := opens
          exact kind.openSource_tends tree source attributes runs
  | prepare handle =>
      cases h with
      | inl quiet => exact quiet ▸ .done
      | inr prepares =>
          obtain ⟨kind, line, handle, result, runs⟩ := prepares
          exact tends_of_plain (handle.prepare_reads kind line).plain runs
  | start _ | stop _ | reset _ | release _ | isPlaying _ => exact h ▸ .done

theorem Remote.Serves.tended {e : Event Remotes} {u : Trace Stage} (h : Serves e u) :
    Tended (besides role) none u none := by
  cases h with
  | inl quiet => exact quiet ▸ .done
  | inr serves =>
      obtain ⟨w, w', runs⟩ := serves
      exact Tends.of_asks (w.serve_plain e.call) fits_of_stage_plain runs

namespace Index

/-- What may be asked for that uses the index: an operation of a session, whatever its
state, or its end, a title, a path, a restore pass or one of its steps, and a sound that
an engine opens. -/
inductive Errand where
  | session (s : Session) (operation : Session.Operation)
  | drop (s : Session)
  | title (labels : Labels) (reference : Option Locator) (indirection : Title.Indirection)
  | path (r : Locator)
  | restore (config : RestoreConfig)
  | restoreOne (config : RestoreConfig) (kind : DefaultKind)
  | openSource (kind : EngineKind) (tree : FileTree) (source : Source) (attributes : Attributes)

namespace Errand

def program : Errand → Program Studio Unit
  | .session s operation => discard (s.perform operation)
  | .drop s => s.drop
  | .title labels reference indirection =>
    discard (Title.resolve labels reference indirection).left.left
  | .path r => discard (dataPath r).left.left
  | .restore config => discard (Restore.all config).left.left
  | .restoreOne config kind => discard (Restore.one config kind).left.left
  | .openSource kind tree source attributes =>
    discard (kind.openSource tree source attributes).left.left

def Asks (errand : Errand) (asked : Trace Resources) : Prop :=
  ∃ t u, errand.program.Runs t () ∧ Inlined Remote.Serves t u ∧ Inlined Engine.Serves u asked

theorem program_tidy (errand : Errand) : Studio.Tidy errand.program := by
  have discarded {α : Type} {p : Program Studio α} (h : Studio.Tidy p) :
      Studio.Tidy (discard p) := ensures_map.mpr h
  cases errand with
  | session s operation => exact discarded (s.perform_tidy operation)
  | drop s => exact tidy_of_plain s.drop_plain
  | title labels reference indirection =>
      exact discarded (.left (.left (Title.resolve_tends ..)))
  | path r => exact discarded (.left (.left (dataPath_tends r)))
  | restore config => exact discarded (.left (.left (Restore.all_tends config)))
  | restoreOne config kind => exact discarded (.left (.left (Restore.one_tends ..)))
  | openSource kind tree source attributes =>
      exact discarded (.left (.left (EngineKind.openSource_tends ..)))

theorem Asks.tended {errand : Errand} {asked : Trace Resources} (h : errand.Asks asked) :
    Tended role none asked none := by
  obtain ⟨t, u, runs, remote, engine⟩ := h
  have staged : Tended (besides role) none u none :=
    remote.tended (fun _ _ => Remote.Serves.tended) (errand.program_tidy runs)
  exact engine.tended (fun _ _ => Engine.Serves.tended) staged

end Errand

structure Outing where
  errand : Errand
  asked : Trace Resources

def asked (run : List Outing) : Trace Resources := run.flatMap Outing.asked

theorem tended_asked {run : List Outing} (h : ∀ o ∈ run, o.errand.Asks o.asked) :
    Tended role none (asked run) none := by
  induction run with
  | nil => exact .done
  | cons o run ih =>
      obtain ⟨first, rest⟩ := List.forall_mem_cons.mp h
      exact first.tended.append (ih rest)

/-- Cursors are closed once. In every run of errands, whatever the answers are, a cursor
that one of them opens is first called in that errand and not before; after its calls it
is closed, once and before the errand ends, and never called again. At no time are two
cursors open, and none is open between errands. Cursors are told apart by their names, so
the index must not hand out one name twice. -/
theorem cursors_closed_once {run : List Outing} (h : ∀ o ∈ run, o.errand.Asks o.asked)
    (distinct : (opened (asked run)).Nodup) {before after : List Outing} {o : Outing}
    (split : run = before ++ o :: after) :
    (∀ u e v cursor, o.asked = u ++ e :: v → opened? e = some cursor →
      calls cursor (asked before ++ u ++ [e]) = [] ∧
      (∃ looks, calls cursor v = looks ++ [.close cursor] ∧ .close cursor ∉ looks) ∧
      calls cursor (asked after) = []) ∧
    (∀ u v, o.asked = u ++ v → (unclosed (asked before ++ u)).length ≤ 1) ∧
    unclosed (asked before ++ o.asked) = [] := by
  subst split
  rw [List.forall_mem_append, List.forall_mem_cons] at h
  obtain ⟨earlier, now, later⟩ := h
  have whole : asked (before ++ o :: after) = asked before ++ o.asked ++ asked after := by
    simp [asked]
  rw [whole, opened_append] at distinct
  obtain ⟨distinct, -, apart⟩ := List.nodup_append.mp distinct
  have started := tended_asked earlier
  have ended := started.append now.tended
  refine ⟨fun u e v cursor same opens => ?_, fun u v same => ?_, ended.unclosed_eq distinct⟩
  · rw [same, ← List.append_assoc] at ended distinct apart
    obtain ⟨fresh, closes⟩ := ended.calls_opened distinct opens
    have known : cursor ∈ opened (asked before ++ u ++ e :: v) := by
      rw [opened_append, opened_cons, opens]
      exact List.mem_append_right _ List.mem_cons_self
    have gone : cursor ∉ opened (asked after) := fun he => apart cursor known cursor he rfl
    exact ⟨fresh, closes, (tended_asked later).calls_eq_nil nofun gone⟩
  · rw [same, ← List.append_assoc] at ended distinct
    obtain ⟨held, first, -⟩ := tended_append.mp ended
    rw [opened_append] at distinct
    rw [first.unclosed_eq (List.nodup_append.mp distinct).1]
    cases held with
    | none => exact Nat.zero_le 1
    | some cursor => exact Nat.le_refl 1

def cluttered : Handler Resources Nat
  | .query _ _, n | .find _, n => (.ok n, n + 1)
  | .count cursor, n => (if cursor = 0 then 0 else 1, n)
  | .moveToFirst _, n => (true, n)
  | .setting _, n => (some "content://media/internal/audio/media/9", n)
  | c, n => compliant (.inl c) n

def clutter : List Outing :=
  let restore : RestoreConfig := ⟨true, ⟨1⟩, [(.ringtone 0, "a.ogg")]⟩
  let r : Locator := .media .inside 1
  [⟨.restore restore, (Restore.all restore).record cluttered 0⟩,
    ⟨.session (.new .ordinary none) (.setReference (some r)),
      ((EngineKind.device ⟨none, "", none⟩).openSource .empty (.locator r)
          .ordinary).record cluttered 2 ++
        (Session.log .warn "local open failed and remote playback not allowed"
          [("reference", .shown r.text),
            ("error", .shown (EngineError.noData r.text).message)]).record cluttered 3⟩]

theorem clutter_asks : ∀ o ∈ clutter, o.errand.Asks o.asked := by
  let r : Locator := .media .inside 1
  have restore (config : RestoreConfig) :
      (Errand.restore config).Asks ((Restore.all config).record cluttered 0) := by
    refine ⟨_, _, ?_, inlined_map_left _, inlined_map_left _⟩
    exact runs_map.mpr ⟨_, runs_left.mpr ⟨_, rfl, runs_left.mpr ⟨_, rfl, runs_record ..⟩⟩, rfl⟩
  simp only [clutter, List.forall_mem_cons]
  refine ⟨restore _, ?_, fun _ none => absurd none List.not_mem_nil⟩
  let staged : Trace Stage :=
    [Event.right ⟨.openSource (.locator r) .ordinary, .error (.noData r.text)⟩,
      Event.left ⟨.log ⟨.warn, "session", "local open failed and remote playback not allowed",
        [("reference", .shown r.text), ("error", .shown (EngineError.noData r.text).message)]⟩, ()⟩]
  refine ⟨_, staged, ?_, inlined_map_left staged, ?_⟩
  · exact ⟨_, rfl, _, rfl, rfl⟩
  · exact .served (.inr ⟨_, _, _, runs_record ..⟩) (.own _ .done)

theorem cursors_closed_once_clutter :
    opened (asked clutter) = [0, 1, 2] ∧
      calls 1 (asked clutter) = [.count 1, .moveToFirst 1, .cell 1 0, .close 1] ∧
      unclosed (asked clutter) = [] := by
  have opens : opened (asked clutter) = [0, 1, 2] := by decide +kernel
  have split : clutter = clutter.dropLast ++ _ :: [] := rfl
  obtain ⟨-, -, closed⟩ := cursors_closed_once clutter_asks
    (show (opened (asked clutter)).Nodup by rw [opens]; decide) split
  exact ⟨opens, rfl, closed⟩

end Index
end AlertSound
