import AlertSound.Host.Basic
import AlertSound.Proofs.Index.Closing

/-!
Who writes settings. A host answers every call from the files, the settings store and the
index it has, and only a call that writes a setting changes any of these. Titles, engines,
and the remote player make no such call.
-/
namespace AlertSound

open Program

def Resource.Call.Spares : Resource.Call → Prop
  | .putSetting _ _ => False
  | _ => True

open Resource.Call (Plain Finds Spares)

theorem Resource.Call.Plain.spares {c : Resource.Call} (h : c.Plain) : c.Spares := by
  cases c with
  | putSetting _ _ => exact h.elim
  | _ => trivial

theorem Resource.Call.Finds.spares {c : Resource.Call} (h : c.Finds) : c.Spares := by
  cases c with
  | putSetting _ _ => exact h.elim
  | _ => trivial

/-- No call of a session, an engine or the remote player but one writes a setting. -/
def Studio.Spares : Studio.Call → Prop
  | .inl (.inl c) => c.Spares
  | .inl (.inr _) | .inr _ => True

def Stage.Spares (c : Stage.Call) : Prop := Studio.Spares (.inl c)

theorem Studio.Plain.spares {c : Studio.Call} (h : Studio.Plain c) : Studio.Spares c := by
  cases c with
  | inl c =>
      cases c with
      | inl c => exact Resource.Call.Plain.spares h
      | inr _ => trivial
  | inr _ => trivial

theorem dataPath_finds (r : Locator) : (dataPath r).Asks Finds := by
  unfold dataPath
  split
  · exact .pure _
  · exact .pure _
  all_goals
    refine .bind (.request trivial) fun found => ?_
    split
    · exact .pure _
    · refine withCursor_asks trivial (.bind (.request trivial) fun rows => ?_)
      split
      · exact .pure _
      · refine .bind (.request trivial) fun moved => ?_
        split
        · exact .pure _
        · exact .bind (.request trivial) fun _ => .pure _

namespace EngineKind

theorem load_finds (tree : FileTree) (source : Source) : (load tree source).Asks Finds := by
  unfold load
  split
  · split
    · exact .pure _
    · exact .pure _
    · exact .pure _
  · refine .bind (dataPath_finds _) fun path => ?_
    split
    · exact .pure _
    · exact .pure _
    · exact .pure _
    · split
      · exact .pure _
      · exact .pure _
      · exact .pure _

theorem openSource_finds (kind : EngineKind) (tree : FileTree) (source : Source)
    (attributes : Attributes) : (kind.openSource tree source attributes).Asks Finds := by
  unfold openSource
  split
  · exact .bind (.request trivial) fun _ => .pure _
  · refine .bind (load_finds ..) fun loaded => ?_
    split
    · exact .pure _
    · exact .bind (.request trivial) fun _ => .pure _

end EngineKind

namespace Remote.Worker

theorem dropAll_plain (players : List (Token × Player)) : (dropAll players).Asks Stage.Plain := by
  induction players with
  | nil => exact .pure _
  | cons entry players ih => exact .bind (Player.drop_plain _) fun _ => ih

theorem shutDown_plain (w : Worker) : w.shutDown.Asks Stage.Plain :=
  .bind (.left (.request trivial)) fun _ => dropAll_plain _

end Remote.Worker

/-- Where a handler's run of the program leads, and what it results in. -/
def Program.Leads {I : Interface} {α σ : Type} (handler : Handler I σ) (p : Program I α)
    (state : σ) (Q : α → σ → Prop) : Prop :=
  Q (p.run handler state).1 (p.run handler state).2

section Leads

variable {I : Interface} {α β σ : Type} {handler : Handler I σ} {state : σ}

@[simp] theorem leads_pure {a : α} {Q : α → σ → Prop} :
    (pure a : Program I α).Leads handler state Q ↔ Q a state := .rfl

@[simp] theorem leads_bind {p : Program I α} {f : α → Program I β} {Q : β → σ → Prop} :
    (p >>= f).Leads handler state Q ↔
      (f (p.run handler state).1).Leads handler (p.run handler state).2 Q := by
  simp only [Program.Leads, run_bind]

end Leads

def Program.Preserves {I : Interface} {α σ : Type} (handler : Handler I σ) (P : σ → Prop)
    (p : Program I α) : Prop :=
  ∀ state, P state → P (p.run handler state).2

section Preserves

variable {I J : Interface} {α β σ : Type} {handler : Handler I σ} {P : σ → Prop}

/-- What calls that are in `Q` preserve, programs that make no others preserve. -/
theorem Program.Asks.preserves {Q : I.Call → Prop} {p : Program I α} (h : p.Asks Q)
    (step : ∀ c, Q c → ∀ state, P state → P (handler c state).2) : p.Preserves handler P := by
  induction p with
  | done a => exact fun _ before => before
  | call c next ih =>
      intro state before
      have first : Q c := h (runs_record handler (call c next) state) _ List.mem_cons_self
      have rest : (next (handler c state).1).Asks Q := fun t a runs e he =>
        h (runs_call.mpr ⟨_, t, rfl, runs⟩) e (List.mem_cons_of_mem _ he)
      exact ih _ rest _ (step c first state before)

theorem Program.run_pure (a : α) (state : σ) :
    (pure a : Program I α).run handler state = (a, state) := rfl

theorem Program.run_left (handler : Handler I σ) (handler' : Handler J σ) (p : Program I α)
    (state : σ) : p.left.run (handler.sum handler') state = p.run handler state := by
  induction p generalizing state with
  | done a => rfl
  | call c next ih => exact ih _ _

namespace Program.Preserves

theorem pure (a : α) : (Pure.pure a : Program I α).Preserves handler P := fun _ before => before

theorem bind_of {Q : α → Prop} {p : Program I α} {f : α → Program I β}
    (h : p.Preserves handler P) (known : p.Ensures fun _ a => Q a)
    (h' : ∀ a, Q a → (f a).Preserves handler P) : (p >>= f).Preserves handler P := by
  intro state before
  rw [run_bind]
  exact h' _ (known (runs_record handler p state)) _ (h state before)

theorem bind {p : Program I α} {f : α → Program I β} (h : p.Preserves handler P)
    (h' : ∀ a, (f a).Preserves handler P) : (p >>= f).Preserves handler P :=
  bind_of (Q := fun _ => True) h (.of_forall fun _ _ => trivial) fun a _ => h' a

theorem left {handler' : Handler J σ} {p : Program I α} (h : p.Preserves handler P) :
    p.left.Preserves (handler.sum handler') P := by
  intro state before
  rw [run_left]
  exact h state before

end Program.Preserves

end Preserves

namespace Host

structure SameStore (m m' : Machine) : Prop where
  tree : m'.tree = m.tree
  settings : m'.settings = m.settings
  lockedKeys : m'.lockedKeys = m.lockedKeys
  index : m'.index = m.index

namespace SameStore

variable {m m' m'' : Machine}

theorem refl (m : Machine) : SameStore m m := ⟨rfl, rfl, rfl, rfl⟩

theorem trans (h : SameStore m m') (h' : SameStore m' m'') : SameStore m m'' :=
  ⟨h'.tree.trans h.tree, h'.settings.trans h.settings, h'.lockedKeys.trans h.lockedKeys,
    h'.index.trans h.index⟩

theorem note (h : SameStore m m') (event : Event) : SameStore m (m'.note event) :=
  ⟨h.tree, h.settings, h.lockedKeys, h.index⟩

theorem noteCall (h : SameStore m m') (line : String) : SameStore m (m'.noteCall line) :=
  h.note (.call line)

theorem close (h : SameStore m m') (cursor : CursorId) : SameStore m (m'.close cursor) :=
  ⟨h.tree, h.settings, h.lockedKeys, h.index⟩

/-- Writing a setting comes to the same. -/
theorem putSetting (h : SameStore m m') (key value : String) :
    (m'.putSetting key value).1 = (m.putSetting key value).1 ∧
      SameStore (m.putSetting key value).2 (m'.putSetting key value).2 := by
  simp only [Machine.putSetting, h.tree, h.settings, h.lockedKeys]
  split
  · exact ⟨rfl, h.tree, h.settings, h.lockedKeys, h.index⟩
  · exact ⟨rfl, rfl, rfl, rfl, h.index⟩

end SameStore

def Lasting (P : Machine → Prop) : Prop := ∀ ⦃m m'⦄, SameStore m m' → P m → P m'

theorem lasting_sameStore (m : Machine) : Lasting (SameStore m) := fun _ _ same h => h.trans same

namespace Machine

section Run

variable (m : Machine)

@[simp] theorem run_setting (key : String) : (Resource.setting key).run handler m =
    (m.settings.get? key,
      m.noteCall ("settings.get " ++ key ++ " -> " ++ (m.settings.get? key).getD "<none>")) := rfl

@[simp] theorem run_putSetting (key value : String) :
    (Resource.putSetting key value).run handler m = m.putSetting key value := rfl

@[simp] theorem run_find (name : String) : (Resource.find name).run handler m =
    m.opened ("index.find " ++ name) (m.index.find m.tree name) := rfl

@[simp] theorem run_count (cursor : CursorId) :
    (Resource.count cursor).run handler m = ((m.cursor cursor).count, m) := rfl

@[simp] theorem run_moveToFirst (cursor : CursorId) :
    (Resource.moveToFirst cursor).run handler m = m.moveToFirst cursor := rfl

@[simp] theorem run_cell (cursor : CursorId) (column : Nat) :
    (Resource.cell cursor column).run handler m = ((m.cursor cursor).text? column, m) := rfl

@[simp] theorem run_close (cursor : CursorId) :
    (Resource.close cursor).run handler m = ((), m.close cursor) := rfl

@[simp] theorem run_log (level : Log.Level) (target message : String)
    (fields : List (String × Log.FieldValue)) :
    (Resource.log level target message fields).run handler m =
      ((), m.note (.log { level, target, message, fields })) := rfl

end Run

theorem opened_store (m : Machine) (question : String)
    (result : Except QueryError (List Row × Bool)) : SameStore m (m.opened question result).2 := by
  unfold opened
  split
  · exact ⟨rfl, rfl, rfl, rfl⟩
  · exact ⟨rfl, rfl, rfl, rfl⟩

theorem moveToFirst_store (m : Machine) (id : CursorId) : SameStore m (m.moveToFirst id).2 := by
  unfold moveToFirst
  split
  · exact .refl m
  · split
    · exact .refl m
    · exact ⟨rfl, rfl, rfl, rfl⟩

theorem handler_store {c : Resource.Call} (h : c.Spares) (m : Machine) :
    SameStore m (handler c m).2 := by
  cases c with
  | putSetting _ _ => exact h.elim
  | query _ _ | find _ => exact opened_store ..
  | moveToFirst _ => exact moveToFirst_store ..
  | volume _ | setting _ | count _ | cell _ _ | close _ | openAsset | duplicate _ | log _ =>
      exact ⟨rfl, rfl, rfl, rfl⟩

variable {α : Type}

theorem run_store {p : Program Resources α} (h : p.Asks Spares) (m : Machine) :
    SameStore m (p.run handler m).2 :=
  h.preserves (P := SameStore m) (fun _ spares m' same => same.trans (handler_store spares m')) m
    (.refl m)

theorem run_store_of_finds {p : Program Resources α} (h : p.Asks Finds) (m : Machine) :
    SameStore m (p.run handler m).2 :=
  run_store (h.mono fun _ => Resource.Call.Finds.spares) m

end Machine

namespace StageState

theorem openSource_store (source : Source) (attributes : Attributes) (state : StageState) :
    SameStore state.1 (openSource source attributes state).2.1 := by
  obtain ⟨m, bank⟩ := state
  simp only [openSource]
  cases (bank.ruleFor source).openFault with
  | some fault => exact (SameStore.refl m).noteCall _
  | none =>
      have same := Machine.run_store_of_finds
        (bank.kind.openSource_finds m.tree source attributes) m
      simp only
      split
      · exact same.noteCall _
      · exact same.noteCall _

theorem prepare_store (id : HandleId) (state : StageState) :
    SameStore state.1 (prepare id state).2.1 := by
  obtain ⟨m, bank⟩ := state
  simp only [prepare]
  split
  · exact .refl m
  · rename_i entry found
    split
    · exact (SameStore.refl m).noteCall _
    · exact (Machine.run_store_of_finds (entry.handle.prepare_reads ..).finds m).noteCall _

theorem start_store (id : HandleId) (state : StageState) :
    SameStore state.1 (start id state).2.1 := by
  obtain ⟨m, bank⟩ := state
  simp only [start]
  split
  · exact .refl m
  · split
    · exact (SameStore.refl m).noteCall _
    · split
      · exact (SameStore.refl m).noteCall _
      · exact (SameStore.refl m).noteCall _

theorem handler_store {c : Stage.Call} (h : Stage.Spares c) (state : StageState) :
    SameStore state.1 (handler c state).2.1 := by
  obtain ⟨m, bank⟩ := state
  cases c with
  | inl c => exact Machine.handler_store h m
  | inr c =>
      cases c with
      | openSource source attributes => exact openSource_store source attributes (m, bank)
      | prepare id => exact prepare_store id (m, bank)
      | start id => exact start_store id (m, bank)
      | stop id | reset id | release id | isPlaying id => exact ⟨rfl, rfl, rfl, rfl⟩

theorem run_store {α : Type} {p : Program Stage α} (h : p.Asks Stage.Plain) (state : StageState) :
    SameStore state.1 (p.run handler state).2.1 :=
  (h.mono fun _ => Studio.Plain.spares).preserves (P := fun state' => SameStore state.1 state'.1)
    (fun _ spares state' same => same.trans (handler_store spares state')) state (.refl _)

end StageState

theorem onWorker_store {α : Type} {p : Program Stage α} (h : p.Asks Stage.Plain) (bank : Bank)
    (host : Host) : SameStore host.machine (host.onWorker bank p).2.2.machine :=
  StageState.run_store h (host.machine, host.share host.bank bank)

theorem noted_store {α : Type} (call : String) (token : Token) (details : String)
    (answer : α → String) {host : Host} {result : Except TransportError α × Host}
    (h : SameStore host.machine result.2.machine) :
    SameStore host.machine (noted call token details answer result).2.machine := by
  have numbered : SameStore host.machine (result.2.numberToken token).machine := by
    unfold numberToken
    split
    · exact h
    · exact h
  exact numbered.noteCall _

theorem remotes_store (c : Remote.Call) (host : Host) :
    SameStore host.machine (remotes c host).2.machine := by
  cases c with
  | play token r attributes =>
      refine noted_store _ _ _ _ ?_
      unfold servePlay
      split
      · exact .refl _
      · exact .refl _
      · exact .refl _
      · exact .refl _
      · exact onWorker_store (Remote.Worker.servePlay_plain ..) _ host
  | stop token =>
      refine noted_store _ _ _ _ ?_
      unfold serveStop
      split
      · exact .refl _
      · exact .refl _
      · exact .refl _
      · exact .refl _
      · exact onWorker_store (Remote.Worker.serveStop_plain ..) _ host
  | isPlaying token =>
      refine noted_store _ _ _ _ ?_
      unfold serveIsPlaying
      split
      · exact .refl _
      · exact .refl _
      · exact .refl _
      · exact .refl _
      · rename_i bank worker _
        exact onWorker_store (Remote.Worker.serveIsPlaying_plain worker token) bank host

/-- A host does nothing to its files or its settings of its own accord. -/
theorem handler_store {c : Studio.Call} (h : Studio.Spares c) (host : Host) :
    SameStore host.machine (handler c host).2.machine := by
  cases c with
  | inl c => exact StageState.handler_store h (host.machine, host.bank)
  | inr c => exact remotes_store c host

theorem Lasting.studio {α : Type} {P : Machine → Prop} (lasting : Lasting P)
    {p : Program Studio α} (h : p.Asks Studio.Spares) :
    p.Preserves handler fun host => P host.machine :=
  h.preserves fun _ spares host => lasting (handler_store spares host)

/-- Programs that ask for resources alone run on the machine of the host. -/
theorem run_resources {α : Type} (p : Program Resources α) (host : Host) :
    (p.left.left : Program Studio α).run handler host =
      ((p.run Machine.handler host.machine).1,
        { host with machine := (p.run Machine.handler host.machine).2 }) := by
  induction p generalizing host with
  | done a => rfl
  | call c next ih => exact ih _ _

theorem shutRemote_store (host : Host) : SameStore host.machine host.shutRemote.machine := by
  unfold shutRemote
  split
  · exact onWorker_store (Remote.Worker.shutDown_plain _) _ host
  · exact .refl _

end Host
end AlertSound
