import AlertSound.Playback.Engine
import AlertSound.Proofs.Remote.Serving
import AlertSound.Proofs.Session.Plain

/-!
Cursors of the index. A trace tends its cursors if it opens one only when none is open,
looks at none but that one, and closes it before anything is asked that may use the index
in its turn. From this alone the calls that each cursor sees are known, as long as an
index never hands out one cursor twice.
-/
namespace AlertSound

open Program

namespace Resource

def Call.cursor? : Call → Option CursorId
  | .count cursor | .moveToFirst cursor | .cell cursor _ | .close cursor => some cursor
  | _ => none

end Resource

namespace Index

def opened? : Event Resources → Option CursorId
  | ⟨.query _ _, .ok cursor⟩ | ⟨.find _, .ok cursor⟩ => some cursor
  | _ => none

def opened (t : Trace Resources) : List CursorId := t.filterMap opened?

def callOn? (cursor : CursorId) (e : Event Resources) : Option Resource.Call :=
  if e.call.cursor? = some cursor then some e.call else none

def calls (cursor : CursorId) (t : Trace Resources) : List Resource.Call :=
  t.filterMap (callOn? cursor)

def closed? : Event Resources → Option CursorId
  | ⟨.close cursor, _⟩ => some cursor
  | _ => none

def unclosed (t : Trace Resources) : List CursorId :=
  (opened t).filter fun cursor => !(t.filterMap closed?).contains cursor

inductive Role where
  /-- It uses no cursor and no index. -/
  | aside
  /-- It leaves no cursor, but may use the index in its course. -/
  | apart
  | opening (cursor : CursorId)
  | looking (cursor : CursorId)
  | closing (cursor : CursorId)

/-- The cursor that is open before and after. No two are open at a time. -/
inductive Role.Fits : Role → Option CursorId → Option CursorId → Prop where
  | aside (held) : Fits .aside held held
  | apart : Fits .apart none none
  | opening (cursor) : Fits (.opening cursor) none (some cursor)
  | looking (cursor) : Fits (.looking cursor) (some cursor) (some cursor)
  | closing (cursor) : Fits (.closing cursor) (some cursor) none

def role : Event Resources → Role
  | ⟨.query _ _, .ok cursor⟩ | ⟨.find _, .ok cursor⟩ => .opening cursor
  | ⟨.query _ _, .error _⟩ | ⟨.find _, .error _⟩ => .apart
  | ⟨.count cursor, _⟩ | ⟨.moveToFirst cursor, _⟩ | ⟨.cell cursor _, _⟩ => .looking cursor
  | ⟨.close cursor, _⟩ => .closing cursor
  | ⟨.volume _, _⟩ | ⟨.setting _, _⟩ | ⟨.putSetting _ _, _⟩ | ⟨.openAsset, _⟩
  | ⟨.duplicate _, _⟩ | ⟨.log _, _⟩ => .aside

section Interfaces

variable {I J : Interface} {α β : Type}

/-- Other collaborators may use the index themselves while they answer. -/
def besides (role : Event I → Role) : Event (I.sum J) → Role
  | ⟨.inl c, answer⟩ => role ⟨c, answer⟩
  | ⟨.inr _, _⟩ => .apart

/-- From the cursor that is open first to the one that is open last. -/
inductive Tended (role : Event I → Role) : Option CursorId → Trace I → Option CursorId → Prop where
  | done {held} : Tended role held [] held
  | next {e t held mid held'} : (role e).Fits held mid → Tended role mid t held' →
      Tended role held (e :: t) held'

variable {role : Event I → Role} {held mid held' : Option CursorId} {t u : Trace I}

theorem Tended.append (h : Tended role held t mid) (h' : Tended role mid u held') :
    Tended role held (t ++ u) held' := by
  induction h with
  | done => exact h'
  | next fits _ ih => exact .next fits (ih h')

theorem tended_append :
    Tended role held (t ++ u) held' ↔ ∃ mid, Tended role held t mid ∧ Tended role mid u held' := by
  constructor
  · intro h
    induction t generalizing held with
    | nil => exact ⟨held, .done, h⟩
    | cons e t ih =>
        cases h with
        | next fits h =>
            obtain ⟨mid, first, rest⟩ := ih h
            exact ⟨mid, .next fits first, rest⟩
  · intro given
    obtain ⟨mid, first, rest⟩ := given
    exact first.append rest

/-- A trace in which the calls to others are replaced with what these ask meanwhile. -/
inductive Inlined (serves : Event J → Trace I → Prop) : Trace (I.sum J) → Trace I → Prop where
  | done : Inlined serves [] []
  | own (e) {t u} : Inlined serves t u → Inlined serves (e.left :: t) (e :: u)
  | served {e v t u} : serves e v → Inlined serves t u → Inlined serves (e.right :: t) (v ++ u)

theorem inlined_map_left {serves : Event J → Trace I → Prop} (t : Trace I) :
    Inlined serves (t.map Event.left) t := by
  induction t with
  | nil => exact .done
  | cons e t ih => exact .own e ih

/-- What others ask while no cursor is open does no harm. -/
theorem Inlined.tended {serves : Event J → Trace I → Prop} {t : Trace (I.sum J)}
    (h : Inlined serves t u) (others : ∀ e v, serves e v → Tended role none v none)
    (tended : Tended (besides role) held t held') : Tended role held u held' := by
  induction h generalizing held with
  | done =>
      cases tended
      exact .done
  | own e _ ih =>
      cases tended with
      | next fits rest => exact .next fits (ih rest)
  | served asked _ ih =>
      cases tended with
      | next fits rest =>
          cases fits
          exact (others _ _ asked).append (ih rest)

def Tends (role : Event I → Role) (held : Option CursorId) (p : Program I α)
    (held' : Option CursorId) : Prop :=
  p.Ensures fun t _ => Tended role held t held'

namespace Tends

theorem pure (a : α) : Tends role held (Pure.pure a : Program I α) held := ensures_pure.mpr .done

theorem bind {p : Program I α} {f : α → Program I β} (h : Tends role held p mid)
    (hf : ∀ a, Tends role mid (f a) held') : Tends role held (p >>= f) held' :=
  Ensures.bind h fun _ a first => (hf a).mono fun _ _ rest => first.append rest

theorem call {c : I.Call} {next : I.Answer c → Program I α}
    (h : ∀ answer, ∃ mid, (role ⟨c, answer⟩).Fits held mid ∧ Tends role mid (next answer) held') :
    Tends role held (.call c next) held' := by
  refine ensures_call.mpr fun answer => ?_
  obtain ⟨mid, fits, rest⟩ := h answer
  exact Ensures.mono rest fun _ _ rest => .next fits rest

/-- No call of the program changes which cursor is open. -/
theorem of_asks {P : I.Call → Prop} {p : Program I α} (h : p.Asks P)
    (fits : ∀ e : Event I, P e.call → (role e).Fits held held) : Tends role held p held := by
  refine Ensures.mono h fun t _ asked => ?_
  clear h
  induction t with
  | nil => exact .done
  | cons e t ih =>
      obtain ⟨first, rest⟩ := List.forall_mem_cons.mp asked
      exact .next (fits e first) (ih rest)

theorem left {p : Program I α} (h : Tends role held p held') :
    Tends (besides role) held (p.left : Program (I.sum J) α) held' := by
  refine ensures_left.mpr (Ensures.mono h fun t _ tended => ?_)
  clear h
  induction tended with
  | done => exact .done
  | next fits _ ih => exact .next fits ih

end Tends

end Interfaces

section Resources

variable {α β : Type} {held : Option CursorId} {cursor : CursorId}

theorem role_of_plain {e : Event Resources} (h : e.call.Plain) : role e = .aside := by
  obtain ⟨c, answer⟩ := e
  cases c with
  | volume _ | setting _ | openAsset | duplicate _ | log _ => rfl
  | query _ _ | find _ | count _ | moveToFirst _ | cell _ _ | close _ | putSetting _ _ =>
      exact h.elim

/-- Plain calls may be made at any time. -/
theorem tends_of_plain {p : Program Resources α} (h : p.Asks Resource.Call.Plain) :
    Tends role held p held :=
  .of_asks h fun _ plain => role_of_plain plain ▸ .aside held

/-- Writing a setting may be done at any time. -/
theorem tends_putSetting (key value : String) :
    Tends role held (Resource.putSetting key value) held :=
  .call fun _ => ⟨held, .aside held, .pure _⟩

theorem tends_looking {c : Resource.Call} (h : ∀ answer, role ⟨c, answer⟩ = .looking cursor) :
    Tends role (some cursor) (.call c .done) (some cursor) :=
  .call fun answer => ⟨some cursor, h answer ▸ .looking cursor, .pure _⟩

theorem log_tends (level : Log.Level) (target message : String)
    (fields : List (String × Log.FieldValue)) :
    Tends role held (Resource.log level target message fields) held :=
  tends_of_plain (.request trivial)

section Asking

variable {f : Except QueryError CursorId → Program Resources α}
  (refused : ∀ e, Tends role none (f (.error e)) none)
  (opens : ∀ cursor, Tends role (some cursor) (f (.ok cursor)) none)

include refused opens

theorem query_tends {r : Locator} {columns : List Column} :
    Tends role none (Resource.query r columns >>= f) none :=
  .call fun
    | .error e => ⟨none, .apart, refused e⟩
    | .ok cursor => ⟨some cursor, .opening cursor, opens cursor⟩

theorem find_tends {name : String} : Tends role none (Resource.find name >>= f) none :=
  .call fun
    | .error e => ⟨none, .apart, refused e⟩
    | .ok cursor => ⟨some cursor, .opening cursor, opens cursor⟩

end Asking

/-- Work that leaves the cursor open is followed by its closing. -/
theorem withCursor_tends {work : Program Resources α}
    (h : Tends role (some cursor) work (some cursor)) :
    Tends role (some cursor) (Resource.withCursor cursor work) none :=
  .bind h fun _ => .call fun _ => ⟨none, .closing cursor, .pure _⟩

end Resources

section Accounts

variable {t u : Trace Resources} {held held' : Option CursorId} {cursor : CursorId}

@[simp] theorem opened_append (t u : Trace Resources) : opened (t ++ u) = opened t ++ opened u :=
  List.filterMap_append

@[simp] theorem calls_append (cursor : CursorId) (t u : Trace Resources) :
    calls cursor (t ++ u) = calls cursor t ++ calls cursor u :=
  List.filterMap_append

theorem opened_cons (e : Event Resources) (t : Trace Resources) :
    opened (e :: t) = (opened? e).toList ++ opened t := by
  simp only [opened, List.filterMap_cons]
  cases opened? e <;> rfl

theorem calls_cons (cursor : CursorId) (e : Event Resources) (t : Trace Resources) :
    calls cursor (e :: t) = (callOn? cursor e).toList ++ calls cursor t := by
  simp only [calls, List.filterMap_cons]
  cases callOn? cursor e <;> rfl

/-- Only what opens a cursor hands one out, and only what looks at one or closes it calls one. -/
theorem role_told (e : Event Resources) :
    (opened? e = match role e with
      | .opening cursor => some cursor
      | _ => none) ∧
    (closed? e = match role e with
      | .closing cursor => some cursor
      | _ => none) ∧
    e.call.cursor? = match role e with
      | .looking cursor | .closing cursor => some cursor
      | _ => none := by
  obtain ⟨c, answer⟩ := e
  cases c with
  | query _ _ | find _ => cases answer <;> exact ⟨rfl, rfl, rfl⟩
  | _ => exact ⟨rfl, rfl, rfl⟩

theorem role_of_opened {e : Event Resources} (h : opened? e = some cursor) :
    role e = .opening cursor := by
  obtain ⟨c, answer⟩ := e
  cases c with
  | query _ _ | find _ =>
      cases answer with
      | error _ => cases h
      | ok _ => cases h; rfl
  | _ => cases h

theorem closed?_eq_some {e : Event Resources} :
    closed? e = some cursor ↔ e.call = .close cursor := by
  obtain ⟨c, answer⟩ := e
  cases c <;> simp [closed?]

/-- A cursor that is not open, and is not opened, is not called. -/
theorem Tended.calls_eq_nil (h : Tended role held t held') (other : held ≠ some cursor)
    (unknown : cursor ∉ opened t) : calls cursor t = [] := by
  induction h with
  | done => rfl
  | @next e t held mid held' fits _ ih =>
      obtain ⟨opens, -, called⟩ := role_told e
      rw [opened_cons, List.mem_append, not_or] at unknown
      rw [calls_cons, callOn?, called]
      generalize role e = told at fits opens
      cases fits with
      | aside | apart => simpa using ih other unknown.2
      | opening opened =>
          rw [opens] at unknown
          exact ih (fun same => unknown.1 (by simp_all)) unknown.2
      | looking held =>
          rw [if_neg other]
          exact ih other unknown.2
      | closing held =>
          rw [if_neg other]
          exact ih nofun unknown.2

/-- A cursor that is open, and is not opened again, is looked at and then closed, and that
is the last call it sees. -/
theorem Tended.calls_eq (h : Tended role (some cursor) t none) (unknown : cursor ∉ opened t) :
    ∃ looks, calls cursor t = looks ++ [.close cursor] ∧ .close cursor ∉ looks := by
  generalize start : some cursor = held, stop : (none : Option CursorId) = held' at h
  induction h with
  | done => cases start.trans stop.symm
  | @next e t held mid held' fits rest ih =>
      subst start stop
      obtain ⟨opens, closes, called⟩ := role_told e
      rw [opened_cons, List.mem_append, not_or] at unknown
      rw [calls_cons, callOn?, called]
      generalize role e = told at fits closes
      cases fits with
      | aside => exact ih unknown.2 rfl rfl
      | looking =>
          obtain ⟨looks, same, none⟩ := ih unknown.2 rfl rfl
          refine ⟨e.call :: looks, by simp [same], ?_⟩
          have open' : .close cursor ≠ e.call := fun same =>
            nomatch closes.symm.trans (closed?_eq_some.mpr same.symm)
          simp [open', none]
      | closing =>
          exact ⟨[], by simp [closed?_eq_some.mp closes, rest.calls_eq_nil nofun unknown.2],
            List.not_mem_nil⟩

/-- The cursors that were open or are opened and are not closed are the one that is open
in the end. -/
theorem Tended.filter_unclosed (h : Tended role held t held')
    (distinct : (held.toList ++ opened t).Nodup) :
    ((held.toList ++ opened t).filter fun cursor => !(t.filterMap closed?).contains cursor) =
      held'.toList := by
  induction h with
  | done => simp [opened]
  | @next e t held mid held' fits rest ih =>
      obtain ⟨opens, closes, -⟩ := role_told e
      rw [opened_cons] at distinct ⊢
      rw [List.filterMap_cons, closes]
      generalize role e = told at fits opens closes
      rw [opens] at distinct ⊢
      cases fits with
      | aside | apart | looking => exact ih distinct
      | opening cursor => exact ih distinct
      | closing cursor =>
          have distinct : (cursor :: opened t).Nodup := distinct
          obtain ⟨fresh, distinct⟩ := List.nodup_cons.mp distinct
          rw [← ih distinct]
          change List.filter _ (cursor :: opened t) = List.filter _ (opened t)
          rw [List.filter_cons_of_neg (by simp)]
          refine List.filter_congr fun other he => ?_
          have different : other ≠ cursor := fun same => fresh (same ▸ he)
          simp [different]

theorem Tended.unclosed_eq (h : Tended role none t held) (distinct : (opened t).Nodup) :
    unclosed t = held.toList :=
  h.filter_unclosed distinct

/-- A cursor sees its first call after it was opened and its last when it is closed. -/
theorem Tended.calls_opened {e : Event Resources} {v : Trace Resources}
    (h : Tended role none (u ++ e :: v) none) (distinct : (opened (u ++ e :: v)).Nodup)
    (opens : opened? e = some cursor) :
    calls cursor (u ++ [e]) = [] ∧
      ∃ looks, calls cursor v = looks ++ [.close cursor] ∧ .close cursor ∉ looks := by
  obtain ⟨mid, first, rest⟩ := tended_append.mp h
  have told := role_of_opened opens
  rw [opened_append, opened_cons, opens] at distinct
  obtain ⟨-, distinct, apart⟩ := List.nodup_append.mp distinct
  obtain ⟨fresh, -⟩ := List.nodup_cons.mp distinct
  cases rest with
  | next fits rest =>
      rw [told] at fits
      cases fits
      have before : cursor ∉ opened u := fun he => apart cursor he cursor List.mem_cons_self rfl
      have none : callOn? cursor e = none := by
        rw [callOn?, (role_told e).2.2, told]
        rfl
      refine ⟨?_, rest.calls_eq fresh⟩
      rw [calls_append, first.calls_eq_nil nofun before, calls_cons, none]
      rfl

end Accounts

end Index
end AlertSound
