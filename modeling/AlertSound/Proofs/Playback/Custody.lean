import AlertSound.Playback.Operation
import AlertSound.Proofs.Trace

/-!
Custody of handles. `Custody before t after` reads an engine's trace as the acts of
an owner: handles are taken by opening and preparing them, used, and given up by
stopping, resetting and releasing them. From this alone the calls that each handle
sees are known, as long as an engine never hands out one handle twice.
-/
namespace AlertSound.Engine

/-- The handle that is called and what is asked of it. Opening calls no handle. -/
def Call.operation? : Call → Option (HandleId × Operation)
  | .openSource _ _ => none
  | .prepare handle => some (handle, .prepare)
  | .start handle => some (handle, .start)
  | .stop handle => some (handle, .stop)
  | .reset handle => some (handle, .reset)
  | .release handle => some (handle, .release)
  | .isPlaying handle => some (handle, .isPlaying)

def opened? : Event Engines → Option HandleId
  | ⟨.openSource _ _, .ok handle⟩ => some handle
  | _ => none

def opened (t : Trace Engines) : List HandleId := t.filterMap opened?

def operationOn? (handle : HandleId) (e : Event Engines) : Option Operation :=
  match e.call.operation? with
  | some (called, operation) => if called = handle then some operation else none
  | none => none

def calls (handle : HandleId) (t : Trace Engines) : List Operation :=
  t.filterMap (operationOn? handle)

def released? : Event Engines → Option HandleId
  | ⟨.release handle, _⟩ => some handle
  | _ => none

def unreleased (t : Trace Engines) : List HandleId :=
  (opened t).filter fun handle => !(t.filterMap released?).contains handle

/-- Starting a handle and asking whether it plays leave it with its owner. -/
def Operation.IsUse : Operation → Prop
  | .start | .isPlaying => True
  | .prepare | .stop | .reset | .release => False

def Alive (operations : List Operation) : Prop :=
  ∃ uses, operations = .prepare :: uses ∧ ∀ operation ∈ uses, operation.IsUse

/-- Prepared once and first, then used, then stopped, reset and released once each,
and never called again. -/
def Finished (operations : List Operation) : Prop :=
  ∃ uses, operations = .prepare :: uses ++ [.stop, .reset, .release] ∧
    ∀ operation ∈ uses, operation.IsUse

inductive Custody : List HandleId → Trace Engines → List HandleId → Prop where
  | perm {held held'} : held.Perm held' → Custody held [] held'
  | refused (held source attributes e) :
      Custody held [⟨.openSource source attributes, .error e⟩] held
  | taken (held source attributes handle result) :
      Custody held [⟨.openSource source attributes, .ok handle⟩, ⟨.prepare handle, result⟩]
        (handle :: held)
  | started (held handle result) :
      Custody (handle :: held) [⟨.start handle, result⟩] (handle :: held)
  | asked (held handle playing) :
      Custody (handle :: held) [⟨.isPlaying handle, playing⟩] (handle :: held)
  | dropped (held handle) :
      Custody (handle :: held)
        [⟨.stop handle, ()⟩, ⟨.reset handle, ()⟩, ⟨.release handle, ()⟩] held
  | append {held held' held'' t u} :
      Custody held t held' → Custody held' u held'' → Custody held (t ++ u) held''

theorem Custody.refl (held : List HandleId) : Custody held [] held := .perm (.refl held)

/-- Handles that are owned besides stay as they are. -/
theorem Custody.frame {held held' : List HandleId} {t : Trace Engines} (h : Custody held t held')
    (besides : List HandleId) : Custody (held ++ besides) t (held' ++ besides) := by
  induction h with
  | perm h => exact .perm (h.append_right besides)
  | refused held source attributes e => exact .refused _ source attributes e
  | taken held source attributes handle result => exact .taken _ source attributes handle result
  | started held handle result => exact .started _ handle result
  | asked held handle playing => exact .asked _ handle playing
  | dropped held handle => exact .dropped _ handle
  | append first second ih ih' => exact ih.append ih'

@[simp] theorem opened_append (t u : Trace Engines) : opened (t ++ u) = opened t ++ opened u :=
  List.filterMap_append

@[simp] theorem calls_append (handle : HandleId) (t u : Trace Engines) :
    calls handle (t ++ u) = calls handle t ++ calls handle u :=
  List.filterMap_append

theorem mem_released {handle : HandleId} {t : Trace Engines} :
    handle ∈ t.filterMap released? ↔ .release ∈ calls handle t := by
  simp only [calls, List.mem_filterMap]
  constructor
  · intro h
    obtain ⟨⟨c, answer⟩, he, h⟩ := h
    cases c with
    | release handle' => cases h; exact ⟨_, he, by simp [operationOn?, Call.operation?]⟩
    | openSource _ _ | prepare _ | start _ | stop _ | reset _ | isPlaying _ => cases h
  · intro given
    obtain ⟨⟨c, answer⟩, he, h⟩ := given
    cases c with
    | release handle' =>
        refine ⟨_, he, ?_⟩
        simp only [operationOn?, Call.operation?] at h
        split at h
        · rename_i same; rw [← same]; rfl
        · cases h
    | openSource _ _ | prepare _ | start _ | stop _ | reset _ | isPlaying _ =>
        simp [operationOn?, Call.operation?] at h

/-- What an owner's trace `t` says of each handle while `held` are its own. -/
structure Books (t : Trace Engines) (held : List HandleId) : Prop where
  nodup : held.Nodup
  opened : ∀ handle ∈ held, handle ∈ opened t
  alive : ∀ handle ∈ held, Alive (calls handle t)
  finished : ∀ handle ∈ Engine.opened t, handle ∉ held → Finished (calls handle t)
  unknown : ∀ handle, handle ∉ Engine.opened t → calls handle t = []

theorem Books.nil : Books [] [] where
  nodup := .nil
  opened := by simp
  alive := by simp
  finished := by simp [Engine.opened]
  unknown := by simp [calls]

theorem Books.perm {t : Trace Engines} {held held' : List HandleId} (books : Books t held)
    (h : held.Perm held') : Books t held' where
  nodup := h.nodup_iff.mp books.nodup
  opened handle m := books.opened handle (h.mem_iff.mpr m)
  alive handle m := books.alive handle (h.mem_iff.mpr m)
  finished handle m n := books.finished handle m fun m' => n (h.mem_iff.mp m')
  unknown := books.unknown

@[simp] theorem calls_nil (handle : HandleId) : calls handle [] = [] := rfl

theorem calls_cons (handle : HandleId) (e : Event Engines) (t : Trace Engines) :
    calls handle (e :: t) = (operationOn? handle e).toList ++ calls handle t := by
  simp only [calls, List.filterMap_cons]
  cases operationOn? handle e <;> rfl

theorem operationOn?_of_ne {handle called : HandleId} {operation : Operation} {e : Event Engines}
    (h : e.call.operation? = some (called, operation)) (other : handle ≠ called) :
    operationOn? handle e = none := by
  simp [operationOn?, h, Ne.symm other]

theorem operationOn?_self {handle : HandleId} {operation : Operation} {e : Event Engines}
    (h : e.call.operation? = some (handle, operation)) :
    operationOn? handle e = some operation := by
  simp [operationOn?, h]

theorem Alive.append_use {operations : List Operation} {operation : Operation}
    (h : Alive operations) (use : operation.IsUse) : Alive (operations ++ [operation]) := by
  obtain ⟨uses, rfl, all⟩ := h
  refine ⟨uses ++ [operation], rfl, ?_⟩
  intro o ho
  cases List.mem_append.mp ho with
  | inl ho => exact all o ho
  | inr ho => cases List.mem_singleton.mp ho; exact use

theorem Alive.append_end {operations : List Operation} (h : Alive operations) :
    Finished (operations ++ [.stop, .reset, .release]) := by
  obtain ⟨uses, rfl, all⟩ := h
  exact ⟨uses, rfl, all⟩

namespace Books

variable {t u : Trace Engines} {held : List HandleId}

/-- Events that hand out nothing and call no handle change nothing. -/
theorem append_quiet (books : Books t held) (none : Engine.opened u = [])
    (quiet : ∀ handle, calls handle u = []) : Books (t ++ u) held where
  nodup := books.nodup
  opened handle h := by simpa [none] using books.opened handle h
  alive handle h := by simpa [quiet] using books.alive handle h
  finished handle h := by simpa [quiet] using books.finished handle (by simpa [none] using h)
  unknown handle h := by simpa [quiet] using books.unknown handle (by simpa [none] using h)

theorem append_use {handle : HandleId} {e : Event Engines} (operation : Operation)
    (books : Books t held) (mine : handle ∈ held)
    (h : e.call.operation? = some (handle, operation)) (use : operation.IsUse)
    (none : opened? e = none) : Books (t ++ [e]) held := by
  have opens : Engine.opened (t ++ [e]) = Engine.opened t := by simp [Engine.opened, none]
  have others : ∀ handle', handle' ≠ handle → calls handle' (t ++ [e]) = calls handle' t := by
    intro handle' other
    simp [calls_cons, operationOn?_of_ne h other]
  refine ⟨books.nodup, fun h' m => opens ▸ books.opened h' m, ?_, ?_, ?_⟩
  · intro handle' m
    by_cases same : handle' = handle
    · subst same
      simpa [calls_cons, operationOn?_self h] using (books.alive handle' m).append_use use
    · rw [others handle' same]; exact books.alive handle' m
  · intro handle' known away
    have other : handle' ≠ handle := fun same => away (same ▸ mine)
    rw [others handle' other]
    exact books.finished handle' (opens ▸ known) away
  · intro handle' unknown
    rw [opens] at unknown
    have other : handle' ≠ handle := fun same => unknown (same ▸ books.opened handle mine)
    rw [others handle' other]
    exact books.unknown handle' unknown

theorem append_taken {source : Source} {attributes : Attributes} {handle : HandleId}
    {result : Except EngineError Unit} (books : Books t held) (fresh : handle ∉ Engine.opened t) :
    Books (t ++ [⟨.openSource source attributes, .ok handle⟩, ⟨.prepare handle, result⟩])
      (handle :: held) := by
  have mine : calls handle [⟨.openSource source attributes, .ok handle⟩, ⟨.prepare handle, result⟩]
      = [.prepare] := by
    simp [calls_cons, operationOn?, Call.operation?]
  have others : ∀ handle', handle' ≠ handle →
      calls handle' [⟨.openSource source attributes, .ok handle⟩, ⟨.prepare handle, result⟩]
        = [] := by
    intro handle' other
    simp [calls_cons, operationOn?, Call.operation?, Ne.symm other]
  have opens : Engine.opened
      [⟨.openSource source attributes, .ok handle⟩, ⟨.prepare handle, result⟩] = [handle] := rfl
  have away : handle ∉ held := fun h => fresh (books.opened handle h)
  refine ⟨List.nodup_cons.mpr ⟨away, books.nodup⟩, ?_, ?_, ?_, ?_⟩
  · intro handle' h
    cases List.mem_cons.mp h with
    | inl same =>
        subst same
        simp [opens]
    | inr h => simp [books.opened handle' h]
  · intro handle' h
    rw [calls_append]
    cases List.mem_cons.mp h with
    | inl same =>
        subst same
        rw [books.unknown _ fresh, mine]
        exact ⟨[], rfl, by simp⟩
    | inr h =>
        have other : handle' ≠ handle := fun same => away (same ▸ h)
        rw [others handle' other, List.append_nil]
        exact books.alive handle' h
  · intro handle' known gone
    have other : handle' ≠ handle := fun same => gone (same ▸ List.mem_cons_self)
    rw [calls_append, others handle' other, List.append_nil]
    refine books.finished handle' ?_ fun h => gone (List.mem_cons_of_mem _ h)
    simpa [opens, other] using known
  · intro handle' unknown
    rw [opened_append, opens, List.mem_append, List.mem_singleton, not_or] at unknown
    rw [calls_append, books.unknown handle' unknown.1, others handle' unknown.2, List.append_nil]

theorem append_dropped {handle : HandleId} (books : Books t (handle :: held)) :
    Books (t ++ [⟨.stop handle, ()⟩, ⟨.reset handle, ()⟩, ⟨.release handle, ()⟩]) held := by
  have mine : calls handle [⟨.stop handle, ()⟩, ⟨.reset handle, ()⟩, ⟨.release handle, ()⟩]
      = [.stop, .reset, .release] := by
    simp [calls_cons, operationOn?, Call.operation?]
  have others : ∀ handle', handle' ≠ handle →
      calls handle' [⟨.stop handle, ()⟩, ⟨.reset handle, ()⟩, ⟨.release handle, ()⟩] = [] := by
    intro handle' other
    simp [calls_cons, operationOn?, Call.operation?, Ne.symm other]
  have opens : Engine.opened [⟨.stop handle, ()⟩, ⟨.reset handle, ()⟩, ⟨.release handle, ()⟩]
      = [] := rfl
  obtain ⟨away, nodup⟩ := List.nodup_cons.mp books.nodup
  refine ⟨nodup, ?_, ?_, ?_, ?_⟩
  · intro handle' h
    simp [opens, books.opened handle' (List.mem_cons_of_mem _ h)]
  · intro handle' h
    have other : handle' ≠ handle := fun same => away (same ▸ h)
    rw [calls_append, others handle' other, List.append_nil]
    exact books.alive handle' (List.mem_cons_of_mem _ h)
  · intro handle' known gone
    rw [opened_append, opens, List.append_nil] at known
    rw [calls_append]
    by_cases same : handle' = handle
    · subst same
      rw [mine]
      exact (books.alive handle' List.mem_cons_self).append_end
    · rw [others handle' same, List.append_nil]
      exact books.finished handle' known fun h => (List.mem_cons.mp h).elim same gone
  · intro handle' unknown
    rw [opened_append, opens, List.append_nil] at unknown
    have other : handle' ≠ handle := fun same =>
      unknown (same ▸ books.opened handle List.mem_cons_self)
    rw [calls_append, books.unknown handle' unknown, others handle' other, List.append_nil]

end Books

/-- An owner that keeps to its custody keeps its books, if no handle is handed out twice. -/
theorem Custody.books {held held' : List HandleId} {u : Trace Engines}
    (custody : Custody held u held') {t : Trace Engines} (books : Books t held)
    (distinct : (opened (t ++ u)).Nodup) : Books (t ++ u) held' := by
  induction custody generalizing t with
  | perm h => rw [List.append_nil]; exact books.perm h
  | refused held source attributes e => exact books.append_quiet rfl fun _ => rfl
  | taken held source attributes handle result =>
      refine books.append_taken fun known => ?_
      rw [opened_append] at distinct
      exact (List.nodup_append.mp distinct).2.2 handle known handle (by simp [opened, opened?]) rfl
  | started held handle result =>
      exact books.append_use .start List.mem_cons_self rfl trivial rfl
  | asked held handle playing =>
      exact books.append_use .isPlaying List.mem_cons_self rfl trivial rfl
  | dropped held handle => exact books.append_dropped
  | append first second ih ih' =>
      rw [← List.append_assoc] at distinct ⊢
      refine ih' (ih books ?_) distinct
      rw [opened_append] at distinct
      exact (List.nodup_append.mp distinct).1

/-- The handles that have not been released are those that are held. -/
theorem Books.unreleased_perm {t : Trace Engines} {held : List HandleId} (books : Books t held)
    (distinct : (Engine.opened t).Nodup) : (unreleased t).Perm held := by
  refine (List.perm_ext_iff_of_nodup (distinct.filter _) books.nodup).mpr ?_
  intro handle
  have released : (!(t.filterMap released?).contains handle) = true ↔
      .release ∉ calls handle t := by
    rw [Bool.not_eq_true', ← mem_released, ← List.contains_iff_mem, Bool.not_eq_true]
  rw [List.mem_filter, released]
  constructor
  · intro h
    obtain ⟨known, out⟩ := h
    refine Decidable.byContradiction fun away => out ?_
    obtain ⟨uses, h, -⟩ := books.finished handle known away
    simp [h]
  · intro mine
    obtain ⟨uses, h, all⟩ := books.alive handle mine
    refine ⟨books.opened handle mine, fun released => ?_⟩
    rw [h] at released
    cases List.mem_cons.mp released with
    | inl released => cases released
    | inr released => exact all _ released

end AlertSound.Engine
