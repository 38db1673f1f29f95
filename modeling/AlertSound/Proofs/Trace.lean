import AlertSound.Program

/-!
What a program does whatever it is answered. A trace lists the calls of a run with
the answers they got; `Runs` says that a trace is a whole run, `Steps` that it is
the beginning of one. A statement about all runs is a `Ensures`, which is proved
along the program. Nothing is assumed of the answers.
-/
namespace AlertSound

structure Event (I : Interface) where
  call : I.Call
  answer : I.Answer call

abbrev Trace (I : Interface) := List (Event I)

namespace Event

variable {I J : Interface}

def left (e : Event I) : Event (I.sum J) := ⟨.inl e.call, e.answer⟩

def right (e : Event J) : Event (I.sum J) := ⟨.inr e.call, e.answer⟩

def left? : Event (I.sum J) → Option (Event I)
  | ⟨.inl c, answer⟩ => some ⟨c, answer⟩
  | ⟨.inr _, _⟩ => none

def right? : Event (I.sum J) → Option (Event J)
  | ⟨.inl _, _⟩ => none
  | ⟨.inr c, answer⟩ => some ⟨c, answer⟩

end Event

namespace Trace

variable {I J : Interface}

def lefts (t : Trace (I.sum J)) : Trace I := t.filterMap Event.left?

def rights (t : Trace (I.sum J)) : Trace J := t.filterMap Event.right?

@[simp] theorem lefts_nil : lefts ([] : Trace (I.sum J)) = [] := rfl

@[simp] theorem rights_nil : rights ([] : Trace (I.sum J)) = [] := rfl

@[simp] theorem lefts_cons_left (e : Event I) (t : Trace (I.sum J)) :
    lefts (e.left :: t) = e :: lefts t := rfl

@[simp] theorem lefts_cons_right (e : Event J) (t : Trace (I.sum J)) :
    lefts (e.right :: t) = lefts t := rfl

@[simp] theorem rights_cons_left (e : Event I) (t : Trace (I.sum J)) :
    rights (e.left :: t) = rights t := rfl

@[simp] theorem rights_cons_right (e : Event J) (t : Trace (I.sum J)) :
    rights (e.right :: t) = e :: rights t := rfl

@[simp] theorem lefts_append (t u : Trace (I.sum J)) : lefts (t ++ u) = lefts t ++ lefts u :=
  List.filterMap_append

@[simp] theorem rights_append (t u : Trace (I.sum J)) : rights (t ++ u) = rights t ++ rights u :=
  List.filterMap_append

@[simp] theorem lefts_map_left (t : Trace I) : lefts (t.map (Event.left (J := J))) = t := by
  induction t with
  | nil => rfl
  | cons e t ih => simp [ih]

@[simp] theorem rights_map_right (t : Trace J) : rights (t.map (Event.right (I := I))) = t := by
  induction t with
  | nil => rfl
  | cons e t ih => simp [ih]

@[simp] theorem rights_map_left (t : Trace I) : rights (t.map (Event.left (J := J))) = [] := by
  induction t with
  | nil => rfl
  | cons e t ih => simp [ih]

@[simp] theorem lefts_map_right (t : Trace J) : lefts (t.map (Event.right (I := I))) = [] := by
  induction t with
  | nil => rfl
  | cons e t ih => simp [ih]

theorem mem_rights {e : Event J} {t : Trace (I.sum J)} : e ∈ rights t ↔ e.right ∈ t := by
  simp only [rights, List.mem_filterMap]
  constructor
  · intro h
    obtain ⟨⟨c, answer⟩, he, h⟩ := h
    cases c with
    | inl c => cases h
    | inr c => cases h; exact he
  · exact fun h => ⟨e.right, h, rfl⟩

theorem mem_lefts {e : Event I} {t : Trace (I.sum J)} : e ∈ lefts t ↔ e.left ∈ t := by
  simp only [lefts, List.mem_filterMap]
  constructor
  · intro h
    obtain ⟨⟨c, answer⟩, he, h⟩ := h
    cases c with
    | inl c => cases h; exact he
    | inr c => cases h
  · exact fun h => ⟨e.left, h, rfl⟩

/-- What stands in one list after another stands in the first or in the second. -/
theorem append_eq_append_cons {α : Type} {l l' before after : List α} {x : α}
    (h : l ++ l' = before ++ x :: after) :
    (∃ after', after = after' ++ l' ∧ l = before ++ x :: after') ∨
      ∃ before', before = l ++ before' ∧ l' = before' ++ x :: after := by
  cases List.append_eq_append_iff.mp h with
  | inl left =>
      obtain ⟨v, rfl, rest⟩ := left
      exact .inr ⟨v, rfl, rest⟩
  | inr right =>
      obtain ⟨v, rfl, rest⟩ := right
      cases v with
      | nil => exact .inr ⟨[], by simp, rest.symm⟩
      | cons y v =>
          obtain ⟨rfl, rfl⟩ := List.cons.inj rest
          exact .inl ⟨v, rfl, rfl⟩

/-- What stands in a list that ends with `a` is `a` or stands before it. -/
theorem snoc_eq_append_cons {α : Type} {l before after : List α} {a x : α}
    (h : l ++ [a] = before ++ x :: after) :
    (l = before ∧ a = x ∧ after = []) ∨
      ∃ after', after = after' ++ [a] ∧ l = before ++ x :: after' := by
  cases append_eq_append_cons h with
  | inl earlier => exact .inr earlier
  | inr here =>
      obtain ⟨before', rfl, last⟩ := here
      cases before' with
      | nil =>
          obtain ⟨rfl, rfl⟩ := List.cons.inj last
          exact .inl ⟨by simp, rfl, rfl⟩
      | cons y before' => simp at last

/-- An event that is not like any of those beside it stands in one place. -/
theorem append_cons_inj {P : Event I → Prop} {t t' u u' : Trace I} {e e' : Event I}
    (h : t ++ e :: u = t' ++ e' :: u') (other : ¬P e) (before : ∀ e ∈ t', P e)
    (after : ∀ e ∈ u', P e) : t = t' ∧ e = e' ∧ u = u' := by
  cases List.append_eq_append_iff.mp h with
  | inl left =>
      obtain ⟨v, rfl, rest⟩ := left
      cases v with
      | nil => exact ⟨by simp, by simpa using rest⟩
      | cons x v =>
          cases rest
          exact absurd (before e (List.mem_append_right t List.mem_cons_self)) other
  | inr right =>
      obtain ⟨v, rfl, rest⟩ := right
      cases v with
      | nil => exact ⟨by simp, by simpa [eq_comm] using rest⟩
      | cons x v =>
          cases rest
          exact absurd (after e (List.mem_append_right v List.mem_cons_self)) other

end Trace

namespace Program

variable {I J : Interface} {α β σ : Type}

/-- After the calls of `t` and their answers, `q` is what is left of `p`. -/
def Steps (p : Program I α) : Trace I → Program I α → Prop
  | [], q => p = q
  | e :: t, q => ∃ next, p = .call e.call next ∧ (next e.answer).Steps t q

/-- The calls of `t` and their answers are a whole run of `p`, with this result. -/
def Runs (p : Program I α) (t : Trace I) (a : α) : Prop := p.Steps t (.done a)

theorem Steps.append {p q r : Program I α} {t u : Trace I} (h : p.Steps t q)
    (h' : q.Steps u r) : p.Steps (t ++ u) r := by
  induction t generalizing p with
  | nil => cases h; exact h'
  | cons e t ih =>
      obtain ⟨next, rfl, h⟩ := h
      exact ⟨next, rfl, ih h⟩

theorem steps_append {p r : Program I α} {t u : Trace I} :
    p.Steps (t ++ u) r ↔ ∃ q, p.Steps t q ∧ q.Steps u r := by
  constructor
  · intro h
    induction t generalizing p with
    | nil => exact ⟨p, rfl, h⟩
    | cons e t ih =>
        obtain ⟨next, rfl, h⟩ := h
        obtain ⟨q, first, rest⟩ := ih h
        exact ⟨q, ⟨next, rfl, first⟩, rest⟩
  · intro given
    obtain ⟨q, first, rest⟩ := given
    exact first.append rest

/-- Where a run makes a call. -/
theorem Runs.steps_of_mem {p : Program I α} {t : Trace I} {a : α} {e : Event I} (h : p.Runs t a)
    (he : e ∈ t) : ∃ u v next, t = u ++ e :: v ∧ p.Steps u (.call e.call next) := by
  obtain ⟨u, v, rfl⟩ := List.append_of_mem he
  obtain ⟨q, first, next, rfl, -⟩ := steps_append.mp h
  exact ⟨u, v, next, rfl, first⟩

/-- One more call. -/
theorem Steps.snoc {p : Program I α} {t : Trace I} {c : I.Call}
    {next : I.Answer c → Program I α} (h : p.Steps t (.call c next)) (answer : I.Answer c) :
    p.Steps (t ++ [⟨c, answer⟩]) (next answer) :=
  h.append ⟨next, rfl, rfl⟩

theorem runs_done {a b : α} {t : Trace I} : (done a : Program I α).Runs t b ↔ t = [] ∧ a = b := by
  cases t with
  | nil => simp [Runs, Steps]
  | cons e t => simp [Runs, Steps]

theorem runs_call {c : I.Call} {next : I.Answer c → Program I α} {t : Trace I} {b : α} :
    (call c next).Runs t b ↔ ∃ answer u, t = ⟨c, answer⟩ :: u ∧ (next answer).Runs u b := by
  cases t with
  | nil => simp [Runs, Steps]
  | cons e t =>
      obtain ⟨c', answer'⟩ := e
      constructor
      · intro h
        obtain ⟨next', h, h'⟩ := h
        cases h
        exact ⟨answer', t, rfl, h'⟩
      · intro given
        obtain ⟨answer, u, h, h'⟩ := given
        cases h
        exact ⟨next, rfl, h'⟩

theorem runs_bind {p : Program I α} {f : α → Program I β} {t : Trace I} {b : β} :
    (p >>= f).Runs t b ↔ ∃ a u v, t = u ++ v ∧ p.Runs u a ∧ (f a).Runs v b := by
  change (p.bind f).Runs t b ↔ _
  induction p generalizing t with
  | done a =>
      simp only [bind, runs_done]
      constructor
      · exact fun h => ⟨a, [], t, rfl, ⟨rfl, rfl⟩, h⟩
      · intro given
        obtain ⟨_, _, v, rfl, ⟨rfl, rfl⟩, hv⟩ := given
        exact hv
  | call c next ih =>
      simp only [bind, runs_call, ih]
      constructor
      · intro given
        obtain ⟨answer, w, rfl, a, u, v, rfl, hu, hv⟩ := given
        exact ⟨a, ⟨c, answer⟩ :: u, v, rfl, ⟨answer, u, rfl, hu⟩, hv⟩
      · intro given
        obtain ⟨a, _, v, rfl, ⟨answer, u, rfl, hu⟩, hv⟩ := given
        exact ⟨answer, u ++ v, rfl, a, u, v, rfl, hu, hv⟩

theorem runs_map {p : Program I α} {f : α → β} {t : Trace I} {b : β} :
    (f <$> p).Runs t b ↔ ∃ a, p.Runs t a ∧ f a = b := by
  rw [← bind_pure_comp, runs_bind]
  constructor
  · intro given
    obtain ⟨a, u, v, rfl, runs, done⟩ := given
    obtain ⟨rfl, same⟩ := runs_done.mp done
    exact ⟨a, by simpa using runs, same⟩
  · intro given
    obtain ⟨a, runs, rfl⟩ := given
    exact ⟨a, t, [], by simp, runs, rfl⟩

theorem runs_left {p : Program I α} {t : Trace (I.sum J)} {a : α} :
    (p.left : Program (I.sum J) α).Runs t a ↔ ∃ u, t = u.map Event.left ∧ p.Runs u a := by
  induction p generalizing t with
  | done b =>
      simp only [left, runs_done]
      constructor
      · intro h
        obtain ⟨rfl, rfl⟩ := h
        exact ⟨[], rfl, rfl, rfl⟩
      · intro given
        obtain ⟨_, rfl, rfl, rfl⟩ := given
        exact ⟨rfl, rfl⟩
  | call c next ih =>
      constructor
      · intro h
        obtain ⟨answer, w, rfl, hw⟩ := runs_call.mp h
        obtain ⟨u, rfl, hu⟩ := (ih answer).mp hw
        exact ⟨⟨c, answer⟩ :: u, rfl, runs_call.mpr ⟨answer, u, rfl, hu⟩⟩
      · intro given
        obtain ⟨_, rfl, h⟩ := given
        obtain ⟨answer, u, rfl, hu⟩ := runs_call.mp h
        exact runs_call.mpr ⟨answer, u.map Event.left, rfl, (ih answer).mpr ⟨u, rfl, hu⟩⟩

theorem runs_right {p : Program J α} {t : Trace (I.sum J)} {a : α} :
    (p.right : Program (I.sum J) α).Runs t a ↔ ∃ u, t = u.map Event.right ∧ p.Runs u a := by
  induction p generalizing t with
  | done b =>
      simp only [right, runs_done]
      constructor
      · intro h
        obtain ⟨rfl, rfl⟩ := h
        exact ⟨[], rfl, rfl, rfl⟩
      · intro given
        obtain ⟨_, rfl, rfl, rfl⟩ := given
        exact ⟨rfl, rfl⟩
  | call c next ih =>
      constructor
      · intro h
        obtain ⟨answer, w, rfl, hw⟩ := runs_call.mp h
        obtain ⟨u, rfl, hu⟩ := (ih answer).mp hw
        exact ⟨⟨c, answer⟩ :: u, rfl, runs_call.mpr ⟨answer, u, rfl, hu⟩⟩
      · intro given
        obtain ⟨_, rfl, h⟩ := given
        obtain ⟨answer, u, rfl, hu⟩ := runs_call.mp h
        exact runs_call.mpr ⟨answer, u.map Event.right, rfl, (ih answer).mpr ⟨u, rfl, hu⟩⟩

/-- Every call can be answered, so what is left of a run can be finished. -/
theorem exists_runs [∀ c, Nonempty (I.Answer c)] (p : Program I α) : ∃ t a, p.Runs t a := by
  induction p with
  | done a => exact ⟨[], a, rfl⟩
  | call c next ih =>
      obtain ⟨answer⟩ := (inferInstance : Nonempty (I.Answer c))
      obtain ⟨t, a, h⟩ := ih answer
      exact ⟨⟨c, answer⟩ :: t, a, next, rfl, h⟩

def record (handler : Handler I σ) : Program I α → σ → Trace I
  | .done _, _ => []
  | .call c next, state =>
    let (answer, state) := handler c state
    ⟨c, answer⟩ :: (next answer).record handler state

/-- What a handler runs is a run, so that what holds of all runs holds of its own. -/
theorem runs_record (handler : Handler I σ) (p : Program I α) (state : σ) :
    p.Runs (p.record handler state) (p.run handler state).1 := by
  induction p generalizing state with
  | done a => rfl
  | call c next ih => exact ⟨next, rfl, ih _ _⟩

theorem run_bind (handler : Handler I σ) (p : Program I α) (f : α → Program I β) (state : σ) :
    (p >>= f).run handler state =
      (f (p.run handler state).1).run handler (p.run handler state).2 := by
  change (p.bind f).run handler state = _
  induction p generalizing state with
  | done a => rfl
  | call c next ih => exact ih _ _

theorem run_map (handler : Handler I σ) (p : Program I α) (f : α → β) (state : σ) :
    (f <$> p).run handler state = (f (p.run handler state).1, (p.run handler state).2) := by
  rw [← bind_pure_comp, run_bind]
  rfl

end Program

namespace Handler

variable {I : Interface} {σ : Type} {handler : Handler I σ}

def after (handler : Handler I σ) (t : Trace I) (state : σ) : σ :=
  t.foldl (fun state e => (handler e.call state).2) state

/-- The answers in the trace are those of the handler. -/
def Gives (handler : Handler I σ) : σ → Trace I → Prop
  | _, [] => True
  | state, e :: t =>
    e.answer = (handler e.call state).1 ∧ handler.Gives (handler e.call state).2 t

theorem gives_append {state : σ} {t u : Trace I} :
    handler.Gives state (t ++ u) ↔
      handler.Gives state t ∧ handler.Gives (handler.after t state) u := by
  induction t generalizing state with
  | nil => simp [Gives, after]
  | cons e t ih => simp [Gives, after, ih, and_assoc]

end Handler

namespace Program

variable {I J : Interface} {α β σ : Type}

theorem gives_record (handler : Handler I σ) (p : Program I α) (state : σ) :
    handler.Gives state (p.record handler state) ∧
      handler.after (p.record handler state) state = (p.run handler state).2 := by
  induction p generalizing state with
  | done _ => exact ⟨trivial, rfl⟩
  | call c next ih => exact ⟨⟨rfl, (ih _ _).1⟩, (ih _ _).2⟩

/-- Whatever the answers are, the run and its result are in `Q`. -/
def Ensures (p : Program I α) (Q : Trace I → α → Prop) : Prop := ∀ ⦃t a⦄, p.Runs t a → Q t a

theorem ensures_runs (p : Program I α) : p.Ensures p.Runs := fun _ _ runs => runs

namespace Ensures

variable {p : Program I α} {Q R : Trace I → α → Prop}

theorem of_forall (h : ∀ t a, Q t a) : p.Ensures Q := fun t a _ => h t a

theorem mono (h : p.Ensures Q) (hQ : ∀ t a, Q t a → R t a) : p.Ensures R :=
  fun t a ht => hQ t a (h ht)

theorem and (h : p.Ensures Q) (h' : p.Ensures R) : p.Ensures fun t a => Q t a ∧ R t a :=
  fun _ _ ht => ⟨h ht, h' ht⟩

theorem bind {f : α → Program I β} {S : Trace I → β → Prop} (h : p.Ensures Q)
    (hf : ∀ t a, Q t a → (f a).Ensures fun u b => S (t ++ u) b) : (p >>= f).Ensures S := by
  intro t b ht
  obtain ⟨a, u, v, rfl, hu, hv⟩ := runs_bind.mp ht
  exact hf u a (h hu) hv

/-- What holds of the events of whole runs holds of those of unfinished ones. -/
theorem of_steps [∀ c, Nonempty (I.Answer c)] {P : Event I → Prop} {q : Program I α}
    {t : Trace I} (h : p.Ensures fun t _ => ∀ e ∈ t, P e) (ht : p.Steps t q) : ∀ e ∈ t, P e := by
  obtain ⟨u, a, hu⟩ := q.exists_runs
  intro e he
  exact h (ht.append hu) e (List.mem_append_left u he)

end Ensures

@[simp] theorem ensures_done {a : α} {Q : Trace I → α → Prop} :
    (done a : Program I α).Ensures Q ↔ Q [] a := by
  simp [Ensures, runs_done]

@[simp] theorem ensures_pure {a : α} {Q : Trace I → α → Prop} :
    (pure a : Program I α).Ensures Q ↔ Q [] a := ensures_done

@[simp] theorem ensures_call {c : I.Call} {next : I.Answer c → Program I α}
    {Q : Trace I → α → Prop} :
    (call c next).Ensures Q ↔
      ∀ answer, (next answer).Ensures fun t a => Q (⟨c, answer⟩ :: t) a := by
  simp only [Ensures, runs_call]
  constructor
  · intro h answer t a ht
    exact h ⟨answer, t, rfl, ht⟩
  · intro h _ a given
    obtain ⟨answer, t, rfl, ht⟩ := given
    exact h answer ht

@[simp] theorem ensures_bind {p : Program I α} {f : α → Program I β} {Q : Trace I → β → Prop} :
    (p >>= f).Ensures Q ↔ p.Ensures fun t a => (f a).Ensures fun u b => Q (t ++ u) b := by
  constructor
  · intro h t a ht u b hu
    exact h (runs_bind.mpr ⟨a, t, u, rfl, ht, hu⟩)
  · exact fun h => h.bind fun _ _ h => h

@[simp] theorem ensures_map {p : Program I α} {f : α → β} {Q : Trace I → β → Prop} :
    (f <$> p).Ensures Q ↔ p.Ensures fun t a => Q t (f a) := by
  rw [← bind_pure_comp, ensures_bind]
  simp

@[simp] theorem ensures_left {p : Program I α} {Q : Trace (I.sum J) → α → Prop} :
    (p.left : Program (I.sum J) α).Ensures Q ↔ p.Ensures fun t a => Q (t.map Event.left) a := by
  simp only [Ensures, runs_left]
  constructor
  · intro h t a ht
    exact h ⟨t, rfl, ht⟩
  · intro h _ a given
    obtain ⟨t, rfl, ht⟩ := given
    exact h ht

@[simp] theorem ensures_right {p : Program J α} {Q : Trace (I.sum J) → α → Prop} :
    (p.right : Program (I.sum J) α).Ensures Q ↔ p.Ensures fun t a => Q (t.map Event.right) a := by
  simp only [Ensures, runs_right]
  constructor
  · intro h t a ht
    exact h ⟨t, rfl, ht⟩
  · intro h _ a given
    obtain ⟨t, rfl, ht⟩ := given
    exact h ht

/-- Every call that the program can make is in `P`. -/
def Asks (p : Program I α) (P : I.Call → Prop) : Prop := p.Ensures fun t _ => ∀ e ∈ t, P e.call

theorem asks_call [∀ c, Nonempty (I.Answer c)] {c : I.Call} {next : I.Answer c → Program I α}
    {P : I.Call → Prop} : (call c next).Asks P ↔ P c ∧ ∀ answer, (next answer).Asks P := by
  simp only [Asks, ensures_call, List.forall_mem_cons]
  constructor
  · intro h
    obtain ⟨answer⟩ := (inferInstance : Nonempty (I.Answer c))
    obtain ⟨t, a, runs⟩ := (next answer).exists_runs
    exact ⟨(h answer runs).1, fun answer t a runs => (h answer runs).2⟩
  · exact fun ⟨first, rest⟩ answer t a runs => ⟨first, rest answer runs⟩

namespace Asks

variable {P : I.Call → Prop}

theorem pure (a : α) : (Pure.pure a : Program I α).Asks P := ensures_pure.mpr (by simp)

theorem mono {p : Program I α} {P' : I.Call → Prop} (h : p.Asks P) (hP : ∀ c, P c → P' c) :
    p.Asks P' :=
  Ensures.mono h fun _ _ asked e he => hP e.call (asked e he)

theorem request {c : I.Call} (h : P c) : (Program.request c).Asks P :=
  ensures_call.mpr fun answer => ensures_done.mpr (by simpa using h)

theorem of_forall {p : Program I α} (h : ∀ c, P c) : p.Asks P := fun _ _ _ e _ => h e.call

/-- What is known of a result may be used in what follows. -/
theorem bind_of {Q : α → Prop} {p : Program I α} {f : α → Program I β} (h : p.Asks P)
    (known : p.Ensures fun _ a => Q a) (h' : ∀ a, Q a → (f a).Asks P) : (p >>= f).Asks P := by
  refine Ensures.bind (Ensures.and h known) fun t a ⟨asked, q⟩ => ?_
  refine Ensures.mono (h' a q) fun u b asked' => ?_
  rw [List.forall_mem_append]
  exact ⟨asked, asked'⟩

theorem bind {p : Program I α} {f : α → Program I β} (h : p.Asks P) (h' : ∀ a, (f a).Asks P) :
    (p >>= f).Asks P :=
  bind_of (Q := fun _ => True) h (.of_forall fun _ _ => trivial) fun a _ => h' a

theorem left {P : (I.sum J).Call → Prop} {p : Program I α} (h : p.Asks fun c => P (.inl c)) :
    (p.left : Program (I.sum J) α).Asks P := by
  refine ensures_left.mpr (Ensures.mono h fun t a asked => ?_)
  rw [List.forall_mem_map]
  exact asked

theorem right {P : (I.sum J).Call → Prop} {p : Program J α} (h : p.Asks fun c => P (.inr c)) :
    (p.right : Program (I.sum J) α).Asks P := by
  refine ensures_right.mpr (Ensures.mono h fun t a asked => ?_)
  rw [List.forall_mem_map]
  exact asked

end Asks

section Lift

variable {K : Interface}

@[simp] theorem left_pure (a : α) : (pure a : Program I α).left (J := J) = pure a := rfl

theorem left_bind (p : Program I α) (f : α → Program I β) :
    (p >>= f).left (J := J) = p.left >>= fun a => (f a).left := by
  change (p.bind f).left = p.left.bind fun a => (f a).left
  induction p with
  | done a => rfl
  | call c next ih => exact congrArg (call (I := I.sum J) (.inl c)) (funext ih)

@[simp] theorem lift_left (p : Program I α) : (liftM p : Program (I.sum J) α) = p.left := rfl

@[simp] theorem lift_right (p : Program J α) : (liftM p : Program (I.sum J) α) = p.right := rfl

@[simp] theorem lift_left_left (p : Program I α) :
    (liftM p : Program ((I.sum J).sum K) α) = p.left.left := rfl

@[simp] theorem lift_right_left (p : Program J α) :
    (liftM p : Program ((I.sum J).sum K) α) = p.right.left := rfl

end Lift

end Program
end AlertSound
