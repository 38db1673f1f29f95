import AlertSound.Proofs.Trace
import Mathlib.Logic.Function.Basic

/-!
Collaborators whose answers depend on the question only. A call is answered at once, or
it makes a thing that the answer names, or it uses the thing that a name stands for and
no other. The names are the collaborator's to choose: two runs may give one thing different
names. What the names of two runs have in common is a pairing of them, and as long as both
runs ask the same of paired names, they get the same answers.
-/
namespace AlertSound

open Function

variable {X α ε : Type}

abbrev Table (X : Type) := Nat → Option X

theorem Table.ne_of_free {T : Table X} {name name' : Nat} {thing : X} (known : T name = some thing)
    (free : T name' = none) : name ≠ name' := by
  rintro rfl
  simp [free] at known

/-- How a call is dealt with. A name that stands for nothing gets a blank answer. -/
inductive Dealing (X α : Type) where
  | tells (answer : α)
  | makes (thing : X) (answer : Nat → α)
  | uses (name : Nat) (blank : α) (use : X → α × X)

namespace Dealing

def opens : Except ε X → Dealing X (Except ε Nat)
  | .error e => .tells (.error e)
  | .ok thing => .makes thing .ok

/-- The call is answered in this way. A thing may get any name that is not taken. What is
answered about a name that stands for nothing is left open. -/
inductive Follows : Dealing X α → Table X → α → Table X → Prop where
  | told {answer T} : Follows (.tells answer) T answer T
  | made {thing answer T} (name) : T name = none →
      Follows (.makes thing answer) T (answer name) (update T name (some thing))
  | used {name blank use T thing} : T name = some thing →
      Follows (.uses name blank use) T (use thing).1 (update T name (some (use thing).2))
  | stray {name blank use T answer} : T name = none →
      Follows (.uses name blank use) T answer T

theorem follows_opens {made : Except ε X} {T T' : Table X} {answer : Except ε Nat} :
    (opens made).Follows T answer T' ↔ match answer with
      | .error e => made = .error e ∧ T' = T
      | .ok name => ∃ thing, made = .ok thing ∧ T name = none ∧
          T' = update T name (some thing) := by
  constructor
  · intro h
    cases made with
    | error e => cases h; exact ⟨rfl, rfl⟩
    | ok thing => cases h with | made name free => exact ⟨thing, rfl, free, rfl⟩
  · intro h
    cases answer with
    | error e => obtain ⟨rfl, rfl⟩ := h; exact .told
    | ok name => obtain ⟨thing, rfl, free, rfl⟩ := h; exact .made name free

theorem follows_uses {name : Nat} {blank answer : α} {use : X → α × X} {T T' : Table X} {thing : X}
    (known : T name = some thing) :
    (Dealing.uses name blank use).Follows T answer T' ↔
      answer = (use thing).1 ∧ T' = update T name (some (use thing).2) := by
  constructor
  · intro h
    cases h with
    | stray none => simp [none] at known
    | used found => cases found.symm.trans known; exact ⟨rfl, rfl⟩
  · intro given
    obtain ⟨rfl, rfl⟩ := given
    exact .used known

/-- What stood for something stands for it still, unless it is the name that is used. -/
theorem Follows.frame {d : Dealing X α} {T T' : Table X} {answer : α}
    (h : d.Follows T answer T') {name : Nat} {thing : X} (known : T name = some thing)
    (other : ∀ used blank use, d = .uses used blank use → used ≠ name) :
    T' name = some thing := by
  cases h with
  | told | stray _ => exact known
  | made _ free => rw [update_of_ne (Table.ne_of_free known free), known]
  | used _ => rw [update_of_ne (other _ _ _ rfl).symm, known]

end Dealing

structure Register (X : Type) where
  table : Table X
  next : Nat
  fresh : ∀ name, next ≤ name → table name = none

namespace Register

def empty : Register X := ⟨fun _ => none, 0, fun _ _ => rfl⟩

def add (r : Register X) (thing : X) : Register X where
  table := update r.table r.next (some thing)
  next := r.next + 1
  fresh name above := by
    rw [update_of_ne (by omega)]
    exact r.fresh name (by omega)

def modify (r : Register X) (name : Nat) (change : X → X) : Register X where
  table := update r.table name ((r.table name).map change)
  next := r.next
  fresh n above := by
    by_cases same : n = name
    · simp [same, r.fresh name (same ▸ above)]
    · rw [update_of_ne same, r.fresh n above]

end Register

namespace Dealing

def deal : Dealing X α → Register X → α × Register X
  | .tells answer, r => (answer, r)
  | .makes thing answer, r => (answer r.next, r.add thing)
  | .uses name blank use, r =>
    (((r.table name).map fun thing => (use thing).1).getD blank,
      r.modify name fun thing => (use thing).2)

theorem deal_follows (d : Dealing X α) (r : Register X) :
    d.Follows r.table (d.deal r).1 (d.deal r).2.table := by
  cases d with
  | tells answer => exact .told
  | makes thing answer => exact .made r.next (r.fresh _ (Nat.le_refl _))
  | uses name blank use =>
      cases known : r.table name with
      | none =>
          have same : update r.table name none = r.table := by rw [← known, update_eq_self]
          have stray : (Dealing.uses name blank use).Follows r.table blank r.table := .stray known
          simpa [deal, Register.modify, known, same] using stray
      | some thing =>
          have used : (Dealing.uses name blank use).Follows r.table (use thing).1
            (update r.table name (some (use thing).2)) := .used known
          simpa [deal, Register.modify, known] using used

end Dealing

abbrev Pairing := Nat → Nat → Prop

def Pairing.add (ρ : Pairing) (name name' : Nat) : Pairing :=
  fun n n' => ρ n n' ∨ n = name ∧ n' = name'

/-- Paired names stand for the same thing, and no name is paired twice. -/
structure Table.Like (ρ : Pairing) (T T' : Table X) : Prop where
  same : ∀ {n n'}, ρ n n' → ∃ thing, T n = some thing ∧ T' n' = some thing
  once : ∀ {n n' m m'}, ρ n n' → ρ m m' → (n = m ↔ n' = m')

namespace Table.Like

variable {ρ : Pairing} {T T' : Table X}

theorem nothing (T T' : Table X) : Like (fun _ _ => False) T T' := ⟨False.elim, False.elim⟩

theorem add (h : Like ρ T T') {name name' : Nat} (free : T name = none) (free' : T' name' = none)
    (thing : X) :
    Like (ρ.add name name') (update T name (some thing)) (update T' name' (some thing)) := by
  have apart {n n' : Nat} (paired : ρ n n') : n ≠ name ∧ n' ≠ name' := by
    obtain ⟨x, known, known'⟩ := h.same paired
    exact ⟨ne_of_free known free, ne_of_free known' free'⟩
  constructor
  · intro n n' paired
    cases paired with
    | inl before =>
        obtain ⟨x, known, known'⟩ := h.same before
        obtain ⟨other, other'⟩ := apart before
        exact ⟨x, by rwa [update_of_ne other], by rwa [update_of_ne other']⟩
    | inr new =>
        obtain ⟨rfl, rfl⟩ := new
        exact ⟨thing, update_self .., update_self ..⟩
  · intro n n' m m' paired paired'
    cases paired with
    | inl before =>
        cases paired' with
        | inl before' => exact h.once before before'
        | inr new =>
            obtain ⟨rfl, rfl⟩ := new
            obtain ⟨other, other'⟩ := apart before
            exact ⟨fun same => absurd same other, fun same => absurd same other'⟩
    | inr new =>
        obtain ⟨rfl, rfl⟩ := new
        cases paired' with
        | inl before' =>
            obtain ⟨other, other'⟩ := apart before'
            exact ⟨fun same => absurd same.symm other, fun same => absurd same.symm other'⟩
        | inr new =>
            obtain ⟨rfl, rfl⟩ := new
            exact ⟨fun _ => rfl, fun _ => rfl⟩

theorem put (h : Like ρ T T') {name name' : Nat} (paired : ρ name name') (thing : X) :
    Like ρ (update T name (some thing)) (update T' name' (some thing)) where
  once := h.once
  same {n n'} also := by
    by_cases same : n = name
    · obtain rfl := (h.once also paired).mp same
      exact ⟨thing, same ▸ update_self .., update_self ..⟩
    · have other : n' ≠ name' := fun same' => same ((h.once also paired).mpr same')
      obtain ⟨x, known, known'⟩ := h.same also
      exact ⟨x, by rwa [update_of_ne same], by rwa [update_of_ne other]⟩

end Table.Like

inductive Likewise {β : Type} (R : α → β → Prop) : Except ε α → Except ε β → Prop where
  | error (e) : Likewise R (.error e) (.error e)
  | ok {a b} : R a b → Likewise R (.ok a) (.ok b)

namespace Dealing

/-- In like runs the answers are related, and the runs stay alike. -/
def Twin {β : Type} (ρ : Pairing) (d : Dealing X α) (d' : Dealing X β)
    (Q : Pairing → α → β → Prop) : Prop :=
  ∀ ⦃T T' a a' T₁ T₁'⦄, Table.Like ρ T T' → d.Follows T a T₁ → d'.Follows T' a' T₁' →
    ∃ ρ', (∀ n n', ρ n n' → ρ' n n') ∧ Table.Like ρ' T₁ T₁' ∧ Q ρ' a a'

variable {ρ : Pairing}

theorem twin_tells {Q : Pairing → α → α → Prop} {answer : α} (same : Q ρ answer answer) :
    Twin (X := X) ρ (.tells answer) (.tells answer) Q := by
  intro T T' a a' T₁ T₁' like h h'
  cases h
  cases h'
  exact ⟨ρ, fun _ _ => id, like, same⟩

theorem twin_uses {name name' : Nat} {blank : α} {use : X → α × X} (paired : ρ name name') :
    Twin ρ (.uses name blank use) (.uses name' blank use) fun _ => Eq := by
  intro T T' a a' T₁ T₁' like h h'
  obtain ⟨thing, known, known'⟩ := like.same paired
  obtain ⟨rfl, rfl⟩ := (follows_uses known).mp h
  obtain ⟨rfl, rfl⟩ := (follows_uses known').mp h'
  exact ⟨ρ, fun _ _ => id, like.put paired _, rfl⟩

/-- What is made gets a name in each of the runs. -/
theorem twin_opens (made : Except ε X) :
    Twin ρ (opens made) (opens made) fun ρ' => Likewise ρ' := by
  cases made with
  | error e => exact twin_tells (.error e)
  | ok thing =>
      intro T T' a a' T₁ T₁' like h h'
      cases h with
      | made n free =>
          cases h' with
          | made n' free' =>
              exact ⟨ρ.add n n', fun _ _ => .inl, like.add free free' thing, .ok (.inr ⟨rfl, rfl⟩)⟩

end Dealing

/-- How a collaborator may answer, and what it is like afterwards. -/
abbrev Conduct (I : Interface) (S : Type) := Event I → S → S → Prop

namespace Conduct

variable {I J : Interface} {S : Type}

def Path (A : Conduct I S) : Trace I → S → S → Prop
  | [], s, s' => s' = s
  | e :: t, s, s' => ∃ s₁, A e s s₁ ∧ A.Path t s₁ s'

/-- Answers like those of the trace may be given from `s` on. -/
def Allows (A : Conduct I S) (s : S) (t : Trace I) : Prop := ∃ s', A.Path t s s'

def left (A : Conduct (I.sum J) S) : Conduct I S := fun e => A e.left

def right (A : Conduct (I.sum J) S) : Conduct J S := fun e => A e.right

theorem Path.nil {A : Conduct I S} {s : S} : A.Path [] s s := rfl

theorem Path.cons {A : Conduct I S} {e : Event I} {t : Trace I} {s s₁ s' : S} (first : A e s s₁)
    (rest : A.Path t s₁ s') : A.Path (e :: t) s s' := ⟨s₁, first, rest⟩

theorem path_append {A : Conduct I S} {t u : Trace I} {s s' : S} :
    A.Path (t ++ u) s s' ↔ ∃ s₁, A.Path t s s₁ ∧ A.Path u s₁ s' := by
  induction t generalizing s with
  | nil => simp [Path]
  | cons e t ih =>
      simp only [List.cons_append, Path, ih]
      constructor
      · intro given
        obtain ⟨s₁, first, s₂, middle, last⟩ := given
        exact ⟨s₂, ⟨s₁, first, middle⟩, last⟩
      · intro given
        obtain ⟨s₂, ⟨s₁, first, middle⟩, last⟩ := given
        exact ⟨s₁, first, s₂, middle, last⟩

/-- Every event of a path is answered in this way. -/
theorem Path.mem {A : Conduct I S} {t : Trace I} {s s' : S} (path : A.Path t s s') {e : Event I}
    (member : e ∈ t) : ∃ s₁ s₂, A e s₁ s₂ := by
  obtain ⟨u, v, rfl⟩ := List.append_of_mem member
  obtain ⟨s₁, -, s₂, here, -⟩ := path_append.mp path
  exact ⟨s₁, s₂, here⟩

/-- Every part of a path is one. -/
theorem Path.of_mem_flatMap {A : Conduct I S} {α : Type} {f : α → Trace I} {xs : List α}
    {s s' : S} (path : A.Path (xs.flatMap f) s s') {x : α} (member : x ∈ xs) :
    ∃ s₁ s₂, A.Path (f x) s₁ s₂ := by
  obtain ⟨front, back, rfl⟩ := List.append_of_mem member
  rw [List.flatMap_append, List.flatMap_cons] at path
  obtain ⟨s₁, -, rest⟩ := path_append.mp path
  obtain ⟨s₂, here, -⟩ := path_append.mp rest
  exact ⟨s₁, s₂, here⟩

/-- What each answer leaves as it is, all of them leave as it is. -/
theorem Path.keeps {A : Conduct I S} {β : Type} (f : S → β) {t : Trace I} {s s' : S}
    (path : A.Path t s s') (still : ∀ e ∈ t, ∀ s₁ s₂, A e s₁ s₂ → f s₂ = f s₁) : f s' = f s := by
  induction t generalizing s with
  | nil => rw [show s' = s from path]
  | cons e t ih =>
      obtain ⟨s₁, first, rest⟩ := path
      obtain ⟨here, later⟩ := List.forall_mem_cons.mp still
      rw [ih rest later, here s s₁ first]

/-- What is read off every answer can be read off all of them. -/
theorem Path.map {A : Conduct I S} {S' : Type} {B : Conduct I S'} (f : S → S')
    (step : ∀ e s s', A e s s' → B e (f s) (f s')) {t : Trace I} {s s' : S} (path : A.Path t s s') :
    B.Path t (f s) (f s') := by
  induction t generalizing s with
  | nil => exact congrArg f path
  | cons e t ih =>
      obtain ⟨s₁, first, rest⟩ := path
      exact .cons (step e s s₁ first) (ih rest)

/-- What a handler answers is a path, if it answers every call as it should. -/
theorem path_record {A : Conduct I S} {α σ : Type} {handler : Handler I σ} (view : σ → S)
    (step : ∀ c state, A ⟨c, (handler c state).1⟩ (view state) (view (handler c state).2))
    (p : Program I α) (state : σ) :
    A.Path (p.record handler state) (view state) (view (p.run handler state).2) := by
  induction p generalizing state with
  | done a => rfl
  | call c next ih => exact .cons (step c state) (ih _ _)

theorem path_map_left {A : Conduct (I.sum J) S} {t : Trace I} {s s' : S} :
    A.Path (t.map Event.left) s s' ↔ A.left.Path t s s' := by
  induction t generalizing s with
  | nil => exact Iff.rfl
  | cons e t ih => simp only [List.map_cons, Path, ih]; rfl

theorem path_map_right {A : Conduct (I.sum J) S} {t : Trace J} {s s' : S} :
    A.Path (t.map Event.right) s s' ↔ A.right.Path t s s' := by
  induction t generalizing s with
  | nil => exact Iff.rfl
  | cons e t ih => simp only [List.map_cons, Path, ih]; rfl

end Conduct

namespace Dealing

variable {I : Interface}

def conduct (deal : (c : I.Call) → Dealing X (I.Answer c)) : Conduct I (Table X) :=
  fun e T T' => (deal e.call).Follows T e.answer T'

end Dealing
end AlertSound
