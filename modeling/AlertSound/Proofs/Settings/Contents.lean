import AlertSound.Proofs.Dealing
import AlertSound.Proofs.Host.Store

/-!
A settings store by what it answers. It says what it holds, and what it could not write it
does not hold. Nothing is said of why a write fails, or of the other collaborators. As long as
nothing is written, the store holds what it held.
-/
namespace AlertSound

open Function Program

def Conduct.inStudio {S : Type} (A : Conduct Resources S) : Conduct Studio S
  | ⟨.inl (.inl c), answer⟩, s, s' => A ⟨c, answer⟩ s s'
  | _, s, s' => s' = s

namespace Conduct

variable {S S' : Type} {A : Conduct Resources S}

theorem path_inStudio_left {t : Trace Resources} {s s' : S} :
    A.inStudio.Path (t.map fun e => e.left.left) s s' ↔ A.Path t s s' := by
  induction t generalizing s with
  | nil => exact Iff.rfl
  | cons e t ih => simp only [List.map_cons, Path, ih]; rfl

/-- What is read off the resources can be read off them in a session. -/
theorem inStudio_map {B : Conduct Resources S'} (f : S → S')
    (step : ∀ e s s', A e s s' → B e (f s) (f s')) (e : Event Studio) (s s' : S)
    (h : A.inStudio e s s') : B.inStudio e (f s) (f s') := by
  obtain ⟨c, answer⟩ := e
  cases c with
  | inl c =>
      cases c with
      | inl c => exact step _ _ _ h
      | inr c => exact congrArg f h
  | inr c => exact congrArg f h

end Conduct

abbrev Contents := String → Option String

namespace Contents

/-- The answers of a store that holds this. Others answer what they please. -/
def conduct : Conduct Resources Contents
  | ⟨.setting key, answer⟩, held, held' => answer = held key ∧ held' = held
  | ⟨.putSetting key value, .ok ()⟩, held, held' => held' = update held key (some value)
  | _, held, held' => held' = held

/-- A write of the key was tried in this run. -/
def Tries (t : Trace Resources) (key value : String) : Prop :=
  ∃ answer, (⟨.putSetting key value, answer⟩ : Event Resources) ∈ t

def Puts (t : Trace Resources) (key value : String) : Prop :=
  (⟨.putSetting key value, .ok ()⟩ : Event Resources) ∈ t

variable {t : Trace Resources} {held held' : Contents} {key : String}

theorem conduct_of_spares {e : Event Resources} (spares : e.call.Spares)
    (step : conduct e held held') : held' = held := by
  obtain ⟨c, answer⟩ := e
  cases c with
  | putSetting _ _ => exact spares.elim
  | setting _ => exact step.2
  | _ => exact step

theorem path_of_spares (spares : ∀ e ∈ t, e.call.Spares) (path : conduct.Path t held held') :
    held' = held :=
  path.keeps id fun e member _ _ => conduct_of_spares (spares e member)

def WritesOnce (t : Trace Resources) (key value : String) (answer : Except SettingsError Unit) :
    Prop :=
  ∃ u v, t = u ++ ⟨.putSetting key value, answer⟩ :: v ∧ (∀ e ∈ u, e.call.Spares) ∧
    ∀ e ∈ v, e.call.Spares

namespace WritesOnce

variable {value key' value' : String} {answer answer' : Except SettingsError Unit}

theorem extend (h : WritesOnce t key value answer) {front back : Trace Resources}
    (spares : ∀ e ∈ front, e.call.Spares) (spares' : ∀ e ∈ back, e.call.Spares) :
    WritesOnce (front ++ t ++ back) key value answer := by
  obtain ⟨u, v, rfl, before, after⟩ := h
  exact ⟨front ++ u, v ++ back, by simp, List.forall_mem_append.mpr ⟨spares, before⟩,
    List.forall_mem_append.mpr ⟨after, spares'⟩⟩

/-- Another write is that write. -/
theorem mem_iff (h : WritesOnce t key value answer) :
    (⟨.putSetting key' value', answer'⟩ : Event Resources) ∈ t ↔
      key' = key ∧ value' = value ∧ answer' = answer := by
  obtain ⟨u, v, rfl, before, after⟩ := h
  have other {w : Trace Resources} (spares : ∀ e ∈ w, e.call.Spares) :
      (⟨.putSetting key' value', answer'⟩ : Event Resources) ∉ w := fun member => spares _ member
  simp only [List.mem_append, List.mem_cons, other before, other after, false_or, or_false,
    Event.mk.injEq, Resource.Call.putSetting.injEq, and_assoc]
  constructor
  · intro same
    obtain ⟨rfl, rfl, same⟩ := same
    exact ⟨rfl, rfl, eq_of_heq same⟩
  · intro same
    obtain ⟨rfl, rfl, rfl⟩ := same
    exact ⟨rfl, rfl, .rfl⟩

theorem path (h : WritesOnce t key value answer) (path : conduct.Path t held held') :
    (answer = .ok () → held' = update held key (some value)) ∧
      (answer ≠ .ok () → held' = held) := by
  obtain ⟨u, v, rfl, before, after⟩ := h
  obtain ⟨held₁, start, held₂, wrote, rest⟩ := Conduct.path_append.mp path
  obtain rfl := path_of_spares before start
  obtain rfl := path_of_spares after rest
  cases answer with
  | ok _ => exact ⟨fun _ => wrote, fun refused => absurd rfl refused⟩
  | error e => exact ⟨fun written => (by cases written), fun _ => wrote⟩

end WritesOnce

theorem inStudio_of_spares {e : Event Studio} (spares : Studio.Spares e.call)
    (step : conduct.inStudio e held held') : held' = held := by
  obtain ⟨c, answer⟩ := e
  cases c with
  | inl c =>
      cases c with
      | inl c => exact conduct_of_spares (e := ⟨c, answer⟩) spares step
      | inr c => exact step
  | inr c => exact step

theorem inStudio_path_of_spares {t : Trace Studio} (spares : ∀ e ∈ t, Studio.Spares e.call)
    (path : conduct.inStudio.Path t held held') : held' = held :=
  path.keeps id fun e member _ _ => inStudio_of_spares (spares e member)

end Contents
end AlertSound
