/-!
Programs that call collaborators. An interface says which calls there are and
what answers each of them takes; a program is a tree of calls, and whoever
answers them decides its run. Programs of two interfaces combine over their sum.
-/
namespace AlertSound

structure Interface where
  Call : Type
  Answer : Call → Type

/-- Calls of either interface. -/
def Interface.sum (I J : Interface) : Interface where
  Call := I.Call ⊕ J.Call
  Answer
    | .inl c => I.Answer c
    | .inr c => J.Answer c

inductive Program (I : Interface) (α : Type) where
  | done (value : α)
  | call (c : I.Call) (next : I.Answer c → Program I α)

namespace Program

variable {I J : Interface} {α β σ : Type}

def bind : Program I α → (α → Program I β) → Program I β
  | .done value, f => f value
  | .call c next, f => .call c fun answer => (next answer).bind f

instance : Monad (Program I) where
  pure := .done
  bind := bind

theorem bind_done (p : Program I α) : p.bind .done = p := by
  induction p with
  | done value => rfl
  | call c next ih => simp [bind, ih]

theorem bind_assoc {γ : Type} (p : Program I α) (f : α → Program I β) (g : β → Program I γ) :
    (p.bind f).bind g = p.bind fun value => (f value).bind g := by
  induction p with
  | done value => rfl
  | call c next ih => simp [bind, ih]

instance : LawfulMonad (Program I) :=
  LawfulMonad.mk' (Program I) bind_done (fun _ _ => rfl) bind_assoc

def request (c : I.Call) : Program I (I.Answer c) := .call c .done

def left : Program I α → Program (I.sum J) α
  | .done value => .done value
  | .call c next => .call (.inl c) fun answer => (next answer).left

def right : Program J α → Program (I.sum J) α
  | .done value => .done value
  | .call c next => .call (.inr c) fun answer => (next answer).right

instance : MonadLift (Program I) (Program (I.sum J)) := ⟨left⟩

instance : MonadLift (Program J) (Program (I.sum J)) := ⟨right⟩

end Program

/-- Answers every call of an interface, changing a state of its own. -/
abbrev Handler (I : Interface) (σ : Type) := (c : I.Call) → σ → I.Answer c × σ

namespace Handler

variable {I J : Interface} {α σ : Type}

def sum (f : Handler I σ) (g : Handler J σ) : Handler (I.sum J) σ
  | .inl c => f c
  | .inr c => g c

end Handler

def Program.run {I : Interface} {α σ : Type} (handler : Handler I σ) : Program I α → σ → α × σ
  | .done value, state => (value, state)
  | .call c next, state =>
    let (answer, state) := handler c state
    (next answer).run handler state

end AlertSound
