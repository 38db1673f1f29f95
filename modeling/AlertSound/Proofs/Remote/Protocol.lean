import AlertSound.Proofs.Remote.Duty
import AlertSound.Proofs.Remote.Progress

/-!
The contract of the remote player: what its callers, its engine and its owner may rely
on at every point of every run. The engine may fail at any call; that it hands out no
handle twice is needed only for what is left when the worker is gone, and that nobody
is passed over for ever only for calls to come back.
-/
namespace AlertSound.Remote

open Program Trace Service

variable {ι : Type} {log : List (Note ι)} {S S' : Service ι} {note : Note ι} {id : ι} {c : Call}

theorem Filed.refused (h : Filed log S) {answer : Remotes.Answer c}
    (returned : S.calls id = .returned c answer) (refused : ¬c.Accepts answer) :
    answer = c.unreached ∧ Untouched log id := by
  cases (h.call id).known returned with
  | inl unreached => exact unreached
  | inr answered =>
      obtain ⟨-, -, accepts⟩ := answered
      exact absurd accepts refused

theorem Post.worker?_cases {post : Post ι} {w : Worker} (h : post.worker? = some w) :
    post = .resting w ∨ ∃ id c t rest, post = .serving id c w t rest := by
  cases post with
  | resting w' => cases h; exact .inl rfl
  | serving id c w' t rest => cases h; exact .inr ⟨id, c, t, rest, rfl⟩
  | stopping _ _ _ | gone => cases h

variable [DecidableEq ι]

theorem Course.run {course : Course ι} (run : Run log (course.state 0)) (n : Nat) :
    ∃ more, Run (log ++ more) (course.state n) := by
  induction n with
  | zero => exact ⟨[], by simpa using run⟩
  | succ n ih =>
      obtain ⟨more, run⟩ := ih
      have step := course.step n
      split at step
      · exact ⟨more, step ▸ run⟩
      · rename_i note _
        exact ⟨more ++ [note], by simpa using run.next step⟩

theorem Course.call? {course : Course ι} (made : ((course.state 0).calls id).call? = some c)
    (n : Nat) : ((course.state n).calls id).call? = some c := by
  induction n with
  | zero => exact made
  | succ n ih =>
      have step := course.step n
      split at step
      · rwa [step]
      · obtain ⟨log, filed⟩ := (course.reached_at n).filed
        rw [filed.call?_eq step (Errand.made_of_call? ih), ih]

theorem OnDuty.accounts {post : Post ι} (h : OnDuty log post) {w : Worker}
    (up : post.worker? = some w) : ∃ past, Accounts log past w := by
  cases Post.worker?_cases up with
  | inl same =>
      subst same
      exact ⟨_, h⟩
  | inr serving =>
      obtain ⟨id, c, t, rest, rfl⟩ := serving
      obtain ⟨-, past, -, accounts⟩ := h
      exact ⟨past, accounts⟩

def sound : Call := .play ⟨1⟩ (.media .inside 1) .ordinary

def playing : Worker := ((Worker.idle.serve sound).run compliant 0).1.2

end AlertSound.Remote
