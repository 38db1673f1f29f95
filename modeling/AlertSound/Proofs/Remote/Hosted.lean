import AlertSound.Host.Basic
import AlertSound.Proofs.Remote.Service

/-!
A host's remote player. A host has one caller and waits for each of its calls, so that
what it does to its remote player is a run of the service in which nothing overlaps.
-/
namespace AlertSound.Host

open Program Remote

variable {ι : Type} [DecidableEq ι] {host : Host} {log : List (Note ι)} {S : Service ι}

/-- The service is where the host's remote player is, and nobody is waiting. -/
inductive Hosts (host : Host) : Service ι → Prop where
  | up {bank calls w} : host.remote = .service bank (some w) →
      Hosts host ⟨[], calls, .resting w, .keeping⟩
  | gone {bank calls owner} : host.remote = .service bank none →
      Hosts host ⟨[], calls, .gone, owner⟩

theorem remote_numberToken (token : Token) (host : Host) :
    (host.numberToken token).remote = host.remote := by
  unfold numberToken
  split <;> rfl

/-- A host whose worker is up answers a remote call by serving it. -/
theorem remotes_runs {bank : Bank} {w : Worker} (up : host.remote = .service bank (some w))
    (c : Remote.Call) : ∃ t bank' w', (w.serve c).Runs t ((remotes c host).1, w') ∧
      (remotes c host).2.remote = .service bank' (some w') := by
  have runs := runs_record StageState.handler (w.serve c) (host.machine, host.share host.bank bank)
  cases c with
  | play token r attributes =>
      simp only [Worker.serve, run_bind] at runs
      simp only [remotes, noted, servePlay, up, onWorker, remote_numberToken]
      exact ⟨_, _, _, runs, rfl⟩
  | stop token =>
      simp only [Worker.serve, run_bind] at runs
      simp only [remotes, noted, serveStop, up, onWorker, remote_numberToken]
      exact ⟨_, _, _, runs, rfl⟩
  | isPlaying token =>
      simp only [Worker.serve, run_bind] at runs
      simp only [remotes, noted, serveIsPlaying, up, onWorker, remote_numberToken]
      exact ⟨_, _, _, runs, rfl⟩

/-- Once the worker is gone every remote call is refused. -/
theorem remotes_gone {bank : Bank} (gone : host.remote = .service bank none) (c : Remote.Call) :
    (remotes c host).1 = c.unreached ∧ (remotes c host).2.remote = .service bank none := by
  cases c with
  | play token r attributes =>
      simp only [remotes, noted, servePlay, gone, remote_numberToken]
      exact ⟨rfl, trivial⟩
  | stop token =>
      simp only [remotes, noted, serveStop, gone, remote_numberToken]
      exact ⟨rfl, trivial⟩
  | isPlaying token =>
      simp only [remotes, noted, serveIsPlaying, gone, remote_numberToken]
      exact ⟨rfl, trivial⟩

/-- A remote call of the host is a call of the service, with the same answer. -/
theorem Hosts.remotes (hosts : Hosts host S) (run : Service.Run log S) {id : ι}
    (unmade : S.calls id = .unmade) (c : Remote.Call) :
    ∃ more S', Service.Run (log ++ more) S' ∧ Hosts (remotes c host).2 S' ∧
      S'.calls id = .returned c (Host.remotes c host).1 := by
  cases hosts with
  | up up =>
      obtain ⟨t, bank, w', runs, up'⟩ := remotes_runs up c
      have served := run.serves unmade runs
      exact ⟨_, _, by simpa only [List.append_assoc] using served, .up up', Function.update_self ..⟩
  | gone gone =>
      obtain ⟨refused, gone'⟩ := remotes_gone gone c
      rw [refused]
      exact ⟨_, _, run.refuses unmade, .gone gone', Function.update_self ..⟩

/-- When the host shuts its remote player down the service is shut down. -/
theorem Hosts.shutRemote (hosts : Hosts host S) (run : Service.Run log S) :
    ∃ more S', Service.Run (log ++ more) S' ∧ Hosts host.shutRemote S' ∧ S'.post = .gone := by
  cases hosts with
  | @up bank calls w up =>
      have runs :=
        runs_record StageState.handler w.shutDown (host.machine, host.share host.bank bank)
      have gone : ∃ bank, host.shutRemote.remote = .service bank none := by
        simp only [Host.shutRemote, up, onWorker]
        exact ⟨_, rfl⟩
      obtain ⟨bank', gone⟩ := gone
      have shut := run.shutsDown runs
      exact ⟨_, _, by simpa only [List.append_assoc] using shut, .gone gone, rfl⟩
  | gone gone =>
      have same : host.shutRemote = host := by simp only [Host.shutRemote, gone]
      refine ⟨[], _, by simpa using run, ?_, rfl⟩
      rw [same]
      exact .gone gone

end AlertSound.Host
