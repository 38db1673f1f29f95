import AlertSound.Session
import AlertSound.Proofs.Trace

/-!
The runs of opening a session's sound. A restore pass is made, what the sound stands for is looked
up, a player is prepared for it, and what has come of it is noted: every run has these parts, in
this order, and nothing else.
-/
namespace AlertSound.Session

open Program

variable {s s' : Session} {r : Locator} {t : Trace Studio}

/-- A pass is made first. One that is disabled asks nothing. -/
theorem afterRestore_runs {config : RestoreConfig} {p : Program Studio Session}
    (runs : (if config.enabled = true then do
      let _ ← liftM (Restore.all config)
      p
    else p).Runs t s') :
    ∃ u n v, t = u.map (fun e => e.left.left) ++ v ∧ (Restore.all config).Runs u n ∧
      p.Runs v s' := by
  split at runs
  · obtain ⟨n, w, v, rfl, pass, rest⟩ := runs_bind.mp runs
    obtain ⟨x, rfl, staged⟩ := runs_left.mp (lift_left_left _ ▸ pass)
    obtain ⟨u, rfl, restores⟩ := runs_left.mp staged
    exact ⟨u, n, v, by rw [List.map_map]; rfl, restores, rest⟩
  · rename_i disabled
    have idle : Restore.all config = pure 0 := by simp [Restore.all, disabled]
    exact ⟨[], 0, t, rfl, idle ▸ runs_done.mpr ⟨rfl, rfl⟩, runs⟩

/-- Opening is followed by a note of what has come of it. -/
theorem openReference_runs (runs : (s.openReference r).Runs t s') :
    ∃ u n v opened entry, (Restore.all s.restore).Runs u n ∧ (s.openHere r).Runs v opened ∧
      t = u.map (fun e => e.left.left) ++ (v.map Event.left ++ [⟨.inl (.inl (.log entry)), ()⟩]) ∧
      s' = match opened with
        | .ok player => { s with backing := .held player }
        | .error _ => s := by
  simp only [openReference] at runs
  obtain ⟨u, n, rest, rfl, restores, runs⟩ := afterRestore_runs runs
  obtain ⟨opened, x, y, rfl, opens, noted⟩ := runs_bind.mp runs
  obtain ⟨v, rfl, here⟩ := runs_left.mp (lift_left _ ▸ opens)
  have note {level message fields} {s₁ : Session}
      (noted : (do log level message fields; return s₁ : Program Studio Session).Runs y s') :
      ∃ entry, y = [⟨.inl (.inl (.log entry)), ()⟩] ∧ s' = s₁ := by
    obtain ⟨answer, z, rfl, done⟩ := runs_call.mp noted
    obtain ⟨rfl, rfl⟩ := runs_done.mp done
    exact ⟨_, rfl, rfl⟩
  refine ⟨u, n, v, opened, ?_⟩
  cases opened with
  | ok player =>
      obtain ⟨entry, rfl, rfl⟩ := note noted
      exact ⟨entry, restores, here, rfl, rfl⟩
  | error e =>
      simp only at noted
      split at noted
      · obtain ⟨entry, rfl, rfl⟩ := note noted
        exact ⟨entry, restores, here, rfl, rfl⟩
      · obtain ⟨entry, rfl, rfl⟩ := note noted
        exact ⟨entry, restores, here, rfl, rfl⟩

theorem openHere_runs {v : Trace Stage} {opened : Except OpenError Player}
    (runs : (s.openHere r).Runs v opened) :
    ∃ x found y, (resolveActual r).Runs x found ∧ v = x.map Event.left ++ y ∧
      match found with
      | none => y = [] ∧ opened = .error (.unresolved r)
      | some actual => ∃ result,
          (Player.openPrepared (.locator actual) s.attributes).Runs y result ∧
          opened = result.mapError .engine := by
  obtain ⟨found, u, y, rfl, first, rest⟩ := runs_bind.mp runs
  obtain ⟨x, rfl, resolves⟩ := runs_left.mp (lift_left _ ▸ first)
  refine ⟨x, found, y, resolves, rfl, ?_⟩
  cases found with
  | none => exact (runs_done.mp rest).imp_right Eq.symm
  | some actual =>
      obtain ⟨result, y, z, rfl, opens, done⟩ := runs_bind.mp rest
      cases result with
      | ok player =>
          obtain ⟨rfl, rfl⟩ := runs_done.mp done
          exact ⟨_, by simpa using opens, rfl⟩
      | error e =>
          obtain ⟨rfl, rfl⟩ := runs_done.mp done
          exact ⟨_, by simpa using opens, rfl⟩

end AlertSound.Session
