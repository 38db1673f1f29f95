import AlertSound.Playback.Engine
import AlertSound.Proofs.Resolution

/-!
What comes of an output that handles connect to, one after another. Connecting asks for
nothing, it only logs. As long as it fails it is tried again; once it has succeeded every
handle gets the stream that is open, and once there is no device every handle is refused
in the same words, and none is looked for.
-/
namespace AlertSound

open Program Resource.Call

namespace Output

variable {output : Output} {line line' line'' : Line} {result : Except EngineError Audio}
  {results : List (Except EngineError Audio)}

theorem openStream_reads (output : Output) (attempt : Nat) :
    (output.openStream attempt).Asks Reads := by
  refine .bind (.request trivial) fun _ => ?_
  split
  · exact .pure _
  · simp only
    split
    · exact .pure _
    · exact .bind (.request trivial) fun _ => .pure _
    · exact .bind (.request trivial) fun _ => .pure _

theorem connect_reads (output : Output) (line : Line) : (output.connect line).Asks Reads := by
  unfold connect
  split
  · exact .pure _
  · simp only
    split
    · exact .bind (.request trivial) fun _ => .pure _
    · exact .pure _
  · refine .bind (output.openStream_reads _) fun opened => ?_
    split
    · exact .pure _
    · exact .pure _

def unavailable (details : String) : Except EngineError Audio :=
  .error (.outputUnavailable details)

inductive Connects (line : Line) : Except EngineError Audio → Line → Prop where
  | again {audio} : line.link = .opened audio → Connects line (.ok audio) line
  | refused {details refusals warned} : line.link = .gone details →
      Connects line (unavailable details) { line with refusals, warned }
  | opened (audio) : line.link = .closed →
      Connects line (.ok audio) { line with attempts := line.attempts + 1, link := .opened audio }
  | failed (details) : line.link = .closed →
      Connects line (unavailable details)
        { line with attempts := line.attempts + 1, link := .closed }
  | gone (details) : line.link = .closed →
      Connects line (unavailable details)
        { line with attempts := line.attempts + 1, link := .gone details }

theorem connect_ensures (output : Output) (line : Line) :
    (output.connect line).Ensures fun _ left => Connects line left.1 left.2 := by
  unfold connect
  split
  · rename_i link
    exact ensures_pure.mpr (.again link)
  · rename_i details link
    have refused : Connects line (unavailable details) (output.refuse line).2 := .refused link
    simp only
    split
    · exact .bind (.of_forall fun _ _ => trivial) fun _ _ _ => ensures_pure.mpr refused
    · exact ensures_pure.mpr refused
  · rename_i link
    refine .bind (.of_forall fun _ _ => trivial) fun _ opened _ => ?_
    split
    · exact ensures_pure.mpr (.opened _ link)
    · rename_i details
      refine ensures_pure.mpr ?_
      cases tellsNoDevice details with
      | true => exact .gone details link
      | false => exact .failed details link

inductive Connected (output : Output) (line : Line) :
    List (Except EngineError Audio) → Line → Prop where
  | start : Connected output line [] line
  | snoc {earlier now t answer next} : Connected output line earlier now →
      (output.connect now).Runs t (answer, next) →
      Connected output line (earlier ++ [answer]) next

def settled? : Link → Option (Except EngineError Audio)
  | .closed => none
  | .opened audio => some (.ok audio)
  | .gone details => some (unavailable details)

/-- Attempts fail until the output settles, and from then on no attempt is made. -/
inductive Settles (line line' : Line) : List (Except EngineError Audio) → Prop where
  | unsettled {failed} : settled? line'.link = none →
      (∀ answer ∈ failed, ∃ details, answer = unavailable details) →
      line'.attempts = line.attempts + failed.length → Settles line line' failed
  | settled {failed answer n} : settled? line'.link = some answer →
      (∀ answer ∈ failed, ∃ details, answer = unavailable details) →
      line'.attempts = line.attempts + failed.length + 1 →
      Settles line line' (failed ++ List.replicate (n + 1) answer)

theorem Settles.step (h : Settles line line' results) (connects : Connects line' result line'') :
    Settles line line'' (results ++ [result]) := by
  cases h with
  | unsettled closed failed attempts =>
      cases connects with
      | again link | refused link => simp [settled?, link] at closed
      | opened audio link =>
          exact .settled (n := 0) rfl failed (congrArg (· + 1) attempts)
      | gone details link =>
          exact .settled (n := 0) rfl failed (congrArg (· + 1) attempts)
      | failed details link =>
          refine .unsettled rfl ?_ ?_
          · exact List.forall_mem_append.mpr ⟨failed, List.forall_mem_singleton.mpr ⟨_, rfl⟩⟩
          · simp only [List.length_append, List.length_singleton, ← Nat.add_assoc, attempts]
  | settled settled failed attempts =>
      rw [List.append_assoc]
      cases connects with
      | again link | refused link =>
          simp only [settled?, link, Option.some.injEq] at settled
          subst settled
          rw [← List.replicate_succ']
          exact .settled (by simp [settled?, link]) failed attempts
      | opened _ link | gone _ link | failed _ link => simp [settled?, link] at settled

/-- However often handles connect, an output is tried until it settles and no further. -/
theorem Connected.settles (h : Connected output line results line')
    (closed : line.link = .closed) : Settles line line' results := by
  induction h with
  | start => exact .unsettled (by simp [settled?, closed]) nofun rfl
  | snoc _ runs ih => exact ih.step (connect_ensures output _ runs)

end Output

theorem EngineHandle.prepare_reads (kind : EngineKind) (line : Line) (handle : EngineHandle) :
    (prepare kind line handle).Asks Reads := by
  unfold prepare
  split
  · exact .pure _
  · exact .pure _
  · refine .bind (Output.connect_reads ..) fun connected => ?_
    split
    · exact .pure _
    · split
      · exact .pure _
      · exact .pure _
  · exact .pure _

end AlertSound
