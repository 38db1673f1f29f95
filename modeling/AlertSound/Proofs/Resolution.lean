import AlertSound.Proofs.Trace
import AlertSound.Session

/-!
What a locator stands for. Resolving asks the settings once at most, what it comes to
is no default, and to resolve that again changes nothing and asks nothing. Titles and
the restore pass ask the resources too, but neither opens the bundled sound or asks how
loud a stream is.
-/
namespace AlertSound

open Program

def Resource.Call.readsSetting : Resource.Call → Bool
  | .setting _ => true
  | _ => false

/-- What the resources said in `t` never lets the locator stand for anything. -/
def NeverResolves (r : Locator) (t : Trace Resources) : Prop :=
  ∀ u v w actual, t = u ++ v ++ w → (resolveActual r).Runs v actual → actual = none

theorem resolveActual_of_ne {r : Locator} (h : r.origin ≠ .settingsDefault) :
    resolveActual r = pure (some r) := by
  unfold resolveActual
  split
  · rfl
  · rfl
  · rfl
  · rename_i default
    exact absurd default h

theorem resolveActual_ensures (r : Locator) :
    (resolveActual r).Ensures fun t result =>
      t.countP (fun e => e.call.readsSetting) ≤ 1 ∧
        ∀ actual, result = some actual → actual.origin ≠ .settingsDefault := by
  by_cases default : r.origin = .settingsDefault
  · have once (kind : DefaultKind) : (defaultLocator? kind).Ensures fun t _ =>
        t.countP (fun e => e.call.readsSetting) ≤ 1 := by
      simp only [defaultLocator?, Resource.setting, ensures_bind, ensures_call, ensures_done]
      intro raw
      cases raw with
      | none => simp [Resource.Call.readsSetting]
      | some raw =>
          simp only
          split
          · simp [Resource.Call.readsSetting]
          · simp [Resource.log, Resource.Call.readsSetting]
    simp only [resolveActual, default]
    cases r.defaultKind? with
    | none => simp [Resource.log, Resource.Call.readsSetting]
    | some kind =>
        refine (once kind).bind fun t result read => ?_
        cases result with
        | none => simpa using read
        | some actual =>
            simp only
            split
            · simpa [Resource.log, Resource.Call.readsSetting] using read
            · rename_i other
              simpa [other] using read
  · rw [resolveActual_of_ne default]
    simpa using default

def Resource.unset : Event Resources → Bool
  | ⟨.setting _, some _⟩ => false
  | _ => true

theorem neverResolves_of_unset {r : Locator} {t : Trace Resources}
    (default : r.origin = .settingsDefault) (unset : ∀ e ∈ t, Resource.unset e = true) :
    NeverResolves r t := by
  have nothing : (resolveActual r).Ensures fun v actual =>
      (∀ e ∈ v, Resource.unset e = true) → actual = none := by
    simp only [resolveActual, default]
    cases r.defaultKind? with
    | none => simp [Resource.log]
    | some kind =>
        simp only [defaultLocator?, Resource.setting, ensures_bind, ensures_call, ensures_done]
        intro answer
        cases answer with
        | none => simp
        | some raw =>
            refine .of_forall fun u found => .of_forall fun v actual unset => ?_
            cases unset ⟨.setting kind.settingKey, some raw⟩ List.mem_cons_self
  intro u v w actual same runs
  subst same
  exact nothing runs fun e he => unset e (by simp [he])

def Resource.Call.Quiet (c : Resource.Call) : Prop := c ≠ .openAsset

/-- The calls that look things up or set them right: neither is a level asked for nor the
bundled sound opened. -/
def Resource.Call.Looks : Resource.Call → Prop
  | .volume _ | .openAsset => False
  | _ => True

def Resource.Call.Finds : Resource.Call → Prop
  | .volume _ | .putSetting _ _ | .openAsset | .duplicate _ => False
  | _ => True

def Resource.Call.Reads : Resource.Call → Prop
  | .setting _ | .log _ => True
  | _ => False

open Resource.Call (Quiet Looks Finds Reads)

theorem Program.Asks.quiet {α : Type} {p : Program Resources α} (h : p.Asks Looks) :
    p.Asks Quiet :=
  h.mono fun c looks same => by
    subst same
    exact looks

theorem Program.Asks.looks {α : Type} {p : Program Resources α} (h : p.Asks Finds) :
    p.Asks Looks :=
  h.mono fun c finds => by
    cases c with
    | volume _ | putSetting _ _ | openAsset | duplicate _ => exact finds.elim
    | _ => trivial

theorem withCursor_asks {α : Type} {P : Resource.Call → Prop} {work : Program Resources α}
    {cursor : CursorId} (close : P (.close cursor)) (h : work.Asks P) :
    (Resource.withCursor cursor work).Asks P :=
  .bind h fun _ => .bind (.request close) fun _ => .pure _

theorem defaultLocator?_reads (kind : DefaultKind) : (defaultLocator? kind).Asks Reads := by
  refine .bind (.request trivial) fun raw => ?_
  split
  · exact .pure _
  · split
    · exact .pure _
    · exact .bind (.request trivial) fun _ => .pure _

theorem resolveActual_reads (r : Locator) : (resolveActual r).Asks Reads := by
  unfold resolveActual
  split
  · exact .pure _
  · exact .pure _
  · exact .pure _
  · split
    · exact .bind (.request trivial) fun _ => .pure _
    · refine .bind (defaultLocator?_reads _) fun found => ?_
      split
      · exact .pure _
      · split
        · exact .bind (.request trivial) fun _ => .pure _
        · exact .pure _

theorem Fallback.replacesDefaultRingtone_reads (reference : Option Locator) :
    (replacesDefaultRingtone reference).Asks Reads := by
  unfold replacesDefaultRingtone
  split
  · exact .pure _
  · split
    · exact .bind (resolveActual_reads _) fun _ => .pure _
    · exact .pure _

theorem Program.Asks.finds {α : Type} {p : Program Resources α} (h : p.Asks Reads) :
    p.Asks Finds :=
  h.mono fun c reads => by
    cases c with
    | setting _ | log _ => trivial
    | _ => exact reads.elim

theorem resolveActual_finds (r : Locator) : (resolveActual r).Asks Finds :=
  (resolveActual_reads r).finds

theorem resolveActual_looks (r : Locator) : (resolveActual r).Asks Looks :=
  (resolveActual_finds r).looks

theorem Fallback.replacesDefaultRingtone_looks (reference : Option Locator) :
    (replacesDefaultRingtone reference).Asks Looks :=
  (replacesDefaultRingtone_reads reference).finds.looks

namespace Title

theorem indexed_finds (r : Locator) : (indexed r).Asks Finds := by
  unfold indexed
  split
  · exact .pure _
  · refine .bind (.request trivial) fun found => ?_
    split
    · exact .pure _
    · refine withCursor_asks trivial (.bind (.request trivial) fun rows => ?_)
      split
      · exact .pure _
      · refine .bind (.request trivial) fun moved => ?_
        split
        · exact .pure _
        · exact .bind (.request trivial) fun _ => .pure _

theorem direct_finds (r : Locator) : (direct r).Asks Finds := by
  unfold direct
  split
  · exact .pure _
  · exact .pure _
  all_goals
    refine .bind (indexed_finds r) fun title => ?_
    split
    · exact .pure _
    · exact .pure _
    · exact .bind (.request trivial) fun _ => .pure _

theorem resolve_finds (labels : Labels) (reference : Option Locator) (indirection : Indirection) :
    (resolve labels reference indirection).Asks Finds := by
  unfold resolve
  split
  · exact .pure _
  · split
    · refine .bind (resolveActual_finds _) fun actual => ?_
      split
      · exact .pure _
      · exact .bind (direct_finds _) fun _ => .pure _
    · exact .bind (direct_finds _) fun _ => .pure _

theorem resolve_looks (labels : Labels) (reference : Option Locator) (indirection : Indirection) :
    (resolve labels reference indirection).Asks Looks := (resolve_finds ..).looks

end Title

namespace Restore

theorem stillExists_finds (raw : String) : (stillExists raw).Asks Finds := by
  unfold stillExists
  split
  · exact .bind (.request trivial) fun _ => .pure _
  · refine .bind (.request trivial) fun found => ?_
    split
    · exact .pure _
    · exact withCursor_asks trivial (.bind (.request trivial) fun _ => .pure _)

theorem repoint_looks (key current fileName : String) (cursor : CursorId) :
    (repoint key current fileName cursor).Asks Looks := by
  unfold repoint
  refine .bind (.request trivial) fun rows => ?_
  split
  · exact .bind (.request trivial) fun _ => .pure _
  · refine .bind (.request trivial) fun moved => ?_
    split
    · exact .bind (.request trivial) fun _ => .pure _
    · refine .bind (.request trivial) fun cell => ?_
      split
      · exact .pure _
      · refine .bind (.request trivial) fun put => ?_
        split
        · exact .pure _
        · exact .bind (.request trivial) fun _ => .pure _

theorem one_looks (config : RestoreConfig) (kind : DefaultKind) : (one config kind).Asks Looks := by
  unfold one
  refine .bind (.request trivial) fun current => ?_
  split
  · exact .pure _
  · refine .bind (stillExists_finds _).looks fun there => ?_
    split
    · exact .pure _
    · exact .pure _
    · split
      · exact .bind (.request trivial) fun _ => .pure _
      · refine .bind (.request trivial) fun found => ?_
        split
        · exact .pure _
        · exact withCursor_asks trivial (repoint_looks _ _ _ _)

theorem each_looks (config : RestoreConfig) (kinds : List DefaultKind) :
    (each config kinds).Asks Looks := by
  induction kinds with
  | nil => exact .pure _
  | cons kind kinds ih =>
      refine .bind (one_looks config kind) fun restored => ?_
      split
      · exact .bind ih fun _ => .pure _
      · exact .bind (.request trivial) fun _ => ih

theorem all_looks (config : RestoreConfig) : (all config).Asks Looks := by
  unfold all
  split
  · exact each_looks config _
  · exact .pure _

end Restore
end AlertSound
