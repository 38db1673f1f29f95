import AlertSound.Collaborators
import AlertSound.Proofs.Dealing
import AlertSound.Proofs.Playback.Custody

/-!
Collaborators of a session whose answers depend on the question only. A library is the
index, the settings, the levels and the bundled sound. A workshop is an engine: what comes
of opening depends on the source and the attributes, and what a handle does depends on what
was asked of that handle.
-/
namespace AlertSound

open Function

/-- Answers of the resources. A cursor is in some state `K`. -/
structure Library (K : Type) where
  volume : SoundStream → Nat
  setting : String → Option String
  putSetting : String → String → Except SettingsError Unit
  query : Locator → List Column → Except QueryError K
  find : String → Except QueryError K
  count : K → Nat
  moveToFirst : K → Bool × K
  cell : K → Nat → Option String
  close : K → K
  asset : Except AssetError Asset
  duplicate : FileNode → Except IoError FileNode

structure Workshop (H : Type) where
  make : Source → Attributes → Except EngineError H
  prepare : H → Except EngineError Unit × H
  start : H → Except EngineError Unit × H
  stop : H → H
  reset : H → H
  release : H → H
  isPlaying : H → Bool

variable {K H : Type}

def Library.dealing (library : Library K) : (c : Resource.Call) → Dealing K (Resources.Answer c)
  | .volume stream => .tells (library.volume stream)
  | .setting key => .tells (library.setting key)
  | .putSetting key value => .tells (library.putSetting key value)
  | .query r columns => .opens (library.query r columns)
  | .find name => .opens (library.find name)
  | .count cursor => .uses cursor 0 fun k => (library.count k, k)
  | .moveToFirst cursor => .uses cursor false library.moveToFirst
  | .cell cursor column => .uses cursor none fun k => (library.cell k column, k)
  | .close cursor => .uses cursor () fun k => ((), library.close k)
  | .openAsset => .tells library.asset
  | .duplicate file => .tells (library.duplicate file)
  | .log _ => .tells ()

namespace Workshop

variable (shop : Workshop H)

def dealing : (c : Engine.Call) → Dealing H (Engines.Answer c)
  | .openSource source attributes => .opens (shop.make source attributes)
  | .prepare handle => .uses handle (.ok ()) shop.prepare
  | .start handle => .uses handle (.ok ()) shop.start
  | .stop handle => .uses handle () fun h => ((), shop.stop h)
  | .reset handle => .uses handle () fun h => ((), shop.reset h)
  | .release handle => .uses handle () fun h => ((), shop.release h)
  | .isPlaying handle => .uses handle false fun h => (shop.isPlaying h, h)

abbrev conduct : Conduct Engines (Table H) := Dealing.conduct shop.dealing

theorem operation_of_uses {c : Engine.Call} {name : Nat} {blank : Engines.Answer c}
    {use : H → Engines.Answer c × H} (h : shop.dealing c = .uses name blank use) :
    ∃ operation, c.operation? = some (name, operation) := by
  cases c with
  | openSource source attributes =>
      simp only [dealing] at h
      cases made : shop.make source attributes with
      | error e => rw [made] at h; cases h
      | ok thing => rw [made] at h; cases h
  | prepare _ | start _ | stop _ | reset _ | release _ | isPlaying _ => cases h; exact ⟨_, rfl⟩

/-- A handle stays as it is as long as nothing is asked of it. -/
theorem frame {t : Trace Engines} {T T' : Table H} (path : shop.conduct.Path t T T')
    {handle : HandleId} {h : H} (known : T handle = some h)
    (other : ∀ e ∈ t, ∀ operation, e.call.operation? ≠ some (handle, operation)) :
    T' handle = some h := by
  induction t generalizing T with
  | nil => exact path ▸ known
  | cons e t ih =>
      obtain ⟨T₁, first, rest⟩ := path
      refine ih rest ?_ fun e mem => other e (List.mem_cons_of_mem _ mem)
      refine Dealing.Follows.frame first known fun used blank use same => ?_
      obtain ⟨operation, asked⟩ := shop.operation_of_uses same
      rintro rfl
      exact other e List.mem_cons_self operation asked

/-- What is left of a handle that is only kept if the call did not fail. -/
def unlessFailed (r : Except EngineError Unit × H) : Option H := r.1.toOption.map fun _ => r.2

def readied (source : Source) (attributes : Attributes) : Option H :=
  (shop.make source attributes).toOption.bind fun h => unlessFailed (shop.prepare h)

def begun (source : Source) (attributes : Attributes) : Option H :=
  (shop.readied source attributes).bind fun h => unlessFailed (shop.start h)

end Workshop

/-- What a session and its remote player rely on: a library, an engine for the session, and
an engine for the remote player. -/
structure Premises (K H D : Type) where
  library : Library K
  engine : Workshop H
  service : Workshop D

end AlertSound
