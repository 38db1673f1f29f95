import AlertSound.Config
import AlertSound.Settings.Default

/-!
What a locator stands for. The default of a kind is looked up in the settings
once; what is found there is not looked up again, so that a default which names
another default stands for nothing. Titles follow the same rule: a default's
title is made from the title of what it stands for.
-/
namespace AlertSound

/-- The sound to open, or none for a default that is not configured. -/
def resolveActual (r : Locator) : Program Resources (Option Locator) := do
  match r.origin with
  | .localFile | .mediaIndex | .drmIndex => return some r
  | .settingsDefault =>
    match r.defaultKind? with
    | none =>
      Resource.log .debug "resolve" "unrecognized default sound key" [("reference", .shown r.text)]
      return none
    | some kind =>
      match ← defaultLocator? kind with
      | none => return none
      | some actual =>
        if actual.origin = .settingsDefault then
          Resource.log .warn "resolve" "default sound points at another default"
            [("reference", .shown r.text), ("actual", .shown actual.text)]
          return none
        else return some actual

namespace Title

/-- Whether the title of a default is made from what it stands for. -/
inductive Indirection where
  | follow
  | stop
  deriving DecidableEq

/-- The title column of the only row, if there is one. -/
def indexed (r : Locator) : Program Resources (Except QueryError (Option String)) := do
  match titleColumns? r.origin with
  | none => return .ok none
  | some columns =>
    match ← Resource.query r columns with
    | .error e => return .error e
    | .ok cursor =>
      Resource.withCursor cursor do
        if (← Resource.count cursor) != 1 then return .ok none
        else if !(← Resource.moveToFirst cursor) then return .ok none
        else return .ok (← Resource.cell cursor (columns.length - 1))

/-- The title of a sound that is not a default. -/
def direct (r : Locator) : Program Resources (Option String) := do
  match r.origin with
  | .settingsDefault => return none
  | .localFile => return r.lastName?
  | .mediaIndex | .drmIndex =>
    match ← indexed r with
    | .ok (some title) => return some title
    | .ok none => return r.lastName?
    | .error e =>
      Resource.log .debug "resolve" "title query refused"
        [("reference", .shown r.text), ("error", .shown e.message)]
      return r.lastName?

def ofDefault (labels : Labels) (r : Locator) : Program Resources String := do
  match ← resolveActual r with
  | none => return labels.default
  | some actual => return labels.withActual ((← direct actual).getD labels.unknown)

def resolve (labels : Labels) (reference : Option Locator) (indirection : Indirection) :
    Program Resources String := do
  match reference with
  | none => return labels.unknown
  | some r =>
    if r.origin = .settingsDefault && indirection = .follow then ofDefault labels r
    else return (← direct r).getD labels.unknown

end Title
end AlertSound
