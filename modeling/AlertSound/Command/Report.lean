import AlertSound.Collaborators

/-!
Reports of failures: a message and what caused it, each cause by the next one.
Causes are indented, and numbered if there are several.
-/
namespace AlertSound.Command

structure Report where
  message : String
  causes : List String
  deriving DecidableEq

namespace Report

/-- The lines of a cause after its first are indented too. -/
def indented (first indent cause : String) : String :=
  "\n" ++ first ++ ("\n" ++ indent).intercalate (cause.splitOn "\n")

def numbered (n : Nat) : List String → String
  | [] => ""
  | cause :: rest =>
    let number := toString n
    indented ("".pushn ' ' (5 - number.length) ++ number ++ ": ") "       " cause ++
      numbered (n + 1) rest

def causesText : List String → String
  | [] => ""
  | [cause] => "\n\nCaused by:" ++ indented "    " "    " cause
  | causes => "\n\nCaused by:" ++ numbered 0 causes

def text (report : Report) : String := "Error: " ++ report.message ++ causesText report.causes

end Report
end AlertSound.Command

namespace AlertSound

/-- The error and what it comes from. -/
def SettingsError.chain (e : SettingsError) : List String :=
  e.message :: match e with
    | .io cause => [cause.message]
    | .format failure => [failure.message]
    | .poisoned => []

end AlertSound
