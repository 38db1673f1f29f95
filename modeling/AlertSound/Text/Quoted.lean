import AlertSound.Text.Extending
import AlertSound.Text.Percent
import AlertSound.Text.Unprintable

/-!
Text between quotes, as messages show a value that may hold anything. A quote
and a backslash get a backslash, four controls have a letter, and characters
that would not be seen, or would attach to the quote, are written by number.
-/
namespace AlertSound.Text

/-- Lower-case hexadecimal without leading zeros. -/
def hexText (n : Nat) : List Char := Nat.toDigits 16 n

def quotedChar (c : Char) : List Char :=
  if c = '\x00' then ['\\', '0']
  else if c = '\t' then ['\\', 't']
  else if c = '\r' then ['\\', 'r']
  else if c = '\n' then ['\\', 'n']
  else if c = '"' then ['\\', '"']
  else if c = '\\' then ['\\', '\\']
  else if isExtending c || isUnprintable c then
    ['\\', 'u', '\x7b'] ++ hexText c.toNat ++ ['\x7d']
  else [c]

def quoted (s : String) : String :=
  String.ofList ('"' :: s.toList.flatMap quotedChar ++ ['"'])

end AlertSound.Text
