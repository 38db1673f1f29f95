import AlertSound.Json.Literal

/-!
JSON values to be written, in the form without spaces. Members keep their order.
-/
namespace AlertSound.Json

inductive Value where
  | null
  | number (n : Nat)
  | string (s : String)
  | object (members : List (String × Value))

mutual

def Value.chars : Value → List Char
  | .null => "null".toList
  | .number n => Nat.toDigits 10 n
  | .string s => literal s
  | .object members => '\x7b' :: Value.memberChars members ++ ['\x7d']

def Value.memberChars : List (String × Value) → List Char
  | [] => []
  | [(name, value)] => literal name ++ ':' :: value.chars
  | (name, value) :: rest => literal name ++ ':' :: value.chars ++ ',' :: Value.memberChars rest

end

def Value.text (value : Value) : String := String.ofList value.chars

end AlertSound.Json
