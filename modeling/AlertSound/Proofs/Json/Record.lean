import AlertSound.Json.Value
import AlertSound.Proofs.Json.Dictionary

/-!
Records are read back from objects without spaces. Each member is read in one step, as long as
its field is asked for and has not been read yet.
-/
namespace AlertSound.Json

variable {ρ : Type} {fields : List (Field ρ)} {field : Field ρ} {fuel : Nat} {first : Bool}
  {record record' : ρ} {name : String} {cs rest after : List Char}

/-- A text is read where it begins. -/
theorem string_of_literal (s : String) (cs : List Char) :
    string (literal s ++ cs) = .ok (s, cs) := by
  have text : literal s ++ cs = '"' :: (s.toList.flatMap escape ++ '"' :: cs) := by simp [literal]
  rw [text]
  exact readContent_literal s cs

theorem member_of_literal (name : String) (cs : List Char) :
    member true (literal name ++ cs) = .ok (.key name cs) ∧
      member false (',' :: (literal name ++ cs)) = .ok (.key name cs) := by
  have text : literal name ++ cs = '"' :: (name.toList.flatMap escape ++ '"' :: cs) := by
    simp [literal]
  have key : Json.key (literal name ++ cs) = .ok (name, cs) :=
    Dictionary.key_of_skipBlanks (by rw [text]; rfl)
  rw [text] at key ⊢
  constructor
  · simp [member, skipBlanks, isBlank, key, Except.map]
  · simp [member, skipBlanks, isBlank, key, Except.map]

theorem members_field (named : member first cs = .ok (.key name (':' :: rest)))
    (found : fields.find? (·.name == name) = some field) (unset : field.isSet record = false)
    (read : field.read record rest = .ok (record', after)) :
    members fields (fuel + 1) first record cs = members fields fuel false record' after := by
  have colon : colon (':' :: rest) = .ok rest := rfl
  simp [members, named, found, unset, colon, read, bind, Except.bind]

end AlertSound.Json
