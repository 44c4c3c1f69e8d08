import Bringup.Failure.Basic
import Bringup.Value.Integer

/-!
# Writing JSON

* `Json.text` : a text between quotes;
* `Json.chars` : the characters of a value, on one line without blanks;
* `Json.write` : a value as such a line, unless a whole number in it has no text.

Quote, backslash and the control characters below U+0020 are escaped; everything else stands as itself.
Instants become texts with a space between day and time.
-/

namespace Bringup.Json

/-- One hexadecimal digit in lower case. -/
def hexDigit (n : Nat) : Char := (Nat.digitChar n)

/-- One character inside quotes. -/
def escapeChar (c : Char) : List Char :=
  if c = '"' ∨ c = '\\' then ['\\', c]
  else if c = '\n' then ['\\', 'n']
  else if c = '\r' then ['\\', 'r']
  else if c = '\t' then ['\\', 't']
  else if c = '\x08' then ['\\', 'b']
  else if c = '\x0c' then ['\\', 'f']
  else if c.toNat < 0x20 then
    ['\\', 'u', '0', '0', hexDigit (c.toNat / 16), hexDigit (c.toNat % 16)]
  else [c]

/-- A text between quotes. -/
def text (s : String) : List Char := '"' :: s.toList.flatMap escapeChar ++ ['"']

mutual

/-- The characters of a value. -/
def chars : Value → List Char
  | .null => ['n', 'u', 'l', 'l']
  | .bool true => ['t', 'r', 'u', 'e']
  | .bool false => ['f', 'a', 'l', 's', 'e']
  | .int n => (toString n).toList
  | .float x => (x.text .json).toList
  | .str s => text s
  | .date t => text t.display
  | .list items => '[' :: itemChars items
  | .doc fields => '{' :: fieldChars fields

/-- The characters of the items of a list and of the bracket that closes it. -/
def itemChars : List Value → List Char
  | [] => [']']
  | [v] => chars v ++ [']']
  | v :: vs => chars v ++ ',' :: itemChars vs

/-- The characters of the fields of a document and of the brace that closes it. -/
def fieldChars : List (String × Value) → List Char
  | [] => ['}']
  | [(k, v)] => text k ++ ':' :: chars v ++ ['}']
  | (k, v) :: rest => text k ++ ':' :: chars v ++ ',' :: fieldChars rest

end

/-- A value on one line. -/
def write (v : Value) : Except Failure String :=
  if v.showable then .ok (String.ofList (chars v)) else .error (.ofRuntime .value unshowableText)

theorem write_eq_ok_iff {v : Value} {line : String} :
    write v = .ok line ↔ v.showable = true ∧ line.toList = chars v := by
  rw [write]
  split <;> rename_i h
  · constructor
    · intro hline
      obtain rfl := Except.ok.inj hline
      exact ⟨h, String.toList_ofList⟩
    · rintro ⟨-, hline⟩
      rw [← hline, String.ofList_toList]
  · refine iff_of_false (fun hline => ?_) fun hline => h hline.1
    cases hline

end Bringup.Json
