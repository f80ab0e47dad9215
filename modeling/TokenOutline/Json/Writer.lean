import TokenOutline.Json.Basic
import TokenOutline.Decimal.Shortest

/-!
# Compact JSON text

`Json.text` writes a value without blanks, with the members of an object in the order in which the
value holds them. A string escapes the quote, the backslash and the characters below `U+0020`, five
of them by a letter and the rest by `\u` and four digits; every other character stands for itself.
-/

namespace TokenOutline.Json

/-- Numbers that are not integers are positional from `0.00001` to below `10 ^ 16`. -/
def Number.layout : Decimal.Layout := ⟨-5, 15⟩

/-- The text of a number. -/
def Number.chars : Number → List Char
  | .integer i => (toString i).toList
  | .real bits => Number.layout.textOfBits bits

/-- A hexadecimal digit in lower case. -/
def hexDigit (n : Nat) : Char := Nat.digitChar (n % 16)

/-- A character as it stands inside a quoted string. -/
def escape (c : Char) : List Char :=
  if c = '"' then ['\\', '"']
  else if c = '\\' then ['\\', '\\']
  else if c = '\x08' then ['\\', 'b']
  else if c = '\t' then ['\\', 't']
  else if c = '\n' then ['\\', 'n']
  else if c = '\x0c' then ['\\', 'f']
  else if c = '\r' then ['\\', 'r']
  else if c.toNat < 0x20 then ['\\', 'u', '0', '0', hexDigit (c.toNat / 16), hexDigit c.toNat]
  else [c]

/-- A string in quotes. -/
def quoted (s : String) : List Char := '"' :: s.toList.flatMap escape ++ ['"']

mutual

/-- The compact text of a value. -/
def chars : Json → List Char
  | .null => ['n', 'u', 'l', 'l']
  | .bool true => ['t', 'r', 'u', 'e']
  | .bool false => ['f', 'a', 'l', 's', 'e']
  | .number n => n.chars
  | .string s => quoted s
  | .array es => '[' :: elementsChars es ++ [']']
  | .object ms => '\x7b' :: membersChars ms ++ ['\x7d']
termination_by structural v => v

/-- The elements of an array with commas between them. -/
def elementsChars : List Json → List Char
  | [] => []
  | [e] => chars e
  | e :: es => chars e ++ ',' :: elementsChars es
termination_by structural es => es

/-- The members of an object with commas between them. -/
def membersChars : List (String × Json) → List Char
  | [] => []
  | [m] => memberChars m
  | m :: ms => memberChars m ++ ',' :: membersChars ms
termination_by structural ms => ms

/-- One member: its name, a colon and its value. -/
def memberChars : String × Json → List Char
  | (k, v) => quoted k ++ ':' :: chars v
termination_by structural m => m

end

/-- The compact text of a value. -/
def text (v : Json) : String := String.ofList v.chars

end TokenOutline.Json
