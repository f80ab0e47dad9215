import TokenOutline.Text.Unprintable

/-!
# Text in quotes for a message

A message quotes text so that every character of it can be seen: the quote and the backslash are
escaped, and a character without a shape of its own stands as its code in hexadecimal digits.
-/

namespace TokenOutline.Text

/-- A code in braces, in lower case hexadecimal digits. -/
def escapedCode (c : Char) : List Char :=
  ['\\', 'u', '\x7b'] ++ Nat.toDigits 16 c.toNat ++ ['\x7d']

/-- A character as it stands inside the quotes. -/
def shown (c : Char) : List Char :=
  if c = '\x00' then ['\\', '0']
  else if c = '\t' then ['\\', 't']
  else if c = '\n' then ['\\', 'n']
  else if c = '\r' then ['\\', 'r']
  else if c = '"' then ['\\', '"']
  else if c = '\\' then ['\\', '\\']
  else if c.toNat < 0x20 then escapedCode c
  else if c.toNat < 0x7F then [c]
  else if c.toNat < 0xA0 || Unprintable.isUnprintable c then escapedCode c
  else [c]

/-- A text in quotes, with its characters shown. -/
def quote (s : String) : String := String.ofList ('"' :: s.toList.flatMap shown ++ ['"'])

end TokenOutline.Text
