import TokenOutline.Text.Utf8

/-!
# Percent encoding

An octet that may not stand for itself is written as `%` and two hexadecimal digits. Octets that
are not ASCII never stand for themselves; which ASCII characters do not is up to the part of the
URL.

* **`Percent.decode`** reads every well-formed `%` sequence as its octet and keeps all else.
-/

namespace TokenOutline.Url.Percent

/-! ## The sets of characters that are encoded -/

/-- A control character or one that is not ASCII. -/
def isControl (c : Char) : Bool := c.toNat < 0x20 || 0x7E < c.toNat

/-- Encoded in a query. -/
def inQuery (c : Char) : Bool := isControl c || [' ', '"', '#', '<', '>'].contains c

/-- Encoded in the query of a scheme with a host of its own. -/
def inSpecialQuery (c : Char) : Bool := inQuery c || c = '\''

/-- Encoded in a fragment. -/
def inFragment (c : Char) : Bool := isControl c || [' ', '"', '<', '>', '\x60'].contains c

/-- Encoded in a path. -/
def inPath (c : Char) : Bool := inFragment c || ['#', '?', '\x7b', '\x7d'].contains c

/-- Encoded in credentials. -/
def inCredentials (c : Char) : Bool :=
  inPath c || ['/', ':', ';', '=', '@', '[', '\\', ']', '^', '|'].contains c

/-! ## Encoding and decoding -/

/-- A hexadecimal digit in upper case. -/
def hexDigit (n : Nat) : Char := (Nat.digitChar (n % 16)).toUpper

/-- An octet as `%` and two digits. -/
def encodeOctet (b : UInt8) : List Char := ['%', hexDigit (b.toNat / 16), hexDigit b.toNat]

/-- A text with the characters of a set encoded. -/
def encode (set : Char → Bool) (cs : List Char) : List Char :=
  cs.flatMap fun c => if set c then (String.utf8EncodeChar c).flatMap encodeOctet else [c]

/-- The value of a hexadecimal digit of either case, given as an octet. -/
def hexValue? (b : UInt8) : Option UInt8 :=
  if 48 ≤ b && b ≤ 57 then some (b - 48)
  else if 65 ≤ b && b ≤ 70 then some (b - 55)
  else if 97 ≤ b && b ≤ 102 then some (b - 87)
  else none

/-- The octets with every `%` sequence replaced by the octet it writes. -/
def decodeOctets : List UInt8 → List UInt8
  | [] => []
  | 37 :: a :: b :: bs =>
    match hexValue? a, hexValue? b with
    | some x, some y => (x * 16 + y) :: decodeOctets bs
    | _, _ => 37 :: decodeOctets (a :: b :: bs)
  | b :: bs => b :: decodeOctets bs

/-- The octets that a text with `%` sequences stands for. -/
def decode (s : String) : List UInt8 := decodeOctets (Utf8.encode s.toList)

end TokenOutline.Url.Percent
