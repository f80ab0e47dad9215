/-!
# UTF-8

A scalar value is written as one to four octets; the first of them tells how many follow and how
the second is bounded. `Utf8.pieces` cuts any octets into scalar values and broken pieces: a broken
piece is as long as it could still have been the beginning of a scalar value, and at least one
octet.

* `Utf8.decode?` reads octets that are scalar values throughout.
* `Utf8.decodeLossy` shows each broken piece as `U+FFFD`.
-/

namespace TokenOutline.Utf8

/-- The octets of a text. -/
def encode (cs : List Char) : List UInt8 := cs.flatMap String.utf8EncodeChar

/-- How many octets follow a first octet, the bounds of the one after it and the bits that the
first one carries; `none` if no scalar value begins with it. -/
def lead? (b : UInt8) : Option (Nat × UInt8 × UInt8 × Nat) :=
  if b < 0x80 then some (0, 0x80, 0xBF, b.toNat)
  else if b < 0xC2 then none
  else if b < 0xE0 then some (1, 0x80, 0xBF, b.toNat - 0xC0)
  else if b = 0xE0 then some (2, 0xA0, 0xBF, 0)
  else if b = 0xED then some (2, 0x80, 0x9F, 13)
  else if b < 0xF0 then some (2, 0x80, 0xBF, b.toNat - 0xE0)
  else if b = 0xF0 then some (3, 0x90, 0xBF, 0)
  else if b < 0xF4 then some (3, 0x80, 0xBF, b.toNat - 0xF0)
  else if b = 0xF4 then some (3, 0x80, 0x8F, 4)
  else none

/-- Read `more` following octets, the first within the bounds: the code and the number of octets
that are missing. -/
def follow (code : Nat) : (more : Nat) → (low high : UInt8) → List UInt8 → Nat × Nat
  | 0, _, _, _ => (code, 0)
  | more + 1, _, _, [] => (code, more + 1)
  | more + 1, low, high, b :: bs =>
    if low ≤ b && b ≤ high then follow (code * 64 + (b.toNat - 0x80)) more 0x80 0xBF bs
    else (code, more + 1)

/-- The head of the octets: a scalar value or a broken piece, and how many octets follow the first
one in it. -/
def head (b : UInt8) (bs : List UInt8) : Option Char × Nat :=
  match lead? b with
  | none => (none, 0)
  | some (more, low, high, bits) =>
    match follow bits more low high bs with
    | (code, 0) => (some (Char.ofNat code), more)
    | (_, missing) => (none, more - missing)

/-- Octets cut into scalar values and broken pieces; `skip` octets belong to the piece before. -/
def pieces : (skip : Nat) → List UInt8 → List (Option Char)
  | _, [] => []
  | skip + 1, _ :: bs => pieces skip bs
  | 0, b :: bs => (head b bs).1 :: pieces (head b bs).2 bs

/-- The text that the octets write, if they write one. -/
def decode? (bs : List UInt8) : Option (List Char) := (pieces 0 bs).mapM id

/-- The text of the octets with `U+FFFD` for every broken piece. -/
def decodeLossy (bs : List UInt8) : List Char := (pieces 0 bs).map (·.getD '\uFFFD')

end TokenOutline.Utf8
