import TokenOutline.Server.Message
import TokenOutline.Json.Reader
import TokenOutline.Text.Blank
import TokenOutline.Text.Split
import TokenOutline.Text.Utf8

/-!
# Frames

On a stream a message is a block of at most two header fields and a body, whose length in octets a
field tells. A frame is read from the octets that have arrived; one that has not arrived in full is
read when more has.

* **`Frame.read`**: the next frame of a stream, if it has arrived, or what is wrong with it.
* **`Frame.header`**: the header of a body.
-/

namespace TokenOutline.Server.Frame

/-! ## Header blocks -/

/-- What stands at the head of the octets that have arrived. -/
inductive Block where
  /-- Not yet a whole block. -/
  | incomplete
  /-- No block. -/
  | malformed
  /-- The fields of a block, and the octets after it. -/
  | complete (fields : List (List UInt8 × List UInt8)) (rest : List UInt8)

/-- An octet that may stand in the name of a field. -/
def isNameOctet (b : UInt8) : Bool :=
  (97 ≤ b && b ≤ 122) || (65 ≤ b && b ≤ 90) || (48 ≤ b && b ≤ 57) ||
    [33, 35, 36, 37, 38, 39, 42, 43, 45, 46, 94, 95, 96, 124, 126].contains b

/-- A blank inside a line. -/
def isBlankOctet (b : UInt8) : Bool := b = 32 || b = 9

/-- An octet that may stand in the value of a field. -/
def isValueOctet (b : UInt8) : Bool := b = 9 || (32 ≤ b && b ≠ 127)

/-- The value without the blanks after it. -/
def trimEnd (value : List UInt8) : List UInt8 := (value.reverse.dropWhile isBlankOctet).reverse

/-- What stands at the head of the octets where a field is expected. -/
inductive Field where
  /-- Not yet a whole line. -/
  | incomplete
  /-- No field. -/
  | malformed
  /-- The name and the value of a field, and the octets after its line. -/
  | complete (name value rest : List UInt8)

/-- Read one field. -/
def readField (bs : List UInt8) : Field :=
  match bs.takeWhile isNameOctet, bs.dropWhile isNameOctet with
  | [], _ => .malformed
  | _, [] => .incomplete
  | name, 58 :: bs =>
    let bs := bs.dropWhile isBlankOctet
    let value := trimEnd (bs.takeWhile isValueOctet)
    match bs.dropWhile isValueOctet with
    | [] | [13] => .incomplete
    | 13 :: 10 :: rest | 10 :: rest => .complete name value rest
    | _ => .malformed
  | _, _ => .malformed

/-- Read a block of at most `slots` fields; one field more is read before it is refused. -/
def readBlock : (slots : Nat) → List UInt8 → Block
  | _, [] | _, [13] => .incomplete
  | _, 13 :: 10 :: rest | _, 10 :: rest => .complete [] rest
  | slots, bs =>
    match readField bs, slots with
    | .incomplete, _ => .incomplete
    | .malformed, _ | .complete .., 0 => .malformed
    | .complete name value rest, slots + 1 =>
      match readBlock slots rest with
      | .complete fields rest => .complete ((name, value) :: fields) rest
      | b => b

/-- The octets of an ASCII text. -/
def octets (s : String) : List UInt8 := Utf8.encode s.toList

/-- The number of octets that a value tells: digits, maybe after a plus sign, of at most 64 bits. -/
def lengthOf? (value : List UInt8) : Option Nat :=
  let digits := if value.head? = some 43 then value.drop 1 else value
  if digits.isEmpty || !digits.all fun b => 48 ≤ b && b ≤ 57 then none
  else (some (digits.foldl (fun n b => n * 10 + (b.toNat - 48)) 0)).filter (· ≤ Json.maxWord)

/-- Whether a media type says that the body is UTF-8: the first of its parameters that names a
character set decides. -/
def saysUtf8 (value : List UInt8) : Bool :=
  let charset := "charset=".toList
  match Utf8.decode? value with
  | none => false
  | some text =>
    match (((Text.splitOn (· = ';') text).drop 1).map Text.trimBlanks).find? charset.isPrefixOf with
    | some p => [charset ++ "utf-8".toList, charset ++ "utf8".toList].contains p
    | none => false

/-- The length of the body that the fields tell; other fields do not count. -/
def bodyLength? : List (List UInt8 × List UInt8) → (sofar : Option Nat) → Option Nat
  | [], sofar => sofar
  | (name, value) :: fields, sofar =>
    if name = octets "Content-Length" then
      match lengthOf? value with
      | some n => bodyLength? fields (some n)
      | none => none
    else if name = octets "Content-Type" then
      if saysUtf8 value then bodyLength? fields sofar else none
    else bodyLength? fields sofar

/-! ## Bodies -/

/-- What a body holds. -/
inductive Content where
  | message (message : Message)
  /-- A response, which answers nothing that the server asked. -/
  | response
  deriving DecidableEq

/-- The content of a body, or how it is refused. -/
def contentOf (body : List UInt8) : Except Refusal Content :=
  match (Utf8.decode? body).bind (Json.readValue Json.depthLimit) with
  | none => .error .parseError
  | some (v, rest) =>
    let content? := if isResponse v then some .response else (Message.ofJson? v).map .message
    match content? with
    | none => .error .invalidRequest
    | some content =>
      if (Json.skipBlanks rest).isEmpty then .ok content else .error .parseError

/-! ## Reading -/

/-- What reading gives. -/
inductive Result where
  /-- Nothing before more arrives. -/
  | more
  | content (content : Content)
  | broken (why : Refusal)
  deriving DecidableEq

/-- What is left of some octets, and the length of the body that they begin with if its header has
been read. -/
structure Rest where
  octets : List UInt8
  length : Option Nat
  deriving DecidableEq, Inhabited

/-- Read a body of a known length; an empty body gives nothing. -/
def readBody (bs : List UInt8) (length : Nat) : Rest × Result :=
  if bs.length < length then (⟨bs, some length⟩, .more)
  else
    let rest : Rest := ⟨bs.drop length, none⟩
    if length = 0 then (rest, .more)
    else
      match contentOf (bs.take length) with
      | .ok content => (rest, .content content)
      | .error why => (rest, .broken why)

/-- Read the next frame. -/
def read (r : Rest) : Rest × Result :=
  match r.length with
  | some length => readBody r.octets length
  | none =>
    match readBlock 2 r.octets with
    | .incomplete => (r, .more)
    | .malformed => (r, .broken .parseError)
    | .complete fields rest =>
      match bodyLength? fields none with
      | some length => readBody rest length
      | none => (⟨rest, none⟩, .broken .parseError)

/-- Read the next frame after the last octet has arrived: what is left over is no frame. -/
def readLast (r : Rest) : Rest × Result :=
  match read r with
  | (r, .more) => if r.octets.isEmpty then (r, .more) else (r, .broken .parseError)
  | other => other

/-! ## Writing -/

/-- The header of a body of the given text. -/
def header (body : String) : String := "Content-Length: " ++ toString body.utf8ByteSize

/-- The octets of a message on a stream. -/
def encode (v : Json) : List UInt8 := octets (header v.text ++ "\r\n\r\n" ++ v.text)

end TokenOutline.Server.Frame
