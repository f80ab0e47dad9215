import TokenOutline.Url.Basic
import TokenOutline.Url.Error
import TokenOutline.Url.Percent
import TokenOutline.Url.Domain.Basic

/-!
# Hosts

A host in brackets is an address of eight groups. Any other host is kept as it is by a scheme of
its own making, and is a domain name for the schemes that have hosts: its `%` sequences are
decoded, its letters are made lower case, its labels outside ASCII are written in Punycode, and a
name whose last label is a number is an address of 32 bits.
-/

namespace TokenOutline.Url

open Text (splitOn)

/-! ## Numbers -/

/-- The value of a digit in a base up to 16. -/
def digitIn? (base : Nat) (c : Char) : Option Nat :=
  let v? := if c.isDigit then some (c.toNat - 48)
    else if 'a' ≤ c && c ≤ 'f' then some (c.toNat - 87)
    else if 'A' ≤ c && c ≤ 'F' then some (c.toNat - 55)
    else none
  v?.filter (· < base)

/-- The number that digits of a base write. -/
def numberIn? (base : Nat) (cs : List Char) : Option Nat :=
  cs.foldl (fun n? c => do return (← n?) * base + (← digitIn? base c)) (some 0)

/-! ## Addresses of 32 bits -/

/-- A part of an address: hexadecimal after `0x`, octal after a zero, decimal otherwise. -/
def v4Number? (cs : List Char) : Option Nat :=
  match cs with
  | [] => none
  | '0' :: 'x' :: ds | '0' :: 'X' :: ds => numberIn? 16 ds
  | '0' :: d :: ds => numberIn? 8 (d :: ds)
  | ds => numberIn? 10 ds

/-- The labels of a name without an empty last one. -/
def labelsOf (name : List Char) : List (List Char) :=
  let parts := splitOn (· = '.') name
  if 1 < parts.length && parts.getLast? = some [] then parts.dropLast else parts

/-- Whether the last label is a number, so that the name has to be an address. -/
def endsInNumber (name : List Char) : Bool :=
  match (labelsOf name).getLast? with
  | some label => (!label.isEmpty && label.all Char.isDigit) || (v4Number? label).isSome
  | none => false

/-- The address of its parts, the last of which fills the octets that are left. -/
def v4OfParts? : List Nat → Option Nat
  | [] => none
  | numbers =>
    let last := numbers.getLast?.getD 0
    let heads := numbers.dropLast
    let room := Nat.pow 256 (4 - heads.length)
    if 4 < numbers.length || heads.any (255 < ·) || room ≤ last then none
    else some (heads.foldl (fun n x => n * 256 + x) 0 * room + last)

/-- An address of up to four parts. -/
def readV4 (name : List Char) : Except Error Host :=
  match (labelsOf name).mapM v4Number? with
  | some numbers =>
    match v4OfParts? numbers with
    | some address => .ok (.v4 address)
    | none => .error .invalidV4
  | none => .error .invalidV4

/-! ## Addresses of eight groups -/

/-- One group: one to four hexadecimal digits. -/
def group? (cs : List Char) : Option Nat :=
  if cs.isEmpty || 4 < cs.length then none else numberIn? 16 cs

/-- One of the four decimal numbers that may end an address, without leading zeros. -/
def octet? (cs : List Char) : Option Nat :=
  match cs with
  | [] => none
  | ['0'] => some 0
  | '0' :: _ => none
  | cs => (numberIn? 10 cs).filter (· < 256)

/-- Two groups written as four decimal numbers. -/
def dotted? (cs : List Char) : Option (List Nat) :=
  match (splitOn (· = '.') cs).mapM octet? with
  | some [a, b, c, d] => some [a * 256 + b, c * 256 + d]
  | _ => none

/-- Groups with colons between them; the last two may be dotted where that is allowed. -/
def groups? (dottedEnd : Bool) (cs : List Char) : Option (List Nat) :=
  if cs.isEmpty then some []
  else
    let parts := splitOn (· = ':') cs
    match parts.getLast? with
    | none => some []
    | some last =>
      if dottedEnd && last.contains '.' then do
        return (← parts.dropLast.mapM group?) ++ (← dotted? last)
      else parts.mapM group?

/-- The text before the first `::` and the text after it. -/
def splitGap : List Char → Option (List Char × List Char)
  | [] => none
  | ':' :: ':' :: cs => some ([], cs)
  | c :: cs => (splitGap cs).map fun (before, after) => (c :: before, after)

/-- The eight groups of an address. -/
def v6Groups? (cs : List Char) : Option (List Nat) :=
  match splitGap cs with
  | some (before, after) => do
    let heads ← groups? false before
    let tails ← groups? true after
    if heads.length + tails.length ≤ 7 then
      some (heads ++ List.replicate (8 - heads.length - tails.length) 0 ++ tails)
    else none
  | none => (groups? true cs).filter (·.length = 8)

/-- An address in brackets, given after the opening one. -/
def readV6 (cs : List Char) : Except Error Host :=
  match cs.getLast?, v6Groups? cs.dropLast with
  | some ']', some groups => .ok (.v6 groups)
  | _, _ => .error .invalidV6

/-! ## Names -/

/-- A character that no domain name may hold. -/
def forbiddenInDomain (c : Char) : Bool :=
  c.toNat ≤ 0x20 || c.toNat = 0x7F ||
    ['%', '#', '/', ':', '<', '>', '?', '@', '[', '\\', ']', '^', '|'].contains c

/-- A character that no host of a scheme without domain names may hold. -/
def forbiddenInOpaque (c : Char) : Bool :=
  ['\x00', '\t', '\n', '\r', ' ', '#', '/', ':', '<', '>', '?', '@', '[', '\\', ']', '^',
    '|'].contains c

/-- The host of a scheme that has domain names. -/
def readDomain (cs : List Char) : Except Error Host :=
  match cs with
  | '[' :: cs => readV6 cs
  | cs =>
    match (Utf8.decode? (Percent.decodeOctets (Utf8.encode cs))).bind Domain.toAscii? with
    | none => .error .invalidName
    | some name =>
      if name.any forbiddenInDomain then .error .invalidName
      else if name.isEmpty then .error .emptyHost
      else if endsInNumber name then readV4 name
      else .ok (.name (String.ofList name))

/-- The host of any other scheme. -/
def readOpaque (cs : List Char) : Except Error Host :=
  match cs with
  | [] => .ok .empty
  | '[' :: cs => readV6 cs
  | cs =>
    if cs.any forbiddenInOpaque then .error .invalidCharacter
    else .ok (.name (String.ofList (Percent.encode Percent.isControl cs)))

end TokenOutline.Url
