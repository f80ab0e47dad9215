import TokenOutline.Json.Basic

/-!
# Reading JSON text

Every reader takes the characters that are left and gives back what it read and the rest, or
`none` where the text is not JSON. The text is read from the left; an object keeps its members in
the order of the text, several of one name included.

* Depth: `Json.read` refuses arrays and objects nested `depthLimit` deep.
* Numbers: an integer that fits a 64-bit word (signed if negative) stays an integer. Any other
  number is a binary64 value: as many leading digits as fit 64 bits, scaled by the power of ten that
  remains in one multiplication or division, and refused if that is infinite.
-/

namespace TokenOutline.Json

/-- A blank between two tokens. -/
def isBlank (c : Char) : Bool := c = ' ' || c = '\t' || c = '\n' || c = '\r'

/-- The text after its leading blanks. -/
def skipBlanks (cs : List Char) : List Char := cs.dropWhile isBlank

/-! ## Numbers -/

/-- The greatest number of 64 bits. -/
def maxWord : Nat := 18446744073709551615

/-- The number of negative integers of 64 bits. -/
def halfWord : Nat := 9223372036854775808

/-- The value of a digit. -/
def digit (c : Char) : Nat := c.toNat - 48

/-- The leading digits that fit 64 bits, as a number, and how many digits follow them. -/
def leadingDigits : Nat → List Char → Nat × Nat
  | n, [] => (n, 0)
  | n, c :: cs => if maxWord < n * 10 + digit c then (n, cs.length + 1)
    else leadingDigits (n * 10 + digit c) cs

/-- `n · 10 ^ e` as a binary64 value; `none` if it is infinite. -/
def scaled (n : Nat) (e : Int) : Option Float :=
  go 20 (UInt64.ofNat n).toFloat e
where
  /-- Divide by `10 ^ 308` until the power of ten that is left is one of binary64. -/
  go : Nat → Float → Int → Option Float
    | 0, _, _ => some 0.0
    | k + 1, f, e =>
      if e.natAbs ≤ 308 then
        let power := Float.ofScientific 1 false e.natAbs
        if 0 ≤ e then (if (f * power).isInf then none else some (f * power)) else some (f / power)
      else if f == 0.0 then some f
      else if 0 ≤ e then none
      else go k (f / Float.ofScientific 1 false 308) (e + 308)

/-- A binary64 value with a sign. -/
def real (negative : Bool) (f : Float) : Number := .real (if negative then -f else f).toBits

/-- A number from its digits before the point, those after it and its exponent. -/
def number? (negative : Bool) (whole : List Char) (fraction : Option (List Char))
    (exponent : Option Int) : Option Number :=
  let (n, dropped) := leadingDigits 0 whole
  match fraction, exponent with
  | none, none =>
    if dropped = 0 && !(negative && (n = 0 || halfWord < n)) then
      some (.integer (if negative then -(n : Int) else n))
    else (scaled n dropped).map (real negative)
  | _, _ =>
    let (m, unread) := leadingDigits n (fraction.getD [])
    let places := (fraction.getD []).length - unread
    (scaled m ((dropped : Int) - places + exponent.getD 0)).map (real negative)

/-- An exponent after its `e`: a sign or none, and at least one digit. -/
def readExponent (cs : List Char) : Option (Int × List Char) :=
  let (negative, cs) := match cs with
    | '+' :: cs => (false, cs)
    | '-' :: cs => (true, cs)
    | cs => (false, cs)
  let ds := cs.takeWhile Char.isDigit
  if ds.isEmpty then none
  else
    -- six digits are past every exponent of binary64, whatever the digits before
    let e : Int := ((ds.dropWhile (· = '0')).take 6).foldl (fun n c => n * 10 + digit c) (0 : Nat)
    some (if negative then -e else e, cs.dropWhile Char.isDigit)

/-- A number after its sign. -/
def readNumber (negative : Bool) (cs : List Char) : Option (Number × List Char) := do
  let whole := cs.takeWhile Char.isDigit
  if whole.isEmpty || (whole.head? = some '0' && whole.length > 1) then none
  let cs := cs.dropWhile Char.isDigit
  let (fraction, cs) ← match cs with
    | '.' :: cs =>
      let ds := cs.takeWhile Char.isDigit
      if ds.isEmpty then none else some (some ds, cs.dropWhile Char.isDigit)
    | cs => some (none, cs)
  let (exponent, cs) ← match cs with
    | 'e' :: cs | 'E' :: cs => (readExponent cs).map fun (e, cs) => (some e, cs)
    | cs => some (none, cs)
  let n ← number? negative whole fraction exponent
  return (n, cs)

/-! ## Strings -/

/-- The value of a hexadecimal digit of either case. -/
def hexValue? (c : Char) : Option Nat :=
  if c.isDigit then some (digit c)
  else if 'a' ≤ c && c ≤ 'f' then some (c.toNat - 87)
  else if 'A' ≤ c && c ≤ 'F' then some (c.toNat - 55)
  else none

/-- The number that four hexadecimal digits write. -/
def hex4? (a b c d : Char) : Option Nat := do
  return (((← hexValue? a) * 16 + (← hexValue? b)) * 16 + (← hexValue? c)) * 16 + (← hexValue? d)

/-- The characters of a string after its opening quote, and the text after the closing one. -/
def readString : List Char → Option (List Char × List Char)
  | [] => none
  | '"' :: cs => some ([], cs)
  | '\\' :: 'u' :: a :: b :: c :: d :: cs =>
    match hex4? a b c d with
    | none => none
    | some n =>
      if 0xDC00 ≤ n && n < 0xE000 then none
      else if 0xD800 ≤ n && n < 0xDC00 then
        match cs with
        | '\\' :: 'u' :: a' :: b' :: c' :: d' :: cs =>
          match hex4? a' b' c' d' with
          | none => none
          | some m =>
            if 0xDC00 ≤ m && m < 0xE000 then
              (readString cs).map fun (s, cs) =>
                (Char.ofNat (0x10000 + (n - 0xD800) * 0x400 + (m - 0xDC00)) :: s, cs)
            else none
        | _ => none
      else (readString cs).map fun (s, cs) => (Char.ofNat n :: s, cs)
  | '\\' :: c :: cs =>
    match ([('"', '"'), ('\\', '\\'), ('/', '/'), ('b', '\x08'), ('f', '\x0c'), ('n', '\n'),
        ('r', '\r'), ('t', '\t')] : List (Char × Char)).lookup c with
    | some e => (readString cs).map fun (s, cs) => (e :: s, cs)
    | none => none
  | c :: cs =>
    if c.toNat < 0x20 || c = '\\' then none
    else (readString cs).map fun (s, cs) => (c :: s, cs)

/-! ## Values -/

/-- The items up to `close`, with commas between them; `fuel` bounds their number. -/
def readItems (close : Char) (item : List Char → Option (α × List Char)) :
    Nat → List Char → Option (List α × List Char)
  | 0, _ => none
  | fuel + 1, cs => do
    let (a, cs) ← item cs
    match skipBlanks cs with
    | [] => none
    | c :: cs =>
      if c = close then return ([a], cs)
      else if c = ',' then
        let (as, cs) ← readItems close item fuel cs
        return (a :: as, cs)
      else none

/-- A member of an object: a quoted name, a colon and a value. -/
def readMember (value : List Char → Option (Json × List Char)) (cs : List Char) :
    Option ((String × Json) × List Char) :=
  match skipBlanks cs with
  | '"' :: cs => do
    let (name, cs) ← readString cs
    match skipBlanks cs with
    | ':' :: cs =>
      let (v, cs) ← value cs
      return ((String.ofList name, v), cs)
    | _ => none
  | _ => none

/-- A literal name at the head of the text. -/
def readName (name : List Char) (v : Json) (cs : List Char) : Option (Json × List Char) :=
  if name.isPrefixOf cs then some (v, cs.drop name.length) else none

/-- One value at the head of the text, nested less than `depth` deep. -/
def readValue : Nat → List Char → Option (Json × List Char)
  | depth, cs =>
    match skipBlanks cs with
    | [] => none
    | 'n' :: cs => readName ['u', 'l', 'l'] .null cs
    | 't' :: cs => readName ['r', 'u', 'e'] (.bool true) cs
    | 'f' :: cs => readName ['a', 'l', 's', 'e'] (.bool false) cs
    | '"' :: cs => (readString cs).map fun (s, cs) => (.string (String.ofList s), cs)
    | '-' :: cs => (readNumber true cs).map fun (n, cs) => (.number n, cs)
    | '[' :: cs =>
      match depth with
      | 0 | 1 => none
      | depth + 1 =>
        match skipBlanks cs with
        | ']' :: cs => some (.array [], cs)
        | _ => (readItems ']' (readValue depth) (cs.length + 1) cs).map fun (es, cs) =>
          (.array es, cs)
    | '\x7b' :: cs =>
      match depth with
      | 0 | 1 => none
      | depth + 1 =>
        match skipBlanks cs with
        | '\x7d' :: cs => some (.object [], cs)
        | _ => (readItems '\x7d' (readMember (readValue depth)) (cs.length + 1) cs).map
            fun (ms, cs) => (.object ms, cs)
    | c :: cs =>
      if c.isDigit then (readNumber false (c :: cs)).map fun (n, cs) => (.number n, cs) else none

/-- How deep values may nest. -/
def depthLimit : Nat := 128

/-- A text that is one value and blanks. -/
def read (s : String) : Option Json :=
  match readValue depthLimit s.toList with
  | some (v, cs) => if (skipBlanks cs).isEmpty then some v else none
  | none => none

end TokenOutline.Json
