import TokenOutline.Text.Split

/-!
# Tables of characters

A table is written as a text of words with blanks and line ends between them. Codes stand in
hexadecimal digits in upper case; a span of codes is written as its first and its last code with a
hyphen between them, and a span of one code as that code.

* **`words`**, **`number`**, **`Span.ofWord`**: how a table is read.
* **`covers`**: whether a character is in one of the spans of a table.
-/

namespace TokenOutline.Text.Table

/-- Whether a character stands between words. -/
def isGap (c : Char) : Bool := c = ' ' || c = '\n'

/-- The words of a text. -/
def words (s : String) : List (List Char) :=
  let (done, word) := s.toList.foldl (fun (done, word) c =>
    if isGap c then (if word.isEmpty then (done, []) else (word.reverse :: done, []))
    else (done, c :: word)) (([], []) : List (List Char) × List Char)
  (if word.isEmpty then done else word.reverse :: done).reverse

/-- The value of a hexadecimal digit. -/
def digit (c : Char) : Nat := if c.isDigit then c.toNat - 48 else c.toNat - 55

/-- The number that hexadecimal digits write. -/
def number (digits : List Char) : Nat := digits.foldl (fun n c => n * 16 + digit c) 0

/-- The codes from one to another. -/
structure Span where
  first : Nat
  last : Nat
  deriving DecidableEq, Inhabited

/-- The span that a word writes. -/
def Span.ofWord (word : List Char) : Span :=
  match splitOn (· = '-') word with
  | [first, last] => ⟨number first, number last⟩
  | _ => ⟨number word, number word⟩

/-- Whether a code is in a span. -/
def Span.contains (s : Span) (code : Nat) : Bool := s.first ≤ code && code ≤ s.last

/-- The spans of a table. -/
def spans (s : String) : List Span := (words s).map Span.ofWord

/-- Whether a character is in one of some spans. -/
def covers (spans : List Span) (c : Char) : Bool := spans.any (·.contains c.toNat)

end TokenOutline.Text.Table
