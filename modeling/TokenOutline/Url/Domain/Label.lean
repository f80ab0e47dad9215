import TokenOutline.Text.Composition
import TokenOutline.Text.Direction
import TokenOutline.Text.Joining
import TokenOutline.Url.Domain.Mapping
import TokenOutline.Url.Punycode

/-!
# Labels of domain names

The labels of a domain name stand between points. A label outside ASCII is written in ASCII by the
mark `xn--` and its code in Punycode, and a label that is written so stands for what it encodes.

* **`Label.decode?`**: what a label stands for, if it stands for anything.
* **`Label.isProper`**: whether marks and joiners of a label stand where they may.
* **`Label.keepsDirection`**: whether a label reads in one direction.
* **`Label.inAscii`**: how a label is written in ASCII.
-/

namespace TokenOutline.Url.Domain.Label

open Text

/-- Whether a text is in ASCII. -/
def isAscii (cs : List Char) : Bool := cs.all (·.toNat < 0x80)

/-- What tells an encoded label from an ordinary one. -/
def mark : List Char := ['x', 'n', '-', '-']

/-- A label in ASCII. -/
def inAscii (label : List Char) : List Char :=
  if isAscii label then label else mark ++ Punycode.encode label

/-! ## What a label stands for -/

/-- Whether a text may be what an encoded label stands for: in its one form, not in ASCII, of
characters that are kept as they are, and not itself encoded. -/
def isEncodable (cs : List Char) : Bool :=
  !isAscii cs && Composition.normalize cs = cs && cs.all (fun c => Mapping.image? c = some [c]) &&
    !mark.isPrefixOf cs

/-- What a label stands for, if it stands for anything. -/
def decode? (label : List Char) : Option (List Char) :=
  if mark.isPrefixOf label then (Punycode.decode? (label.drop mark.length)).filter isEncodable
  else some label

/-! ## Marks and joiners -/

/-- Whether a joiner may stand between the characters before it, read from their end, and those
after it: behind a sign that joins consonants, and one that keeps letters apart between letters
that would join. -/
def joinerFits (joiner : Char) (before after : List Char) : Bool :=
  before.head?.any Mark.isJoiner ||
    (joiner = '\u200C' &&
      (before.dropWhile Joining.isTransparent).head?.any Joining.joinsNext &&
      (after.dropWhile Joining.isTransparent).head?.any Joining.joinsPrevious)

/-- Whether all joiners may stand where they do, after the characters `before`. -/
def joinersFit : (before : List Char) → List Char → Bool
  | _, [] => true
  | before, c :: cs =>
    (if c = '\u200C' || c = '\u200D' then joinerFits c before cs else true) &&
      joinersFit (c :: before) cs

/-- Whether no mark stands at the head of a label, and all joiners may stand where they do. -/
def isProper (label : List Char) : Bool :=
  isAscii label || (!label.head?.any Mark.isMark && joinersFit [] label)

/-! ## Directions -/

/-- Whether a label is of a script that is written from right to left. -/
def hasRight (label : List Char) : Bool :=
  !isAscii label &&
    label.any fun c => Direction.of c ∈ [.right, .arabicLetter, .arabicNumber]

/-- The directions that are at home in either direction. -/
def common : List Direction :=
  [.europeanNumber, .numberSeparator, .numberSign, .commonSeparator, .mark, .boundary, .neutral]

/-- Whether directions are those of a label from left to right, which ends in a letter or number. -/
def readsLeft (ds : List Direction) (final : Option Direction) : Bool :=
  ds.all (fun d => d = .left || common.contains d) &&
    final.any fun d => d = .left || d = .europeanNumber

/-- Whether directions are those of a label from right to left, which ends in a letter or a number
and holds numbers of one kind. -/
def readsRight (ds : List Direction) (final : Option Direction) : Bool :=
  let right : List Direction := [.right, .arabicLetter, .arabicNumber]
  ds.all (fun d => right.contains d || common.contains d) &&
    final.any (fun d => right.contains d || d = .europeanNumber) &&
    !(ds.contains .europeanNumber && ds.contains .arabicNumber)

/-- Whether a label reads in the direction of its first character. -/
def keepsDirection (label : List Char) : Bool :=
  let ds := label.map Direction.of
  let final := ds.reverse.find? (· ≠ .mark)
  match ds with
  | [] => true
  | .left :: _ => readsLeft ds final
  | .right :: _ | .arabicLetter :: _ => readsRight ds final
  | _ => false

end TokenOutline.Url.Domain.Label
