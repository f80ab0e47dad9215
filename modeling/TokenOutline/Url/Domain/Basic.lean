import TokenOutline.Url.Domain.Label

/-!
# Domain names

A domain name is brought to lower case ASCII. Its characters are taken as their table says and
composed, and then each label is taken for what it stands for. If one label is of a script that is
written from right to left, every label has to read in one direction.

* **`Domain.toAscii?`**: the name in ASCII, if it is one.
-/

namespace TokenOutline.Url.Domain

open Text

/-- The labels that stand between the points of a text. -/
def labels (cs : List Char) : List (List Char) := splitOn (· = '.') cs

/-- The characters of a name as they are taken, composed. -/
def normalize? (cs : List Char) : Option (List Char) :=
  (cs.mapM Mapping.image?).map fun images => Composition.normalize images.flatten

/-- What the labels of a name stand for, if all of them may stand beside one another. -/
def labels? (name : List Char) : Option (List (List Char)) := do
  let labels ← (labels name).mapM Label.decode?
  guard (labels.all Label.isProper)
  guard (!labels.any Label.hasRight || labels.all Label.keepsDirection)
  return labels

/-- A name in ASCII, if it is one. -/
def toAscii? (cs : List Char) : Option (List Char) := do
  let labels ← labels? (← normalize? cs)
  return ['.'].intercalate (labels.map Label.inAscii)

end TokenOutline.Url.Domain
