/-!
# Texts in parts

A text is cut at every character that separates; where two of them meet, and at the ends, the part
between is empty.

* **`splitOn`**: the parts.
-/

namespace TokenOutline.Text

/-- A text cut at every occurrence of a separator. -/
def splitOn (isSeparator : Char → Bool) : List Char → List (List Char)
  | [] => [[]]
  | c :: cs =>
    match splitOn isSeparator cs with
    | part :: parts => if isSeparator c then [] :: part :: parts else (c :: part) :: parts
    | [] => [[c]]

/-- There is at least one part. -/
theorem splitOn_ne_nil (isSeparator : Char → Bool) (cs : List Char) :
    splitOn isSeparator cs ≠ [] := by
  cases cs with
  | nil => simp [splitOn]
  | cons c cs =>
    simp only [splitOn]
    split
    · split <;> simp
    · simp

end TokenOutline.Text
