import TokenOutline.Url.Host

/-!
# Paths of segments

The segments of a path are walked from the left. A segment of one dot goes, one of two dots takes
the segment before it along unless that one names a drive, and either leaves an empty segment
behind when it is the last one. In a file URL a segment that is a letter and a bar or a colon, and
that no other segment stands before, names a drive: it is written with a colon and makes the host
go.
-/

namespace TokenOutline.Url

/-- A letter followed by a colon, or by a bar. -/
def isDrive : List Char → Bool
  | [c, d] => c.isAlpha && (d = ':' || d = '|')
  | _ => false

/-- A segment of one dot. -/
def isDot (segment : List Char) : Bool :=
  segment.map Char.toLower ∈ [".", "%2e"].map String.toList

/-- A segment of two dots. -/
def isDoubleDot (segment : List Char) : Bool :=
  segment.map Char.toLower ∈ ["..", "%2e.", ".%2e", "%2e%2e"].map String.toList

/-- The segments walked so far, the last one first, and whether the first one named a drive. -/
structure Walk where
  done : List (List Char)
  drive : Bool

/-- Take the last segment back, unless it names a drive. -/
def Walk.up (w : Walk) : Walk :=
  match w.done with
  | s :: ss => if isDrive s then w else { w with done := ss }
  | [] => w

/-- A segment added to the walk. -/
def Walk.add (w : Walk) (segment : List Char) : Walk := { w with done := segment :: w.done }

/-- An ordinary segment; in a file URL a drive is recognized at the head. -/
def Walk.ordinary (file : Bool) (w : Walk) (segment : List Char) : Walk :=
  if file && w.done.isEmpty && isDrive segment then ⟨[[segment.headD 'a', ':']], true⟩
  else w.add segment

/-- One segment, already encoded; `last` is whether no slash follows it. -/
def Walk.step (file : Bool) (w : Walk) (segment : List Char) (last : Bool) : Walk :=
  if isDoubleDot segment then (if last then w.up.add [] else w.up)
  else if isDot segment then (if last then w.add [] else w)
  else w.ordinary file segment

/-- Walk all segments. -/
def Walk.all (file : Bool) : List (List Char) → Walk → Walk
  | [], w => w
  | [s], w => w.step file s true
  | s :: ss, w => Walk.all file ss (w.step file s false)

/-- The segments without the empty ones that stand before another. -/
def dropEmptyHeads : List (List Char) → List (List Char)
  | [] :: s :: ss => dropEmptyHeads (s :: ss)
  | ss => ss

/-- The path of a text after its first slash, and whether it named a drive. -/
def readSegments (file special : Bool) (cs : List Char) : Path × Bool :=
  let parts := Text.splitOn (fun c => c = '/' || (special && c = '\\')) cs
  let w := Walk.all file (parts.map (Percent.encode Percent.inPath)) ⟨[], false⟩
  let segments := if file then dropEmptyHeads w.done.reverse else w.done.reverse
  (.segments (segments.map String.ofList), w.drive)

end TokenOutline.Url
