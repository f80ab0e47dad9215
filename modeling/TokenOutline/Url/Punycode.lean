/-!
# Punycode

A label with characters outside ASCII is written as its ASCII characters, a hyphen, and the others
in ascending order of their codes, each as the distance from the one before in a number system
whose digits have thresholds that adapt to the distances seen.

* **`Punycode.encode`**, **`Punycode.decode?`**: a label in ASCII, and the label of an ASCII form.
-/

namespace TokenOutline.Url.Punycode

/-- The digit of a value below 36: letters first. -/
def digit (d : Nat) : Char := if d < 26 then Char.ofNat (97 + d) else Char.ofNat (22 + d)

/-- The value of a digit, in either case. -/
def digit? (c : Char) : Option Nat :=
  if c.isDigit then some (c.toNat - 22)
  else if c.isAlpha then some (c.toLower.toNat - 97)
  else none

/-- The threshold of the digit at a position. -/
def threshold (position bias : Nat) : Nat := min 26 (max 1 (position - bias))

/-- A distance in digits, the least significant first; `fuel` bounds their number. -/
def distance (bias : Nat) : (fuel position : Nat) → Nat → List Char
  | 0, _, _ => []
  | fuel + 1, position, q =>
    let t := threshold position bias
    if q < t then [digit q]
    else digit (t + (q - t) % (36 - t)) :: distance bias fuel (position + 36) ((q - t) / (36 - t))

/-- Divide by 35 while the distance is above 455; gives the number of divisions and the rest. -/
def damp : (fuel : Nat) → Nat → Nat × Nat
  | 0, d => (0, d)
  | fuel + 1, d => if 455 < d then let (k, d) := damp fuel (d / 35); (k + 1, d) else (0, d)

/-- The bias after a distance, with `count` characters placed. -/
def adapt (distance count : Nat) (first : Bool) : Nat :=
  let d := if first then distance / 700 else distance / 2
  let (k, d) := damp 32 (d + d / count)
  36 * k + 36 * d / (d + 38)

/-! ## Writing -/

/-- What the encoder keeps while it goes over a label. -/
structure State where
  output : List Char
  delta : Nat
  bias : Nat
  placed : Nat

/-- Go over one character while the code `code` is placed. -/
def State.visit (ascii code : Nat) (s : State) (c : Char) : State :=
  if c.toNat < code then { s with delta := s.delta + 1 }
  else if c.toNat = code then
    { output := s.output ++ distance s.bias 32 36 s.delta, delta := 0,
      bias := adapt s.delta (s.placed + 1) (s.placed = ascii), placed := s.placed + 1 }
  else s

/-- Place every code of the list, in ascending order; `next` is the least code not yet passed. -/
def State.place (label : List Char) (ascii : Nat) : (next : Nat) → List Nat → State → State
  | _, [], s => s
  | next, code :: codes, s =>
    let s := { s with delta := s.delta + (code - next) * (s.placed + 1) }
    let s := label.foldl (State.visit ascii code) s
    State.place label ascii (code + 1) codes { s with delta := s.delta + 1 }

/-- Codes in ascending order, each once. -/
def insertCode (code : Nat) : List Nat → List Nat
  | [] => [code]
  | n :: ns => if code < n then code :: n :: ns else if code = n then n :: ns
    else n :: insertCode code ns

/-- The ASCII form of a label, without the mark that tells it from an ordinary one. -/
def encode (label : List Char) : List Char :=
  let ascii := label.filter (·.toNat < 128)
  let codes := (label.filter (128 ≤ ·.toNat)).foldr (fun c ns => insertCode c.toNat ns) []
  let start := if ascii.isEmpty then [] else ascii ++ ['-']
  (State.place label ascii.length 128 codes ⟨start, 0, 72, ascii.length⟩).output

/-! ## Reading -/

/-- What the decoder keeps while it goes over the digits: the characters placed, the code and the
place where the next distance begins, and of the distance that is being read its value so far, the
weight and the position of its next digit. -/
structure Reading where
  output : List Char
  code : Nat
  place : Nat
  bias : Nat
  distance : Nat
  weight : Nat
  position : Nat

/-- Where a distance has been read: place the character it leads to. -/
def Reading.arrive? (s : Reading) : Option Reading :=
  let count := s.output.length + 1
  let at_ := s.place + s.distance
  let code := s.code + at_ / count
  if code.isValidChar then
    some ⟨s.output.take (at_ % count) ++ Char.ofNat code :: s.output.drop (at_ % count), code,
      at_ % count + 1, adapt s.distance count (s.place = 0), 0, 1, 36⟩
  else none

/-- Take one digit. -/
def Reading.take? (s : Reading) (c : Char) : Option Reading := do
  let d ← digit? c
  let t := threshold s.position s.bias
  let s := { s with distance := s.distance + d * s.weight }
  if d < t then s.arrive?
  else return { s with weight := s.weight * (36 - t), position := s.position + 36 }

/-- The label of an ASCII form without its mark, if it is one. -/
def decode? (cs : List Char) : Option (List Char) :=
  let digits := (cs.reverse.takeWhile (· ≠ '-')).reverse
  let ascii := cs.take (cs.length - digits.length - 1)
  let digits := if ascii.isEmpty then cs else digits
  match digits.foldlM Reading.take? ⟨ascii, 128, 0, 72, 0, 1, 36⟩ with
  | some s => if s.position = 36 then some s.output else none
  | none => none

end TokenOutline.Url.Punycode
