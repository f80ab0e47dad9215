/-!
# JSON values

A JSON value is plain data. An object holds its members as a list of pairs, so the order in which
a reader visits them is the order of that list; `Json.sorted` puts the members of every object in
ascending order of their names and keeps the last of several members of one name.

Numbers keep the difference that JSON text makes between `1` and `1.0`: a number written without a
fraction and an exponent, and small enough for a 64-bit word, is an integer; every other number is
a binary64 value, held as its 64 bits.

* **`Json.decEq`**: equality of JSON values is decidable.
-/

namespace TokenOutline

/-- A number of a JSON text. -/
inductive Json.Number where
  /-- An integer of any sign. -/
  | integer (value : Int)
  /-- A finite binary64 value, by its bits. -/
  | real (bits : UInt64)
  deriving DecidableEq, Inhabited

/-- A JSON value; the members of an object are kept in a list. -/
inductive Json where
  | null
  | bool (value : Bool)
  | number (value : Json.Number)
  | string (value : String)
  | array (elements : List Json)
  | object (members : List (String × Json))
  deriving Inhabited

namespace Json

/-- A natural number as a JSON integer. -/
def ofNat (n : Nat) : Json := .number (.integer n)

/-- An integer as a JSON integer. -/
def ofInt (i : Int) : Json := .number (.integer i)

/-- The text of `some`, and `null` for `none`. -/
def ofOption (encode : α → Json) : Option α → Json
  | some a => encode a
  | none => .null

/-- The value of a member of an object; anything else has no members. -/
def member? (name : String) : Json → Option Json
  | .object ms => ms.lookup name
  | _ => none

/-! ## Equality -/

mutual

/-- Equality of two values is decidable. -/
def decEq : (a b : Json) → Decidable (a = b)
  | .null, .null => isTrue rfl
  | .bool a, .bool b => if h : a = b then isTrue (by rw [h]) else isFalse (by simpa using h)
  | .number a, .number b => if h : a = b then isTrue (by rw [h]) else isFalse (by simpa using h)
  | .string a, .string b => if h : a = b then isTrue (by rw [h]) else isFalse (by simpa using h)
  | .array a, .array b =>
    match decEqElements a b with
    | isTrue h => isTrue (by rw [h])
    | isFalse h => isFalse (by simpa using h)
  | .object a, .object b =>
    match decEqMembers a b with
    | isTrue h => isTrue (by rw [h])
    | isFalse h => isFalse (by simpa using h)
  | .null, .bool _ | .null, .number _ | .null, .string _ | .null, .array _ | .null, .object _
  | .bool _, .null | .bool _, .number _ | .bool _, .string _ | .bool _, .array _ | .bool _, .object _
  | .number _, .null | .number _, .bool _ | .number _, .string _ | .number _, .array _
  | .number _, .object _
  | .string _, .null | .string _, .bool _ | .string _, .number _ | .string _, .array _
  | .string _, .object _
  | .array _, .null | .array _, .bool _ | .array _, .number _ | .array _, .string _
  | .array _, .object _
  | .object _, .null | .object _, .bool _ | .object _, .number _ | .object _, .string _
  | .object _, .array _ => isFalse (by simp)
termination_by structural a => a

/-- Equality of two lists of elements is decidable. -/
def decEqElements : (a b : List Json) → Decidable (a = b)
  | [], [] => isTrue rfl
  | [], _ :: _ | _ :: _, [] => isFalse (by simp)
  | a :: as, b :: bs =>
    match decEq a b, decEqElements as bs with
    | isTrue h, isTrue h' => isTrue (by rw [h, h'])
    | isFalse h, _ => isFalse (by simp [h])
    | _, isFalse h => isFalse (by simp [h])
termination_by structural a => a

/-- Equality of two lists of members is decidable. -/
def decEqMembers : (a b : List (String × Json)) → Decidable (a = b)
  | [], [] => isTrue rfl
  | [], _ :: _ | _ :: _, [] => isFalse (by simp)
  | a :: as, b :: bs =>
    match decEqMember a b, decEqMembers as bs with
    | isTrue h, isTrue h' => isTrue (by rw [h, h'])
    | isFalse h, _ => isFalse (by simp [h])
    | _, isFalse h => isFalse (by simp [h])
termination_by structural a => a

/-- Equality of two members is decidable. -/
def decEqMember : (a b : String × Json) → Decidable (a = b)
  | (k, a), (l, b) =>
    match instDecidableEqString k l, decEq a b with
    | isTrue h, isTrue h' => isTrue (by rw [h, h'])
    | isFalse h, _ => isFalse (by simp [h])
    | _, isFalse h => isFalse (by simp [h])
termination_by structural a => a

end

instance : DecidableEq Json := decEq

/-! ## The order of members -/

/-- Put a member in its place among members in ascending order; an earlier one of its name goes. -/
def insertMember (name : String) (value : Json) : List (String × Json) → List (String × Json)
  | [] => [(name, value)]
  | (k, v) :: ms =>
    if name < k then (name, value) :: (k, v) :: ms
    else if name = k then (name, value) :: ms
    else (k, v) :: insertMember name value ms

mutual

/-- The value with the members of each of its objects in ascending order, the last of each name. -/
def sorted : Json → Json
  | .array es => .array (sortedElements es)
  | .object ms => .object (sortedMembers ms [])
  | v => v
termination_by structural v => v

/-- `sorted` of every element. -/
def sortedElements : List Json → List Json
  | [] => []
  | e :: es => sorted e :: sortedElements es
termination_by structural es => es

/-- The members put one after the other among `placed`. -/
def sortedMembers : List (String × Json) → List (String × Json) → List (String × Json)
  | [], placed => placed
  | m :: ms, placed => sortedMembers ms (insertMember m.1 (sortedValue m) placed)
termination_by structural ms => ms

/-- `sorted` of the value of a member. -/
def sortedValue : String × Json → Json
  | (_, v) => sorted v
termination_by structural m => m

end

end Json

end TokenOutline
