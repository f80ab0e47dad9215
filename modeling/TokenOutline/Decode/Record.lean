import TokenOutline.Decode.Basic

/-!
# Decoding records

A record is written as an object, or as an array of its fields in the order of their declaration.

* In an object every member that names a field is read first, in the order of the members, and the
  first one that is refused decides; then the fields are taken in the order of declaration, and the
  first one that may not be left out and is decides. Members that name no field do not count.
* In an array the elements are read in order. A field that the array is too short for has to have
  a value of its own for that; elements after the last field are refused.

Headlines:
* **`Record.of`**, **`Record.field`**: a record is built up of its fields, one after the other.
* **`Record.decode`**: the record of a value, or why it is refused.
-/

namespace TokenOutline

/-- A field of a record: its name, how its value is read, and the value it has in an object that
lacks it and in an array that is too short for it. -/
structure Field (α : Type) where
  name : String
  read : Decoder α
  absent : Option α
  short : Option α

namespace Field

/-- A field that may not be left out. -/
def required (name : String) (read : Decoder α) : Field α := ⟨name, read, none, none⟩

/-- A field that may be null, and may be left out of an object. -/
def optional (name : String) (read : Decoder α) : Field (Option α) :=
  ⟨name, .nullable read, some none, none⟩

/-- A field that may be left out, and then has the given value. -/
def defaulted (name : String) (read : Decoder α) (value : α) : Field α :=
  ⟨name, read, some value, some value⟩

/-- The value of the field in an object. -/
def ofMembers (f : Field α) (ms : List (String × Json)) : Except DecodeError α :=
  match ms.lookup f.name, f.absent with
  | some v, _ => f.read v
  | none, some a => .ok a
  | none, none => .error (.missingField f.name)

/-- The value of the field at a position of an array, or the given error if the array is too
short for it. -/
def ofElements (f : Field α) (es : List Json) (index : Nat) (tooShort : DecodeError) :
    Except DecodeError α :=
  match es[index]?, f.short with
  | some v, _ => f.read v
  | none, some a => .ok a
  | none, none => .error tooShort

end Field

/-- The fields of a record in the order of their declaration, and how the record is made of their
values. -/
structure Record (α : Type) where
  /-- How many fields there are. -/
  arity : Nat
  /-- Refuses a member whose name is that of a field and whose value is not one of the field. -/
  check : String → Json → Except DecodeError Unit
  /-- The record of an object whose members have been checked. -/
  ofMembers : List (String × Json) → Except DecodeError α
  /-- The record of an array; an error is made of the position that the array is too short for. -/
  ofElements : (Nat → DecodeError) → List Json → Except DecodeError α

namespace Record

/-- A record of no fields yet. -/
def of (make : α) : Record α := ⟨0, fun _ _ => .ok (), fun _ => .ok make, fun _ _ => .ok make⟩

/-- A record with one more field. -/
def field (r : Record (α → β)) (f : Field α) : Record β where
  arity := r.arity + 1
  check name v := if name = f.name then (f.read v).map fun _ => () else r.check name v
  ofMembers ms := do
    let make ← r.ofMembers ms
    let a ← f.ofMembers ms
    return make a
  ofElements tooShort es := do
    let make ← r.ofElements tooShort es
    let a ← f.ofElements es r.arity (tooShort r.arity)
    return make a

/-- Check the members one after the other. -/
def checkAll (r : Record α) : List (String × Json) → Except DecodeError Unit
  | [] => .ok ()
  | (name, v) :: ms =>
    match r.check name v with
    | .ok () => r.checkAll ms
    | .error e => .error e

/-- A record that goes by the given title in refusals. -/
def decode (r : Record α) (title : String) : Decoder α
  | .object ms => do
    r.checkAll ms
    r.ofMembers ms
  | .array es => do
    let a ← r.ofElements (.tooShort · title r.arity) es
    if r.arity < es.length then .error (.tooLong es.length r.arity) else return a
  | v => .error (.wrongType v ("struct " ++ title))

end Record

end TokenOutline
