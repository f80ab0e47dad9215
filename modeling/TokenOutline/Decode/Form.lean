import TokenOutline.Decode.Record

/-!
# Forms

A form is a record of which nothing is kept: it is only checked that a value is one. Besides its own
fields a form may have groups of fields that it shares with other forms. Such a form is written as
an object only; the members that name none of its own fields are set aside, and each group is read
from them once the own fields have been.

* **`Form.decode`**: whether a value is one of a form, or why it is refused.
-/

namespace TokenOutline

/-- A record with one more field, which is only checked. -/
def Record.also (r : Record Unit) (f : Field Unit) : Record Unit where
  arity := r.arity + 1
  check name v := if name = f.name then f.read v else r.check name v
  ofMembers ms := do
    r.ofMembers ms
    f.ofMembers ms
  ofElements tooShort es := do
    r.ofElements tooShort es
    f.ofElements es r.arity (tooShort r.arity)

/-- A record of fields that are only checked. -/
def Record.ofFields (fields : List (Field Unit)) : Record Unit := fields.foldl Record.also (.of ())

/-- A group of fields that a form shares with others. -/
inductive Group where
  /-- The given fields. -/
  | fields (fields : List (Field Unit))
  /-- All members that are left. -/
  | others (read : Decoder Unit)

/-- A form: the title of the record, its own fields, and its groups. -/
structure Form where
  title : String
  fields : List (Field Unit)
  groups : List Group := []

namespace Form

/-- A field that has to be there. -/
def must (name : String) (d : Decoder α) : Field Unit := .required name d.checked

/-- A field that may be null, and may be left out of an object. -/
def may (name : String) (d : Decoder α) : Field Unit :=
  ⟨name, (Decoder.nullable d).checked, some (), none⟩

/-- A field that may be left out. -/
def byDefault (name : String) (d : Decoder α) : Field Unit := .defaulted name d.checked ()

/-- The members that name none of some fields. -/
def without (fields : List (Field Unit)) (ms : List (String × Json)) : List (String × Json) :=
  ms.filter fun m => !fields.any (·.name = m.1)

/-- Read groups from the members that have been set aside. -/
def readGroups : List Group → List (String × Json) → Except DecodeError Unit
  | [], _ => .ok ()
  | .fields fields :: groups, ms => do
    ((Record.ofFields fields).decode "" (.object ms)).mapError DecodeError.setAside
    readGroups groups (without fields ms)
  | .others read :: groups, ms => do
    ms.forM fun m => (read m.2).mapError DecodeError.setAside
    readGroups groups []

/-- Whether a value is one of the form. -/
def decode (f : Form) : Decoder Unit := fun v =>
  match f.groups, v with
  | [], v => (Record.ofFields f.fields).decode f.title v
  | groups, .object ms => do
    (Record.ofFields f.fields).decode f.title (.object ms)
    readGroups groups (without f.fields ms)
  | _, v => .error (.wrongType v ("struct " ++ f.title))

end Form

/-- A form without groups. -/
def Decoder.form (title : String) (fields : List (Field Unit)) : Decoder Unit :=
  Form.decode ⟨title, fields, []⟩

/-- A form with groups. -/
def Decoder.formWith (title : String) (fields : List (Field Unit)) (groups : List Group) :
    Decoder Unit :=
  Form.decode ⟨title, fields, groups⟩

end TokenOutline
