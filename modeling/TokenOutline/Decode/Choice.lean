import TokenOutline.Decode.Basic

/-!
# Decoding choices

* **`Decoder.oneOf`**: one of several names, written as a string or as an object whose only member
  has the name and is null.
* **`Decoder.anyOf`**: a value that one of several decoders takes.
-/

namespace TokenOutline.Decoder

/-- A name, if it is one of those given. -/
def named (names : List String) (name : String) : Except DecodeError String :=
  if name ∈ names then .ok name else .error (.unknownName name names)

/-- One of several names. -/
def oneOf (names : List String) : Decoder String
  | .string s => named names s
  | .object [(name, v)] => do
    let name ← named names name
    unit v
    return name
  | .object ms => .error (.wrongValue (.object ms) "map with a single key")
  | v => .error (.wrongType v "string or map")

/-- A value that one of several decoders takes; `title` is what the choice goes by. -/
def anyOf (title : String) (ds : List (Decoder Unit)) : Decoder Unit := fun v =>
  if ds.any fun d => (d v).toBool then .ok () else .error (.noVariant title)

end TokenOutline.Decoder
