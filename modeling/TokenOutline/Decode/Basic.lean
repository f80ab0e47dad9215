import TokenOutline.Decode.Error
import TokenOutline.Url.Parser

/-!
# Decoding scalars and lists

A decoder takes a JSON value and gives what it stands for or why it is refused.
-/

namespace TokenOutline

/-- What reads a JSON value. -/
abbrev Decoder (α : Type) := Json → Except DecodeError α

namespace Decoder

/-- Every value is accepted as it is. -/
def json : Decoder Json := .ok

/-- A string, where `wanted` is asked for. -/
def stringAs (wanted : String) : Decoder String
  | .string s => .ok s
  | v => .error (.wrongType v wanted)

/-- A string. -/
def string : Decoder String := stringAs "a string"

/-- A path of the file system. -/
def path : Decoder String := stringAs "path string"

/-- An integer from `low` to `high`. -/
def integer (low high : Int) (wanted : String) : Decoder Int
  | .number (.integer i) => if low ≤ i ∧ i ≤ high then .ok i else .error (.outOfRange i wanted)
  | v => .error (.wrongType v wanted)

/-- An unsigned integer of 32 bits. -/
def word32 : Decoder UInt32 := fun v =>
  (integer 0 4294967295 "u32" v).map fun i => UInt32.ofNat i.toNat

/-- An unsigned integer of 8 bits. -/
def word8 : Decoder UInt8 := fun v => (integer 0 255 "u8" v).map fun i => UInt8.ofNat i.toNat

/-- A signed integer of 32 bits. -/
def int32 : Decoder Int := integer (-2147483648) 2147483647 "i32"

/-- A signed integer of 64 bits. -/
def int64 : Decoder Int := integer (-9223372036854775808) 9223372036854775807 "i64"

/-- A truth value. -/
def bool : Decoder Bool
  | .bool b => .ok b
  | v => .error (.wrongType v "a boolean")

/-- A number of any kind, to be held in 32 bits. -/
def single : Decoder Json.Number
  | .number n => .ok n
  | v => .error (.wrongType v "f32")

/-- Nothing but null. -/
def unit : Decoder Unit
  | .null => .ok ()
  | v => .error (.wrongType v "unit")

/-- A URL. -/
def url : Decoder Url
  | .string s =>
    match Url.parse s with
    | .ok u => .ok u
    | .error e => .error (.notUrl e s)
  | v => .error (.wrongType v "a string representing an URL")

/-- A value that may be null. -/
def nullable (d : Decoder α) : Decoder (Option α)
  | .null => .ok none
  | v => (d v).map some

/-- A value of which only the form counts. -/
def checked (d : Decoder α) : Decoder Unit := fun v => (d v).map fun _ => ()

/-- A list; the first element that is refused decides. -/
def list (d : Decoder α) : Decoder (List α)
  | .array es => es.mapM d
  | v => .error (.wrongType v "a sequence")

end Decoder

end TokenOutline
