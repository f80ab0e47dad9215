import TokenOutline.Json.Writer
import TokenOutline.Text.Quoted
import TokenOutline.Url.Error

/-!
# Why a JSON value is refused

* **`DecodeError.message`**: the refusal in words.
-/

namespace TokenOutline

/-- Why a JSON value is refused. -/
inductive DecodeError where
  /-- A value of another type stands where `wanted` is asked for. -/
  | wrongType (found : Json) (wanted : String)
  /-- An integer is outside the bounds of `wanted`. -/
  | outOfRange (found : Int) (wanted : String)
  /-- A record lacks a field. -/
  | missingField (name : String)
  /-- An array ends before the field at `length` of a record of `fields` fields. -/
  | tooShort (length : Nat) (record : String) (fields : Nat)
  /-- An array goes on after the last field of a record of `fields` fields. -/
  | tooLong (length : Nat) (fields : Nat)
  /-- As `tooLong`, within a value that was set aside before it was read. -/
  | surplus (length : Nat) (fields : Nat)
  /-- An array has another length than the one that is asked for. -/
  | wrongLength (length : Nat) (wanted : Nat)
  /-- A value of the right type is not what is asked for. -/
  | wrongValue (found : Json) (wanted : String)
  /-- A text is no URL. -/
  | notUrl (reason : Url.Error) (text : String)
  /-- A text is none of the names of a choice. -/
  | unknownName (found : String) (choices : List String)
  /-- A value is of no variant of a choice. -/
  | noVariant (choice : String)
  deriving DecidableEq

namespace DecodeError

/-- A value as a refusal speaks of it: its type, and a scalar by its value. -/
def found : Json → String
  | .null => "null"
  | .bool true => "boolean \x60true\x60"
  | .bool false => "boolean \x60false\x60"
  | .number (.integer i) => "integer \x60" ++ toString i ++ "\x60"
  | .number (.real bits) =>
    "floating point \x60" ++ String.ofList (Json.Number.real bits).chars ++ "\x60"
  | .string s => "string " ++ Text.quote s
  | .array _ => "sequence"
  | .object _ => "map"

/-- A count with the word it counts, in the plural unless it is one. -/
def counted (n : Nat) (word : String) : String :=
  toString n ++ " " ++ word ++ (if n = 1 then "" else "s")

/-- A name in the quotes that refusals use for names. -/
def named (name : String) : String := "\x60" ++ name ++ "\x60"

/-- The names of a choice. -/
def listed : List String → String
  | [] => "none"
  | [a] => named a
  | [a, b] => named a ++ " or " ++ named b
  | names => "one of " ++ ", ".intercalate (names.map named)

/-- A refusal within a value that was set aside before it was read. -/
def setAside : DecodeError → DecodeError
  | .tooLong length fields => .surplus length fields
  | e => e

/-- The refusal in words. -/
def message : DecodeError → String
  | .wrongType v wanted => "invalid type: " ++ found v ++ ", expected " ++ wanted
  | .outOfRange i wanted =>
    "invalid value: integer " ++ named (toString i) ++ ", expected " ++ wanted
  | .missingField name => "missing field " ++ named name
  | .tooShort length record fields =>
    "invalid length " ++ toString length ++ ", expected struct " ++ record ++ " with " ++
      counted fields "element"
  | .tooLong length _ =>
    "invalid length " ++ toString length ++ ", expected fewer elements in array"
  | .surplus length fields =>
    "invalid length " ++ toString length ++ ", expected " ++ counted fields "element" ++
      " in sequence"
  | .wrongLength length wanted =>
    "invalid length " ++ toString length ++ ", expected an array of length " ++ toString wanted
  | .wrongValue v wanted => "invalid value: " ++ found v ++ ", expected " ++ wanted
  | .notUrl reason text => reason.message ++ ": " ++ Text.quote text
  | .unknownName name choices =>
    "unknown variant " ++ named name ++ ", expected " ++ listed choices
  | .noVariant choice => "data did not match any variant of untagged enum " ++ choice

end DecodeError

end TokenOutline
