import TokenOutline.Decode.Record

/-!
# The vocabulary of a lexer

Models `Vocabulary`. A compiled lexer has two tables of names, indexed by token type: the literal
that a token stands for, with its quotes, and its symbolic name. Either may lack a name, and the
tables may differ in length.

* **`Vocabulary.decode`**, **`Vocabulary.encode`**: the two tables as a JSON object.
-/

namespace TokenOutline

/-- The names of the tokens of a lexer, by token type. -/
structure Vocabulary where
  literalNames : List (Option String)
  symbolicNames : List (Option String)
  deriving DecidableEq, Inhabited

namespace Vocabulary

/-- The greatest number of token types, which are signed words of 32 bits, short of the greatest. -/
def sizeLimit : Nat := 2147483647

/-- The number of token types; names past the limit have none. -/
def size (v : Vocabulary) : Nat :=
  min (max v.literalNames.length v.symbolicNames.length) sizeLimit

/-- The greatest token type, `-1` when there is none (`max_token_type`). -/
def maxTokenType (v : Vocabulary) : Int := (v.size : Int) - 1

/-- A name unless it is empty. -/
def nonempty (name : Option String) : Option String := name.filter (· ≠ "")

/-- The name of a token type in a table (`name_at`); outside the table, and where the name is
empty, none. -/
def nameAt (names : List (Option String)) (tokenType : Int) : Option String :=
  if tokenType < 0 then none else nonempty names[tokenType.toNat]?.join

/-- The literal of a token type (`literal_name`). -/
def literalName (v : Vocabulary) (tokenType : Int) : Option String :=
  nameAt v.literalNames tokenType

/-- The symbolic name of a token type (`symbolic_name`). -/
def symbolicName (v : Vocabulary) (tokenType : Int) : Option String :=
  nameAt v.symbolicNames tokenType

/-! ## As JSON -/

/-- A table as an array of names and nulls. -/
def encodeNames (names : List (Option String)) : Json := .array (names.map (.ofOption .string))

/-- A table of names. -/
def decodeNames : Decoder (List (Option String)) := .list (.nullable .string)

/-- The two tables as an object. -/
def encode (v : Vocabulary) : Json :=
  .object [("literalNames", encodeNames v.literalNames),
    ("symbolicNames", encodeNames v.symbolicNames)]

/-- The fields of a vocabulary. -/
def record : Record Vocabulary :=
  .field (.field (.of Vocabulary.mk) (.required "literalNames" decodeNames))
    (.required "symbolicNames" decodeNames)

/-- A vocabulary. -/
def decode : Decoder Vocabulary := record.decode "Vocabulary"

end Vocabulary

end TokenOutline
