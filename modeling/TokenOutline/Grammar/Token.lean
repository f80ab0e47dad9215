import TokenOutline.Grammar.Vocabulary

/-!
# Tokens, their captions and their keys

Models `TokenDescriptor`. A token is a token type with the names that its vocabulary has for it. Its
caption is the label under which it is listed; its key is the name under which the grammar's
analysis knows it.

* **`Vocabulary.tokens`**: one token for each token type, in ascending order.
* **`Token.caption`**, **`Token.key`**.
-/

namespace TokenOutline

/-- A token type with its names. -/
structure Token where
  index : Int
  literal : Option String
  symbolic : Option String
  deriving DecidableEq, Inhabited

namespace Token

/-- A token of two names, either of which is missing if it is empty (`TokenDescriptor::new`). -/
def ofNames (index : Int) (literal symbolic : Option String) : Token :=
  ⟨index, Vocabulary.nonempty literal, Vocabulary.nonempty symbolic⟩

/-- The token of a token type (`from_vocabulary`). -/
def ofVocabulary (v : Vocabulary) (index : Int) : Token :=
  ofNames index (v.literalName index) (v.symbolicName index)

/-- Whether a token has no name at all (`is_unused`). -/
def isUnused (t : Token) : Bool := t.literal.isNone && t.symbolic.isNone

/-! ## Captions -/

/-- The caption of the token after the last one. -/
def eofCaption : String := "-1: EOF"

/-- The caption of a token after its index. -/
def captionNames (t : Token) : String :=
  if t.isUnused then "<unused>"
  else t.symbolic.getD "<implicit token>" ++
    (match t.literal with
      | some literal => " (" ++ literal ++ ")"
      | none => "")

/-- The label of a token (`format_caption`): its index, its symbolic name and its literal. -/
def caption (t : Token) : String := toString t.index ++ ": " ++ t.captionNames

/-! ## Keys -/

/-- A literal without its first and its last character (`strip_delimiters`). -/
def unquoted (literal : String) : String := String.ofList (literal.toList.drop 1).dropLast

/-- The name under which the analysis knows the token (`lookup_key`): its symbolic name, or else
its literal without the quotes. -/
def key (t : Token) : String :=
  match t.symbolic, t.literal with
  | some symbolic, _ => symbolic
  | none, some literal => unquoted literal
  | none, none => ""

end Token

/-- The tokens of a vocabulary, in ascending order of their types (`enumerate_tokens`). -/
def Vocabulary.tokens (v : Vocabulary) : List Token :=
  (List.range v.size).map fun (i : Nat) => Token.ofVocabulary v i

end TokenOutline
