import TokenOutline.Decode.Record

/-!
# Symbols of a grammar

Models `SymbolInfo`: what the analysis of a grammar knows about a symbol, and where in the grammar
it is defined. Rows are counted from one and columns from zero.

* **`Grammar.Symbol.decode`**, **`Grammar.Symbol.encode`**, and the like for ranges.
-/

namespace TokenOutline.Grammar

/-- A place in the text of a grammar. -/
structure Position where
  row : UInt32
  column : UInt32
  deriving DecidableEq, Inhabited

/-- A stretch of the text of a grammar. -/
structure Range where
  start : Position
  stop : Position
  deriving DecidableEq, Inhabited

/-- Where a symbol is defined. -/
structure Definition where
  text : String
  range : Range
  deriving DecidableEq, Inhabited

/-- What is known about a symbol. -/
structure Symbol where
  name : String
  kind : Option String
  source : Option String
  definition : Option Definition
  deriving DecidableEq, Inhabited

/-- A symbol of which only its name is known. -/
def Symbol.named (name : String) : Symbol := ⟨name, none, none, none⟩

/-- A symbol defined at a range. -/
def Symbol.definedAt (name : String) (range : Range) : Symbol :=
  ⟨name, none, none, some ⟨name, range⟩⟩

/-! ## As JSON -/

/-- A position as an object. -/
def Position.encode (p : Position) : Json :=
  .object [("column", .ofNat p.column.toNat), ("row", .ofNat p.row.toNat)]

/-- The fields of a position. -/
def Position.record : Record Position :=
  .field (.field (.of Position.mk) (.required "row" .word32)) (.required "column" .word32)

/-- A position. -/
def Position.decode : Decoder Position := Position.record.decode "SourcePosition"

/-- A range as an object. -/
def Range.encode (r : Range) : Json :=
  .object [("end", r.stop.encode), ("start", r.start.encode)]

/-- The fields of a range. -/
def Range.record : Record Range :=
  .field (.field (.of Range.mk) (.required "start" Position.decode))
    (.required "end" Position.decode)

/-- A range. -/
def Range.decode : Decoder Range := Range.record.decode "SourceRange"

/-- A definition as an object. -/
def Definition.encode (d : Definition) : Json :=
  .object [("range", d.range.encode), ("text", .string d.text)]

/-- The fields of a definition. -/
def Definition.record : Record Definition :=
  .field (.field (.of Definition.mk) (.required "text" .string)) (.required "range" Range.decode)

/-- A definition. -/
def Definition.decode : Decoder Definition := Definition.record.decode "Definition"

/-- A symbol as an object. -/
def Symbol.encode (s : Symbol) : Json :=
  .object [("definition", .ofOption Definition.encode s.definition),
    ("kind", .ofOption .string s.kind), ("name", .string s.name),
    ("source", .ofOption .string s.source)]

/-- The fields of a symbol. -/
def Symbol.record : Record Symbol :=
  .field (.field (.field (.field (.of Symbol.mk) (.required "name" .string))
    (.defaulted "kind" (.nullable .string) none)) (.defaulted "source" (.nullable .string) none))
    (.defaulted "definition" (.nullable Definition.decode) none)

/-- A symbol. -/
def Symbol.decode : Decoder Symbol := Symbol.record.decode "SymbolInfo"

end TokenOutline.Grammar
