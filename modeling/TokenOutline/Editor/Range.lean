import TokenOutline.Grammar.Symbol

/-!
# Ranges as the editor counts them

The editor counts lines from zero where a grammar counts rows from one; columns are the same. A
row of zero, which no grammar has, becomes the first line.

* **`Grammar.Range.toEditor`**, **`Editor.Range.toGrammar`**: the two ways across.
-/

namespace TokenOutline

namespace Editor

/-- A place in a document. -/
structure Position where
  line : UInt32
  character : UInt32
  deriving DecidableEq, Inhabited

/-- A stretch of a document. -/
structure Range where
  start : Position
  stop : Position
  deriving DecidableEq, Inhabited

/-! ## As JSON -/

/-- A position as an object. -/
def Position.encode (p : Position) : Json :=
  .object [("character", .ofNat p.character.toNat), ("line", .ofNat p.line.toNat)]

/-- The fields of a position. -/
def Position.record : Record Position :=
  .field (.field (.of Position.mk) (.required "line" .word32)) (.required "character" .word32)

/-- A position. -/
def Position.decode : Decoder Position := Position.record.decode "Position"

/-- A range as an object. -/
def Range.encode (r : Range) : Json :=
  .object [("end", r.stop.encode), ("start", r.start.encode)]

/-- The fields of a range. -/
def Range.record : Record Range :=
  .field (.field (.of Range.mk) (.required "start" Position.decode))
    (.required "end" Position.decode)

/-- A range. -/
def Range.decode : Decoder Range := Range.record.decode "Range"

/-! ## From the editor to a grammar -/

/-- A position with its row counted from one. -/
def Position.toGrammar (p : Position) : Grammar.Position := ⟨p.line + 1, p.character⟩

/-- A range with its rows counted from one (`range_to_source_range`). -/
def Range.toGrammar (r : Range) : Grammar.Range := ⟨r.start.toGrammar, r.stop.toGrammar⟩

end Editor

/-! ## From a grammar to the editor -/

/-- The line of a row; there is none before the first. -/
def Grammar.lineOfRow (row : UInt32) : UInt32 := if row = 0 then 0 else row - 1

/-- A position with its line counted from zero. -/
def Grammar.Position.toEditor (p : Grammar.Position) : Editor.Position :=
  ⟨Grammar.lineOfRow p.row, p.column⟩

/-- A range with its lines counted from zero (`source_range_to_range`). -/
def Grammar.Range.toEditor (r : Grammar.Range) : Editor.Range :=
  ⟨r.start.toEditor, r.stop.toEditor⟩

end TokenOutline
