import TokenOutline.Editor.Command

/-!
# Items as the editor sends them

Models `LexerSymbolItemDto`. The editor numbers the states of an item: zero for one with nothing
below it, one for a collapsed and two for an expanded one. Any other number reads as zero. A context
may be missing.

* **`Item.toEditor`**, **`Editor.Item.toItem`**: the two ways across.
-/

namespace TokenOutline

namespace Editor

/-- An item in the editor's terms. -/
structure Item where
  label : String
  collapsible : UInt8
  command : Option Command
  contextValue : Option String
  icons : Option Icons
  deriving DecidableEq, Inhabited

/-! ## As JSON -/

/-- Icons as an object. -/
def encodeIcons (i : Icons) : Json :=
  .object [("dark", .string i.dark), ("light", .string i.light)]

/-- The fields of icons. -/
def iconsRecord : Record Icons :=
  .field (.field (.of Icons.mk) (.required "light" .string)) (.required "dark" .string)

/-- Icons. -/
def decodeIcons : Decoder Icons := iconsRecord.decode "IconPathDto"

/-- An item as an object. -/
def Item.encode (i : Item) : Json :=
  .object [("collapsibleState", .ofNat i.collapsible.toNat),
    ("command", .ofOption Command.encode i.command),
    ("contextValue", .ofOption .string i.contextValue),
    ("iconPath", .ofOption encodeIcons i.icons),
    ("label", .string i.label)]

/-- The fields of an item. -/
def Item.record : Record Item :=
  .field (.field (.field (.field (.field (.of Item.mk) (.required "label" .string))
    (.defaulted "collapsibleState" .word8 0))
    (.defaulted "command" (.nullable Command.decode) none))
    (.defaulted "contextValue" (.nullable .string) none))
    (.defaulted "iconPath" (.nullable decodeIcons) none)

/-- An item. -/
def Item.decode : Decoder Item := Item.record.decode "LexerSymbolItemDto"

/-! ## Across -/

/-- The state of a number (`collapsible_state_from_wire`). -/
def collapsibleOf (n : UInt8) : Collapsible :=
  if n = 1 then .collapsed else if n = 2 then .expanded else .none

/-- The item that the editor means (`into_item`). -/
def Item.toItem (i : Item) : TokenOutline.Item :=
  ⟨i.label, collapsibleOf i.collapsible, i.command.map Command.toItem, i.contextValue.getD "",
    i.icons⟩

end Editor

/-- The number of a state (`collapsible_state_to_wire`). -/
def Collapsible.number : Collapsible → UInt8
  | .none => 0
  | .collapsed => 1
  | .expanded => 2

/-- The item in the editor's terms (`from_item`). -/
def Item.toEditor (i : Item) : Editor.Item :=
  ⟨i.label, i.collapsible.number, i.command.map Command.toEditor, some i.contextValue, i.icons⟩

end TokenOutline
