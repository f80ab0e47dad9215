import TokenOutline.Decode.Record

/-!
# Settings

Models `ProviderConfig`, and its `from_value`. What a host may choose about the items of the
outline. Settings stand at the top level of a value or under its key `lexerSymbols`; those that are
left out have their standard values, whatever the settings were before.

* **`Settings.decode`**: the settings of a value, or why there are none.
-/

namespace TokenOutline

/-- What a host may choose. -/
structure Settings where
  /-- The command of the host that goes to the definition of a token. -/
  selectRangeCommand : String
  /-- The context under which the host knows the items. -/
  contextValue : String
  /-- The directory of the icons. -/
  iconRoot : Option String
  /-- The title of the item for the end of input. -/
  eofTitle : String
  deriving DecidableEq, Inhabited

namespace Settings

/-- The settings of a host that chooses nothing (`ProviderConfig::default`). -/
def standard : Settings :=
  { selectRangeCommand := "antlr.selectGrammarRange"
    contextValue := "lexerSymbols"
    iconRoot := none
    eofTitle := "<unused>" }

/-- The fields of settings. -/
def record : Record Settings :=
  .field (.field (.field (.field (.of Settings.mk)
    (.defaulted "selectRangeCommand" .string standard.selectRangeCommand))
    (.defaulted "contextValue" .string standard.contextValue))
    (.defaulted "iconRoot" (.nullable .path) standard.iconRoot))
    (.defaulted "eofTitle" .string standard.eofTitle)

/-- Settings at the top level of a value. -/
def decodeFlat : Decoder Settings := record.decode "ProviderConfig"

/-- The key under which settings may stand. -/
def nestedKey : String := "lexerSymbols"

/-- The field of settings under their key. -/
def nestedRecord : Record Settings := .field (.of id) (.required nestedKey decodeFlat)

/-- The settings of a value (`from_value`): under their key if the value has it, and at its top
level if not. -/
def decode : Decoder Settings := fun v =>
  if (v.member? nestedKey).isSome then nestedRecord.decode "NestedSettings" v else decodeFlat v

/-- A refusal of settings in words. -/
def refusal (e : DecodeError) : String :=
  "invalid lexer symbols configuration: " ++ e.message

end Settings

end TokenOutline
