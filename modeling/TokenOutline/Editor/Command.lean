import TokenOutline.Editor.Range
import TokenOutline.Tree.Item

/-!
# Commands as the editor sends them

The arguments of an editor's command are any JSON values. Only those that are ranges mean anything
to an item; a command without arguments leaves them out.

* **`Command.toEditor`**, **`Editor.Command.toItem`**: the two ways across.
-/

namespace TokenOutline

namespace Editor

/-- A command with its arguments, if it has any. -/
structure Command where
  title : String
  name : String
  arguments : Option (List Json)
  deriving DecidableEq, Inhabited

/-! ## As JSON -/

/-- A command as an object. -/
def Command.encode (c : Command) : Json :=
  .object ((match c.arguments with
      | some arguments => [("arguments", .array arguments)]
      | none => []) ++
    [("command", .string c.name), ("title", .string c.title)])

/-- The fields of a command. -/
def Command.record : Record Command :=
  .field (.field (.field (.of Command.mk) (.required "title" .string))
    (.required "command" .string)) (.optional "arguments" (.list .json))

/-- A command. -/
def Command.decode : Decoder Command := Command.record.decode "Command"

/-! ## Across -/

/-- The ranges among the arguments, in their order. -/
def Command.ranges (c : Command) : List Range :=
  (c.arguments.getD []).filterMap fun v => (Range.decode v).toOption

/-- The command of an item, with the arguments that are ranges (`command_from_lsp`). -/
def Command.toItem (c : Command) : TokenOutline.Command :=
  ⟨c.title, c.name, c.ranges.map Range.toGrammar⟩

end Editor

/-- The command as the editor takes it (`command_to_lsp`). -/
def Command.toEditor (c : Command) : Editor.Command :=
  ⟨c.title, c.name,
    if c.arguments.isEmpty then none else some (c.arguments.map fun r => r.toEditor.encode)⟩

end TokenOutline
