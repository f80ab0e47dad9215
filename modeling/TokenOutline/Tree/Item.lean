import TokenOutline.Grammar.Token
import TokenOutline.Grammar.Symbol
import TokenOutline.Settings

/-!
# Items of the outline

Models `LexerSymbolItem` and `NavigationCommand`. An item is one line of the outline: a label, a
command that goes to the definition of the token, and what the settings say about context and icons.

* **`Item.leaf`**, **`Item.eof`**: the items that the outline is made of.
* `Node` is what a view needs of anything it shows (`TreeNode`).
-/

namespace TokenOutline

/-- Whether an item has items below it, and shows them. -/
inductive Collapsible where
  | none
  | collapsed
  | expanded
  deriving DecidableEq, Inhabited

/-! ## Commands -/

/-- A command of the host; one without a name does nothing. -/
structure Command where
  title : String
  name : String
  arguments : List Grammar.Range
  deriving DecidableEq, Inhabited

namespace Command

/-- The command that does nothing (`inert`). -/
def inert : Command := ⟨"", "", []⟩

/-- The command that goes to a range (`select_range`). -/
def selectRange (name : String) (range : Grammar.Range) : Command := ⟨"", name, [range]⟩

/-- Whether the command does anything (`is_actionable`). -/
def isActionable (c : Command) : Bool := c.name ≠ ""

/-- The range that the command goes to (`target_range`). -/
def target? (c : Command) : Option Grammar.Range :=
  if c.isActionable then c.arguments.head? else none

end Command

/-! ## Icons -/

/-- The icons of an item, for a light and for a dark background. -/
structure Icons where
  light : String
  dark : String
  deriving DecidableEq, Inhabited

namespace Icons

/-- The path of a file in a directory. -/
def inDirectory (directory file : String) : String :=
  if directory = "" || directory.toList.getLast? = some '/' then directory ++ file
  else directory ++ "/" ++ file

/-- The icons in a directory (`in_dir`). -/
def ofRoot (root : String) : Icons :=
  ⟨inDirectory root "token-light.svg", inDirectory root "token-dark.svg"⟩

end Icons

/-! ## Items -/

/-- A line of the outline. -/
structure Item where
  label : String
  collapsible : Collapsible
  command : Option Command
  contextValue : String
  icons : Option Icons
  deriving DecidableEq, Inhabited

namespace Item

/-- An item with nothing below it. -/
def leaf (label : String) (command : Command) (s : Settings) : Item :=
  ⟨label, .none, some command, s.contextValue, s.iconRoot.map Icons.ofRoot⟩

/-- The item for the end of input. -/
def eof (s : Settings) : Item :=
  leaf Token.eofCaption { Command.inert with title := s.eofTitle } s

/-- The command of an item whose token is defined as the symbol says. -/
def commandFor (s : Settings) (symbol : Option Grammar.Symbol) : Command :=
  match symbol.bind (·.definition) with
  | some d => .selectRange s.selectRangeCommand d.range
  | none => .inert

/-- The item of a token that the analysis gave a symbol for, or none (`resolve_token`). -/
def ofToken (s : Settings) (t : Token) (symbol : Option Grammar.Symbol) : Item :=
  leaf t.caption (commandFor s symbol) s

/-- What a view shows for an item (`get_tree_item`). -/
def shown (i : Item) : Item := i

end Item

/-! ## Nodes -/

/-- What a view needs of a node; a node need not have a context and icons. -/
structure Node where
  label : String
  collapsible : Collapsible
  command : Option Command
  contextValue : Option String := none
  icons : Option Icons := none
  deriving DecidableEq, Inhabited

/-- An item as a node. -/
def Item.toNode (i : Item) : Node :=
  ⟨i.label, i.collapsible, i.command, some i.contextValue, i.icons⟩

end TokenOutline
