import TokenOutline.Grammar.Token
import TokenOutline.Grammar.Symbol

/-!
# The analysis of grammars

Models a `GrammarBackend`, which `build_root` asks. The service that knows the grammars is asked for
the vocabulary of a file and for the symbols of its tokens. It answers from tables by file; the
entry `*` answers for every file without an entry of its own. A lookup of a key whose gate is closed
waits until the gate is opened, and gets the reply that the tables hold then.

* **`Analysis.vocabulary?`**, **`Analysis.reply`**, **`Analysis.isOpen`**: what it answers now.
* **`Analysis.step`**: how its tables and gates change.
-/

namespace TokenOutline

/-! ## Replies -/

/-- Why a lookup failed. -/
inductive LookupError where
  /-- The service does not answer. -/
  | unavailable (message : String)
  /-- The service could not answer the question. -/
  | query (name message : String)
  deriving DecidableEq, Inhabited

/-- The failure in words. -/
def LookupError.message : LookupError → String
  | .unavailable m => "grammar backend unavailable: " ++ m
  | .query name m => "symbol query for \x60" ++ name ++ "\x60 failed: " ++ m

/-- What a lookup is answered: a symbol, none, or a failure. -/
abbrev Reply := Except LookupError (Option Grammar.Symbol)

/-! ## The service -/

/-- Which keys wait: those with an entry as it says, all others as `rest` says. -/
structure Gates where
  entries : List (String × Bool)
  rest : Bool
  deriving Inhabited

/-- Whether lookups of a key are answered at once. -/
def Gates.isOpen (g : Gates) (key : String) : Bool := !(g.entries.lookup key).getD g.rest

/-- Close or open the gate of a key. -/
def Gates.set (g : Gates) (key : String) (closed : Bool) : Gates :=
  { g with entries := (key, closed) :: g.entries }

@[simp] theorem Gates.isOpen_set_self (g : Gates) (key : String) (closed : Bool) :
    (g.set key closed).isOpen key = !closed := by
  simp [isOpen, set]

theorem Gates.isOpen_set_of_ne (g : Gates) {key other : String} (closed : Bool)
    (h : other ≠ key) : (g.set key closed).isOpen other = g.isOpen other := by
  simp [isOpen, set, List.lookup_cons, beq_false_of_ne h]

/-- The tables and the gates of the service. -/
structure Analysis where
  vocabularies : List (String × Option Vocabulary)
  symbols : List (String × List (String × Reply))
  gates : Gates
  deriving Inhabited

namespace Analysis

/-- The entry that answers for a file: its own, or the one for every file. -/
def entryFor (table : List (String × α)) (file : String) : Option α :=
  (table.lookup file).or (table.lookup "*")

/-- The vocabulary of a file, if it has a lexer (`lexer_vocabulary`). -/
def vocabulary? (a : Analysis) (file : String) : Option Vocabulary :=
  (entryFor a.vocabularies file).join

/-- The reply to a lookup that is answered now (`info_for_symbol`). -/
def reply (a : Analysis) (file key : String) : Reply :=
  (((entryFor a.symbols file).getD []).lookup key).getD (.ok none)

/-- Whether lookups of a key are answered at once. -/
def isOpen (a : Analysis) (key : String) : Bool := a.gates.isOpen key

/-! ## Changes -/

/-- A change of the service. -/
inductive Step where
  /-- Open the gate of a key. -/
  | release (key : String)
  /-- Close the gate of a key. -/
  | close (key : String)
  /-- Give a file a vocabulary, or none. -/
  | setVocabulary (file : String) (vocabulary : Option Vocabulary)
  /-- Give a key of a file a reply. -/
  | setSymbol (file key : String) (reply : Reply)

/-- The service after a change. -/
def step (a : Analysis) : Step → Analysis
  | .release key => { a with gates := a.gates.set key false }
  | .close key => { a with gates := a.gates.set key true }
  | .setVocabulary file v => { a with vocabularies := (file, v) :: a.vocabularies }
  | .setSymbol file key r =>
    { a with symbols := (file, (key, r) :: (a.symbols.lookup file).getD []) :: a.symbols }

end Analysis

end TokenOutline
