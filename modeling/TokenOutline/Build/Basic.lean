import TokenOutline.Analysis
import TokenOutline.Tree.Item

/-!
# Building the outline of a file

Models `build_root`, which joins one `resolve_token` for each token of `enumerate_tokens` by
`try_join_all`. A build looks up every token of a vocabulary. It starts the lookups in the order of
the tokens without waiting for one another, and keeps a slot for each: empty while the lookup waits,
and filled with the reply that it is answered. What a build comes to is read off its slots alone.

* A failed lookup ends the build. With at most `smallBuild` tokens it does so the moment it fails;
  with more, a failure counts only once every lookup before it has succeeded. These are the two
  ways in which `try_join_all` joins, by polling all lookups and by taking them in turn.
* Lookups not yet started when the build ends are never started, and those still waiting are never
  answered.

Headlines:
* **`Build.outcome?`**: what the build has come to, if it has ended.
* **`Build.launch`**, **`Build.release`**: the start of a build, and the opening of a gate.
-/

namespace TokenOutline

/-! ## Outcomes -/

/-- The failure of a build: a token, its key and why its lookup failed (`resolve_token`). -/
structure ResolveError where
  index : Int
  key : String
  source : LookupError
  deriving DecidableEq, Inhabited

/-- The failure in words. -/
def ResolveError.message (e : ResolveError) : String :=
  "failed to resolve token " ++ toString e.index ++ " (\x60" ++ e.key ++ "\x60): " ++
    e.source.message

/-- What a build comes to. -/
abbrev Outcome := Except ResolveError (List Item)

/-- The item of a token that was answered `r`, as `resolve_token` makes it. -/
def resolve (s : Settings) (t : Token) (r : Reply) : Except ResolveError Item :=
  match r with
  | .ok symbol => .ok (Item.ofToken s t symbol)
  | .error e => .error ⟨t.index, t.key, e⟩

/-! ## Slots -/

/-- The greatest number of tokens with which any failure ends a build at once. -/
def smallBuild : Nat := 30

/-- The first slot that holds a failure. -/
def firstFailure : List (Option Reply) → Option (Nat × LookupError)
  | [] => none
  | some (.error e) :: _ => some (0, e)
  | _ :: slots => (firstFailure slots).map fun (i, e) => (i + 1, e)

/-- The first slot that does not hold a success, if it holds a failure. -/
def failureInTurn : List (Option Reply) → Option (Nat × LookupError)
  | some (.error e) :: _ => some (0, e)
  | some (.ok _) :: slots => (failureInTurn slots).map fun (i, e) => (i + 1, e)
  | _ => none

/-- The failure that ends a build of `count` tokens, if there is one. -/
def endingFailure (count : Nat) (slots : List (Option Reply)) : Option (Nat × LookupError) :=
  if count ≤ smallBuild then firstFailure slots else failureInTurn slots

/-- A build: what it was started with, and a slot for each lookup that has been started. -/
structure Build where
  file : String
  settings : Settings
  tokens : List Token
  slots : List (Option Reply)

namespace Build

/-- A build that has not started a lookup. -/
def ofTokens (file : String) (s : Settings) (tokens : List Token) : Build := ⟨file, s, tokens, []⟩

/-- The failure that ends the build, if there is one. -/
def failure? (b : Build) : Option (Nat × LookupError) := endingFailure b.tokens.length b.slots

/-- The symbols that all lookups were answered, if all were and none failed. -/
def symbols? (b : Build) : Option (List (Option Grammar.Symbol)) :=
  if b.slots.length < b.tokens.length then none
  else b.slots.mapM fun slot => slot.bind (·.toOption)

/-- The items of a finished build (`build_root`): the end of input, then one for each token. -/
def items (s : Settings) (tokens : List Token) (symbols : List (Option Grammar.Symbol)) :
    List Item :=
  Item.eof s :: List.zipWith (Item.ofToken s) tokens symbols

/-- What the build has come to, if it has ended. -/
def outcome? (b : Build) : Option Outcome :=
  match b.failure? with
  | some (i, e) =>
    let t := b.tokens[i]?.getD default
    some (.error ⟨t.index, t.key, e⟩)
  | none => b.symbols?.map fun symbols => .ok (items b.settings b.tokens symbols)

/-! ## Lookups -/

/-- What happens to a lookup of a build. -/
inductive LookupEvent where
  | started (index : Nat) (key : String)
  | answered (index : Nat) (key : String) (reply : Reply)

/-- Start the lookups of the tokens `rest`, which follow those that have a slot. -/
def launch (a : Analysis) (b : Build) : List Token → Build × List LookupEvent
  | [] => (b, [])
  | t :: rest =>
    let i := b.slots.length
    if a.isOpen t.key then
      let r := a.reply b.file t.key
      let b := { b with slots := b.slots ++ [some r] }
      if b.failure?.isSome then (b, [.started i t.key, .answered i t.key r])
      else
        let (b, events) := b.launch a rest
        (b, .started i t.key :: .answered i t.key r :: events)
    else
      let (b, events) := { b with slots := b.slots ++ [none] }.launch a rest
      (b, .started i t.key :: events)

/-- Start all lookups of a build. -/
def start (a : Analysis) (b : Build) : Build × List LookupEvent := b.launch a b.tokens

/-- The positions, counted from `index`, of empty slots whose tokens have a key. -/
def emptySlots (key : String) : (index : Nat) → List (Option Reply) → List Token → List Nat
  | index, slot :: slots, t :: tokens =>
    if slot.isNone && t.key = key then index :: emptySlots key (index + 1) slots tokens
    else emptySlots key (index + 1) slots tokens
  | _, _, _ => []

/-- The lookups of a key that wait, in the order of their tokens. -/
def waiting (b : Build) (key : String) : List Nat := emptySlots key 0 b.slots b.tokens

/-- Answer the lookups at the given positions, each of the given key, until the build ends. -/
def answer (a : Analysis) (b : Build) : List (Nat × String) → Build × List LookupEvent
  | [] => (b, [])
  | (i, key) :: rest =>
    let r := a.reply b.file key
    let b := { b with slots := b.slots.set i (some r) }
    if b.failure?.isSome then (b, [.answered i key r])
    else
      let (b, events) := b.answer a rest
      (b, .answered i key r :: events)

/-- Answer all lookups of a key that wait, until the build ends. -/
def release (a : Analysis) (key : String) (b : Build) : Build × List LookupEvent :=
  b.answer a ((b.waiting key).map fun i => (i, key))

/-! ## Builds that are told late of an open gate -/

/-- The positions, counted from `index`, and the keys of empty slots whose gates are open. -/
def openSlots (a : Analysis) :
    (index : Nat) → List (Option Reply) → List Token → List (Nat × String)
  | index, slot :: slots, t :: tokens =>
    if slot.isNone && a.isOpen t.key then (index, t.key) :: openSlots a (index + 1) slots tokens
    else openSlots a (index + 1) slots tokens
  | _, _, _ => []

/-- Answer all lookups that wait though their gates are open, until the build ends. -/
def resume (a : Analysis) (b : Build) : Build × List LookupEvent :=
  b.answer a (openSlots a 0 b.slots b.tokens)

/-- Whether a lookup of the key waits. -/
def isWaiting (b : Build) (key : String) : Bool := !(b.waiting key).isEmpty

/-- Whether the lookups that wait are the last ones of all. -/
def waitsAtEnd (b : Build) : Bool :=
  let late := b.slots.dropWhile Option.isSome
  !late.isEmpty && late.all Option.isNone

end Build

end TokenOutline
