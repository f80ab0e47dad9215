/-!
# URLs

A URL is held in its normalized parts; `Url.text` writes it. The path is either a list of segments,
each written after a slash, or, for a scheme whose path does not begin with a slash, opaque text.

* **`Url.text`**: the normalized text.
-/

namespace TokenOutline

namespace Url

/-- The host of a URL. -/
inductive Host where
  /-- No host, or an empty one. -/
  | empty
  /-- A name, in lower case where the scheme asks for it. -/
  | name (text : String)
  /-- An address of 32 bits. -/
  | v4 (address : Nat)
  /-- An address of eight groups of 16 bits. -/
  | v6 (groups : List Nat)
  deriving DecidableEq, Inhabited

/-- What stands between the two slashes and the path. -/
structure Authority where
  /-- The part before the `@`, encoded, with its colon; empty when there is none. -/
  credentials : String
  host : Host
  /-- A port other than the one the scheme implies. -/
  port : Option Nat
  deriving DecidableEq, Inhabited

/-- The path of a URL. -/
inductive Path where
  /-- Text that is not cut into segments. -/
  | opaqueText (text : String)
  /-- Segments, each after a slash; none for an empty path. -/
  | segments (segments : List String)
  deriving DecidableEq, Inhabited

end Url

/-- A URL without a base, in normalized parts. -/
structure Url where
  scheme : String
  authority : Option Url.Authority
  path : Url.Path
  query : Option String
  fragment : Option String
  deriving DecidableEq, Inhabited

namespace Url

/-! ## Text -/

/-- The four numbers of an address with points between them. -/
def v4Text (address : Nat) : String :=
  toString (address / 16777216 % 256) ++ "." ++ toString (address / 65536 % 256) ++ "." ++
    toString (address / 256 % 256) ++ "." ++ toString (address % 256)

/-- The number of zero groups at the head. -/
def zerosAtHead (groups : List Nat) : Nat := (groups.takeWhile (· = 0)).length

/-- Where the first longest run of at least two zero groups begins, and its length; the length is
zero when there is none. `before` groups stand before those given. -/
def longestZeros : (before : Nat) → List Nat → Nat × Nat
  | before, [] => (before, 0)
  | before, g :: gs =>
    let here := zerosAtHead (g :: gs)
    let later := longestZeros (before + 1) gs
    if 2 ≤ here && later.2 ≤ here then (before, here) else later

/-- Groups in hexadecimal digits with colons between them. -/
def groupsText (groups : List Nat) : String :=
  ":".intercalate (groups.map fun g => String.ofList (Nat.toDigits 16 g))

/-- The groups of an address, with `::` for the first longest run of zero groups. -/
def v6Text (groups : List Nat) : String :=
  match longestZeros 0 groups with
  | (_, 0) => groupsText groups
  | (start, length) =>
    groupsText (groups.take start) ++ "::" ++ groupsText (groups.drop (start + length))

/-- The text of a host. -/
def Host.text : Host → String
  | .empty => ""
  | .name t => t
  | .v4 a => v4Text a
  | .v6 gs => "[" ++ v6Text gs ++ "]"

/-- The text of an authority after its two slashes. -/
def Authority.text (a : Authority) : String :=
  (if a.credentials = "" then "" else a.credentials ++ "@") ++ a.host.text ++
    (match a.port with
      | some p => ":" ++ toString p
      | none => "")

/-- The text of a path. -/
def Path.text : Path → String
  | .opaqueText t => t
  | .segments ss => String.join (ss.map ("/" ++ ·))

/-- Whether the path begins with an empty segment that is not its last one. -/
def Path.beginsEmpty : Path → Bool
  | .segments ("" :: _ :: _) => true
  | _ => false

/-- The normalized text. A path that begins with an empty segment stands after `/.` when nothing
before it keeps its two slashes from reading as the mark of an authority. -/
def text (u : Url) : String :=
  u.scheme ++ ":" ++
    (match u.authority with
      | some a => "//" ++ a.text
      | none => if u.path.beginsEmpty then "/." else "") ++
    u.path.text ++
    (match u.query with
      | some q => "?" ++ q
      | none => "") ++
    (match u.fragment with
      | some f => "#" ++ f
      | none => "")

end Url

end TokenOutline
