import TokenOutline.Url.Basic

/-!
# Documents

Models `ServerState`: which documents are open, the one opened last at the end, and which one is
active. A document that is opened becomes active; when the active one is closed, the one opened last
of those that are still open does.
-/

namespace TokenOutline.Server

/-- The documents of an editor. -/
structure Documents where
  opened : List Url
  active : Option Url
  deriving DecidableEq, Inhabited

namespace Documents

/-- No document is open. -/
def none : Documents := ⟨[], Option.none⟩

/-- A document is opened, for the first time or again (`ServerState::open`). -/
def «open» (d : Documents) (u : Url) : Documents :=
  ⟨d.opened.filter (· ≠ u) ++ [u], some u⟩

/-- A document is closed (`ServerState::close`). -/
def close (d : Documents) (u : Url) : Documents :=
  let opened := d.opened.filter (· ≠ u)
  ⟨opened, if d.active = some u then opened.getLast? else d.active⟩

/-- A document, or none, becomes active (`active_document_changed`). -/
def activate (d : Documents) (u : Option Url) : Documents := { d with active := u }

end Documents

end TokenOutline.Server
