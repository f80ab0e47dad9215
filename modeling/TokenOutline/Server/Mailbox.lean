/-!
# Mailboxes

Messages wait in a mailbox, in the order in which they were left, until they are taken. Whoever
leaves one while more than `room` others and this one wait has to wait, and each message that is
taken lets one of those who wait go on, the first one first. A receiver who finds the mailbox empty
listens, and is called by the next message.

* **`Mailbox.put`**, **`Mailbox.take`**: a message is left, and one is taken.
* **`Mailbox.items_put`**, **`Mailbox.items_take`**: the messages form a queue.
-/

namespace TokenOutline.Server

/-- A mailbox for messages of a type, left by senders of another. -/
structure Mailbox (σ α : Type) where
  /-- How many messages may wait without keeping their senders. -/
  room : Nat
  items : List α := []
  /-- The senders that wait, the first one at the head. -/
  waiting : List σ := []
  /-- The receiver has found it empty, and has not been called since. -/
  listening : Bool := false

namespace Mailbox

variable {σ α : Type}

/-- A message is left; the receiver has been called. -/
def put (m : Mailbox σ α) (sender : σ) (a : α) : Mailbox σ α :=
  { m with
    items := m.items ++ [a]
    waiting := if m.room ≤ m.items.length then m.waiting ++ [sender] else m.waiting
    listening := false }

/-- Whether a sender has to wait. -/
def keeps [DecidableEq σ] (m : Mailbox σ α) (sender : σ) : Bool := m.waiting.contains sender

/-- The first message is taken, and the first of those who wait may go on. -/
def take (m : Mailbox σ α) : Option (α × Option σ × Mailbox σ α) :=
  match m.items with
  | [] => none
  | a :: items => some (a, m.waiting.head?, { m with items, waiting := m.waiting.tail })

/-- The receiver listens. -/
def listen (m : Mailbox σ α) : Mailbox σ α := { m with listening := true }

/-- The receiver has been called. -/
def call (m : Mailbox σ α) : Mailbox σ α := { m with listening := false }

@[simp] theorem items_put (m : Mailbox σ α) (sender : σ) (a : α) :
    (m.put sender a).items = m.items ++ [a] := rfl

theorem items_take {m m' : Mailbox σ α} {a : α} {freed : Option σ}
    (h : m.take = some (a, freed, m')) : m.items = a :: m'.items := by
  unfold take at h
  split at h
  · cases h
  · next _ items hi => cases h; simp [hi]

end Mailbox

end TokenOutline.Server
