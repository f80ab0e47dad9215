import TokenOutline.Server.Frame

/-!
# Frames from a stream

The input of `serve`. Octets that have arrived are fetched into a buffer piece by piece, and after
each piece it is tried to read a frame. The buffer takes a piece as long as the room behind the
octets that it holds; when there is none, the octets move to its front if they fit before where they
stand, and otherwise the buffer grows to twice its size. Where pieces end shows only behind an empty
body, which gives nothing and makes the next piece be fetched.

* **`Stream.next`**: the next frame of a stream.
-/

namespace TokenOutline.Server

/-- A stream that is being read. -/
structure Stream where
  /-- The octets that have arrived and are not in the buffer. -/
  arrived : List UInt8 := []
  /-- The last octet has arrived. -/
  closed : Bool := false
  /-- What the buffer holds. -/
  held : Frame.Rest := ⟨[], none⟩
  /-- Where in the buffer it stands. -/
  start : Nat := 0
  /-- The size of the buffer. -/
  size : Nat := 8192
  /-- A frame may be read from what the buffer holds. -/
  fresh : Bool := false
  /-- The end of the stream has been seen. -/
  ended : Bool := false

namespace Stream

/-- What comes next of a stream. -/
inductive Next where
  /-- Nothing before more arrives. -/
  | more
  /-- Nothing any more. -/
  | ended
  | content (content : Frame.Content)
  /-- Something that is no frame. -/
  | broken (why : Refusal)

/-- More octets arrive. -/
def arrive (s : Stream) (bs : List UInt8) : Stream := { s with arrived := s.arrived ++ bs }

/-- Nothing more is read. -/
def stop (s : Stream) : Stream :=
  { s with arrived := [], closed := true, fresh := false, ended := true }

/-- Make room for at least one octet. -/
def makeRoom (s : Stream) : Stream :=
  let held := s.held.octets.length
  if s.start + held < s.size then s
  else if held ≤ s.start then { s with start := 0 }
  else { s with size := 2 * s.size }

/-- Fetch a piece of what has arrived. -/
def fetch (s : Stream) : Stream :=
  let s := s.makeRoom
  let room := s.size - s.start - s.held.octets.length
  { s with
    arrived := s.arrived.drop room
    held := ⟨s.held.octets ++ s.arrived.take room, s.held.length⟩ }

/-- Read a frame from what the buffer holds. -/
def readHeld (s : Stream) : Stream × Frame.Result :=
  let (held, result) := if s.ended then Frame.readLast s.held else Frame.read s.held
  ({ s with held, start := s.start + (s.held.octets.length - held.octets.length) }, result)

/-- Read and fetch by turns; `fuel` bounds how often. -/
def nextWithin : (fuel : Nat) → Stream → Stream × Next
  | 0, s => (s, .more)
  | fuel + 1, s =>
    if s.fresh then
      match s.readHeld with
      | (s, .content content) => (s, .content content)
      | (s, .broken why) => (s, .broken why)
      | (s, .more) =>
        if s.ended then ({ s with fresh := false }, .ended)
        else nextWithin fuel { s with fresh := false }
    else if s.arrived.isEmpty then
      if !s.closed then (s.makeRoom, .more)
      else if s.ended then (s, .ended)
      else nextWithin fuel { s with fresh := true, ended := true }
    else nextWithin fuel { s.fetch with fresh := true, ended := false }

/-- The next frame of a stream. -/
def next (s : Stream) : Stream × Next := nextWithin (2 * s.arrived.length + 4) s

end Stream

end TokenOutline.Server
