import TokenOutline.Server.Stream

/-!
# Frames that arrive in pieces

What is read from the beginning of a stream does not depend on what follows it, and what has to wait
is read the same with the rest behind it. So the pieces in which a frame arrives, and those in which
it is fetched into the buffer of `serve`, do not show in the message that is read.

Headlines:
* **`Frame.read_append`**, **`Frame.read_of_more`**: reading with more octets behind.
* `Stream.Unread`: the octets of a stream of which no frame has been read yet; `Stream.Waits`: and
  nothing is read of them before more arrives.
* **`Stream.next_frame`**, **`Stream.next_more`**: a frame that has arrived in full is read, and
  nothing is read of one that has not.
-/

namespace TokenOutline.Server

namespace Frame

/-! ## Lines -/

theorem takeWhile_append_of_dropWhile {p : UInt8 → Bool} {bs : List UInt8}
    (h : bs.dropWhile p ≠ []) (q : List UInt8) : (bs ++ q).takeWhile p = bs.takeWhile p := by
  have hlen : (bs.takeWhile p).length ≠ bs.length := by
    intro heq
    have hall := congrArg List.length (List.takeWhile_append_dropWhile (p := p) (l := bs))
    rw [List.length_append] at hall
    exact h (List.length_eq_zero_iff.mp (by omega))
  rw [List.takeWhile_append, if_neg hlen]

theorem dropWhile_append_of_dropWhile {p : UInt8 → Bool} {bs : List UInt8}
    (h : bs.dropWhile p ≠ []) (q : List UInt8) : (bs ++ q).dropWhile p = bs.dropWhile p ++ q := by
  rw [List.dropWhile_append, if_neg (by simpa using h)]

/-- Octets that do not begin with the end of a line, whatever follows them. -/
structure NoLineEnd (bs : List UInt8) : Prop where
  ne_nil : bs ≠ []
  ne_return : bs ≠ [13]
  ne_both : ∀ rest, bs ≠ 13 :: 10 :: rest
  ne_feed : ∀ rest, bs ≠ 10 :: rest

theorem NoLineEnd.append {bs : List UInt8} (h : NoLineEnd bs) (q : List UInt8) :
    NoLineEnd (bs ++ q) := by
  obtain ⟨x, more, rfl⟩ := List.exists_cons_of_ne_nil h.ne_nil
  have hreturn : x = 13 → ∃ y more', more = y :: more' ∧ y ≠ 10 := by
    rintro rfl
    cases more with
    | nil => exact absurd rfl h.ne_return
    | cons y more' => exact ⟨y, more', rfl, fun hy => h.ne_both more' (by rw [hy])⟩
  refine ⟨by simp, fun heq => ?_, fun rest heq => ?_, fun rest heq => ?_⟩
  · obtain ⟨y, more', rfl, -⟩ := hreturn (List.cons.inj heq).1
    simp at heq
  · obtain ⟨y, more', rfl, hy⟩ := hreturn (List.cons.inj heq).1
    simp [hy] at heq
  · exact h.ne_feed more (by rw [(List.cons.inj heq).1])

/-! ## Fields and blocks -/

/-- A field with more octets behind it. -/
def Field.followedBy (q : List UInt8) : Field → Field
  | .complete name value rest => .complete name value (rest ++ q)
  | f => f

/-- A block with more octets behind it. -/
def Block.followedBy (q : List UInt8) : Block → Block
  | .complete fields rest => .complete fields (rest ++ q)
  | b => b

/-- Only a colon ends the name of a field. -/
theorem readField_of_ne_colon {bs line : List UInt8} {b : UInt8}
    (hline : bs.dropWhile isNameOctet = b :: line) (hcolon : b ≠ 58) :
    readField bs = .malformed := by
  simp only [readField, hline]
  split
  · rfl
  · exact absurd ‹_› (List.cons_ne_nil b line)
  · rename_i heq _
    exact absurd (List.cons.inj heq).1 hcolon
  · rfl

theorem readField_append {bs : List UInt8} (hne : bs ≠ []) (h : readField bs ≠ .incomplete)
    (q : List UInt8) : readField (bs ++ q) = (readField bs).followedBy q := by
  have hparts := List.takeWhile_append_dropWhile (p := isNameOctet) (l := bs)
  cases hname : bs.takeWhile isNameOctet with
  | nil =>
    have hdrop : bs.dropWhile isNameOctet ≠ [] := by
      rw [hname, List.nil_append] at hparts
      rwa [hparts]
    simp only [readField, takeWhile_append_of_dropWhile hdrop, hname]
    rfl
  | cons n name =>
    cases hline : bs.dropWhile isNameOctet with
    | nil => exact absurd (by simp only [readField, hname, hline]) h
    | cons b line =>
      have hdrop : bs.dropWhile isNameOctet ≠ [] := by simp [hline]
      have hline' := dropWhile_append_of_dropWhile hdrop q
      rw [hline, List.cons_append] at hline'
      by_cases hcolon : b = 58
      · subst hcolon
        simp only [readField, hname, hline] at h
        simp only [readField, takeWhile_append_of_dropWhile hdrop, hname, hline', hline]
        have hblanks : line.dropWhile isBlankOctet ≠ [] := by
          intro hnil
          simp [hnil] at h
        have hvalue : (line.dropWhile isBlankOctet).dropWhile isValueOctet ≠ [] := by
          intro hnil
          simp [hnil] at h
        rw [dropWhile_append_of_dropWhile hblanks, takeWhile_append_of_dropWhile hvalue,
          dropWhile_append_of_dropWhile hvalue]
        generalize (line.dropWhile isBlankOctet).dropWhile isValueOctet = ends at h ⊢
        split at h
        · exact absurd rfl h
        · exact absurd rfl h
        · rfl
        · rfl
        · rename_i hnil hreturn hboth hfeed
          have hnone := NoLineEnd.append ⟨hnil, hreturn, hboth, hfeed⟩ q
          split
          · exact absurd ‹_› hnone.ne_nil
          · exact absurd ‹_› hnone.ne_return
          · exact absurd ‹_› (hnone.ne_both _)
          · exact absurd ‹_› (hnone.ne_feed _)
          · rfl
      · rw [readField_of_ne_colon hline' hcolon, readField_of_ne_colon hline hcolon]
        rfl

/-- A block that does not begin with its end begins with a field. -/
theorem readBlock_of_field {bs : List UInt8} (h : NoLineEnd bs) (slots : Nat) :
    readBlock slots bs = (match readField bs, slots with
      | .incomplete, _ => .incomplete
      | .malformed, _ | .complete .., 0 => .malformed
      | .complete name value rest, slots + 1 =>
        match readBlock slots rest with
        | .complete fields rest => .complete ((name, value) :: fields) rest
        | b => b) := by
  conv => lhs; unfold readBlock
  split
  · exact absurd rfl h.ne_nil
  · exact absurd rfl h.ne_return
  · exact absurd rfl (h.ne_both _)
  · exact absurd rfl (h.ne_feed _)
  · rfl

theorem readBlock_append {slots : Nat} {bs : List UInt8} (h : readBlock slots bs ≠ .incomplete)
    (q : List UInt8) : readBlock slots (bs ++ q) = (readBlock slots bs).followedBy q := by
  induction slots, bs using readBlock.induct with
  | case1 => exact absurd (by simp only [readBlock]) h
  | case2 => exact absurd (by simp only [readBlock]) h
  | case3 => simp only [List.cons_append, readBlock, Block.followedBy]
  | case4 => simp only [List.cons_append, readBlock, Block.followedBy]
  | case5 slots bs hnil hreturn hboth hfeed hfield =>
    rw [readBlock_of_field ⟨hnil, hreturn, hboth, hfeed⟩, hfield] at h
    exact absurd rfl h
  | case6 slots bs hnil hreturn hboth hfeed hfield =>
    have hnone : NoLineEnd bs := ⟨hnil, hreturn, hboth, hfeed⟩
    have hfield' := readField_append hnil (by simp [hfield]) q
    rw [hfield] at hfield'
    rw [readBlock_of_field (hnone.append q), readBlock_of_field hnone, hfield, hfield']
    rfl
  | case7 bs hnil hreturn hboth hfeed name value rest hfield =>
    have hnone : NoLineEnd bs := ⟨hnil, hreturn, hboth, hfeed⟩
    have hfield' := readField_append hnil (by simp [hfield]) q
    rw [hfield] at hfield'
    rw [readBlock_of_field (hnone.append q), readBlock_of_field hnone, hfield, hfield']
    rfl
  | case8 bs hnil hreturn hboth hfeed name value rest slots hfield fields rest' hblock ih =>
    have hnone : NoLineEnd bs := ⟨hnil, hreturn, hboth, hfeed⟩
    have hfield' := readField_append hnil (by simp [hfield]) q
    have hblock' := ih (by simp [hblock])
    rw [hfield] at hfield'
    rw [hblock] at hblock'
    rw [readBlock_of_field (hnone.append q), readBlock_of_field hnone, hfield, hfield']
    simp only [Field.followedBy, hblock', hblock, Block.followedBy]
  | case9 bs hnil hreturn hboth hfeed name value rest slots hfield hno ih =>
    have hnone : NoLineEnd bs := ⟨hnil, hreturn, hboth, hfeed⟩
    have hfield' := readField_append hnil (by simp [hfield]) q
    rw [hfield] at hfield'
    rw [readBlock_of_field hnone, hfield] at h
    rw [readBlock_of_field (hnone.append q), readBlock_of_field hnone, hfield, hfield']
    simp only [Field.followedBy] at h ⊢
    cases hblock : readBlock slots rest with
    | incomplete => simp [hblock] at h
    | malformed =>
      have hblock' := ih (by simp [hblock])
      rw [hblock] at hblock'
      simp [hblock', Block.followedBy]
    | complete fields rest' => exact absurd hblock (hno fields rest')

/-! ## Frames -/

/-- What is left of some octets with more behind it. -/
def Rest.followedBy (r : Rest) (q : List UInt8) : Rest := ⟨r.octets ++ q, r.length⟩

@[simp] theorem Rest.followedBy_nil (r : Rest) : r.followedBy [] = r := by
  simp [followedBy]

@[simp] theorem Rest.followedBy_followedBy (r : Rest) (p q : List UInt8) :
    (r.followedBy p).followedBy q = r.followedBy (p ++ q) := by
  simp [followedBy]

theorem readBody_of_lt {bs : List UInt8} {length : Nat} (h : bs.length < length) :
    readBody bs length = (⟨bs, some length⟩, .more) := by
  simp [readBody, h]

theorem readBody_append {bs : List UInt8} {length : Nat} (h : length ≤ bs.length)
    (q : List UInt8) : readBody (bs ++ q) length =
      ((readBody bs length).1.followedBy q, (readBody bs length).2) := by
  have hlong : ¬ (bs ++ q).length < length := by simp; omega
  unfold readBody
  rw [if_neg hlong, if_neg (Nat.not_lt.mpr h), List.drop_append_of_le_length h,
    List.take_append_of_le_length h]
  split
  · rfl
  · split <;> rfl

/-- **What has been read stays so**, whatever follows. -/
theorem read_append {r : Rest} (h : (read r).2 ≠ .more) (q : List UInt8) :
    read (r.followedBy q) = ((read r).1.followedBy q, (read r).2) := by
  have hbody : ∀ bs length, (readBody bs length).2 ≠ .more → length ≤ bs.length :=
    fun bs length hne => Nat.le_of_not_lt fun hlt => hne (by rw [readBody_of_lt hlt])
  unfold read at h ⊢
  simp only [Rest.followedBy]
  cases hlength : r.length with
  | some length =>
    simp only [hlength] at h ⊢
    exact readBody_append (hbody _ _ h) q
  | none =>
    simp only [hlength] at h ⊢
    have hblock : readBlock 2 r.octets ≠ .incomplete →
        readBlock 2 (r.octets ++ q) = (readBlock 2 r.octets).followedBy q :=
      fun hread => readBlock_append hread q
    cases hread : readBlock 2 r.octets with
    | incomplete => simp [hread] at h
    | malformed =>
      rw [hblock (by simp [hread]), hread]
      simp [Block.followedBy, hlength]
    | complete fields rest =>
      rw [hblock (by simp [hread]), hread]
      simp only [hread, Block.followedBy] at h ⊢
      cases hfields : bodyLength? fields none with
      | none => rfl
      | some length =>
        simp only [hfields] at h
        exact readBody_append (hbody _ _ h) q

/-- **What has to wait is read as if it had come with what follows it**, and goes on waiting until
then. -/
theorem read_of_more {r r' : Rest} {q : List UInt8} (hmore : read r = (r', .more))
    (h : (read (r.followedBy q)).2 ≠ .more) :
    (read r').2 = .more ∧ read (r'.followedBy q) = read (r.followedBy q) := by
  have hbody : ∀ {bs : List UInt8} {length : Nat}, readBody bs length = (r', .more) →
      (readBody (bs ++ q) length).2 ≠ .more → r' = ⟨bs, some length⟩ ∧ (read r').2 = .more := by
    intro bs length hwaits hne
    by_cases hlt : bs.length < length
    · rw [readBody_of_lt hlt] at hwaits
      obtain rfl := (Prod.mk.inj hwaits).1
      exact ⟨rfl, by simp only [read, readBody_of_lt hlt]⟩
    · rw [readBody_append (Nat.le_of_not_lt hlt), hwaits] at hne
      exact absurd rfl hne
  cases hlength : r.length with
  | some length =>
    simp only [read, hlength, Rest.followedBy] at hmore h ⊢
    obtain ⟨rfl, hwaits⟩ := hbody hmore h
    exact ⟨hwaits, rfl⟩
  | none =>
    have hblock : readBlock 2 r.octets ≠ .incomplete →
        readBlock 2 (r.octets ++ q) = (readBlock 2 r.octets).followedBy q :=
      fun hread => readBlock_append hread q
    cases hread : readBlock 2 r.octets with
    | incomplete =>
      have hsame : read r = (r, .more) := by simp only [read, hlength, hread]
      obtain rfl := (Prod.mk.inj (hsame.symm.trans hmore)).1
      exact ⟨by rw [hsame], rfl⟩
    | malformed => simp [read, hlength, hread] at hmore
    | complete fields rest =>
      have hblock := hblock (by simp [hread])
      rw [hread, Block.followedBy] at hblock
      cases hfields : bodyLength? fields none with
      | none => simp [read, hlength, hread, hfields] at hmore
      | some length =>
        simp only [read, hlength, Rest.followedBy, hblock, hread, hfields] at hmore h ⊢
        obtain ⟨rfl, hwaits⟩ := hbody hmore h
        exact ⟨hwaits, rfl⟩

/-! ## What is left -/

theorem length_readField {bs name value rest : List UInt8}
    (h : readField bs = .complete name value rest) : rest.length ≤ bs.length := by
  have hdrop : ∀ (p : UInt8 → Bool) (bs : List UInt8), (bs.dropWhile p).length ≤ bs.length :=
    fun p bs => (List.dropWhile_sublist p).length_le
  unfold readField at h
  split at h
  · cases h
  · cases h
  · rename_i line hline _
    have hlong := hdrop isNameOctet bs
    have hblanks := hdrop isBlankOctet line
    have hvalue := hdrop isValueOctet (line.dropWhile isBlankOctet)
    rw [hline, List.length_cons] at hlong
    dsimp only at h
    split at h
    · cases h
    · cases h
    · rename_i hends
      rw [hends, List.length_cons, List.length_cons] at hvalue
      obtain ⟨-, -, rfl⟩ := Field.complete.inj h
      omega
    · rename_i hends
      rw [hends, List.length_cons] at hvalue
      obtain ⟨-, -, rfl⟩ := Field.complete.inj h
      omega
    · cases h
  · cases h

theorem length_readBlock {slots : Nat} {bs rest : List UInt8}
    {fields : List (List UInt8 × List UInt8)} (h : readBlock slots bs = .complete fields rest) :
    rest.length ≤ bs.length := by
  induction slots, bs using readBlock.induct generalizing fields rest with
  | case1 => simp [readBlock] at h
  | case2 => simp [readBlock] at h
  | case3 =>
    simp only [readBlock, Block.complete.injEq] at h
    rw [← h.2, List.length_cons, List.length_cons]
    omega
  | case4 =>
    simp only [readBlock, Block.complete.injEq] at h
    rw [← h.2, List.length_cons]
    omega
  | case5 slots bs hnil hreturn hboth hfeed hfield =>
    rw [readBlock_of_field ⟨hnil, hreturn, hboth, hfeed⟩, hfield] at h
    cases h
  | case6 slots bs hnil hreturn hboth hfeed hfield =>
    rw [readBlock_of_field ⟨hnil, hreturn, hboth, hfeed⟩, hfield] at h
    cases h
  | case7 bs hnil hreturn hboth hfeed name value rest hfield =>
    rw [readBlock_of_field ⟨hnil, hreturn, hboth, hfeed⟩, hfield] at h
    cases h
  | case8 bs hnil hreturn hboth hfeed name value line slots hfield fields' rest' hblock ih =>
    rw [readBlock_of_field ⟨hnil, hreturn, hboth, hfeed⟩, hfield] at h
    simp only [hblock, Block.complete.injEq] at h
    exact h.2 ▸ Nat.le_trans (ih hblock) (length_readField hfield)
  | case9 bs hnil hreturn hboth hfeed name value line slots hfield hno ih =>
    rw [readBlock_of_field ⟨hnil, hreturn, hboth, hfeed⟩, hfield] at h
    simp only at h
    exact absurd h (hno _ _)

theorem length_read (r : Rest) : (read r).1.octets.length ≤ r.octets.length := by
  have hbody : ∀ bs length, (readBody bs length).1.octets.length ≤ bs.length := by
    intro bs length
    unfold readBody
    split
    · exact Nat.le_refl _
    · have hdrop : (bs.drop length).length ≤ bs.length := by simp
      dsimp only
      split
      · exact hdrop
      · split <;> exact hdrop
  unfold read
  split
  · exact hbody _ _
  · split
    · exact Nat.le_refl _
    · exact Nat.le_refl _
    · rename_i hblock
      have hrest := length_readBlock hblock
      split
      · exact Nat.le_trans (hbody _ _) hrest
      · exact hrest

end Frame

/-! ## Streams -/

namespace Stream

variable {s : Stream} {bs : List UInt8}

/-- No frame has been read yet of some octets: what the buffer holds reads like them when what has
arrived since is put behind it. -/
structure Unread (s : Stream) (bs : List UInt8) : Prop where
  ended : s.ended = false
  room : s.start + s.held.octets.length ≤ s.size
  size : 0 < s.size
  reads : ∀ q, (Frame.read ⟨bs ++ q, none⟩).2 ≠ .more →
    Frame.read (s.held.followedBy (s.arrived ++ q)) = Frame.read ⟨bs ++ q, none⟩
  /-- What the buffer holds has been tried, or is about to be. -/
  tried : s.fresh = false → (Frame.read s.held).2 = .more

theorem unread_nil : ({} : Stream).Unread [] where
  ended := rfl
  room := Nat.zero_le _
  size := by decide
  reads q _ := rfl
  tried _ := rfl

/-- Nothing is read of a stream before more arrives. -/
structure Waits (s : Stream) (bs : List UInt8) : Prop extends Unread s bs where
  arrived : s.arrived = []
  fresh : s.fresh = false
  closed : s.closed = false

theorem waits_nil : ({} : Stream).Waits [] := ⟨unread_nil, rfl, rfl, rfl⟩

/-- More octets arrive. -/
theorem Unread.arrive (h : s.Unread bs) (q : List UInt8) : (s.arrive q).Unread (bs ++ q) where
  ended := h.ended
  room := h.room
  size := h.size
  reads q' hread := by
    rw [List.append_assoc] at hread ⊢
    simpa [Stream.arrive] using h.reads (q ++ q') hread
  tried := h.tried

/-- There is room for an octet after room has been made. -/
theorem Unread.makeRoom (h : s.Unread bs) :
    s.makeRoom.Unread bs ∧ s.makeRoom.start + s.makeRoom.held.octets.length < s.makeRoom.size := by
  have hroom := h.room
  have hsize := h.size
  unfold Stream.makeRoom
  dsimp only
  split
  · exact ⟨h, ‹_›⟩
  · split
    · exact ⟨⟨h.ended, by dsimp only; omega, h.size, h.reads, h.tried⟩, by dsimp only; omega⟩
    · exact ⟨⟨h.ended, by dsimp only; omega, by dsimp only; omega, h.reads, h.tried⟩,
        by dsimp only; omega⟩

/-- Room is made by moving what the buffer holds, or by a larger buffer. -/
theorem makeRoom_eq (s : Stream) : ∃ start size, s.makeRoom = { s with start, size } := by
  unfold makeRoom
  dsimp only
  split
  · exact ⟨_, _, rfl⟩
  · split <;> exact ⟨_, _, rfl⟩

@[simp] theorem arrived_makeRoom (s : Stream) : s.makeRoom.arrived = s.arrived := by
  obtain ⟨start, size, hroom⟩ := makeRoom_eq s
  rw [hroom]

@[simp] theorem closed_makeRoom (s : Stream) : s.makeRoom.closed = s.closed := by
  obtain ⟨start, size, hroom⟩ := makeRoom_eq s
  rw [hroom]

@[simp] theorem fresh_makeRoom (s : Stream) : s.makeRoom.fresh = s.fresh := by
  obtain ⟨start, size, hroom⟩ := makeRoom_eq s
  rw [hroom]

/-- A piece of what has arrived is fetched. -/
theorem Unread.fetch (h : s.Unread bs) :
    { s.fetch with fresh := true, ended := false }.Unread bs := by
  obtain ⟨h', hroom⟩ := h.makeRoom
  refine ⟨rfl, ?_, h'.size, fun q hread => ?_, fun hfresh => absurd hfresh (by simp)⟩
  · simp only [Stream.fetch, List.length_append, List.length_take]
    omega
  · rw [← h'.reads q hread]
    simp only [Stream.fetch, Frame.Rest.followedBy, List.append_assoc, arrived_makeRoom]
    rw [← List.append_assoc (List.take _ _), List.take_append_drop]

theorem length_arrived_fetch (h : s.Unread bs) (hne : s.arrived ≠ []) :
    s.fetch.arrived.length < s.arrived.length := by
  obtain ⟨h', hroom⟩ := h.makeRoom
  have hpos := List.length_pos_iff.mpr hne
  simp only [Stream.fetch, List.length_drop, arrived_makeRoom]
  omega

/-- What is left when something has been read from what the buffer holds. -/
theorem readHeld_eq (h : s.ended = false) :
    s.readHeld = ({ s with
      held := (Frame.read s.held).1
      start := s.start + (s.held.octets.length - (Frame.read s.held).1.octets.length) },
      (Frame.read s.held).2) := by
  simp [readHeld, h]

/-- What the buffer holds is tried in vain, though there may be a frame when more has arrived. -/
theorem Unread.readHeld (h : s.Unread bs) (hmore : (Frame.read s.held).2 = .more) {q : List UInt8}
    (hread : (Frame.read ⟨bs ++ q, none⟩).2 ≠ .more) :
    { s.readHeld.1 with fresh := false }.Unread bs := by
  have hlong := Frame.length_read s.held
  have hroom := h.room
  have hwaits : ∀ q, (Frame.read ⟨bs ++ q, none⟩).2 ≠ .more →
      (Frame.read (Frame.read s.held).1).2 = .more ∧
        Frame.read ((Frame.read s.held).1.followedBy (s.arrived ++ q)) =
          Frame.read ⟨bs ++ q, none⟩ := fun q hread => by
    have hreads := h.reads q hread
    rw [← hreads] at hread ⊢
    exact Frame.read_of_more (Prod.ext rfl hmore) hread
  rw [readHeld_eq h.ended]
  exact ⟨h.ended, by dsimp only; omega, h.size, fun q hread => (hwaits q hread).2,
    fun _ => (hwaits q hread).1⟩

/-- What the buffer holds has been tried in vain. -/
theorem nextWithin_of_held (fuel : Nat) (hended : s.ended = false) (hfresh : s.fresh = true)
    (hmore : (Frame.read s.held).2 = .more) :
    s.nextWithin (fuel + 1) = { s.readHeld.1 with fresh := false }.nextWithin fuel := by
  simp [nextWithin, hfresh, readHeld_eq hended, hmore, hended]

/-- There is something to fetch. -/
theorem nextWithin_of_arrived (fuel : Nat) (hfresh : s.fresh = false) (hne : s.arrived ≠ []) :
    s.nextWithin (fuel + 1) =
      { s.fetch with fresh := true, ended := false }.nextWithin fuel := by
  simp [nextWithin, hfresh, hne]

/-- **A frame that has arrived in full is read**, in whatever pieces it is fetched. -/
theorem nextWithin_frame {content : Frame.Content} {rest : List UInt8} (fuel : Nat)
    (h : s.Unread bs) (hframe : Frame.read ⟨bs, none⟩ = (⟨rest, none⟩, .content content))
    (hfuel : 2 * s.arrived.length + (if s.fresh then 2 else 1) ≤ fuel) :
    ∃ s', s.nextWithin fuel = (s', .content content) ∧ s'.Unread rest ∧ s'.closed = s.closed := by
  induction fuel generalizing s with
  | zero => split at hfuel <;> omega
  | succ fuel ih =>
    have hread : (Frame.read ⟨bs ++ [], none⟩).2 ≠ .more := by simp [hframe]
    have hreads := h.reads [] hread
    rw [List.append_nil, List.append_nil, hframe] at hreads
    by_cases hfresh : s.fresh
    · cases hheld : (Frame.read s.held).2 with
      | more =>
        rw [nextWithin_of_held fuel h.ended hfresh hheld]
        obtain ⟨s', hs', hleft, hclosed⟩ := ih (h.readHeld hheld hread)
          (by rw [readHeld_eq h.ended]; simp [hfresh] at hfuel ⊢; omega)
        exact ⟨s', hs', hleft, by rw [hclosed, readHeld_eq h.ended]⟩
      | content content' =>
        have happend := Frame.read_append (r := s.held) (by simp [hheld]) s.arrived
        rw [hreads] at happend
        obtain ⟨hleft, hcontent⟩ := Prod.mk.inj happend
        rw [hheld] at hcontent
        obtain rfl := Frame.Result.content.inj hcontent
        refine ⟨s.readHeld.1, ?_, ?_, by rw [readHeld_eq h.ended]⟩
        · simp [nextWithin, hfresh, readHeld_eq h.ended, hheld]
        · have hlong := Frame.length_read s.held
          have hroom := h.room
          rw [readHeld_eq h.ended]
          refine ⟨h.ended, by dsimp only; omega, h.size, fun q _ => ?_, fun hno => ?_⟩
          · rw [← Frame.Rest.followedBy_followedBy, ← hleft]
            rfl
          · exact absurd hfresh (by simp at hno; simp [hno])
      | broken why =>
        have happend := Frame.read_append (r := s.held) (by simp [hheld]) s.arrived
        rw [hreads, hheld] at happend
        cases (Prod.mk.inj happend).2
    · have hwaits := h.tried (by simpa using hfresh)
      have hne : s.arrived ≠ [] := by
        intro hnil
        rw [hnil, Frame.Rest.followedBy_nil] at hreads
        rw [hreads] at hwaits
        cases hwaits
      have hshort := length_arrived_fetch h hne
      rw [nextWithin_of_arrived fuel (by simpa using hfresh) hne]
      obtain ⟨s', hs', hleft, hclosed⟩ := ih h.fetch (by simp [hfresh] at hfuel ⊢; omega)
      exact ⟨s', hs', hleft, by rw [hclosed]; simp [fetch]⟩

theorem next_frame {content : Frame.Content} {rest : List UInt8} (h : s.Unread bs)
    (hframe : Frame.read ⟨bs, none⟩ = (⟨rest, none⟩, .content content)) :
    ∃ s', s.next = (s', .content content) ∧ s'.Unread rest ∧ s'.closed = s.closed :=
  nextWithin_frame _ h hframe (by split <;> omega)

/-- **Nothing is read of a frame that has not arrived in full.** -/
theorem nextWithin_more {content : Frame.Content} {q : List UInt8} (fuel : Nat)
    (h : s.Unread bs) (hclosed : s.closed = false) (hq : q ≠ [])
    (hframe : Frame.read ⟨bs ++ q, none⟩ = (⟨[], none⟩, .content content))
    (hfuel : 2 * s.arrived.length + (if s.fresh then 2 else 1) ≤ fuel) :
    ∃ s', s.nextWithin fuel = (s', .more) ∧ s'.Waits bs := by
  induction fuel generalizing s with
  | zero => split at hfuel <;> omega
  | succ fuel ih =>
    have hread : (Frame.read ⟨bs ++ q, none⟩).2 ≠ .more := by simp [hframe]
    have hreads := h.reads q hread
    rw [hframe] at hreads
    by_cases hfresh : s.fresh
    · have hheld : (Frame.read s.held).2 = .more := by
        refine Classical.byContradiction fun hne => ?_
        have happend := Frame.read_append hne (s.arrived ++ q)
        rw [hreads] at happend
        have hleft := congrArg (·.octets.length) (Prod.mk.inj happend).1
        have hpos := List.length_pos_iff.mpr hq
        simp [Frame.Rest.followedBy] at hleft
        omega
      rw [nextWithin_of_held fuel h.ended hfresh hheld]
      exact ih (h.readHeld hheld hread) (by rw [readHeld_eq h.ended]; exact hclosed)
        (by rw [readHeld_eq h.ended]; simp [hfresh] at hfuel ⊢; omega)
    · by_cases hnil : s.arrived = []
      · refine ⟨s.makeRoom, ?_, h.makeRoom.1, by simp [hnil], by simpa using hfresh,
          by simp [hclosed]⟩
        simp [nextWithin, hfresh, hnil, hclosed]
      · have hshort := length_arrived_fetch h hnil
        rw [nextWithin_of_arrived fuel (by simpa using hfresh) hnil]
        exact ih h.fetch (by simp [fetch, hclosed]) (by simp [hfresh] at hfuel ⊢; omega)

theorem next_more {content : Frame.Content} {q : List UInt8} (h : s.Unread bs)
    (hclosed : s.closed = false) (hq : q ≠ [])
    (hframe : Frame.read ⟨bs ++ q, none⟩ = (⟨[], none⟩, .content content)) :
    ∃ s', s.next = (s', .more) ∧ s'.Waits bs :=
  nextWithin_more _ h hclosed hq hframe (by split <;> omega)

/-- Nothing comes of a stream that waits. -/
theorem Waits.next (h : s.Waits bs) : s.next = (s.makeRoom, .more) := by
  simp [Stream.next, nextWithin, h.arrived, h.fresh, h.closed]

/-- Something has to arrive before a frame can be read. -/
theorem Waits.ne_nil (h : s.Waits bs) {q : List UInt8}
    (hread : (Frame.read ⟨bs ++ q, none⟩).2 ≠ .more) : q ≠ [] := by
  rintro rfl
  have hreads := h.reads [] hread
  rw [h.arrived, List.append_nil, Frame.Rest.followedBy_nil] at hreads
  exact hread (hreads ▸ h.tried h.fresh)

theorem Waits.makeRoom (h : s.Waits bs) : s.makeRoom.Waits bs :=
  ⟨h.toUnread.makeRoom.1, by simp [h.arrived], by simp [h.fresh], by simp [h.closed]⟩

end Stream

end TokenOutline.Server
