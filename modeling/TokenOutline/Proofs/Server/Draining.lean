import TokenOutline.Proofs.Server.Connection
import TokenOutline.Proofs.Server.Stream

/-!
# Work that comes to an end

When nothing more arrives, what a connection has left to do gets less turn by turn: responses and
notices that have been left are written, and the jobs of requests that have been given up are
answered. What the session comes to by it, and what is sent on the whole, is settled beforehand.

Headlines:
* `Connection.Drains`: nothing is left to do but what the requests that have been given up and the
  mailboxes ask for, and what it comes to.
* **`Connection.Drains.turn`**: a turn leaves less to do, and it comes to the same.
* **`Connection.Drains.turns`**: turn by turn all of it is done.
-/

namespace TokenOutline.Server

/-- A mailbox of some size in which nothing waits. -/
structure Mailbox.Clear {σ α : Type} (m : Mailbox σ α) (room : Nat) : Prop where
  room : m.room = room
  items : m.items = []
  waiting : m.waiting = []

/-- A job in hand of which nothing is to be done but to wait, unless its request is given up. -/
inductive InHand.Light (h : InHand) : Prop where
  /-- Its build waits for lookups. -/
  | waits (slot : Slot) (hstage : h.stage = .building) (hslot : h.job.slot? = some slot)
      (hstarts : h.job.starts = false)
  /-- It has not begun, and there is nothing to be done. -/
  | idle (hstage : h.stage = .fresh) (hjob : h.job = ⟨.none, false⟩)

namespace Connection

variable {c : Connection} {unread : List UInt8} {s : Session} {e : Effects}

/-! ## What is left to do -/

/-- How much has been left for the writer. -/
def unsent (c : Connection) : Nat := c.responses.items.length + c.notices.items.length

/-- What has come of jobs and has not been sent. -/
def owed (c : Connection) : List Outgoing :=
  c.responses.items.map .response ++ c.notices.items.map .notice ++
    c.finishedResponse.toList.map .response

/-- How much there is to do. -/
def left (c : Connection) : Nat :=
  3 * c.called.length + 2 * c.finishedResponse.toList.length + c.unsent

/-- The parts of a connection are in order, and only the worker waits for anything but octets. -/
structure Steady (c : Connection) (unread : List UInt8) : Prop where
  load : c.load.Sound
  gates : c.session.outline.AtGates
  stream : c.stream.Waits unread
  reading : c.reading = .reading
  answers : c.responsesEnded = false
  works : c.workFinished = false
  silent : c.noticesEnded = true → c.session.silent = true ∧ c.notices.items = []
  jobs : c.jobs.Clear capacity
  responsesRoom : c.responses.room = 0
  responsesWaiting : c.responses.waiting = c.responses.items.map fun _ => .worker
  noticesRoom : c.notices.room = 1
  noticesWaiting : c.notices.waiting = []

/-- Nothing is left to do but for the writer and for the jobs that have been called, and it comes to
the session `s` and the effects `e`. -/
structure Drains (c : Connection) (unread : List UInt8) (s : Session) (e : Effects) : Prop
    extends Steady c unread where
  light : ∀ h ∈ c.inHand, h.Light
  /-- Whatever has not begun or is given up has been called. -/
  called : ∀ h ∈ c.inHand,
    (h.stage = .fresh ∨ ∃ slot ∈ c.session.givenUp, h.job.slot? = some slot) → h.number ∈ c.called
  nodup_givenUp : c.session.givenUp.Nodup
  session : c.session.answerGivenUp.1 = s
  outgoing : (c.effects.outgoing ++ c.owed ++ c.session.answerGivenUp.2).Perm e.outgoing
  events : c.effects.events = e.events

/-- There is less to do, or as much and no other turn has been called for. -/
def Moves (c d : Connection) : Prop :=
  (d.again = c.again ∧ d.left = c.left) ∨ d.left < c.left

theorem Moves.left_le {d : Connection} (h : c.Moves d) : d.left ≤ c.left := by
  rcases h with ⟨-, heq⟩ | hlt
  · exact heq.le
  · exact hlt.le

theorem Moves.trans {d d' : Connection} (h : c.Moves d) (h' : d.Moves d') : c.Moves d' := by
  rcases h with ⟨hagain, hleft⟩ | hlt
  · rcases h' with ⟨hagain', hleft'⟩ | hlt'
    · exact .inl ⟨hagain'.trans hagain, hleft'.trans hleft⟩
    · exact .inr (hlt'.trans_eq hleft)
  · exact .inr (h'.left_le.trans_lt hlt)

/-! ## Writing -/

theorem writeResponse_nil (hitems : c.responses.items = []) (hreading : c.reading = .reading) :
    c.writeResponse = ({ c with responses := c.responses.listen }, false) := by
  simp [writeResponse, Mailbox.take, hitems, responsesClosed, hreading]

theorem writeResponse_cons {r : Response} {rs : List Response}
    (hitems : c.responses.items = r :: rs) :
    c.writeResponse = ({ c with responses := { c.responses with
      items := rs, waiting := c.responses.waiting.tail } }.send (.response r), true) := by
  simp [writeResponse, Mailbox.take, hitems]

theorem noticesEnded_writeResponse (c : Connection) :
    c.writeResponse.1.noticesEnded = c.noticesEnded := by
  unfold writeResponse
  split
  · rfl
  · dsimp only
    split <;> rfl

theorem writeNotice_nil (hitems : c.notices.items = []) (hreading : c.reading = .reading) :
    c.writeNotice = (if c.session.silent then { c with noticesEnded := true }
      else { c with notices := c.notices.listen }, false) := by
  simp [writeNotice, Mailbox.take, hitems, hreading]

theorem writeNotice_cons {n : Notice} {ns : List Notice} (hitems : c.notices.items = n :: ns)
    (hwaiting : c.notices.waiting = []) (hreading : c.reading = .reading) :
    c.writeNotice = ({ c with notices := { c.notices with items := ns } }.send (.notice n),
      true) := by
  simp [writeNotice, Mailbox.take, hitems, hreading, hwaiting]

/-- A part of writing, which tells whether there was something to write. -/
structure Writes (c : Connection) (unread : List UInt8) (s : Session) (e : Effects)
    (w : Connection × Bool) : Prop where
  drains : w.1.Drains unread s e
  called : w.1.called = c.called
  finished : w.1.finishedResponse = c.finishedResponse
  unsent : w.1.unsent + w.2.toNat = c.unsent
  again : w.1.again = (c.again || w.2)

/-- The writer has no responses, and is called by the next one. -/
def HearsResponses (c : Connection) : Prop :=
  c.responses.items = [] ∧ c.responses.listening = true

/-- The writer has no notices, and is called by the next one if any may come. -/
def HearsNotices (c : Connection) : Prop :=
  c.notices.items = [] ∧ (c.noticesEnded = false → c.notices.listening = true)

theorem Drains.writeResponse (h : c.Drains unread s e) : c.Writes unread s e c.writeResponse := by
  cases hitems : c.responses.items with
  | nil =>
    rw [writeResponse_nil hitems h.reading]
    exact ⟨{ h with }, rfl, rfl, rfl, (Bool.or_false _).symm⟩
  | cons r rs =>
    rw [writeResponse_cons hitems]
    refine ⟨{ h with responsesWaiting := ?_, outgoing := ?_ }, rfl, rfl, ?_, (Bool.or_true _).symm⟩
    · simp [send, h.responsesWaiting, hitems]
    · have hout := h.outgoing
      simpa [owed, send, hitems] using hout
    · simp [Connection.unsent, send, hitems]
      omega

theorem Drains.writeNotice (h : c.Drains unread s e) (hopen : c.noticesEnded = false) :
    c.Writes unread s e c.writeNotice := by
  cases hitems : c.notices.items with
  | nil =>
    rw [writeNotice_nil hitems h.reading]
    cases hsilent : c.session.silent with
    | true => exact ⟨{ h with silent := fun _ => ⟨hsilent, hitems⟩ }, rfl, rfl, rfl,
        (Bool.or_false _).symm⟩
    | false => exact ⟨{ h with }, rfl, rfl, rfl, (Bool.or_false _).symm⟩
  | cons n ns =>
    rw [writeNotice_cons hitems h.noticesWaiting h.reading]
    refine ⟨{ h with silent := ?_, outgoing := ?_ }, rfl, rfl, ?_, (Bool.or_true _).symm⟩
    · intro hended
      exact absurd (hopen.symm.trans hended) (by simp)
    · refine List.Perm.trans ?_ h.outgoing
      simp only [owed, send, hitems, List.map_cons, List.append_assoc, List.cons_append,
        List.nil_append]
      exact List.perm_middle.symm.append_left _
    · simp [Connection.unsent, send, hitems]
      omega

/-- Something is looked for, and something else if that was in vain. -/
theorem Writes.orElse {w w' : Connection × Bool} {P Q : Connection → Prop}
    (h : c.Writes unread s e w) (hnone : w.2 = false → P w.1)
    (h' : w.2 = false → w.1.Writes unread s e w')
    (hnone' : w.2 = false → w'.2 = false → Q w'.1 ∧ (P w.1 → P w'.1)) :
    c.Writes unread s e (if w.2 then w else w') ∧
      ((if w.2 then w else w').2 = false →
        P (if w.2 then w else w').1 ∧ Q (if w.2 then w else w').1) := by
  cases hwrote : w.2 with
  | true => exact ⟨h, fun hnot => absurd (hwrote.symm.trans hnot) (by simp)⟩
  | false =>
    simp only [Bool.false_eq_true, if_false]
    have hsecond := h' hwrote
    have hunsent := h.unsent
    have hagain := h.again
    rw [hwrote] at hunsent hagain
    rw [Bool.or_false] at hagain
    refine ⟨⟨hsecond.drains, hsecond.called.trans h.called, hsecond.finished.trans h.finished,
      hsecond.unsent.trans hunsent, by rw [hsecond.again, hagain]⟩, fun hnot => ?_⟩
    obtain ⟨hfound, hkeeps⟩ := hnone' hwrote hnot
    exact ⟨hkeeps (hnone hwrote), hfound⟩

/-- Whoever finds no response listens. -/
theorem Drains.hears_writeResponse (h : c.Drains unread s e) (hnone : c.writeResponse.2 = false) :
    c.writeResponse.1.HearsResponses ∧ (c.HearsNotices → c.writeResponse.1.HearsNotices) := by
  cases hitems : c.responses.items with
  | nil =>
    rw [writeResponse_nil hitems h.reading]
    exact ⟨⟨hitems, rfl⟩, id⟩
  | cons r rs =>
    rw [writeResponse_cons hitems] at hnone
    cases hnone

/-- Whoever finds no notice listens, unless none may come any more. -/
theorem Drains.hears_writeNotice (h : c.Drains unread s e) (hnone : c.writeNotice.2 = false) :
    c.writeNotice.1.HearsNotices ∧ (c.HearsResponses → c.writeNotice.1.HearsResponses) := by
  cases hitems : c.notices.items with
  | nil =>
    rw [writeNotice_nil hitems h.reading]
    cases c.session.silent with
    | true => exact ⟨⟨hitems, fun hended => absurd hended (by simp)⟩, id⟩
    | false => exact ⟨⟨hitems, fun _ => rfl⟩, id⟩
  | cons n ns =>
    rw [writeNotice_cons hitems h.noticesWaiting h.reading] at hnone
    cases hnone

/-- Whoever finds neither responses nor notices listens to both. -/
theorem Drains.writeOne (h : c.Drains unread s e) :
    c.Writes unread s e c.writeOne ∧
      (c.writeOne.2 = false → c.writeOne.1.HearsResponses ∧ c.writeOne.1.HearsNotices) := by
  cases hnotices : c.noticesEnded with
  | true =>
    have hone : c.writeOne = c.writeResponse := by
      simp [Connection.writeOne, h.answers, hnotices]
    rw [hone]
    refine ⟨h.writeResponse, fun hnone => ?_⟩
    obtain ⟨hresponses, hkeeps⟩ := h.hears_writeResponse hnone
    exact ⟨hresponses, hkeeps ⟨(h.silent hnotices).2, fun hopen =>
      absurd (hnotices.symm.trans hopen) (by simp)⟩⟩
  | false =>
    let d : Connection := { c with responsesNext := !c.responsesNext }
    have hd : d.Drains unread s e := { h with }
    have hsame : ∀ w, d.Writes unread s e w → c.Writes unread s e w :=
      fun w hw => ⟨hw.drains, hw.called, hw.finished, hw.unsent, hw.again⟩
    have hboth := writeOne_both h.answers hnotices
    cases hnext : c.responsesNext with
    | true =>
      -- responses are looked at first
      have hone : c.writeOne = if d.writeResponse.2 then d.writeResponse
          else d.writeResponse.1.writeNotice := by
        rw [hboth]
        simp [d, hnext]
      have hfirst := hd.writeResponse
      have hopen := (noticesEnded_writeResponse d).trans hnotices
      obtain ⟨hwrites, hhears⟩ := hfirst.orElse
        (fun hnone => (hd.hears_writeResponse hnone).1)
        (fun _ => hfirst.drains.writeNotice hopen)
        fun _ hnone => hfirst.drains.hears_writeNotice hnone
      rw [hone]
      exact ⟨hsame _ hwrites, hhears⟩
    | false =>
      -- notices are looked at first
      have hone : c.writeOne = if d.writeNotice.2 then d.writeNotice
          else d.writeNotice.1.writeResponse := by
        rw [hboth]
        simp [d, hnext]
      have hfirst := hd.writeNotice hnotices
      obtain ⟨hwrites, hhears⟩ := hfirst.orElse
        (fun hnone => (hd.hears_writeNotice hnone).1)
        (fun _ => hfirst.drains.writeResponse)
        fun _ hnone => hfirst.drains.hears_writeResponse hnone
      rw [hone]
      exact ⟨hsame _ hwrites, fun hnone => (hhears hnone).symm⟩

/-- All that has been left is written. -/
structure Flushes (c : Connection) (unread : List UInt8) (s : Session) (e : Effects)
    (d : Connection) : Prop where
  drains : d.Drains unread s e
  responses : d.HearsResponses
  notices : d.HearsNotices
  called : d.called = c.called
  finished : d.finishedResponse = c.finishedResponse
  again : c.unsent = 0 → d.again = c.again

theorem Drains.writeAll (fuel : Nat) (h : c.Drains unread s e) (hfuel : c.unsent < fuel) :
    c.Flushes unread s e (c.writeAll fuel) := by
  induction fuel generalizing c with
  | zero => omega
  | succ fuel ih =>
    obtain ⟨hwrites, hhears⟩ := h.writeOne
    unfold Connection.writeAll
    split
    · rename_i d heq
      rw [heq] at hwrites
      have hdrains : d.Drains unread s e := hwrites.drains
      have hcount : d.unsent + 1 = c.unsent := hwrites.unsent
      have hrest := ih hdrains (by omega)
      exact { hrest with
        called := hrest.called.trans hwrites.called
        finished := hrest.finished.trans hwrites.finished
        again := fun hnone => by omega }
    · rename_i d heq
      rw [heq] at hwrites hhears
      obtain ⟨hresponses, hnotices⟩ := hhears rfl
      exact ⟨hwrites.drains, hresponses, hnotices, hwrites.called, hwrites.finished,
        fun _ => hwrites.again.trans (Bool.or_false _)⟩

theorem Flushes.moves {d : Connection} (h : c.Flushes unread s e d) : c.Moves d := by
  have hunsent : d.unsent = 0 := by
    simp [Connection.unsent, h.responses.1, h.notices.1]
  rcases Nat.eq_zero_or_pos c.unsent with hnone | hsome
  · exact .inl ⟨h.again hnone, by simp [left, h.called, h.finished, hunsent, hnone]⟩
  · refine .inr ?_
    simp only [left, h.called, h.finished, hunsent]
    omega

theorem Drains.write (h : c.Drains unread s e) : c.Flushes unread s e c.write :=
  h.writeAll _ (Nat.lt_succ_self _)

/-! ## Reading -/

/-- Nothing is read of a stream that waits. -/
theorem Steady.read_eq (h : c.Steady unread) :
    c.read = { c with stream := c.stream.makeRoom } := by
  simp [Connection.read, h.reading, readAll, readOne, h.stream.next]

/-! ## Working -/

theorem record_nil (c : Connection) : c.record [] = c := by
  simp [record]

theorem callJobs_of_none {p : InHand → Bool} (hp : ∀ h ∈ c.inHand, p h = false) :
    c.callJobs p = c := by
  unfold callJobs
  rw [List.filter_eq_nil_iff.mpr fun h hh => by simp [hp h hh]]
  rfl

/-- Nothing is called when nothing more has been given up. -/
theorem withSession_of_subset {t : Session} (hgivenUp : t.givenUp ⊆ c.session.givenUp)
    (hsilent : t.silent = c.session.silent) : c.withSession t = { c with session := t } := by
  unfold withSession
  dsimp only
  rw [callJobs_of_none, if_neg (by simp [hsilent])]
  intro h _
  cases h.job.slot? with
  | none => rfl
  | some slot => simpa using fun hslot => hgivenUp hslot

/-- The jobs in hand but for one. -/
def handsWithout (c : Connection) (h : InHand) : List InHand :=
  c.inHand.filter (·.number ≠ h.number)

/-- A job of which nothing is to be done ends. -/
theorem workOn_idle {h : InHand} (hstage : h.stage = .fresh) (hjob : h.job = ⟨.none, false⟩) :
    c.workOn h = ({ c with inHand := c.handsWithout h }, .ended none) := by
  have hbegin : c.session.begin ⟨.none, false⟩ = (c.session, .ends none none, []) := rfl
  simp only [workOn, hstage, hjob, hbegin, takeProgress, record_nil,
    withSession_of_subset (List.Subset.refl c.session.givenUp) rfl, finishJob]
  rw [withSession_of_subset]
  · rfl
  · exact List.Subset.refl _
  · rfl

/-- A request that has been given up is answered. -/
theorem workOn_givenUp {h : InHand} {slot : Slot} (hstage : h.stage = .building)
    (hslot : h.job.slot? = some slot) (hstarts : h.job.starts = false)
    (hgivenUp : slot ∈ c.session.givenUp) :
    c.workOn h = ({ c with inHand := c.handsWithout h, session := c.session.settle slot },
      .ended (some ⟨slot.id, .error .canceled⟩)) := by
  have hresume : c.session.resume slot = (c.session, Session.canceled slot, []) := if_pos hgivenUp
  have hfinish : ∀ r, c.session.finish h.job r = c.session.settle slot := fun r => by
    simp [Session.finish, hslot, hstarts]
  simp only [workOn, hstage, hslot, hresume, Session.canceled, takeProgress, record_nil,
    withSession_of_subset (List.Subset.refl c.session.givenUp) rfl, finishJob, hfinish]
  rw [withSession_of_subset]
  · rfl
  · exact List.filter_sublist.subset
  · rfl

theorem setStage_self {h : InHand} (hload : c.load.Sound) (hh : h ∈ c.inHand) :
    c.setStage h.number h.stage = c := by
  have hsame : c.inHand.map (·.at h.number h.stage) = c.inHand := by
    refine (List.map_congr_left fun x hx => ?_).trans (List.map_id _)
    by_cases hnumber : x.number = h.number
    · obtain rfl := List.inj_on_of_nodup_map hload.numbers hx hh hnumber
      simp [InHand.at]
    · rw [InHand.at, if_neg hnumber, id]
  change { c with inHand := c.inHand.map (·.at h.number h.stage) } = c
  rw [hsame]

/-- A build that waits at closed gates goes on waiting. -/
theorem workOn_waits {h : InHand} {slot : Slot} (hload : c.load.Sound)
    (hgates : c.session.outline.AtGates) (hh : h ∈ c.inHand) (hstage : h.stage = .building)
    (hslot : h.job.slot? = some slot) (hgivenUp : slot ∉ c.session.givenUp) :
    c.workOn h = (c, .waits) := by
  have hset := setStage_self hload hh
  rw [hstage] at hset
  simp [workOn, hstage, hslot, Session.resume_of_atGates hgates hgivenUp, takeProgress,
    record_nil, withSession_of_subset (List.Subset.refl c.session.givenUp) rfl, wantsMore, hset]

/-! ## The jobs that have been called -/

/-- Whatever is left for the writer has called, or will call, for another turn. -/
def Alert (c : Connection) : Prop :=
  c.again = true ∨ (c.HearsResponses ∧ c.notices.items = [])

/-- A job that has been called for nothing is left alone. -/
theorem Drains.pop (hd : c.Drains unread s e) {n : Nat} {called : List Nat}
    (hcalled : c.called = n :: called)
    (hnone : ∀ h ∈ c.inHand, h.number = n → h.stage ≠ .fresh ∧
      ∀ slot ∈ c.session.givenUp, h.job.slot? ≠ some slot) :
    ({ c with called } : Connection).Drains unread s e := by
  refine { hd with called := fun h hh hneeds => ?_ }
  have hmem := hd.called h hh hneeds
  rw [hcalled] at hmem
  refine (List.mem_cons.mp hmem).resolve_left fun hnumber => ?_
  obtain ⟨hfresh, hgivenUp⟩ := hnone h hh hnumber
  rcases hneeds with hstage | ⟨slot, hslot, heq⟩
  · exact hfresh hstage
  · exact hgivenUp slot hslot heq

/-- A job in hand that has been called ends, and maybe a request that has been given up is answered
by it. -/
theorem Drains.ends (hd : c.Drains unread s e) (hfinished : c.finishedResponse = none) {h : InHand}
    {called : List Nat} (hcalled : c.called = h.number :: called) {t : Session}
    {response : Option Response}
    (hload : ({ c with inHand := c.handsWithout h, session := t } : Connection).load.Sound)
    (hgates : t.outline.AtGates) (hsub : t.givenUp.Sublist c.session.givenUp)
    (hsilent : t.silent = c.session.silent)
    (hsession : t.answerGivenUp.1 = c.session.answerGivenUp.1)
    (hout : c.session.answerGivenUp.2.Perm
      (response.toList.map .response ++ t.answerGivenUp.2)) :
    ({ c with
      called
      inHand := c.handsWithout h
      session := t
      finishedResponse := response } : Connection).Drains unread s e := by
  refine { hd with
    load := hload
    gates := hgates
    silent := fun hended => ⟨hsilent.trans (hd.silent hended).1, (hd.silent hended).2⟩
    light := fun x hx => hd.light x (List.mem_filter.mp hx).1
    called := fun x hx hneeds => ?_
    nodup_givenUp := hsub.nodup hd.nodup_givenUp
    session := hsession.trans hd.session
    outgoing := ?_ }
  · obtain ⟨hmem, hne⟩ := List.mem_filter.mp hx
    have hneeds : x.stage = .fresh ∨ ∃ slot ∈ c.session.givenUp, x.job.slot? = some slot :=
      hneeds.imp_right fun ⟨slot, hslot, heq⟩ => ⟨slot, hsub.subset hslot, heq⟩
    have hcall := hd.called x hmem hneeds
    rw [hcalled] at hcall
    exact (List.mem_cons.mp hcall).resolve_left (by simpa using hne)
  · refine List.Perm.trans ?_ hd.outgoing
    simp only [owed, hfinished, Option.toList_none, List.map_nil, List.append_nil,
      List.append_assoc]
    exact ((hout.symm.append_left _).append_left _).append_left _

/-- A job in hand has ended, before its response is left. -/
structure Ends (c : Connection) (unread : List UInt8) (s : Session) (e : Effects)
    (d : Connection) (response : Option Response) : Prop where
  drains : ({ d with finishedResponse := response } : Connection).Drains unread s e
  finished : d.finishedResponse = none
  alert : c.Alert → d.Alert
  moves : c.Moves { d with finishedResponse := response }
  fewer : d.inHand.length + 1 ≤ c.inHand.length

/-- Going on with a job that has been called: it ends, or goes on waiting. -/
theorem Drains.workOn (hd : c.Drains unread s e) (hfinished : c.finishedResponse = none)
    {h : InHand} {called : List Nat} (hcalled : c.called = h.number :: called)
    (hh : h ∈ c.inHand) :
    (∃ d response, Connection.workOn { c with called } h = (d, .ended response) ∧
      c.Ends unread s e d response) ∨
    (Connection.workOn { c with called } h = ({ c with called }, .waits) ∧
      ({ c with called } : Connection).Drains unread s e) := by
  have hload := sound_workOn (c := { c with called }) hd.load hh
  have hfewer : (c.handsWithout h).length + 1 ≤ c.inHand.length :=
    (Load.perm_without (l := c.load) hd.load.numbers hh).length_eq.ge
  cases hd.light h hh with
  | idle hstage hjob =>
    have hwork := workOn_idle (c := { c with called }) hstage hjob
    rw [hwork] at hload
    refine .inl ⟨_, none, hwork, ?_, hfinished, id, .inr ?_, hfewer⟩
    · exact hd.ends hfinished hcalled (t := c.session) hload hd.gates (.refl _) rfl rfl (.refl _)
    · simp [left, hcalled, unsent, hfinished]
  | waits slot hstage hslot hstarts =>
    by_cases hgivenUp : slot ∈ c.session.givenUp
    · have hwork := workOn_givenUp (c := { c with called }) hstage hslot hstarts hgivenUp
      obtain ⟨hsession, hout⟩ := Session.answerGivenUp_settle hgivenUp hd.nodup_givenUp
      rw [hwork] at hload
      refine .inl ⟨_, some _, hwork, ?_, hfinished, id, .inr ?_, hfewer⟩
      · exact hd.ends hfinished hcalled hload (hd.gates.drop slot) List.filter_sublist rfl
          hsession hout
      · simp [left, hcalled, unsent, hfinished]
        omega
    · refine .inr ⟨workOn_waits (c := { c with called }) hd.load hd.gates hh hstage hslot hgivenUp,
        hd.pop hcalled fun x hx hnumber => ?_⟩
      obtain rfl := List.inj_on_of_nodup_map hd.load.numbers hx hh hnumber
      refine ⟨by simp [hstage], fun slot' hslot' heq => ?_⟩
      obtain rfl := Option.some.inj (hslot.symm.trans heq)
      exact hgivenUp hslot'

/-- What going on with the jobs that have been called comes to, before the response of the one that
has ended is left. -/
structure Worked (unread : List UInt8) (s : Session) (e : Effects)
    (r : Connection × Option (Option Response)) : Prop where
  drains : ({ r.1 with finishedResponse := r.2.join } : Connection).Drains unread s e
  finished : r.1.finishedResponse = none
  alert : r.1.Alert
  settled : r.2 = none → r.1.called = [] ∨ r.1.again = true

/-- Going on with jobs leaves less to do, and fewer jobs if one has ended. -/
structure Works (c : Connection) (unread : List UInt8) (s : Session) (e : Effects)
    (r : Connection × Option (Option Response)) : Prop extends Worked unread s e r where
  moves : c.Moves { r.1 with finishedResponse := r.2.join }
  hands : r.1.inHand.length + r.2.toList.length ≤ c.inHand.length

theorem finishedResponse_none (hfinished : c.finishedResponse = none) :
    ({ c with finishedResponse := none } : Connection) = c := by
  rw [← hfinished]

/-- No job has ended. -/
theorem Drains.stops (hd : c.Drains unread s e) (hfinished : c.finishedResponse = none)
    (halert : c.Alert) (hsettled : c.called = [] ∨ c.again = true) :
    c.Works unread s e (c, none) := by
  have hsame := finishedResponse_none hfinished
  refine ⟨⟨?_, hfinished, halert, fun _ => hsettled⟩, ?_, le_rfl⟩
  · exact hsame.symm ▸ hd
  · exact hsame.symm ▸ .inl ⟨rfl, rfl⟩

/-- The worker lets the others have a turn. -/
theorem Drains.pauses (hd : c.Drains unread s e) (hfinished : c.finishedResponse = none) :
    (c.callFor true).Works unread s e (c.callFor true, none) := by
  have hcall : (c.callFor true).again = true := Bool.or_true _
  have hcalls : (c.callFor true).Drains unread s e := { hd with }
  exact hcalls.stops hfinished (.inl hcall) (.inr hcall)

theorem Drains.workOnCalled (fuel inHand waited yielded : Nat) (hd : c.Drains unread s e)
    (hfinished : c.finishedResponse = none) (halert : c.Alert) (hfuel : c.called.length < fuel) :
    c.Works unread s e (c.workOnCalled fuel inHand waited yielded) := by
  induction fuel generalizing c waited yielded with
  | zero => omega
  | succ fuel ih =>
    unfold Connection.workOnCalled
    cases hcalled : c.called with
    | nil => exact hd.stops hfinished halert (.inl hcalled)
    | cons n called =>
      have hless : left { c with called } < c.left := by simp [left, hcalled, unsent]
      rw [hcalled, List.length_cons] at hfuel
      dsimp only
      cases hfind : c.inHand.find? (·.number = n) with
      | none =>
        have hnone : ∀ x ∈ c.inHand, x.number ≠ n := by simpa using hfind
        have hpop := hd.pop hcalled fun x hx hnumber => absurd hnumber (hnone x hx)
        have hrest := ih waited yielded hpop hfinished halert (by simpa using hfuel)
        exact { hrest with moves := .inr (hrest.moves.left_le.trans_lt hless) }
      | some h =>
        have hh := List.mem_of_find?_eq_some hfind
        obtain rfl : h.number = n := by simpa using List.find?_some hfind
        dsimp only
        obtain ⟨d, response, hwork, hends⟩ | ⟨hwork, hpop⟩ := hd.workOn hfinished hcalled hh
        · rw [hwork]
          exact ⟨⟨hends.drains, hends.finished, hends.alert halert, fun hnone =>
            absurd hnone (by simp)⟩, hends.moves, hends.fewer⟩
        · rw [hwork]
          have hrest := ih (waited + 1) yielded hpop hfinished halert (by simpa using hfuel)
          simp only [Bool.false_eq_true, if_false]
          split
          · have hpauses := hpop.pauses hfinished
            exact { hpauses with moves := .inr (hpauses.moves.left_le.trans_lt hless) }
          · exact { hrest with moves := .inr (hrest.moves.left_le.trans_lt hless) }

/-! ## The part of the worker -/

/-- Nothing is left to do. -/
structure Quiet (c : Connection) : Prop where
  called : c.called = []
  finished : c.finishedResponse = none
  unsent : c.unsent = 0

theorem Alert.quiet (h : c.Alert) (hfinished : c.finishedResponse = none)
    (hcalled : c.called = [] ∨ c.again = true) : c.again = true ∨ c.Quiet := by
  rcases h with hagain | ⟨⟨hresponses, -⟩, hnotices⟩
  · exact .inl hagain
  · refine hcalled.symm.imp_right fun hcalled => ⟨hcalled, hfinished, ?_⟩
    simp [Connection.unsent, hresponses, hnotices]

theorem keeps_worker (h : c.Drains unread s e) :
    c.responses.keeps .worker = !c.responses.items.isEmpty := by
  unfold Mailbox.keeps
  rw [h.responsesWaiting]
  cases c.responses.items <;> simp

/-- The worker is about to go on with the jobs that have been called. -/
structure Prepares (c : Connection) (unread : List UInt8) (s : Session) (e : Effects)
    (d : Connection) : Prop where
  drains : d.Drains unread s e
  alert : d.Alert
  finished : d.finishedResponse = none
  moves : c.Moves d
  hands : d.inHand = c.inHand

theorem Prepares.trans {d d' : Connection} (h : c.Prepares unread s e d)
    (h' : d.Prepares unread s e d') : c.Prepares unread s e d' :=
  { h' with moves := h.moves.trans h'.moves, hands := h'.hands.trans h.hands }

/-- The response that the worker has finished is left, if the one before it has been taken. -/
theorem Drains.handOver (h : c.Drains unread s e) (halert : c.Alert)
    (hfree : (c.finishedResponse.isSome && c.responses.keeps .worker) = false) :
    c.Prepares unread s e c.handOver := by
  unfold Connection.handOver
  cases hfinished : c.finishedResponse with
  | none => exact ⟨h, halert, hfinished, .inl ⟨rfl, rfl⟩, rfl⟩
  | some r =>
    have hitems : c.responses.items = [] := by
      simpa [hfinished, keeps_worker h] using hfree
    have hwaiting : c.responses.waiting = [] := by simp [h.responsesWaiting, hitems]
    have hput : c.responses.put .worker r =
        { room := 0, items := [r], waiting := [.worker], listening := false } := by
      simp [Mailbox.put, hitems, hwaiting, h.responsesRoom]
    dsimp only
    refine ⟨{ h with responsesRoom := ?_, responsesWaiting := ?_, outgoing := ?_ }, ?_, rfl,
      .inr ?_, rfl⟩
    · simp [putResponse, callFor, hput]
    · simp [putResponse, callFor, hput]
    · refine List.Perm.trans ?_ h.outgoing
      simp only [putResponse, callFor, hput, owed, hfinished, hitems, Option.toList_none,
        Option.toList_some, List.map_nil, List.map_cons, List.nil_append, List.append_nil,
        List.append_assoc, List.cons_append]
      exact List.perm_middle.symm.append_left _
    · rcases halert with hagain | ⟨⟨-, hlistens⟩, -⟩
      · exact .inl (by simp [putResponse, callFor, hagain])
      · exact .inl (by simp [putResponse, callFor, hlistens])
    · simp [putResponse, callFor, hput, left, unsent, hfinished, hitems]
      omega

/-- No job waits to be taken in hand. -/
theorem Drains.takeUp (h : c.Drains unread s e) (halert : c.Alert)
    (hfinished : c.finishedResponse = none) : c.Prepares unread s e c.takeUp := by
  have hclear : (c.jobs.listen).Clear capacity := ⟨h.jobs.room, h.jobs.items, h.jobs.waiting⟩
  unfold Connection.takeUp
  cases concurrency - c.inHand.length with
  | zero => exact ⟨{ h with }, halert, hfinished, .inl ⟨rfl, rfl⟩, rfl⟩
  | succ free =>
    have hnone : c.takeInHand (free + 1) = { c with jobs := c.jobs.listen } := by
      simp [takeInHand, Mailbox.take, h.jobs.items, h.reading]
    rw [hnone]
    exact ⟨{ h with jobs := hclear }, halert, hfinished, .inl ⟨rfl, rfl⟩, rfl⟩

/-- The worker leaves less to do, or there is another turn. -/
structure Rounds (c : Connection) (unread : List UInt8) (s : Session) (e : Effects)
    (d : Connection) : Prop where
  drains : d.Drains unread s e
  quiet : d.again = true ∨ d.Quiet
  moves : c.Moves d

/-- What the worker does once the jobs that have been called are gone on with. -/
theorem Worked.workAll {r : Connection × Option (Option Response)} (h : Worked unread s e r)
    (honce : c.workOnce = r)
    (hfree : (c.finishedResponse.isSome && c.responses.keeps .worker) = false) (fuel : Nat)
    (hrest : ∀ response, r.2 = some response →
      ({ r.1 with finishedResponse := response } : Connection).Rounds unread s e
        (Connection.workAll fuel { r.1 with finishedResponse := response })) :
    ({ r.1 with finishedResponse := r.2.join } : Connection).Rounds unread s e
      (c.workAll (fuel + 1)) := by
  obtain ⟨d, response⟩ := r
  rw [workAll_succ, if_neg (by simp [hfree]), honce]
  cases response with
  | some response => exact hrest response rfl
  | none =>
    have hsame : ({ d with finishedResponse := none } : Connection) = d :=
      finishedResponse_none h.finished
    have hdrains : d.Drains unread s e := hsame ▸ h.drains
    dsimp only
    rw [if_neg (by simp [hdrains.reading])]
    exact ⟨hdrains, h.alert.quiet h.finished (h.settled rfl), hsame.symm ▸ .inl ⟨rfl, rfl⟩⟩

theorem Drains.workAll (fuel : Nat) (h : c.Drains unread s e) (halert : c.Alert)
    (hfuel : c.inHand.length < fuel) : c.Rounds unread s e (c.workAll fuel) := by
  induction fuel generalizing c with
  | zero => omega
  | succ fuel ih =>
    cases hfree : c.finishedResponse.isSome && c.responses.keeps .worker with
    | true =>
      -- the response before has not been taken, so that the writer is about to
      rw [workAll_succ, if_pos hfree]
      refine ⟨h, ?_, .inl ⟨rfl, rfl⟩⟩
      rcases halert with hagain | ⟨⟨hitems, -⟩, -⟩
      · exact .inl hagain
      · simp [keeps_worker h, hitems] at hfree
    | false =>
      have hhanded := h.handOver halert hfree
      have hready := hhanded.trans (hhanded.drains.takeUp hhanded.alert hhanded.finished)
      have hworks : c.handOver.takeUp.Works unread s e c.workOnce :=
        hready.drains.workOnCalled _ _ 0 0 hready.finished hready.alert (by omega)
      have hfewer := hworks.hands
      rw [hready.hands] at hfewer
      have hrounds := hworks.toWorked.workAll rfl hfree fuel fun response hresponse => by
        have hends := hworks.drains
        rw [hresponse] at hends hfewer
        exact ih hends hworks.alert (by simp at hfewer ⊢; omega)
      exact { hrounds with moves := hready.moves.trans (hworks.moves.trans hrounds.moves) }

theorem Drains.work (h : c.Drains unread s e) (halert : c.Alert) :
    c.Rounds unread s e c.work := by
  unfold Connection.work
  rw [if_neg (by simp [h.works])]
  exact h.workAll _ halert (by omega)

/-! ## Turns -/

/-- **A turn leaves less to do**, as long as another one is called for. -/
theorem Drains.turn (h : c.Drains unread s e) :
    c.turn.Drains unread s e ∧ (c.turn.again = true ∨ c.turn.Quiet) ∧
      (c.turn.again = true → c.turn.left < c.left) := by
  let d : Connection := { c with again := false }
  have hd : d.Drains unread s e := { h with }
  have hflushed := hd.write
  have hread := hflushed.drains.read_eq
  have hd' : d.write.read.Drains unread s e := by
    rw [hread]
    exact { hflushed.drains with stream := hflushed.drains.stream.makeRoom }
  have halert : d.write.read.Alert := by
    rw [hread]
    exact .inr ⟨hflushed.responses, hflushed.notices.1⟩
  have hmoves : d.Moves d.write.read := by
    rw [hread]
    exact hflushed.moves
  obtain ⟨hdrains, hquiet, hworks⟩ := hd'.work halert
  refine ⟨hdrains, hquiet, fun hagain => ?_⟩
  rcases hmoves.trans hworks with ⟨hsame, -⟩ | hless
  · exact absurd (hagain.symm.trans hsame) (by simp [d])
  · exact hless

/-- After a turn nothing is left to do, or there is another one. -/
theorem turns_succ (fuel : Nat) (h : c.turn.Drains unread s e)
    (hquiet : c.turn.again = true ∨ c.turn.Quiet)
    (hrest : c.turn.again = true →
      (c.turn.turns fuel).Drains unread s e ∧ (c.turn.turns fuel).Quiet) :
    (c.turns (fuel + 1)).Drains unread s e ∧ (c.turns (fuel + 1)).Quiet := by
  have hdone : c.turn.isDone = false := by simp [isDone, h.reading]
  unfold Connection.turns
  dsimp only
  cases hagain : c.turn.again with
  | true =>
    simp only [hdone, Bool.not_false, Bool.and_self, if_true]
    exact hrest hagain
  | false =>
    simp only [Bool.false_and, Bool.false_eq_true, if_false]
    exact ⟨h, hquiet.resolve_left (by simp [hagain])⟩

/-- **Turn by turn all is done.** -/
theorem Drains.turns (fuel : Nat) (h : c.Drains unread s e) (hfuel : c.left < fuel) :
    (c.turns fuel).Drains unread s e ∧ (c.turns fuel).Quiet := by
  induction fuel generalizing c with
  | zero => omega
  | succ fuel ih =>
    obtain ⟨hdrains, hquiet, hless⟩ := h.turn
    refine turns_succ fuel hdrains hquiet fun hagain => ih hdrains ?_
    have hless := hless hagain
    omega

end Connection

end TokenOutline.Server
