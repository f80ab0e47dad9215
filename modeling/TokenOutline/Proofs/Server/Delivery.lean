import TokenOutline.Proofs.Server.Beginning

/-!
# Messages over a stream

A connection at rest that is fed the octets of a message, in whatever pieces, does in the turns that
follow what its session does in one step: it comes to the same session, the same passes between it
and the service, and the same is sent, though a notice and a response may change places. Then it is
at rest again. So as long as a hand is free for each message, a connection is its session.

Left out is a change of the service in between: the session then answers at once what a connection
answers job by job (`Outline.resumeAll_adopt` says that the builds come to the same), and it counts
the change in its clock, which the connection does not.

Headlines:
* `Connection.Rests`: nothing is left to do before something arrives or changes.
* **`Connection.Rests.step_message`**: the last piece of a message, and all that follows.
* **`Connection.Rests.feed`**: one frame.
* **`Connection.Rests.feedAll`**, **`Connection.feedAll_ofService`**: one after the other.
-/

namespace TokenOutline.Server

/-- The same passes between a session and its service, and the same is sent, though maybe in another
order. -/
structure Effects.Like (a b : Effects) : Prop where
  outgoing : a.outgoing.Perm b.outgoing
  events : a.events = b.events

theorem Effects.append_nil (a : Effects) : a.append {} = a := by simp [Effects.append]

theorem Effects.append_assoc (a b d : Effects) : (a.append b).append d = a.append (b.append d) := by
  simp [Effects.append]

theorem Effects.Like.append {a b a' b' : Effects} (h : a.Like b) (h' : a'.Like b') :
    (a.append a').Like (b.append b') :=
  ⟨h.outgoing.append h'.outgoing, congrArg₂ (· ++ ·) h.events h'.events⟩

/-- A frame that arrives in pieces. -/
structure Delivery where
  pieces : List (List UInt8)
  content : Frame.Content
  nonempty : ∀ p ∈ pieces, p ≠ []
  frame : Frame.read ⟨pieces.flatten, none⟩ = (⟨[], none⟩, .content content)

/-- A client's first message, cut inside its body. -/
def Delivery.greeting : Delivery where
  pieces := [
    Frame.octets "Content-Length: 75\r\n\r\n\x7b\"jsonrpc\":\"2.0\",\"id\":1,",
    Frame.octets "\"method\":\"initialize\",\"params\":\x7b\"capabilities\":\x7b\x7d\x7d\x7d"]
  content := .message ⟨"initialize", some (.object [("capabilities", .object [])]),
    some (.number 1)⟩
  nonempty := by decide +kernel
  frame := by decide +kernel

/-- The step of a session that a frame is; a response is none. -/
def Frame.Content.step : Frame.Content → Session.Step
  | .message m => .receive m
  | .response => .idle

/-- All that comes of the steps of a run. -/
def Session.effectsOf (s : Session) (steps : List Session.Step) : Effects :=
  ((s.run steps).filterMap (·.1)).foldr Effects.append {}

theorem Session.effectsOf_cons {s s' : Session} {x : Session.Step} {effects : Effects}
    (h : s.step x = (s', some effects)) (xs : List Session.Step) :
    s.effectsOf (x :: xs) = effects.append (s'.effectsOf xs) := by
  simp [effectsOf, run, h]

/-- A hand is free for each of the steps of a run, none of which comes after its end. -/
def Session.Free (s : Session) : List Session.Step → Prop
  | [] => True
  | x :: xs => s.phase ≠ .exited ∧ s.inFlight.length < Connection.concurrency ∧ (s.step x).1.Free xs

namespace Connection

variable {c : Connection} {unread : List UInt8} {s t : Session} {e : Effects}

/-! ## A message that arrives -/

/-- Nothing is left to do before something arrives or changes. -/
structure Rests (c : Connection) (unread : List UInt8) : Prop
    extends Steady c unread, Quiet c where
  session : c.session.Sound
  light : ∀ h ∈ c.inHand, h.Light ∧ h.stage ≠ .fresh

/-- Whoever has nothing to write listens. -/
theorem write_quiet (hunsent : c.unsent = 0) (hreading : c.reading = .reading)
    (hresponses : c.responsesEnded = false) (hnotices : c.noticesEnded = false)
    (hloud : c.session.silent = false) :
    c.write = { c with
      responsesNext := !c.responsesNext
      responses := c.responses.listen
      notices := c.notices.listen } := by
  have hnone : c.responses.items = [] ∧ c.notices.items = [] := by
    simpa [unsent] using hunsent
  have hone : c.writeOne = ({ c with
      responsesNext := !c.responsesNext
      responses := c.responses.listen
      notices := c.notices.listen }, false) := by
    rw [writeOne_both hresponses hnotices]
    cases c.responsesNext <;>
      simp [writeResponse_nil, writeNotice_nil, Mailbox.listen, hnone, hreading, hloud]
  simp [write, writeAll, hone]

theorem jobs_withSession (c : Connection) (t : Session) : (c.withSession t).jobs = c.jobs := by
  obtain ⟨called, again, awaiting, listening, htakes⟩ := takesOver_withSession c t
  rw [htakes.eq]

theorem reading_withSession (c : Connection) (t : Session) :
    (c.withSession t).reading = c.reading := by
  obtain ⟨called, again, awaiting, listening, htakes⟩ := takesOver_withSession c t
  rw [htakes.eq]

theorem stream_withSession (c : Connection) (t : Session) :
    (c.withSession t).stream = c.stream := by
  obtain ⟨called, again, awaiting, listening, htakes⟩ := takesOver_withSession c t
  rw [htakes.eq]

/-- The reader has room for a job. -/
theorem takeMessage_eq (hjobs : c.jobs.Clear capacity) (m : Message) :
    c.takeMessage m = (c.withSession (c.session.accept m).1).putJob (c.session.accept m).2 := by
  have hkeeps : ((c.withSession (c.session.accept m).1).putJob (c.session.accept m).2).jobs.keeps ()
      = false := by
    simp [putJob, callFor, jobs_withSession, Mailbox.put, Mailbox.keeps, hjobs.items,
      hjobs.waiting, hjobs.room, capacity]
  unfold takeMessage
  dsimp only
  rw [if_neg (by simp [hkeeps])]

/-- A connection that was at rest, and is about to read what has arrived. -/
structure Reads (c : Connection) (bs : List UInt8) : Prop where
  load : c.load.Sound
  gates : c.session.outline.AtGates
  stream : c.stream.Unread bs
  closed : c.stream.closed = false
  reading : c.reading = .reading
  answers : c.responsesEnded = false
  works : c.workFinished = false
  opened : c.noticesEnded = false
  givenUp : c.session.givenUp = []
  jobs : c.jobs.Clear capacity
  responses : c.responses = ⟨0, [], [], true⟩
  notices : c.notices = ⟨1, [], [], true⟩
  called : c.called = []
  finished : c.finishedResponse = none
  effects : c.effects = {}
  light : ∀ h ∈ c.inHand, h.Light ∧ h.stage ≠ .fresh

/-- Something arrives at a connection at rest. -/
theorem Rests.reads (hc : c.Rests unread) (hphase : c.session.phase ≠ .exited) (bs : List UInt8) :
    ∃ d : Connection, d.Reads (unread ++ bs) ∧ d.session = c.session ∧ d.inHand = c.inHand ∧
      d.stream = c.stream.arrive bs ∧
      ({ c with effects := {}, stream := c.stream.arrive bs } : Connection).turn =
        d.read.work := by
  have hloud := hc.session.not_silent hphase
  have hopen : c.noticesEnded = false := by
    by_contra hended
    exact absurd (hc.silent (by simpa using hended)).1 (by simp [hloud])
  have hnone : c.responses.items = [] ∧ c.notices.items = [] := by
    simpa [Connection.unsent] using hc.unsent
  have hresponses : c.responses.listen = ⟨0, [], [], true⟩ := by
    simp [Mailbox.listen, hnone.1, hc.responsesWaiting, hc.responsesRoom]
  have hnotices : c.notices.listen = ⟨1, [], [], true⟩ := by
    simp [Mailbox.listen, hnone.2, hc.noticesWaiting, hc.noticesRoom]
  have hwrite := write_quiet
    (c := { c with effects := {}, again := false, stream := c.stream.arrive bs })
    hc.unsent hc.reading hc.answers hopen hloud
  refine ⟨({ c with effects := {}, again := false, stream := c.stream.arrive bs } :
    Connection).write, ?_, ?_, ?_, ?_, rfl⟩ <;> rw [hwrite]
  exact ⟨hc.load, hc.gates, hc.stream.toUnread.arrive bs, hc.stream.closed, hc.reading, hc.answers,
    hc.works, hopen, hc.session.givenUp, hc.jobs, hresponses, hnotices, hc.called,
    hc.finished, rfl, hc.light⟩

/-- A frame that has arrived in full is read, and then nothing more. -/
theorem Reads.next {bs : List UInt8} {content : Frame.Content} (hc : c.Reads bs)
    (harrived : c.stream.arrived ≠ [])
    (hframe : Frame.read ⟨bs, none⟩ = (⟨[], none⟩, .content content)) :
    (∃ stream stream' : Stream, c.stream.next = (stream, .content content) ∧
      stream.next = (stream', .more) ∧ stream'.Waits []) ∧
    ∃ fuel, c.read = c.readAll (fuel + 2) := by
  have hbs : bs ≠ [] := by
    rintro rfl
    simp [Frame.read, Frame.readBlock] at hframe
  obtain ⟨stream, hnext, hunread, hclosed⟩ := Stream.next_frame hc.stream hframe
  obtain ⟨stream', hnext', hwaits⟩ :=
    Stream.next_more hunread (hclosed.trans hc.closed) hbs hframe
  refine ⟨⟨stream, stream', hnext, hnext', hwaits⟩,
    c.stream.arrived.length + c.stream.held.octets.length - 1, ?_⟩
  have hpos := List.length_pos_iff.mpr harrived
  have hfuel : c.stream.arrived.length + c.stream.held.octets.length + 1 =
      c.stream.arrived.length + c.stream.held.octets.length - 1 + 2 := by omega
  simp only [Connection.read, hc.reading, hfuel]

/-- A message that has arrived in full is accepted, and its job is left for the worker. -/
theorem Reads.read_eq {bs : List UInt8} {m : Message} (hc : c.Reads bs)
    (harrived : c.stream.arrived ≠ [])
    (hframe : Frame.read ⟨bs, none⟩ = (⟨[], none⟩, .content (.message m)))
    (hphase : c.session.phase ≠ .exited) :
    ∃ stream stream' : Stream, stream'.Waits [] ∧
      c.read = { (({ c with stream } : Connection).withSession (c.session.accept m).1).putJob
        (c.session.accept m).2 with stream := stream' } := by
  obtain ⟨⟨stream, stream', hnext, hnext', hwaits⟩, fuel, hread⟩ := hc.next harrived hframe
  have htake := takeMessage_eq (c := { c with stream }) hc.jobs m
  refine ⟨stream, stream', hwaits, ?_⟩
  generalize hd : ({ c with stream } : Connection).takeMessage m = d at htake
  have hreading : d.reading = .reading := by
    rw [htake]
    exact (reading_withSession _ _).trans hc.reading
  have hstream : d.stream = stream := by
    rw [htake]
    exact stream_withSession _ _
  have hfirst : c.readOne = (d, true) := by
    simp only [readOne, hnext, if_neg hphase, hd, hreading, decide_true]
  have hsecond : d.readOne = ({ d with stream := stream' }, false) := by
    simp only [readOne, hstream, hnext']
  rw [hread]
  simp only [readAll, hfirst, hsecond]
  rw [htake]

/-- A job that waits is taken in hand, and no other one waits. -/
theorem takeUp_eq {j : Job} (hjobs : c.jobs.items = [j]) (hwaiting : c.jobs.waiting = [])
    (hroom : c.jobs.room = capacity) (hreading : c.reading = .reading)
    (hfree : c.inHand.length < concurrency) :
    ∃ jobs : Mailbox Unit Job, jobs.Clear capacity ∧
      c.takeUp = { c with
        jobs
        inHand := c.inHand ++ [⟨j, c.nextNumber, .fresh⟩]
        called := c.called ++ [c.nextNumber]
        nextNumber := c.nextNumber + 1
        awaiting := true } := by
  obtain ⟨free, hfree⟩ : ∃ free, concurrency - c.inHand.length = free + 1 :=
    ⟨concurrency - c.inHand.length - 1, by omega⟩
  unfold takeUp
  rw [hfree]
  cases free with
  | zero =>
    refine ⟨{ c.jobs with items := [], waiting := [] }, ⟨hroom, rfl, rfl⟩, ?_⟩
    simp [takeInHand, Mailbox.take, hjobs, hwaiting]
  | succ free =>
    refine ⟨({ c.jobs with items := [], waiting := [] } : Mailbox Unit Job).listen,
      ⟨hroom, rfl, rfl⟩, ?_⟩
    simp [takeInHand, Mailbox.take, hjobs, hwaiting, hreading]

/-- A connection that was at rest has taken in hand a job, and has the session of it; of the jobs
that it had in hand before, those of the numbers `ns` have been called. -/
structure Takes (c : Connection) (t : Session) (j : Job) (ns : List Nat) (d : Connection) : Prop
    extends Steady d [] where
  session : d.session = t
  hands : d.inHand = c.inHand ++ [⟨j, c.nextNumber, .fresh⟩]
  finished : d.finishedResponse = none
  responses : d.HearsResponses
  notices : d.notices.items = []
  listens : t.silent = false → d.notices.listening = true
  effects : d.effects = {}
  called : d.called = ns ++ [c.nextNumber]
  length : ns.length ≤ c.inHand.length
  covers : ∀ h ∈ c.inHand, ∀ slot, h.job.slot? = some slot → slot ∈ t.givenUp → h.number ∈ ns
  none : t.givenUp = [] → ns = []

/-- A message that has arrived in full is taken in hand. -/
theorem Reads.takes {bs : List UInt8} {m : Message} (hc : c.Reads bs)
    (harrived : c.stream.arrived ≠ [])
    (hframe : Frame.read ⟨bs, none⟩ = (⟨[], none⟩, .content (.message m)))
    (hphase : c.session.phase ≠ .exited) (hfree : c.inHand.length < concurrency) :
    c.read.finishedResponse = none ∧ c.read.workFinished = false ∧ c.read.inHand = c.inHand ∧
      ∃ called, c.Takes (c.session.accept m).1 (c.session.accept m).2 called c.read.takeUp := by
  obtain ⟨stream, stream', hwaits, hread⟩ := hc.read_eq harrived hframe hphase
  obtain ⟨called, again, awaiting, listening, hover⟩ :=
    takesOver_withSession { c with stream } (c.session.accept m).1
  rw [hover.eq] at hread
  have hload := sound_takeUp (sound_read hc.load)
  obtain ⟨jobs, hjobs, htake⟩ := takeUp_eq (c := c.read) (j := (c.session.accept m).2)
    (by rw [hread]; simp [putJob, callFor, Mailbox.items_put, hc.jobs.items])
    (by rw [hread]; simp [putJob, callFor, Mailbox.put, hc.jobs.items, hc.jobs.waiting,
      hc.jobs.room, capacity])
    (by rw [hread]; exact hc.jobs.room) (by rw [hread]; exact hc.reading)
    (by rw [hread]; exact hfree)
  rw [htake] at hload ⊢
  rw [hread] at hload ⊢
  have hgates : (c.session.accept m).1.outline.AtGates := by
    rw [Session.outline_accept hphase]
    exact hc.gates
  refine ⟨hc.finished, hc.works, rfl, called, ⟨hload, hgates, hwaits, hc.reading, hc.answers,
    hc.works, fun hended => absurd (hc.opened.symm.trans hended) (by simp), hjobs, ?_, ?_, ?_, ?_⟩,
    rfl, rfl, hc.finished, ?_, ?_, fun hloud => ?_, hc.effects, rfl, ?_,
    fun h hh slot hslot hgivenUp => ?_, fun hgivenUp => ?_⟩
  · exact congrArg Mailbox.room hc.responses
  · simp [putJob, callFor, hc.responses]
  · exact congrArg Mailbox.room hc.notices
  · exact congrArg Mailbox.waiting hc.notices
  · simp [putJob, callFor, HearsResponses, hc.responses]
  · exact congrArg Mailbox.items hc.notices
  · exact (hover.loud hloud).trans (congrArg Mailbox.listening hc.notices)
  · have hlength := hover.length
    rw [hc.called, List.length_nil, Nat.zero_add] at hlength
    exact hlength
  · exact hover.covers h hh (hc.light h hh).2 slot hslot hgivenUp (by simp [hc.givenUp])
  · rw [hover.same (by simp [hgivenUp]), hc.called]

/-- The end of the session: what is left is to answer the requests in flight. -/
theorem Takes.drains {ns : List Nat} {d : Connection} (h : c.Takes t ⟨.none, false⟩ ns d)
    (hlight : ∀ x ∈ c.inHand, x.Light ∧ x.stage ≠ .fresh) (hnodup : t.givenUp.Nodup) :
    d.Drains [] (t.handle ⟨.none, false⟩).1 (t.handle ⟨.none, false⟩).2 := by
  refine ⟨h.toSteady, fun x hx => ?_, fun x hx hneeds => ?_, ?_, ?_, ?_, ?_⟩
  · rw [h.hands] at hx
    rcases List.mem_append.mp hx with hx | hx
    · exact (hlight x hx).1
    · rw [List.mem_singleton.mp hx]
      exact .idle rfl rfl
  · rw [h.hands] at hx
    rw [h.session] at hneeds
    rw [h.called]
    rcases List.mem_append.mp hx with hx | hx
    · obtain ⟨slot, hslot, heq⟩ := hneeds.resolve_left (hlight x hx).2
      exact List.mem_append_left _ (h.covers x hx slot heq hslot)
    · rw [List.mem_singleton.mp hx]
      exact List.mem_append_right _ List.mem_cons_self
  · rw [h.session]
    exact hnodup
  · rw [h.session]
    rfl
  · rw [h.session, h.effects]
    simp [owed, h.responses.1, h.notices, h.finished, Session.handle, Session.begin,
      Session.finish, Job.slot?, Session.outgoing]
  · rw [h.effects]
    rfl

/-- Any other message: what is left is to begin its job. -/
theorem Takes.opens {j : Job} {ns : List Nat} {d : Connection} (h : c.Takes t j ns d)
    (hlight : ∀ x ∈ c.inHand, x.Light ∧ x.stage ≠ .fresh) (hgivenUp : t.givenUp = [])
    (hloud : t.silent = false)
    (hstarts : ∀ slot p, j.task = .request slot (.ok (.outline p)) → j.starts = false) :
    ({ d with called := [] } : Connection).Opens [] ⟨j, c.nextNumber, .fresh⟩ ∧
      d.called = [c.nextNumber] := by
  have hnew : ∀ x ∈ d.inHand, x.number ≠ c.nextNumber → x ∈ c.inHand := by
    intro x hx hne
    rw [h.hands] at hx
    rcases List.mem_append.mp hx with hx | hx
    · exact hx
    · exact absurd (congrArg InHand.number (List.mem_singleton.mp hx)) hne
  refine ⟨⟨{ h.toSteady with }, ?_, rfl, fun x hx => ?_, rfl, h.finished, ?_, ?_, h.responses, ?_,
    h.effects, hstarts⟩, by rw [h.called, h.none hgivenUp, List.nil_append]⟩
  · change _ ∈ d.inHand
    rw [h.hands]
    exact List.mem_append_right _ List.mem_cons_self
  · obtain ⟨hmem, hne⟩ := List.mem_filter.mp hx
    exact hlight x (hnew x hmem (by simpa using hne))
  · change d.session.givenUp = []
    rw [h.session, hgivenUp]
  · change d.session.silent = false
    rw [h.session, hloud]
  · have hroom := h.noticesRoom
    have hitems := h.notices
    have hwaiting := h.noticesWaiting
    have hlistens := h.listens hloud
    change d.notices = _
    generalize d.notices = notices at *
    obtain ⟨room, items, waiting, listening⟩ := notices
    simp_all

/-- **What is done for a message that has been taken in hand is all that is handled at once.** -/
theorem Takes.begins {m : Message} {ns : List Nat} {d : Connection}
    (h : c.Takes (c.session.accept m).1 (c.session.accept m).2 ns d)
    (hlight : ∀ x ∈ c.inHand, x.Light ∧ x.stage ≠ .fresh) (hs : c.session.Sound)
    (hphase : c.session.phase ≠ .exited) :
    Begins d.inHand.length [] ((c.session.accept m).1.handle (c.session.accept m).2).1
      ((c.session.accept m).1.handle (c.session.accept m).2).2
      (d.workOnCalled (d.called.length + d.inHand.length + 1) d.inHand.length 0 0) := by
  have hhands : d.inHand.length = c.inHand.length + 1 := by simp [h.hands]
  obtain hexit | ⟨hgivenUp, hsilent, hstarts⟩ := Session.accept_cases hphase m
  · -- the session ends
    rw [hexit] at h ⊢
    have hnodup : c.session.exit.givenUp.Nodup := by
      simp only [Session.exit, hs.givenUp, List.nil_append]
      exact List.Nodup.of_map _ hs.distinct
    have hworks := (h.drains hlight hnodup).workOnCalled (d.called.length + d.inHand.length + 1)
      d.inHand.length 0 0 h.finished (.inr ⟨h.responses, h.notices⟩) (by omega)
    refine ⟨hworks.toWorked, hworks.moves.left_le.trans ?_, hworks.hands⟩
    have hlength := h.length
    simp [Connection.left, unsent, h.finished, h.responses.1, h.notices, h.called]
    omega
  · -- a job is begun
    obtain ⟨hopens, hcalled⟩ := h.opens hlight (hgivenUp.trans hs.givenUp)
      (hsilent.trans (hs.not_silent hphase)) hstarts
    have hsame : ({ ({ d with called := [] } : Connection) with called := [c.nextNumber] } :
        Connection) = d := by rw [← hcalled]
    have hbegins := hopens.begins (d.called.length + d.inHand.length) d.inHand.length
      (by simp [hcalled])
    rw [hsame, show Connection.session { d with called := [] } = (c.session.accept m).1 from
      h.session] at hbegins
    exact hbegins

/-- What a turn in which something has been read comes to. -/
structure Reacts (unread : List UInt8) (s : Session) (e : Effects) (d : Connection) : Prop where
  drains : d.Drains unread s e
  quiet : d.again = true ∨ d.Quiet
  left : d.left ≤ 3 * concurrency + 3

/-- The turn in which a message is read. -/
theorem Reads.turn {bs : List UInt8} {m : Message} (hc : c.Reads bs)
    (harrived : c.stream.arrived ≠ [])
    (hframe : Frame.read ⟨bs, none⟩ = (⟨[], none⟩, .content (.message m))) (hs : c.session.Sound)
    (hphase : c.session.phase ≠ .exited) (hfree : c.inHand.length < concurrency) :
    Reacts [] ((c.session.accept m).1.handle (c.session.accept m).2).1
      ((c.session.accept m).1.handle (c.session.accept m).2).2 c.read.work := by
  obtain ⟨hfinished, hworks, hhands, called, htakes⟩ := hc.takes harrived hframe hphase hfree
  have hbegins := htakes.begins hc.light hs hphase
  have honce : c.read.workOnce = c.read.takeUp.workOnCalled
      (c.read.takeUp.called.length + c.read.takeUp.inHand.length + 1)
      c.read.takeUp.inHand.length 0 0 := by
    simp only [workOnce, handOver_none hfinished]
  rw [← honce] at hbegins
  have hfewer := hbegins.fewer
  have hcount : c.read.takeUp.inHand.length = c.inHand.length + 1 := by simp [htakes.hands]
  have hrounds := hbegins.toWorked.workAll rfl (by simp [hfinished])
    (c.read.jobs.items.length + c.read.inHand.length + 1) fun response hresponse => by
      have hdrains := hbegins.drains
      rw [hresponse] at hdrains hfewer
      refine hdrains.workAll _ hbegins.alert ?_
      rw [hhands]
      simp at hfewer ⊢
      omega
  have hwork : c.read.work =
      c.read.workAll (c.read.jobs.items.length + c.read.inHand.length + 1 + 1) := by
    unfold work
    rw [if_neg (by simp [hworks])]
  rw [hwork]
  refine ⟨hrounds.drains, hrounds.quiet, hrounds.moves.left_le.trans (hbegins.left.trans ?_)⟩
  omega

/-! ## One message -/

/-- When nothing is left to do, no request has been given up without having been answered. -/
theorem Drains.givenUp_eq_nil (h : c.Drains unread s e) (hcalled : c.called = []) :
    c.session.givenUp = [] := by
  refine List.eq_nil_iff_forall_not_mem.mpr fun slot hslot => ?_
  have hpending : slot ∈ c.load.pending := h.load.serves.givenUp hslot
  simp only [Load.pending, load, h.jobs.items, List.append_nil, List.filterMap_map] at hpending
  obtain ⟨x, hx, heq⟩ := List.mem_filterMap.mp hpending
  have hmem := h.called x hx (.inr ⟨slot, hslot, heq⟩)
  simp [hcalled] at hmem

/-- What is left when all has been done. -/
theorem Drains.rests (h : c.Drains unread s e) (hquiet : c.Quiet) (hs : s.Sound) :
    c.Rests unread ∧ c.session = s ∧ c.effects.Like e := by
  have hnone := h.givenUp_eq_nil hquiet.called
  have hsession : c.session = s := by
    rw [← h.session, Session.answerGivenUp_nil hnone]
  have howed : c.owed = [] := by
    have hunsent : c.responses.items = [] ∧ c.notices.items = [] := by
      simpa [unsent] using hquiet.unsent
    simp [owed, hunsent, hquiet.finished]
  refine ⟨⟨h.toSteady, hquiet, hsession ▸ hs, fun x hx => ⟨h.light x hx, fun hfresh => ?_⟩⟩,
    hsession, ?_, h.events⟩
  · have hmem := h.called x hx (.inl hfresh)
    simp [hquiet.called] at hmem
  · have hout := h.outgoing
    rwa [howed, Session.answerGivenUp_nil hnone, List.append_nil, List.append_nil] at hout

/-- The jobs in hand are those of the requests in flight. -/
theorem Rests.length_inHand (hc : c.Rests unread) :
    c.inHand.length = c.session.inFlight.length := by
  have hbuilding : ∀ hs : List InHand, (∀ h ∈ hs, h.Light ∧ h.stage ≠ .fresh) →
      (hs.flatMap InHand.building).length = hs.length := by
    intro hs
    induction hs with
    | nil => exact fun _ => rfl
    | cons h hs ih =>
      intro hall
      have hrest := ih fun x hx => hall x (List.mem_cons_of_mem h hx)
      obtain ⟨hlight, hbegun⟩ := hall h List.mem_cons_self
      cases hlight with
      | idle hstage => exact absurd hstage hbegun
      | waits slot hstage hslot =>
        simp [InHand.building, hstage, hslot, Stage.isBuilding, hrest]
  have hbuilds := hc.load.serves.builds.length_eq
  rw [show c.load.session = c.session from rfl, hc.session.builds] at hbuilds
  exact (hbuilding c.inHand hc.light).symm.trans hbuilds.symm

/-- What follows when something arrives, once it is known what the first turn comes to. -/
theorem Rests.step_of_turn {unread' bs : List UInt8} {d : Connection} (hc : c.Rests unread)
    (hturn : ({ c with effects := {}, stream := c.stream.arrive bs } : Connection).turn = d)
    (h : Reacts unread' s e d) (hs : s.Sound) :
    (c.step (.arrive bs)).1.Rests unread' ∧ (c.step (.arrive bs)).1.session = s ∧
      (c.step (.arrive bs)).2.Like e := by
  generalize hw : ({ c with effects := {}, stream := c.stream.arrive bs } : Connection) = w at hturn
  subst hturn
  obtain ⟨fuel, hpatience, hfuel⟩ : ∃ fuel, w.patience = fuel + 1 ∧ 63 ≤ fuel :=
    ⟨w.patience - 1, by unfold patience; omega, by unfold patience; omega⟩
  have hleft := h.left
  obtain ⟨hdone, hquiet⟩ := turns_succ fuel h.drains h.quiet fun _ =>
    h.drains.turns fuel (by unfold concurrency at hleft; omega)
  have hstep : c.step (.arrive bs) = (w.turns (fuel + 1), (w.turns (fuel + 1)).effects) := by
    have hlive : w.isDone = false := by simp [← hw, isDone, hc.reading]
    simp [step, take, hc.stream.closed, hw, hlive, hpatience]
  rw [hstep]
  exact hdone.rests hquiet hs

/-- **The last piece of a message**, and all that follows, is what the session does in one step. -/
theorem Rests.step_message {bs : List UInt8} {m : Message} (hc : c.Rests unread)
    (hphase : c.session.phase ≠ .exited) (hfree : c.session.inFlight.length < concurrency)
    (hframe : Frame.read ⟨unread ++ bs, none⟩ = (⟨[], none⟩, .content (.message m))) :
    ∃ effects, c.session.step (.receive m) = ((c.step (.arrive bs)).1.session, some effects) ∧
      (c.step (.arrive bs)).2.Like effects ∧ (c.step (.arrive bs)).1.Rests [] := by
  obtain ⟨w, hreads, hsession, hhands, hstream, hturn⟩ := hc.reads hphase bs
  have harrived : w.stream.arrived ≠ [] := by
    have hbs := hc.stream.ne_nil (q := bs) (by simp [hframe])
    simp [hstream, Stream.arrive, hbs]
  have hreacts := hreads.turn harrived hframe (hsession ▸ hc.session) (hsession ▸ hphase)
    (by rw [hhands, hc.length_inHand]; exact hfree)
  rw [hsession] at hreacts
  have hsound := (Session.takes_step hc.session (.receive m)).sound hc.session
  rw [Session.step_receive hphase] at hsound ⊢
  obtain ⟨hrests, hsession', hlike⟩ := hc.step_of_turn hturn hreacts hsound
  exact ⟨_, by rw [hsession'], hlike, hrests⟩

/-- Nothing is left to do when nothing is read that gives a message. -/
theorem Reads.drains {bs : List UInt8} (hc : c.Reads bs) {stream : Stream}
    (hwaits : stream.Waits unread) :
    ({ c with stream } : Connection).Drains unread c.session {} ∧
      ({ c with stream } : Connection).Alert ∧ ({ c with stream } : Connection).left = 0 := by
  have hnone := Session.answerGivenUp_nil hc.givenUp
  refine ⟨⟨⟨hc.load, hc.gates, hwaits, hc.reading, hc.answers, hc.works,
    fun hended => absurd (hc.opened.symm.trans hended) (by simp), hc.jobs, ?_, ?_, ?_, ?_⟩,
    fun x hx => (hc.light x hx).1, fun x hx hneeds => ?_, ?_, ?_, ?_, ?_⟩, ?_, ?_⟩
  · simp [hc.responses]
  · simp [hc.responses]
  · simp [hc.notices]
  · simp [hc.notices]
  · obtain ⟨slot, hslot, -⟩ := hneeds.resolve_left (hc.light x hx).2
    exact absurd (hc.givenUp ▸ hslot) List.not_mem_nil
  · simp [hc.givenUp]
  · simp [hnone]
  · simp [hnone, hc.effects, owed, hc.responses, hc.notices, hc.finished]
  · simp [hc.effects]
  · exact .inr ⟨by simp [HearsResponses, hc.responses], by simp [hc.notices]⟩
  · simp [left, unsent, hc.called, hc.finished, hc.responses, hc.notices]

/-- Something arrives that gives no message. -/
theorem Rests.step_nothing {unread' bs : List UInt8} (hc : c.Rests unread)
    (hphase : c.session.phase ≠ .exited)
    (hread : ∀ d : Connection, d.Reads (unread ++ bs) → d.session = c.session →
      d.stream = c.stream.arrive bs → ∃ stream : Stream, stream.Waits unread' ∧
        d.read = { d with stream }) :
    (c.step (.arrive bs)).1.Rests unread' ∧ (c.step (.arrive bs)).1.session = c.session ∧
      (c.step (.arrive bs)).2.Like {} := by
  obtain ⟨w, hreads, hsession, -, hstream, hturn⟩ := hc.reads hphase bs
  obtain ⟨stream, hwaits, hread⟩ := hread w hreads hsession hstream
  obtain ⟨hdrains, halert, hnothing⟩ := hreads.drains hwaits
  rw [← hread] at hdrains halert hnothing
  have hrounds := hdrains.work halert
  rw [hsession] at hrounds
  have hleft := hrounds.moves.left_le
  exact hc.step_of_turn hturn ⟨hrounds.drains, hrounds.quiet, by omega⟩ hc.session

/-- **A piece of a frame** is kept until the rest has arrived. -/
theorem Rests.step_piece {bs q : List UInt8} {content : Frame.Content} (hc : c.Rests unread)
    (hphase : c.session.phase ≠ .exited) (hq : q ≠ [])
    (hframe : Frame.read ⟨unread ++ bs ++ q, none⟩ = (⟨[], none⟩, .content content)) :
    (c.step (.arrive bs)).1.Rests (unread ++ bs) ∧
      (c.step (.arrive bs)).1.session = c.session ∧ (c.step (.arrive bs)).2.Like {} := by
  refine hc.step_nothing hphase fun d hd _ _ => ?_
  obtain ⟨stream, hnext, hwaits⟩ := Stream.next_more hd.stream hd.closed hq hframe
  exact ⟨stream, hwaits, by simp only [Connection.read, hd.reading, readAll, readOne, hnext]⟩

/-- **A response** is read, and nothing comes of it. -/
theorem Rests.step_response {bs : List UInt8} (hc : c.Rests unread)
    (hphase : c.session.phase ≠ .exited)
    (hframe : Frame.read ⟨unread ++ bs, none⟩ = (⟨[], none⟩, .content .response)) :
    (c.step (.arrive bs)).1.Rests [] ∧ (c.step (.arrive bs)).1.session = c.session ∧
      (c.step (.arrive bs)).2.Like {} := by
  refine hc.step_nothing hphase fun d hd hsession hstream => ?_
  have hbs := hc.stream.ne_nil (q := bs) (by simp [hframe])
  obtain ⟨⟨stream, stream', hnext, hnext', hwaits⟩, fuel, hread⟩ :=
    hd.next (by simp [hstream, Stream.arrive, hbs]) hframe
  have hfirst : d.readOne = ({ d with stream }, true) := by
    simp only [readOne, hnext, if_neg (hsession ▸ hphase)]
  have hsecond : Connection.readOne { d with stream } = ({ d with stream := stream' }, false) := by
    simp only [readOne, hnext']
  refine ⟨stream', hwaits, ?_⟩
  rw [hread]
  simp only [readAll, hfirst, hsecond]

/-! ## Frames, and runs of them -/

/-- The connection after the steps of a run. -/
def after (c : Connection) (steps : List Step) : Connection :=
  steps.foldl (fun c x => (c.step x).1) c

/-- All that comes of the steps of a run. -/
def effectsOf (c : Connection) (steps : List Step) : Effects :=
  ((c.run steps).map (·.1)).foldr Effects.append {}

theorem effectsOf_cons (c : Connection) (x : Step) (xs : List Step) :
    c.effectsOf (x :: xs) = (c.step x).2.append ((c.step x).1.effectsOf xs) := rfl

theorem effectsOf_append (c : Connection) (xs ys : List Step) :
    c.effectsOf (xs ++ ys) = (c.effectsOf xs).append ((c.after xs).effectsOf ys) := by
  induction xs generalizing c with
  | nil => rfl
  | cons x xs ih =>
    rw [List.cons_append, effectsOf_cons, effectsOf_cons, ih, Effects.append_assoc]
    rfl

/-- **The last piece of a frame**, and all that follows, is what the session does in one step. -/
theorem Rests.step_frame {bs : List UInt8} {content : Frame.Content} (hc : c.Rests unread)
    (hphase : c.session.phase ≠ .exited) (hfree : c.session.inFlight.length < concurrency)
    (hframe : Frame.read ⟨unread ++ bs, none⟩ = (⟨[], none⟩, .content content)) :
    ∃ effects, c.session.step content.step = ((c.step (.arrive bs)).1.session, some effects) ∧
      (c.step (.arrive bs)).2.Like effects ∧ (c.step (.arrive bs)).1.Rests [] := by
  cases content with
  | message m => exact hc.step_message hphase hfree hframe
  | response =>
    obtain ⟨hrests, hsession, hlike⟩ := hc.step_response hphase hframe
    exact ⟨{}, by rw [hsession]; rfl, hlike, hrests⟩

/-- **One frame**, in whatever pieces it arrives, is what the session does in one step. -/
theorem Rests.feed {content : Frame.Content} (pieces : List (List UInt8)) (hc : c.Rests unread)
    (hphase : c.session.phase ≠ .exited) (hfree : c.session.inFlight.length < concurrency)
    (hpieces : ∀ p ∈ pieces, p ≠ [])
    (hframe : Frame.read ⟨unread ++ pieces.flatten, none⟩ = (⟨[], none⟩, .content content)) :
    ∃ effects, c.session.step content.step =
        ((c.after (pieces.map .arrive)).session, some effects) ∧
      (c.effectsOf (pieces.map .arrive)).Like effects ∧
      (c.after (pieces.map .arrive)).Rests [] := by
  induction pieces generalizing c unread with
  | nil => exact absurd rfl (hc.stream.ne_nil (q := []) (by rw [← List.flatten_nil, hframe]; simp))
  | cons p ps ih =>
    have hps : ∀ p ∈ ps, p ≠ [] := fun q hq => hpieces q (List.mem_cons_of_mem p hq)
    rw [List.flatten_cons, ← List.append_assoc] at hframe
    cases ps with
    | nil =>
      rw [List.flatten_nil, List.append_nil] at hframe
      obtain ⟨effects, hstep, hlike, hrests⟩ := hc.step_frame hphase hfree hframe
      refine ⟨effects, hstep, ?_, hrests⟩
      rw [List.map_singleton, effectsOf_cons]
      exact (Effects.append_nil _).symm ▸ hlike
    | cons q qs =>
      have hmore : (q :: qs).flatten ≠ [] := by
        have hq := hps q List.mem_cons_self
        simp [hq]
      obtain ⟨hrests, hsession, hlike⟩ := hc.step_piece hphase hmore hframe
      obtain ⟨effects, hstep, hlike', hrests'⟩ := ih hrests (hsession ▸ hphase)
        (hsession ▸ hfree) hps hframe
      refine ⟨effects, hsession ▸ hstep, ?_, hrests'⟩
      rw [List.map_cons, effectsOf_cons]
      exact hlike.append hlike'

/-- **One frame after the other**: as long as a hand is free for each message, a connection is its
session. -/
theorem Rests.feedAll (ds : List Delivery) (hc : c.Rests [])
    (hfree : c.session.Free (ds.map (·.content.step))) :
    (c.after (ds.flatMap fun d => d.pieces.map .arrive)).session =
        c.session.after (ds.map (·.content.step)) ∧
      (c.effectsOf (ds.flatMap fun d => d.pieces.map .arrive)).Like
        (c.session.effectsOf (ds.map (·.content.step))) ∧
      (c.after (ds.flatMap fun d => d.pieces.map .arrive)).Rests [] := by
  induction ds generalizing c with
  | nil => exact ⟨rfl, ⟨.refl _, rfl⟩, hc⟩
  | cons d ds ih =>
    obtain ⟨hphase, hhand, hrest⟩ := hfree
    obtain ⟨effects, hstep, hlike, hrests⟩ := hc.feed d.pieces hphase hhand d.nonempty d.frame
    rw [hstep] at hrest
    obtain ⟨hsession, hlike', hrests'⟩ := ih hrests hrest
    have hafter : c.after ((d :: ds).flatMap fun d => d.pieces.map .arrive) =
        (c.after (d.pieces.map .arrive)).after (ds.flatMap fun d => d.pieces.map .arrive) := by
      rw [List.flatMap_cons]
      exact List.foldl_append
    rw [hafter, List.flatMap_cons, effectsOf_append, List.map_cons, Session.effectsOf_cons hstep]
    refine ⟨hsession.trans ?_, hlike.append hlike', hrests'⟩
    simp [Session.after, hstep]

theorem rests_ofService (service : Analysis) : (ofService service).Rests [] where
  load := sound_ofService service
  gates := Outline.atGates_ofService service Settings.standard
  stream := Stream.waits_nil
  reading := rfl
  answers := rfl
  works := rfl
  silent hended := absurd hended (by simp [ofService])
  jobs := ⟨rfl, rfl, rfl⟩
  responsesRoom := rfl
  responsesWaiting := rfl
  noticesRoom := rfl
  noticesWaiting := rfl
  called := rfl
  finished := rfl
  unsent := rfl
  session := Session.sound_ofService service
  light _ hh := absurd hh List.not_mem_nil

/-- **A connection that begins** is a session that begins. -/
theorem feedAll_ofService (service : Analysis) (ds : List Delivery)
    (hfree : (Session.ofService service).Free (ds.map (·.content.step))) :
    ((ofService service).after (ds.flatMap fun d => d.pieces.map .arrive)).session =
        (Session.ofService service).after (ds.map (·.content.step)) ∧
      ((ofService service).effectsOf (ds.flatMap fun d => d.pieces.map .arrive)).Like
        ((Session.ofService service).effectsOf (ds.map (·.content.step))) :=
  have ⟨hsession, hlike, _⟩ := (rests_ofService service).feedAll ds hfree
  ⟨hsession, hlike⟩

/-- The two pieces of an `initialize` begin a session. -/
theorem initialized_of_greeting (service : Analysis) :
    ((ofService service).after (Delivery.greeting.pieces.map .arrive)).session.phase =
      .initialized := by
  have hfree : (Session.ofService service).Free [Delivery.greeting.content.step] :=
    ⟨by simp [Session.ofService], by simp [Session.ofService, concurrency], trivial⟩
  obtain ⟨hsession, -⟩ := feedAll_ofService service [Delivery.greeting] hfree
  rw [List.flatMap_singleton] at hsession
  rw [hsession]
  rfl

end Connection

end TokenOutline.Server
