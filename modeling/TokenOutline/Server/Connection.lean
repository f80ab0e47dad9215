import TokenOutline.Server.Mailbox
import TokenOutline.Server.Session
import TokenOutline.Server.Stream

/-!
# A session over a stream

Models `serve`: the service of `build_service` behind a reader and a writer of the same stream. A
connection works in turns. In a turn it first writes what has been left to be sent, then reads the
frames that have arrived, and then works on the jobs of the messages it has read. The three parts
leave work for one another in mailboxes:

* The reader leaves jobs for the worker, and stops for a while when `capacity` of them wait.
* The reader and the worker leave responses for the writer, one at a time.
* Jobs leave notices for the writer; one may wait, and a job that leaves another one goes on when
  one has been taken.

The worker has at most `concurrency` jobs in hand. It goes on with those that have been called: by
being taken in hand, by the opening of a gate that a build waits for, by being given up, or by a
notice that has been taken. When a part calls another one, or something has been sent, a further
turn follows.

Reading ends with the stream, with the first frame that is none, and for good with the first message
after the end of the session. After it, notices are not written any more.

Headlines:
* **`Connection.turn`**: one turn.
* **`Connection.step`**, **`Connection.run`**: what arrives or changes, and all that follows.
* **`Connection.isDone`**: whether nothing more can come of the stream.
-/

namespace TokenOutline.Server

/-! ## The state of a connection -/

/-- Who leaves responses for the writer. -/
inductive Party where
  | reader
  | worker
  deriving DecidableEq, Inhabited

/-- What the reader is at. -/
inductive Reading where
  /-- It reads. -/
  | reading
  /-- It waits for room among the jobs. -/
  | leavingJob
  /-- It waits for its response to be taken. -/
  | leavingResponse
  /-- A message has come after the end of the session, and it waits for ever. -/
  | stuck
  | finished
  deriving DecidableEq, Inhabited

/-- How far a job in hand has come. -/
inductive Stage where
  | fresh
  /-- Its build waits for lookups. -/
  | building
  /-- It has left a notice, and its response comes when there is room for notices. -/
  | noticed (response : Option Response)

/-- A job in hand. -/
structure InHand where
  job : Job
  number : Nat
  stage : Stage

/-- A session over a stream. -/
structure Connection where
  session : Session
  stream : Stream := {}
  reading : Reading := .reading
  jobs : Mailbox Unit Job
  responses : Mailbox Party Response
  notices : Mailbox Nat Notice
  /-- Responses are looked at before notices the next time. -/
  responsesNext : Bool := true
  /-- No response can come any more. -/
  responsesEnded : Bool := false
  /-- No notice can come any more. -/
  noticesEnded : Bool := false
  inHand : List InHand := []
  /-- The numbers of the jobs that have been called, in that order. -/
  called : List Nat := []
  /-- The worker waits for a job to be called. -/
  awaiting : Bool := false
  /-- The response that the worker is about to leave. -/
  finishedResponse : Option Response := none
  workFinished : Bool := false
  /-- The number of the next job to be taken in hand. -/
  nextNumber : Nat := 0
  /-- Another turn is called for. -/
  again : Bool := false
  /-- What has come of the step so far. -/
  effects : Effects := {}

namespace Connection

/-- How many jobs may be in hand at a time. -/
def concurrency : Nat := 4

/-- How many jobs may wait before reading stops for a while. -/
def capacity : Nat := 100

/-- A stream from which nothing has arrived. -/
def ofService (service : Analysis) : Connection where
  session := Session.ofService service
  jobs := { room := capacity }
  responses := { room := 0 }
  notices := { room := 1 }

/-- Whether nothing can be left for the writer any more. -/
def responsesClosed (c : Connection) : Bool := c.reading = .finished && c.workFinished

/-- Whether the writer has ended. -/
def writingEnded (c : Connection) : Bool := c.responsesEnded && c.noticesEnded

/-- Whether nothing more can come of the stream. -/
def isDone (c : Connection) : Bool :=
  c.writingEnded && c.reading = .finished && c.workFinished

/-! ## Calling -/

/-- Something is sent, which calls for another turn. -/
def send (c : Connection) (o : Outgoing) : Connection :=
  { c with
    effects := { c.effects with outgoing := c.effects.outgoing ++ [o] }
    again := true }

/-- Something passes between the session and the service. -/
def record (c : Connection) (events : List Event) : Connection :=
  { c with effects := { c.effects with events := c.effects.events ++ events } }

/-- Call for another turn, if that is due. -/
def callFor (due : Bool) (c : Connection) : Connection := { c with again := c.again || due }

/-- Call a job that is in hand. -/
def callJob (c : Connection) (number : Nat) : Connection :=
  if c.inHand.any (·.number = number) && !c.called.contains number then
    { c with called := c.called ++ [number], again := c.again || c.awaiting, awaiting := false }
  else c

/-- Call the jobs in hand that have begun and are such as `p` says. -/
def callJobs (p : InHand → Bool) (c : Connection) : Connection :=
  (c.inHand.filter fun h => p h && !(h.stage matches .fresh)).foldl
    (fun c h => c.callJob h.number) c

/-- Take over a session, and call the jobs of the requests that it has given up since. -/
def withSession (c : Connection) (s : Session) : Connection :=
  let before := c.session.givenUp
  let silenced := s.silent && !c.session.silent
  let c := { c with session := s }
  let c := c.callJobs fun h => h.job.slot?.any fun slot => slot ∈ s.givenUp && slot ∉ before
  if silenced then { c with notices := c.notices.call }.callFor c.notices.listening else c

/-- Leave a response for the writer. -/
def putResponse (c : Connection) (party : Party) (r : Response) : Connection :=
  { c with responses := c.responses.put party r }.callFor c.responses.listening

/-- Leave a notice for the writer. -/
def putNotice (c : Connection) (number : Nat) (n : Notice) : Connection :=
  { c with notices := c.notices.put number n }.callFor c.notices.listening

/-- Leave a job for the worker. -/
def putJob (c : Connection) (j : Job) : Connection :=
  { c with jobs := c.jobs.put () j }.callFor c.jobs.listening

/-! ## Writing -/

/-- Write a response that has been left. -/
def writeResponse (c : Connection) : Connection × Bool :=
  match c.responses.take with
  | some (r, _, responses) => ({ c with responses }.send (.response r), true)
  | none =>
    (if c.responsesClosed then { c with responsesEnded := true }
      else { c with responses := c.responses.listen }, false)

/-- Write a notice that has been left, unless reading has ended. -/
def writeNotice (c : Connection) : Connection × Bool :=
  if c.reading = .finished then ({ c with noticesEnded := true }, false)
  else
    match c.notices.take with
    | some (n, freed, notices) =>
      let c := { c with notices }.send (.notice n)
      (match freed with
        | some number => c.callJob number
        | none => c, true)
    | none =>
      (if c.session.silent then { c with noticesEnded := true }
        else { c with notices := c.notices.listen }, false)

/-- Write one thing that has been left, and say whether there was one. While both responses and
notices may come, they are looked at first by turns. -/
def writeOne (c : Connection) : Connection × Bool :=
  if c.responsesEnded then (if c.noticesEnded then (c, false) else c.writeNotice)
  else if c.noticesEnded then c.writeResponse
  else
    let first := c.responsesNext
    let c := { c with responsesNext := !first }
    match if first then c.writeResponse else c.writeNotice with
    | (c, true) => (c, true)
    | (c, false) => if first then c.writeNotice else c.writeResponse

/-- Write everything that has been left; `fuel` bounds how much. -/
def writeAll : (fuel : Nat) → Connection → Connection
  | 0, c => c
  | fuel + 1, c =>
    match c.writeOne with
    | (c, true) => writeAll fuel c
    | (c, false) => c

/-- The part of the writer in a turn. -/
def write (c : Connection) : Connection :=
  c.writeAll (c.responses.items.length + c.notices.items.length + 1)

/-! ## Reading -/

/-- Reading ends: whoever waits for something that the reader might have left is called. -/
def endReading (c : Connection) : Connection :=
  { c with reading := .finished, jobs := c.jobs.call }.callFor true

/-- Take a message that has been read. -/
def takeMessage (c : Connection) (m : Message) : Connection :=
  let (session, job) := c.session.accept m
  let c := (c.withSession session).putJob job
  if c.jobs.keeps () then { c with reading := .leavingJob } else c

/-- Read one frame. -/
def readOne (c : Connection) : Connection × Bool :=
  let (stream, next) := c.stream.next
  let c := { c with stream }
  match next with
  | .more => (c, false)
  | .ended => (c.endReading, false)
  | .broken why =>
    ({ c with reading := .leavingResponse, stream := stream.stop }.putResponse .reader
      ⟨.null, .error why⟩, false)
  | .content content =>
    if c.session.phase = .exited then ({ c with reading := .stuck }, false)
    else
      match content with
      | .response => (c, true)
      | .message m =>
        let c := c.takeMessage m
        (c, c.reading = .reading)

/-- Read the frames that have arrived; `fuel` bounds how many. -/
def readAll : (fuel : Nat) → Connection → Connection
  | 0, c => c
  | fuel + 1, c =>
    match c.readOne with
    | (c, true) => readAll fuel c
    | (c, false) => c

/-- The part of the reader in a turn. -/
def read (c : Connection) : Connection :=
  let fuel := c.stream.arrived.length + c.stream.held.octets.length + 1
  match c.reading with
  | .reading => c.readAll fuel
  | .leavingJob =>
    if c.jobs.keeps () then c else { c with reading := .reading }.readAll fuel
  | .leavingResponse =>
    if c.responses.keeps .reader then c else { c with reading := .reading }.readAll fuel
  | .stuck | .finished => c

/-! ## Working -/

/-- Take jobs in hand while there are some and hands are free. -/
def takeInHand : (free : Nat) → Connection → Connection
  | 0, c => c
  | free + 1, c =>
    match c.jobs.take with
    | some (job, freed, jobs) =>
      takeInHand free { c with
        jobs
        inHand := c.inHand ++ [⟨job, c.nextNumber, .fresh⟩]
        called := c.called ++ [c.nextNumber]
        nextNumber := c.nextNumber + 1
        again := c.again || freed.isSome }
    | none => if c.reading = .finished then c else { c with jobs := c.jobs.listen }

/-- Set how far a job in hand has come. -/
def setStage (c : Connection) (number : Nat) (stage : Stage) : Connection :=
  { c with inHand := c.inHand.map fun h => if h.number = number then { h with stage } else h }

/-- What has become of a job that was gone on with. -/
inductive Result where
  /-- It has ended, with a response or without. -/
  | ended (response : Option Response)
  /-- It waits. -/
  | waits
  /-- It waits, and wants to be gone on with after the others. -/
  | yields

/-- A job ends. -/
def finishJob (c : Connection) (h : InHand) (response : Option Response) : Connection × Result :=
  ({ c with inHand := c.inHand.filter (·.number ≠ h.number) }.withSession
    (c.session.finish h.job response), .ended response)

/-- Whether a build that has begun wants to be gone on with, though nothing has called it: one of
many tokens all of whose lookups were tried in vain since the last one that was answered. -/
def wantsMore (c : Connection) (h : InHand) : Bool :=
  (h.stage matches .fresh) &&
    h.job.slot?.any fun slot => c.session.outline.unfinished.any fun u =>
      u.id = slot && smallBuild < u.build.tokens.length && u.build.waitsAtEnd

/-- A job has come as far as is told. -/
def takeProgress (c : Connection) (h : InHand) : Progress → Connection × Result
  | .waits =>
    let yields := c.wantsMore h
    let c := c.setStage h.number .building
    if yields then (c.callJob h.number, .yields) else (c, .waits)
  | .ends none response => c.finishJob h response
  | .ends (some notice) response =>
    if c.session.silent then c.finishJob h response
    else
      let c := c.putNotice h.number notice
      if c.notices.keeps h.number then (c.setStage h.number (.noticed response), .waits)
      else c.finishJob h response

/-- Go on with a job. -/
def workOn (c : Connection) (h : InHand) : Connection × Result :=
  let go (result : Session × Progress × List Event) : Connection × Result :=
    let (session, progress, events) := result
    ((c.withSession session).record events).takeProgress h progress
  match h.stage, h.job.slot? with
  | .fresh, _ => go (c.session.begin h.job)
  | .building, some slot => go (c.session.resume slot)
  | .building, none => c.finishJob h none
  | .noticed response, slot? =>
    match slot?.filter (· ∈ c.session.givenUp) with
    | some slot => go (c.session, Session.canceled slot, [])
    | none =>
      if c.notices.keeps h.number && !c.session.silent then (c, .waits)
      else c.finishJob h response

/-- Go on with the jobs that have been called, until one ends, two yield, or as many wait as were in
hand; gives what has ended. `fuel` bounds how many there are. -/
def workOnCalled :
    (fuel inHand waited yielded : Nat) → Connection → Connection × Option (Option Response)
  | 0, _, _, _, c => (c, none)
  | fuel + 1, inHand, waited, yielded, c =>
    match c.called with
    | [] => (c, none)
    | number :: called =>
      let c := { c with called }
      match c.inHand.find? (·.number = number) with
      | none => workOnCalled fuel inHand waited yielded c
      | some h =>
        match c.workOn h with
        | (c, .ended response) => (c, some response)
        | (c, result) =>
          let yielded := if result matches .yields then yielded + 1 else yielded
          if 2 ≤ yielded || waited + 1 = inHand then (c.callFor true, none)
          else workOnCalled fuel inHand (waited + 1) yielded c

/-- Work; `fuel` bounds for how long. A response is left when the one before it has been taken. -/
def workAll : (fuel : Nat) → Connection → Connection
  | 0, c => c
  | fuel + 1, c =>
    let held := c.finishedResponse
    if held.isSome && c.responses.keeps .worker then c
    else
      let c := match held with
        | some r => { c with finishedResponse := none }.putResponse .worker r
        | none => c
      let c := c.takeInHand (concurrency - c.inHand.length)
      let c := { c with awaiting := true }
      match c.workOnCalled (c.called.length + c.inHand.length + 1) c.inHand.length 0 0 with
      | (c, some response) => workAll fuel { c with finishedResponse := response }
      | (c, none) =>
        if c.inHand.isEmpty && c.jobs.items.isEmpty && c.reading = .finished then
          { c with workFinished := true, responses := c.responses.call }.callFor
            c.responses.listening
        else c

/-- The part of the worker in a turn. -/
def work (c : Connection) : Connection :=
  if c.workFinished then c
  else c.workAll (c.jobs.items.length + c.inHand.length + 2)

/-! ## Turns -/

/-- One turn. -/
def turn (c : Connection) : Connection :=
  { c with again := false }.write.read.work

/-- Turns as long as they are called for; `fuel` bounds how many. -/
def turns : (fuel : Nat) → Connection → Connection
  | 0, c => c
  | fuel + 1, c =>
    let c := c.turn
    if c.again && !c.isDone then turns fuel c else c

/-- More turns than can be called for. -/
def patience (c : Connection) : Nat :=
  16 * (c.stream.arrived.length + c.jobs.items.length + c.inHand.length +
    c.responses.items.length + c.notices.items.length) + 64

/-! ## Steps -/

/-- What happens to a stream. -/
inductive Step where
  /-- Octets arrive. -/
  | arrive (octets : List UInt8)
  /-- The last octet has arrived. -/
  | close
  /-- The service changes. -/
  | service (step : Analysis.Step)

/-- The service changes, and the builds that a gate kept are called. -/
def changeService (c : Connection) (s : Analysis.Step) : Connection :=
  let c := { c with session := { c.session with outline := c.session.outline.adopt s } }
  match s with
  | .release key => c.callJobs fun h => h.job.slot?.any fun slot =>
      c.session.outline.isWaiting slot key
  | _ => c

/-- Take in what happens. -/
def take (c : Connection) : Step → Connection
  | .arrive bs => if c.stream.closed then c else { c with stream := c.stream.arrive bs }
  | .close => { c with stream := { c.stream with closed := true } }
  | .service s => c.changeService s

/-- What happens, and all that follows from it. -/
def step (c : Connection) (s : Step) : Connection × Effects :=
  let c := { c with effects := {} }.take s
  let c := if c.isDone then c else c.turns c.patience
  (c, c.effects)

/-- The steps of a run: what comes of each, and the connection after it. -/
def run (c : Connection) : List Step → List (Effects × Connection)
  | [] => []
  | s :: ss =>
    let (c, effects) := c.step s
    (effects, c) :: c.run ss

end Connection

end TokenOutline.Server
