import TokenOutline.Server.Documents
import TokenOutline.Server.Method
import TokenOutline.Url.File

/-!
# A session with an editor

A session takes the messages of an editor one by one. A message is first accepted, which settles
what may be done with it, enters a request among those in flight and gives a job; the job is then
begun, and ends once what comes of it has been sent. In between other messages may be accepted, and
a request may be given up; it is then only answered.

* Requests for items (`lexer_symbols`) start a build of the outline, and end when it does; the
  document is settled when the job is begun.
* Documents and settings are kept by `did_open`, `did_change`, `did_save`, `did_close`,
  `did_change_configuration` and `active_document_changed`. Every change of the outline is announced
  to the editor while the session is up (`notify_changed`).
* How far the session is up is settled by the answer to the first request (`initialize`), and by the
  last one (`shutdown`) when it is accepted.

Headlines:
* **`Session.accept`**, **`Session.begin`**, **`Session.resume`**, **`Session.finish`**: the parts
  of taking a message.
* **`Session.receive`**: all of them at once, as far as they go.
* **`Session.changeService`**: a change of the service, and the requests that it answers.
* **`Session.run`**, **`Session.after`**: a run of messages and changes.
-/

namespace TokenOutline.Server

/-! ## The state of a session -/

/-- How far a session has come. -/
inductive Phase where
  | uninitialized
  | initialized
  | shutDown
  | exited
  deriving DecidableEq, Inhabited

/-- A request in flight: its id, and a number that no other request has. -/
structure Slot where
  id : MessageId
  serial : Nat
  deriving DecidableEq, Inhabited

/-- A session. -/
structure Session where
  phase : Phase
  documents : Documents
  outline : Outline Slot
  /-- The requests that may be given up, in the order in which they came. -/
  inFlight : List Slot
  /-- The requests that have been given up and not been answered. -/
  givenUp : List Slot
  /-- The number of the next request. -/
  nextSerial : Nat
  /-- The session has been ended once, and no notice goes out any more. -/
  silent : Bool

/-- What comes of a message: what the server sends, and what passes between it and the service. -/
structure Effects where
  outgoing : List Outgoing := []
  events : List Event := []

/-- One after the other. -/
def Effects.append (a b : Effects) : Effects :=
  ⟨a.outgoing ++ b.outgoing, a.events ++ b.events⟩

/-- What is to be done for an accepted message. -/
inductive Task where
  /-- A request in flight is to be answered. -/
  | request (slot : Slot) (call : Except Refusal Call)
  /-- A request is refused without having been in flight. -/
  | refuse (id : MessageId) (why : Refusal)
  /-- A notification is to be heeded. -/
  | notify (call : Call)
  /-- Nothing is to be done. -/
  | none

/-- An accepted message. -/
structure Job where
  task : Task
  /-- Its answer settles whether the session is up. -/
  starts : Bool := false

/-- The request that a job answers, if it was in flight. -/
def Job.slot? (j : Job) : Option Slot :=
  match j.task with
  | .request slot _ => some slot
  | _ => none

/-- How far a job has come. -/
inductive Progress where
  /-- Its build waits for lookups. -/
  | waits
  /-- All that is left is to send a notice, and then a response. -/
  | ends (notice : Option Notice) (response : Option Response)

namespace Session

/-- A session that begins. -/
def ofService (service : Analysis) : Session :=
  ⟨.uninitialized, Documents.none, Outline.ofService service Settings.standard, [], [], 0, false⟩

/-! ## Accepting -/

/-- The answer to a message that comes at the wrong time. -/
def untimely (phase : Phase) : Option MessageId → Task
  | some id =>
    .refuse id (if phase = .uninitialized then .notInitialized else .invalidRequest)
  | none => .none

/-- Enter a request of a method among those in flight; a notification is read at once. -/
def enter (s : Session) (m : Method) (msg : Message) : Session × Task :=
  match msg.id with
  | some id =>
    if s.inFlight.any (·.id = id) then (s, .refuse id .invalidRequest)
    else
      let slot := ⟨id, s.nextSerial⟩
      ({ s with inFlight := s.inFlight ++ [slot], nextSerial := s.nextSerial + 1 },
        .request slot (if m.isRequest then m.read msg.params else .error .invalidRequest))
  | none =>
    match m.isRequest, m.read msg.params with
    | false, .ok call => (s, .notify call)
    | _, _ => (s, .none)

/-- A message that is let in at any time and never in flight. -/
def letIn (m : Method) (msg : Message) : Task :=
  match msg.id, m.read msg.params with
  | some id, _ => .refuse id .invalidRequest
  | none, .ok call => .notify call
  | none, .error _ => .none

/-- Give up the requests in flight that have an id. -/
def giveUp (s : Session) (id : MessageId) : Session :=
  { s with
    inFlight := s.inFlight.filter (·.id ≠ id)
    givenUp := s.givenUp ++ s.inFlight.filter (·.id = id) }

/-- The end of the session: everything in flight is given up. -/
def exit (s : Session) : Session :=
  { s with phase := .exited, inFlight := [], givenUp := s.givenUp ++ s.inFlight, silent := true }

/-- Accept a message of no known method. -/
def unknown (msg : Message) : Task :=
  match msg.id with
  | some id =>
    if "$/".toList.isPrefixOf msg.method.toList then .none
    else .refuse id (.unknownMethod msg.method)
  | none => .none

/-- Accept a message. -/
def accept (s : Session) (msg : Message) : Session × Job :=
  match Method.find? msg.method with
  | none => (s, ⟨unknown msg, false⟩)
  | some m =>
    match m.entrance with
    | .once =>
      if s.phase = .uninitialized then
        let (s, task) := s.enter m msg
        (s, ⟨task, true⟩)
      else
        (s, ⟨match msg.id with
          | some id => .refuse id .invalidRequest
          | none => .none, false⟩)
    | .initialized =>
      if s.phase = .initialized then
        let (s, task) := s.enter m msg
        (s, ⟨task, false⟩)
      else (s, ⟨untimely s.phase msg.id, false⟩)
    | .shutdown =>
      if s.phase = .initialized then
        let (s, task) := { s with phase := .shutDown }.enter m msg
        (s, ⟨task, false⟩)
      else (s, ⟨untimely s.phase msg.id, false⟩)
    | .exit => (s.exit, ⟨.none, false⟩)
    | .always => (s, ⟨letIn m msg, false⟩)

/-! ## Beginning -/

/-- What the server is capable of, as it answers the first request (`initialize`). -/
def capabilities : Json :=
  .object [
    ("capabilities", .object [
      ("textDocumentSync", .object [
        ("change", .ofNat 1),
        ("openClose", .bool true),
        ("save", .object [("includeText", .bool false)])])]),
    ("serverInfo", .object [
      ("name", .string "lexer-symbols-lsp"),
      ("version", .string "0.1.0")])]

/-- A line for the log (`log_message`). -/
def log (s : Session) (severity : Severity) (message : String) : Option Notice :=
  if s.silent then none else some (.log severity message)

/-- Count a change of the outline, and announce it while the session is up (`notify_changed`). -/
def announce (s : Session) (uri : Option Url) : Session × Option Notice :=
  ({ s with outline := (s.outline.step .refresh).1 },
    if !s.silent && (s.phase = .initialized || s.phase = .shutDown) then some (.changed uri)
    else none)

/-- The items of an answer as the editor takes them. -/
def itemsJson (items : Option (List Item)) : Json :=
  .ofOption (fun items => .array (items.map fun i => i.toEditor.encode)) items

/-- The end of a request whose build has ended: both ways out of `lexer_symbols`. -/
def outcome (s : Session) (f : Finished Slot) : Progress :=
  match f.answer with
  | .ok items => .ends none (some ⟨f.id.id, .ok (itemsJson items)⟩)
  | .error e => .ends (s.log .error ("Failed to list lexer symbols: " ++ e.message))
      (some ⟨f.id.id, .error (.unresolved e)⟩)

/-- The document of a request for items: its own, or the active one. -/
def documentOf (s : Session) (p : Editor.OutlineParams) : Option Url :=
  match p.document with
  | some d => some d.uri
  | none => s.documents.active

/-- How far a request has come after what a report tells. -/
def progress (s : Session) (report : Report Slot) : Progress :=
  match report.finished with
  | f :: _ => s.outcome f
  | [] => .waits

/-- A request for items (`lexer_symbols`). -/
def listItems (s : Session) (slot : Slot) (p : Editor.OutlineParams) :
    Session × Progress × List Event :=
  let (outline, report) := s.outline.step
    (.request slot ((s.documentOf p).map Url.fileName) (p.item.map (·.toItem)))
  ({ s with outline }, s.progress report, report.events)

/-- New settings, or a warning that says why there are none (`did_change_configuration`). -/
def takeSettings (s : Session) (value : Json) : Session × Option Notice :=
  match Settings.decode value with
  | .ok _ => { s with outline := (s.outline.step (.configure value)).1 }.announce s.documents.active
  | .error e =>
    (s, s.log .warning ("Failed to parse configuration: " ++ Settings.refusal e))

/-- A document is closed; if it was the active one, another one is now (`did_close`). -/
def close (s : Session) (u : Url) : Session × Option Notice :=
  let documents := s.documents.close u
  if s.documents.active = some u then { s with documents }.announce documents.active
  else ({ s with documents }, none)

/-- A document becomes active, which is a change only if it was not
(`active_document_changed`). -/
def activate (s : Session) (u : Option Url) : Session × Option Notice :=
  if s.documents.active = u then (s, none)
  else { s with documents := s.documents.activate u }.announce u

/-- Do what a notification asks for: `initialized`, `did_open`, `did_change`, `did_save` and those
above, or the cancellation of a request. -/
def notified (s : Session) : Call → Session × Option Notice
  | .started => (s, s.log .info "lexer-symbols-lsp initialized")
  | .opened u => { s with documents := s.documents.open u }.announce (some u)
  | .changed u | .saved u => s.announce (some u)
  | .closed u => s.close u
  | .settings v => s.takeSettings v
  | .activated u => s.activate u
  | .cancel id => (s.giveUp id, none)
  | _ => (s, none)

/-- Do what a request asks for: `lexer_symbols`, `initialize` or `shutdown`. -/
def requested (s : Session) (slot : Slot) : Call → Session × Progress × List Event
  | .outline p => s.listItems slot p
  | .start => (s, .ends none (some ⟨slot.id, .ok capabilities⟩), [])
  | .shutdown => (s, .ends none (some ⟨slot.id, .ok .null⟩), [])
  | _ => (s, .ends none (some ⟨slot.id, .error .unsupportedMethod⟩), [])

/-- The end of a request that has been given up. -/
def canceled (slot : Slot) : Progress := .ends none (some ⟨slot.id, .error .canceled⟩)

/-- Begin a job. -/
def begin (s : Session) (j : Job) : Session × Progress × List Event :=
  match j.task with
  | .request slot call =>
    if slot ∈ s.givenUp then (s, canceled slot, [])
    else
      match call with
      | .ok call => s.requested slot call
      | .error e => (s, .ends none (some ⟨slot.id, .error e⟩), [])
  | .refuse id why => (s, .ends none (some ⟨id, .error why⟩), [])
  | .notify call =>
    let (s, notice) := s.notified call
    (s, .ends notice none, [])
  | .none => (s, .ends none none, [])

/-- Go on with a request whose build may have been answered. -/
def resume (s : Session) (slot : Slot) : Session × Progress × List Event :=
  if slot ∈ s.givenUp then (s, canceled slot, [])
  else
    let (outline, report) := s.outline.resume slot
    ({ s with outline }, s.progress report, report.events)

/-! ## Finishing -/

/-- A request is answered: nothing is in flight under its id, and nothing is built for it. -/
def settle (s : Session) (slot : Slot) : Session :=
  { s with
    outline := s.outline.drop slot
    inFlight := s.inFlight.filter (·.id ≠ slot.id)
    givenUp := s.givenUp.filter (· ≠ slot) }

/-- The phase that the answer to the first request settles. -/
def phaseAfter : Option Response → Phase
  | some ⟨_, .ok _⟩ => .initialized
  | _ => .uninitialized

/-- A job ends with a response, or with none. -/
def finish (s : Session) (j : Job) (response : Option Response) : Session :=
  let s := match j.slot? with
    | some slot => s.settle slot
    | none => s
  if j.starts then { s with phase := phaseAfter response } else s

/-! ## Steps of a session -/

/-- What is sent at the end of a job. -/
def outgoing (notice : Option Notice) (response : Option Response) : List Outgoing :=
  notice.toList.map .notice ++ response.toList.map .response

/-- Answer the requests that have been given up. -/
def answerGivenUp (s : Session) : Session × List Outgoing :=
  (s.givenUp.foldl settle s, s.givenUp.map fun slot => .response ⟨slot.id, .error .canceled⟩)

/-- Take a message, unless the session has ended. -/
def receive (s : Session) (msg : Message) : Option (Session × Effects) :=
  if s.phase = .exited then none
  else
    let (s, job) := s.accept msg
    let (s, progress, events) := s.begin job
    let (s, sent) := match progress with
      | .waits => (s, [])
      | .ends notice response => (s.finish job response, outgoing notice response)
    let (s, canceled) := s.answerGivenUp
    some (s, ⟨sent ++ canceled, events⟩)

/-- The answer to a request whose build has ended. -/
def answer (s : Session) (f : Finished Slot) : Session × List Outgoing :=
  match s.outcome f with
  | .waits => (s, [])
  | .ends notice response => (s.settle f.id, outgoing notice response)

/-- Answer requests one after the other. -/
def answerAll (s : Session) : List (Finished Slot) → Session × List Outgoing
  | [] => (s, [])
  | f :: fs =>
    let (s, first) := s.answer f
    let (s, later) := s.answerAll fs
    (s, first ++ later)

/-- A change of the service, and the requests that it answers. -/
def changeService (s : Session) (step : Analysis.Step) : Session × Effects :=
  let (outline, report) := s.outline.step (.service step)
  let (s, outgoing) := { s with outline }.answerAll report.finished
  (s, { outgoing, events := report.events })

/-! ## Runs -/

/-- A step of a run. -/
inductive Step where
  /-- A message comes. -/
  | receive (message : Message)
  /-- The service changes. -/
  | service (step : Analysis.Step)
  /-- Nothing. -/
  | idle

/-- Take a step; a message that comes after the end of the session has no effects. -/
def step (s : Session) : Step → Session × Option Effects
  | .receive msg =>
    match s.receive msg with
    | some (s, effects) => (s, some effects)
    | none => (s, none)
  | .service c =>
    let (s, effects) := s.changeService c
    (s, some effects)
  | .idle => (s, some {})

/-- The session after the steps of a run. -/
def after (s : Session) (steps : List Step) : Session :=
  steps.foldl (fun s x => (s.step x).1) s

/-- The steps of a run: what comes of each, and the session after it. -/
def run (s : Session) : List Step → List (Option Effects × Session)
  | [] => []
  | x :: xs =>
    let (s, effects) := s.step x
    (effects, s) :: s.run xs

theorem after_append (s : Session) (xs ys : List Step) :
    s.after (xs ++ ys) = (s.after xs).after ys := List.foldl_append

theorem run_append (s : Session) (xs ys : List Step) :
    s.run (xs ++ ys) = s.run xs ++ (s.after xs).run ys := by
  induction xs generalizing s with
  | nil => rfl
  | cons x xs ih => simp [run, after, ih]

end Session

end TokenOutline.Server
