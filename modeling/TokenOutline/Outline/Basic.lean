import TokenOutline.Build.Basic

/-!
# The outline

Models `LexerSymbolsProvider`. The outline answers requests for the items of a file. It keeps the
settings, a counter of its changes with what each subscriber has seen of it, and the builds that
have not ended.

* A request (`get_children`) below an item has no items and asks the service nothing; so does one
  without a file, and one for a file without a vocabulary has no items either.
* Any other request starts a build (`build_root`), with the settings and the vocabulary of that
  moment.
* New settings (`set_config`) and a refreshed outline (`refresh`) are changes, and count.
* `Outline.step` takes one step of a run and reports what happened in it. A build is known by its
  ticket, which is the number of the step that started it.

Headlines:
* **`Outline.step`**, **`Outline.run`**, **`Outline.after`**: one step, and a run of them.
-/

namespace TokenOutline

/-! ## Events and results -/

/-- What happens between the outline and the service, by the ticket of the build it happens for. -/
inductive Event where
  | vocabulary (ticket : Nat) (file : String)
  | lookup (ticket : Nat) (file : String) (event : Build.LookupEvent)

/-- What a request comes to: no list below an item, and a list or a failure elsewhere. -/
abbrev Answer := Except ResolveError (Option (List Item))

/-- A request that has been answered. -/
structure Finished (ι : Type) where
  id : ι
  ticket : Nat
  answer : Answer

/-- A build that has not ended. -/
structure Unfinished (ι : Type) where
  id : ι
  ticket : Nat
  build : Build

/-- The outline of the grammars of a service. -/
structure Outline (ι : Type) where
  service : Analysis
  settings : Settings
  /-- How often the outline has changed. -/
  generation : Nat
  /-- The generation that each subscriber has seen, in the order of subscription. -/
  seen : List Nat
  /-- The builds that have not ended, the oldest first. -/
  unfinished : List (Unfinished ι)
  /-- The items of the last file whose items were given. -/
  lastItems : List Item
  /-- The number of steps taken. -/
  clock : Nat

/-- What a step answers to the one who takes it. -/
inductive StepResult where
  /-- Whether the item that the view shows is the item itself. -/
  | shownAsIs (same : Bool)
  /-- Settings were refused. -/
  | refused (error : DecodeError)
  | settings (settings : Settings)
  /-- For each subscriber, whether there was a change it had not seen, and the generation. -/
  | changes (changes : List (Bool × Nat))

/-- What happened in a step. -/
structure Report (ι : Type) where
  result : Option StepResult := none
  events : List Event := []
  finished : List (Finished ι) := []

namespace Outline

variable {ι : Type}

/-- An outline that nothing has been asked of. -/
def ofService (service : Analysis) (settings : Settings) : Outline ι :=
  ⟨service, settings, 0, [], [], [], 0⟩

/-! ## Requests -/

/-- A request that is answered without a build. -/
def answered (o : Outline ι) (id : ι) (answer : Answer) (events : List Event) :
    Outline ι × Report ι :=
  ({ o with lastItems := match answer with
      | .ok (some items) => items
      | _ => o.lastItems },
    { events, finished := [⟨id, o.clock, answer⟩] })

/-- Start a build of a file whose vocabulary has the given tokens (`build_root`). -/
def startBuild (o : Outline ι) (id : ι) (file : String) (tokens : List Token) :
    Outline ι × Report ι :=
  let (b, happened) := (Build.ofTokens file o.settings tokens).start o.service
  let events := .vocabulary o.clock file :: happened.map (.lookup o.clock file)
  match b.outcome? with
  | some outcome => o.answered id (outcome.map some) events
  | none =>
    ({ o with unfinished := o.unfinished ++ [⟨id, o.clock, b⟩] }, { events })

/-- A request for the items of a file, or for those below an item (`get_children`). -/
def request (o : Outline ι) (id : ι) (file : Option String) (below : Option Item) :
    Outline ι × Report ι :=
  match below, file with
  | some _, _ => o.answered id (.ok none) []
  | none, none => o.answered id (.ok (some [])) []
  | none, some file =>
    match o.service.vocabulary? file with
    | none => o.answered id (.ok (some [])) [.vocabulary o.clock file]
    | some v => o.startBuild id file v.tokens

/-- Give up the unfinished builds of an id: what `get_children` gave is dropped. -/
def drop [DecidableEq ι] (o : Outline ι) (id : ι) : Outline ι :=
  { o with unfinished := o.unfinished.filter (·.id ≠ id) }

/-! ## Changes -/

/-- Count a change (`refresh`). -/
def refresh (o : Outline ι) : Outline ι := { o with generation := o.generation + 1 }

/-- Take new settings, which is a change (`set_config`). -/
def configure (o : Outline ι) (s : Settings) : Outline ι := { o with settings := s }.refresh

/-- Let another subscriber in, who has seen all changes so far (`subscribe`). -/
def subscribe (o : Outline ι) : Outline ι := { o with seen := o.seen ++ [o.generation] }

/-- What each subscriber has not seen (`has_changed`). -/
def changes (o : Outline ι) : List (Bool × Nat) :=
  o.seen.map fun g => (g ≠ o.generation, o.generation)

/-- The subscribers have seen all changes. -/
def markSeen (o : Outline ι) : Outline ι := { o with seen := o.seen.map fun _ => o.generation }

/-! ## The service -/

/-- Answer the lookups of a key in the given builds, the oldest first: the builds that go on, the
requests that are answered and what happened. -/
def releaseAll (a : Analysis) (key : String) :
    List (Unfinished ι) → List (Unfinished ι) × List (Finished ι) × List Event
  | [] => ([], [], [])
  | u :: us =>
    let (b, happened) := u.build.release a key
    let (unfinished, finished, events) := releaseAll a key us
    let events := happened.map (.lookup u.ticket b.file) ++ events
    match b.outcome? with
    | some outcome => (unfinished, ⟨u.id, u.ticket, outcome.map some⟩ :: finished, events)
    | none => ({ u with build := b } :: unfinished, finished, events)

/-- The items that the last of the given requests was answered, or else those given. -/
def itemsOf (items : List Item) : List (Finished ι) → List Item
  | [] => items
  | f :: fs => itemsOf (match f.answer with
      | .ok (some later) => later
      | _ => items) fs

/-- A change of the service. -/
def changeService (o : Outline ι) (s : Analysis.Step) : Outline ι × Report ι :=
  let a := o.service.step s
  match s with
  | .release key =>
    let (unfinished, finished, events) := releaseAll a key o.unfinished
    ({ o with service := a, unfinished, lastItems := itemsOf o.lastItems finished },
      { events, finished })
  | _ => ({ o with service := a }, {})

/-- A change of the service of which the builds are not told. -/
def adopt (o : Outline ι) (s : Analysis.Step) : Outline ι := { o with service := o.service.step s }

/-- Whether a build of an id has a lookup of a key that waits. -/
def isWaiting [DecidableEq ι] (o : Outline ι) (id : ι) (key : String) : Bool :=
  o.unfinished.any fun u => u.id = id && u.build.isWaiting key

/-- Tell the builds of an id of the gates that are open. -/
def resume [DecidableEq ι] (o : Outline ι) (id : ι) : Outline ι × Report ι :=
  let resumed := o.unfinished.map fun u =>
    if u.id = id then
      let (b, happened) := u.build.resume o.service
      ({ u with build := b }, happened.map (Event.lookup u.ticket b.file))
    else (u, [])
  let finished := resumed.filterMap fun (u, _) =>
    if u.id = id then u.build.outcome?.map fun outcome => ⟨u.id, u.ticket, outcome.map some⟩
    else none
  ({ o with
      unfinished := (resumed.map (·.1)).filter fun u => !finished.any (·.ticket = u.ticket)
      lastItems := itemsOf o.lastItems finished },
    { events := resumed.flatMap (·.2), finished })

/-! ## Runs -/

/-- A step of a run. -/
inductive Step (ι : Type) where
  /-- Ask for the items of a file, or for those below an item. -/
  | request (id : ι) (file : Option String) (below : Option Item)
  /-- Ask for the items below one of the items that were given last. -/
  | children (id : ι) (index : Nat) (file : Option String)
  /-- Give up what is asked under an id. -/
  | drop (id : ι)
  /-- Take settings from a value. -/
  | configure (value : Json)
  /-- Ask for the settings. -/
  | settings
  | refresh
  | subscribe
  /-- Ask what the subscribers have not seen. -/
  | changes
  /-- Change the service. -/
  | service (step : Analysis.Step)
  /-- Nothing. -/
  | idle

/-- What a step does, its number apart. -/
def perform [DecidableEq ι] (o : Outline ι) : Step ι → Outline ι × Report ι
  | .request id file below => o.request id file below
  | .children id index file =>
    match o.lastItems[index]? with
    | some item =>
      let (o, report) := o.request id file (some item)
      (o, { report with result := some (.shownAsIs (item.shown = item)) })
    | none => (o, {})
  | .drop id => (o.drop id, {})
  | .configure value =>
    match Settings.decode value with
    | .ok s => (o.configure s, {})
    | .error e => (o, { result := some (.refused e) })
  | .settings => (o, { result := some (.settings o.settings) })
  | .refresh => (o.refresh, {})
  | .subscribe => (o.subscribe, {})
  | .changes => (o.markSeen, { result := some (.changes o.changes) })
  | .service s => o.changeService s
  | .idle => (o, {})

/-- Take a step. -/
def step [DecidableEq ι] (o : Outline ι) (s : Step ι) : Outline ι × Report ι :=
  let (o, report) := o.perform s
  ({ o with clock := o.clock + 1 }, report)

/-- The outline after the steps of a run. -/
def after [DecidableEq ι] (o : Outline ι) (ss : List (Step ι)) : Outline ι :=
  ss.foldl (fun o s => (o.step s).1) o

/-- The steps of a run: the report of each, and the outline after it. -/
def run [DecidableEq ι] (o : Outline ι) : List (Step ι) → List (Report ι × Outline ι)
  | [] => []
  | s :: ss =>
    let (o, report) := o.step s
    (report, o) :: o.run ss

theorem after_append [DecidableEq ι] (o : Outline ι) (ss ts : List (Step ι)) :
    o.after (ss ++ ts) = (o.after ss).after ts := List.foldl_append

theorem run_append [DecidableEq ι] (o : Outline ι) (ss ts : List (Step ι)) :
    o.run (ss ++ ts) = o.run ss ++ (o.after ss).run ts := by
  induction ss generalizing o with
  | nil => rfl
  | cons s ss ih => simp [run, after, ih]

end Outline

end TokenOutline
