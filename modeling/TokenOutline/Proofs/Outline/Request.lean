import TokenOutline.Proofs.Outline.Ticket

/-!
# The life of a request

A request for the items of a file is answered at once if there is no file, or no vocabulary of it,
and starts a build otherwise. Either way it has a life, which begins in the step of the request,
with the service and the settings of that moment, and goes on with the steps that follow.

Headlines:
* `Life.ofRequest`: how the life of a request begins.
* **`run_of_request`**: in a run, what a request comes to is what its life says.
-/

namespace TokenOutline

/-! ## How a life begins -/

namespace Life

/-- How the life of a request for the items of a file begins, and what happens to its lookups in the
step of the request. -/
def ofRequest (a : Analysis) (s : Settings) (file : Option String) :
    Life × List Build.LookupEvent :=
  match file with
  | none => (.ended (.ok []), [])
  | some file =>
    match a.vocabulary? file with
    | none => (.ended (.ok []), [])
    | some v =>
      let (b, history) := (Build.ofTokens file s v.tokens).start a
      (.ofBuild b, history)

theorem ofRequest_of_vocabulary {a : Analysis} {file : String} {v : Vocabulary} (s : Settings)
    (hv : a.vocabulary? file = some v) :
    ofRequest a s (some file) = (.ofBuild ((Build.ofTokens file s v.tokens).start a).1,
      ((Build.ofTokens file s v.tokens).start a).2) := by
  simp only [ofRequest, hv]

theorem ofRequest_of_no_vocabulary {a : Analysis} {file : Option String} (s : Settings)
    (hv : file.bind a.vocabulary? = none) : ofRequest a s file = (.ended (.ok []), []) := by
  cases file with
  | none => rfl
  | some file =>
    rw [Option.bind_some] at hv
    simp only [ofRequest, hv]

theorem ofRequest_ne_dropped (a : Analysis) (s : Settings) (file : Option String) :
    (ofRequest a s file).1 ≠ .dropped := by
  unfold ofRequest
  split
  · simp
  · split
    · simp
    · simp only [ofBuild]
      split <;> simp

/-- A build is one of the file that was asked for. -/
theorem file_ofRequest {a : Analysis} {s : Settings} {file : Option String} {b : Build}
    (h : (ofRequest a s file).1 = .running b) : b.file = file.getD "" := by
  unfold ofRequest at h
  split at h
  · exact absurd h (by simp)
  · split at h
    · exact absurd h (by simp)
    · rename_i f _ v _
      obtain rfl := eq_of_ofBuild h
      exact (Build.start_spec a f s v.tokens).1.file_eq

variable {ι : Type} [DecidableEq ι]

/-- A run leaves a build its file. -/
theorem file_run {id : ι} {life : Life} {file : String} (ss : List (Outline.Step ι)) (a : Analysis)
    (h : ∀ b, life = .running b → b.file = file) :
    ∀ b, (life.run id a ss).1 = .running b → b.file = file := by
  induction ss generalizing a life with
  | nil => exact h
  | cons s ss ih => exact ih _ (file_step s h)

theorem run_ended (id : ι) (ss : List (Outline.Step ι)) (a : Analysis) (outcome : Outcome) :
    (Life.ended outcome).run id a ss = (.ended outcome, []) := by
  induction ss generalizing a with
  | nil => rfl
  | cons s ss ih => simp [run, step, ih]

theorem run_append (id : ι) (ss ts : List (Outline.Step ι)) (a : Analysis) (life : Life) :
    life.run id a (ss ++ ts) =
      (((life.run id a ss).1.run id (ss.foldl Outline.serviceAfter a) ts).1,
        (life.run id a ss).2 ++
          ((life.run id a ss).1.run id (ss.foldl Outline.serviceAfter a) ts).2) := by
  induction ss generalizing a life with
  | nil => simp [run]
  | cons s ss ih => simp [run, ih]

end Life

namespace Outline

variable {ι : Type}

/-- A request does to the outline what the beginning of its life says. -/
theorem request_spec (o : Outline ι) (id : ι) (file : Option String) :
    let begun := Life.ofRequest o.service o.settings file
    (o.request id file none).1.unfinished = o.unfinished ++ begun.1.unfinished id o.clock ∧
      (o.request id file none).2.finished = begun.1.finished id o.clock ∧
      (o.request id file none).2.events.filterMap (·.lookup?) = begun.2 := by
  intro begun
  cases hv : file.bind o.service.vocabulary? with
  | none =>
    simp only [begun, Life.ofRequest_of_no_vocabulary o.settings hv]
    cases file with
    | none => simp [request, answered, Life.unfinished, Life.finished, Except.map]
    | some file =>
      rw [Option.bind_some] at hv
      simp [request, hv, answered, Life.unfinished, Life.finished, Except.map, Event.lookup?]
  | some v =>
    obtain ⟨file, rfl, hfile⟩ := Option.bind_eq_some_iff.mp hv
    have hbegun : begun = _ := Life.ofRequest_of_vocabulary o.settings hfile
    have hrequest : o.request id (some file) none = o.startBuild id file v.tokens := by
      simp only [request, hfile]
    obtain ⟨hunf, hfin, hev⟩ := startBuild_spec (o := o) id file v.tokens
    rw [hrequest, hbegun, hunf, hfin, hev, List.filterMap_cons_none rfl, List.filterMap_map]
    exact ⟨rfl, rfl, List.filterMap_some⟩

/-- What a request comes to depends on the service and the settings alone. -/
theorem request_congr (o o' : Outline ι) (hservice : o'.service = o.service)
    (hsettings : o'.settings = o.settings) (id : ι) (file : Option String)
    (below : Option Item) :
    (∃ b, below = none ∧ (Life.ofRequest o.service o.settings file).1 = .running b ∧
        (o.request id file below).1.unfinished = o.unfinished ++ [⟨id, o.clock, b⟩] ∧
        (o.request id file below).2.finished = [] ∧ (o'.request id file below).2.finished = []) ∨
      ∃ a, (o.request id file below).1.unfinished = o.unfinished ∧
        (o.request id file below).2.finished = [⟨id, o.clock, a⟩] ∧
        (o'.request id file below).2.finished = [⟨id, o'.clock, a⟩] := by
  cases below with
  | some item => exact .inr ⟨_, rfl, rfl, rfl⟩
  | none =>
    obtain ⟨hunf, hfin, -⟩ := request_spec o id file
    obtain ⟨-, hfin', -⟩ := request_spec o' id file
    rw [hservice, hsettings] at hfin'
    rw [hunf, hfin, hfin']
    cases hlife : (Life.ofRequest o.service o.settings file).1 with
    | running b => exact .inl ⟨b, rfl, rfl, rfl, rfl, rfl⟩
    | ended outcome => exact .inr ⟨_, List.append_nil _, rfl, rfl⟩
    | dropped => exact absurd hlife (Life.ofRequest_ne_dropped _ _ _)

variable [DecidableEq ι] {o : Outline ι} {k : Nat}

/-- The settings after a step. -/
def settingsAfter (s : Settings) : Step ι → Settings
  | .configure value => (Settings.decode value).toOption.getD s
  | _ => s

omit [DecidableEq ι] in
/-- A request has no part in the settings and the changes. -/
theorem request_leaves (o : Outline ι) (id : ι) (file : Option String) (below : Option Item) :
    let r := o.request id file below
    r.1.settings = o.settings ∧ r.1.generation = o.generation ∧ r.1.seen = o.seen ∧
      r.2.result = none := by
  unfold request
  split
  case h_3 =>
    split
    case h_1 => exact ⟨rfl, rfl, rfl, rfl⟩
    case h_2 =>
      unfold startBuild
      simp only
      split <;> exact ⟨rfl, rfl, rfl, rfl⟩
  all_goals exact ⟨rfl, rfl, rfl, rfl⟩

theorem settings_step (s : Step ι) : (o.step s).1.settings = settingsAfter o.settings s := by
  cases s with
  | request id file below => exact (request_leaves o id file below).1
  | children id index file =>
    simp only [step, perform]
    split
    · exact (request_leaves o id file _).1
    · rfl
  | configure value =>
    simp only [step, perform, settingsAfter]
    cases Settings.decode value <;> rfl
  | service x => cases x <;> rfl
  | _ => rfl

/-- By how much a step counts the changes of the outline on. -/
def Step.counts : Step ι → Nat
  | .refresh => 1
  | .configure value => if (Settings.decode value).isOk then 1 else 0
  | _ => 0

theorem generation_step (s : Step ι) : (o.step s).1.generation = o.generation + s.counts := by
  cases s with
  | request id file below => exact (request_leaves o id file below).2.1
  | children id index file =>
    simp only [step, perform]
    split
    · exact (request_leaves o id file _).2.1
    · rfl
  | configure value =>
    simp only [step, perform, Step.counts]
    cases Settings.decode value <;> rfl
  | service x => cases x <;> rfl
  | _ => rfl

/-! ## Runs -/

theorem service_after (o : Outline ι) (ss : List (Step ι)) :
    (o.after ss).service = ss.foldl serviceAfter o.service := by
  induction ss generalizing o with
  | nil => rfl
  | cons s ss ih => rw [after_cons, ih, service_step, List.foldl_cons]

theorem settings_after (o : Outline ι) (ss : List (Step ι)) :
    (o.after ss).settings = ss.foldl settingsAfter o.settings := by
  induction ss generalizing o with
  | nil => rfl
  | cons s ss ih => rw [after_cons, ih, settings_step, List.foldl_cons]

/-- The life of the request for the items of a file that is step `k` of a run, and what happens to
its lookups. -/
def lifeOf (o : Outline ι) (ss : List (Step ι)) (k : Nat) (id : ι) (file : Option String) :
    Life × List Build.LookupEvent :=
  let before := o.after (ss.take k)
  let begun := Life.ofRequest before.service before.settings file
  let life := begun.1.run id before.service (ss.drop (k + 1))
  (life.1, begun.2 ++ life.2)

variable {ss : List (Step ι)} {id : ι} {file : Option String}

theorem lifeOf_of_no_vocabulary {o : Outline ι}
    (hv : file.bind (o.after (ss.take k)).service.vocabulary? = none) :
    o.lifeOf ss k id file = (.ended (.ok []), []) := by
  simp only [lifeOf, Life.ofRequest_of_no_vocabulary _ hv, Life.run_ended, List.append_nil]

theorem file_lifeOf {o : Outline ι} {b : Build} (hb : (o.lifeOf ss k id file).1 = .running b) :
    b.file = file.getD "" :=
  Life.file_run _ _ (fun _ => Life.file_ofRequest) b hb

theorem lifeOf_take_self (o : Outline ι) (ss : List (Step ι)) (k : Nat) (id : ι)
    (file : Option String) :
    o.lifeOf (ss.take (k + 1)) k id file =
      Life.ofRequest (o.after (ss.take k)).service (o.after (ss.take k)).settings file := by
  have hdrop : (ss.take (k + 1)).drop (k + 1) = [] := by
    rw [List.drop_take, Nat.sub_self, List.take_zero]
  have htake : (ss.take (k + 1)).take k = ss.take k := by
    rw [List.take_take, Nat.min_eq_left (Nat.le_succ k)]
  simp only [lifeOf, hdrop, htake, Life.run, List.append_nil]

/-- One more step takes a life on. -/
theorem lifeOf_concat (o : Outline ι) (hs : ss[k]? = some (.request id file none)) (s : Step ι) :
    let life := o.lifeOf ss k id file
    let next := life.1.step id (o.after ss).service s
    o.lifeOf (ss ++ [s]) k id file = (next.1, life.2 ++ next.2) := by
  intro life next
  obtain ⟨hk, hrequest⟩ := List.getElem?_eq_some_iff.mp hs
  have htake : (ss ++ [s]).take k = ss.take k := List.take_append_of_le_length hk.le
  have hdrop : (ss ++ [s]).drop (k + 1) = ss.drop (k + 1) ++ [s] :=
    List.drop_append_of_le_length hk
  -- the step of the request leaves the service as it is
  have hservice : (ss.drop (k + 1)).foldl serviceAfter (o.after (ss.take k)).service =
      (o.after ss).service := by
    have hss : ss.take k ++ .request id file none :: ss.drop (k + 1) = ss := by
      rw [← hrequest, List.getElem_cons_drop, List.take_append_drop]
    conv_rhs => rw [← hss, after_append, after_cons, service_after, service_step]
    rfl
  simp only [lifeOf, htake, hdrop, Life.run_append, hservice, Life.run, List.append_nil,
    ← List.append_assoc]
  rfl

/-- **A request in a run**: its place among the unfinished builds, its answer and what happens to
its lookups are those of its life. -/
theorem run_of_request (service : Analysis) (settings : Settings)
    (hs : ss[k]? = some (.request id file none)) :
    let o : Outline ι := ofService service settings
    let life := o.lifeOf ss k id file
    (o.after ss).ofTicket k = life.1.unfinished id k ∧
      o.finishedOf ss k = life.1.finished id k ∧ o.historyOf ss k = life.2 := by
  intro o life
  obtain ⟨hclock, hnone, -⟩ := run_at service settings hs
  let before := o.after (ss.take k)
  let begun := Life.ofRequest before.service before.settings file
  change before.clock = k at hclock
  obtain ⟨hunf₁, hfin₁, hev₁⟩ := request_spec before id file
  -- the step begins the life, and the rest of the run takes it on
  have hbegins : (before.step (.request id file none)).1.ofTicket k = begun.1.unfinished id k := by
    simp only [ofTicket] at hnone
    simp only [ofTicket, step, perform, hunf₁, List.filter_append, hclock, Life.filter_unfinished]
    rw [hnone, List.nil_append]
  have hanswers : (before.step (.request id file none)).2.finished.filter (·.ticket = k) =
      begun.1.finished id k := by
    change ((before.request id file none).2.finished).filter _ = _
    rw [hfin₁, hclock, Life.filter_finished]
  obtain ⟨hunf₂, hfin₂, hev₂⟩ := run_of_life service settings hs hbegins hanswers
    fun _ => Life.file_ofRequest
  have hserv : (before.step (.request id file none)).1.service = before.service := service_step _
  rw [hserv] at hunf₂ hfin₂ hev₂
  refine ⟨hunf₂, hfin₂, ?_⟩
  have hown : (before.step (.request id file none)).2.events.filter (·.ticket = k) =
      (before.request id file none).2.events :=
    List.filter_eq_self.mpr fun e he => decide_eq_true
      (((adds_request (o := before) id file none).events e he).trans hclock)
  rw [historyOf, hev₂, List.filterMap_append, List.filterMap_map]
  exact congrArg₂ (· ++ ·) ((congrArg _ hown).trans hev₁) List.filterMap_some

end Outline

end TokenOutline
