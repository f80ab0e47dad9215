import TokenOutline.Proofs.Outline.Life

/-!
# Tickets

Builds are told apart by their tickets. What a run does to the build of one ticket is the life of
that build, whatever the builds of other tickets go through.

Headlines:
* `step_ofTicket`: a step does to the builds of a ticket what it does to them alone, unless it is
  the step that starts them.
* **`run_of_starts`**: from the step that starts a build on, its events, its answer and its place
  among the unfinished builds are those of its life.
* **`follows_of_starts`**: the same of a life that follows the history of the build.
* **`startsIn_of_starts`**: the lookups that a build starts.
-/

namespace TokenOutline

/-! ## Tickets -/

/-- The ticket of the build that an event happens for. -/
def Event.ticket : Event → Nat
  | .vocabulary ticket _ => ticket
  | .lookup ticket _ _ => ticket

@[simp] theorem Event.ticket_vocabulary (k : Nat) (file : String) :
    (Event.vocabulary k file).ticket = k := rfl

@[simp] theorem Event.ticket_lookup (k : Nat) (file : String) (e : Build.LookupEvent) :
    (Event.lookup k file e).ticket = k := rfl

/-- What happened to a lookup, if the event is about one. -/
def Event.lookup? : Event → Option Build.LookupEvent
  | .vocabulary .. => none
  | .lookup _ _ event => some event

namespace Outline

variable {ι : Type} {o : Outline ι} {k : Nat}

/-- The unfinished builds of a ticket. -/
def ofTicket (o : Outline ι) (k : Nat) : List (Unfinished ι) :=
  o.unfinished.filter (·.ticket = k)

/-! ## What a step adds -/

/-- What a step adds to the outline and reports belongs to the ticket of the step. -/
structure Adds (o : Outline ι) (r : Outline ι × Report ι) : Prop where
  service : r.1.service = o.service
  clock : r.1.clock = o.clock
  unfinished : ∃ us, r.1.unfinished = o.unfinished ++ us ∧ ∀ u ∈ us, u.ticket = o.clock
  finished : ∀ f ∈ r.2.finished, f.ticket = o.clock
  events : ∀ e ∈ r.2.events, e.ticket = o.clock

theorem adds_nothing {o' : Outline ι} (result : Option StepResult) (hserv : o'.service = o.service)
    (hclock : o'.clock = o.clock) (hunf : o'.unfinished = o.unfinished) :
    Adds o (o', { result }) where
  service := hserv
  clock := hclock
  unfinished := ⟨[], by simp [hunf]⟩
  finished _ h := absurd h List.not_mem_nil
  events _ h := absurd h List.not_mem_nil

theorem adds_answered (id : ι) (answer : Answer) {events : List Event}
    (h : ∀ e ∈ events, e.ticket = o.clock) : Adds o (o.answered id answer events) where
  service := rfl
  clock := rfl
  unfinished := ⟨[], by simp [answered]⟩
  finished f hf := by
    simp only [answered, List.mem_singleton] at hf
    rw [hf]
  events := h

/-- The start of a build leaves the build as its life has become. -/
theorem startBuild_spec (id : ι) (file : String) (tokens : List Token) :
    let r := (Build.ofTokens file o.settings tokens).start o.service
    (o.startBuild id file tokens).1.unfinished =
        o.unfinished ++ (Life.ofBuild r.1).unfinished id o.clock ∧
      (o.startBuild id file tokens).2.finished = (Life.ofBuild r.1).finished id o.clock ∧
      (o.startBuild id file tokens).2.events =
        .vocabulary o.clock file :: r.2.map (.lookup o.clock file) := by
  intro r
  unfold startBuild Life.ofBuild
  cases hout : r.1.outcome? with
  | none => simp [r, hout, Life.unfinished, Life.finished]
  | some outcome => simp [r, hout, answered, Life.unfinished, Life.finished]

theorem adds_startBuild (id : ι) (file : String) (tokens : List Token) :
    Adds o (o.startBuild id file tokens) := by
  obtain ⟨hunf, hfin, hev⟩ := startBuild_spec (o := o) id file tokens
  refine ⟨?_, ?_, ⟨_, hunf, fun u hu => ?_⟩, fun f hf => ?_, fun e he => ?_⟩
  · unfold startBuild
    simp only
    split <;> rfl
  · unfold startBuild
    simp only
    split <;> rfl
  · obtain ⟨b, -, rfl⟩ := Life.mem_unfinished.mp hu
    rfl
  · rw [hfin] at hf
    obtain ⟨outcome, -, rfl⟩ := Life.mem_finished.mp hf
    rfl
  · rw [hev] at he
    rcases List.mem_cons.mp he with rfl | he
    · rfl
    · obtain ⟨x, -, rfl⟩ := List.mem_map.mp he
      rfl

theorem adds_request (id : ι) (file : Option String) (below : Option Item) :
    Adds o (o.request id file below) := by
  unfold request
  split
  · exact adds_answered id _ (by simp)
  · exact adds_answered id _ (by simp)
  · split
    · exact adds_answered id _ (by simp [Event.ticket])
    · exact adds_startBuild id _ _

/-! ## The builds of a ticket -/

theorem filter_lookup (n : Nat) (file : String) (h : List Build.LookupEvent) :
    (h.map (.lookup n file)).filter (·.ticket = k) =
      if n = k then h.map (Event.lookup n file) else [] := by
  split
  · rename_i hn
    exact List.filter_eq_self.mpr fun e he => by
      obtain ⟨x, -, rfl⟩ := List.mem_map.mp he
      exact decide_eq_true hn
  · rename_i hn
    exact List.filter_eq_nil_iff.mpr fun e he => by
      obtain ⟨x, -, rfl⟩ := List.mem_map.mp he
      exact fun h => hn (of_decide_eq_true h)

/-- Answers for the builds of a ticket are the same whatever other builds there are. -/
theorem releaseAll_filter (a : Analysis) (key : String) (k : Nat) (us : List (Unfinished ι)) :
    releaseAll a key (us.filter (·.ticket = k)) =
      ((releaseAll a key us).1.filter (·.ticket = k),
        (releaseAll a key us).2.1.filter (·.ticket = k),
        (releaseAll a key us).2.2.filter (·.ticket = k)) := by
  induction us with
  | nil => rfl
  | cons u us ih =>
    by_cases hu : u.ticket = k
    · rw [List.filter_cons_of_pos (by simpa using hu)]
      simp only [releaseAll, ih]
      split <;> simp [filter_lookup, hu]
    · rw [List.filter_cons_of_neg (by simpa using hu), ih]
      simp only [releaseAll]
      split <;> simp [filter_lookup, hu]

variable [DecidableEq ι]

/-- A step other than a change of the service or of the given up ids only adds. -/
theorem perform_adds (s : Step ι) (hdrop : ∀ id, s ≠ .drop id) (hserv : ∀ x, s ≠ .service x) :
    Adds o (o.perform s) := by
  cases s with
  | request id file below => exact adds_request id file below
  | children id index file =>
    simp only [perform]
    split
    · rename_i item _
      obtain ⟨h1, h2, h3, h4, h5⟩ := adds_request (o := o) id file (some item)
      exact ⟨h1, h2, h3, h4, h5⟩
    · exact adds_nothing _ rfl rfl rfl
  | drop id => exact absurd rfl (hdrop id)
  | configure value =>
    simp only [perform]
    split <;> exact adds_nothing _ rfl rfl rfl
  | service x => exact absurd rfl (hserv x)
  | _ => exact adds_nothing _ rfl rfl rfl

/-- What a step does to builds that it does not start. -/
def advance (a : Analysis) (us : List (Unfinished ι)) :
    Step ι → List (Unfinished ι) × List (Finished ι) × List Event
  | .drop id => (us.filter (·.id ≠ id), [], [])
  | .service (.release key) => releaseAll (a.step (.release key)) key us
  | _ => (us, [], [])

/-- Giving up an id and changing the service do to the builds of a ticket what they do to them
alone. -/
theorem change_ofTicket (s : Step ι) (k : Nat)
    (hs : (∃ id, s = .drop id) ∨ ∃ x, s = .service x) :
    ((o.step s).1.ofTicket k, (o.step s).2.finished.filter (·.ticket = k),
      (o.step s).2.events.filter (·.ticket = k)) = advance o.service (o.ofTicket k) s := by
  rcases hs with ⟨id, rfl⟩ | ⟨x, rfl⟩
  · simp [step, perform, drop, advance, ofTicket, List.filter_filter, Bool.and_comm]
  · cases x with
    | release key => exact (releaseAll_filter _ key k o.unfinished).symm
    | _ => rfl

/-- **A step does to the builds of a ticket what it does to them alone**, unless it is the step that
starts them. -/
theorem step_ofTicket (s : Step ι) (hk : k ≠ o.clock) :
    ((o.step s).1.ofTicket k, (o.step s).2.finished.filter (·.ticket = k),
      (o.step s).2.events.filter (·.ticket = k)) = advance o.service (o.ofTicket k) s := by
  have hadds : (∀ id, s ≠ .drop id) → (∀ x, s ≠ .service x) →
      ((o.step s).1.ofTicket k, (o.step s).2.finished.filter (·.ticket = k),
        (o.step s).2.events.filter (·.ticket = k)) = (o.ofTicket k, [], []) := by
    intro hdrop hserv
    obtain ⟨-, -, ⟨us, hus, hticket⟩, hfin, hev⟩ := perform_adds (o := o) s hdrop hserv
    have hne : ∀ n : Nat, n = o.clock → ¬ n = k := fun n hn h => hk (h.symm.trans hn)
    refine Prod.ext ?_ (Prod.ext ?_ ?_)
    · have hnone : us.filter (·.ticket = k) = [] :=
        List.filter_eq_nil_iff.mpr fun u hu => by simpa using hne u.ticket (hticket u hu)
      simp only [ofTicket, step, hus, List.filter_append, hnone, List.append_nil]
    · exact List.filter_eq_nil_iff.mpr fun f hf => by simpa using hne f.ticket (hfin f hf)
    · exact List.filter_eq_nil_iff.mpr fun e he => by simpa using hne e.ticket (hev e he)
  cases s with
  | drop id => exact change_ofTicket _ k (.inl ⟨id, rfl⟩)
  | service x => exact change_ofTicket _ k (.inr ⟨x, rfl⟩)
  | _ => exact hadds (by simp) (by simp)

theorem service_step (s : Step ι) : (o.step s).1.service = serviceAfter o.service s := by
  have hadds := perform_adds (o := o) s
  cases s with
  | drop id => rfl
  | service x => cases x <;> rfl
  | _ => exact (hadds (by simp) (by simp)).service

theorem clock_step (s : Step ι) : (o.step s).1.clock = o.clock + 1 := by
  have hadds := perform_adds (o := o) s
  refine congrArg (· + 1) (?_ : (o.perform s).1.clock = o.clock)
  cases s with
  | drop id => rfl
  | service x => cases x <;> rfl
  | _ => exact (hadds (by simp) (by simp)).clock

/-! ## Runs -/

/-- The events of a run that happen for a ticket. -/
def eventsOf (o : Outline ι) (ss : List (Step ι)) (k : Nat) : List Event :=
  (o.run ss).flatMap fun r => r.1.events.filter (·.ticket = k)

/-- What happens in a run to the lookups of the build of a ticket. -/
def historyOf (o : Outline ι) (ss : List (Step ι)) (k : Nat) : List Build.LookupEvent :=
  (o.eventsOf ss k).filterMap (·.lookup?)

/-- What the request of a ticket is answered in a run. -/
def finishedOf (o : Outline ι) (ss : List (Step ι)) (k : Nat) : List (Finished ι) :=
  (o.run ss).flatMap fun r => r.1.finished.filter (·.ticket = k)

/-- In a run, the request that is step `k` starts the build of a file with a vocabulary. -/
structure Starts (o : Outline ι) (ss : List (Step ι)) (k : Nat) (id : ι) (file : String)
    (v : Vocabulary) : Prop where
  step : ss[k]? = some (.request id (some file) none)
  vocabulary : (o.after (ss.take k)).service.vocabulary? file = some v

theorem eventsOf_cons (s : Step ι) (ss : List (Step ι)) :
    o.eventsOf (s :: ss) k =
      (o.step s).2.events.filter (·.ticket = k) ++ (o.step s).1.eventsOf ss k := rfl

theorem finishedOf_cons (s : Step ι) (ss : List (Step ι)) :
    o.finishedOf (s :: ss) k =
      (o.step s).2.finished.filter (·.ticket = k) ++ (o.step s).1.finishedOf ss k := rfl

theorem after_cons (s : Step ι) (ss : List (Step ι)) :
    o.after (s :: ss) = (o.step s).1.after ss := rfl

theorem eventsOf_append (ss ts : List (Step ι)) :
    o.eventsOf (ss ++ ts) k = o.eventsOf ss k ++ (o.after ss).eventsOf ts k := by
  rw [eventsOf, run_append, List.flatMap_append]
  rfl

theorem finishedOf_append (ss ts : List (Step ι)) :
    o.finishedOf (ss ++ ts) k = o.finishedOf ss k ++ (o.after ss).finishedOf ts k := by
  rw [finishedOf, run_append, List.flatMap_append]
  rfl

theorem clock_after (ss : List (Step ι)) : (o.after ss).clock = o.clock + ss.length := by
  induction ss generalizing o with
  | nil => rfl
  | cons s ss ih =>
    rw [after_cons, ih, clock_step, List.length_cons]
    omega

theorem advance_nil (a : Analysis) (s : Step ι) : advance a [] s = ([], [], []) := by
  cases s with
  | service x => cases x <;> rfl
  | _ => rfl

/-- A step does to the only build of a ticket what its life says. -/
theorem advance_singleton (a : Analysis) (id : ι) (b : Build) (s : Step ι) :
    advance a [⟨id, k, b⟩] s =
      (((Life.running b).step id a s).1.unfinished id k,
        ((Life.running b).step id a s).1.finished id k,
        ((Life.running b).step id a s).2.map (.lookup k b.file)) := by
  cases s with
  | drop other =>
    by_cases h : id = other
    · simp [advance, Life.step, h, Life.unfinished, Life.finished]
    · simp [advance, Life.step, h, Life.unfinished, Life.finished]
  | service x =>
    cases x with
    | release key =>
      have hfile : (b.release (a.step (.release key)) key).1.file = b.file := Build.file_answer ..
      simp only [advance, releaseAll, Life.step, Life.ofBuild, hfile, List.append_nil]
      cases (b.release (a.step (.release key)) key).1.outcome? <;> rfl
    | _ => rfl
  | _ => rfl

/-- A step takes the build of a ticket on in its life, unless it is the step that starts it. -/
theorem step_life (s : Step ι) {id : ι} {life : Life} {file : String} (hk : k ≠ o.clock)
    (h : o.ofTicket k = life.unfinished id k) (hfile : ∀ b, life = .running b → b.file = file) :
    (o.step s).1.ofTicket k = (life.step id o.service s).1.unfinished id k ∧
      life.finished id k ++ (o.step s).2.finished.filter (·.ticket = k) =
        (life.step id o.service s).1.finished id k ∧
      (o.step s).2.events.filter (·.ticket = k) =
        (life.step id o.service s).2.map (.lookup k file) := by
  have hstep := step_ofTicket s hk
  rw [h] at hstep
  cases life with
  | running b =>
    rw [Life.unfinished, advance_singleton, Prod.mk.injEq, Prod.mk.injEq, hfile b rfl] at hstep
    exact hstep
  | ended outcome =>
    rw [Life.unfinished, advance_nil, Prod.mk.injEq, Prod.mk.injEq] at hstep
    obtain ⟨hunf, hfin, hev⟩ := hstep
    exact ⟨hunf, by rw [hfin, List.append_nil]; rfl, hev⟩
  | dropped =>
    rw [Life.unfinished, advance_nil, Prod.mk.injEq, Prod.mk.injEq] at hstep
    exact hstep

/-- **From a step on, the build of a ticket that is past goes on as its life says.** -/
theorem run_life (ss : List (Step ι)) {id : ι} {life : Life} {file : String} (hk : k < o.clock)
    (h : o.ofTicket k = life.unfinished id k) (hfile : ∀ b, life = .running b → b.file = file) :
    (o.after ss).ofTicket k = (life.run id o.service ss).1.unfinished id k ∧
      life.finished id k ++ o.finishedOf ss k = (life.run id o.service ss).1.finished id k ∧
      o.eventsOf ss k = (life.run id o.service ss).2.map (.lookup k file) := by
  induction ss generalizing o life with
  | nil => exact ⟨h, List.append_nil _, rfl⟩
  | cons s ss ih =>
    obtain ⟨hunf, hfin, hev⟩ := step_life s hk.ne h hfile
    have hk' : k < (o.step s).1.clock := by rw [clock_step]; omega
    obtain ⟨hunf', hfin', hev'⟩ := ih hk' hunf (Life.file_step s hfile)
    rw [service_step] at hunf' hfin' hev'
    refine ⟨hunf', ?_, ?_⟩
    · rw [finishedOf_cons, ← List.append_assoc, hfin]
      exact hfin'
    · rw [eventsOf_cons, hev, hev', ← List.map_append]
      rfl

/-- Nothing happens for a ticket without a build, before its step and after it. -/
theorem run_absent (ss : List (Step ι)) (hnone : o.ofTicket k = [])
    (hk : k < o.clock ∨ o.clock + ss.length ≤ k) :
    (o.after ss).ofTicket k = [] ∧ o.finishedOf ss k = [] ∧ o.eventsOf ss k = [] := by
  induction ss generalizing o with
  | nil => exact ⟨hnone, rfl, rfl⟩
  | cons s ss ih =>
    rw [List.length_cons] at hk
    have hstep := step_ofTicket (o := o) (k := k) s (by omega)
    rw [hnone, advance_nil, Prod.mk.injEq, Prod.mk.injEq] at hstep
    obtain ⟨hunf, hfin, hev⟩ := hstep
    obtain ⟨hunf', hfin', hev'⟩ := ih hunf (by rw [clock_step]; omega)
    rw [finishedOf_cons, eventsOf_cons, after_cons, hunf', hfin', hev', hfin, hev]
    exact ⟨rfl, rfl, rfl⟩

/-- Nothing happens for a ticket in a run that does not get to its step. -/
theorem run_before (service : Analysis) (settings : Settings) (ss : List (Step ι))
    (hk : ss.length ≤ k) :
    let o : Outline ι := ofService service settings
    (o.after ss).ofTicket k = [] ∧ o.finishedOf ss k = [] ∧ o.eventsOf ss k = [] :=
  run_absent ss rfl (.inr ((Nat.zero_add _).le.trans hk))

/-- **A run as a step sees it** for its own ticket: nothing happens before the step. -/
theorem run_at (service : Analysis) (settings : Settings) {ss : List (Step ι)} {s : Step ι}
    (hs : ss[k]? = some s) :
    let o : Outline ι := ofService service settings
    let before := o.after (ss.take k)
    let next := (before.step s).1
    before.clock = k ∧ before.ofTicket k = [] ∧ o.after ss = next.after (ss.drop (k + 1)) ∧
      o.finishedOf ss k = (before.step s).2.finished.filter (·.ticket = k) ++
        next.finishedOf (ss.drop (k + 1)) k ∧
      o.eventsOf ss k = (before.step s).2.events.filter (·.ticket = k) ++
        next.eventsOf (ss.drop (k + 1)) k := by
  intro o before next
  obtain ⟨hlt, hstep⟩ := List.getElem?_eq_some_iff.mp hs
  have hss : ss.take k ++ s :: ss.drop (k + 1) = ss := by
    rw [← hstep, List.getElem_cons_drop, List.take_append_drop]
  have hlen : (ss.take k).length = k := List.length_take_of_le hlt.le
  have hclock : before.clock = k := by
    rw [clock_after, hlen]
    exact Nat.zero_add k
  obtain ⟨hunf, hfin, hev⟩ := run_before service settings (ss.take k) hlen.le
  refine ⟨hclock, hunf, ?_, ?_, ?_⟩
  · conv_lhs => rw [← hss, after_append, after_cons]
  · conv_lhs => rw [← hss, finishedOf_append, hfin, List.nil_append, finishedOf_cons]
  · conv_lhs => rw [← hss, eventsOf_append, hev, List.nil_append, eventsOf_cons]

/-- **A run from the step that begins a life on**: the rest of the run takes the life on. -/
theorem run_of_life (service : Analysis) (settings : Settings) {ss : List (Step ι)} {s : Step ι}
    (hs : ss[k]? = some s) {id : ι} {life : Life} {file : String}
    (hunf : (((ofService service settings : Outline ι).after (ss.take k)).step s).1.ofTicket k =
      life.unfinished id k)
    (hfin : (((ofService service settings : Outline ι).after (ss.take k)).step s).2.finished.filter
      (·.ticket = k) = life.finished id k)
    (hfile : ∀ b, life = .running b → b.file = file) :
    let o : Outline ι := ofService service settings
    let r := (o.after (ss.take k)).step s
    let later := life.run id r.1.service (ss.drop (k + 1))
    (o.after ss).ofTicket k = later.1.unfinished id k ∧
      o.finishedOf ss k = later.1.finished id k ∧
      o.eventsOf ss k =
        r.2.events.filter (·.ticket = k) ++ later.2.map (.lookup k file) := by
  intro o r later
  obtain ⟨hclock, -, hafter, hfinished, hevents⟩ := run_at service settings hs
  obtain ⟨hunf', hfin', hev'⟩ := run_life (o := r.1) (ss.drop (k + 1))
    (by rw [clock_step, hclock]; exact Nat.lt_succ_self k) hunf hfile
  rw [hafter, hfinished, hevents, hfin]
  exact ⟨hunf', hfin', congrArg (_ ++ ·) hev'⟩

/-- The step that starts a build begins its life. -/
theorem step_starts (id : ι) {file : String} {v : Vocabulary}
    (hv : o.service.vocabulary? file = some v) (hnone : o.ofTicket o.clock = []) :
    let r := o.step (.request id (some file) none)
    let started := (Build.ofTokens file o.settings v.tokens).start o.service
    r.1.ofTicket o.clock = (Life.ofBuild started.1).unfinished id o.clock ∧
      r.2.finished.filter (·.ticket = o.clock) = (Life.ofBuild started.1).finished id o.clock ∧
      r.2.events.filter (·.ticket = o.clock) =
        .vocabulary o.clock file :: started.2.map (.lookup o.clock file) := by
  intro r started
  have hperform : o.perform (.request id (some file) none) = o.startBuild id file v.tokens := by
    simp only [perform, request, hv]
  obtain ⟨hunf, hfin, hev⟩ := startBuild_spec (o := o) id file v.tokens
  rw [← hperform] at hunf hfin hev
  refine ⟨?_, ?_, ?_⟩
  · rw [ofTicket] at hnone
    simp only [r, ofTicket, step, hunf, List.filter_append, hnone, Life.filter_unfinished]
    rfl
  · simp only [r, step, hfin, Life.filter_finished]
    rfl
  · simp only [r, step, hev]
    rw [List.filter_cons_of_pos (by simp), filter_lookup, if_pos rfl]

/-- **The build that a step starts, in the run.** Its events, its answer and its place among the
unfinished builds are those of its life. -/
theorem run_of_starts {service : Analysis} {settings : Settings} {ss : List (Step ι)} {id : ι}
    {file : String} {v : Vocabulary} (h : Starts (.ofService service settings) ss k id file v) :
    let o := (ofService service settings : Outline ι).after (ss.take k)
    let started := (Build.ofTokens file o.settings v.tokens).start o.service
    let life := (Life.ofBuild started.1).run id o.service (ss.drop (k + 1))
    ((ofService service settings).after ss).ofTicket k = life.1.unfinished id k ∧
      (ofService service settings).finishedOf ss k = life.1.finished id k ∧
      (ofService service settings).eventsOf ss k =
        .vocabulary k file :: (started.2 ++ life.2).map (.lookup k file) := by
  intro o started life
  obtain ⟨hclock, hunf₀, -⟩ := run_at service settings h.step
  -- the step begins the life, and the rest of the run takes it on
  obtain ⟨hunf₁, hfin₁, hev₁⟩ := step_starts id h.vocabulary (hclock.symm ▸ hunf₀)
  change o.clock = k at hclock
  rw [hclock] at hunf₁ hfin₁ hev₁
  have hfile : ∀ b, Life.ofBuild started.1 = .running b → b.file = file := by
    intro b hb
    rw [← Life.eq_of_ofBuild hb]
    exact (Build.start_spec o.service file o.settings v.tokens).1.file_eq
  obtain ⟨hunf₂, hfin₂, hev₂⟩ := run_of_life service settings h.step hunf₁ hfin₁ hfile
  have hserv : (o.step (.request id (some file) none)).1.service = o.service := service_step _
  rw [hserv] at hunf₂ hfin₂ hev₂
  rw [List.map_append, ← List.cons_append]
  exact ⟨hunf₂, hfin₂, hev₂.trans (congrArg (· ++ _) hev₁)⟩

/-! ## The builds that steps start -/

variable {service : Analysis} {settings : Settings} {ss : List (Step ι)} {id : ι} {file : String}
  {v : Vocabulary}

theorem historyOf_eq {o : Outline ι} {history : List Build.LookupEvent}
    (h : o.eventsOf ss k = .vocabulary k file :: history.map (.lookup k file)) :
    o.historyOf ss k = history := by
  rw [historyOf, h, List.filterMap_cons_none rfl, List.filterMap_map]
  exact List.filterMap_some

/-- A run that goes on past the start of a build contains it. -/
theorem Starts.take {o : Outline ι} (h : Starts o ss k id file v) {m : Nat} (hm : k < m) :
    Starts o (ss.take m) k id file v where
  step := by rw [List.getElem?_take_of_lt hm]; exact h.step
  vocabulary := by rw [List.take_take, Nat.min_eq_left hm.le]; exact h.vocabulary

/-- **The build that a step starts has a life that follows its history**, and is asked for, answered
and kept among the unfinished builds as that life says. -/
theorem follows_of_starts (h : Starts (.ofService service settings) ss k id file v) :
    let o : Outline ι := ofService service settings
    ∃ life : Life,
      life.Follows (.ofTokens file (o.after (ss.take k)).settings v.tokens) (o.historyOf ss k) ∧
      (o.after ss).ofTicket k = life.unfinished id k ∧ o.finishedOf ss k = life.finished id k ∧
      o.eventsOf ss k = .vocabulary k file :: (o.historyOf ss k).map (.lookup k file) := by
  intro o
  obtain ⟨hunf, hfin, hev⟩ := run_of_starts h
  have hbegin := Life.follows_start (o.after (ss.take k)).service file
    (o.after (ss.take k)).settings v.tokens
  have hhist := historyOf_eq hev
  rw [← hhist] at hev
  refine ⟨_, ?_, hunf, hfin, hev⟩
  rw [hhist]
  exact (Life.run_follows id (ss.drop (k + 1)) _ hbegin).1

/-- The step that starts a build: its life until then is what the start comes to. -/
theorem first_step_of_starts (h : Starts (.ofService service settings) ss k id file v) :
    let o : Outline ι := ofService service settings
    let started := (Build.ofTokens file (o.after (ss.take k)).settings v.tokens).start
      (o.after (ss.take k)).service
    o.historyOf (ss.take (k + 1)) k = started.2 ∧
      o.finishedOf (ss.take (k + 1)) k = (Life.ofBuild started.1).finished id k := by
  intro o started
  obtain ⟨-, hfin, hev⟩ := run_of_starts (h.take (Nat.lt_succ_self k))
  have htake : (ss.take (k + 1)).take k = ss.take k := by
    rw [List.take_take, Nat.min_eq_left (Nat.le_succ k)]
  have hdrop : (ss.take (k + 1)).drop (k + 1) = [] := by
    rw [List.drop_take, Nat.sub_self, List.take_zero]
  rw [htake, hdrop] at hfin hev
  exact ⟨(historyOf_eq hev).trans (List.append_nil _), hfin⟩

/-- **The lookups that a build starts** are all started by the step that starts it: those of all
tokens, or, if a failure ends the build in that step, those up to the one that failed. -/
theorem startsIn_of_starts (h : Starts (.ofService service settings) ss k id file v) :
    let o : Outline ι := ofService service settings
    Build.startsIn (o.historyOf ss k) = Build.startsIn (o.historyOf (ss.take (k + 1)) k) ∧
      ((∀ f ∈ o.finishedOf (ss.take (k + 1)) k, ∀ err, f.answer ≠ .error err) →
        Build.startsIn (o.historyOf ss k) = Build.startsOf v.tokens) ∧
      ∀ f ∈ o.finishedOf (ss.take (k + 1)) k, ∀ err, f.answer = .error err →
        ∃ i t, v.tokens[i]? = some t ∧ err.index = t.index ∧
          Build.startsIn (o.historyOf ss k) = Build.startsOf (v.tokens.take (i + 1)) := by
  intro o
  obtain ⟨hhist₁, hfin₁⟩ := first_step_of_starts h
  obtain ⟨-, -, hev⟩ := run_of_starts h
  have hhist := historyOf_eq hev
  obtain ⟨hall, hsome⟩ := Build.startsIn_start (o.after (ss.take k)).service file
    (o.after (ss.take k)).settings v.tokens
  have hbegin := Life.follows_start (o.after (ss.take k)).service file
    (o.after (ss.take k)).settings v.tokens
  have hrest := (Life.run_follows id (ss.drop (k + 1)) (o.after (ss.take k)).service hbegin).2
  have hstarts : Build.startsIn (o.historyOf ss k) =
      Build.startsIn (o.historyOf (ss.take (k + 1)) k) := by
    rw [hhist, Build.startsIn_append, hrest, List.append_nil, hhist₁]
  rw [hstarts, hfin₁, hhist₁]
  refine ⟨rfl, fun hno => hall fun err hout => ?_, fun f hf err herr => ?_⟩
  · have hlife := Life.ofBuild_eq_ended_iff.mpr hout
    exact hno ⟨id, k, .error err⟩ (Life.mem_finished.mpr ⟨_, hlife, rfl⟩) err rfl
  · obtain ⟨outcome, hlife, rfl⟩ := Life.mem_finished.mp hf
    cases outcome with
    | ok out => exact absurd herr (by simp [Except.map])
    | error err' =>
      obtain rfl := Except.error.inj herr
      exact hsome _ (Life.ofBuild_eq_ended_iff.mp hlife)

end Outline

end TokenOutline
