import TokenOutline.Outline.Basic
import TokenOutline.Proofs.Build.Launch

/-!
# The life of one build in a run

A run of the outline has any number of builds under way. The life of one of them needs the run only
for what changes the service and for what gives up the id under which the build was asked for:
`Life.step` is what a step does to it.

Headlines:
* **`Life.run_follows`**: a life is a history of steps of its build. While the build runs it has
  started all lookups and goes on, and when it has ended its outcome is read off the history.
* **`Life.Follows.succeeded_iff`**, **`Life.Follows.failed_iff`**: when a build has succeeded, and
  when it has failed, by its history.
-/

namespace TokenOutline

/-- The service after a step. -/
def Outline.serviceAfter {ι : Type} (a : Analysis) : Outline.Step ι → Analysis
  | .service s => a.step s
  | _ => a

/-! ## Lives -/

/-- What has become of a build. -/
inductive Life where
  | running (build : Build)
  | ended (outcome : Outcome)
  | dropped

namespace Life

variable {ι : Type}

/-- A build that is looked at when it has come as far as it can. -/
def ofBuild (b : Build) : Life :=
  match b.outcome? with
  | some outcome => .ended outcome
  | none => .running b

/-- The unfinished builds of a ticket that a life leaves. -/
def unfinished (id : ι) (k : Nat) : Life → List (Unfinished ι)
  | .running b => [⟨id, k, b⟩]
  | .ended _ => []
  | .dropped => []

/-- The requests that a life answers. -/
def finished (id : ι) (k : Nat) : Life → List (Finished ι)
  | .running _ => []
  | .ended outcome => [⟨id, k, outcome.map some⟩]
  | .dropped => []

theorem filter_unfinished (id : ι) (k : Nat) (life : Life) :
    (life.unfinished id k).filter (·.ticket = k) = life.unfinished id k := by
  cases life <;> simp [unfinished]

theorem filter_finished (id : ι) (k : Nat) (life : Life) :
    (life.finished id k).filter (·.ticket = k) = life.finished id k := by
  cases life <;> simp [finished]

theorem eq_of_ofBuild {b c : Build} (h : ofBuild b = .running c) : b = c := by
  unfold ofBuild at h
  split at h
  · exact absurd h (by simp)
  · exact Life.running.inj h

theorem ofBuild_eq_ended_iff {b : Build} {outcome : Outcome} :
    ofBuild b = .ended outcome ↔ b.outcome? = some outcome := by
  unfold ofBuild
  split <;> simp_all

theorem mem_finished {id : ι} {k : Nat} {life : Life} {f : Finished ι} :
    f ∈ life.finished id k ↔ ∃ outcome, life = .ended outcome ∧ f = ⟨id, k, outcome.map some⟩ := by
  cases life <;> simp [finished]

theorem mem_unfinished {id : ι} {k : Nat} {life : Life} {u : Unfinished ι} :
    u ∈ life.unfinished id k ↔ ∃ b, life = .running b ∧ u = ⟨id, k, b⟩ := by
  cases life <;> simp [unfinished]

theorem exists_ok_finished {id : ι} {k : Nat} {life : Life} :
    (∃ f ∈ life.finished id k, ∃ answer, f.answer = .ok answer) ↔
      ∃ out, life = .ended (.ok out) := by
  cases life with
  | ended outcome => cases outcome <;> simp [finished, Except.map]
  | _ => simp [finished]

theorem exists_error_finished {id : ι} {k : Nat} {life : Life} :
    (∃ f ∈ life.finished id k, ∃ err, f.answer = .error err) ↔
      ∃ err, life = .ended (.error err) := by
  cases life with
  | ended outcome => cases outcome <;> simp [finished, Except.map]
  | _ => simp [finished]

/-! ## Steps -/

variable [DecidableEq ι]

/-- What a step does to the build of an id, and what happens to its lookups; the service is the one
before the step. -/
def step (id : ι) (a : Analysis) (life : Life) (s : Outline.Step ι) :
    Life × List Build.LookupEvent :=
  match life with
  | .running b =>
    match s with
    | .drop other => (if id = other then .dropped else .running b, [])
    | .service (.release key) =>
      let (b, history) := b.release (a.step (.release key)) key
      (.ofBuild b, history)
    | _ => (.running b, [])
  | .ended outcome => (.ended outcome, [])
  | .dropped => (.dropped, [])

/-- What the steps of a run do to the build of an id, and what happens to its lookups. -/
def run (id : ι) (a : Analysis) (life : Life) :
    List (Outline.Step ι) → Life × List Build.LookupEvent
  | [] => (life, [])
  | s :: ss =>
    let (life, history) := life.step id a s
    let (life, later) := life.run id (Outline.serviceAfter a s) ss
    (life, history ++ later)

/-- A step leaves a build its file. -/
theorem file_step {id : ι} {a : Analysis} {life : Life} {file : String} (s : Outline.Step ι)
    (h : ∀ b, life = .running b → b.file = file) :
    ∀ b, (life.step id a s).1 = .running b → b.file = file := by
  intro b hb
  cases life with
  | running c =>
    cases s with
    | drop other =>
      simp only [step] at hb
      split at hb
      · exact absurd hb (by simp)
      · exact h b hb
    | service x =>
      cases x with
      | release key =>
        obtain rfl := eq_of_ofBuild hb
        exact (Build.file_answer ..).trans (h c rfl)
      | _ => exact h b hb
    | _ => exact h b hb
  | ended outcome => exact absurd hb (by simp [step])
  | dropped => exact absurd hb (by simp [step])

/-! ## Lives and their histories -/

variable {b₀ : Build}

/-- A life, and the history that a build has had in it. A build that has not ended when a step is
over has started all its lookups. -/
inductive Follows (b₀ : Build) : Life → List Build.LookupEvent → Prop
  | running {b : Build} {h : List Build.LookupEvent} (steps : Build.Steps b₀ h b)
      (full : b.slots.length = b.tokens.length) (goes : b.outcome? = none) :
      Follows b₀ (.running b) h
  | ended {b : Build} {h : List Build.LookupEvent} {outcome : Outcome}
      (steps : Build.Steps b₀ h b) (ends : b.outcome? = some outcome) :
      Follows b₀ (.ended outcome) h
  | dropped {b : Build} {h : List Build.LookupEvent} (steps : Build.Steps b₀ h b)
      (full : b.slots.length = b.tokens.length) (goes : b.outcome? = none) :
      Follows b₀ .dropped h

theorem follows_ofBuild {b : Build} {h : List Build.LookupEvent} (steps : Build.Steps b₀ h b)
    (full : b.failure? = none → b.slots.length = b.tokens.length) :
    (ofBuild b).Follows b₀ h := by
  unfold ofBuild
  split
  · rename_i outcome hout
    exact .ended steps hout
  · rename_i hout
    exact .running steps (full (Build.failure?_eq_none_of_outcome? (by simp [hout]))) hout

/-- The start of a build begins a life that follows its history. -/
theorem follows_start (a : Analysis) (file : String) (s : Settings) (tokens : List Token) :
    let started := (Build.ofTokens file s tokens).start a
    (ofBuild started.1).Follows (.ofTokens file s tokens) started.2 := by
  intro started
  obtain ⟨hsteps, hfull, -⟩ := Build.start_spec a file s tokens
  exact follows_ofBuild hsteps fun hgo =>
    (hfull hgo).trans (congrArg List.length hsteps.tokens_eq.symm)

theorem step_follows (id : ι) (a : Analysis) {life : Life} {h : List Build.LookupEvent}
    (s : Outline.Step ι) (hl : life.Follows b₀ h) :
    (life.step id a s).1.Follows b₀ (h ++ (life.step id a s).2) ∧
      Build.startsIn (life.step id a s).2 = [] := by
  cases hl with
  | running steps full goes =>
    rename_i b
    have hstay : (Life.running b).Follows b₀ (h ++ []) ∧ Build.startsIn [] = [] := by
      rw [List.append_nil]
      exact ⟨.running steps full goes, rfl⟩
    cases s with
    | drop other =>
      simp only [step]
      split
      · rw [List.append_nil]
        exact ⟨.dropped steps full goes, rfl⟩
      · exact hstay
    | service x =>
      cases x with
      | release key =>
        have hgo : b.failure? = none := Build.failure?_eq_none_of_outcome? (by simp [goes])
        obtain ⟨hsteps, hlength, hstarts⟩ := Build.release_spec (a.step (.release key)) key hgo
        have hfull := hlength.trans (full.trans (congrArg List.length hsteps.tokens_eq.symm))
        exact ⟨follows_ofBuild (steps.trans hsteps) fun _ => hfull, hstarts⟩
      | _ => exact hstay
    | _ => exact hstay
  | ended steps ends =>
    rw [step, List.append_nil]
    exact ⟨.ended steps ends, rfl⟩
  | dropped steps full goes =>
    rw [step, List.append_nil]
    exact ⟨.dropped steps full goes, rfl⟩

/-- **A life follows the history of its build**, and no step after the first one starts a
lookup. -/
theorem run_follows (id : ι) (ss : List (Outline.Step ι)) (a : Analysis) {life : Life}
    {h : List Build.LookupEvent} (hl : life.Follows b₀ h) :
    (life.run id a ss).1.Follows b₀ (h ++ (life.run id a ss).2) ∧
      Build.startsIn (life.run id a ss).2 = [] := by
  induction ss generalizing a life h with
  | nil =>
    rw [run, List.append_nil]
    exact ⟨hl, rfl⟩
  | cons s ss ih =>
    obtain ⟨hstep, hstarts⟩ := step_follows id a s hl
    obtain ⟨hrest, hstarts'⟩ := ih (Outline.serviceAfter a s) hstep
    simp only [run]
    rw [← List.append_assoc, Build.startsIn_append, hstarts, hstarts']
    exact ⟨hrest, rfl⟩

theorem Follows.steps {life : Life} {h : List Build.LookupEvent} (hl : life.Follows b₀ h) :
    ∃ b, Build.Steps b₀ h b := by
  cases hl with
  | running steps => exact ⟨_, steps⟩
  | ended steps => exact ⟨_, steps⟩
  | dropped steps => exact ⟨_, steps⟩

section

variable {file : String} {s : Settings} {tokens : List Token} {life : Life}
  {history : List Build.LookupEvent}

/-- **A build that has not ended** when a step is over: its history holds no failure that ends it,
all its lookups have started, one of them waits, and its failures are those of a large build, each
behind a lookup that waits. -/
theorem pending_spec {b : Build} (hs : Build.Steps (.ofTokens file s tokens) history b)
    (full : b.slots.length = b.tokens.length) (goes : b.outcome? = none) :
    ¬ Build.Fails tokens.length history ∧ Build.startsIn history = Build.startsOf tokens ∧
      (∃ i < tokens.length, Build.repliesTo i history = []) ∧
      ∀ (i : Nat) (e : LookupError), .error e ∈ Build.repliesTo i history →
        smallBuild < tokens.length ∧ ∃ j < i, Build.repliesTo j history = [] := by
  have htokens : b.tokens = tokens := hs.tokens_eq
  obtain ⟨hgo, i, hi⟩ := (Build.outcome?_eq_none_iff full).mp goes
  obtain ⟨hlt, hempty⟩ := hs.records.waits_iff.mp hi
  refine ⟨?_, ?_, ⟨i, htokens ▸ full ▸ hlt, hempty⟩, fun i e he => ?_⟩
  · rw [← htokens]
    exact hs.records.failure?_eq_none_iff.mp hgo
  · rw [hs.records.starts, full, List.take_length, htokens]
  · obtain ⟨hlarge, j, hji, hj⟩ :=
      Build.failure?_eq_none_iff.mp hgo i e (hs.records.mem_replies_iff.mp he)
    exact ⟨htokens ▸ hlarge, j, hji, (hs.records.waits_iff.mp hj).2⟩

/-- A life has ended with what its history comes to, or its build has not ended. -/
theorem Follows.ended_or_pending (hl : life.Follows (.ofTokens file s tokens) history) :
    (∃ b outcome, life = .ended outcome ∧ Build.Steps (.ofTokens file s tokens) history b ∧
      b.outcome? = some outcome) ∨
    ((∀ outcome, life ≠ .ended outcome) ∧ ¬ Build.Fails tokens.length history ∧
      ∃ i < tokens.length, Build.repliesTo i history = []) := by
  cases hl with
  | running steps full goes =>
    obtain ⟨hno, -, hwaits, -⟩ := pending_spec steps full goes
    exact .inr ⟨by simp, hno, hwaits⟩
  | ended steps ends => exact .inl ⟨_, _, rfl, steps, ends⟩
  | dropped steps full goes =>
    obtain ⟨hno, -, hwaits, -⟩ := pending_spec steps full goes
    exact .inr ⟨by simp, hno, hwaits⟩

/-- **A build has succeeded iff all its lookups were answered without a failure.** -/
theorem Follows.succeeded_iff (hl : life.Follows (.ofTokens file s tokens) history) :
    (∃ out, life = .ended (.ok out)) ↔
      ∀ i < tokens.length, ∃ x, Build.repliesTo i history = [.ok x] := by
  rcases hl.ended_or_pending with ⟨b, outcome, rfl, steps, ends⟩ | ⟨hlife, -, i, hi, hnone⟩
  · have htokens : b.tokens = tokens := steps.tokens_eq
    cases outcome with
    | ok out =>
      refine ⟨fun _ i hi => ?_, fun _ => ⟨out, rfl⟩⟩
      obtain ⟨xs, hlen, -, hreplies⟩ := steps.records.outcome_ok ends
      exact ⟨_, hreplies i _ (List.getElem?_eq_getElem (hlen ▸ htokens ▸ hi))⟩
    | error err =>
      refine ⟨fun ⟨_, h⟩ => absurd h (by simp), fun hall => ?_⟩
      obtain ⟨i, t, e, ht, -, hreply, -⟩ := steps.outcome_error ends
      obtain ⟨x, hx⟩ := hall i (List.getElem?_eq_some_iff.mp ht).1
      rw [hreply] at hx
      exact absurd hx (by simp)
  · refine ⟨fun ⟨_, h⟩ => absurd h (hlife _), fun hall => ?_⟩
    obtain ⟨x, hx⟩ := hall i hi
    rw [hnone] at hx
    exact absurd hx (by simp)

/-- **A build has failed iff its history holds a failure that ends it.** -/
theorem Follows.failed_iff (hl : life.Follows (.ofTokens file s tokens) history) :
    (∃ err, life = .ended (.error err)) ↔ Build.Fails tokens.length history := by
  rcases hl.ended_or_pending with ⟨b, outcome, rfl, steps, ends⟩ | ⟨hlife, hno, -⟩
  · have htokens : b.tokens = tokens := steps.tokens_eq
    have hgo := steps.records.failure?_eq_none_iff
    rw [htokens] at hgo
    cases outcome with
    | ok out =>
      refine ⟨fun ⟨_, h⟩ => absurd h (by simp), fun hf => absurd hf (hgo.mp ?_)⟩
      exact Build.failure?_eq_none_of_outcome? (by simp [ends])
    | error err =>
      refine ⟨fun _ => ?_, fun _ => ⟨err, rfl⟩⟩
      by_contra hno
      obtain ⟨i, e, hf, -⟩ := Build.outcome?_eq_error_iff.mp ends
      rw [hgo.mpr hno] at hf
      exact absurd hf (by simp)
  · exact ⟨fun ⟨_, h⟩ => absurd h (hlife _), fun hf => absurd hf hno⟩

end

end Life

end TokenOutline
