import TokenOutline.Proofs.Outline.Request

/-!
# The settings of a run

The settings of an outline are those of the last value that was taken; nothing of earlier ones is
left. A value that is refused leaves no trace in the run but the refusal. It is a step of the run
all the same, and as a build is known by the number of the step that started it, the builds of later
steps are known by other numbers. So runs are compared up to the numbers of their builds.

Headlines:
* `Settings.lastOf`, **`Outline.settings_after_offers`**: the settings in every run.
* **`Outline.run_renumber`**: a run does not depend on the numbers of its builds.
* **`Outline.run_refused`**: a run with a value that is refused, and without it.
-/

namespace TokenOutline

/-! ## The last settings -/

/-- The settings of the last of some values that are settings, or else those given. -/
def Settings.lastOf (s : Settings) (values : List Json) : Settings :=
  (values.filterMap fun v => (Settings.decode v).toOption).getLast?.getD s

theorem Settings.lastOf_cons (s : Settings) (v : Json) (vs : List Json) :
    s.lastOf (v :: vs) = ((Settings.decode v).toOption.getD s).lastOf vs := by
  rw [lastOf, List.filterMap_cons]
  cases (Settings.decode v).toOption with
  | none => rfl
  | some t => rw [List.getLast?_cons]; rfl

theorem Settings.lastOf_append (s : Settings) (vs ws : List Json) :
    s.lastOf (vs ++ ws) = (s.lastOf vs).lastOf ws := by
  induction vs generalizing s with
  | nil => rfl
  | cons v vs ih => rw [List.cons_append, lastOf_cons, lastOf_cons, ih]

/-! ## New numbers for builds -/

/-- The event with a new number for its build. -/
def Event.renumber (f : Nat → Nat) : Event → Event
  | .vocabulary ticket file => .vocabulary (f ticket) file
  | .lookup ticket file event => .lookup (f ticket) file event

section

variable {ι : Type} (f : Nat → Nat)

/-- The answer with a new number for its build. -/
def Finished.renumber (x : Finished ι) : Finished ι := { x with ticket := f x.ticket }

/-- The build with a new number. -/
def Unfinished.renumber (u : Unfinished ι) : Unfinished ι := { u with ticket := f u.ticket }

/-- The report with new numbers for its builds. -/
def Report.renumber (r : Report ι) : Report ι :=
  { r with events := r.events.map (.renumber f), finished := r.finished.map (.renumber f) }

/-- The outline with new numbers for its builds and its steps. -/
def Outline.renumber (o : Outline ι) : Outline ι :=
  { o with unfinished := o.unfinished.map (.renumber f), clock := f o.clock }

end

namespace Outline

variable {ι : Type} {o : Outline ι} {f : Nat → Nat}

theorem map_lookup_renumber (ticket : Nat) (file : String) (h : List Build.LookupEvent) :
    h.map (.lookup (f ticket) file) = (h.map (.lookup ticket file)).map (Event.renumber f) := by
  rw [List.map_map]
  rfl

theorem startBuild_renumber (id : ι) (file : String) (tokens : List Token) :
    (o.renumber f).startBuild id file tokens =
      ((o.startBuild id file tokens).1.renumber f, (o.startBuild id file tokens).2.renumber f) := by
  have hevents := map_lookup_renumber (f := f) o.clock file
    ((Build.ofTokens file o.settings tokens).start o.service).2
  unfold startBuild
  simp only [renumber]
  cases ((Build.ofTokens file o.settings tokens).start o.service).1.outcome? with
  | none => simp [Report.renumber, Unfinished.renumber, Event.renumber, hevents]
  | some outcome =>
    simp [answered, Report.renumber, Finished.renumber, Event.renumber, hevents]

theorem request_renumber (id : ι) (file : Option String) (below : Option Item) :
    (o.renumber f).request id file below =
      ((o.request id file below).1.renumber f, (o.request id file below).2.renumber f) := by
  cases below with
  | some item => rfl
  | none =>
    cases file with
    | none => rfl
    | some file =>
      unfold request
      have hservice : (o.renumber f).service = o.service := rfl
      simp only [hservice]
      cases o.service.vocabulary? file with
      | none => rfl
      | some v => exact startBuild_renumber id file v.tokens

theorem releaseAll_renumber (a : Analysis) (key : String) (us : List (Unfinished ι)) :
    releaseAll a key (us.map (.renumber f)) =
      ((releaseAll a key us).1.map (.renumber f), (releaseAll a key us).2.1.map (.renumber f),
        (releaseAll a key us).2.2.map (.renumber f)) := by
  induction us with
  | nil => rfl
  | cons u us ih =>
    have hevents := map_lookup_renumber (f := f) u.ticket (u.build.release a key).1.file
      (u.build.release a key).2
    rw [List.map_cons, releaseAll, releaseAll, ih]
    simp only [Unfinished.renumber]
    cases (u.build.release a key).1.outcome? with
    | none => simp [Unfinished.renumber, hevents]
    | some outcome => simp [Finished.renumber, hevents]

theorem itemsOf_renumber (items : List Item) (fs : List (Finished ι)) :
    itemsOf items (fs.map (.renumber f)) = itemsOf items fs := by
  induction fs generalizing items with
  | nil => rfl
  | cons x fs ih => exact ih _

theorem changeService_renumber (c : Analysis.Step) :
    (o.renumber f).changeService c =
      ((o.changeService c).1.renumber f, (o.changeService c).2.renumber f) := by
  cases c with
  | release key =>
    simp only [changeService, renumber, releaseAll_renumber, itemsOf_renumber]
    rfl
  | _ => rfl

/-- The numbers of steps when another step is taken before the one of a number. -/
def shift (n k : Nat) : Nat := if k < n then k else k + 1

theorem renumber_shift {n : Nat} (hclock : o.clock = n)
    (htickets : ∀ u ∈ o.unfinished, u.ticket < n) :
    o.renumber (shift n) = { o with clock := n + 1 } := by
  have hunf : o.unfinished.map (.renumber (shift n)) = o.unfinished.map id := by
    refine List.map_congr_left fun u hu => ?_
    simp [Unfinished.renumber, shift, htickets u hu]
  rw [renumber, hunf, List.map_id, hclock, shift, if_neg (Nat.lt_irrefl n)]

variable [DecidableEq ι]

theorem perform_renumber (s : Step ι) :
    (o.renumber f).perform s = ((o.perform s).1.renumber f, (o.perform s).2.renumber f) := by
  cases s with
  | request id file below => exact request_renumber id file below
  | children id index file =>
    have hitems : (o.renumber f).lastItems = o.lastItems := rfl
    simp only [perform, hitems]
    cases o.lastItems[index]? <;> rfl
  | drop id =>
    simp only [perform, drop, renumber, List.filter_map]
    rfl
  | configure value =>
    simp only [perform]
    cases Settings.decode value <;> rfl
  | service c => exact changeService_renumber c
  | _ => rfl

theorem step_renumber (s : Step ι) (hclock : f (o.clock + 1) = f o.clock + 1) :
    (o.renumber f).step s = ((o.step s).1.renumber f, (o.step s).2.renumber f) := by
  have hsame : (o.perform s).1.clock = o.clock := Nat.succ.inj (clock_step s)
  have hnext : f ((o.perform s).1.clock + 1) = f (o.perform s).1.clock + 1 := by rw [hsame, hclock]
  rw [step, perform_renumber]
  simp only [step, renumber, hnext]

/-- **A run does not depend on the numbers of its builds.** -/
theorem run_renumber (ss : List (Step ι)) (hclock : ∀ k, o.clock ≤ k → f (k + 1) = f k + 1) :
    (o.renumber f).run ss = (o.run ss).map fun r => (r.1.renumber f, r.2.renumber f) := by
  induction ss generalizing o with
  | nil => rfl
  | cons s ss ih =>
    have hlater : ∀ k, (o.step s).1.clock ≤ k → f (k + 1) = f k + 1 := by
      intro k hk
      rw [clock_step] at hk
      exact hclock k (Nat.le_of_succ_le hk)
    simp only [run, step_renumber s (hclock _ le_rfl), ih hlater, List.map_cons]

/-! ## Settings in runs -/

/-- The value that is offered as settings. -/
def Step.offered? : Step ι → Option Json
  | .configure value => some value
  | _ => none

theorem settings_after_offers (o : Outline ι) (ss : List (Step ι)) :
    (o.after ss).settings = o.settings.lastOf (ss.filterMap Step.offered?) := by
  rw [settings_after]
  generalize o.settings = settings
  induction ss generalizing settings with
  | nil => rfl
  | cons s ss ih =>
    rw [List.foldl_cons, ih]
    cases s with
    | configure value =>
      rw [List.filterMap_cons_some (show Step.offered? (.configure value) = some value from rfl),
        Settings.lastOf_cons]
      rfl
    | _ => rfl

theorem ticket_lt_of_unfinished (service : Analysis) (settings : Settings) (ss : List (Step ι)) :
    ∀ u ∈ ((ofService service settings : Outline ι).after ss).unfinished,
      u.ticket < ss.length := by
  intro u hu
  by_contra hlt
  have hnone := (run_before service settings ss (Nat.le_of_not_lt hlt)).1
  exact List.filter_eq_nil_iff.mp hnone u hu (by simp)

/-- A value that is refused takes a step and does nothing else. -/
theorem step_refused {v : Json} {e : DecodeError} (h : Settings.decode v = .error e) :
    o.step (.configure v) =
      ({ o with clock := o.clock + 1 }, { result := some (.refused e) }) := by
  simp only [step, perform, h]

/-- **A value that is refused leaves no trace** but the refusal: up to the numbers of the builds of
later steps, the rest of the run is the one without it. -/
theorem run_refused (service : Analysis) (settings : Settings) (ss ts : List (Step ι)) {v : Json}
    {e : DecodeError} (h : Settings.decode v = .error e) :
    let o : Outline ι := ofService service settings
    o.run (ss ++ .configure v :: ts) = o.run ss ++
      ({ result := some (.refused e) }, { o.after ss with clock := ss.length + 1 }) ::
        ((o.after ss).run ts).map fun r =>
          (r.1.renumber (shift ss.length), r.2.renumber (shift ss.length)) := by
  intro o
  have hclock : (o.after ss).clock = ss.length := by
    rw [clock_after]
    exact Nat.zero_add _
  -- no build is known by a number from the refused step on, so only the clock is given anew
  have hrefused := renumber_shift hclock (ticket_lt_of_unfinished service settings ss)
  have hlater := run_renumber (o := o.after ss) (f := shift ss.length) ts fun k hk => by
    rw [hclock] at hk
    simp only [shift]
    split <;> split <;> omega
  rw [run_append, run, step_refused h, hclock, ← hrefused, ← hlater]

end Outline

end TokenOutline
