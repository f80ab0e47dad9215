import TokenOutline.Proofs.Outline.Answer

/-!
# What the outline asks of the service

The service is asked for the vocabulary of a file by a request for the items of that file, once, and
is asked for symbols by the builds of such requests alone. A build starts its lookups when it starts
itself and never again, so what it can wait for later is an answer to one of them.

Headlines:
* `run_buildless`: what a step that starts no build asks of the service.
* **`underWay_of_unfinished`**: an unfinished build has started all its lookups, one of them waits,
  and no failure has reached its turn; opening the gate of one that waits answers a lookup of the
  build.
* **`contact_of_run`**: all that a run asks of the service.
-/

namespace TokenOutline.Outline

variable {ι : Type} [DecidableEq ι] {o : Outline ι} {service : Analysis} {settings : Settings}
  {ss : List (Step ι)} {k : Nat} {id : ι} {file : String} {v : Vocabulary}

/-! ## Steps that start no build -/

/-- A step starts no build. -/
def Buildless (o : Outline ι) (s : Step ι) : Prop :=
  ∀ id file, s = .request id (some file) none → o.service.vocabulary? file = none

/-- What a step that starts no build asks under its ticket. -/
def asked (k : Nat) : Step ι → List Event
  | .request _ (some file) none => [.vocabulary k file]
  | _ => []

omit [DecidableEq ι] in
theorem asked_eq_nil {s : Step ι} (hno : ∀ id file, s ≠ .request id (some file) none) :
    asked k s = [] := by
  cases s with
  | request id file below =>
    cases file with
    | none => rfl
    | some file =>
      cases below with
      | none => exact absurd rfl (hno id file)
      | some item => rfl
  | _ => rfl

/-- What happens in a step happens under its ticket, unless the step opens a gate. -/
theorem ticket_of_step {s : Step ι} (hrelease : ∀ key, s ≠ .service (.release key)) {e : Event}
    (he : e ∈ (o.step s).2.events) : e.ticket = o.clock := by
  have hadds := perform_adds (o := o) s
  cases s with
  | drop id => exact absurd he List.not_mem_nil
  | service x =>
    cases x with
    | release key => exact absurd rfl (hrelease key)
    | _ => exact absurd he List.not_mem_nil
  | _ => exact (hadds (by simp) (by simp)).events e he

omit [DecidableEq ι] in
theorem request_buildless (id : ι) (file : Option String) (below : Option Item)
    (hno : o.Buildless (.request id file below)) :
    (o.request id file below).1.unfinished = o.unfinished ∧
      (o.request id file below).2.events = asked o.clock (.request id file below) := by
  unfold request
  split
  · cases file <;> exact ⟨rfl, rfl⟩
  · exact ⟨rfl, rfl⟩
  · rename_i file
    rw [hno id file rfl]
    exact ⟨rfl, rfl⟩

omit [DecidableEq ι] in
theorem request_ofTicket (id : ι) (file : Option String) (below : Option Item)
    (hno : o.Buildless (.request id file below)) (hnone : o.ofTicket o.clock = []) :
    (o.request id file below).1.ofTicket o.clock = [] ∧
      (o.request id file below).2.events.filter (·.ticket = o.clock) =
        asked o.clock (.request id file below) := by
  obtain ⟨hunf, hev⟩ := request_buildless id file below hno
  have hticket := (adds_request (o := o) id file below).events
  rw [ofTicket, hunf, List.filter_eq_self.mpr fun e he => decide_eq_true (hticket e he)]
  exact ⟨hnone, hev⟩

theorem change_buildless (s : Step ι) (hs : (∃ id, s = .drop id) ∨ ∃ x, s = .service x)
    (hnone : o.ofTicket o.clock = []) :
    (o.step s).1.ofTicket o.clock = [] ∧
      (o.step s).2.events.filter (·.ticket = o.clock) = [] := by
  have hstep := change_ofTicket (o := o) s o.clock hs
  rw [hnone, advance_nil, Prod.mk.injEq, Prod.mk.injEq] at hstep
  exact ⟨hstep.1, hstep.2.2⟩

/-- A step that starts no build leaves none under its ticket, and asks at most for a vocabulary. -/
theorem step_buildless (s : Step ι) (hno : o.Buildless s) (hnone : o.ofTicket o.clock = []) :
    (o.step s).1.ofTicket o.clock = [] ∧
      (o.step s).2.events.filter (·.ticket = o.clock) = asked o.clock s := by
  cases s with
  | request id file below => exact request_ofTicket id file below hno hnone
  | children id index file =>
    cases hitem : o.lastItems[index]? with
    | none =>
      simp only [step, perform, hitem]
      exact ⟨hnone, rfl⟩
    | some item =>
      simp only [step, perform, hitem]
      obtain ⟨hunf, hev⟩ := request_ofTicket id file (some item)
        (fun _ _ h => absurd h (by simp)) hnone
      exact ⟨hunf, hev.trans (asked_eq_nil (by simp))⟩
  | drop id => exact change_buildless _ (.inl ⟨id, rfl⟩) hnone
  | configure value =>
    simp only [step, perform]
    split <;> exact ⟨hnone, rfl⟩
  | service x => exact change_buildless _ (.inr ⟨x, rfl⟩) hnone
  | _ => exact ⟨hnone, rfl⟩

/-- **A step that starts no build** asks in a run at most for a vocabulary, and leaves no build. -/
theorem run_buildless {s : Step ι} (hs : ss[k]? = some s)
    (hno : ((ofService service settings : Outline ι).after (ss.take k)).Buildless s) :
    let o : Outline ι := ofService service settings
    (o.after ss).ofTicket k = [] ∧ o.eventsOf ss k = asked k s := by
  intro o
  obtain ⟨hclock, hunf, hafter, -, hevents⟩ :=
    run_at service settings hs
  obtain ⟨hunf', hev⟩ := step_buildless s hno (hclock.symm ▸ hunf)
  rw [hclock] at hunf' hev
  obtain ⟨hunf'', -, hev'⟩ := run_absent (ss.drop (k + 1)) hunf'
    (.inl (by rw [clock_step, hclock]; exact Nat.lt_succ_self k))
  rw [hafter, hevents, hev, hev', List.append_nil]
  exact ⟨hunf'', rfl⟩

/-! ## Unfinished builds -/

/-- Every unfinished build was started by the step of its ticket. -/
theorem starts_of_unfinished {u : Unfinished ι}
    (hu : u ∈ ((ofService service settings).after ss).unfinished) :
    ∃ file v, Starts (.ofService service settings) ss u.ticket u.id file v := by
  have hmem : u ∈ ((ofService service settings).after ss).ofTicket u.ticket :=
    List.mem_filter.mpr ⟨hu, decide_eq_true rfl⟩
  cases hs : ss[u.ticket]? with
  | none =>
    rw [(run_before service settings ss (List.getElem?_eq_none_iff.mp hs)).1] at hmem
    exact absurd hmem List.not_mem_nil
  | some s =>
    by_cases hno : ((ofService service settings : Outline ι).after (ss.take u.ticket)).Buildless s
    · rw [(run_buildless hs hno).1] at hmem
      exact absurd hmem List.not_mem_nil
    · unfold Buildless at hno
      push Not at hno
      obtain ⟨id, file, rfl, hv⟩ := hno
      obtain ⟨v, hv⟩ := Option.ne_none_iff_exists'.mp hv
      have hstarts : Starts (.ofService service settings) ss u.ticket id file v := ⟨hs, hv⟩
      obtain ⟨life, -, hunf, -⟩ := follows_of_starts hstarts
      rw [hunf] at hmem
      obtain ⟨b, -, hu⟩ := Life.mem_unfinished.mp hmem
      have hid : u.id = id := congrArg Unfinished.id hu
      exact ⟨file, v, hid ▸ hstarts⟩

/-- A build that a run leaves unfinished. It was started by the step of its ticket and has started
all its lookups. One of them waits, so the build does not go on for nothing; its failures are those
of a large build, each held back behind a lookup that waits; and opening the gate of a lookup that
waits answers a lookup of the build. -/
structure UnderWay (o : Outline ι) (ss : List (Step ι)) (u : Unfinished ι) (file : String)
    (v : Vocabulary) : Prop where
  starts : Starts o ss u.ticket u.id file v
  all_started : Build.startsIn (o.historyOf ss u.ticket) = Build.startsOf v.tokens
  waits : ∃ i < v.tokens.length, Build.repliesTo i (o.historyOf ss u.ticket) = []
  held : ∀ i e, .error e ∈ Build.repliesTo i (o.historyOf ss u.ticket) →
    31 ≤ v.tokens.length ∧ ∃ j < i, Build.repliesTo j (o.historyOf ss u.ticket) = []
  answers : ∀ (i : Nat) t, v.tokens[i]? = some t →
    Build.repliesTo i (o.historyOf ss u.ticket) = [] →
      ∃ j r, .lookup u.ticket file (.answered j t.key r) ∈
        ((o.after ss).step (.service (.release t.key))).2.events

/-- **Unfinished builds are under way.** -/
theorem underWay_of_unfinished {u : Unfinished ι}
    (hu : u ∈ ((ofService service settings).after ss).unfinished) :
    ∃ file v, UnderWay (ofService service settings) ss u file v := by
  obtain ⟨file, v, hstarts⟩ := starts_of_unfinished hu
  obtain ⟨life, hlife, hunf, -⟩ := follows_of_starts hstarts
  have hmem : u ∈ ((ofService service settings).after ss).ofTicket u.ticket :=
    List.mem_filter.mpr ⟨hu, decide_eq_true rfl⟩
  obtain ⟨b, rfl, -⟩ := Life.mem_unfinished.mp (hunf ▸ hmem)
  cases hlife with
  | running steps full goes =>
    obtain ⟨-, hall, hwaits, hheld⟩ := Life.pending_spec steps full goes
    refine ⟨file, v, hstarts, hall, hwaits, hheld, fun i t ht hi => ?_⟩
    have htokens : b.tokens = v.tokens := steps.tokens_eq
    have hlt : i < b.slots.length := by
      rw [full, htokens]
      exact (List.getElem?_eq_some_iff.mp ht).1
    obtain ⟨j, r, hjr⟩ := Build.release_answers
      (((ofService service settings).after ss).service.step (.release t.key))
      (steps.records.waits_iff.mpr ⟨hlt, hi⟩) (htokens ▸ ht)
    -- what the release answers in the build is an event of the step
    have hticket : u.ticket < ((ofService service settings).after ss).clock := by
      rw [clock_after]
      exact (List.getElem?_eq_some_iff.mp hstarts.step).1.trans_le (Nat.le_add_left _ _)
    obtain ⟨-, -, hev⟩ := step_life (.service (.release t.key)) hticket.ne hunf
      fun c hc => Life.running.inj hc ▸ steps.file_eq
    have hfilter := hev ▸ List.mem_map_of_mem (f := Event.lookup u.ticket file) hjr
    exact ⟨j, r, (List.mem_filter.mp hfilter).1⟩

/-! ## Runs -/

/-- **All that a run asks of the service.** A step other than a request for the items of a file asks
for nothing, save that the opening of a gate has lookups answered. A request for the items of a file
asks for its vocabulary, once, and for no symbol if there is none. A build starts its lookups in the
step that starts it and in the order of its tokens: those of all of them, or, if it fails in that
step, those up to the one that failed. And every unfinished build is under way. -/
theorem contact_of_run (service : Analysis) (settings : Settings) (ss : List (Step ι)) :
    let o : Outline ι := ofService service settings
    (∀ (k : Nat) s, ss[k]? = some s → (∀ id file, s ≠ .request id (some file) none) →
      o.eventsOf ss k = [] ∧ ((∀ key, s ≠ .service (.release key)) → ∀ e, ¬ o.HappensAt ss k e)) ∧
    (∀ (k : Nat) id file, ss[k]? = some (.request id (some file) none) →
      (o.after (ss.take k)).service.vocabulary? file = none →
        o.eventsOf ss k = [.vocabulary k file]) ∧
    (∀ k id file v, Starts o ss k id file v →
      o.eventsOf ss k = .vocabulary k file :: (o.historyOf ss k).map (.lookup k file) ∧
      Build.startsIn (o.historyOf ss k) = Build.startsIn (o.historyOf (ss.take (k + 1)) k) ∧
      ((∀ f ∈ o.finishedOf (ss.take (k + 1)) k, ∀ err, f.answer ≠ .error err) →
        Build.startsIn (o.historyOf ss k) = Build.startsOf v.tokens) ∧
      ∀ f ∈ o.finishedOf (ss.take (k + 1)) k, ∀ err, f.answer = .error err →
        ∃ (i : Nat) (t : Token), v.tokens[i]? = some t ∧ err.index = i ∧
          Build.startsIn (o.historyOf ss k) = Build.startsOf (v.tokens.take (i + 1))) ∧
    ∀ u ∈ (o.after ss).unfinished, ∃ file v, UnderWay o ss u file v := by
  intro o
  have hnothing : ∀ (k : Nat) s, ss[k]? = some s → (∀ id file, s ≠ .request id (some file) none) →
      o.eventsOf ss k = [] := by
    intro k s hs hno
    have hbuildless : (o.after (ss.take k)).Buildless s := fun id file h => absurd h (hno id file)
    rw [(run_buildless hs hbuildless).2, asked_eq_nil hno]
  refine ⟨fun k s hs hno => ⟨hnothing k s hs hno, fun hrelease e he => ?_⟩,
    fun k id file hs hv => ?_, fun k id file v h => ?_, fun u hu => underWay_of_unfinished hu⟩
  · -- what would happen in the step would happen under its ticket
    have hticket : e.ticket = k := by
      obtain ⟨r, hr, he⟩ := he
      rw [getElem?_run, hs] at hr
      obtain rfl := Option.some.inj hr
      exact (ticket_of_step hrelease he).trans (run_at service settings hs).1
    have hmem := mem_eventsOf.mpr ⟨hticket, k, he⟩
    rw [hnothing k s hs hno] at hmem
    exact absurd hmem List.not_mem_nil
  · refine (run_buildless hs fun id' file' heq => ?_).2
    cases heq
    exact hv
  · obtain ⟨-, -, -, -, hev⟩ := follows_of_starts h
    obtain ⟨hfirst, hall, hsome⟩ := startsIn_of_starts h
    refine ⟨hev, hfirst, hall, fun f hf err herr => ?_⟩
    obtain ⟨i, t, ht, hindex, hstarts⟩ := hsome f hf err herr
    exact ⟨i, t, ht, hindex.trans (Vocabulary.index_tokens ht), hstarts⟩

/-- After one of two answers the build is unfinished, and the other lookup waits. -/
theorem contact_of_run_twoLiterals :
    let o : Outline Nat := ofService closedService .standard
    let ss := [.request 0 (some "g") none, .service (.release "a")]
    (o.after ss).unfinished.map (·.ticket) = [0] ∧
      ∀ u ∈ (o.after ss).unfinished, ∃ file v, UnderWay o ss u file v := by
  intro o ss
  obtain ⟨-, -, -, hunderWay⟩ := contact_of_run closedService .standard ss
  exact ⟨rfl, hunderWay⟩

end TokenOutline.Outline
