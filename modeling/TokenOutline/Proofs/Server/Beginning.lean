import TokenOutline.Proofs.Server.Draining

/-!
# Jobs that are begun

What is done for a job that has just been taken in hand, when nothing else is left to do, comes to
what the session does for it at once (`Session.handle`): a build is started, or what comes of the
job is left for the writer, and the jobs of the requests that it gives up are called.

Headlines:
* `Connection.TakesOver`: the jobs that are called when a session is taken over.
* `Connection.Opens`: a job is about to be begun.
* **`Connection.Opens.begins`**: what it comes to.
-/

namespace TokenOutline.Server.Connection

variable {c : Connection} {unread : List UInt8} {s t : Session} {e : Effects}

/-! ## Calling -/

/-- More jobs have been called: those of the numbers `ns` that are in hand. -/
structure Calls (c : Connection) (ns : List Nat) (d : Connection) : Prop where
  eq : d = { c with called := d.called, again := d.again, awaiting := d.awaiting }
  kept : c.called ⊆ d.called
  new : ∀ h ∈ c.inHand, h.number ∈ ns → h.number ∈ d.called
  length : d.called.length ≤ c.called.length + ns.length

theorem calls_nil (c : Connection) : c.Calls [] c :=
  ⟨rfl, List.Subset.refl _, fun _ _ hx => absurd hx List.not_mem_nil, le_rfl⟩

theorem Calls.trans {d d' : Connection} {ns ms : List Nat} (h : c.Calls ns d) (h' : d.Calls ms d') :
    c.Calls (ns ++ ms) d' := by
  have hhands : d.inHand = c.inHand := by rw [h.eq]
  refine ⟨?_, List.Subset.trans h.kept h'.kept, fun x hx hnumber => ?_, ?_⟩
  · rw [h'.eq, h.eq]
  · rcases List.mem_append.mp hnumber with hnumber | hnumber
    · exact h'.kept (h.new x hx hnumber)
    · exact h'.new x (hhands ▸ hx) hnumber
  · have hlength := h.length
    have hlength' := h'.length
    rw [List.length_append]
    omega

theorem calls_callJob (c : Connection) (n : Nat) : c.Calls [n] (c.callJob n) := by
  unfold callJob
  split
  · refine ⟨rfl, List.subset_append_left _ _, fun x _ hx => ?_, by simp⟩
    simp [List.mem_singleton.mp hx]
  · rename_i hnot
    refine ⟨rfl, List.Subset.refl _, fun x hx hnumber => ?_, by simp⟩
    obtain rfl := List.mem_singleton.mp hnumber
    by_contra hnew
    refine hnot ?_
    simp only [Bool.and_eq_true, List.any_eq_true, Bool.not_eq_true', List.contains_eq_mem,
      decide_eq_false_iff_not]
    exact ⟨⟨x, hx, by simp⟩, hnew⟩

/-- Called are the jobs in hand that have begun and are such as `p` says. -/
theorem calls_callJobs (c : Connection) (p : InHand → Bool) :
    ∃ ns, c.Calls ns (c.callJobs p) ∧ ns.length ≤ c.inHand.length ∧
      ∀ h ∈ c.inHand, p h = true → h.stage ≠ .fresh → h.number ∈ ns := by
  have hfold : ∀ (hs : List InHand) (c : Connection),
      c.Calls (hs.map (·.number)) (hs.foldl (fun c h => c.callJob h.number) c) := by
    intro hs
    induction hs with
    | nil => exact calls_nil
    | cons h hs ih => exact fun c => (calls_callJob c h.number).trans (ih _)
  refine ⟨_, hfold _ c, ?_, fun h hh hp hstage => ?_⟩
  · rw [List.length_map]
    exact List.filter_sublist.length_le
  · refine List.mem_map_of_mem (List.mem_filter.mpr ⟨hh, ?_⟩)
    rw [hp, Bool.true_and]
    split
    · exact absurd ‹_› hstage
    · rfl

/-- What a connection calls when it takes over a session. -/
structure TakesOver (c : Connection) (t : Session) (called : List Nat)
    (again awaiting listening : Bool) : Prop where
  eq : c.withSession t = { c with
    session := t
    called
    again
    awaiting
    notices := { c.notices with listening } }
  length : called.length ≤ c.called.length + c.inHand.length
  /-- The jobs of the requests that the session has given up are called. -/
  covers : ∀ h ∈ c.inHand, h.stage ≠ .fresh → ∀ slot, h.job.slot? = some slot →
    slot ∈ t.givenUp → slot ∉ c.session.givenUp → h.number ∈ called
  same : t.givenUp ⊆ c.session.givenUp → called = c.called
  loud : t.silent = false → listening = c.notices.listening

theorem takesOver_withSession (c : Connection) (t : Session) :
    ∃ called again awaiting listening, c.TakesOver t called again awaiting listening := by
  let p : InHand → Bool := fun h => h.job.slot?.any fun slot =>
    slot ∈ t.givenUp && slot ∉ c.session.givenUp
  obtain ⟨ns, hcalls, hlength, hnew⟩ := calls_callJobs { c with session := t } p
  have hsession : c.withSession t =
      let d := callJobs p { c with session := t }
      if t.silent && !c.session.silent then
        { d with notices := d.notices.call }.callFor d.notices.listening else d := rfl
  rw [hcalls.eq] at hsession
  have hlength := hcalls.length.trans (Nat.add_le_add_left hlength _)
  have hcovers : ∀ h ∈ c.inHand, h.stage ≠ .fresh → ∀ slot, h.job.slot? = some slot →
      slot ∈ t.givenUp → slot ∉ c.session.givenUp →
        h.number ∈ (callJobs p { c with session := t }).called :=
    fun h hh hstage slot hslot hgivenUp hnot =>
      hcalls.new h hh (hnew h hh (by simp [p, hslot, hgivenUp, hnot]) hstage)
  have hnone : t.givenUp ⊆ c.session.givenUp →
      (callJobs p { c with session := t }).called = c.called := by
    intro hsub
    rw [callJobs_of_none fun h _ => ?_]
    cases hslot : h.job.slot? with
    | none => simp [p, hslot]
    | some slot => simpa [p, hslot] using fun hgivenUp => hsub hgivenUp
  cases hsilenced : t.silent && !c.session.silent with
  | true =>
    rw [hsilenced] at hsession
    exact ⟨_, _, _, _, hsession, hlength, hcovers, hnone, fun hloud => by
      simp [hloud] at hsilenced⟩
  | false =>
    rw [hsilenced] at hsession
    exact ⟨_, _, _, _, hsession, hlength, hcovers, hnone, fun _ => rfl⟩

/-! ## A job that is begun -/

/-- A connection that is about to begin a job in hand, and has nothing else to do. -/
structure Opens (c : Connection) (unread : List UInt8) (h : InHand) : Prop
    extends Steady c unread where
  mem : h ∈ c.inHand
  fresh : h.stage = .fresh
  others : ∀ x ∈ c.handsWithout h, x.Light ∧ x.stage ≠ .fresh
  called : c.called = []
  finished : c.finishedResponse = none
  givenUp : c.session.givenUp = []
  loud : c.session.silent = false
  responses : c.HearsResponses
  notices : c.notices = ⟨1, [], [], true⟩
  effects : c.effects = {}
  starts : ∀ slot p, h.job.task = .request slot (.ok (.outline p)) → h.job.starts = false

theorem workOn_fresh {h : InHand} (hstage : h.stage = .fresh) :
    c.workOn h = ((c.withSession (c.session.begin h.job).1).record
      (c.session.begin h.job).2.2).takeProgress h (c.session.begin h.job).2.1 := by
  simp only [workOn, hstage]

/-- What ends with a notice and a response leaves the notice for the writer, who is called by it. -/
theorem takeProgress_ends {h : InHand} (notice : Option Notice) (response : Option Response)
    (hloud : c.session.silent = false) (hnotices : c.notices = ⟨1, [], [], true⟩) :
    c.takeProgress h (.ends notice response) =
      ({ c with
        notices := ⟨1, notice.toList, [], notice.isNone⟩
        again := c.again || notice.isSome } : Connection).finishJob h response := by
  cases notice with
  | none =>
    have hsame : ({ c with notices := ⟨1, [], [], true⟩, again := c.again || false } : Connection) =
        c := by
      rw [← hnotices, Bool.or_false]
    exact congrArg (fun d : Connection => d.finishJob h response) hsame.symm
  | some notice =>
    have hput : c.putNotice h.number notice =
        { c with notices := ⟨1, [notice], [], false⟩, again := c.again || true } := by
      simp [putNotice, callFor, Mailbox.put, hnotices]
    simp [takeProgress, hloud, hput, Mailbox.keeps]

/-- A job that waits. -/
theorem takeProgress_waits {h : InHand} :
    ∃ ns result, c.takeProgress h .waits = result ∧
      (c.setStage h.number .building).Calls ns result.1 ∧ ns.length ≤ 1 ∧
      (result.2 = .waits ∨ result.2 = .yields) := by
  unfold takeProgress
  dsimp only
  split
  · exact ⟨_, _, rfl, calls_callJob _ h.number, le_rfl, .inr rfl⟩
  · exact ⟨[], _, rfl, calls_nil _, Nat.zero_le _, .inl rfl⟩

/-- The build of the job waits. -/
theorem Opens.drains_waits {h : InHand} (hc : c.Opens unread h) {t : Session} {events : List Event}
    (hbegin : c.session.begin h.job = (t, .waits, events)) :
    (({ c with session := t }.record events).setStage h.number .building).Drains unread
      (c.session.handle h.job).1 (c.session.handle h.job).2 := by
  have hwaits : (c.session.begin h.job).2.1 = .waits := by rw [hbegin]
  obtain ⟨slot, p, htask, hgivenUp⟩ := Session.begin_waits hwaits
  have hslot : h.job.slot? = some slot := by simp [Job.slot?, htask]
  have hload := sound_workOn hc.load hc.mem
  have hgates := Session.atGates_begin hc.gates h.job
  have hsilent := Session.silent_begin c.session h.job
  rw [hbegin] at hgivenUp hgates hsilent
  have hnone : t.givenUp = [] := hgivenUp.trans hc.givenUp
  have hhandle : c.session.handle h.job = (t, ⟨[], events⟩) := by
    simp [Session.handle, hbegin, Session.answerGivenUp_nil hnone]
  rw [workOn_fresh hc.fresh, hbegin] at hload
  obtain ⟨ns, result, heq, hcalls, -⟩ :=
    takeProgress_waits (c := (c.withSession t).record events) (h := h)
  rw [heq, hcalls.eq] at hload
  rw [hhandle]
  have hsame : (((c.withSession t).record events).setStage h.number .building).load =
      (({ c with session := t }.record events).setStage h.number .building).load := by
    rw [load_setStage, load_setStage, load_record, load_record, load_withSession]
    rfl
  -- the job waits now, and so do all others
  have hhands : ∀ x ∈ c.inHand.map (·.at h.number .building), x.Light ∧ x.stage ≠ .fresh := by
    intro x hx
    obtain ⟨y, hy, rfl⟩ := List.mem_map.mp hx
    by_cases hnumber : y.number = h.number
    · obtain rfl := List.inj_on_of_nodup_map hc.load.numbers hy hc.mem hnumber
      have hat : (y.at y.number .building).stage = .building := by simp [InHand.at]
      exact ⟨.waits slot hat (by rw [InHand.job_at, hslot])
        (by rw [InHand.job_at]; exact hc.starts slot p htask), by simp [hat]⟩
    · rw [InHand.at, if_neg hnumber]
      exact hc.others y (List.mem_filter.mpr ⟨hy, by simpa using hnumber⟩)
  refine ⟨⟨hsame ▸ hload, hgates, hc.stream, hc.reading, hc.answers, hc.works, fun hended => ?_,
    hc.jobs, hc.responsesRoom, hc.responsesWaiting, hc.noticesRoom, hc.noticesWaiting⟩,
    fun x hx => (hhands x hx).1, fun x hx hneeds => ?_, ?_, ?_, ?_, ?_⟩
  · exact absurd (hc.silent hended).1 (by simp [hc.loud])
  · rcases hneeds with hfresh | ⟨slot, hslot, -⟩
    · exact absurd hfresh (hhands x hx).2
    · change slot ∈ t.givenUp at hslot
      simp [hnone] at hslot
  · change t.givenUp.Nodup
    simp [hnone]
  · change t.answerGivenUp.1 = t
    rw [Session.answerGivenUp_nil hnone]
  · have hgone : t.answerGivenUp.2 = [] := by rw [Session.answerGivenUp_nil hnone]
    simp [setStage, record, owed, hc.effects, hc.finished, hc.responses.1, hc.notices, hgone]
  · simp [setStage, record, hc.effects]

/-! ## What it comes to -/

/-- What a job that is begun comes to, when there are so many in hand. -/
structure Begins (hands : Nat) (unread : List UInt8) (s : Session) (e : Effects)
    (r : Connection × Option (Option Response)) : Prop extends Worked unread s e r where
  left : left { r.1 with finishedResponse := r.2.join } ≤ 3 * hands + 3
  fewer : r.1.inHand.length + r.2.toList.length ≤ hands

/-- The job has come to its end. -/
theorem Opens.begins_ends {h : InHand} (hc : c.Opens unread h) {t : Session}
    {notice : Option Notice} {response : Option Response} {events : List Event}
    (hbegin : c.session.begin h.job = (t, .ends notice response, events)) :
    ∃ d, c.workOn h = (d, .ended response) ∧
      Begins c.inHand.length unread (c.session.handle h.job).1 (c.session.handle h.job).2
        (d, some response) := by
  have hload := sound_workOn hc.load hc.mem
  have hgates := Session.atGates_begin hc.gates h.job
  have hsilent := Session.silent_begin c.session h.job
  have hnodup := Session.nodup_givenUp_begin hc.load.serves.distinct hc.givenUp h.job
  rw [show c.load.session = c.session from rfl, hbegin] at hnodup
  rw [hbegin] at hgates hsilent
  have hloud : t.silent = false := hsilent.trans hc.loud
  obtain ⟨called, again, awaiting, listening, htakes⟩ := takesOver_withSession c t
  have hnotices : ({ c.notices with listening } : Mailbox Nat Notice) = ⟨1, [], [], true⟩ := by
    rw [htakes.loud hloud, hc.notices]
  let d : Connection := { c with
    session := t
    called
    again
    awaiting
    notices := { c.notices with listening } }
  have hwork : c.workOn h = ({ d with
      inHand := c.handsWithout h
      session := t.finish h.job response
      notices := ⟨1, notice.toList, [], notice.isNone⟩
      again := again || notice.isSome
      effects := ⟨[], events⟩ }, .ended response) := by
    rw [workOn_fresh hc.fresh, hbegin]
    dsimp only
    rw [htakes.eq, takeProgress_ends (c := d.record events) notice response hloud hnotices]
    simp only [finishJob]
    rw [withSession_of_subset (Session.givenUp_finish t h.job response).subset
      (Session.silent_finish t h.job response)]
    simp [d, record, handsWithout, hc.effects]
  have hsub := Session.givenUp_finish t h.job response
  rw [hwork] at hload
  refine ⟨_, hwork, ⟨?_, hc.finished, ?_, fun hnone => absurd hnone (by simp)⟩, ?_, ?_⟩
  · refine ⟨⟨hload, Session.atGates_finish hgates h.job response, hc.stream, hc.reading, hc.answers,
      hc.works, fun hended => ?_, hc.jobs, hc.responsesRoom, hc.responsesWaiting, rfl, rfl⟩,
      fun x hx => (hc.others x hx).1, fun x hx hneeds => ?_, hsub.nodup hnodup, ?_, ?_, ?_⟩
    · exact absurd (hc.silent hended).1 (by simp [hc.loud])
    · obtain ⟨hlight, hbegun⟩ := hc.others x hx
      have hmem := (List.mem_filter.mp hx).1
      obtain ⟨slot, hslot, heq⟩ := hneeds.resolve_left hbegun
      exact htakes.covers x hmem hbegun slot heq (hsub.subset hslot) (by simp [hc.givenUp])
    · simp [Session.handle, hbegin]
    · simp [Session.handle, hbegin, owed, d, hc.responses.1, Session.outgoing]
    · simp [Session.handle, hbegin]
  · cases notice with
    | none => exact .inr ⟨hc.responses, rfl⟩
    | some notice => exact .inl (Bool.or_true _)
  · have hcalled := htakes.length
    rw [hc.called, List.length_nil, Nat.zero_add] at hcalled
    have hnotice : notice.toList.length ≤ 1 := by cases notice <;> simp
    have hresponse : response.toList.length ≤ 1 := by cases response <;> simp
    simp only [Connection.left, Connection.unsent, d, hc.responses.1, Option.join_some,
      List.length_nil]
    omega
  · exact (Load.perm_without (l := c.load) hc.load.numbers hc.mem).length_eq.ge

theorem Drains.calls {d : Connection} {ns : List Nat} (hd : c.Drains unread s e)
    (h : c.Calls ns d) : d.Drains unread s e := by
  rw [h.eq]
  exact { hd with called := fun x hx hneeds => h.kept (hd.called x hx hneeds) }

/-- A build has been started, and maybe its job has been called for its next part. -/
structure Started (c : Connection) (unread : List UInt8) (s : Session) (e : Effects)
    (d : Connection) : Prop where
  drains : d.Drains unread s e
  finished : d.finishedResponse = none
  alert : d.Alert
  left : d.left ≤ 3
  hands : d.inHand.length = c.inHand.length

theorem Opens.workOn_waits {h : InHand} (hc : c.Opens unread h) {t : Session} {events : List Event}
    (hbegin : c.session.begin h.job = (t, .waits, events)) :
    ∃ d result, c.workOn h = (d, result) ∧ (result = .waits ∨ result = .yields) ∧
      c.Started unread (c.session.handle h.job).1 (c.session.handle h.job).2 d := by
  have hdrains := hc.drains_waits hbegin
  have hwaits : (c.session.begin h.job).2.1 = .waits := by rw [hbegin]
  obtain ⟨slot, p, -, hgivenUp⟩ := Session.begin_waits hwaits
  have hsilent := Session.silent_begin c.session h.job
  rw [hbegin] at hgivenUp hsilent
  obtain ⟨ns, ⟨d, result⟩, hprogress, hcalls, hlength, hresult⟩ :=
    takeProgress_waits (c := { c with session := t }.record events) (h := h)
  have hwork : c.workOn h = (d, result) := by
    rw [workOn_fresh hc.fresh, hbegin]
    dsimp only
    rw [withSession_of_subset (fun _ hx => hgivenUp ▸ hx) hsilent, hprogress]
  have hd := hdrains.calls hcalls
  obtain ⟨called, again, awaiting, rfl⟩ : ∃ called again awaiting,
      d = { c with
        session := t
        effects := ⟨c.effects.outgoing, c.effects.events ++ events⟩
        inHand := c.inHand.map (·.at h.number .building)
        called
        again
        awaiting } := ⟨_, _, _, hcalls.eq⟩
  have hcalled : called.length ≤ c.called.length + ns.length := hcalls.length
  refine ⟨_, _, hwork, hresult, hd, hc.finished, .inr ⟨hc.responses, ?_⟩, ?_, by simp⟩
  · rw [hc.notices]
  · simp [Connection.left, unsent, hc.finished, hc.responses.1, hc.notices, hc.called] at hcalled ⊢
    omega

/-- What the worker goes on with once a build has been started. -/
theorem Started.begins {d d' : Connection} {r : Connection × Option (Option Response)}
    (h : c.Started unread s e d) (hr : d'.Works unread s e r) (hpos : 0 < c.inHand.length)
    (hleft : d'.left = d.left) (hhands : d'.inHand = d.inHand) :
    Begins c.inHand.length unread s e r := by
  have hlength := hr.hands
  rw [hhands, h.hands] at hlength
  have hmoved := hr.moves.left_le
  rw [hleft] at hmoved
  have hthree := h.left
  exact ⟨hr.toWorked, by omega, hlength⟩

theorem find_number {h : InHand} (hload : c.load.Sound) (hh : h ∈ c.inHand) :
    c.inHand.find? (·.number = h.number) = some h := by
  cases hfind : c.inHand.find? (·.number = h.number) with
  | none =>
    have hne := List.find?_eq_none.mp hfind h hh
    simp at hne
  | some x =>
    have hnumber : x.number = h.number := by simpa using List.find?_some hfind
    rw [List.inj_on_of_nodup_map hload.numbers (List.mem_of_find?_eq_some hfind) hh hnumber]

/-- **A job that is begun comes to all that is handled at once.** -/
theorem Opens.begins {h : InHand} (hc : c.Opens unread h) (fuel inHand : Nat)
    (hfuel : c.inHand.length < fuel) :
    Begins c.inHand.length unread (c.session.handle h.job).1 (c.session.handle h.job).2
      (workOnCalled (fuel + 1) inHand 0 0 { c with called := [h.number] }) := by
  have hpopped : ({ c with called := [] } : Connection) = c := by rw [← hc.called]
  unfold workOnCalled
  simp only [hpopped, find_number hc.load hc.mem]
  generalize hbegin : c.session.begin h.job = begun
  obtain ⟨t, progress, events⟩ := begun
  cases progress with
  | ends notice response =>
    obtain ⟨d, hwork, hbegins⟩ := hc.begins_ends hbegin
    rw [hwork]
    exact hbegins
  | waits =>
    obtain ⟨d, result, hwork, hresult, hstarted⟩ := hc.workOn_waits hbegin
    have hpos := List.length_pos_of_mem hc.mem
    have hcalled : d.called.length < fuel := by
      have hleft := hstarted.left
      unfold Connection.left at hleft
      omega
    have hpauses := hstarted.begins (hstarted.drains.pauses hstarted.finished) hpos rfl rfl
    have hgoes := fun yielded => hstarted.begins
      (hstarted.drains.workOnCalled fuel inHand 1 yielded hstarted.finished hstarted.alert hcalled)
      hpos rfl rfl
    rw [hwork]
    rcases hresult with rfl | rfl
    · simp only [Bool.false_eq_true, if_false]
      split
      · exact hpauses
      · exact hgoes 0
    · simp only [if_true]
      split
      · exact hpauses
      · exact hgoes 1

end TokenOutline.Server.Connection
