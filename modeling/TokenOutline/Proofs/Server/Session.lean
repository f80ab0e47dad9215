import Mathlib.Data.List.Nodup
import TokenOutline.Proofs.Server.Message
import TokenOutline.Proofs.Outline.Request

/-!
# The steps of a session

A session keeps no request that has been given up, is silent only after its end, and has in flight
just the requests whose builds the outline has not finished. Under this invariant every step is one
of eight, and the invariant is the one of all runs.

Headlines:
* `Session.Sound`: the invariant.
* **`Session.Takes`**, **`Session.takes_step`**: all that a step can do.
* **`Session.sound_after`**: every run of a session keeps the invariant.
-/

namespace TokenOutline

/-! ## What a step of the outline leaves unfinished -/

namespace Outline

variable {ι : Type} {o : Outline ι}

/-- A request starts a build, or is answered. -/
theorem request_outcome (o : Outline ι) (id : ι) (file : Option String) (below : Option Item) :
    (∃ b, (o.request id file below).1.unfinished = o.unfinished ++ [⟨id, o.clock, b⟩] ∧
        (o.request id file below).2.finished = []) ∨
      ∃ a, (o.request id file below).1.unfinished = o.unfinished ∧
        (o.request id file below).2.finished = [⟨id, o.clock, a⟩] := by
  unfold request
  split
  · exact .inr ⟨_, rfl, rfl⟩
  · exact .inr ⟨_, rfl, rfl⟩
  · split
    · exact .inr ⟨_, rfl, rfl⟩
    · unfold startBuild
      simp only
      split
      · exact .inr ⟨_, rfl, rfl⟩
      · exact .inl ⟨_, rfl, rfl⟩

/-- The builds that are answered are among those there were. -/
theorem releaseAll_sublist (a : Analysis) (key : String) (us : List (Unfinished ι)) :
    ((releaseAll a key us).2.1.map fun f => (f.id, f.ticket)).Sublist
      (us.map fun u => (u.id, u.ticket)) := by
  induction us with
  | nil => exact .slnil
  | cons u us ih =>
    simp only [releaseAll]
    split
    · exact ih.cons_cons _
    · exact ih.cons _

/-- The builds that go on are those of the requests that are not answered. -/
theorem releaseAll_ids [DecidableEq ι] (a : Analysis) (key : String) (us : List (Unfinished ι))
    (hdistinct : (us.map (·.id)).Nodup) :
    (releaseAll a key us).1.map (·.id) =
      (us.map (·.id)).filter fun id => id ∉ (releaseAll a key us).2.1.map (·.id) := by
  induction us with
  | nil => rfl
  | cons u us ih =>
    rw [List.map_cons, List.nodup_cons] at hdistinct
    obtain ⟨hnew, hdistinct⟩ := hdistinct
    have hne : ∀ id ∈ us.map (·.id), id ≠ u.id := fun id hid heq => hnew (heq ▸ hid)
    cases hout : (u.build.release a key).1.outcome? with
    | some outcome =>
      simp only [releaseAll, hout]
      rw [ih hdistinct, List.map_cons, List.map_cons, List.filter_cons_of_neg (by simp)]
      refine List.filter_congr fun id hid => ?_
      simp [hne id hid]
    | none =>
      simp only [releaseAll, hout]
      have hids := (releaseAll_sublist a key us).map Prod.fst
      simp only [List.map_map] at hids
      have hgoes : u.id ∉ (releaseAll a key us).2.1.map (·.id) := fun h => hnew (hids.subset h)
      rw [List.map_cons, List.map_cons, List.filter_cons_of_pos (by simpa using hgoes),
        ih hdistinct]

/-- A change of the service answers requests whose builds there were, and leaves the others. -/
theorem service_requests [DecidableEq ι] (o : Outline ι) (c : Analysis.Step)
    (hdistinct : (o.unfinished.map (·.id)).Nodup) :
    ((o.step (.service c)).2.finished.map fun f => (f.id, f.ticket)).Sublist
        (o.unfinished.map fun u => (u.id, u.ticket)) ∧
      (o.step (.service c)).1.unfinished.map (·.id) = (o.unfinished.map (·.id)).filter
        fun id => id ∉ (o.step (.service c)).2.finished.map (·.id) := by
  cases c with
  | release key =>
    exact ⟨releaseAll_sublist _ key o.unfinished, releaseAll_ids _ key o.unfinished hdistinct⟩
  | _ => exact ⟨List.nil_sublist _, (List.filter_eq_self.mpr fun _ _ => rfl).symm⟩

/-- A change of the service starts no builds. -/
theorem releaseAll_tickets (a : Analysis) (key : String) (us : List (Unfinished ι)) :
    ∀ u ∈ (releaseAll a key us).1, ∃ v ∈ us, v.ticket = u.ticket := by
  induction us with
  | nil => exact fun u hu => absurd hu List.not_mem_nil
  | cons v us ih =>
    have hlater : ∀ u ∈ (releaseAll a key us).1, ∃ w ∈ v :: us, w.ticket = u.ticket := by
      intro u hu
      obtain ⟨w, hw, heq⟩ := ih u hu
      exact ⟨w, List.mem_cons_of_mem v hw, heq⟩
    intro u hu
    simp only [releaseAll] at hu
    split at hu
    · exact hlater u hu
    · rcases List.mem_cons.mp hu with rfl | hu
      · exact ⟨v, List.mem_cons_self, rfl⟩
      · exact hlater u hu

theorem service_tickets [DecidableEq ι] (o : Outline ι) (c : Analysis.Step) :
    ∀ u ∈ (o.step (.service c)).1.unfinished, ∃ v ∈ o.unfinished, v.ticket = u.ticket := by
  cases c with
  | release key => exact releaseAll_tickets _ key o.unfinished
  | _ => exact fun u hu => ⟨u, hu, rfl⟩

end Outline

/-- What is sent for a request for items that has been answered. -/
def Finished.replies (f : Finished Server.Slot) : List Server.Outgoing :=
  match f.answer with
  | .ok items => [.response ⟨f.id.id, .ok (Server.Session.itemsJson items)⟩]
  | .error e =>
    [.notice (.log .error ("Failed to list lexer symbols: " ++ e.message)),
      .response ⟨f.id.id, .error (.unresolved e)⟩]

namespace Server.Session

variable {s : Session} {msg : Message}

/-! ## The invariant -/

/-- What holds of a session between its steps. -/
structure Sound (s : Session) : Prop where
  /-- Whatever has been given up has been answered. -/
  givenUp : s.givenUp = []
  silent : s.silent = true → s.phase = .exited
  exited : s.phase = .exited → s.inFlight = []
  distinct : (s.inFlight.map (·.id)).Nodup
  /-- The requests in flight are those whose builds have not ended. -/
  builds : s.outline.unfinished.map (·.id) = s.inFlight
  tickets : ∀ u ∈ s.outline.unfinished, u.ticket < s.outline.clock

theorem sound_ofService (service : Analysis) : (ofService service).Sound where
  givenUp := rfl
  silent h := absurd h Bool.false_ne_true
  exited h := Phase.noConfusion h
  distinct := List.nodup_nil
  builds := rfl
  tickets _ hu := absurd hu List.not_mem_nil

theorem Sound.nodup_builds (hs : s.Sound) : (s.outline.unfinished.map (·.id)).Nodup :=
  hs.builds ▸ List.Nodup.of_map _ hs.distinct

/-- No two requests in flight go by one id. -/
theorem Sound.eq_of_id (hs : s.Sound) {x y : Slot} (hx : x ∈ s.inFlight) (hy : y ∈ s.inFlight)
    (h : x.id = y.id) : x = y := List.inj_on_of_nodup_map hs.distinct hx hy h

theorem Sound.not_silent (hs : s.Sound) (hphase : s.phase ≠ .exited) : s.silent = false := by
  by_contra h
  exact hphase (hs.silent (by simpa using h))

/-! ## What a step can do -/

/-- The outline takes a step, the requests that it answers are answered, and those whose builds it
has not finished are in flight. -/
def follow (s : Session) (x : Outline.Step Slot) : Session × Effects :=
  let (outline, report) := s.outline.step x
  ({ s with outline, inFlight := outline.unfinished.map (·.id) },
    ⟨report.finished.flatMap Finished.replies, report.events⟩)

/-- The step of the outline that a request for items is. -/
def listing (s : Session) (slot : Slot) (p : Editor.OutlineParams) : Outline.Step Slot :=
  .request slot ((s.documentOf p).map Url.fileName) (p.item.map (·.toItem))

/-- What is sent for a request that has been given up. -/
def cancellation (slot : Slot) : Outgoing := .response ⟨slot.id, .error .canceled⟩

/-- What a step of a sound session can do. -/
inductive Takes (s : Session) : Step → Session → Option Effects → Prop where
  | idle : Takes s .idle s (some {})
  /-- The service changes. -/
  | serves (c : Analysis.Step) :
      Takes s (.service c) (s.follow (.service c)).1 (some (s.follow (.service c)).2)
  /-- A message comes after the end of the session. -/
  | late (msg : Message) (hphase : s.phase = .exited)
      (hhandled : s.handled? (.receive msg) = none) : Takes s (.receive msg) s none
  /-- A message tells something of the documents or the settings. -/
  | heeds (msg : Message) (call : Call) (hhandled : s.handled? (.receive msg) = some call) :
      Takes s (.receive msg) (s.notified call).1
        (some ⟨(s.notified call).2.toList.map .notice, []⟩)
  /-- A message asks for items. -/
  | lists (msg : Message) (slot : Slot) (p : Editor.OutlineParams)
      (hasked : s.asked? (.receive msg) = some (slot, p))
      (hhandled : s.handled? (.receive msg) = none) :
      Takes s (.receive msg)
        { (s.follow (s.listing slot p)).1 with nextSerial := s.nextSerial + 1 }
        (some (s.follow (s.listing slot p)).2)
  /-- A message gives a request up. -/
  | cancels (msg : Message) (id : MessageId) (hphase : s.phase ≠ .exited)
      (hcancels : msg.cancels? = some id) (hhandled : s.handled? (.receive msg) = none) :
      Takes s (.receive msg)
        { s with
          outline := { s.outline with
            unfinished := s.outline.unfinished.filter (·.id.id ≠ id) }
          inFlight := s.inFlight.filter (·.id ≠ id) }
        (some ⟨(s.inFlight.filter (·.id = id)).map cancellation, []⟩)
  /-- A message ends the session. -/
  | exits (msg : Message) (hphase : s.phase ≠ .exited) (hexit : msg.method = "exit")
      (hhandled : s.handled? (.receive msg) = none) :
      Takes s (.receive msg)
        { s with
          phase := .exited
          outline := { s.outline with unfinished := [] }
          inFlight := []
          silent := true }
        (some ⟨s.inFlight.map cancellation, []⟩)
  /-- Any other message is answered, or greeted, or left alone. -/
  | answers (msg : Message) (phase : Phase) (serial : Nat) (sent : List Outgoing)
      (hphase : s.phase ≠ .exited) (hphase' : phase ≠ .exited) (hserial : s.nextSerial ≤ serial)
      (hhandled : s.handled? (.receive msg) = none) (hasked : s.asked? (.receive msg) = none)
      (hcancels : msg.cancels? = none) (hexit : msg.method ≠ "exit")
      (hsent : ∀ o ∈ sent, (∃ text, o = .notice (.log .info text)) ∨
        ∃ r, o = .response r ∧ msg.id = some r.id) :
      Takes s (.receive msg) { s with phase, nextSerial := serial } (some ⟨sent, []⟩)

/-! ## The parts of a step -/

theorem foldl_settle (slots : List Slot) (s : Session) :
    slots.foldl settle s =
      { s with
        outline := { s.outline with
          unfinished := s.outline.unfinished.filter (·.id ∉ slots) }
        inFlight := s.inFlight.filter fun x => x.id ∉ slots.map (·.id)
        givenUp := s.givenUp.filter (· ∉ slots) } := by
  induction slots generalizing s with
  | nil => simp [List.filter_true]
  | cons slot slots ih =>
    rw [List.foldl_cons, ih]
    simp [settle, Outline.drop, List.filter_filter, not_or, Bool.and_comm, -List.mem_map]

/-- Answering requests leaves in flight those whose builds go on, if their builds do not. -/
theorem settle_all (done : List Slot) (hgivenUp : s.givenUp = [])
    (hdistinct : (s.inFlight.map (·.id)).Nodup) (hdone : done ⊆ s.inFlight)
    (hbuilds : s.outline.unfinished.map (·.id) = s.inFlight.filter (· ∉ done)) :
    done.foldl settle s = { s with inFlight := s.outline.unfinished.map (·.id) } := by
  have hunf : s.outline.unfinished.filter (·.id ∉ done) = s.outline.unfinished := by
    refine List.filter_eq_self.mpr fun u hu => ?_
    have := hbuilds ▸ List.mem_map_of_mem (f := Unfinished.id) hu
    exact (List.mem_filter.mp this).2
  have hflight : s.inFlight.filter (fun x => x.id ∉ done.map (·.id)) =
      s.inFlight.filter (· ∉ done) := by
    refine List.filter_congr fun x hx => ?_
    have hiff : x.id ∈ done.map (·.id) ↔ x ∈ done := by
      constructor
      · intro h
        obtain ⟨y, hy, heq⟩ := List.mem_map.mp h
        exact List.inj_on_of_nodup_map hdistinct (hdone hy) hx heq ▸ hy
      · exact fun h => List.mem_map_of_mem h
    simp only [hiff]
  rw [foldl_settle, hunf, hflight, hbuilds, hgivenUp]
  rfl

theorem answerGivenUp_nil (h : s.givenUp = []) : s.answerGivenUp = (s, []) := by
  simp [answerGivenUp, h]

theorem outcome_eq (f : Finished Slot) (hsilent : s.silent = false) :
    ∃ notice response, s.outcome f = .ends notice response ∧
      outgoing notice response = f.replies := by
  unfold outcome Finished.replies
  cases f.answer with
  | ok items => exact ⟨_, _, rfl, rfl⟩
  | error e => exact ⟨_, _, rfl, by simp [log, hsilent, outgoing]⟩

theorem answerAll_eq (fs : List (Finished Slot)) (hsilent : fs ≠ [] → s.silent = false) :
    s.answerAll fs = ((fs.map (·.id)).foldl settle s, fs.flatMap Finished.replies) := by
  induction fs generalizing s with
  | nil => rfl
  | cons f fs ih =>
    have hsilent : s.silent = false := hsilent (List.cons_ne_nil f fs)
    obtain ⟨notice, response, hends, hout⟩ := outcome_eq f hsilent
    have hnext : (s.settle f.id).silent = false := hsilent
    simp only [answerAll, answer, hends, ih fun _ => hnext, hout, List.map_cons, List.foldl_cons,
      List.flatMap_cons]

/-! ## The steps -/

/-- A change of the service answers requests in flight, and the others stay so. -/
theorem Sound.service_requests (hs : s.Sound) (c : Analysis.Step) :
    ((s.outline.step (.service c)).2.finished.map (·.id)).Sublist s.inFlight ∧
      (s.outline.step (.service c)).1.unfinished.map (·.id) =
        s.inFlight.filter (· ∉ (s.outline.step (.service c)).2.finished.map (·.id)) := by
  obtain ⟨hsub, hleft⟩ := Outline.service_requests s.outline c hs.nodup_builds
  have hdone := hsub.map Prod.fst
  rw [List.map_map, List.map_map] at hdone
  exact ⟨hs.builds ▸ hdone, hs.builds ▸ hleft⟩

theorem changeService_eq (hs : s.Sound) (c : Analysis.Step) :
    s.changeService c = s.follow (.service c) := by
  obtain ⟨hsub, hleft⟩ := hs.service_requests c
  have hdone := hsub.subset
  have hsilent : (s.outline.step (.service c)).2.finished ≠ [] → s.silent = false := by
    intro hne
    refine hs.not_silent fun hexited => hne ?_
    rwa [hs.exited hexited, List.subset_nil, List.map_eq_nil_iff] at hdone
  let changed : Session := { s with outline := (s.outline.step (.service c)).1 }
  have hanswers := answerAll_eq (s := changed) (s.outline.step (.service c)).2.finished hsilent
  rw [settle_all (s := changed) _ hs.givenUp hs.distinct hdone hleft] at hanswers
  exact congrArg (fun r : Session × List Outgoing =>
    (r.1, Effects.mk r.2 (s.outline.step (.service c)).2.events)) hanswers

/-- Doing what a message asks for, when it comes to an end at once. -/
theorem receive_of_ends {s₁ s₂ : Session} {j : Job} {notice : Option Notice}
    {response : Option Response} {events : List Event} (hphase : s.phase ≠ .exited)
    (haccept : s.accept msg = (s₁, j))
    (hbegin : s₁.begin j = (s₂, .ends notice response, events)) :
    s.step (.receive msg) =
      (((s₂.finish j response).answerGivenUp).1,
        some ⟨outgoing notice response ++ (s₂.finish j response).answerGivenUp.2, events⟩) := by
  simp only [step, receive, if_neg hphase, haccept, hbegin]

theorem receive_of_settled {s₁ s₂ : Session} {j : Job} {notice : Option Notice}
    {response : Option Response} {events : List Event} (hphase : s.phase ≠ .exited)
    (haccept : s.accept msg = (s₁, j))
    (hbegin : s₁.begin j = (s₂, .ends notice response, events))
    (hgivenUp : (s₂.finish j response).givenUp = []) :
    s.step (.receive msg) = (s₂.finish j response, some ⟨outgoing notice response, events⟩) := by
  rw [receive_of_ends hphase haccept hbegin, answerGivenUp_nil hgivenUp, List.append_nil]

/-- Doing what a message asks for, when it comes to no end yet. -/
theorem receive_of_waits {s₁ s₂ : Session} {j : Job} {events : List Event}
    (hphase : s.phase ≠ .exited) (haccept : s.accept msg = (s₁, j))
    (hbegin : s₁.begin j = (s₂, .waits, events)) (hgivenUp : s₂.givenUp = []) :
    s.step (.receive msg) = (s₂, some ⟨[], events⟩) := by
  simp only [step, receive, if_neg hphase, haccept, hbegin, answerGivenUp_nil hgivenUp,
    List.append_nil]

/-- What a notification asks for is done to the documents, the settings and the count of changes. -/
theorem notified_eq {call : Call} (h : ∀ id, call ≠ .cancel id) :
    ∃ documents outline, (s.notified call).1 = { s with documents, outline } ∧
      outline.unfinished = s.outline.unfinished ∧ outline.service = s.outline.service ∧
        s.outline.clock ≤ outline.clock := by
  cases call with
  | settings v =>
    simp only [notified, takeSettings]
    cases Settings.decode v with
    | ok settings =>
      have hunf : (s.outline.step (.configure v)).1.unfinished = s.outline.unfinished := by
        simp only [Outline.step, Outline.perform]
        split <;> rfl
      refine ⟨s.documents, ((s.outline.step (.configure v)).1.step .refresh).1, rfl, hunf, ?_, ?_⟩
      · rw [Outline.service_step, Outline.service_step]
        rfl
      · rw [Outline.clock_step, Outline.clock_step]
        omega
    | error e => exact ⟨s.documents, s.outline, rfl, rfl, rfl, le_rfl⟩
  | closed u =>
    simp only [notified, close]
    split
    · exact ⟨_, _, rfl, rfl, rfl, Nat.le_succ _⟩
    · exact ⟨_, s.outline, rfl, rfl, rfl, le_rfl⟩
  | activated u =>
    simp only [notified, activate]
    split
    · exact ⟨s.documents, s.outline, rfl, rfl, rfl, le_rfl⟩
    · exact ⟨_, _, rfl, rfl, rfl, Nat.le_succ _⟩
  | cancel id => exact absurd rfl (h id)
  | opened u => exact ⟨_, _, rfl, rfl, rfl, Nat.le_succ _⟩
  | changed u => exact ⟨s.documents, _, rfl, rfl, rfl, Nat.le_succ _⟩
  | saved u => exact ⟨s.documents, _, rfl, rfl, rfl, Nat.le_succ _⟩
  | _ => exact ⟨s.documents, s.outline, rfl, rfl, rfl, le_rfl⟩

theorem ne_cancel_of_handled {call : Call} (h : s.handled? (.receive msg) = some call)
    (id : MessageId) : call ≠ .cancel id := by
  rintro rfl
  exact Message.heeded?_ne_cancel id (Option.ite_none_right_eq_some.mp h).2

theorem step_of_handled (hs : s.Sound) {call : Call}
    (hhandled : s.handled? (.receive msg) = some call) :
    s.step (.receive msg) =
      ((s.notified call).1, some ⟨(s.notified call).2.toList.map .notice, []⟩) := by
  have hphase : s.phase ≠ .exited := by
    intro hphase
    simp [handled?, hphase] at hhandled
  obtain ⟨documents, outline, heq, -, -⟩ := notified_eq (s := s) (ne_cancel_of_handled hhandled)
  have hgivenUp : (s.notified call).1.givenUp = [] := by rw [heq, hs.givenUp]
  have hbegin : s.begin ⟨.notify call, false⟩ =
    ((s.notified call).1, .ends (s.notified call).2 none, []) := rfl
  rw [receive_of_settled hphase (accept_of_handled hhandled) hbegin hgivenUp]
  simp [finish, Job.slot?, outgoing]

/-- A request that is answered leaves nothing behind but the number of the next one. -/
theorem settle_entered {slot : Slot} {n : Nat} (hgivenUp : s.givenUp = [])
    (hdistinct : (s.inFlight.map (·.id)).Nodup) (hnew : ∀ x ∈ s.inFlight, x.id ≠ slot.id)
    (outline : Outline Slot) (hbuilds : outline.unfinished.map (·.id) = s.inFlight) :
    settle { s with outline, inFlight := s.inFlight ++ [slot], nextSerial := n } slot =
      { s with outline, nextSerial := n } := by
  let entered : Session :=
    { s with outline, inFlight := s.inFlight ++ [slot], nextSerial := n }
  have hdistinct : (entered.inFlight.map (·.id)).Nodup := by
    rw [List.map_append, List.nodup_append]
    refine ⟨hdistinct, List.nodup_singleton _, ?_⟩
    simpa using hnew
  have hleft : outline.unfinished.map (·.id) =
      entered.inFlight.filter (· ∉ [slot]) := by
    have hne : ∀ x ∈ s.inFlight, x ≠ slot := fun x hx heq => hnew x hx (congrArg Slot.id heq)
    rw [hbuilds, List.filter_append, List.filter_eq_self.mpr (by simpa using hne)]
    simp
  have h := settle_all (s := entered) [slot] hgivenUp hdistinct (by simp [entered]) hleft
  refine h.trans ?_
  simp [entered, hbuilds]

theorem listing_outcome (s : Session) (slot : Slot) (p : Editor.OutlineParams) :
    let r := s.outline.step (s.listing slot p)
    (∃ b, r.1.unfinished = s.outline.unfinished ++ [⟨slot, s.outline.clock, b⟩] ∧
        r.2.finished = []) ∨
      ∃ a, r.1.unfinished = s.outline.unfinished ∧
        r.2.finished = [⟨slot, s.outline.clock, a⟩] :=
  s.outline.request_outcome slot ((s.documentOf p).map Url.fileName)
    (p.item.map Editor.Item.toItem)

theorem step_of_asked (hs : s.Sound) {slot : Slot} {p : Editor.OutlineParams}
    (hasked : s.asked? (.receive msg) = some (slot, p)) :
    s.step (.receive msg) =
      ({ (s.follow (s.listing slot p)).1 with nextSerial := s.nextSerial + 1 },
        some (s.follow (s.listing slot p)).2) := by
  obtain ⟨hphase, -, -, hnew⟩ := asked?_eq_some_iff.mp hasked
  have hphase' : s.phase ≠ .exited := by simp [hphase]
  have hsilent := hs.not_silent hphase'
  let entered : Session :=
    { s with inFlight := s.inFlight ++ [slot], nextSerial := s.nextSerial + 1 }
  let outline := (s.outline.step (s.listing slot p)).1
  let report := (s.outline.step (s.listing slot p)).2
  have hbegin : entered.begin ⟨.request slot (.ok (.outline p)), false⟩ =
      ({ entered with outline }, entered.progress report, report.events) := by
    simp only [begin, entered, hs.givenUp, requested, List.not_mem_nil, if_false]
    rfl
  obtain ⟨b, hunf, hfin⟩ | ⟨a, hunf, hfin⟩ := listing_outcome s slot p
  · -- the build waits, and the request stays in flight
    have hwaits : entered.progress report = .waits := by simp only [progress, report, hfin]
    rw [hwaits] at hbegin
    rw [receive_of_waits hphase' (accept_of_asked hasked) hbegin hs.givenUp]
    simp [follow, hfin, hunf, hs.builds, entered, outline, report]
  · -- the request is answered at once
    obtain ⟨notice, response, hends, hout⟩ := outcome_eq (s := entered)
      ⟨slot, s.outline.clock, a⟩ hsilent
    have hprogress : entered.progress report = .ends notice response := by
      simp only [progress, report, hfin, hends]
    rw [hprogress] at hbegin
    have hbuilds : outline.unfinished.map (·.id) = s.inFlight := by rw [hunf, hs.builds]
    have hfinish : finish { entered with outline }
        ⟨.request slot (.ok (.outline p)), false⟩ response =
          { s with outline, nextSerial := s.nextSerial + 1 } :=
      settle_entered hs.givenUp hs.distinct hnew outline hbuilds
    rw [receive_of_settled hphase' (accept_of_asked hasked) hbegin (by rw [hfinish, hs.givenUp]),
      hfinish, hout]
    simp [follow, hfin, hbuilds, outline, report]

theorem step_of_cancels (hs : s.Sound) {id : MessageId} (hphase : s.phase ≠ .exited)
    (hcancels : msg.cancels? = some id) :
    s.step (.receive msg) =
      ({ s with
          outline := { s.outline with
            unfinished := s.outline.unfinished.filter (·.id.id ≠ id) }
          inFlight := s.inFlight.filter (·.id ≠ id) },
        some ⟨(s.inFlight.filter (·.id = id)).map cancellation, []⟩) := by
  have hgivenUp : (s.giveUp id).givenUp = s.inFlight.filter (·.id = id) := by
    simp [giveUp, hs.givenUp]
  have hunf : s.outline.unfinished.filter (·.id ∉ s.inFlight.filter (·.id = id)) =
      s.outline.unfinished.filter (·.id.id ≠ id) := by
    refine List.filter_congr fun u hu => ?_
    have hmem : u.id ∈ s.inFlight := hs.builds ▸ List.mem_map_of_mem hu
    simp [hmem]
  have hflight : (s.inFlight.filter (·.id ≠ id)).filter
      (fun x => x.id ∉ (s.inFlight.filter (·.id = id)).map (·.id)) =
        s.inFlight.filter (·.id ≠ id) := by
    refine List.filter_eq_self.mpr fun x hx => ?_
    have hne := (List.mem_filter.mp hx).2
    simp only [List.mem_map, List.mem_filter, decide_eq_true_eq] at hne ⊢
    rintro ⟨y, ⟨-, hy⟩, heq⟩
    exact hne (heq ▸ hy)
  have hnone : (s.inFlight.filter (·.id = id)).filter
      (· ∉ s.inFlight.filter (·.id = id)) = [] :=
    List.filter_eq_nil_iff.mpr fun x hx => by simpa using hx
  have hbegin : s.begin ⟨.notify (.cancel id), false⟩ = (s.giveUp id, .ends none none, []) := rfl
  rw [receive_of_ends hphase (accept_of_cancels hcancels) hbegin]
  have hfinish : (s.giveUp id).finish ⟨.notify (.cancel id), false⟩ none = s.giveUp id := rfl
  rw [hfinish, answerGivenUp, foldl_settle, hgivenUp, hnone]
  simp only [giveUp, hunf, hflight, hs.givenUp]
  rfl

theorem step_of_exit (hs : s.Sound) (hphase : s.phase ≠ .exited) (hexit : msg.method = "exit") :
    s.step (.receive msg) =
      ({ s with
          phase := .exited
          outline := { s.outline with unfinished := [] }
          inFlight := []
          silent := true },
        some ⟨s.inFlight.map cancellation, []⟩) := by
  have hgivenUp : s.exit.givenUp = s.inFlight := by simp [exit, hs.givenUp]
  have hunf : s.outline.unfinished.filter (·.id ∉ s.inFlight) = [] :=
    List.filter_eq_nil_iff.mpr fun u hu => by
      have hmem : u.id ∈ s.inFlight := hs.builds ▸ List.mem_map_of_mem hu
      simp [hmem]
  have hnone : s.inFlight.filter (· ∉ s.inFlight) = [] :=
    List.filter_eq_nil_iff.mpr fun x hx => by simpa using hx
  have hbegin : s.exit.begin ⟨.none, false⟩ = (s.exit, .ends none none, []) := rfl
  have hfinish : s.exit.finish ⟨.none, false⟩ none = s.exit := rfl
  rw [receive_of_ends hphase (accept_exit hexit) hbegin, hfinish, answerGivenUp, foldl_settle,
    hgivenUp, hnone]
  simp only [exit, hunf, List.filter_nil, hs.givenUp]
  rfl

/-- A request of another method is answered as soon as it is begun. -/
theorem begin_other (slot : Slot) {call : Except Refusal Call} (starts : Bool)
    (hgivenUp : s.givenUp = []) (hcall : ∀ p, call ≠ .ok (.outline p)) :
    ∃ result, s.begin ⟨.request slot call, starts⟩ =
      (s, .ends none (some ⟨slot.id, result⟩), []) := by
  simp only [begin, hgivenUp, List.not_mem_nil, if_false]
  cases call with
  | error why => exact ⟨_, rfl⟩
  | ok call =>
    cases call with
    | outline p => exact absurd rfl (hcall p)
    | _ => exact ⟨_, rfl⟩

/-- A job that may settle the phase. -/
theorem finish_eq (j : Job) (response : Option Response) :
    s.finish j response =
      let settled := j.slot?.elim s s.settle
      { settled with phase := if j.starts then phaseAfter response else s.phase } := by
  unfold finish
  cases j.slot? <;> cases j.starts <;> rfl

theorem phase_finish (starts : Bool) {phase : Phase} (response : Option Response)
    (hphase : phase ≠ .exited) : (if starts then phaseAfter response else phase) ≠ .exited := by
  cases starts with
  | false => exact hphase
  | true =>
    unfold phaseAfter
    simp only [if_true]
    split <;> decide

theorem takes_of_other (hs : s.Sound) (hphase : s.phase ≠ .exited) (hexit : msg.method ≠ "exit")
    (hcancels : msg.cancels? = none) (hhandled : s.handled? (.receive msg) = none)
    (hasked : s.asked? (.receive msg) = none) :
    s.Takes (.receive msg) (s.step (.receive msg)).1 (s.step (.receive msg)).2 := by
  have hother := accept_other hexit hcancels hhandled hasked
  have hup : ∀ phase, phase = s.phase ∨ phase = .shutDown → phase ≠ .exited := by
    rintro phase (rfl | rfl)
    · exact hphase
    · decide
  generalize haccept : s.accept msg = accepted at hother
  obtain ⟨s₁, j⟩ := accepted
  cases hother with
  | enters phase slot call starts hphase' hid hserial hnew hcall =>
    let entered : Session :=
      { s with phase, inFlight := s.inFlight ++ [slot], nextSerial := s.nextSerial + 1 }
    obtain ⟨result, hbegin⟩ := begin_other (s := entered) slot starts hs.givenUp hcall
    have hsettle : entered.settle slot = { s with phase, nextSerial := s.nextSerial + 1 } :=
      settle_entered (s := { s with phase }) hs.givenUp hs.distinct hnew s.outline hs.builds
    have hfinish := finish_eq (s := entered) ⟨.request slot call, starts⟩ (some ⟨slot.id, result⟩)
    simp only [Job.slot?, Option.elim_some, hsettle] at hfinish
    rw [receive_of_settled hphase haccept hbegin (by rw [hfinish]; exact hs.givenUp), hfinish]
    refine .answers msg _ (s.nextSerial + 1) _ hphase (phase_finish starts _ (hup phase hphase'))
      (Nat.le_succ _) hhandled hasked hcancels hexit ?_
    simp [outgoing, hid]
  | refuses phase id why starts hphase' hid =>
    have hbegin : begin { s with phase } ⟨.refuse id why, starts⟩ =
      ({ s with phase }, .ends none (some ⟨id, .error why⟩), []) := rfl
    rw [receive_of_settled hphase haccept hbegin (by simp [finish_eq, Job.slot?, hs.givenUp]),
      finish_eq]
    refine .answers msg _ s.nextSerial _ hphase (phase_finish starts _ (hup phase hphase'))
      le_rfl hhandled hasked hcancels hexit ?_
    simp [outgoing, hid]
  | hears call hcall =>
    have hsilent : s₁.silent = false := hs.not_silent hphase
    obtain ⟨notice, hbegin, hnotice⟩ : ∃ notice : Option Notice,
        s₁.begin ⟨.notify call, false⟩ = (s₁, .ends notice none, []) ∧
          ∀ n ∈ notice, ∃ text, n = .log .info text := by
      obtain rfl | rfl := hcall
      · exact ⟨s₁.log .info "lexer-symbols-lsp initialized", rfl, by simp [log, hsilent]⟩
      · exact ⟨none, rfl, by simp⟩
    rw [receive_of_settled hphase haccept hbegin hs.givenUp]
    refine .answers msg s₁.phase s₁.nextSerial _ hphase hphase le_rfl hhandled hasked hcancels
      hexit ?_
    intro o ho
    simp only [outgoing, Option.toList_none, List.map_nil, List.append_nil, List.mem_map,
      Option.mem_toList] at ho
    obtain ⟨n, hn, rfl⟩ := ho
    obtain ⟨text, rfl⟩ := hnotice n hn
    exact .inl ⟨text, rfl⟩
  | ignores phase starts hphase' =>
    have hbegin : begin { s with phase } ⟨.none, starts⟩ =
      ({ s with phase }, .ends none none, []) := rfl
    rw [receive_of_settled hphase haccept hbegin (by simp [finish_eq, Job.slot?, hs.givenUp]),
      finish_eq]
    exact .answers msg _ s.nextSerial _ hphase (phase_finish starts _ (hup phase hphase'))
      le_rfl hhandled hasked hcancels hexit (by simp [outgoing])

/-- **A step of a sound session** is one of eight. -/
theorem takes_step (hs : s.Sound) (x : Step) : s.Takes x (s.step x).1 (s.step x).2 := by
  cases x with
  | idle => exact .idle
  | service c =>
    simp only [step, changeService_eq hs c]
    exact .serves c
  | receive msg =>
    by_cases hphase : s.phase = .exited
    · simp only [step, receive, if_pos hphase]
      exact .late msg hphase (handled?_of_exited hphase)
    by_cases hexit : msg.method = "exit"
    · rw [step_of_exit hs hphase hexit]
      exact .exits msg hphase hexit (handled?_eq_none (Message.heeded?_of_method (.inl hexit)))
    cases hcancels : msg.cancels? with
    | some id =>
      have hmethod := (Message.cancels?_eq_some_iff.mp hcancels).1
      rw [step_of_cancels hs hphase hcancels]
      exact .cancels msg id hphase hcancels
        (handled?_eq_none (Message.heeded?_of_method (.inr hmethod)))
    | none =>
      cases hhandled : s.handled? (.receive msg) with
      | some call =>
        rw [step_of_handled hs hhandled]
        exact .heeds msg call hhandled
      | none =>
        cases hasked : s.asked? (.receive msg) with
        | some asked =>
          rw [step_of_asked hs hasked]
          exact .lists msg asked.1 asked.2 hasked hhandled
        | none => exact takes_of_other hs hphase hexit hcancels hhandled hasked

/-! ## The invariant in runs -/

theorem Takes.sound {x : Step} {s' : Session} {e : Option Effects} (h : s.Takes x s' e)
    (hs : s.Sound) : s'.Sound := by
  cases h with
  | idle => exact hs
  | serves c =>
    obtain ⟨-, hleft⟩ := hs.service_requests c
    refine ⟨hs.givenUp, hs.silent, fun hphase => ?_, ?_, rfl, fun u hu => ?_⟩
    · exact hleft.trans (by rw [hs.exited hphase, List.filter_nil])
    · exact (hleft ▸ List.filter_sublist.map Slot.id).nodup hs.distinct
    · obtain ⟨v, hv, heq⟩ := Outline.service_tickets s.outline c u hu
      rw [follow, Outline.clock_step, ← heq]
      exact (hs.tickets v hv).trans (Nat.lt_succ_self _)
  | late msg hphase => exact hs
  | heeds msg call hhandled =>
    obtain ⟨documents, outline, heq, hunf, -, hclock⟩ :=
      notified_eq (s := s) (ne_cancel_of_handled hhandled)
    rw [heq]
    exact ⟨hs.givenUp, hs.silent, hs.exited, hs.distinct, by rw [hunf, hs.builds],
      fun u hu => (hs.tickets u (hunf ▸ hu)).trans_le hclock⟩
  | lists msg slot p hasked =>
    obtain ⟨hphase, -, -, hnew⟩ := asked?_eq_some_iff.mp hasked
    have hup : s.phase ≠ .exited := by simp [hphase]
    have hpast : ∀ u ∈ s.outline.unfinished, u.ticket < s.outline.clock + 1 := fun u hu =>
      (hs.tickets u hu).trans (Nat.lt_succ_self _)
    have hclock := Outline.clock_step (o := s.outline) (s.listing slot p)
    obtain ⟨b, hunf, -⟩ | ⟨a, hunf, -⟩ := listing_outcome s slot p
    · -- the request joins those in flight
      refine ⟨hs.givenUp, hs.silent, fun hexited => absurd hexited hup, ?_, rfl, fun u hu => ?_⟩
      · simp only [follow]
        rw [hunf, List.map_append, hs.builds, List.map_append, List.nodup_append]
        refine ⟨hs.distinct, List.nodup_singleton _, ?_⟩
        simpa using hnew
      · rw [follow, hclock]
        rcases List.mem_append.mp (hunf ▸ hu) with hu | hu
        · exact hpast u hu
        · obtain rfl := List.mem_singleton.mp hu
          exact Nat.lt_succ_self _
    · -- the request is answered, and none has joined
      refine ⟨hs.givenUp, hs.silent, fun hexited => absurd hexited hup, ?_, rfl, fun u hu => ?_⟩
      · simp only [follow]
        rw [hunf, hs.builds]
        exact hs.distinct
      · rw [follow, hclock]
        exact hpast u (hunf ▸ hu)
  | cancels msg id hphase hcancels =>
    refine ⟨hs.givenUp, hs.silent, fun hexited => absurd hexited hphase,
      (List.filter_sublist.map Slot.id).nodup hs.distinct, ?_,
      fun u hu => hs.tickets u (List.mem_filter.mp hu).1⟩
    simp only [← hs.builds, List.filter_map]
    rfl
  | exits msg hphase hexit =>
    exact ⟨hs.givenUp, fun _ => rfl, fun _ => rfl, List.nodup_nil, rfl,
      fun u hu => absurd hu List.not_mem_nil⟩
  | answers msg phase serial sent hphase hphase' =>
    exact ⟨hs.givenUp, fun h => absurd (hs.silent h) hphase, fun h => absurd h hphase',
      hs.distinct, hs.builds, hs.tickets⟩

/-- **Every run keeps the invariant.** -/
theorem Sound.after (hs : s.Sound) (steps : List Step) : (s.after steps).Sound := by
  induction steps generalizing s with
  | nil => exact hs
  | cons x xs ih => exact ih ((takes_step hs x).sound hs)

theorem sound_after (service : Analysis) (steps : List Step) :
    ((ofService service).after steps).Sound := (sound_ofService service).after steps

end Server.Session

end TokenOutline
