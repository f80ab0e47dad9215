import TokenOutline.Proofs.Outline.Answer
import TokenOutline.Proofs.Server.Documents

/-!
# Requests for items in a session

A request for items stays in flight while its build waits for the service, and other messages come
in the meantime. What becomes of it is what becomes of the same request to an outline of its own,
which has the service and the settings of the step in which the request came, and which sees the
changes of the service and no messages.

Headlines:
* `Session.Waits`: the build of a request goes on.
* **`Session.step_waits`**: a step does to a request that waits what it does to its build alone.
* **`Session.step_asked`**: the step in which a request comes.
* **`Session.request_refines_outline`**: requests for items in every run.
-/

namespace TokenOutline.Server.Session

variable {s : Session} {slot : Slot} {p : Editor.OutlineParams} {t : Nat} {b : Build}

/-! ## What a session makes of a request -/

/-- The change of the service that a step is. -/
def Step.change? : Step → Option (Outline.Step Slot)
  | .service c => some (.service c)
  | _ => none

/-- A step gives up the requests of an id. -/
def Step.GivesUp (id : MessageId) : Step → Prop
  | .receive msg => msg.method = "exit" ∨ msg.cancels? = some id
  | _ => False

/-- What is sent in a step. -/
def sent (s : Session) (x : Step) : List Outgoing := (s.step x).2.elim [] Effects.outgoing

/-- A request has been answered, with nothing else under its id. -/
def Answers (f : Finished Slot) (sent : List Outgoing) : Prop :=
  ∃ fs gs : List (Finished Slot), sent = (fs ++ f :: gs).flatMap Finished.replies ∧
    ∀ g ∈ fs ++ gs, g.id.id ≠ f.id.id

/-- Whatever is sent under an id in a step answers a message that carries the id itself. -/
def Unanswered (id : MessageId) (x : Step) (sent : List Outgoing) : Prop :=
  ∀ r, .response r ∈ sent → r.id = id → ∃ msg, x = .receive msg ∧ msg.id = some id

/-- The build of a request goes on under a ticket. -/
structure Waits (s : Session) (slot : Slot) (t : Nat) (b : Build) : Prop where
  build : s.outline.ofTicket t = (Life.running b).unfinished slot t
  past : t < s.outline.clock

theorem Waits.mem (h : s.Waits slot t b) : ⟨slot, t, b⟩ ∈ s.outline.unfinished :=
  (List.mem_filter.mp (h.build ▸ List.mem_singleton_self _ : _ ∈ s.outline.ofTicket t)).1

theorem Waits.inFlight (h : s.Waits slot t b) (hs : s.Sound) : slot ∈ s.inFlight :=
  hs.builds ▸ List.mem_map_of_mem (f := Unfinished.id) h.mem

/-- A step that leaves the builds of others leaves a build that waits. -/
theorem Waits.of_unfinished (h : s.Waits slot t b) {s' : Session} {q : Unfinished Slot → Bool}
    (hunf : s'.outline.unfinished = s.outline.unfinished.filter q) (hq : q ⟨slot, t, b⟩ = true)
    (hclock : s.outline.clock ≤ s'.outline.clock) : s'.Waits slot t b := by
  refine ⟨?_, h.past.trans_le hclock⟩
  have hbuild := h.build
  unfold Outline.ofTicket at hbuild ⊢
  rw [hunf, List.filter_comm, hbuild]
  simp [hq, Life.unfinished]

theorem id_of_mem_replies {f : Finished Slot} {r : Response} (h : .response r ∈ f.replies) :
    r.id = f.id.id := by
  unfold Finished.replies at h
  split at h
  · simp only [List.mem_singleton, Outgoing.response.injEq] at h
    rw [h]
  · simp only [List.mem_cons, reduceCtorEq, Outgoing.response.injEq, List.not_mem_nil, or_false,
      false_or] at h
    rw [h]

/-- A build that is answered under its ticket is answered under its id, and no other one is. -/
theorem Waits.ticket_of_finished (h : s.Waits slot t b) (hs : s.Sound) {c : Analysis.Step}
    {g : Finished Slot} (hg : g ∈ (s.outline.step (.service c)).2.finished)
    (hid : g.id.id = slot.id) : g.ticket = t := by
  obtain ⟨hpairs, -⟩ := Outline.service_requests s.outline c hs.nodup_builds
  obtain ⟨u, hu, heq⟩ := List.mem_map.mp
    (hpairs.subset (List.mem_map_of_mem (f := fun f => (f.id, f.ticket)) hg))
  obtain ⟨huid, hticket⟩ := Prod.mk.inj heq
  have hflight : u.id ∈ s.inFlight := hs.builds ▸ List.mem_map_of_mem hu
  have hslot : u.id = slot := hs.eq_of_id hflight (h.inFlight hs) (huid ▸ hid)
  have := List.inj_on_of_nodup_map hs.nodup_builds hu h.mem hslot
  rw [← hticket, this]

/-- A change of the service does to a request that waits what it does to its build. -/
theorem service_waits (hs : s.Sound) (h : s.Waits slot t b) (c : Analysis.Step) :
    match ((Life.running b).step slot s.outline.service (.service c)).1 with
    | .running b' =>
      (s.follow (.service c)).1.Waits slot t b' ∧
        Unanswered slot.id (.service c) (s.follow (.service c)).2.outgoing
    | .ended outcome =>
      Answers ⟨slot, 0, outcome.map some⟩ (s.follow (.service c)).2.outgoing ∧
        ∀ y ∈ (s.follow (.service c)).1.inFlight, y.id ≠ slot.id
    | .dropped => False := by
  obtain ⟨hunf, hfin, -⟩ := Outline.step_life (.service c) h.past.ne h.build
    (fun b' hb => congrArg Build.file (Life.running.inj hb).symm)
  change (s.outline.step (.service c)).2.finished.filter (·.ticket = t) = _ at hfin
  obtain ⟨hsub, hleft⟩ := hs.service_requests c
  have hdropped : ((Life.running b).step slot s.outline.service (.service c)).1 ≠ .dropped := by
    cases c with
    | release key =>
      simp only [Life.step, Life.ofBuild]
      split <;> simp
    | _ => simp [Life.step]
  cases hlife : ((Life.running b).step slot s.outline.service (.service c)).1 with
  | dropped => exact hdropped hlife
  | running b' =>
    rw [hlife] at hunf hfin
    refine ⟨⟨hunf, ?_⟩, fun r hr hid => ?_⟩
    · exact h.past.trans_le (by rw [follow, Outline.clock_step]; exact Nat.le_succ _)
    · obtain ⟨g, hg, hr⟩ := List.mem_flatMap.mp hr
      have hticket := h.ticket_of_finished hs hg ((id_of_mem_replies hr).symm.trans hid)
      have : g ∈ (s.outline.step (.service c)).2.finished.filter (·.ticket = t) :=
        List.mem_filter.mpr ⟨hg, decide_eq_true hticket⟩
      rw [hfin] at this
      exact absurd this List.not_mem_nil
  | ended outcome =>
    rw [hlife] at hfin
    have hmem : ⟨slot, t, outcome.map some⟩ ∈ (s.outline.step (.service c)).2.finished := by
      refine (List.mem_filter.mp (hfin ▸ ?_ : _ ∈ List.filter (·.ticket = t) _)).1
      exact List.mem_singleton_self _
    obtain ⟨fs, gs, hsplit⟩ := List.append_of_mem hmem
    refine ⟨⟨fs, gs, ?_, fun g hg => ?_⟩, fun y hy hid => ?_⟩
    · simp only [follow, hsplit, List.flatMap_append, List.flatMap_cons]
      rfl
    · have hdistinct := (hsub.map Slot.id).nodup hs.distinct
      rw [hsplit, List.map_append, List.map_cons, List.map_append, List.map_cons,
        List.nodup_middle, ← List.map_append, ← List.map_append, List.nodup_cons] at hdistinct
      intro hid
      exact hdistinct.1 (hid ▸ List.mem_map_of_mem (List.mem_map_of_mem hg))
    · have hflight : (s.follow (.service c)).1.inFlight = _ := hleft
      have hy := List.mem_filter.mp (hflight ▸ hy)
      have hslot := hs.eq_of_id hy.1 (h.inFlight hs) hid
      have hdone : slot ∈ (s.outline.step (.service c)).2.finished.map (·.id) :=
        List.mem_map_of_mem (f := Finished.id) hmem
      exact absurd (hslot ▸ hdone) (of_decide_eq_true hy.2)

/-- **A step of a session does to a request that waits what a change of the service does to its
build**, and nothing if it is none. -/
theorem step_waits (hs : s.Sound) (h : s.Waits slot t b) (x : Step)
    (hkept : ¬ Step.GivesUp slot.id x) :
    match ((Life.running b).run slot s.outline.service x.change?.toList).1 with
    | .running b' => (s.step x).1.Waits slot t b' ∧ Unanswered slot.id x (s.sent x)
    | .ended outcome =>
      Answers ⟨slot, 0, outcome.map some⟩ (s.sent x) ∧
        ∀ y ∈ (s.step x).1.inFlight, y.id ≠ slot.id
    | .dropped => False := by
  have htakes := takes_step hs x
  unfold sent
  generalize s.step x = r at htakes
  obtain ⟨s', e⟩ := r
  have hflight := h.inFlight hs
  cases htakes with
  | idle => exact ⟨h, fun r hr => absurd hr List.not_mem_nil⟩
  | serves c => exact service_waits hs h c
  | heeds msg call hhandled =>
    obtain ⟨documents, outline, heq, hunf, -, hclock⟩ :=
      notified_eq (s := s) (ne_cancel_of_handled hhandled)
    refine ⟨?_, fun r hr => ?_⟩
    · refine h.of_unfinished (q := fun _ => true) ?_ rfl ?_
      · rw [List.filter_true, heq, hunf]
      · rw [heq]
        exact hclock
    · obtain ⟨n, -, hn⟩ := List.mem_map.mp hr
      exact absurd hn (by simp)
  | late msg hphase hhandled =>
    rw [hs.exited hphase] at hflight
    exact absurd hflight List.not_mem_nil
  | lists msg other p hasked hhandled =>
    obtain ⟨-, -, -, hnew⟩ := asked?_eq_some_iff.mp hasked
    have hstep := Outline.step_ofTicket (s.listing other p) h.past.ne
    refine ⟨⟨(congrArg Prod.fst hstep).trans h.build, ?_⟩, fun r hr hid => ?_⟩
    · exact h.past.trans_le (by rw [follow, Outline.clock_step]; exact Nat.le_succ _)
    · obtain ⟨g, hg, hr⟩ := List.mem_flatMap.mp hr
      have hother : g.id = other := by
        obtain ⟨_, -, hfin⟩ | ⟨a, -, hfin⟩ := listing_outcome s other p
        · exact absurd (hfin ▸ hg) List.not_mem_nil
        · exact congrArg Finished.id (List.mem_singleton.mp (hfin ▸ hg))
      exact absurd (hid.symm.trans ((id_of_mem_replies hr).trans (congrArg Slot.id hother)))
        (hnew slot hflight)
  | cancels msg id hphase hcancels hhandled =>
    have hne : slot.id ≠ id := fun heq => hkept (.inr (heq ▸ hcancels))
    refine ⟨h.of_unfinished rfl (by simpa using hne) le_rfl, fun r hr hid => ?_⟩
    obtain ⟨other, hother, heq⟩ := List.mem_map.mp hr
    obtain rfl := Outgoing.response.inj heq
    exact absurd (hid.symm.trans (of_decide_eq_true (List.mem_filter.mp hother).2)) hne
  | exits msg hphase hexit hhandled => exact absurd (.inl hexit) hkept
  | answers msg phase serial sent hphase hphase' hserial hhandled hasked hcancels hexit hsent =>
    refine ⟨h.of_unfinished (q := fun _ => true) (List.filter_true _).symm rfl le_rfl,
      fun r hr hid => ?_⟩
    obtain ⟨text, heq⟩ | ⟨r', heq, hmsg⟩ := hsent _ hr
    · exact absurd heq (by simp)
    · obtain rfl := Outgoing.response.inj heq
      exact ⟨msg, rfl, hid ▸ hmsg⟩

theorem service_step (hs : s.Sound) (x : Step) :
    (s.step x).1.outline.service =
      x.change?.toList.foldl Outline.serviceAfter s.outline.service := by
  have htakes := takes_step hs x
  generalize s.step x = r at htakes
  obtain ⟨s', e⟩ := r
  cases htakes with
  | serves c => exact Outline.service_step (.service c)
  | heeds msg call hhandled =>
    obtain ⟨documents, outline, heq, -, hservice, -⟩ :=
      notified_eq (s := s) (ne_cancel_of_handled hhandled)
    rw [heq]
    exact hservice
  | lists msg other p => exact Outline.service_step (s.listing other p)
  | _ => rfl

/-! ## Where a request begins -/

/-- An outline that begins with the service and the settings of a session. -/
def outlineAlone (s : Session) : Outline Slot := .ofService s.outline.service s.outline.settings

theorem listing_eq (s : Session) (slot : Slot) (p : Editor.OutlineParams) :
    s.listing slot p = .request slot
      (((p.document.map (·.uri)).or s.documents.active).map Url.fileName)
      (p.item.map (·.toItem)) := by
  unfold listing documentOf
  cases p.document <;> rfl

theorem asked?_receive {x : Step} (hasked : s.asked? x = some (slot, p)) :
    ∃ msg, x = .receive msg := by
  cases x with
  | receive msg => exact ⟨msg, rfl⟩
  | _ => exact absurd hasked (by simp [asked?])

/-- **The step in which a request begins** answers it as an outline alone does, or leaves it a build
that waits. -/
theorem step_asked (hs : s.Sound) {x : Step} (hasked : s.asked? x = some (slot, p)) :
    (∃ b, p.item = none ∧
        (Life.ofRequest s.outline.service s.outline.settings
          ((s.documentOf p).map Url.fileName)).1 = .running b ∧
        s.outlineAlone.finishedOf [s.listing slot p] 0 = [] ∧
        (s.step x).1.Waits slot s.outline.clock b ∧ s.sent x = []) ∨
      ∃ a, s.outlineAlone.finishedOf [s.listing slot p] 0 = [⟨slot, 0, a⟩] ∧
        s.sent x = Finished.replies ⟨slot, 0, a⟩ ∧ (s.step x).1.inFlight = s.inFlight := by
  obtain ⟨msg, rfl⟩ := asked?_receive hasked
  have halone : s.outlineAlone.finishedOf [s.listing slot p] 0 =
      (s.outlineAlone.step (s.listing slot p)).2.finished.filter (·.ticket = 0) := by
    rw [Outline.finishedOf_cons]
    exact List.append_nil _
  unfold sent
  rw [step_of_asked hs hasked, halone]
  obtain ⟨b, hbelow, hlife, hunf, hfin, hfin'⟩ | ⟨a, hunf, hfin, hfin'⟩ :=
    Outline.request_congr s.outline s.outlineAlone rfl rfl slot
      ((s.documentOf p).map Url.fileName) (p.item.map Editor.Item.toItem)
  · refine .inl ⟨b, Option.map_eq_none_iff.mp hbelow, hlife, ?_, ⟨?_, ?_⟩, ?_⟩
    · exact congrArg (List.filter _) hfin'
    · -- no build has the ticket of a step that is yet to come
      have hnone : s.outline.ofTicket s.outline.clock = [] :=
        List.filter_eq_nil_iff.mpr fun u hu => by simpa using (hs.tickets u hu).ne
      refine (congrArg (List.filter _) hunf).trans ?_
      rw [List.filter_append]
      exact (congrArg (· ++ _) hnone).trans (by simp [Life.unfinished])
    · exact (Nat.lt_succ_self _).trans_eq (Outline.clock_step (s.listing slot p)).symm
    · exact congrArg (List.flatMap Finished.replies) hfin
  · refine .inr ⟨a, ?_, ?_, ?_⟩
    · exact congrArg (List.filter _) hfin'
    · exact (congrArg (List.flatMap Finished.replies) hfin).trans (List.append_nil _)
    · exact (congrArg (List.map _) hunf).trans hs.builds

/-- A request below an item is answered at once, and with null. -/
theorem sent_below (hs : s.Sound) {x : Step} (hasked : s.asked? x = some (slot, p))
    (hitem : p.item.isSome) : s.sent x = [.response ⟨slot.id, .ok .null⟩] := by
  obtain ⟨item, hitem⟩ := Option.isSome_iff_exists.mp hitem
  obtain ⟨b, hnone, -⟩ | ⟨a, hfin, hsent, -⟩ := step_asked hs hasked
  · exact absurd (hitem.symm.trans hnone) (by simp)
  · have hlisting : s.listing slot p =
        .request slot ((s.documentOf p).map Url.fileName) (some item.toItem) := by
      simp [listing, hitem]
    have hanswer : s.outlineAlone.finishedOf [s.listing slot p] 0 = [⟨slot, 0, .ok none⟩] := by
      rw [hlisting]
      rfl
    have ha : a = .ok none :=
      congrArg Finished.answer (List.cons.inj (hfin.symm.trans hanswer)).1
    rw [hsent, ha]
    rfl

/-! ## Runs -/

/-- The changes of the service in a run after step `k` and up to step `m`. -/
def changesIn (steps : List Step) (k m : Nat) : List (Outline.Step Slot) :=
  ((steps.take (m + 1)).drop (k + 1)).filterMap Step.change?

variable {steps : List Step} {k m : Nat}

theorem changesIn_self (steps : List Step) (k : Nat) : changesIn steps k k = [] := by
  simp [changesIn]

theorem changesIn_succ {x : Step} (hm : k ≤ m) (hx : steps[m + 1]? = some x) :
    changesIn steps k (m + 1) = changesIn steps k m ++ x.change?.toList := by
  obtain ⟨hlt, rfl⟩ := List.getElem?_eq_some_iff.mp hx
  have htake : steps.take (m + 2) = steps.take (m + 1) ++ [steps[m + 1]] :=
    (List.take_append_getElem hlt).symm
  have hlen : k + 1 ≤ (steps.take (m + 1)).length := by
    rw [List.length_take]
    omega
  have hlast : [steps[m + 1]].filterMap Step.change? = steps[m + 1].change?.toList := by
    cases h : steps[m + 1].change? <;> simp [h]
  rw [changesIn, htake, List.drop_append_of_le_length hlen, List.filterMap_append, hlast]
  rfl

theorem after_take_succ (s : Session) {x : Step} (hx : steps[m]? = some x) :
    s.after (steps.take (m + 1)) = ((s.after (steps.take m)).step x).1 := by
  obtain ⟨hlt, rfl⟩ := List.getElem?_eq_some_iff.mp hx
  rw [← List.take_append_getElem hlt, after_append]
  rfl

/-- What an outline alone answers to a request for the items of a document is what the life of its
build says. -/
theorem finishedOf_outlineAlone (hitem : p.item = none) (changes : List (Outline.Step Slot)) :
    s.outlineAlone.finishedOf (s.listing slot p :: changes) 0 =
      ((Life.ofRequest s.outline.service s.outline.settings
        ((s.documentOf p).map Url.fileName)).1.run slot s.outline.service changes).1.finished
          slot 0 := by
  have hlisting : s.listing slot p = .request slot ((s.documentOf p).map Url.fileName) none := by
    simp [listing, hitem]
  have hrequest : (s.listing slot p :: changes)[0]? = some
      (.request slot ((s.documentOf p).map Url.fileName) none) := by
    rw [hlisting]
    rfl
  obtain ⟨-, hfin, -⟩ := Outline.run_of_request s.outline.service s.outline.settings hrequest
  exact hfin

/-- The service of a session is at every step that of an outline alone which sees its changes. -/
theorem service_after_changes (s₀ : Session) (hs : s₀.Sound) {x : Step} {slot : Slot}
    {p : Editor.OutlineParams} (hx : steps[k]? = some x)
    (hasked : (s₀.after (steps.take k)).asked? x = some (slot, p)) (hm : k ≤ m)
    (hlt : m < steps.length) :
    (s₀.after (steps.take (m + 1))).outline.service =
      (changesIn steps k m).foldl Outline.serviceAfter
        (s₀.after (steps.take k)).outline.service := by
  induction m, hm using Nat.le_induction with
  | base =>
    obtain ⟨msg, rfl⟩ := asked?_receive hasked
    rw [after_take_succ s₀ hx, service_step (hs.after _), changesIn_self]
    rfl
  | succ m hm ih =>
    have hy := List.getElem?_eq_getElem hlt
    rw [after_take_succ s₀ hy, service_step (hs.after _), changesIn_succ hm hy, List.foldl_append,
      ih (by omega)]

/-- **A request waits as long as an outline alone does not answer it.** -/
theorem waits_of_unfinished {s₀ : Session} (hs : s₀.Sound) {x : Step} (hx : steps[k]? = some x)
    (hasked : (s₀.after (steps.take k)).asked? x = some (slot, p)) (hm : k ≤ m)
    (hlt : m < steps.length)
    (hkept : ∀ j y, k < j → j ≤ m → steps[j]? = some y → ¬ Step.GivesUp slot.id y) :
    let s := s₀.after (steps.take k)
    (∀ j, k ≤ j → j ≤ m →
      s.outlineAlone.finishedOf (s.listing slot p :: changesIn steps k j) 0 = []) →
    p.item = none ∧ ∃ b, (s₀.after (steps.take (m + 1))).Waits slot s.outline.clock b ∧
      ((Life.ofRequest s.outline.service s.outline.settings
        ((s.documentOf p).map Url.fileName)).1.run slot s.outline.service
          (changesIn steps k m)).1 = .running b := by
  intro s hunfinished
  induction m, hm using Nat.le_induction with
  | base =>
    have hnone := hunfinished k le_rfl le_rfl
    rw [changesIn_self] at hnone
    obtain ⟨b, hitem, hlife, -, hwaits, -⟩ | ⟨a, hfin, -⟩ := step_asked (hs.after _) hasked
    · refine ⟨hitem, b, ?_, ?_⟩
      · rw [after_take_succ s₀ hx]
        exact hwaits
      · rw [changesIn_self, hlife]
        rfl
    · exact absurd (hfin.symm.trans hnone) (List.cons_ne_nil _ _)
  | succ m hm ih =>
    obtain ⟨hitem, b, hwaits, hlife⟩ := ih (by omega)
      (fun j y hj hjm => hkept j y hj (by omega)) fun j hj hjm => hunfinished j hj (by omega)
    refine ⟨hitem, ?_⟩
    have hy := List.getElem?_eq_getElem hlt
    have hstep := step_waits (hs.after _) hwaits steps[m + 1] (hkept _ _ (by omega) le_rfl hy)
    have hnone := hunfinished (m + 1) (by omega) le_rfl
    rw [service_after_changes s₀ hs hx hasked hm (by omega)] at hstep
    rw [finishedOf_outlineAlone hitem, changesIn_succ hm hy, Life.run_append, hlife] at hnone
    rw [after_take_succ s₀ hy, changesIn_succ hm hy, Life.run_append, hlife]
    generalize ((Life.running b).run slot _ steps[m + 1].change?.toList).1 = life at hstep hnone ⊢
    cases life with
    | running b' => exact ⟨b', hstep.1, rfl⟩
    | ended outcome => exact absurd hnone (List.cons_ne_nil _ _)
    | dropped => exact hstep.elim

/-- Each step of a run does to a request what the course of an outline alone says, until it is
answered. -/
theorem step_of_request {s₀ : Session} (hs : s₀.Sound) {x y : Step} (hx : steps[k]? = some x)
    (hasked : (s₀.after (steps.take k)).asked? x = some (slot, p)) (hm : k ≤ m)
    (hy : steps[m]? = some y)
    (hkept : ∀ j z, k < j → j ≤ m → steps[j]? = some z → ¬ Step.GivesUp slot.id z) :
    let s := s₀.after (steps.take k)
    let before := s₀.after (steps.take m)
    (∀ j, k ≤ j → j < m →
      s.outlineAlone.finishedOf (s.listing slot p :: changesIn steps k j) 0 = []) →
    match s.outlineAlone.finishedOf (s.listing slot p :: changesIn steps k m) 0 with
    | [] =>
      slot ∈ (before.step y).1.inFlight ∧
        ∀ r, .response r ∈ before.sent y → r.id = slot.id →
          k < m ∧ ∃ msg, y = .receive msg ∧ msg.id = some slot.id
    | f :: _ =>
      f.id = slot ∧ Answers f (before.sent y) ∧
        ∀ z ∈ (before.step y).1.inFlight, z.id ≠ slot.id := by
  intro s before hunfinished
  have hsound : before.Sound := hs.after _
  rcases hm.eq_or_lt with rfl | hlt
  · obtain rfl : x = y := Option.some.inj (hx.symm.trans hy)
    rw [changesIn_self]
    obtain ⟨b, -, -, hfin, hwaits, hsent⟩ | ⟨a, hfin, hsent, hflight⟩ := step_asked hsound hasked
    · rw [hfin]
      refine ⟨hwaits.inFlight ((takes_step hsound x).sound hsound), fun r hr => ?_⟩
      rw [hsent] at hr
      exact absurd hr List.not_mem_nil
    · rw [hfin]
      refine ⟨rfl, ⟨[], [], ?_, by simp⟩, ?_⟩
      · rw [hsent]
        exact (List.append_nil _).symm
      · obtain ⟨msg, rfl⟩ := asked?_receive hasked
        rw [hflight]
        exact (asked?_eq_some_iff.mp hasked).2.2.2
  · -- the request waits before the step
    obtain ⟨n, rfl⟩ : ∃ n, m = n + 1 := ⟨m - 1, by omega⟩
    have hlt' : n + 1 < steps.length := (List.getElem?_eq_some_iff.mp hy).1
    obtain ⟨hitem, b, hwaits, hlife⟩ := waits_of_unfinished hs hx hasked (m := n) (by omega)
      (by omega) (fun j z hj hjn => hkept j z hj (by omega))
      fun j hj hjn => hunfinished j hj (by omega)
    have hstep := step_waits hsound hwaits y (hkept _ y hlt le_rfl hy)
    rw [service_after_changes s₀ hs hx hasked (m := n) (by omega) (by omega)] at hstep
    rw [finishedOf_outlineAlone hitem, changesIn_succ (by omega) hy, Life.run_append, hlife]
    generalize ((Life.running b).run slot _ y.change?.toList).1 = life at hstep ⊢
    cases life with
    | running b' =>
      refine ⟨hstep.1.inFlight ((takes_step hsound y).sound hsound), fun r hr hid => ?_⟩
      exact ⟨hlt, hstep.2 r hr hid⟩
    | ended outcome => exact ⟨rfl, hstep.1, hstep.2⟩
    | dropped => exact hstep.elim

/-- A request for items that comes in step `k` is answered as the outline `alone` answers it, which
is asked for the same and sees the changes of the service: `course m` up to step `m`. -/
structure Refines (begun : Session) (steps : List Step) (k : Nat) (slot : Slot)
    (p : Editor.OutlineParams) (alone : Outline Slot) (course : Nat → List (Outline.Step Slot)) :
    Prop where
  answered : ∀ m y, k ≤ m → steps[m]? = some y →
    (∀ j z, k < j → j ≤ m → steps[j]? = some z → ¬ Step.GivesUp slot.id z) →
    (∀ j, k ≤ j → j < m → alone.finishedOf (course j) 0 = []) →
    let before := begun.after (steps.take m)
    match alone.finishedOf (course m) 0 with
    | [] =>
      slot ∈ (before.step y).1.inFlight ∧
        ∀ r, .response r ∈ before.sent y → r.id = slot.id →
          k < m ∧ ∃ msg, y = .receive msg ∧ msg.id = some slot.id
    | f :: _ =>
      f.id = slot ∧ Answers f (before.sent y) ∧
        ∀ z ∈ (before.step y).1.inFlight, z.id ≠ slot.id
  service : ∀ m, k ≤ m → m < steps.length →
    (alone.after (course m)).service = (begun.after (steps.take (m + 1))).outline.service
  below : ∀ x, steps[k]? = some x → p.item.isSome →
    (begun.after (steps.take k)).sent x = [.response ⟨slot.id, .ok .null⟩]
  items : ∀ t items, Finished.replies ⟨slot, t, .ok (some items)⟩ =
    [.response ⟨slot.id, .ok (.array (items.map fun i => i.toEditor.encode))⟩]
  failure : ∀ t e, Finished.replies ⟨slot, t, .error e⟩ =
      [.notice (.log .error ("Failed to list lexer symbols: " ++ e.message)),
        .response ⟨slot.id, .error (.unresolved e)⟩] ∧
    (Refusal.unresolved e).code = -32603 ∧ (Refusal.unresolved e).message = e.message

/-- **Requests for items in every run.** A request for items is answered as an outline of its own
would, which begins in the step of the request with the service and the settings of that moment, is
asked for the items of the document of the request or, if it names none, of the document that is
active then, and sees the changes of the service from then on and nothing else: in the step in which
this outline answers, and unless the request is given up before. The answer is the list of the items
as the editor takes them, null below an item, or an internal error with the text of the failure,
which goes to the log as well. -/
theorem request_refines_outline (service : Analysis) {steps : List Step} {k : Nat} {x : Step}
    {slot : Slot} {p : Editor.OutlineParams} (hx : steps[k]? = some x)
    (hasked : ((ofService service).after (steps.take k)).asked? x = some (slot, p)) :
    let begun := ofService service
    let s := begun.after (steps.take k)
    let file := ((p.document.map (·.uri)).or s.documents.active).map Url.fileName
    let alone : Outline Slot := .ofService s.outline.service s.outline.settings
    let course := fun m =>
      Outline.Step.request slot file (p.item.map (·.toItem)) :: changesIn steps k m
    Refines begun steps k slot p alone course := by
  intro begun s file alone course
  have hs : begun.Sound := sound_ofService service
  have hcourse : ∀ m, course m = s.listing slot p :: changesIn steps k m := fun m => by
    rw [listing_eq]
  refine ⟨fun m y hm hy hkept hunfinished => ?_, fun m hm hlt => ?_, fun y hy hitem => ?_,
    fun t items => rfl, fun t e => ⟨rfl, rfl, rfl⟩⟩
  · rw [hcourse m]
    exact step_of_request hs hx hasked hm hy hkept fun j hj hjm => hcourse j ▸ hunfinished j hj hjm
  · rw [hcourse m, service_after_changes begun hs hx hasked hm hlt, Outline.service_after]
    rfl
  · obtain rfl := Option.some.inj (hx.symm.trans hy)
    exact sent_below (hs.after _) hasked hitem

/-- While the items of the active document are asked for, another document is opened and becomes
active; then a lookup fails. -/
def switchingRun : List Step := [
  .receive ⟨"initialize", some (.object [("capabilities", .object [])]), some (.number 0)⟩,
  .receive ⟨"textDocument/didOpen", some (documentParams "file:///g"), none⟩,
  .receive ⟨"antlr/lexerSymbols", some (.object []), some (.number 1)⟩,
  .receive ⟨"textDocument/didOpen", some (documentParams "file:///h"), none⟩,
  .service (.release "b")]

theorem request_refines_outline_switchingRun :
    let begun := ofService Outline.closedService
    let x : Step := .receive ⟨"antlr/lexerSymbols", some (.object []), some (.number 1)⟩
    let slot : Slot := ⟨.number 1, 1⟩
    let before := begun.after (switchingRun.take 4)
    switchingRun[2]? = some x ∧
      (begun.after (switchingRun.take 2)).asked? x = some (slot, ⟨none, none⟩) ∧
      ∃ f : Finished Slot, f.id = slot ∧ Answers f (before.sent (.service (.release "b"))) := by
  intro begun x slot before
  have hasked : (begun.after (switchingRun.take 2)).asked? x = some (slot, ⟨none, none⟩) := by
    decide +kernel
  have hx : switchingRun[2]? = some x := rfl
  have hrefines := request_refines_outline Outline.closedService hx hasked
  have hkept : ∀ j z, 2 < j → j ≤ 4 → switchingRun[j]? = some z → ¬ Step.GivesUp slot.id z := by
    intro j z hj hj' hz
    obtain rfl | rfl : j = 3 ∨ j = 4 := by omega
    · obtain rfl := Option.some.inj hz
      exact show ¬ (_ ∨ _) by decide +kernel
    · obtain rfl := Option.some.inj hz
      exact id
  have hlast := hrefines.answered 4 (.service (.release "b")) (by decide) rfl hkept fun j hj hj' => by
    obtain rfl | rfl : j = 2 ∨ j = 3 := by omega
    · exact List.isEmpty_iff.mp (by decide +kernel)
    · exact List.isEmpty_iff.mp (by decide +kernel)
  refine ⟨hx, hasked, ?_⟩
  split at hlast
  · rename_i hnone
    exact absurd (List.isEmpty_iff.mpr hnone) (by decide +kernel)
  · rename_i f fs hfin
    exact ⟨f, hlast.1, hlast.2.1⟩

end TokenOutline.Server.Session
