import TokenOutline.Proofs.Outline.Resumption
import TokenOutline.Proofs.Server.Session

/-!
# The parts of taking a message

A connection takes the parts of a message one by one, and accepts others in between. What holds of
its session all the while speaks of the requests that are pending, those of the jobs that have not
ended, and of those among them whose builds go on.

Headlines:
* `Session.Serves`: the invariant.
* `Session.Accepted`, `Session.Begun`: all that accepting a message and beginning its job can do.
* **`Session.Serves.accept`**, **`Session.Serves.begin`**, **`Session.Serves.resume`**,
  **`Session.Serves.finish`**: what each part does to the requests.
* **`Session.answerGivenUp_settle`**: requests that have been given up may be answered one by one.
* **`Session.step_receive`**: taking a message is accepting it and handling its job at once
  (`Session.handle`).
-/

namespace TokenOutline.Server.Session

variable {s : Session} {msg : Message} {pending building : List Slot}

/-! ## The invariant -/

/-- The requests of a session are among those that are pending, and its builds are those of the
requests `building`. -/
structure Serves (s : Session) (pending building : List Slot) : Prop where
  distinct : (s.inFlight.map (·.id)).Nodup
  exited : s.phase = .exited → s.inFlight = []
  inFlight : s.inFlight ⊆ pending
  givenUp : s.givenUp ⊆ pending
  nodup_pending : pending.Nodup
  serials : ∀ x ∈ pending, x.serial < s.nextSerial
  builds : (s.outline.unfinished.map (·.id)).Perm building
  building_subset : building ⊆ pending
  nodup_building : building.Nodup
  tickets : (s.outline.unfinished.map (·.ticket)).Nodup
  past : ∀ u ∈ s.outline.unfinished, u.ticket < s.outline.clock

theorem serves_ofService (service : Analysis) : (ofService service).Serves [] [] where
  distinct := List.nodup_nil
  exited _ := rfl
  inFlight := List.nil_subset _
  givenUp := List.nil_subset _
  nodup_pending := List.nodup_nil
  serials _ h := absurd h List.not_mem_nil
  builds := .nil
  building_subset := List.nil_subset _
  nodup_building := List.nodup_nil
  tickets := List.nodup_nil
  past _ h := absurd h List.not_mem_nil

/-- The order of the requests does not matter. -/
theorem Serves.perm {pending' building' : List Slot} (h : s.Serves pending building)
    (hp : pending.Perm pending') (hb : building.Perm building') : s.Serves pending' building' where
  distinct := h.distinct
  exited := h.exited
  inFlight := fun _ hx => hp.subset (h.inFlight hx)
  givenUp := fun _ hx => hp.subset (h.givenUp hx)
  nodup_pending := hp.nodup_iff.mp h.nodup_pending
  serials x hx := h.serials x (hp.symm.subset hx)
  builds := h.builds.trans hb
  building_subset := fun _ hx => hp.subset (h.building_subset (hb.symm.subset hx))
  nodup_building := hb.nodup_iff.mp h.nodup_building
  tickets := h.tickets
  past := h.past

/-! ## Accepting -/

/-- What accepting a message does before the end of the session. -/
inductive Accepted (s : Session) : Session → Job → Prop where
  /-- The session ends. -/
  | exit : Accepted s s.exit ⟨.none, false⟩
  /-- A request is entered among those in flight. -/
  | enters (phase : Phase) (slot : Slot) (call : Except Refusal Call) (starts : Bool)
      (hphase : phase ≠ .exited) (hserial : slot.serial = s.nextSerial)
      (hnew : ∀ x ∈ s.inFlight, x.id ≠ slot.id)
      (hstarts : ∀ p, call = .ok (.outline p) → starts = false) :
      Accepted s
        { s with phase, inFlight := s.inFlight ++ [slot], nextSerial := s.nextSerial + 1 }
        ⟨.request slot call, starts⟩
  /-- Nothing is entered. -/
  | passes (phase : Phase) (j : Job) (hphase : phase ≠ .exited) (hslot : j.slot? = none) :
      Accepted s { s with phase } j

theorem accepted (hphase : s.phase ≠ .exited) (msg : Message) :
    s.Accepted (s.accept msg).1 (s.accept msg).2 := by
  have hup : ∀ phase, phase = s.phase ∨ phase = .shutDown → phase ≠ .exited := by
    rintro phase (rfl | rfl)
    · exact hphase
    · decide
  by_cases hexit : msg.method = "exit"
  · rw [accept_exit hexit]
    exact .exit
  cases hcancels : msg.cancels? with
  | some id =>
    rw [accept_of_cancels hcancels]
    exact .passes s.phase _ hphase rfl
  | none =>
    cases hhandled : s.handled? (.receive msg) with
    | some call =>
      rw [accept_of_handled hhandled]
      exact .passes s.phase _ hphase rfl
    | none =>
      cases hasked : s.asked? (.receive msg) with
      | some asked =>
        obtain ⟨slot, p⟩ := asked
        obtain ⟨-, -, hserial, hnew⟩ := asked?_eq_some_iff.mp hasked
        rw [accept_of_asked hasked]
        exact .enters s.phase slot _ false hphase hserial hnew fun _ _ => rfl
      | none =>
        have hother := accept_other hexit hcancels hhandled hasked
        generalize s.accept msg = accepted at hother
        obtain ⟨s', j⟩ := accepted
        cases hother with
        | enters phase slot call starts hphase' hid hserial hnew hcall =>
          exact .enters phase slot call starts (hup phase hphase') hserial hnew
            fun p hp => absurd hp (hcall p)
        | refuses phase id why starts hphase' => exact .passes phase _ (hup phase hphase') rfl
        | hears call => exact .passes _ _ hphase rfl
        | ignores phase starts hphase' => exact .passes phase _ (hup phase hphase') rfl

/-- A message ends the session, or gives no request up. -/
theorem accept_cases (hphase : s.phase ≠ .exited) (msg : Message) :
    s.accept msg = (s.exit, ⟨.none, false⟩) ∨
      (s.accept msg).1.givenUp = s.givenUp ∧ (s.accept msg).1.silent = s.silent ∧
        ∀ slot p, (s.accept msg).2.task = .request slot (.ok (.outline p)) →
          (s.accept msg).2.starts = false := by
  have haccepted := accepted hphase msg
  generalize s.accept msg = accepted at haccepted ⊢
  obtain ⟨s', j⟩ := accepted
  cases haccepted with
  | exit => exact .inl rfl
  | passes phase j hphase' hslot =>
    refine .inr ⟨rfl, rfl, fun slot p htask => ?_⟩
    change j.task = _ at htask
    simp [Job.slot?, htask] at hslot
  | enters phase slot call starts hphase' hserial hnew hstarts =>
    refine .inr ⟨rfl, rfl, fun slot' p htask => ?_⟩
    obtain ⟨-, rfl⟩ := Task.request.inj htask
    exact hstarts p rfl

/-- **Accepting** a message makes the request of its job, if it has one, pending. -/
theorem Serves.accept (h : s.Serves pending building) (hphase : s.phase ≠ .exited)
    (msg : Message) :
    (s.accept msg).1.Serves (pending ++ (s.accept msg).2.slot?.toList) building := by
  have haccepted := accepted hphase msg
  generalize s.accept msg = accepted at haccepted
  obtain ⟨s', j⟩ := accepted
  cases haccepted with
  | exit =>
    rw [show Job.slot? ⟨.none, false⟩ = none from rfl, Option.toList_none, List.append_nil]
    exact { h with
      distinct := List.nodup_nil
      exited := fun _ => rfl
      inFlight := List.nil_subset _
      givenUp := List.append_subset.mpr ⟨h.givenUp, h.inFlight⟩ }
  | passes phase j hphase' hslot =>
    rw [hslot, Option.toList_none, List.append_nil]
    exact { h with exited := fun hexited => absurd hexited hphase' }
  | enters phase slot call starts hphase' hserial hnew =>
    have hfresh : slot ∉ pending := fun hmem => by
      have := h.serials slot hmem
      omega
    refine ⟨?_, fun hexited => absurd hexited hphase', ?_, ?_, ?_, ?_, h.builds, ?_,
      h.nodup_building, h.tickets, h.past⟩
    · rw [List.map_append, List.nodup_append]
      exact ⟨h.distinct, List.nodup_singleton _, by simpa using hnew⟩
    · exact List.append_subset.mpr
        ⟨List.subset_append_of_subset_left _ h.inFlight, List.subset_append_right _ _⟩
    · exact List.subset_append_of_subset_left _ h.givenUp
    · exact List.nodup_append.mpr ⟨h.nodup_pending, List.nodup_singleton _, by
        rintro x hx y hy rfl
        exact hfresh (List.mem_singleton.mp hy ▸ hx)⟩
    · intro x hx
      rcases List.mem_append.mp hx with hx | hx
      · exact (h.serials x hx).trans (Nat.lt_succ_self _)
      · rw [List.mem_singleton.mp hx, hserial]
        exact Nat.lt_succ_self _
    · exact List.subset_append_of_subset_left _ h.building_subset

/-! ## Beginning -/

/-- The request that goes on building when its job has come as far as `p` says. -/
def buildingAfter (p : Progress) (slot? : Option Slot) : List Slot :=
  match p with
  | .waits => slot?.toList
  | .ends _ _ => []

theorem buildingAfter_subset (p : Progress) (slot? : Option Slot) :
    buildingAfter p slot? ⊆ slot?.toList := by
  cases p with
  | waits => exact List.Subset.refl _
  | ends notice response => exact List.nil_subset _

theorem outcome_ends (s : Session) (f : Finished Slot) :
    ∃ notice response, s.outcome f = .ends notice response := by
  unfold outcome
  split
  · exact ⟨_, _, rfl⟩
  · exact ⟨_, _, rfl⟩

/-- The outline has started a build, or none. -/
theorem Serves.listItems (h : s.Serves pending building) {slot : Slot} (hslot : slot ∈ pending)
    (hnew : slot ∉ building) (p : Editor.OutlineParams) :
    (s.listItems slot p).1.Serves pending
      (buildingAfter (s.listItems slot p).2.1 (some slot) ++ building) := by
  have hclock := Outline.clock_step (o := s.outline) (s.listing slot p)
  have hlater : ∀ u ∈ s.outline.unfinished, u.ticket < s.outline.clock + 1 := fun u hu =>
    (h.past u hu).trans (Nat.lt_succ_self _)
  obtain ⟨b, hunf, hfin⟩ | ⟨a, hunf, hfin⟩ := listing_outcome s slot p
  · -- a build has been started
    have hprogress : (s.listItems slot p).2.1 = .waits := by
      change s.progress (s.outline.step (s.listing slot p)).2 = .waits
      simp only [progress, hfin]
    rw [hprogress]
    refine { h with builds := ?_, building_subset := ?_, nodup_building := ?_, tickets := ?_,
                    past := ?_ }
    · change ((s.outline.step (s.listing slot p)).1.unfinished.map (·.id)).Perm _
      rw [hunf, List.map_append]
      exact List.perm_append_comm.trans (h.builds.cons slot)
    · exact List.cons_subset.mpr ⟨hslot, h.building_subset⟩
    · exact List.nodup_cons.mpr ⟨hnew, h.nodup_building⟩
    · change ((s.outline.step (s.listing slot p)).1.unfinished.map (·.ticket)).Nodup
      rw [hunf, List.map_append, List.nodup_append]
      refine ⟨h.tickets, List.nodup_singleton _, ?_⟩
      rintro x hx y hy rfl
      obtain ⟨u, hu, rfl⟩ := List.mem_map.mp hx
      have := h.past u hu
      simp at hy
      omega
    · change ∀ u ∈ (s.outline.step (s.listing slot p)).1.unfinished,
        u.ticket < (s.outline.step (s.listing slot p)).1.clock
      rw [hunf, hclock]
      intro u hu
      rcases List.mem_append.mp hu with hu | hu
      · exact hlater u hu
      · obtain rfl := List.mem_singleton.mp hu
        exact Nat.lt_succ_self _
  · -- the request has been answered
    obtain ⟨notice, response, hends⟩ := outcome_ends s ⟨slot, s.outline.clock, a⟩
    have hprogress : (s.listItems slot p).2.1 = .ends notice response := by
      change s.progress (s.outline.step (s.listing slot p)).2 = _
      simp only [progress, hfin, hends]
    rw [hprogress]
    refine { h with builds := ?_, tickets := ?_, past := ?_ }
    · change ((s.outline.step (s.listing slot p)).1.unfinished.map (·.id)).Perm _
      rw [hunf]
      exact h.builds
    · change ((s.outline.step (s.listing slot p)).1.unfinished.map (·.ticket)).Nodup
      rw [hunf]
      exact h.tickets
    · change ∀ u ∈ (s.outline.step (s.listing slot p)).1.unfinished,
        u.ticket < (s.outline.step (s.listing slot p)).1.clock
      rw [hunf, hclock]
      exact hlater

/-- What beginning a job does. -/
inductive Begun (s : Session) (j : Job) : Session × Progress × List Event → Prop where
  /-- Items are asked for. -/
  | lists (slot : Slot) (call : Except Refusal Call) (p : Editor.OutlineParams)
      (htask : j.task = .request slot call) (hcall : call = .ok (.outline p))
      (hslot : slot ∉ s.givenUp) : Begun s j (s.listItems slot p)
  /-- A request is given up. -/
  | cancels (id : MessageId) (hslot : j.slot? = none) :
      Begun s j (s.giveUp id, .ends none none, [])
  /-- Something is told of the documents or the settings, or nothing is done. -/
  | ends (documents : Documents) (outline : Outline Slot) (notice : Option Notice)
      (response : Option Response) (hunf : outline.unfinished = s.outline.unfinished)
      (hservice : outline.service = s.outline.service)
      (hclock : s.outline.clock ≤ outline.clock) :
      Begun s j ({ s with documents, outline }, .ends notice response, [])

theorem begun (s : Session) (j : Job) : s.Begun j (s.begin j) := by
  have hstays : ∀ notice response, s.Begun j (s, .ends notice response, []) :=
    fun notice response => .ends s.documents s.outline notice response rfl rfl le_rfl
  obtain ⟨task, starts⟩ := j
  cases task with
  | request slot call =>
    unfold Session.begin
    simp only
    split
    · exact hstays _ _
    · rename_i hslot
      cases call with
      | error e => exact hstays _ _
      | ok call =>
        cases call with
        | outline p => exact .lists slot _ p rfl rfl hslot
        | _ => exact hstays _ _
  | refuse id why => exact hstays _ _
  | notify call =>
    by_cases hcancel : ∃ id, call = .cancel id
    · obtain ⟨id, rfl⟩ := hcancel
      exact .cancels id rfl
    · have hother : ∀ id, call ≠ .cancel id := fun id hid => hcancel ⟨id, hid⟩
      obtain ⟨documents, outline, heq, hunf, hservice, hclock⟩ := @notified_eq s call hother
      have hbegin : s.begin ⟨.notify call, starts⟩ =
          ({ s with documents, outline }, .ends (s.notified call).2 none, []) := by
        rw [← heq]
        rfl
      rw [hbegin]
      exact .ends documents outline _ _ hunf hservice hclock
  | none => exact hstays _ _

/-- **Beginning** a job starts a build for its request, or none. -/
theorem Serves.begin (h : s.Serves pending building) (j : Job)
    (hj : ∀ slot ∈ j.slot?, slot ∈ pending ∧ slot ∉ building) :
    (s.begin j).1.Serves pending (buildingAfter (s.begin j).2.1 j.slot? ++ building) := by
  have hbegun := s.begun j
  generalize s.begin j = result at hbegun
  cases hbegun with
  | lists slot call p htask =>
    have hslot : j.slot? = some slot := by
      unfold Job.slot?
      rw [htask]
    obtain ⟨hmem, hnew⟩ := hj slot hslot
    rw [hslot]
    exact h.listItems hmem hnew p
  | cancels id =>
    have hsub : (s.inFlight.filter (·.id ≠ id)).Sublist s.inFlight := List.filter_sublist
    exact { h with
      distinct := (hsub.map Slot.id).nodup h.distinct
      exited := fun hexited => by
        change s.inFlight.filter (·.id ≠ id) = []
        rw [h.exited hexited, List.filter_nil]
      inFlight := List.Subset.trans hsub.subset h.inFlight
      givenUp := List.append_subset.mpr
        ⟨h.givenUp, List.Subset.trans List.filter_sublist.subset h.inFlight⟩ }
  | ends documents outline notice response hunf hservice hclock =>
    exact { h with
      builds := by
        change (outline.unfinished.map (·.id)).Perm building
        rw [hunf]
        exact h.builds
      tickets := by
        change (outline.unfinished.map (·.ticket)).Nodup
        rw [hunf]
        exact h.tickets
      past := fun u hu => (h.past u (hunf ▸ hu)).trans_le hclock }

/-! ## Going on -/

/-- **Going on** with a request whose build goes on: it does so, or it has come to an end, unless
the request has been given up. -/
theorem Serves.resume {slot : Slot} (h : s.Serves pending (slot :: building)) :
    ∃ left, (left = [] ∨ left = [slot]) ∧ (s.resume slot).1.Serves pending (left ++ building) ∧
      ((s.resume slot).2.1 = .waits → left = [slot]) ∧
      ∀ notice response, (s.resume slot).2.1 = .ends (some notice) response → left = [] := by
  by_cases hgivenUp : slot ∈ s.givenUp
  · have hresume : s.resume slot = (s, canceled slot, []) := if_pos hgivenUp
    rw [hresume]
    exact ⟨[slot], .inr rfl, h, fun _ => rfl, fun _ _ heq => by simp [canceled] at heq⟩
  -- the build of the request stands among those that have not ended
  have hmem : slot ∈ s.outline.unfinished.map (·.id) := h.builds.symm.subset List.mem_cons_self
  obtain ⟨u, hu, rfl⟩ := List.mem_map.mp hmem
  obtain ⟨us, vs, hunf⟩ := List.append_of_mem hu
  have hids : ((us ++ u :: vs).map (·.id)).Nodup := by
    rw [← hunf]
    exact h.builds.nodup_iff.mpr h.nodup_building
  have htickets : ((us ++ u :: vs).map (·.ticket)).Nodup := hunf ▸ h.tickets
  have hpast : ∀ x ∈ us ++ u :: vs, x.ticket < s.outline.clock := hunf ▸ h.past
  have hbuilds : ((us ++ u :: vs).map (·.id)).Perm (u.id :: building) := hunf ▸ h.builds
  have hresume : s.resume u.id = ({ s with outline := (s.outline.resume u.id).1 },
      s.progress (s.outline.resume u.id).2, (s.outline.resume u.id).2.events) := if_neg hgivenUp
  rw [hresume]
  obtain ⟨-, heq⟩ | ⟨outcome, -, heq⟩ := Outline.resume_outcome hunf
    (Outline.key_ne_of_nodup hids) (Outline.key_ne_of_nodup htickets)
  · -- the build goes on
    refine ⟨[u.id], .inr rfl, ?_, fun _ => rfl, fun notice response hends => ?_⟩
    · rw [heq]
      exact { h with
        builds := by simpa using hbuilds
        tickets := by simpa using htickets
        past := fun x hx => by
          rcases List.mem_append.mp hx with hx | hx
          · exact hpast x (List.mem_append_left _ hx)
          · rcases List.mem_cons.mp hx with rfl | hx
            · exact hpast u (List.mem_append_right _ List.mem_cons_self)
            · exact hpast x (List.mem_append_right _ (List.mem_cons_of_mem _ hx)) }
    · rw [heq] at hends
      cases hends
  · -- the build has come to an end
    have hsub : (us ++ vs).Sublist (us ++ u :: vs) := (List.sublist_cons_self u vs).append_left us
    refine ⟨[], .inl rfl, ?_, fun hwaits => ?_, fun _ _ _ => rfl⟩
    · rw [heq]
      refine { h with builds := ?_, building_subset := ?_, nodup_building := ?_,
                      tickets := (hsub.map _).nodup htickets,
                      past := fun x hx => hpast x (hsub.subset hx) }
      · rw [List.map_append, List.map_cons] at hbuilds
        simpa using (List.perm_middle.symm.trans hbuilds).cons_inv
      · exact List.Subset.trans (List.subset_cons_self _ _) h.building_subset
      · exact (List.nodup_cons.mp h.nodup_building).2
    · obtain ⟨notice, response, hends⟩ := outcome_ends s ⟨u.id, u.ticket, outcome.map some⟩
      rw [heq] at hwaits
      exact absurd (hends.symm.trans hwaits) (by simp)

/-! ## Finishing -/

/-- **Finishing** a job leaves the others with their requests. -/
theorem Serves.finish {j : Job} {left : List Slot}
    (h : s.Serves (j.slot?.toList ++ pending) (left ++ building)) (hleft : left ⊆ j.slot?.toList)
    (hbuilding : building ⊆ pending) (response : Option Response) :
    (s.finish j response).Serves pending building := by
  have hphase : ∀ phase, (if j.starts then phaseAfter response else phase) = .exited →
      phase = .exited := by
    intro phase heq
    by_contra hne
    exact phase_finish j.starts response hne heq
  rw [finish_eq]
  cases hslot : j.slot? with
  | none =>
    rw [hslot, Option.toList_none, List.subset_nil] at hleft
    rw [hslot, Option.toList_none, List.nil_append, hleft, List.nil_append] at h
    exact { h with exited := fun hexited => h.exited (hphase _ hexited) }
  | some slot =>
    rw [hslot, Option.toList_some, List.singleton_append] at h
    rw [hslot, Option.toList_some] at hleft
    have hfresh := (List.nodup_cons.mp h.nodup_pending).1
    have hsub : (s.outline.unfinished.filter (·.id ≠ slot)).Sublist s.outline.unfinished :=
      List.filter_sublist
    have hkept : building.filter (· ≠ slot) = building :=
      List.filter_eq_self.mpr fun x hx => by
        simpa using fun heq : x = slot => hfresh (heq ▸ hbuilding hx)
    have hgone : left.filter (· ≠ slot) = [] :=
      List.filter_eq_nil_iff.mpr fun x hx => by simpa using hleft hx
    refine ⟨(List.filter_sublist.map Slot.id).nodup h.distinct, fun hexited => ?_, ?_, ?_,
      (List.nodup_cons.mp h.nodup_pending).2,
      fun x hx => h.serials x (List.mem_cons_of_mem _ hx), ?_, hbuilding,
      (List.nodup_append.mp h.nodup_building).2.1, (hsub.map _).nodup h.tickets,
      fun u hu => h.past u (hsub.subset hu)⟩
    · change s.inFlight.filter _ = []
      rw [h.exited (hphase _ hexited), List.filter_nil]
    · intro x hx
      obtain ⟨hx, hne⟩ := List.mem_filter.mp hx
      have hne : x ≠ slot := fun heq => by simp [heq] at hne
      exact (List.mem_cons.mp (h.inFlight hx)).resolve_left hne
    · intro x hx
      obtain ⟨hx, hne⟩ := List.mem_filter.mp hx
      exact (List.mem_cons.mp (h.givenUp hx)).resolve_left (by simpa using hne)
    · have hperm := h.builds.filter (· ≠ slot)
      rw [List.filter_append, hgone, hkept, List.nil_append, List.filter_map] at hperm
      exact hperm

/-- Builds are not told of a change of the service. -/
theorem Serves.adopt (h : s.Serves pending building) (c : Analysis.Step) :
    { s with outline := s.outline.adopt c }.Serves pending building := { h with }

/-! ## Builds at closed gates -/

theorem outline_accept (hphase : s.phase ≠ .exited) (msg : Message) :
    (s.accept msg).1.outline = s.outline := by
  have haccepted := accepted hphase msg
  generalize s.accept msg = accepted at haccepted
  obtain ⟨s', j⟩ := accepted
  cases haccepted <;> rfl

theorem atGates_begin (h : s.outline.AtGates) (j : Job) : (s.begin j).1.outline.AtGates := by
  have hbegun := s.begun j
  generalize s.begin j = result at hbegun
  cases hbegun with
  | lists slot call p => exact h.step (.request slot _ _)
  | cancels id => exact h
  | ends documents outline notice response hunf hservice =>
    intro u hu
    change u.build.AtGates outline.service
    rw [hservice]
    exact h u (hunf ▸ hu)

theorem atGates_finish (h : s.outline.AtGates) (j : Job) (response : Option Response) :
    (s.finish j response).outline.AtGates := by
  rw [finish_eq]
  cases j.slot? with
  | none => exact h
  | some slot => exact h.drop slot

/-- Going on with a request whose build waits at closed gates changes nothing. -/
theorem resume_of_atGates (h : s.outline.AtGates) {slot : Slot} (hslot : slot ∉ s.givenUp) :
    s.resume slot = (s, .waits, []) := by
  simp only [Session.resume, if_neg hslot, h.resume_eq]
  rfl

/-! ## Requests that are given up -/

theorem nodup_givenUp_begin (hdistinct : (s.inFlight.map (·.id)).Nodup) (hgivenUp : s.givenUp = [])
    (j : Job) : (s.begin j).1.givenUp.Nodup := by
  have hnone : s.givenUp.Nodup := hgivenUp ▸ List.nodup_nil
  have hbegun := s.begun j
  generalize s.begin j = result at hbegun
  cases hbegun with
  | lists slot call p => exact hnone
  | cancels id =>
    change (s.givenUp ++ s.inFlight.filter (·.id = id)).Nodup
    rw [hgivenUp, List.nil_append]
    exact (List.Nodup.of_map _ hdistinct).filter _
  | ends documents outline notice response => exact hnone

theorem silent_begin (s : Session) (j : Job) : (s.begin j).1.silent = s.silent := by
  have hbegun := s.begun j
  generalize s.begin j = result at hbegun
  cases hbegun <;> rfl

/-- Only a request for items waits when it has been begun, and it gives nothing up. -/
theorem begin_waits {j : Job} (h : (s.begin j).2.1 = .waits) :
    ∃ slot p, j.task = .request slot (.ok (.outline p)) ∧
      (s.begin j).1.givenUp = s.givenUp := by
  have hbegun := s.begun j
  generalize s.begin j = result at hbegun h
  cases hbegun with
  | lists slot call p htask hcall =>
    subst hcall
    exact ⟨slot, p, htask, rfl⟩
  | cancels id => cases h
  | ends documents outline notice response => cases h

theorem silent_finish (s : Session) (j : Job) (response : Option Response) :
    (s.finish j response).silent = s.silent := by
  rw [finish_eq]
  cases j.slot? <;> rfl

/-- Finishing a job gives no request up. -/
theorem givenUp_finish (s : Session) (j : Job) (response : Option Response) :
    (s.finish j response).givenUp.Sublist s.givenUp := by
  rw [finish_eq]
  cases j.slot? with
  | none => exact .refl _
  | some slot => exact List.filter_sublist

/-- The order in which requests are answered does not matter. -/
theorem foldl_settle_perm {slots slots' : List Slot} (h : slots.Perm slots') :
    slots.foldl settle s = slots'.foldl settle s := by
  simp only [foldl_settle, h.mem_iff, (h.map Slot.id).mem_iff]

/-- The requests that have been given up may be answered one after the other. -/
theorem answerGivenUp_settle {slot : Slot} (hslot : slot ∈ s.givenUp) (hnodup : s.givenUp.Nodup) :
    (s.settle slot).answerGivenUp.1 = s.answerGivenUp.1 ∧
      s.answerGivenUp.2.Perm (cancellation slot :: (s.settle slot).answerGivenUp.2) := by
  have hothers : s.givenUp.erase slot = (s.settle slot).givenUp := by
    rw [hnodup.erase_eq_filter slot]
    exact List.filter_congr fun x _ => by by_cases hx : x = slot <;> simp [hx]
  have hperm : s.givenUp.Perm (slot :: (s.settle slot).givenUp) :=
    hothers ▸ List.perm_cons_erase hslot
  exact ⟨(foldl_settle_perm hperm).symm, hperm.map cancellation⟩

/-! ## All parts at once -/

/-- All that comes of an accepted job, as far as it goes. -/
def handle (s : Session) (j : Job) : Session × Effects :=
  let (s, progress, events) := s.begin j
  let (s, sent) := match progress with
    | .waits => (s, [])
    | .ends notice response => (s.finish j response, outgoing notice response)
  let (s, canceled) := s.answerGivenUp
  (s, ⟨sent ++ canceled, events⟩)

/-- To take a message is to accept it, and to do what comes of its job. -/
theorem step_receive (hphase : s.phase ≠ .exited) (msg : Message) :
    s.step (.receive msg) = (((s.accept msg).1.handle (s.accept msg).2).1,
      some ((s.accept msg).1.handle (s.accept msg).2).2) := by
  simp only [step, receive, if_neg hphase]
  rfl

end TokenOutline.Server.Session
