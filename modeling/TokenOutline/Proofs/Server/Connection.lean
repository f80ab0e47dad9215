import TokenOutline.Proofs.Server.Handling
import TokenOutline.Server.Connection

/-!
# What a connection keeps

Turn by turn a connection takes the parts of many messages, in an order that depends on what has
been read, written and answered. Whatever the order, its session serves the requests of its jobs:
each build that goes on belongs to one job in hand, and each request in flight to one job that has
not ended. So no answer gets lost between the jobs, and none is given twice.

Headlines:
* `Connection.load`: what a connection has to do; writing leaves it alone.
* **`Load.Sound`**: the invariant.
* **`Connection.sound_turn`**, **`Connection.sound_run`**: each turn, and so every run, keeps it.
-/

namespace TokenOutline.Server

/-! ## Loads -/

/-- Whether a job waits for lookups of its build. -/
def Stage.isBuilding : Stage → Bool
  | .building => true
  | _ => false

/-- What there is to do: the jobs in hand and those that wait, and the session they are about. -/
structure Load where
  session : Session
  inHand : List InHand
  jobs : List Job
  nextNumber : Nat

/-- What a connection has to do. -/
def Connection.load (c : Connection) : Load := ⟨c.session, c.inHand, c.jobs.items, c.nextNumber⟩

namespace Connection

@[simp] theorem load_record (c : Connection) (es : List Event) : (c.record es).load = c.load := rfl

@[simp] theorem load_callJob (c : Connection) (n : Nat) : (c.callJob n).load = c.load := by
  unfold callJob
  split <;> rfl

@[simp] theorem load_callJobs (c : Connection) (p : InHand → Bool) :
    (c.callJobs p).load = c.load := by
  have hfold : ∀ (hs : List InHand) (c : Connection),
      (hs.foldl (fun c h => c.callJob h.number) c).load = c.load := by
    intro hs
    induction hs with
    | nil => exact fun c => rfl
    | cons h hs ih => exact fun c => (ih _).trans (load_callJob c h.number)
  exact hfold _ c

@[simp] theorem load_withSession (c : Connection) (s : Session) :
    (c.withSession s).load = { c.load with session := s } := by
  unfold withSession
  dsimp only
  split
  · exact load_callJobs _ _
  · exact load_callJobs _ _

@[simp] theorem load_putJob (c : Connection) (j : Job) :
    (c.putJob j).load = { c.load with jobs := c.load.jobs ++ [j] } := rfl

/-! ## Writing -/

theorem load_writeResponse (c : Connection) : c.writeResponse.1.load = c.load := by
  unfold writeResponse
  split
  · rfl
  · dsimp only
    split <;> rfl

theorem load_writeNotice (c : Connection) : c.writeNotice.1.load = c.load := by
  unfold writeNotice
  split
  · rfl
  · split
    · dsimp only
      split
      · exact load_callJob _ _
      · rfl
    · dsimp only
      split <;> rfl

/-- While both may come, one of them is looked at first, and the other one if there was none. -/
theorem writeOne_both {c : Connection} (hresponses : c.responsesEnded = false)
    (hnotices : c.noticesEnded = false) :
    let c' := { c with responsesNext := !c.responsesNext }
    let first := if c.responsesNext then c'.writeResponse else c'.writeNotice
    c.writeOne = if first.2 then first
      else if c.responsesNext then first.1.writeNotice else first.1.writeResponse := by
  intro c' first
  unfold writeOne
  rw [if_neg (by simp [hresponses]), if_neg (by simp [hnotices])]
  dsimp only
  split
  · rename_i d heq
    have hfirst : first = (d, true) := heq
    rw [hfirst, if_pos rfl]
  · rename_i d heq
    have hfirst : first = (d, false) := heq
    rw [hfirst, if_neg Bool.false_ne_true]

theorem load_writeOne (c : Connection) : c.writeOne.1.load = c.load := by
  cases hresponses : c.responsesEnded with
  | true =>
    simp only [writeOne, hresponses, if_true]
    split
    · rfl
    · exact load_writeNotice c
  | false =>
    cases hnotices : c.noticesEnded with
    | true =>
      simp only [writeOne, hresponses, hnotices, if_true, Bool.false_eq_true, if_false]
      exact load_writeResponse c
    | false =>
      rw [writeOne_both hresponses hnotices]
      cases c.responsesNext
      · simp only [Bool.false_eq_true, if_false]
        split
        · exact load_writeNotice _
        · exact (load_writeResponse _).trans (load_writeNotice _)
      · simp only [if_true]
        split
        · exact load_writeResponse _
        · exact (load_writeNotice _).trans (load_writeResponse _)

theorem load_writeAll (fuel : Nat) (c : Connection) : (c.writeAll fuel).load = c.load := by
  induction fuel generalizing c with
  | zero => rfl
  | succ fuel ih =>
    have hone := load_writeOne c
    unfold writeAll
    split
    · rename_i c' heq
      rw [heq] at hone
      exact (ih c').trans hone
    · rename_i c' heq
      rw [heq] at hone
      exact hone

/-- Writing leaves alone what there is to do. -/
theorem load_write (c : Connection) : c.write.load = c.load := load_writeAll _ c

end Connection

/-! ## The invariant -/

/-- The request of a job in hand whose build goes on. -/
def InHand.building (h : InHand) : List Slot :=
  if h.stage.isBuilding then h.job.slot?.toList else []

/-- A job in hand at another stage. -/
def InHand.at (h : InHand) (number : Nat) (stage : Stage) : InHand :=
  if h.number = number then { h with stage } else h

@[simp] theorem InHand.number_at (h : InHand) (number : Nat) (stage : Stage) :
    (h.at number stage).number = h.number := by
  unfold InHand.at
  split <;> rfl

@[simp] theorem InHand.job_at (h : InHand) (number : Nat) (stage : Stage) :
    (h.at number stage).job = h.job := by
  unfold InHand.at
  split <;> rfl

namespace Load

/-- The requests of the jobs that have not ended. -/
def pending (l : Load) : List Slot := (l.inHand.map (·.job) ++ l.jobs).filterMap Job.slot?

/-- The requests of the jobs in hand whose builds go on. -/
def building (l : Load) : List Slot := l.inHand.flatMap InHand.building

/-- What there is to do but for one job in hand. -/
def without (l : Load) (h : InHand) : Load :=
  { l with inHand := l.inHand.filter (·.number ≠ h.number) }

/-- What holds of what there is to do. -/
structure Sound (l : Load) : Prop where
  serves : l.session.Serves l.pending l.building
  hands : l.inHand.length ≤ Connection.concurrency
  numbers : (l.inHand.map (·.number)).Nodup
  below : ∀ h ∈ l.inHand, h.number < l.nextNumber

variable {l l' : Load} {h : InHand}

theorem building_subset (l : Load) : l.building ⊆ l.pending := by
  intro x hx
  obtain ⟨h, hh, hx⟩ := List.mem_flatMap.mp hx
  unfold InHand.building at hx
  split at hx
  · exact List.mem_filterMap.mpr ⟨h.job, List.mem_append_left _ (List.mem_map_of_mem hh),
      Option.mem_toList.mp hx⟩
  · exact absurd hx List.not_mem_nil

/-- A job in hand is one of its own number, and all others have other ones. -/
theorem perm_without (hnumbers : (l.inHand.map (·.number)).Nodup) (hh : h ∈ l.inHand) :
    l.inHand.Perm (h :: (l.without h).inHand) := by
  obtain ⟨before, after, heq⟩ := List.append_of_mem hh
  rw [heq, List.map_append, List.map_cons, List.nodup_middle, List.nodup_cons, ← List.map_append]
    at hnumbers
  have hothers : (before ++ after).filter (·.number ≠ h.number) = before ++ after :=
    List.filter_eq_self.mpr fun x hx => by
      simpa using fun hx' : x.number = h.number => hnumbers.1 (hx' ▸ List.mem_map_of_mem hx)
  have hwithout : (l.without h).inHand = before ++ after := by
    rw [← hothers]
    simp [without, heq]
  rw [heq, hwithout]
  exact List.perm_middle

theorem pending_perm (hperm : l.inHand.Perm (h :: l'.inHand)) (hjobs : l.jobs = l'.jobs) :
    l.pending.Perm (h.job.slot?.toList ++ l'.pending) := by
  have hperm := ((hperm.map (·.job)).append_right l.jobs).filterMap Job.slot?
  rw [List.map_cons, List.cons_append, List.filterMap_cons, hjobs] at hperm
  unfold pending
  rw [hjobs]
  cases hslot : h.job.slot? <;> simp only [hslot] at hperm <;> exact hperm

theorem building_perm (hperm : l.inHand.Perm (h :: l'.inHand)) :
    l.building.Perm (h.building ++ l'.building) := hperm.flatMap_right InHand.building

/-- A message is accepted. -/
theorem Sound.accept (hs : l.Sound) (hphase : l.session.phase ≠ .exited) (msg : Message) :
    Sound { l with
      session := (l.session.accept msg).1
      jobs := l.jobs ++ [(l.session.accept msg).2] } := by
  refine { hs with serves := (hs.serves.accept hphase msg).perm (.of_eq ?_) (.refl _) }
  unfold pending
  rw [← List.append_assoc, List.filterMap_append]
  cases hslot : (l.session.accept msg).2.slot? <;> simp [hslot]

/-- A job that waits is taken in hand. -/
theorem Sound.takeInHand (hs : l.Sound) {j : Job} {js : List Job} (hjobs : l.jobs = j :: js)
    (hfree : l.inHand.length < Connection.concurrency) :
    Sound { l with
      inHand := l.inHand ++ [⟨j, l.nextNumber, .fresh⟩]
      jobs := js
      nextNumber := l.nextNumber + 1 } := by
  refine ⟨hs.serves.perm (.of_eq ?_) (.of_eq ?_), ?_, ?_, ?_⟩
  · simp [pending, hjobs]
  · simp [building, InHand.building, Stage.isBuilding]
  · rw [List.length_append]
    exact hfree
  · rw [List.map_append, List.nodup_append]
    refine ⟨hs.numbers, List.nodup_singleton _, ?_⟩
    rintro x hx y hy rfl
    obtain ⟨h, hh, rfl⟩ := List.mem_map.mp hx
    have := hs.below h hh
    simp at hy
    omega
  · intro h hh
    rcases List.mem_append.mp hh with hh | hh
    · exact (hs.below h hh).trans (Nat.lt_succ_self _)
    · rw [List.mem_singleton.mp hh]
      exact Nat.lt_succ_self _

/-- A job in hand goes on, and comes to another stage. -/
theorem Sound.setStage (hs : l.Sound) (hh : h ∈ l.inHand) {s : Session} {stage : Stage}
    (hserves : s.Serves l.pending (InHand.building { h with stage } ++ (l.without h).building)) :
    Sound { l with session := s, inHand := l.inHand.map (·.at h.number stage) } := by
  have hothers : (l.without h).inHand.map (·.at h.number stage) = (l.without h).inHand :=
    (List.map_congr_left fun x hx => if_neg (by simpa using (List.mem_filter.mp hx).2)).trans
      (List.map_id _)
  have hperm := (perm_without hs.numbers hh).map (·.at h.number stage)
  rw [List.map_cons, hothers, InHand.at, if_pos rfl] at hperm
  refine ⟨hserves.perm (.of_eq ?_) (building_perm hperm).symm, ?_, ?_, fun x hx => ?_⟩
  · simp [pending, Function.comp_def]
  · rw [List.length_map]
    exact hs.hands
  · simpa [Function.comp_def] using hs.numbers
  · obtain ⟨y, hy, rfl⟩ := List.mem_map.mp hx
    rw [InHand.number_at]
    exact hs.below y hy

/-- A job in hand ends. -/
theorem Sound.ends (hs : l.Sound) (hh : h ∈ l.inHand) {s : Session} {left : List Slot}
    (hleft : left ⊆ h.job.slot?.toList)
    (hserves : s.Serves l.pending (left ++ (l.without h).building)) (response : Option Response) :
    Sound { l.without h with session := s.finish h.job response } := by
  have hsub : (l.without h).inHand.Sublist l.inHand := List.filter_sublist
  refine ⟨?_, hsub.length_le.trans hs.hands, (hsub.map _).nodup hs.numbers,
    fun x hx => hs.below x (hsub.subset hx)⟩
  have hpending : l.pending.Perm (h.job.slot?.toList ++ (l.without h).pending) :=
    pending_perm (perm_without hs.numbers hh) rfl
  exact (hserves.perm hpending (.refl _)).finish hleft (building_subset (l.without h)) response

end Load

/-! ## Reading and working -/

namespace Connection

variable {c : Connection}

theorem sound_ofService (service : Analysis) : (ofService service).load.Sound where
  serves := Session.serves_ofService service
  hands := Nat.zero_le _
  numbers := List.nodup_nil
  below _ hh := absurd hh List.not_mem_nil

theorem sound_takeMessage (hs : c.load.Sound) (hphase : c.session.phase ≠ .exited) (m : Message) :
    (c.takeMessage m).load.Sound := by
  have haccept := hs.accept hphase m
  have hload : ((c.withSession (c.session.accept m).1).putJob (c.session.accept m).2).load =
      { c.load with
        session := (c.session.accept m).1
        jobs := c.load.jobs ++ [(c.session.accept m).2] } := by simp
  rw [show c.load.session = c.session from rfl, ← hload] at haccept
  unfold takeMessage
  dsimp only
  split <;> exact haccept

theorem sound_readOne (hs : c.load.Sound) : c.readOne.1.load.Sound := by
  unfold readOne
  dsimp only
  split
  · exact hs
  · exact hs
  · exact hs
  · split
    · exact hs
    · rename_i hphase
      split
      · exact hs
      · exact sound_takeMessage (c := { c with stream := c.stream.next.1 }) hs hphase _

theorem sound_readAll (fuel : Nat) (hs : c.load.Sound) : (c.readAll fuel).load.Sound := by
  induction fuel generalizing c with
  | zero => exact hs
  | succ fuel ih =>
    have hone := sound_readOne hs
    unfold readAll
    split
    · rename_i c' heq
      rw [heq] at hone
      exact ih hone
    · rename_i c' heq
      rw [heq] at hone
      exact hone

theorem sound_read (hs : c.load.Sound) : c.read.load.Sound := by
  unfold read
  dsimp only
  split
  · exact sound_readAll _ hs
  · split
    · exact hs
    · exact sound_readAll _ hs
  · split
    · exact hs
    · exact sound_readAll _ hs
  · exact hs
  · exact hs

theorem sound_takeInHand (free : Nat) (hs : c.load.Sound)
    (hfree : c.inHand.length + free ≤ concurrency) : (c.takeInHand free).load.Sound := by
  induction free generalizing c with
  | zero => exact hs
  | succ free ih =>
    unfold takeInHand
    split
    · rename_i job freed jobs heq
      have hroom : c.load.inHand.length < concurrency := by
        change c.inHand.length < concurrency
        omega
      exact ih (hs.takeInHand (Mailbox.items_take heq) hroom)
        (by rw [List.length_append, List.length_singleton]; omega)
    · split
      · exact hs
      · exact hs

theorem load_setStage (c : Connection) (number : Nat) (stage : Stage) :
    (c.setStage number stage).load =
      { c.load with inHand := c.load.inHand.map (·.at number stage) } := rfl

theorem load_finishJob (c : Connection) (h : InHand) (response : Option Response) :
    (c.finishJob h response).1.load =
      { c.load.without h with session := c.session.finish h.job response } :=
  load_withSession _ _

/-- A part of a job has been taken: its build goes on while it waits, and has come to an end when
it leaves a notice. -/
theorem sound_takeProgress {h : InHand} {s : Session} {p : Progress} {left : List Slot}
    {l : Load} (hl : l.Sound) (hh : h ∈ l.inHand) (hload : c.load = { l with session := s })
    (hserves : s.Serves l.pending (left ++ (l.without h).building))
    (hleft : left ⊆ h.job.slot?.toList) (hwaits : p = .waits → left = h.job.slot?.toList)
    (hnotice : ∀ notice response, p = .ends (some notice) response → left = []) :
    (c.takeProgress h p).1.load.Sound := by
  have hends : ∀ c' : Connection, c'.load = c.load → ∀ response,
      (c'.finishJob h response).1.load.Sound := by
    intro c' hc' response
    have hsession : c'.session = s := congrArg Load.session (hc'.trans hload)
    rw [load_finishJob, hc', hload, hsession]
    exact hl.ends hh hleft hserves response
  have hstays : ∀ (c' : Connection) (stage : Stage), c'.load = c.load →
      InHand.building { h with stage } = left → (c'.setStage h.number stage).load.Sound := by
    intro c' stage hc' hstage
    rw [load_setStage, hc', hload]
    exact hl.setStage hh (hstage ▸ hserves)
  unfold takeProgress
  split
  · have hstage := hstays c .building rfl (hwaits rfl).symm
    dsimp only
    split
    · simpa using hstage
    · exact hstage
  · exact hends c rfl _
  · rename_i notice response
    split
    · exact hends c rfl _
    · dsimp only
      split
      · exact hstays (c.putNotice h.number notice) _ rfl (hnotice notice response rfl).symm
      · exact hends (c.putNotice h.number notice) rfl _

/-- A part of a job in hand is begun in a session, and taken as far as it comes. -/
theorem sound_part {h : InHand} (hs : c.load.Sound) (hh : h ∈ c.inHand) {s : Session}
    {p : Progress} {left : List Slot} (es : List Event)
    (hserves : s.Serves c.load.pending (left ++ (c.load.without h).building))
    (hleft : left ⊆ h.job.slot?.toList) (hwaits : p = .waits → left = h.job.slot?.toList)
    (hnotice : ∀ notice response, p = .ends (some notice) response → left = []) :
    (((c.withSession s).record es).takeProgress h p).1.load.Sound :=
  sound_takeProgress hs hh (by simp) hserves hleft hwaits hnotice

/-- **Going on with a job in hand** keeps the requests of all others. -/
theorem sound_workOn (hs : c.load.Sound) {h : InHand} (hh : h ∈ c.inHand) :
    (c.workOn h).1.load.Sound := by
  have hperm := Load.perm_without (l := c.load) hs.numbers hh
  have hpending : c.load.pending.Perm (h.job.slot?.toList ++ (c.load.without h).pending) :=
    Load.pending_perm hperm rfl
  have hbuilding : c.load.building.Perm (h.building ++ (c.load.without h).building) :=
    Load.building_perm hperm
  have hserves := hs.serves.perm (.refl _) hbuilding
  have hmine : ∀ slot ∈ h.job.slot?, slot ∈ c.load.pending ∧
      slot ∉ (c.load.without h).building := by
    intro slot hslot
    have hnodup := hpending.nodup_iff.mp hs.serves.nodup_pending
    rw [Option.mem_def.mp hslot, Option.toList_some, List.singleton_append] at hpending hnodup
    exact ⟨hpending.symm.subset List.mem_cons_self, fun hmem =>
      (List.nodup_cons.mp hnodup).1 (Load.building_subset _ hmem)⟩
  have hfinish : h.building ⊆ h.job.slot?.toList := by
    unfold InHand.building
    split
    · exact List.Subset.refl _
    · exact List.nil_subset _
  unfold InHand.building at hserves hfinish
  unfold workOn
  dsimp only
  split
  · rename_i hstage
    simp only [hstage, Stage.isBuilding, Bool.false_eq_true, if_false, List.nil_append] at hserves
    refine sound_part hs hh _ (hserves.begin h.job hmine) (Session.buildingAfter_subset _ _)
      (fun hwaits => ?_) fun notice response hends => ?_
    · exact congrArg (Session.buildingAfter · h.job.slot?) hwaits
    · exact congrArg (Session.buildingAfter · h.job.slot?) hends
  · rename_i slot hstage hslot
    simp only [hstage, hslot, Stage.isBuilding, if_true, Option.toList_some,
      List.singleton_append] at hserves
    obtain ⟨left, hleft, hresume, hwaits, hnotice⟩ := hserves.resume
    refine sound_part hs hh _ hresume ?_ ?_ hnotice
    · rw [hslot]
      rcases hleft with rfl | rfl
      · exact List.nil_subset _
      · exact List.Subset.refl _
    · rw [hslot]
      exact hwaits
  · rename_i hstage hslot
    rw [load_finishJob]
    exact hs.ends hh hfinish hserves none
  · rename_i hstage
    simp only [hstage, Stage.isBuilding, Bool.false_eq_true, if_false] at hserves
    split
    · exact sound_part hs hh [] hserves (List.nil_subset _)
        (fun hwaits => absurd hwaits (by simp [Session.canceled])) fun _ _ _ => rfl
    · split
      · exact hs
      · rw [load_finishJob]
        exact hs.ends hh (List.nil_subset _) hserves _

theorem sound_workOnCalled (fuel inHand waited yielded : Nat) (hs : c.load.Sound) :
    (c.workOnCalled fuel inHand waited yielded).1.load.Sound := by
  induction fuel generalizing c waited yielded with
  | zero => exact hs
  | succ fuel ih =>
    unfold workOnCalled
    split
    · exact hs
    · rename_i number called _
      dsimp only
      split
      · exact ih _ _ hs
      · rename_i h hfind
        have hpart := sound_workOn (c := { c with called }) hs (List.mem_of_find?_eq_some hfind)
        generalize Connection.workOn { c with called } h = worked at hpart ⊢
        obtain ⟨c', result⟩ := worked
        cases result with
        | ended response => exact hpart
        | waits =>
          simp only [Bool.false_eq_true, if_false]
          split
          · exact hpart
          · exact ih _ _ hpart
        | yields =>
          simp only [if_true]
          split
          · exact hpart
          · exact ih _ _ hpart

/-- The response that the worker has finished is left for the writer. -/
def handOver (c : Connection) : Connection :=
  match c.finishedResponse with
  | some r => { c with finishedResponse := none }.putResponse .worker r
  | none => c

/-- The worker takes jobs in hand, and looks at those that have been called. -/
def takeUp (c : Connection) : Connection :=
  { c.takeInHand (concurrency - c.inHand.length) with awaiting := true }

/-- All that the worker does before it leaves the next response. -/
def workOnce (c : Connection) : Connection × Option (Option Response) :=
  let c := c.handOver.takeUp
  c.workOnCalled (c.called.length + c.inHand.length + 1) c.inHand.length 0 0

theorem workAll_succ (fuel : Nat) (c : Connection) :
    c.workAll (fuel + 1) =
      if c.finishedResponse.isSome && c.responses.keeps .worker then c
      else match c.workOnce with
        | (c, some response) => workAll fuel { c with finishedResponse := response }
        | (c, none) =>
          if c.inHand.isEmpty && c.jobs.items.isEmpty && c.reading = .finished then
            { c with workFinished := true, responses := c.responses.call }.callFor
              c.responses.listening
          else c := rfl

theorem load_handOver (c : Connection) : c.handOver.load = c.load := by
  unfold handOver
  split <;> rfl

theorem handOver_none (hfinished : c.finishedResponse = none) : c.handOver = c := by
  unfold handOver
  rw [hfinished]

theorem sound_takeUp (hs : c.load.Sound) : c.takeUp.load.Sound := by
  have hhands : c.inHand.length ≤ concurrency := hs.hands
  exact sound_takeInHand (concurrency - c.inHand.length) hs (by omega)

theorem sound_workOnce (hs : c.load.Sound) : c.workOnce.1.load.Sound := by
  have hhanded : c.handOver.load.Sound := (load_handOver c).symm ▸ hs
  exact sound_workOnCalled (c := c.handOver.takeUp) _ _ 0 0 (sound_takeUp hhanded)

theorem sound_workAll (fuel : Nat) (hs : c.load.Sound) : (c.workAll fuel).load.Sound := by
  induction fuel generalizing c with
  | zero => exact hs
  | succ fuel ih =>
    have honce := sound_workOnce hs
    rw [workAll_succ]
    split
    · exact hs
    · generalize c.workOnce = worked at honce ⊢
      obtain ⟨c', response⟩ := worked
      cases response with
      | some response => exact ih honce
      | none =>
        dsimp only
        split
        · exact honce
        · exact honce

theorem sound_work (hs : c.load.Sound) : c.work.load.Sound := by
  unfold work
  split
  · exact hs
  · exact sound_workAll _ hs

/-! ## Turns and runs -/

/-- **A turn keeps the requests and their jobs together.** -/
theorem sound_turn (hs : c.load.Sound) : c.turn.load.Sound := by
  refine sound_work (sound_read ?_)
  rw [load_write]
  exact hs

theorem sound_turns (fuel : Nat) (hs : c.load.Sound) : (c.turns fuel).load.Sound := by
  induction fuel generalizing c with
  | zero => exact hs
  | succ fuel ih =>
    have hturn := sound_turn hs
    unfold turns
    dsimp only
    split
    · exact ih hturn
    · exact hturn

theorem sound_take (hs : c.load.Sound) (x : Step) : (c.take x).load.Sound := by
  cases x with
  | arrive octets =>
    simp only [take]
    split <;> exact hs
  | close => exact hs
  | service x =>
    have hadopt : Load.Sound { c.load with
        session := { c.session with outline := c.session.outline.adopt x } } :=
      { hs with serves := hs.serves.adopt x }
    unfold take changeService
    dsimp only
    split
    · rw [load_callJobs]
      exact hadopt
    · exact hadopt

theorem sound_step (hs : c.load.Sound) (x : Step) : (c.step x).1.load.Sound := by
  have htake := sound_take (c := { c with effects := {} }) hs x
  unfold step
  dsimp only
  split
  · exact htake
  · exact sound_turns _ htake

/-- **Every run keeps the requests and their jobs together**: whatever arrives and whatever changes,
at most `concurrency` jobs are in hand, no two of one number, each build that goes on belongs to one
of them, and each request that is in flight or has been given up to one job that has not ended. -/
theorem sound_run (service : Analysis) (steps : List Step) :
    ∀ x ∈ (ofService service).run steps, x.2.load.Sound := by
  have hrun : ∀ (steps : List Step) (c : Connection), c.load.Sound →
      ∀ x ∈ c.run steps, x.2.load.Sound := by
    intro steps
    induction steps with
    | nil => exact fun c _ x hx => absurd hx List.not_mem_nil
    | cons step steps ih =>
      intro c hs x hx
      have hstep := sound_step hs step
      simp only [run] at hx
      rcases List.mem_cons.mp hx with rfl | hx
      · exact hstep
      · exact ih _ hstep x hx
  exact hrun steps _ (sound_ofService service)

end Connection

end TokenOutline.Server
