import TokenOutline.Proofs.Server.Documents

/-!
# Announced changes

A session announces to the editor for which document the outline changed. What is announced in a
step is read off what the step tells of the documents and the settings, and the count of changes is
the number of announcements and of new settings so far.

Headlines:
* `Session.announced`: the documents that a step announces.
* **`Session.announced_step`**: what every step announces.
* **`Session.changes_announced`**: no change of the active document goes unannounced, and the count
  of changes accounts for all announcements.
-/

namespace TokenOutline.Server

/-- The document of an announcement. -/
def Outgoing.change? : Outgoing → Option (Option Url)
  | .notice (.changed uri) => some uri
  | _ => none

/-- The documents that are announced as changed. -/
def Effects.changes (e : Effects) : List (Option Url) := e.outgoing.filterMap (·.change?)

/-- New settings come that are as settings have to be. -/
def Call.configures : Call → Bool
  | .settings value => (Settings.decode value).isOk
  | _ => false

theorem changes_eq_nil {e : Effects} (h : ∀ o ∈ e.outgoing, o.change? = none) : e.changes = [] :=
  List.filterMap_eq_nil_iff.mpr h

namespace Session

variable {s : Session} {msg : Message}

/-- The documents that a step announces as changed. -/
def announced (s : Session) (x : Step) : List (Option Url) := (s.step x).2.elim [] Effects.changes

/-- The documents that the steps of a run announce as changed. -/
def announcedIn (s : Session) (steps : List Step) : List (Option Url) :=
  (s.run steps).flatMap fun r => r.1.elim [] Effects.changes

/-- What a session announces when it is told something of the documents or the settings. -/
def announcement (d : Documents) : Call → List (Option Url)
  | .opened u | .changed u | .saved u => [some u]
  | .closed u => if d.active = some u then [(d.close u).active] else []
  | .activated u => if d.active = u then [] else [u]
  | .settings value => if (Settings.decode value).isOk then [d.active] else []
  | _ => []

/-! ## Steps -/

theorem change?_replies (f : Finished Slot) : ∀ o ∈ f.replies, o.change? = none := by
  unfold Finished.replies
  cases f.answer <;> simp [Outgoing.change?]

theorem changes_follow (s : Session) (x : Outline.Step Slot) : (s.follow x).2.changes = [] := by
  refine changes_eq_nil fun o ho => ?_
  obtain ⟨f, -, hf⟩ := List.mem_flatMap.mp ho
  exact change?_replies f o hf

theorem generation_follow (s : Session) (x : Outline.Step Slot) (hx : x.counts = 0) :
    (s.follow x).1.outline.generation = s.outline.generation := by
  rw [follow, Outline.generation_step, hx, Nat.add_zero]

theorem changes_cancellations (slots : List Slot) :
    Effects.changes ⟨slots.map cancellation, []⟩ = [] := by
  refine changes_eq_nil fun o ho => ?_
  obtain ⟨slot, -, rfl⟩ := List.mem_map.mp ho
  rfl

theorem changes_log (severity : Severity) (text : String) :
    Effects.changes ⟨(s.log severity text).toList.map .notice, []⟩ = [] := by
  unfold log
  split <;> rfl

/-- While the session is up, a change is announced and counted. -/
theorem announce_spec (hphase : s.phase = .initialized) (hsilent : s.silent = false)
    (u : Option Url) :
    Effects.changes ⟨(s.announce u).2.toList.map .notice, []⟩ = [u] ∧
      (s.announce u).1.outline.generation = s.outline.generation + 1 := by
  simp [announce, hphase, hsilent, Effects.changes, Outgoing.change?, Outline.generation_step,
    Outline.Step.counts]

theorem takeSettings_spec (hphase : s.phase = .initialized) (hsilent : s.silent = false)
    (value : Json) :
    Effects.changes ⟨(s.takeSettings value).2.toList.map .notice, []⟩ =
        (if (Settings.decode value).isOk then [s.documents.active] else []) ∧
      (s.takeSettings value).1.outline.generation =
        s.outline.generation + if (Settings.decode value).isOk then 2 else 0 := by
  cases hdecode : Settings.decode value with
  | ok settings =>
    obtain ⟨hsent, hcount⟩ := announce_spec
      (s := { s with outline := (s.outline.step (.configure value)).1 }) hphase hsilent
      s.documents.active
    simp only [takeSettings, hdecode]
    refine ⟨hsent, hcount.trans ?_⟩
    rw [Outline.generation_step]
    simp [Outline.Step.counts, hdecode, Except.isOk, Except.toBool]
  | error e =>
    simp only [takeSettings, hdecode]
    exact ⟨changes_log .warning _, rfl⟩

/-- What is told of the documents and the settings is announced and counted. -/
theorem notified_spec (hphase : s.phase = .initialized) (hsilent : s.silent = false) (call : Call) :
    Effects.changes ⟨(s.notified call).2.toList.map .notice, []⟩ = announcement s.documents call ∧
      (s.notified call).1.outline.generation = s.outline.generation +
        (announcement s.documents call).length + (if call.configures then 1 else 0) := by
  cases call with
  | opened u => exact announce_spec (s := { s with documents := _ }) hphase hsilent (some u)
  | changed u => exact announce_spec hphase hsilent (some u)
  | saved u => exact announce_spec hphase hsilent (some u)
  | closed u =>
    simp only [notified, close, announcement]
    split
    · exact announce_spec (s := { s with documents := _ }) hphase hsilent _
    · exact ⟨rfl, rfl⟩
  | activated u =>
    simp only [notified, activate, announcement]
    split
    · exact ⟨rfl, rfl⟩
    · exact announce_spec (s := { s with documents := _ }) hphase hsilent u
  | settings v =>
    obtain ⟨hsent, hcount⟩ := takeSettings_spec hphase hsilent v
    refine ⟨hsent, hcount.trans ?_⟩
    simp only [announcement, Call.configures]
    by_cases h : (Settings.decode v).isOk = true
    · simp [h]
    · simp [h]
  | started => exact ⟨changes_log .info _, rfl⟩
  | _ => exact ⟨rfl, rfl⟩

/-- **What every step announces**, and how it is counted. -/
theorem announced_step (hs : s.Sound) (x : Step) :
    s.announced x = (s.handled? x).elim [] (announcement s.documents) ∧
      (s.step x).1.outline.generation = s.outline.generation + (s.announced x).length +
        (if (s.handled? x).any Call.configures then 1 else 0) := by
  have htakes := takes_step hs x
  unfold announced
  generalize s.step x = r at htakes
  obtain ⟨s', e⟩ := r
  -- a step that tells nothing announces nothing
  have hquiet : s.handled? x = none → e.elim [] Effects.changes = [] →
      s'.outline.generation = s.outline.generation →
      e.elim [] Effects.changes = (s.handled? x).elim [] (announcement s.documents) ∧
        s'.outline.generation = s.outline.generation + (e.elim [] Effects.changes).length +
          (if (s.handled? x).any Call.configures then 1 else 0) := by
    intro hhandled hsent hcount
    rw [hhandled, hsent]
    exact ⟨rfl, hcount⟩
  cases htakes with
  | idle => exact hquiet rfl rfl rfl
  | serves c =>
    exact hquiet rfl (changes_follow s (.service c)) (generation_follow s (.service c) rfl)
  | heeds msg call hhandled =>
    obtain ⟨hphase, -⟩ := Option.ite_none_right_eq_some.mp hhandled
    have hsilent := hs.not_silent (by simp [hphase])
    obtain ⟨hsent, hcount⟩ := notified_spec hphase hsilent call
    rw [hhandled]
    simp only [Option.elim_some, Option.any_some]
    exact ⟨hsent, by rw [hsent]; exact hcount⟩
  | late msg _ hhandled => exact hquiet hhandled rfl rfl
  | lists msg slot p _ hhandled =>
    exact hquiet hhandled (changes_follow s (s.listing slot p))
      (generation_follow s (s.listing slot p) rfl)
  | cancels msg _ _ _ hhandled => exact hquiet hhandled (changes_cancellations _) rfl
  | exits msg _ _ hhandled => exact hquiet hhandled (changes_cancellations _) rfl
  | answers msg _ _ sent _ _ _ hhandled _ _ _ hsent =>
    refine hquiet hhandled (changes_eq_nil fun o ho => ?_) rfl
    obtain ⟨text, rfl⟩ | ⟨r, rfl, -⟩ := hsent o ho <;> rfl

/-! ## Runs -/

/-- The count of changes is that of the announcements and of the new settings. -/
theorem generation_after (hs : s.Sound) (steps : List Step) :
    (s.after steps).outline.generation = s.outline.generation + (s.announcedIn steps).length +
      (s.handledIn steps).countP Call.configures := by
  induction steps generalizing s with
  | nil => rfl
  | cons x xs ih =>
    have hcount := (announced_step hs x).2
    have hafter : s.after (x :: xs) = (s.step x).1.after xs := rfl
    have hhead : (s.handled? x).toList.countP Call.configures =
        if (s.handled? x).any Call.configures then 1 else 0 := by
      cases s.handled? x <;> simp [List.countP_cons]
    have hsent : s.announcedIn (x :: xs) = s.announced x ++ (s.step x).1.announcedIn xs := rfl
    rw [hafter, ih ((takes_step hs x).sound hs), hcount, hsent, handledIn, List.length_append,
      List.countP_append, hhead]
    omega

/-- A change of the active document is announced, with the document that is active then. -/
theorem announcement_of_change (d : Documents) (call : Call)
    (hchange : (d.after call).active ≠ d.active) :
    announcement d call = [(d.after call).active] := by
  cases call with
  | opened u => rfl
  | closed u =>
    have hactive : d.active = some u := by
      by_contra hne
      exact hchange (if_neg hne)
    exact if_pos hactive
  | activated u => exact if_neg (Ne.symm hchange)
  | _ => exact absurd rfl hchange

/-- A document that is closed or made active is announced just if it changes which one is. -/
theorem announcement_iff_change {d : Documents} {call : Call}
    (hcall : (∃ u, call = .closed u) ∨ ∃ u, call = .activated u) :
    announcement d call =
      if (d.after call).active = d.active then [] else [(d.after call).active] := by
  split
  · rename_i hsame
    obtain ⟨u, rfl⟩ | ⟨u, rfl⟩ := hcall
    · refine if_neg fun hactive => ?_
      -- the document that is closed is not active any more
      have hgone : u ∉ (d.close u).opened := by simp [Documents.close]
      have hlast : (d.close u).active = (d.close u).opened.getLast? := if_pos hactive
      exact hgone (List.mem_of_getLast? (hlast ▸ hsame.trans hactive))
    · exact if_pos hsame.symm
  · rename_i hchange
    exact announcement_of_change d call hchange

/-- **Every change is announced and counted.** In every run, a document that is opened, changed or
saved is announced, and new settings are announced for the active document; a document that is
closed or made active is announced just if another one becomes active, and it is this one that is
announced. Nothing else is announced, and the active document does not change in silence. The count
of changes is the number of announcements and of new settings so far. -/
theorem changes_announced (service : Analysis) (steps : List Step) :
    let begun := ofService service
    let s := begun.after steps
    s.outline.generation =
      (begun.announcedIn steps).length + (begun.handledIn steps).countP Call.configures ∧
    ∀ x,
      let s' := (s.step x).1
      let sent := s.announced x
      (match s.handled? x with
        | some (.opened u) | some (.changed u) | some (.saved u) => sent = [some u]
        | some (.closed _) | some (.activated _) =>
          sent = if s'.documents.active = s.documents.active then [] else [s'.documents.active]
        | some (.settings value) =>
          sent = if (Settings.decode value).isOk then [s'.documents.active] else []
        | _ => sent = []) ∧
      (s'.documents.active ≠ s.documents.active → sent = [s'.documents.active]) ∧
      s'.outline.generation = s.outline.generation + sent.length +
        (if (s.handled? x).any Call.configures then 1 else 0) := by
  intro begun s
  have hs : s.Sound := sound_after service steps
  refine ⟨?_, fun x => ?_⟩
  · have hcount := generation_after (sound_ofService service) steps
    rwa [show (ofService service).outline.generation = 0 from rfl, Nat.zero_add] at hcount
  intro s' sent
  obtain ⟨hsent, hcount⟩ := announced_step hs x
  have hdocuments : s'.documents = _ := documents_step hs x
  refine ⟨?_, ?_, hcount⟩
  · rw [hdocuments, show sent = _ from hsent]
    cases s.handled? x with
    | none => rfl
    | some call =>
      cases call with
      | closed u => exact announcement_iff_change (.inl ⟨u, rfl⟩)
      | activated u => exact announcement_iff_change (.inr ⟨u, rfl⟩)
      | _ => rfl
  · rw [hdocuments, show sent = _ from hsent]
    cases s.handled? x with
    | none => exact fun h => absurd rfl h
    | some call => exact announcement_of_change s.documents call

/-- The document that becomes active when the last one is closed is announced and counted. -/
theorem changes_announced_reopeningRun :
    let g : Url := ⟨"file", some ⟨"", .empty, none⟩, .segments ["g"], none, none⟩
    let i : Url := ⟨"file", some ⟨"", .empty, none⟩, .segments ["i"], none, none⟩
    let s := (ofService default).after reopeningRun
    let x := documentMessage "textDocument/didClose" "file:///i"
    s.handled? x = some (.closed i) ∧ s.documents.active = some i ∧
      (s.step x).1.documents.active = some g ∧ s.announced x = [some g] ∧
      (s.step x).1.outline.generation = s.outline.generation + 1 := by
  have hclosing : ∀ (steps : List Step) (x : Step) (u v : Url),
      ((ofService default).after steps).handled? x = some (.closed u) →
        ((ofService default).after steps).documents.active = some u →
          (((ofService default).after steps).step x).1.documents.active = some v → v ≠ u →
            ((ofService default).after steps).announced x = [some v] ∧
              (((ofService default).after steps).step x).1.outline.generation =
                ((ofService default).after steps).outline.generation + 1 := by
    intro steps x u v hhandled hactive hnext hne
    obtain ⟨hsent, -, hcount⟩ := (changes_announced default steps).2 x
    rw [hhandled] at hsent hcount
    rw [hactive, hnext] at hsent
    have hannounced := hsent.trans (if_neg fun h => hne (Option.some.inj h))
    rw [hannounced] at hcount
    exact ⟨hannounced, hcount⟩
  intro g i s x
  have hhandled : s.handled? x = some (.closed i) := by decide +kernel
  have hactive : s.documents.active = some i := by decide +kernel
  have hnext : (s.step x).1.documents.active = some g := by decide +kernel
  refine ⟨hhandled, hactive, hnext, ?_⟩
  apply hclosing
  · exact hhandled
  · exact hactive
  · exact hnext
  · decide

end Session

end TokenOutline.Server
