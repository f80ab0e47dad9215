import TokenOutline.Server.Session

/-!
# What a message asks of a session

Of all messages that come, few reach the documents, the settings or the outline: six notifications,
the request for items, the notification that gives a request up, and the end of the session. What
they ask for is read off the message here, without going through the methods, and all other messages
are shown to be answered or left alone.

Headlines:
* `Session.handled?`: what a step asks of the documents and the settings.
* `Session.asked?`: the request for items that a step is.
* **`Session.accept_of_handled`**, **`Session.accept_of_asked`**, **`Session.accept_of_cancels`**,
  **`Session.accept_exit`**, **`Session.accept_other`**: the jobs that come of messages.
-/

namespace TokenOutline.Server

/-! ## What messages ask for -/

theorem toOption_eq_some_iff {e : Except ε α} {a : α} : e.toOption = some a ↔ e = .ok a := by
  cases e <;> simp [Except.toOption]

namespace Message

/-- What a notification tells of the documents or the settings, if its parameters are as the
protocol has them. -/
def heeded? (msg : Message) : Option Call :=
  match msg.id, msg.params with
  | none, some v =>
    match msg.method with
    | "textDocument/didOpen" => (Params.opened v).toOption.map .opened
    | "textDocument/didChange" => (Params.changed v).toOption.map .changed
    | "textDocument/didSave" => (Params.saved v).toOption.map .saved
    | "textDocument/didClose" => (Params.closed v).toOption.map .closed
    | "workspace/didChangeConfiguration" => (Params.settings v).toOption.map .settings
    | "antlr/activeDocumentChanged" =>
      (Editor.ActiveParams.decode v).toOption.map fun p => .activated p.uri
    | _ => none
  | _, _ => none

/-- A request for items, by its id and its parameters. -/
def asks? (msg : Message) : Option (MessageId × Editor.OutlineParams) :=
  match msg.method, msg.id, msg.params with
  | "antlr/lexerSymbols", some id, some v => (Editor.OutlineParams.decode v).toOption.map (id, ·)
  | _, _, _ => none

/-- The id of the request that a notification gives up. -/
def cancels? (msg : Message) : Option MessageId :=
  match msg.method, msg.id, msg.params with
  | "$/cancelRequest", none, some v => (Params.cancel v).toOption.map Method.idOf
  | _, _, _ => none

variable {msg : Message}

theorem asks?_eq_some_iff {id : MessageId} {p : Editor.OutlineParams} :
    msg.asks? = some (id, p) ↔ msg.method = "antlr/lexerSymbols" ∧ msg.id = some id ∧
      ∃ v, msg.params = some v ∧ Editor.OutlineParams.decode v = .ok p := by
  unfold asks?
  split
  · rename_i other v hmethod hid hparams
    simp only [hmethod, hid, hparams, Option.map_eq_some_iff, toOption_eq_some_iff,
      Prod.mk.injEq, Option.some.injEq, true_and, exists_eq_left']
    constructor
    · rintro ⟨a, ha, rfl, rfl⟩
      exact ⟨rfl, ha⟩
    · rintro ⟨rfl, ha⟩
      exact ⟨p, ha, rfl, rfl⟩
  · rename_i hnone
    refine iff_of_false (by simp) ?_
    rintro ⟨hmethod, hid, v, hparams, -⟩
    exact hnone _ _ hmethod hid hparams

theorem cancels?_eq_some_iff {id : MessageId} :
    msg.cancels? = some id ↔ msg.method = "$/cancelRequest" ∧ msg.id = none ∧
      ∃ v w, msg.params = some v ∧ Params.cancel v = .ok w ∧ Method.idOf w = id := by
  unfold cancels?
  split
  · rename_i v hmethod hid hparams
    simp [hmethod, hid, hparams, toOption_eq_some_iff]
  · rename_i hnone
    refine iff_of_false (by simp) ?_
    rintro ⟨hmethod, hid, v, -, hparams, -, -⟩
    exact hnone _ hmethod hid hparams

theorem heeded?_of_method (h : msg.method = "exit" ∨ msg.method = "$/cancelRequest") :
    msg.heeded? = none := by
  unfold heeded?
  split
  · rcases h with h | h <;> simp [h]
  · rfl

theorem heeded?_ne_cancel (id : MessageId) : msg.heeded? ≠ some (.cancel id) := by
  unfold heeded?
  split
  · split <;> simp
  · simp

end Message

namespace Session

/-- What a step tells of the documents or the settings. -/
def handled? (s : Session) : Step → Option Call
  | .receive msg => if s.phase = .initialized then msg.heeded? else none
  | _ => none

/-- The request for items that a step enters among those in flight. -/
def asked? (s : Session) : Step → Option (Slot × Editor.OutlineParams)
  | .receive msg =>
    if s.phase = .initialized then
      (msg.asks?.filter fun a => !s.inFlight.any (·.id = a.1)).map fun a =>
        (⟨a.1, s.nextSerial⟩, a.2)
    else none
  | _ => none

variable {s : Session} {msg : Message}

theorem asked?_eq_some_iff {slot : Slot} {p : Editor.OutlineParams} :
    s.asked? (.receive msg) = some (slot, p) ↔ s.phase = .initialized ∧
      msg.asks? = some (slot.id, p) ∧ slot.serial = s.nextSerial ∧
        ∀ x ∈ s.inFlight, x.id ≠ slot.id := by
  simp only [asked?, Option.ite_none_right_eq_some, Option.map_eq_some_iff,
    Option.filter_eq_some_iff]
  constructor
  · rintro ⟨hphase, ⟨id, q⟩, ⟨hasks, hnew⟩, heq⟩
    cases heq
    exact ⟨hphase, hasks, rfl, by simpa using hnew⟩
  · rintro ⟨hphase, hasks, hserial, hnew⟩
    refine ⟨hphase, (slot.id, p), ⟨hasks, by simpa using hnew⟩, ?_⟩
    rw [← hserial]

theorem handled?_eq_none (h : msg.heeded? = none) : s.handled? (.receive msg) = none := by
  simp [handled?, h]

theorem handled?_of_exited (h : s.phase = .exited) : s.handled? (.receive msg) = none := by
  simp [handled?, h]

end Session

/-! ## The methods -/

namespace Method

theorem params_eq_ok {d : Decoder α} {f : α → Call} {ps : Option Json} {call : Call} :
    params d f ps = .ok call ↔ ∃ v a, ps = some v ∧ d v = .ok a ∧ call = f a := by
  cases ps with
  | none => simp [params]
  | some v => cases h : d v <;> simp [params, h, eq_comm]

theorem mem_of_find? {name : String} {m : Method} (h : find? name = some m) :
    (name, m) ∈ own ∨ (name, m) ∈ otherNotifications ∨ (name, m) ∈ otherRequests := by
  have hmem : ∀ {l : List (String × Method)}, l.lookup name = some m → (name, m) ∈ l := by
    intro l hl
    obtain ⟨before, after, rfl, -⟩ := List.lookup_eq_some_iff.mp hl
    exact List.mem_append_right _ List.mem_cons_self
  rw [find?, Option.or_eq_some_iff, Option.or_eq_some_iff] at h
  obtain h | ⟨-, h | ⟨-, h⟩⟩ := h
  · exact .inl (hmem h)
  · exact .inr (.inl (hmem h))
  · exact .inr (.inr (hmem h))

/-- What the methods other than the one that ends the session ask for. -/
inductive Kind (name : String) (m : Method) : Prop where
  | request (isRequest : m.isRequest = true)
      (entrance : m.entrance ≠ .exit ∧ m.entrance ≠ .always)
      (asks : ∀ ps p, m.read ps = .ok (.outline p) →
        m.entrance = .initialized ∧ ∀ id, Message.asks? ⟨name, ps, some id⟩ = some (id, p))
  | notification (isRequest : m.isRequest = false) (entrance : m.entrance = .initialized)
      (heeds : ∀ ps call, m.read ps = .ok call →
        call = .started ∨ call = .nothing ∨ Message.heeded? ⟨name, ps, none⟩ = some call)
  | cancel (entrance : m.entrance = .always)
      (cancels : ∀ ps call, m.read ps = .ok call →
        ∃ id, call = .cancel id ∧ Message.cancels? ⟨name, ps, none⟩ = some id)

theorem kind_of_ne {name : String} {m : Method} (isRequest : m.isRequest = true)
    (entrance : m.entrance ≠ .exit ∧ m.entrance ≠ .always)
    (hread : ∀ ps p, m.read ps ≠ .ok (.outline p)) : Kind name m :=
  .request isRequest entrance fun ps p h => absurd h (hread ps p)

theorem kind_of_heeded {name : String} {d : Decoder α} {f : α → Call}
    (hheeded : ∀ v, Message.heeded? ⟨name, some v, none⟩ = (d v).toOption.map f) :
    Kind name (notification (params d f)) :=
  .notification rfl rfl fun ps call h => by
    obtain ⟨v, a, rfl, ha, rfl⟩ := params_eq_ok.mp h
    exact .inr (.inr (by rw [hheeded, ha]; rfl))

theorem kind_of_mem_own : ∀ x ∈ own, x.1 ≠ "exit" → Kind x.1 x.2 := by
  simp only [own, List.forall_mem_cons]
  have heeds : ∀ {α : Type} {d : Decoder α} {f : α → Call} {name : String},
      (∀ v, Message.heeded? ⟨name, some v, none⟩ = (d v).toOption.map f) →
        name ≠ "exit" → Kind name (notification (params d f)) := fun h _ => kind_of_heeded h
  refine ⟨fun _ => ?start, fun _ => ?started, fun _ => ?shutdown, fun h => absurd rfl h,
    fun _ => ?cancel, heeds fun _ => rfl, heeds fun _ => rfl, heeds fun _ => rfl,
    heeds fun _ => rfl, heeds fun _ => rfl, fun _ => ?outline, heeds fun _ => rfl,
    fun _ h => absurd h List.not_mem_nil⟩
  case start => exact kind_of_ne rfl (by decide) fun ps p => by simp [params_eq_ok]
  case started =>
    refine .notification rfl rfl fun ps call h => ?_
    obtain ⟨v, a, -, -, rfl⟩ := params_eq_ok.mp h
    exact .inl rfl
  case shutdown =>
    refine kind_of_ne rfl (by decide) fun ps p => ?_
    cases ps <;> simp [noParams]
  case cancel =>
    refine .cancel rfl fun ps call h => ?_
    obtain ⟨v, a, rfl, ha, rfl⟩ := params_eq_ok.mp h
    exact ⟨_, rfl, by simp [Message.cancels?, ha, Except.toOption]⟩
  case outline =>
    refine .request rfl (by decide) fun ps p h => ⟨rfl, fun id => ?_⟩
    obtain ⟨v, a, rfl, ha, heq⟩ := params_eq_ok.mp h
    obtain rfl := Call.outline.inj heq
    simp [Message.asks?, ha, Except.toOption]

theorem kind_of_find? {name : String} {m : Method} (h : find? name = some m)
    (hexit : name ≠ "exit") : Kind name m := by
  obtain hown | hnotification | hrequest := mem_of_find? h
  · exact kind_of_mem_own _ hown hexit
  · obtain rfl : m = unheeded := by
      have hall : ∀ x ∈ otherNotifications, x.2 = unheeded := by simp [otherNotifications]
      exact hall _ hnotification
    exact .notification rfl rfl fun ps call h => .inr (.inl (Except.ok.inj h).symm)
  · obtain ⟨⟨other, d⟩, -, heq⟩ := List.mem_map.mp hrequest
    obtain rfl := (Prod.mk.inj heq).2
    exact kind_of_ne rfl (by simp [request]) fun ps p => by simp [request, params_eq_ok]

end Method

/-! ## Accepting -/

namespace Session

variable {s : Session} {msg : Message}

theorem accept_notification {name : String} {d : Decoder α} {f : α → Call} {v : Json} {call : Call}
    (hm : Method.find? name = some (.notification (Method.params d f)))
    (hphase : s.phase = .initialized) (h : (d v).toOption.map f = some call) :
    s.accept ⟨name, some v, none⟩ = (s, ⟨.notify call, false⟩) := by
  obtain ⟨a, ha, rfl⟩ := Option.map_eq_some_iff.mp h
  have hread : Method.params d f (some v) = .ok (f a) :=
    Method.params_eq_ok.mpr ⟨v, a, rfl, toOption_eq_some_iff.mp ha, rfl⟩
  simp only [accept, hm, Method.notification, hphase, enter, hread, if_true]

/-- A notification about the documents or the settings is heeded at once. -/
theorem accept_of_handled {call : Call} (h : s.handled? (.receive msg) = some call) :
    s.accept msg = (s, ⟨.notify call, false⟩) := by
  obtain ⟨method, ps, id⟩ := msg
  simp only [handled?, Option.ite_none_right_eq_some] at h
  obtain ⟨hphase, h⟩ := h
  simp only [Message.heeded?] at h
  split at h
  · split at h
    case h_7 => exact absurd h (by simp)
    all_goals exact accept_notification rfl hphase h
  · exact absurd h (by simp)

/-- A request for items is entered among those in flight. -/
theorem accept_of_asked {slot : Slot} {p : Editor.OutlineParams}
    (h : s.asked? (.receive msg) = some (slot, p)) :
    s.accept msg =
      ({ s with inFlight := s.inFlight ++ [slot], nextSerial := s.nextSerial + 1 },
        ⟨.request slot (.ok (.outline p)), false⟩) := by
  obtain ⟨hphase, hasks, hserial, hnew⟩ := asked?_eq_some_iff.mp h
  obtain ⟨hmethod, hid, v, hparams, hdecode⟩ := Message.asks?_eq_some_iff.mp hasks
  have hm : Method.find? "antlr/lexerSymbols" =
    some (.request (Method.params Editor.OutlineParams.decode .outline)) := rfl
  have hread := (Method.params_eq_ok (f := Call.outline)).mpr ⟨v, p, hparams, hdecode, rfl⟩
  have hany : s.inFlight.any (·.id = slot.id) = false := by simpa using hnew
  obtain ⟨id, serial⟩ := slot
  obtain rfl : serial = s.nextSerial := hserial
  simp only [accept, hmethod, hm, Method.request, hphase, enter, hid, hread, hany, if_true,
    Bool.false_eq_true, if_false]

/-- A notification that gives a request up is heeded at any time. -/
theorem accept_of_cancels {id : MessageId} (h : msg.cancels? = some id) :
    s.accept msg = (s, ⟨.notify (.cancel id), false⟩) := by
  obtain ⟨hmethod, hid, v, w, hparams, hdecode, rfl⟩ := Message.cancels?_eq_some_iff.mp h
  have hm : Method.find? "$/cancelRequest" = some ⟨.always, false,
    Method.params Params.cancel fun v => .cancel (Method.idOf v)⟩ := rfl
  have hread := (Method.params_eq_ok (f := fun v => Call.cancel (Method.idOf v))).mpr
    ⟨v, w, hparams, hdecode, rfl⟩
  simp only [accept, hmethod, hm, letIn, hid, hread]

/-- The end of the session is accepted at any time. -/
theorem accept_exit (h : msg.method = "exit") : s.accept msg = (s.exit, ⟨.none, false⟩) := by
  have hm : Method.find? "exit" = some ⟨.exit, false, fun _ => .ok .nothing⟩ := rfl
  simp only [accept, h, hm]

/-- What comes of accepting a message that asks for nothing of the documents, the settings and the
outline. -/
inductive Other (s : Session) (msg : Message) : Session → Job → Prop where
  /-- A request is answered as soon as it is begun. -/
  | enters (phase : Phase) (slot : Slot) (call : Except Refusal Call) (starts : Bool)
      (hphase : phase = s.phase ∨ phase = .shutDown) (hid : msg.id = some slot.id)
      (hserial : slot.serial = s.nextSerial) (hnew : ∀ x ∈ s.inFlight, x.id ≠ slot.id)
      (hcall : ∀ p, call ≠ .ok (.outline p)) :
      Other s msg
        { s with phase, inFlight := s.inFlight ++ [slot], nextSerial := s.nextSerial + 1 }
        ⟨.request slot call, starts⟩
  | refuses (phase : Phase) (id : MessageId) (why : Refusal) (starts : Bool)
      (hphase : phase = s.phase ∨ phase = .shutDown) (hid : msg.id = some id) :
      Other s msg { s with phase } ⟨.refuse id why, starts⟩
  | hears (call : Call) (hcall : call = .started ∨ call = .nothing) :
      Other s msg s ⟨.notify call, false⟩
  | ignores (phase : Phase) (starts : Bool) (hphase : phase = s.phase ∨ phase = .shutDown) :
      Other s msg { s with phase } ⟨.none, starts⟩

theorem untimely_other (phase : Phase) (starts : Bool) :
    s.Other msg s ⟨untimely phase msg.id, starts⟩ := by
  cases hid : msg.id with
  | none => exact .ignores s.phase starts (.inl rfl)
  | some id => exact .refuses s.phase id _ starts (.inl rfl) hid

/-- A request of another method than the one for items is entered, or refused if its id is taken. -/
theorem enter_request {m : Method} {phase : Phase} (starts : Bool)
    (hphase : phase = s.phase ∨ phase = .shutDown) (hrequest : m.isRequest = true)
    (hcall : ∀ id p, msg.id = some id → (∀ x ∈ s.inFlight, x.id ≠ id) →
      m.read msg.params ≠ .ok (.outline p)) :
    s.Other msg ({ s with phase }.enter m msg).1 ⟨({ s with phase }.enter m msg).2, starts⟩ := by
  unfold enter
  split
  · rename_i id hid
    split
    · exact .refuses phase id _ starts hphase hid
    · rename_i hnew
      have hnew : ∀ x ∈ s.inFlight, x.id ≠ id := by simpa using hnew
      exact .enters phase ⟨id, s.nextSerial⟩ _ starts hphase hid rfl hnew fun p =>
        hcall id p hid hnew
  · rw [hrequest]
    exact .ignores phase starts hphase

/-- A notification of the session that nothing is asked for by is left alone, or refused if it has
an id. -/
theorem enter_notification {m : Method} (hrequest : m.isRequest = false)
    (hcall : ∀ call, msg.id = none → m.read msg.params = .ok call →
      call = .started ∨ call = .nothing) :
    s.Other msg (s.enter m msg).1 ⟨(s.enter m msg).2, false⟩ := by
  unfold enter
  split
  · rename_i id hid
    split
    · exact .refuses s.phase id _ false (.inl rfl) hid
    · rename_i hnew
      rw [hrequest]
      exact .enters s.phase ⟨id, s.nextSerial⟩ _ false (.inl rfl) hid rfl (by simpa using hnew)
        (by simp)
  · rename_i hid
    split
    · rename_i call _ hread
      exact .hears call (hcall call hid hread)
    · exact .ignores s.phase false (.inl rfl)

/-- **All other messages** are answered or left alone. -/
theorem accept_other (hexit : msg.method ≠ "exit") (hcancels : msg.cancels? = none)
    (hhandled : s.handled? (.receive msg) = none) (hasked : s.asked? (.receive msg) = none) :
    s.Other msg (s.accept msg).1 (s.accept msg).2 := by
  unfold accept
  split
  · unfold unknown
    split
    · split
      · exact .ignores s.phase false (.inl rfl)
      · rename_i id hid _
        exact .refuses s.phase id _ false (.inl rfl) hid
    · exact .ignores s.phase false (.inl rfl)
  · rename_i m hm
    cases Method.kind_of_find? hm hexit with
    | request hrequest hentrance hasks =>
      have hitems : ∀ id p, msg.id = some id → (∀ x ∈ s.inFlight, x.id ≠ id) →
          s.phase = .initialized → m.read msg.params ≠ .ok (.outline p) := by
        intro id p hid hnew hphase hread
        have hasks := (hasks msg.params p hread).2 id
        rw [← hid] at hasks
        let slot : Slot := ⟨id, s.nextSerial⟩
        have hslot : s.asked? (.receive msg) = some (slot, p) :=
          asked?_eq_some_iff.mpr ⟨hphase, hasks, rfl, hnew⟩
        exact absurd (hasked.symm.trans hslot) (by simp)
      cases hm' : m.entrance with
      | once =>
        simp only
        split
        · refine enter_request true (.inl rfl) hrequest fun id p _ _ hread => ?_
          exact absurd (hm'.symm.trans (hasks msg.params p hread).1) (by decide)
        · split
          · rename_i hid
            exact .refuses s.phase _ _ false (.inl rfl) hid
          · exact .ignores s.phase false (.inl rfl)
      | initialized =>
        simp only
        split
        · rename_i hphase
          exact enter_request false (.inl rfl) hrequest fun id p hid hnew =>
            hitems id p hid hnew hphase
        · exact untimely_other s.phase false
      | shutdown =>
        simp only
        split
        · refine enter_request false (.inr rfl) hrequest fun id p _ _ hread => ?_
          exact absurd (hm'.symm.trans (hasks msg.params p hread).1) (by decide)
        · exact untimely_other s.phase false
      | exit => exact absurd hm' hentrance.1
      | always => exact absurd hm' hentrance.2
    | notification hrequest hentrance hheeds =>
      simp only [hentrance]
      split
      · rename_i hphase
        refine enter_notification hrequest fun call hid hread => ?_
        obtain h | h | h := hheeds msg.params call hread
        · exact .inl h
        · exact .inr h
        · rw [← hid] at h
          have : s.handled? (.receive msg) = some call := by rw [handled?, if_pos hphase, ← h]
          exact absurd (hhandled.symm.trans this) (by simp)
      · exact untimely_other s.phase false
    | cancel hentrance hcancel =>
      simp only [hentrance, letIn]
      split
      · rename_i hid
        exact .refuses s.phase _ _ false (.inl rfl) hid
      · rename_i call hid hread
        obtain ⟨id, -, h⟩ := hcancel msg.params call hread
        rw [← hid] at h
        exact absurd (hcancels.symm.trans h) (by simp)
      · exact .ignores s.phase false (.inl rfl)

end Session

end TokenOutline.Server
