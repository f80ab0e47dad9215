import TokenOutline.Proofs.Outline.Settings
import TokenOutline.Proofs.Server.Documents

/-!
# The settings of a session

A session hands new settings to its outline, or it sends a warning. As it does not hand over what is
refused, a run with a message of such settings is the run without it, but for the warning.

Headlines:
* **`Session.settings_after`**: the settings in every run of a session.
* **`Session.step_refused`**: a message with settings that are refused.
* **`Session.settings_replaced_or_refused`**: in the runs of an outline and of a session, new
  settings replace the ones before or leave no trace.
-/

namespace TokenOutline.Server

/-- The value that is offered as settings. -/
def Call.offered? : Call → Option Json
  | .settings value => some value
  | _ => none

namespace Session

variable {s : Session}

/-! ## The last settings -/

theorem settings_announce (s : Session) (u : Option Url) :
    (s.announce u).1.outline.settings = s.outline.settings :=
  Outline.settings_step (o := s.outline) .refresh

theorem settings_notified (s : Session) (call : Call) :
    (s.notified call).1.outline.settings =
      s.outline.settings.lastOf ([call].filterMap Call.offered?) := by
  cases call with
  | settings v =>
    have hlast : s.outline.settings.lastOf ([Call.settings v].filterMap Call.offered?) =
        (Settings.decode v).toOption.getD s.outline.settings := Settings.lastOf_cons _ v []
    rw [hlast, notified, takeSettings]
    cases hdecode : Settings.decode v with
    | ok settings =>
      simp only
      rw [settings_announce, Outline.settings_step, Outline.settingsAfter, hdecode]
    | error e => rfl
  | closed u =>
    simp only [notified, close]
    split
    · exact settings_announce _ _
    · rfl
  | activated u =>
    simp only [notified, activate]
    split
    · rfl
    · exact settings_announce _ u
  | _ => rfl

theorem settings_step (hs : s.Sound) (x : Step) :
    (s.step x).1.outline.settings =
      s.outline.settings.lastOf ((s.handled? x).toList.filterMap Call.offered?) := by
  have htakes := takes_step hs x
  generalize s.step x = r at htakes
  obtain ⟨s', e⟩ := r
  cases htakes with
  | idle => rfl
  | serves c => exact Outline.settings_step (.service c)
  | heeds msg call hhandled =>
    rw [hhandled]
    exact settings_notified s call
  | lists msg slot p _ hhandled =>
    rw [hhandled]
    exact Outline.settings_step (s.listing slot p)
  | late msg _ hhandled => rw [hhandled]; rfl
  | cancels msg _ _ _ hhandled => rw [hhandled]; rfl
  | exits msg _ _ hhandled => rw [hhandled]; rfl
  | answers msg _ _ _ _ _ _ hhandled => rw [hhandled]; rfl

theorem settings_after (hs : s.Sound) (steps : List Step) :
    (s.after steps).outline.settings =
      s.outline.settings.lastOf ((s.handledIn steps).filterMap Call.offered?) := by
  induction steps generalizing s with
  | nil => rfl
  | cons x xs ih =>
    rw [handledIn, List.filterMap_append, Settings.lastOf_append, ← settings_step hs]
    exact ih ((takes_step hs x).sound hs)

/-! ## Settings that are refused -/

/-- What comes of a message with settings that are refused: a warning that says why, unless the
message comes before the session is up or after it has been shut down. -/
def refusal (s : Session) (e : DecodeError) : Option Effects :=
  match s.phase with
  | .initialized =>
    some ⟨[.notice (.log .warning
      ("Failed to parse configuration: " ++ Settings.refusal e))], []⟩
  | .uninitialized | .shutDown => some {}
  | .exited => none

/-- A notification with the parameters of new settings. -/
def configuration (params : Json) : Message :=
  ⟨"workspace/didChangeConfiguration", some params, none⟩

theorem handled?_configuration {params v : Json} (hparams : Params.settings params = .ok v)
    (hphase : s.phase = .initialized) :
    s.handled? (.receive (configuration params)) = some (.settings v) := by
  have hheeded : (configuration params).heeded? = some (.settings v) :=
    congrArg (fun r => r.toOption.map Call.settings) hparams
  rw [handled?, if_pos hphase, hheeded]

theorem accept_untimely (params : Json) (hphase : s.phase ≠ .initialized) :
    s.accept (configuration params) = (s, ⟨.none, false⟩) := by
  have hm : Method.find? "workspace/didChangeConfiguration" =
    some (.notification (Method.params Params.settings .settings)) := rfl
  simp only [accept, configuration, hm, Method.notification, if_neg hphase, untimely]

/-- **Settings that are refused** leave the session as it is. -/
theorem step_refused (hs : s.Sound) {params v : Json} {e : DecodeError}
    (hparams : Params.settings params = .ok v) (hrefused : Settings.decode v = .error e) :
    s.step (.receive (configuration params)) = (s, s.refusal e) := by
  by_cases hup : s.phase = .initialized
  · have hsilent := hs.not_silent (by simp [hup])
    rw [step_of_handled hs (handled?_configuration hparams hup)]
    simp only [notified, takeSettings, hrefused, log, hsilent, refusal, hup]
    rfl
  by_cases hexited : s.phase = .exited
  · rw [step, receive, if_pos hexited, refusal, hexited]
  · -- the message is not let in, and as a notification it is not answered
    have hbegin : s.begin ⟨.none, false⟩ = (s, .ends none none, []) := rfl
    rw [receive_of_settled hexited (accept_untimely params hup) hbegin hs.givenUp]
    unfold refusal
    cases hphase : s.phase with
    | uninitialized => rfl
    | shutDown => rfl
    | initialized => exact absurd hphase hup
    | exited => exact absurd hphase hexited

/-- **Settings are replaced or refused as a whole**, in the runs of an outline and of a session. At
every point the settings are those of the last value that was taken, or those of the beginning if
none was. A value that is refused leaves everything as it is, and whatever comes after it is what
would have come without it, but for the numbers of builds; a session that is up answers it with one
warning that says why. -/
theorem settings_replaced_or_refused {ι : Type} [DecidableEq ι] (service : Analysis)
    (initial : Settings) :
    let o : Outline ι := .ofService service initial
    let begun := ofService service
    (∀ ss, (o.after ss).settings = initial.lastOf (ss.filterMap Outline.Step.offered?)) ∧
    (∀ xs, (begun.after xs).outline.settings =
      Settings.standard.lastOf ((begun.handledIn xs).filterMap Call.offered?)) ∧
    ∀ v e, Settings.decode v = .error e →
      (∀ ss ts,
        let later := (o.after ss).run ts
        let f := Outline.shift ss.length
        o.run (ss ++ ts) = o.run ss ++ later ∧
        o.run (ss ++ .configure v :: ts) = o.run ss ++
          ({ result := some (.refused e) }, { o.after ss with clock := ss.length + 1 }) ::
            later.map fun r => (r.1.renumber f, r.2.renumber f)) ∧
      ∀ xs ys params, Params.settings params = .ok v →
        let s := begun.after xs
        begun.run (xs ++ ys) = begun.run xs ++ s.run ys ∧
        begun.run (xs ++ .receive (configuration params) :: ys) =
          begun.run xs ++ (s.refusal e, s) :: s.run ys := by
  intro o begun
  refine ⟨o.settings_after_offers, settings_after (sound_ofService service),
    fun v e hrefused => ⟨fun ss ts => ?outline, fun xs ys params hparams => ?session⟩⟩
  case outline =>
    exact ⟨o.run_append ss ts, Outline.run_refused service initial ss ts hrefused⟩
  case session =>
    refine ⟨begun.run_append xs ys, ?_⟩
    rw [run_append, run, step_refused (sound_after service xs) hparams hrefused]

/-- Settings with a context that is no string come while the session is up. -/
theorem settings_replaced_or_refused_number :
    let v : Json := .object [("lexerSymbols", .object [("contextValue", .ofNat 1)])]
    let start : Step :=
      .receive ⟨"initialize", some (.object [("capabilities", .object [])]), some (.number 0)⟩
    let s := (ofService default).after [start]
    let e : DecodeError := .wrongType (.ofNat 1) "a string"
    Settings.decode v = .error e ∧ Params.settings (.object [("settings", v)]) = .ok v ∧
      s.phase = .initialized ∧
      (ofService default).run [start, .receive (configuration (.object [("settings", v)]))] =
        (ofService default).run [start] ++ [(s.refusal e, s)] := by
  intro v start s e
  have hrefused : Settings.decode v = .error e := rfl
  have hparams : Params.settings (.object [("settings", v)]) = .ok v := rfl
  have hruns := (settings_replaced_or_refused (ι := Nat) default default).2.2 v e hrefused
  exact ⟨hrefused, hparams, by decide +kernel, (hruns.2 [start] [] _ hparams).2⟩

end Session

end TokenOutline.Server
