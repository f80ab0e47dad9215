import TokenOutline.Proofs.Outline.Answer
import TokenOutline.Proofs.Outline.Request

/-!
# Builds that do not disturb each other

Any number of builds may be under way in a run, for the same file or for others, while settings are
replaced and the service changes. None of this shows in a build: what happens to its lookups, and
what its request is answered, depends on the settings and the vocabulary of the step that starts it
and on the replies that its own lookups are answered.

Headlines:
* `courseOf_thin`: a request has the same course in a run of which steps that do not concern it
  have been left out.
* `answersOf_congr`: the settings, the vocabulary and the replies decide what is answered.
* `courseOf_congr`: two runs that give a request the same start, open gates in the same steps and
  give the same replies take it through the same course.
* **`course_isolated`**: all of this of any request in any run.
-/

namespace TokenOutline

/-! ## Builds with the same history -/

namespace Build

variable {b c d : Build} {e : LookupEvent} {h : List LookupEvent}

/-- What an event makes of a build. -/
def afterEvent (b : Build) : LookupEvent → Build
  | .started .. => { b with slots := b.slots ++ [none] }
  | .answered i _ r => { b with slots := b.slots.set i (some r) }

theorem Step.eq_afterEvent (hs : Step b e c) : c = b.afterEvent e := by
  cases hs <;> rfl

/-- A history leads a build to one build only. -/
theorem Steps.unique (hc : Steps b h c) (hd : Steps b h d) : c = d := by
  induction hc with
  | refl => cases hd; rfl
  | head hstep _ ih =>
    cases hd with
    | head hstep' hrest =>
      obtain rfl := hstep'.eq_afterEvent.trans hstep.eq_afterEvent.symm
      exact ih hrest

theorem Step.ofFile (file : String) (hs : Step b e c) :
    Step { b with file } e { c with file } := by
  cases hs with
  | started t going next => exact .started { b with file } t going next
  | answered i t r going waits token => exact .answered { b with file } i t r going waits token

/-- The file of a build does not show in what its history does to it. -/
theorem Steps.ofFile (file : String) (hs : Steps b h c) :
    Steps { b with file } h { c with file } := by
  induction hs with
  | refl => exact .refl _
  | head hstep _ ih => exact .head (hstep.ofFile file) ih

end Build

/-! ## Items and settings -/

/-- Whatever settings decide of an item is decided by `s`. -/
structure Item.Under (s : Settings) (i : Item) : Prop where
  context : i.contextValue = s.contextValue
  icons : i.icons = s.iconRoot.map Icons.ofRoot
  command : i.command = some { Command.inert with title := s.eofTitle } ∨
    i.command = some .inert ∨ ∃ r, i.command = some (.selectRange s.selectRangeCommand r)

theorem Build.under_of_mem_items {s : Settings} {tokens : List Token}
    {symbols : List (Option Grammar.Symbol)} {i : Item} (hi : i ∈ items s tokens symbols) :
    i.Under s := by
  rcases List.mem_cons.mp hi with rfl | hi
  · exact ⟨rfl, rfl, .inl rfl⟩
  · rw [← List.map_uncurry_zip_eq_zipWith] at hi
    obtain ⟨⟨t, symbol⟩, -, rfl⟩ := List.mem_map.mp hi
    refine ⟨rfl, rfl, .inr ?_⟩
    simp only [Function.uncurry_apply_pair, Item.ofToken, Item.leaf, Item.commandFor]
    cases symbol.bind (·.definition) with
    | none => exact .inl rfl
    | some d => exact .inr ⟨d.range, rfl⟩

/-! ## Lives -/

namespace Outline

variable {ι : Type}

/-- Whether a step concerns a build of an id that is under way: it gives up the id, or opens a
gate. -/
def Step.concerns [DecidableEq ι] (id : ι) : Step ι → Bool
  | .drop other => other = id
  | .service (.release _) => true
  | _ => false

/-- Whether a step asks for something, or gives up another id. -/
def Step.isOthers [DecidableEq ι] (id : ι) : Step ι → Bool
  | .request .. | .children .. => true
  | .drop other => other ≠ id
  | _ => false

/-- Whether a step takes settings, counts a change or gives a file another vocabulary. -/
def Step.reconfigures : Step ι → Bool
  | .configure _ | .refresh | .service (.setVocabulary ..) => true
  | _ => false

end Outline

namespace Life

variable {ι : Type} {id : ι} {life life' : Life} {a a' : Analysis} {s : Outline.Step ι}

/-- What a life answers. -/
def answers : Life → List Answer
  | .ended outcome => [outcome.map some]
  | _ => []

theorem map_answer_finished (id : ι) (k : Nat) (life : Life) :
    (life.finished id k).map (·.answer) = life.answers := by
  cases life <;> rfl

theorem Follows.answers_eq {b₀ : Build} {h : List Build.LookupEvent} (hl : life.Follows b₀ h) :
    ∃ b, Build.Steps b₀ h b ∧ life.answers = b.outcome?.toList.map (·.map some) := by
  cases hl with
  | running steps _ goes => exact ⟨_, steps, by rw [goes]; rfl⟩
  | ended steps ends => exact ⟨_, steps, by rw [ends]; rfl⟩
  | dropped steps _ goes => exact ⟨_, steps, by rw [goes]; rfl⟩

/-- Builds with the same tokens, settings and history are answered the same. -/
theorem Follows.answers_congr {file file' : String} {s : Settings} {tokens : List Token}
    {h : List Build.LookupEvent} (hl : life.Follows (.ofTokens file s tokens) h)
    (hl' : life'.Follows (.ofTokens file' s tokens) h) : life'.answers = life.answers := by
  obtain ⟨b, hsteps, hanswers⟩ := hl.answers_eq
  obtain ⟨b', hsteps', hanswers'⟩ := hl'.answers_eq
  have hb : b' = { b with file := file' } := hsteps'.unique (hsteps.ofFile file')
  rw [hanswers, hanswers', hb]
  rfl

variable [DecidableEq ι]

theorem step_of_not_concerns (h : s.concerns id = false) (a : Analysis) (life : Life) :
    life.step id a s = (life, []) := by
  cases life with
  | running b =>
    cases s with
    | drop other =>
      have hne : id ≠ other := fun heq => of_decide_eq_false h heq.symm
      simp only [step, if_neg hne]
    | service x =>
      cases x with
      | release key => exact absurd h (by simp [Outline.Step.concerns])
      | _ => rfl
    | _ => rfl
  | _ => rfl

/-- A step does to a life the same under two services if the second one replies what the first one
answers in the step. -/
theorem step_congr (id : ι) (a a' : Analysis) (life : Life) (s : Outline.Step ι)
    (h : ∀ b, life = .running b → ∀ e ∈ (life.step id a s).2, e.Genuine a' b.file) :
    life.step id a' s = life.step id a s := by
  cases life with
  | running b =>
    cases s with
    | service x =>
      cases x with
      | release key =>
        have hrelease := Build.answer_congr (a.step (.release key)) (a'.step (.release key)) _ b
          (h b rfl)
        simp only [step, Build.release] at hrelease ⊢
        rw [hrelease]
      | _ => rfl
    | _ => rfl
  | _ => rfl

/-- What a step answers in a life is what the service replies. -/
theorem step_genuine {b : Build} {e : Build.LookupEvent}
    (he : e ∈ ((Life.running b).step id a s).2) : e.Genuine a b.file := by
  cases s with
  | service x =>
    cases x with
    | release key => exact Build.answer_genuine (a.step (.release key)) _ b e he
    | _ => exact absurd he List.not_mem_nil
  | _ => exact absurd he List.not_mem_nil

/-- **Steps that do not concern a build may be left out of its life**, if they leave the replies of
the service as they are. -/
theorem run_filter (id : ι) (keep : Outline.Step ι → Bool)
    (hkeep : ∀ s, keep s = false → s.concerns id = false ∧
      ∀ a : Analysis, (Outline.serviceAfter a s).symbols = a.symbols)
    (ss : List (Outline.Step ι)) (a a' : Analysis) (life : Life) (ha : a'.symbols = a.symbols) :
    life.run id a' (ss.filter keep) = life.run id a ss := by
  induction ss generalizing a a' life with
  | nil => rfl
  | cons s ss ih =>
    cases hs : keep s with
    | false =>
      obtain ⟨hconcerns, hsymbols⟩ := hkeep s hs
      rw [List.filter_cons_of_neg (by simp [hs])]
      simp only [run, step_of_not_concerns hconcerns]
      exact ih _ _ life (ha.trans (hsymbols a).symm)
    | true =>
      rw [List.filter_cons_of_pos hs]
      have hreply : a'.reply = a.reply := by
        funext file key
        simp only [Analysis.reply, ha]
      have hstep : life.step id a' s = life.step id a s := by
        refine step_congr id a a' life s fun b hb e he => ?_
        subst hb
        have hgenuine := step_genuine he
        cases e with
        | started => trivial
        | answered i key r =>
          rw [Build.LookupEvent.Genuine, hreply]
          exact hgenuine
      have hafter : (Outline.serviceAfter a' s).symbols = (Outline.serviceAfter a s).symbols := by
        cases s with
        | service x => cases x <;> simp [Outline.serviceAfter, Analysis.step, ha]
        | _ => exact ha
      simp only [run, hstep]
      rw [ih _ _ (life.step id a s).1 hafter]

end Life

namespace Outline

variable {ι : Type} [DecidableEq ι] {o : Outline ι} {service : Analysis} {settings : Settings}
  {ss : List (Step ι)} {k m : Nat} {id : ι} {file : Option String}

/-! ## Courses of requests -/

/-- What the request of a ticket is answered in a run. -/
def answersOf (o : Outline ι) (ss : List (Step ι)) (k : Nat) : List Answer :=
  (o.finishedOf ss k).map (·.answer)

/-- The course of the request of a ticket in a run: what happens to its lookups, and what it is
answered. -/
def courseOf (o : Outline ι) (ss : List (Step ι)) (k : Nat) :
    List Build.LookupEvent × List Answer :=
  (o.historyOf ss k, o.answersOf ss k)

/-- The course of a request is its life. -/
theorem courseOf_of_request (service : Analysis) (settings : Settings)
    (hs : ss[k]? = some (.request id file none)) :
    (ofService service settings : Outline ι).courseOf ss k =
      (((ofService service settings).lifeOf ss k id file).2,
        ((ofService service settings).lifeOf ss k id file).1.answers) := by
  obtain ⟨-, hfin, hhist⟩ := run_of_request service settings hs
  rw [courseOf, answersOf, hfin, hhist, Life.map_answer_finished]

/-! ## Steps that are left out -/

/-- A run without some of the steps before and after step `k`. -/
def thin (k : Nat) (before after : Step ι → Bool) (ss : List (Step ι)) : List (Step ι) :=
  (ss.take k).filter before ++ (ss.drop k).take 1 ++ (ss.drop (k + 1)).filter after

/-- A run without the requests, other than step `k`, and what gives up others than the id. -/
def alone (id : ι) (k : Nat) (ss : List (Step ι)) : List (Step ι) :=
  thin k (fun s => !s.isOthers id) (fun s => !s.isOthers id) ss

/-- A run without what takes settings, counts a change or replaces a vocabulary after step `k`. -/
def undisturbed (k : Nat) (ss : List (Step ι)) : List (Step ι) :=
  thin k (fun _ => true) (fun s => !s.reconfigures) ss

/-- Steps that change neither the service nor the settings may be left out of a run. -/
theorem foldl_filter {α β : Type} (f : β → α → β) (keep : α → Bool)
    (hkeep : ∀ x, keep x = false → ∀ y, f y x = y) (xs : List α) (y : β) :
    (xs.filter keep).foldl f y = xs.foldl f y := by
  induction xs generalizing y with
  | nil => rfl
  | cons x xs ih =>
    cases hx : keep x with
    | false =>
      rw [List.filter_cons_of_neg (by simp [hx]), ih, List.foldl_cons, hkeep x hx]
    | true => rw [List.filter_cons_of_pos hx, List.foldl_cons, List.foldl_cons, ih]

/-- **A request has the same course in a run of which steps have been left out**: before it those
that change neither service nor settings, after it those that do not concern its build and leave
the replies as they are. -/
theorem courseOf_thin (service : Analysis) (settings : Settings) (before after : Step ι → Bool)
    (hbefore : ∀ s, before s = false →
      (∀ a, serviceAfter a s = a) ∧ ∀ x, settingsAfter x s = x)
    (hafter : ∀ s, after s = false → s.concerns id = false ∧
      ∀ a : Analysis, (serviceAfter a s).symbols = a.symbols)
    (hs : ss[k]? = some (.request id file none)) :
    (ofService service settings).courseOf (thin k before after ss)
        ((ss.take k).filter before).length =
      (ofService service settings).courseOf ss k := by
  obtain ⟨hlt, hstep⟩ := List.getElem?_eq_some_iff.mp hs
  have hone : (ss.drop k).take 1 = [.request id file none] := by
    rw [List.drop_eq_getElem_cons hlt, hstep]
    rfl
  have hthin : thin k before after ss = (ss.take k).filter before ++
      .request id file none :: (ss.drop (k + 1)).filter after := by
    rw [thin, hone, List.append_assoc]
    rfl
  have hs' : (thin k before after ss)[((ss.take k).filter before).length]? =
      some (.request id file none) := by
    rw [hthin, List.getElem?_append_right (Nat.le_refl _), Nat.sub_self]
    rfl
  have hservice : ((ofService service settings).after ((ss.take k).filter before)).service =
      ((ofService service settings : Outline ι).after (ss.take k)).service := by
    rw [service_after, service_after]
    exact foldl_filter serviceAfter before (fun s h => (hbefore s h).1) _ _
  have hsettings : ((ofService service settings).after ((ss.take k).filter before)).settings =
      ((ofService service settings : Outline ι).after (ss.take k)).settings := by
    rw [settings_after, settings_after]
    exact foldl_filter settingsAfter before (fun s h => (hbefore s h).2) _ _
  have hdrop : (thin k before after ss).drop (((ss.take k).filter before).length + 1) =
      (ss.drop (k + 1)).filter after := by
    rw [hthin, ← List.drop_drop, List.drop_left]
    rfl
  have htake : (thin k before after ss).take ((ss.take k).filter before).length =
      (ss.take k).filter before := by
    rw [hthin, List.take_left]
  rw [courseOf_of_request service settings hs, courseOf_of_request service settings hs']
  simp only [lifeOf, htake, hdrop, hservice, hsettings,
    Life.run_filter id after hafter (ss.drop (k + 1)) _ _ _ rfl]

/-! ## What a course depends on -/

/-- The history of a build that a request has started, and what it is answered. -/
theorem follows_of_request (hs : ss[k]? = some (.request id file none)) {v : Vocabulary}
    (hv : file.bind ((ofService service settings : Outline ι).after (ss.take k)).service.vocabulary?
      = some v) :
    let o : Outline ι := ofService service settings
    ∃ (f : String) (life : Life), file = some f ∧ Starts o ss k id f v ∧
      life.Follows (.ofTokens f (o.after (ss.take k)).settings v.tokens) (o.historyOf ss k) ∧
      o.answersOf ss k = life.answers := by
  intro o
  obtain ⟨f, rfl, hfile⟩ := Option.bind_eq_some_iff.mp hv
  have hstarts : Starts o ss k id f v := ⟨hs, hfile⟩
  obtain ⟨life, hlife, -, hfin, -⟩ := follows_of_starts hstarts
  exact ⟨f, life, rfl, hstarts, hlife, by rw [answersOf, hfin, Life.map_answer_finished]⟩

/-- **What a request is answered depends on settings, vocabulary and history**: on nothing else of
the run, of the service and of the settings, nor on the file. -/
theorem answersOf_congr {κ : Type} [DecidableEq κ] {service' : Analysis} {settings' : Settings}
    {ss' : List (Step κ)} {k' : Nat} {id' : κ} {file' : Option String}
    (hs : ss[k]? = some (.request id file none)) (hs' : ss'[k']? = some (.request id' file' none))
    (hsettings : ((ofService service' settings' : Outline κ).after (ss'.take k')).settings =
      ((ofService service settings : Outline ι).after (ss.take k)).settings)
    (hvocabulary : file'.bind
        ((ofService service' settings' : Outline κ).after (ss'.take k')).service.vocabulary? =
      file.bind ((ofService service settings : Outline ι).after (ss.take k)).service.vocabulary?)
    (hhistory : (ofService service' settings' : Outline κ).historyOf ss' k' =
      (ofService service settings : Outline ι).historyOf ss k) :
    (ofService service' settings' : Outline κ).answersOf ss' k' =
      (ofService service settings : Outline ι).answersOf ss k := by
  cases hv : file.bind
      ((ofService service settings : Outline ι).after (ss.take k)).service.vocabulary? with
  | none =>
    have hcourse := courseOf_of_request service settings hs
    have hcourse' := courseOf_of_request service' settings' hs'
    rw [lifeOf_of_no_vocabulary hv] at hcourse
    rw [lifeOf_of_no_vocabulary (hvocabulary.trans hv)] at hcourse'
    exact (congrArg Prod.snd hcourse').trans (congrArg Prod.snd hcourse).symm
  | some v =>
    obtain ⟨f, life, -, -, hlife, hanswers⟩ := follows_of_request hs hv
    obtain ⟨f', life', -, -, hlife', hanswers'⟩ := follows_of_request hs' (hvocabulary.trans hv)
    rw [hhistory, hsettings] at hlife'
    rw [hanswers, hanswers']
    exact hlife.answers_congr hlife'

/-- Two runs that are alike for the request of an id that is step `k` of both: it starts with the
same settings and vocabulary and with the same gates open, from then on both give up the id and open
gates in the same steps, and what the first run answers to a lookup of the build, the service of the
second one replies to it in the same step. -/
structure Alike (o : Outline ι) (ss : List (Step ι)) (o' : Outline ι) (ss' : List (Step ι))
    (k : Nat) (id : ι) (file : Option String) : Prop where
  request : ss'[k]? = some (.request id file none)
  settings : (o'.after (ss'.take k)).settings = (o.after (ss.take k)).settings
  vocabulary : file.bind (o'.after (ss'.take k)).service.vocabulary? =
    file.bind (o.after (ss.take k)).service.vocabulary?
  gates : ∀ v, file.bind (o.after (ss.take k)).service.vocabulary? = some v → ∀ t ∈ v.tokens,
    (o'.after (ss'.take k)).service.isOpen t.key = (o.after (ss.take k)).service.isOpen t.key
  steps : ∀ m, k < m → ss'[m]?.filter (·.concerns id) = ss[m]?.filter (·.concerns id)
  replies : ∀ m f e, o.HappensAt ss m (.lookup k f e) →
    e.Genuine (o'.after (ss'.take m)).service f

/-- The step of a request gives its life the same beginning in runs that are alike. -/
theorem Alike.begun {service' : Analysis} {settings' : Settings} {ss' : List (Step ι)}
    (h : Alike (ofService service settings) ss (ofService service' settings') ss' k id file)
    (hs : ss[k]? = some (.request id file none)) :
    let before := (ofService service settings : Outline ι).after (ss.take k)
    let before' := (ofService service' settings' : Outline ι).after (ss'.take k)
    Life.ofRequest before'.service before'.settings file =
      Life.ofRequest before.service before.settings file := by
  intro before before'
  cases hv : file.bind before.service.vocabulary? with
  | none =>
    rw [Life.ofRequest_of_no_vocabulary _ hv,
      Life.ofRequest_of_no_vocabulary _ (h.vocabulary.trans hv)]
  | some v =>
    obtain ⟨f, rfl, hfile⟩ := Option.bind_eq_some_iff.mp hv
    have hfile' : before'.service.vocabulary? f = some v := h.vocabulary.trans hv
    have hstarts : Starts (ofService service settings) ss k id f v := ⟨hs, hfile⟩
    have hlaunch : (Build.ofTokens f before.settings v.tokens).start before'.service =
        (Build.ofTokens f before.settings v.tokens).start before.service := by
      refine Build.launch_congr _ _ v.tokens _ (h.gates v hv) fun e he => h.replies k f e ?_
      -- what happens in the start of the build happens in step `k`
      have hfirst := (first_step_of_starts hstarts).1
      change e ∈ ((Build.ofTokens f before.settings v.tokens).start before.service).2 at he
      rw [← hfirst] at he
      obtain ⟨m, hm⟩ := happensAt_of_mem_historyOf (hstarts.take (Nat.lt_succ_self k)) he
      obtain ⟨hlt, hm⟩ := happensAt_take.mp hm
      obtain rfl : m = k := Nat.le_antisymm (Nat.le_of_lt_succ hlt) hm.ticket_le
      exact hm
    rw [Life.ofRequest_of_vocabulary _ hfile, Life.ofRequest_of_vocabulary _ hfile', h.settings,
      hlaunch]

/-- Only a step that concerns a build takes its life on. -/
theorem lifeOf_take_succ (o : Outline ι) (hs : ss[k]? = some (.request id file none))
    (hm : k < m) :
    let life := o.lifeOf (ss.take m) k id file
    o.lifeOf (ss.take (m + 1)) k id file = match ss[m]?.filter (·.concerns id) with
      | none => life
      | some s =>
        ((life.1.step id (o.after (ss.take m)).service s).1,
          life.2 ++ (life.1.step id (o.after (ss.take m)).service s).2) := by
  intro life
  have hs' : (ss.take m)[k]? = some (.request id file none) := by
    rw [List.getElem?_take_of_lt hm, hs]
  rw [List.take_add_one]
  cases hstep : ss[m]? with
  | none => rw [Option.toList_none, List.append_nil]; rfl
  | some s =>
    rw [Option.toList_some, lifeOf_concat o hs']
    cases hconcerns : s.concerns id with
    | true => rw [Option.filter_some_pos hconcerns]
    | false =>
      rw [Option.filter_some_neg (by simp [hconcerns]), Life.step_of_not_concerns hconcerns,
        List.append_nil]

/-- What a step does in the life of a request happens in that step of the run. -/
theorem happensAt_of_step (hs : ss[k]? = some (.request id file none)) (hm : k < m) {s : Step ι}
    (hstep : ss[m]? = some s) :
    let o : Outline ι := ofService service settings
    ∀ e ∈ ((o.lifeOf (ss.take m) k id file).1.step id (o.after (ss.take m)).service s).2,
      o.HappensAt ss m (.lookup k (file.getD "") e) := by
  intro o e he
  have hs' : (ss.take m)[k]? = some (.request id file none) := by
    rw [List.getElem?_take_of_lt hm, hs]
  obtain ⟨hunf, -, -⟩ := run_of_request service settings hs'
  have hclock : k ≠ (o.after (ss.take m)).clock := by
    rw [clock_after]
    have hlt := (List.getElem?_eq_some_iff.mp hs').1
    omega
  obtain ⟨-, -, hev⟩ := step_life s hclock hunf fun _ => file_lifeOf
  have hmem : Event.lookup k (file.getD "") e ∈
      ((o.after (ss.take m)).step s).2.events.filter (·.ticket = k) := by
    rw [hev]
    exact List.mem_map_of_mem he
  refine ⟨(((o.after (ss.take m)).step s).2, ((o.after (ss.take m)).step s).1), ?_,
    (List.mem_filter.mp hmem).1⟩
  rw [getElem?_run, hstep]
  rfl

/-- Runs that are alike for a request take it through the same life. -/
theorem Alike.lifeOf_eq {service' : Analysis} {settings' : Settings} {ss' : List (Step ι)}
    (h : Alike (ofService service settings) ss (ofService service' settings') ss' k id file)
    (hs : ss[k]? = some (.request id file none)) (hm : k < m) :
    (ofService service' settings' : Outline ι).lifeOf (ss'.take m) k id file =
      (ofService service settings : Outline ι).lifeOf (ss.take m) k id file := by
  induction m, hm using Nat.le_induction with
  | base =>
    rw [lifeOf_take_self, lifeOf_take_self]
    exact h.begun hs
  | succ m hm ih =>
    rw [lifeOf_take_succ _ hs hm, lifeOf_take_succ _ h.request hm, h.steps m hm, ih]
    cases hfilter : ss[m]?.filter (·.concerns id) with
    | none => rfl
    | some s =>
      obtain ⟨hstep, -⟩ := Option.filter_eq_some_iff.mp hfilter
      have hcongr := Life.step_congr id
        ((ofService service settings : Outline ι).after (ss.take m)).service
        ((ofService service' settings' : Outline ι).after (ss'.take m)).service
        ((ofService service settings : Outline ι).lifeOf (ss.take m) k id file).1 s
        fun b hb e he => h.replies m b.file e <| by
          rw [file_lifeOf hb]
          exact happensAt_of_step hs hm hstep e he
      simp only [hcongr]

/-- **Runs that are alike for a request take it through the same course.** -/
theorem courseOf_congr {service' : Analysis} {settings' : Settings} {ss' : List (Step ι)}
    (h : Alike (ofService service settings) ss (ofService service' settings') ss' k id file)
    (hs : ss[k]? = some (.request id file none)) (hm : k < m) :
    (ofService service' settings' : Outline ι).courseOf (ss'.take m) k =
      (ofService service settings : Outline ι).courseOf (ss.take m) k := by
  have hs₁ : (ss.take m)[k]? = some (.request id file none) := by
    rw [List.getElem?_take_of_lt hm, hs]
  have hs₂ : (ss'.take m)[k]? = some (.request id file none) := by
    rw [List.getElem?_take_of_lt hm, h.request]
  rw [courseOf_of_request _ _ hs₁, courseOf_of_request _ _ hs₂, h.lifeOf_eq hs hm]

/-- Nothing happens for a request whose id is given up. -/
theorem silent_of_dropped (hs : ss[k]? = some (.request id file none)) (hm : k < m)
    (hdrop : ss[m]? = some (.drop id)) :
    let o : Outline ι := ofService service settings
    o.eventsOf ss k = o.eventsOf (ss.take m) k ∧
      o.finishedOf ss k = o.finishedOf (ss.take m) k := by
  intro o
  obtain ⟨hlt, hstep⟩ := List.getElem?_eq_some_iff.mp hdrop
  have hss : ss.take m ++ .drop id :: ss.drop (m + 1) = ss := by
    rw [← hstep, List.getElem_cons_drop, List.take_append_drop]
  have hs' : (ss.take m)[k]? = some (.request id file none) := by
    rw [List.getElem?_take_of_lt hm, hs]
  obtain ⟨hunf, -, -⟩ := run_of_request service settings hs'
  have hclock : k < (o.after (ss.take m)).clock := by
    rw [clock_after, List.length_take_of_le hlt.le]
    exact hm.trans_le (Nat.le_add_left _ _)
  -- the step leaves no build of the id
  have hnone : ((o.after (ss.take m)).step (.drop id)).1.ofTicket k = [] := by
    have h := congrArg Prod.fst (change_ofTicket (o := o.after (ss.take m)) (.drop id) k
      (.inl ⟨id, rfl⟩))
    rw [hunf] at h
    refine h.trans ?_
    cases (o.lifeOf (ss.take m) k id file).1 <;> simp [advance, Life.unfinished]
  obtain ⟨-, hfin, hev⟩ := run_absent (ss.drop (m + 1)) hnone
    (.inl (hclock.trans_le (by rw [clock_step]; exact Nat.le_succ _)))
  have hevents := eventsOf_append (o := o) (k := k) (ss.take m) (.drop id :: ss.drop (m + 1))
  have hfinished := finishedOf_append (o := o) (k := k) (ss.take m) (.drop id :: ss.drop (m + 1))
  rw [hss, eventsOf_cons, hev, List.append_nil] at hevents
  rw [hss, finishedOf_cons, hfin, List.append_nil] at hfinished
  exact ⟨hevents.trans (List.append_nil _), hfinished.trans (List.append_nil _)⟩

/-! ## Isolation -/

/-- The steps that are kept in a run without the builds of others. -/
theorem kept_alone (s : Step ι) (h : (!s.isOthers id) = false) :
    ((∀ a, serviceAfter a s = a) ∧ ∀ x, settingsAfter x s = x) ∧ s.concerns id = false ∧
      ∀ a : Analysis, (serviceAfter a s).symbols = a.symbols := by
  cases s with
  | request => exact ⟨⟨fun _ => rfl, fun _ => rfl⟩, rfl, fun _ => rfl⟩
  | children => exact ⟨⟨fun _ => rfl, fun _ => rfl⟩, rfl, fun _ => rfl⟩
  | drop other =>
    have hne : other ≠ id := by simpa [Step.isOthers] using h
    exact ⟨⟨fun _ => rfl, fun _ => rfl⟩, decide_eq_false hne, fun _ => rfl⟩
  | _ => exact absurd h (by simp [Step.isOthers])

/-- The steps that are kept in a run without new settings, changes and vocabularies. -/
theorem kept_undisturbed (s : Step ι) (h : (!s.reconfigures) = false) :
    s.concerns id = false ∧ ∀ a : Analysis, (serviceAfter a s).symbols = a.symbols := by
  cases s with
  | configure => exact ⟨rfl, fun _ => rfl⟩
  | refresh => exact ⟨rfl, fun _ => rfl⟩
  | service x =>
    cases x with
    | setVocabulary => exact ⟨rfl, fun _ => rfl⟩
    | _ => exact absurd h (by simp [Step.reconfigures])
  | _ => exact absurd h (by simp [Step.reconfigures])

/-- What a request is answered shows the settings of its step alone. -/
theorem under_of_answersOf (hs : ss[k]? = some (.request id file none)) {items : List Item}
    (h : .ok (some items) ∈ (ofService service settings : Outline ι).answersOf ss k) :
    let s := ((ofService service settings : Outline ι).after (ss.take k)).settings
    (∀ i ∈ items.head?, i = Item.eof s) ∧ ∀ i ∈ items, i.Under s := by
  intro s
  cases hv : file.bind
      ((ofService service settings : Outline ι).after (ss.take k)).service.vocabulary? with
  | none =>
    have hcourse := congrArg Prod.snd (courseOf_of_request service settings hs)
    rw [lifeOf_of_no_vocabulary hv] at hcourse
    change (ofService service settings : Outline ι).answersOf ss k = [.ok (some [])] at hcourse
    rw [hcourse, List.mem_singleton] at h
    obtain rfl := Option.some.inj (Except.ok.inj h)
    simp
  | some v =>
    obtain ⟨f, life, -, -, hlife, hanswers⟩ := follows_of_request hs hv
    obtain ⟨b, hsteps, hb⟩ := hlife.answers_eq
    rw [hanswers, hb] at h
    obtain ⟨outcome, hout, hmap⟩ := List.mem_map.mp h
    rw [Option.mem_toList] at hout
    cases outcome with
    | error err => exact absurd hmap (by simp [Except.map])
    | ok out =>
      obtain rfl := Option.some.inj (Except.ok.inj hmap)
      obtain ⟨xs, -, -, rfl⟩ := Build.outcome?_eq_ok_iff.mp hout
      rw [show b.settings = s from hsteps.settings_eq]
      exact ⟨fun i hi => (Option.some.inj hi).symm, fun i => Build.under_of_mem_items⟩

/-- Nothing else of a run disturbs the request that is step `k`. -/
structure Isolated (o : Outline ι) (ss : List (Step ι)) (k : Nat) (id : ι) (file : Option String) :
    Prop where
  /-- Other requests, and what gives them up. -/
  without_requests : ∀ m, k < m →
    o.courseOf (alone id k (ss.take m)) ((ss.take k).filter fun s => !s.isOthers id).length =
      o.courseOf (ss.take m) k
  /-- What takes settings, counts a change or replaces a vocabulary after the request. -/
  without_changes : ∀ m, k < m →
    o.courseOf (undisturbed k (ss.take m)) k = o.courseOf (ss.take m) k
  alike : ∀ (service' : Analysis) (settings' : Settings) (ss' : List (Step ι)),
    let o' : Outline ι := ofService service' settings'
    Alike o ss o' ss' k id file → ∀ m, k < m → o'.courseOf (ss'.take m) k = o.courseOf (ss.take m) k
  /-- The settings and the vocabulary of its step and the answers to its lookups decide. -/
  answers : ∀ {κ : Type} [DecidableEq κ] (service' : Analysis) (settings' : Settings)
    (ss' : List (Step κ)) (k' : Nat) (id' : κ) (file' : Option String),
    let o' : Outline κ := ofService service' settings'
    let before := o.after (ss.take k)
    let before' := o'.after (ss'.take k')
    ss'[k']? = some (.request id' file' none) → before'.settings = before.settings →
      file'.bind before'.service.vocabulary? = file.bind before.service.vocabulary? →
        o'.historyOf ss' k' = o.historyOf ss k → o'.answersOf ss' k' = o.answersOf ss k
  settings : ∀ items, .ok (some items) ∈ o.answersOf ss k →
    (∀ i ∈ items.head?, i = Item.eof (o.after (ss.take k)).settings) ∧
      ∀ i ∈ items, i.Under (o.after (ss.take k)).settings
  dropped : ∀ m, k < m → ss[m]? = some (.drop id) →
    o.eventsOf ss k = o.eventsOf (ss.take m) k ∧ o.finishedOf ss k = o.finishedOf (ss.take m) k

/-- **Requests do not disturb each other.** In every run, a request for the items of a file has at
every time the same course as without all other requests and what gives them up, as without what
takes settings, counts a change or replaces a vocabulary after it, and as in every run that is alike
for it. What it is answered depends on the settings and the vocabulary of its step and on what is
answered to its own lookups; what it is answered shows the settings of its step alone; and once its
id is given up nothing happens for it. -/
theorem course_isolated (service : Analysis) (settings : Settings) (ss : List (Step ι)) {k : Nat}
    {id : ι} {file : Option String} (hs : ss[k]? = some (.request id file none)) :
    Isolated (ofService service settings) ss k id file := by
  have htake : ∀ m, k < m → (ss.take m)[k]? = some (.request id file none) ∧
      (ss.take m).take k = ss.take k := by
    intro m hm
    rw [List.getElem?_take_of_lt hm, List.take_take, Nat.min_eq_left hm.le]
    exact ⟨hs, rfl⟩
  refine ⟨fun m hm => ?_, fun m hm => ?_, ?_, ?_, fun items h => under_of_answersOf hs h,
    fun m hm hdrop => silent_of_dropped hs hm hdrop⟩
  · obtain ⟨hs', hpre⟩ := htake m hm
    rw [← hpre]
    exact courseOf_thin service settings _ _ (fun s h => (kept_alone s h).1)
      (fun s h => (kept_alone s h).2) hs'
  · obtain ⟨hs', hpre⟩ := htake m hm
    have hcourse := courseOf_thin service settings (fun _ => true) _
      (fun s h => absurd h (by simp)) kept_undisturbed hs'
    rw [List.filter_eq_self.mpr fun _ _ => rfl, hpre, List.length_take_of_le
      (List.getElem?_eq_some_iff.mp hs).1.le] at hcourse
    exact hcourse
  · intro service' settings' ss' o' h m hm
    exact courseOf_congr h hs hm
  · intro κ _ service' settings' ss' k' id' file' o' before before' hs' hsettings hvocabulary
      hhistory
    exact answersOf_congr hs hs' hsettings hvocabulary hhistory

/-- Two builds of the same tokens are under way; the first one is given up, and the settings, the
vocabulary and a reply change before the second one is answered. -/
theorem course_isolated_twoLiterals :
    let o : Outline Nat := ofService closedService .standard
    let ss := [.request 0 (some "g") none, .request 1 (some "h") none,
      .configure (.object [("eofTitle", .string "end")]), .service (.setVocabulary "h" none),
      .drop 0, .service (.setSymbol "h" "b" (.ok none)), .service (.release "b"),
      .service (.release "a")]
    ss[1]? = some (.request 1 (some "h") none) ∧
      o.courseOf (alone 1 1 ss) 0 = o.courseOf ss 1 ∧
      o.courseOf (undisturbed 1 ss) 1 = o.courseOf ss 1 ∧
      ∃ items, .ok (some items) ∈ o.answersOf ss 1 ∧ ∀ i ∈ items, i.Under .standard := by
  intro o ss
  have hs : ss[1]? = some (.request 1 (some "h") none) := rfl
  have hisolated := course_isolated closedService .standard ss hs
  have hanswered : .ok (some _) ∈ o.answersOf ss 1 := List.mem_singleton_self _
  exact ⟨hs, hisolated.without_requests 8 (by decide), hisolated.without_changes 8 (by decide), _,
    hanswered, (hisolated.settings _ hanswered).2⟩

end Outline

end TokenOutline
