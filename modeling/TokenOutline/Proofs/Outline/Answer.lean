import TokenOutline.Proofs.Grammar.Caption
import TokenOutline.Proofs.Grammar.Vocabulary
import TokenOutline.Proofs.Outline.Ticket

/-!
# What a build answers

A build is answered by its own history: by the replies that its own lookups got, at the moments when
they got them, and by the settings and the vocabulary of the step that started it. Nothing else of
the run shows in the answer.

Headlines:
* **`items_of_success`**: a build that succeeds answers the item for the end of input and then one
  item for each token type, in ascending order, each with the reply to its own lookup.
* **`answer_iff_history`**: a build succeeds iff all its lookups were answered without a failure,
  and fails iff its history holds a failure that ends it; it names the lookup that failed, and after
  it has ended nothing happens for it.
-/

namespace TokenOutline

/-! ## The items of a vocabulary -/

theorem Item.commandFor_eq_elim (s : Settings) (symbol : Option Grammar.Symbol) :
    commandFor s symbol = (symbol.bind (·.definition)).elim .inert fun d =>
      .selectRange s.selectRangeCommand d.range := by
  unfold commandFor
  cases symbol.bind (·.definition) <;> rfl

/-- The items of a vocabulary by token type. -/
theorem Build.items_tokens {v : Vocabulary} (s : Settings) {xs : List (Option Grammar.Symbol)}
    (hxs : xs.length = v.size) :
    items s v.tokens xs =
      Item.eof s :: (List.range v.size).map fun (i : Nat) =>
        Item.leaf (Token.ofVocabulary v i).caption
          ((xs[i]?.join.bind (·.definition)).elim .inert fun d =>
            .selectRange s.selectRangeCommand d.range) s := by
  refine congrArg (Item.eof s :: ·) (List.ext_getElem ?_ fun i hi _ => ?_)
  · simp [Vocabulary.tokens, hxs]
  · have hlt : i < xs.length := by
      rw [List.length_zipWith] at hi
      exact hi.trans_le (Nat.min_le_right _ _)
    simp [Vocabulary.tokens, Item.ofToken, Item.commandFor_eq_elim, List.getElem?_eq_getElem hlt]

/-- No token type has the caption of the end of input, whose index is negative. -/
theorem Token.caption_ne_eofCaption (v : Vocabulary) (i : Nat) :
    (Token.ofVocabulary v i).caption ≠ Token.eofCaption := by
  intro h
  have hindex : (i : Int) = indexOfCaption eofCaption := by
    rw [← h, indexOfCaption_caption]
    rfl
  rw [indexOfCaption_eofCaption] at hindex
  omega

namespace Outline

variable {ι : Type} [DecidableEq ι] {service : Analysis} {settings : Settings}
  {ss : List (Step ι)} {k : Nat} {id : ι} {file : String} {v : Vocabulary} {o : Outline ι}

/-! ## Where replies come from -/

theorem getElem?_run (o : Outline ι) (ss : List (Step ι)) (m : Nat) :
    (o.run ss)[m]? =
      ss[m]?.map fun s => (((o.after (ss.take m)).step s).2, ((o.after (ss.take m)).step s).1) := by
  induction ss generalizing o m with
  | nil => rfl
  | cons s ss ih =>
    cases m with
    | zero => rfl
    | succ m => exact ih (o.step s).1 m

/-- An event happens in step `m` of a run. -/
def HappensAt (o : Outline ι) (ss : List (Step ι)) (m : Nat) (e : Event) : Prop :=
  ∃ r : Report ι × Outline ι, (o.run ss)[m]? = some r ∧ e ∈ r.1.events

theorem happensAt_take {n m : Nat} {e : Event} :
    o.HappensAt (ss.take n) m e ↔ m < n ∧ o.HappensAt ss m e := by
  unfold HappensAt
  rw [getElem?_run, getElem?_run]
  by_cases hm : m < n
  · rw [List.getElem?_take_of_lt hm, List.take_take, Nat.min_eq_left hm.le]
    simp only [hm, true_and]
  · rw [List.getElem?_eq_none (by rw [List.length_take]; omega)]
    simp [hm]

theorem mem_eventsOf {e : Event} :
    e ∈ o.eventsOf ss k ↔ e.ticket = k ∧ ∃ m, o.HappensAt ss m e := by
  unfold eventsOf
  rw [List.mem_flatMap]
  constructor
  · rintro ⟨r, hr, he⟩
    obtain ⟨he, hk⟩ := List.mem_filter.mp he
    obtain ⟨m, hm⟩ := List.mem_iff_getElem?.mp hr
    exact ⟨of_decide_eq_true hk, m, r, hm, he⟩
  · rintro ⟨hk, m, r, hr, he⟩
    exact ⟨r, List.mem_of_getElem? hr, List.mem_filter.mpr ⟨he, decide_eq_true hk⟩⟩

omit [DecidableEq ι] in
theorem releaseAll_genuine (a : Analysis) (key : String) : ∀ (us : List (Unfinished ι)),
    ∀ e ∈ (releaseAll a key us).2.2, ∀ k file x, e = .lookup k file x → x.Genuine a file
  | [], e, he => absurd he List.not_mem_nil
  | u :: us, e, he => by
    have hsplit : e ∈ ((u.build.release a key).2.map
          (.lookup u.ticket (u.build.release a key).1.file)) ∨
        e ∈ (releaseAll a key us).2.2 := by
      simp only [releaseAll] at he
      split at he <;> exact List.mem_append.mp he
    rintro k file x rfl
    rcases hsplit with h | h
    · obtain ⟨y, hy, heq⟩ := List.mem_map.mp h
      obtain ⟨-, hfile, rfl⟩ := Event.lookup.inj heq
      have hgen := Build.answer_genuine a _ u.build y hy
      rw [← hfile, Build.release, Build.file_answer]
      exact hgen
    · exact releaseAll_genuine a key us _ h k file x rfl

omit [DecidableEq ι] in
theorem request_genuine {file' : Option String} {below : Option Item} {e : Build.LookupEvent}
    (he : .lookup k file e ∈ (o.request id file' below).2.events) :
    e.Genuine o.service file := by
  unfold request at he
  split at he
  · exact absurd he (by simp [answered])
  · exact absurd he (by simp [answered])
  · split at he
    · exact absurd he (by simp [answered])
    · rw [(startBuild_spec ..).2.2] at he
      rcases List.mem_cons.mp he with he | he
      · exact absurd he (by simp)
      · obtain ⟨x, hx, heq⟩ := List.mem_map.mp he
        obtain ⟨-, rfl, rfl⟩ := Event.lookup.inj heq
        exact Build.launch_genuine _ _ _ x hx

/-- A lookup that a step answers is answered what the service replies before it. -/
theorem step_genuine (s : Step ι) {e : Build.LookupEvent}
    (he : .lookup k file e ∈ (o.step s).2.events) : e.Genuine o.service file := by
  cases s with
  | request id file' below => exact request_genuine he
  | children id index file' =>
    simp only [step, perform] at he
    split at he
    · exact request_genuine he
    · exact absurd he List.not_mem_nil
  | configure value =>
    simp only [step, perform] at he
    split at he <;> exact absurd he List.not_mem_nil
  | service x =>
    cases x with
    | release key => exact releaseAll_genuine _ key o.unfinished _ he k file e rfl
    | _ => exact absurd he List.not_mem_nil
  | _ => exact absurd he List.not_mem_nil

/-- **A lookup is answered what the service replies in the step in which it is answered.** -/
theorem HappensAt.genuine {m : Nat} {e : Build.LookupEvent}
    (he : o.HappensAt ss m (.lookup k file e)) :
    e.Genuine (o.after (ss.take m)).service file := by
  obtain ⟨r, hr, he⟩ := he
  rw [getElem?_run] at hr
  obtain ⟨s, -, rfl⟩ := Option.map_eq_some_iff.mp hr
  exact step_genuine s he

/-- Nothing happens for a build before the step that starts it. -/
theorem HappensAt.ticket_le {m : Nat} {e : Event}
    (he : (ofService service settings : Outline ι).HappensAt ss m e) : e.ticket ≤ m := by
  by_contra hlt
  obtain ⟨-, -, hev⟩ := run_before service settings (ss.take (m + 1))
    ((List.length_take_le ..).trans (Nat.not_le.mp hlt))
  have hmem := mem_eventsOf.mpr ⟨rfl, m, happensAt_take.mpr ⟨Nat.lt_succ_self m, he⟩⟩
  rw [hev] at hmem
  exact absurd hmem List.not_mem_nil

/-- What the history of a build tells of happens in a step of the run. -/
theorem happensAt_of_mem_historyOf (h : Starts (.ofService service settings) ss k id file v)
    {e : Build.LookupEvent} (he : e ∈ (ofService service settings : Outline ι).historyOf ss k) :
    ∃ m, (ofService service settings : Outline ι).HappensAt ss m (.lookup k file e) := by
  obtain ⟨-, -, -, -, hev⟩ := follows_of_starts h
  have hmem : Event.lookup k file e ∈ (ofService service settings : Outline ι).eventsOf ss k := by
    rw [hev]
    exact List.mem_cons_of_mem _ (List.mem_map.mpr ⟨e, he, rfl⟩)
  exact (mem_eventsOf.mp hmem).2

/-! ## Success -/

/-- What was finished for a ticket is what its build has come to. -/
theorem of_mem_finishedOf (h : Starts (.ofService service settings) ss k id file v)
    {f : Finished ι} (hf : f ∈ (ofService service settings : Outline ι).finishedOf ss k) :
    let o : Outline ι := ofService service settings
    ∃ b outcome, Build.Steps (.ofTokens file (o.after (ss.take k)).settings v.tokens)
        (o.historyOf ss k) b ∧
      b.outcome? = some outcome ∧ f = ⟨id, k, outcome.map some⟩ := by
  intro o
  obtain ⟨life, hlife, -, hfin, -⟩ := follows_of_starts h
  rw [hfin] at hf
  obtain ⟨outcome, rfl, rfl⟩ := Life.mem_finished.mp hf
  cases hlife with
  | ended steps ends => exact ⟨_, outcome, steps, ends, rfl⟩

/-- A reply to a lookup was given in some step of the run, and is what the service replied then. -/
theorem happensAt_of_repliesTo (h : Starts (.ofService service settings) ss k id file v) {i : Nat}
    {r : Reply} (hi : i < v.size)
    (hr : r ∈ Build.repliesTo i ((ofService service settings : Outline ι).historyOf ss k)) :
    let o : Outline ι := ofService service settings
    ∃ m, o.HappensAt ss m (.lookup k file (.answered i (Token.ofVocabulary v i).key r)) ∧
      (o.after (ss.take m)).service.reply file (Token.ofVocabulary v i).key = r := by
  intro o
  obtain ⟨life, hlife, -⟩ := follows_of_starts h
  obtain ⟨b, hsteps⟩ := hlife.steps
  obtain ⟨key, hmem⟩ := Build.mem_repliesTo.mp hr
  obtain ⟨t, ht, rfl⟩ := hsteps.records.keys i key r hmem
  rw [show b.tokens = v.tokens from hsteps.tokens_eq, Vocabulary.getElem?_tokens hi] at ht
  obtain rfl := Option.some.inj ht
  obtain ⟨m, hm⟩ := happensAt_of_mem_historyOf h hmem
  exact ⟨m, hm, hm.genuine.symm⟩

/-- **The items of a build that succeeds.** They are the item for the end of input, which does
nothing and stands nowhere else, and one for each token type in ascending order, under the settings
of the step that started the build; each goes to the definition in the one reply that the lookup of
its index was answered, which is what the service replied in the step of the answer. -/
theorem items_of_success (service : Analysis) (settings : Settings) (ss : List (Step ι)) {k : Nat}
    {id : ι} {file : String} {v : Vocabulary}
    (h : Starts (.ofService service settings) ss k id file v) {f : Finished ι}
    (hf : f ∈ (ofService service settings : Outline ι).finishedOf ss k)
    {answer : Option (List Item)} (hok : f.answer = .ok answer) :
    let o : Outline ι := ofService service settings
    let s := (o.after (ss.take k)).settings
    ∃ symbol : Nat → Option Grammar.Symbol, ∃ items : List Item,
      answer = some items ∧
      items = Item.eof s :: (List.range (v.maxTokenType + 1).toNat).map (fun (i : Nat) =>
        Item.leaf (Token.ofVocabulary v i).caption
          (((symbol i).bind (·.definition)).elim .inert fun d =>
            .selectRange s.selectRangeCommand d.range) s) ∧
      (items.length : Int) = v.maxTokenType + 2 ∧
      (∀ c, (Item.eof s).command = some c → c.isActionable = false) ∧
      Item.eof s ∉ items.tail ∧
      ∀ i < (v.maxTokenType + 1).toNat,
        Build.repliesTo i (o.historyOf ss k) = [.ok (symbol i)] ∧
        ∃ m, o.HappensAt ss m
            (.lookup k file (.answered i (Token.ofVocabulary v i).key (.ok (symbol i)))) ∧
          (o.after (ss.take m)).service.reply file (Token.ofVocabulary v i).key =
            .ok (symbol i) := by
  intro o s
  obtain ⟨b, outcome, hsteps, hout, rfl⟩ := of_mem_finishedOf h hf
  cases outcome with
  | error err => exact absurd hok (by simp [Except.map])
  | ok out =>
    obtain rfl := Except.ok.inj hok
    obtain ⟨xs, hlen, rfl, hreplies⟩ := hsteps.records.outcome_ok hout
    have htokens : b.tokens = v.tokens := hsteps.tokens_eq
    have hsettings : b.settings = s := hsteps.settings_eq
    have hsize : (v.maxTokenType + 1).toNat = v.size := by
      simp [Vocabulary.maxTokenType]
    have hxs : xs.length = v.size := by
      rw [hlen, htokens, Vocabulary.tokens, List.length_map, List.length_range]
    have hitems := Build.items_tokens (v := v) s hxs
    rw [htokens, hsettings, hsize, hitems]
    refine ⟨fun i => xs[i]?.join, _, rfl, rfl, ?_, ?_, fun hmem => ?_, fun i hi => ?_⟩
    · simp only [List.length_cons, List.length_map, List.length_range, Vocabulary.maxTokenType]
      omega
    · intro c hc
      obtain rfl := Option.some.inj hc
      rfl
    · obtain ⟨i, -, hi⟩ := List.mem_map.mp hmem
      exact Token.caption_ne_eofCaption v i (congrArg Item.label hi)
    · have hx : xs[i]? = some (xs[i]?.join) := by
        rw [List.getElem?_eq_getElem (hxs ▸ hi)]
        rfl
      have hreply := hreplies i _ hx
      exact ⟨hreply, happensAt_of_repliesTo h hi (hreply ▸ List.mem_singleton_self _)⟩

/-- A vocabulary of two literals. -/
def twoLiterals : Vocabulary := ⟨[some "'a'", some "'b'"], []⟩

/-- A service all of whose lookups wait, and which fails for the second token of `twoLiterals`. -/
def closedService : Analysis :=
  ⟨[("*", some twoLiterals)], [("*", [("b", .error (.unavailable "down"))])], ⟨[], true⟩⟩

/-- The second token is answered first, when its reply is no longer a failure. -/
theorem items_of_success_twoLiterals :
    let o : Outline Nat := ofService closedService .standard
    let ss := [.request 0 (some "g") none, .service (.setSymbol "g" "b" (.ok none)),
      .service (.release "b"), .configure .null, .service (.release "a")]
    Starts o ss 0 0 "g" twoLiterals ∧
      ∃ f ∈ o.finishedOf ss 0, ∃ items, f.answer = .ok (some items) ∧
        (items.length : Int) = twoLiterals.maxTokenType + 2 ∧
        Item.eof .standard ∉ items.tail := by
  intro o ss
  have h : Starts o ss 0 0 "g" twoLiterals := ⟨rfl, rfl⟩
  obtain ⟨_, items, hanswer, -, hlen, -, htail, -⟩ :=
    items_of_success closedService .standard ss h (List.mem_singleton_self _) rfl
  exact ⟨h, _, List.mem_singleton_self _, items, congrArg Except.ok hanswer, hlen, htail⟩

/-! ## Success and failure -/

/-- Nothing happens for a build after the step that ended it. -/
theorem silent_of_finished (h : Starts (.ofService service settings) ss k id file v) {m : Nat}
    (hm : (ofService service settings : Outline ι).finishedOf (ss.take m) k ≠ []) :
    let o : Outline ι := ofService service settings
    o.eventsOf ss k = o.eventsOf (ss.take m) k ∧
      o.finishedOf ss k = o.finishedOf (ss.take m) k := by
  intro o
  have hk : k < ss.length := (List.getElem?_eq_some_iff.mp h.step).1
  have hkm : k < m := by
    by_contra hle
    exact hm (run_before service settings (ss.take m)
      ((List.length_take_le ..).trans (Nat.not_lt.mp hle))).2.1
  obtain ⟨life, -, hunf, hfin, -⟩ := follows_of_starts (h.take hkm)
  have hnone : (o.after (ss.take m)).ofTicket k = [] := by
    cases life with
    | running b => exact absurd hfin hm
    | ended outcome => exact hunf
    | dropped => exact hunf
  have hclock : k < (o.after (ss.take m)).clock := by
    rw [clock_after, List.length_take]
    exact (Nat.lt_min.mpr ⟨hkm, hk⟩).trans_le (Nat.le_add_left _ _)
  obtain ⟨-, hfin', hev'⟩ := run_absent (ss.drop m) hnone (.inl hclock)
  have hev := eventsOf_append (o := o) (k := k) (ss.take m) (ss.drop m)
  have hfin := finishedOf_append (o := o) (k := k) (ss.take m) (ss.drop m)
  rw [List.take_append_drop, hev', List.append_nil] at hev
  rw [List.take_append_drop, hfin', List.append_nil] at hfin
  exact ⟨hev, hfin⟩

/-- **The failure of a build** is that of one of its lookups: the first one that was answered with a
failure, which is the last event of a small build, and in a large build one before which all lookups
have succeeded. -/
theorem failure_of_finished (h : Starts (.ofService service settings) ss k id file v)
    {f : Finished ι} (hf : f ∈ (ofService service settings : Outline ι).finishedOf ss k)
    {err : ResolveError} (herr : f.answer = .error err) :
    let history := (ofService service settings : Outline ι).historyOf ss k
    ∃ (i : Nat) (t : Token) (e : LookupError), v.tokens[i]? = some t ∧ err = ⟨i, t.key, e⟩ ∧
      Build.repliesTo i history = [.error e] ∧
      (v.tokens.length ≤ smallBuild → ∃ pre, history = pre ++ [.answered i t.key (.error e)] ∧
        ∀ j e', .error e' ∉ Build.repliesTo j pre) ∧
      (smallBuild < v.tokens.length → ∀ j < i, ∃ x, Build.repliesTo j history = [.ok x]) := by
  intro history
  obtain ⟨b, outcome, hsteps, hout, rfl⟩ := of_mem_finishedOf h hf
  cases outcome with
  | ok out => exact absurd herr (by simp [Except.map])
  | error err' =>
    obtain rfl := Except.error.inj herr
    have htokens : b.tokens = v.tokens := hsteps.tokens_eq
    obtain ⟨i, t, e, ht, rfl, hreply, hbefore, pre, j, key, r, hlast, -, -, hsmall⟩ :=
      hsteps.outcome_error hout
    refine ⟨i, t, e, ht, by rw [Vocabulary.index_tokens ht], hreply,
      fun hn => ⟨pre, ?_, ?_⟩, hbefore⟩
    · obtain ⟨rfl, rfl, -⟩ := hsmall hn
      obtain ⟨t', ht', rfl⟩ := hsteps.records.keys j key (.error e) (by rw [hlast]; simp)
      rw [htokens, ht] at ht'
      rw [Option.some.inj ht']
      exact hlast
    · exact (hsmall hn).2.2

/-- What the history of the build that step `k` starts decides of its answer. -/
structure DecidedByHistory (o : Outline ι) (ss : List (Step ι)) (k : Nat) (id : ι)
    (v : Vocabulary) : Prop where
  once : ∀ f ∈ o.finishedOf ss k, f.id = id ∧ o.finishedOf ss k = [f]
  succeeds_iff : (∃ f ∈ o.finishedOf ss k, ∃ answer, f.answer = .ok answer) ↔
    ∀ i < v.tokens.length, ∃ x, Build.repliesTo i (o.historyOf ss k) = [.ok x]
  fails_iff : (∃ f ∈ o.finishedOf ss k, ∃ err, f.answer = .error err) ↔
    Build.Fails v.tokens.length (o.historyOf ss k)
  /-- A failure is that of a lookup: of the first one that was answered with a failure, or in a
  large build of one before which all lookups have succeeded. -/
  failure : ∀ f ∈ o.finishedOf ss k, ∀ err, f.answer = .error err →
    ∃ (i : Nat) (t : Token) (e : LookupError), v.tokens[i]? = some t ∧ err = ⟨i, t.key, e⟩ ∧
      Build.repliesTo i (o.historyOf ss k) = [.error e] ∧
      (v.tokens.length ≤ 30 → ∃ pre, o.historyOf ss k = pre ++ [.answered i t.key (.error e)] ∧
        ∀ j e', .error e' ∉ Build.repliesTo j pre) ∧
      (31 ≤ v.tokens.length →
        ∀ j < i, ∃ x, Build.repliesTo j (o.historyOf ss k) = [.ok x])
  /-- In a large build a failure behind a lookup that waits ends nothing. -/
  held_back : 31 ≤ v.tokens.length → ∀ pre i key e,
    o.historyOf ss k = pre ++ [.answered i key (.error e)] →
      (∃ j < i, Build.repliesTo j pre = []) → o.finishedOf ss k = []
  ends : ∀ pre post, o.historyOf ss k = pre ++ post → Build.Fails v.tokens.length pre → post = []
  silent : ∀ m, o.finishedOf (ss.take m) k ≠ [] →
    o.eventsOf ss k = o.eventsOf (ss.take m) k ∧ o.finishedOf ss k = o.finishedOf (ss.take m) k

/-- **What a build answers is decided by its history**, and it answers once. It succeeds iff each of
its lookups was answered without a failure, and it fails iff its history holds a failure that ends
it. A failure is that of a lookup of this build: in a small build of the first one that was answered
with a failure, which is its last event, and in a large one of one before which all lookups have
succeeded, while a failure behind a lookup that waits ends nothing. After the end nothing happens
for the build. -/
theorem answer_iff_history (service : Analysis) (settings : Settings) (ss : List (Step ι)) {k : Nat}
    {id : ι} {file : String} {v : Vocabulary}
    (h : Starts (.ofService service settings) ss k id file v) :
    DecidedByHistory (.ofService service settings) ss k id v := by
  obtain ⟨life, hlife, -, hfin, -⟩ := follows_of_starts h
  refine ⟨fun f hf => ?_, ?_, ?_, fun f hf err herr => failure_of_finished h hf herr,
    fun hn pre i key e hhist hwait => ?_, fun pre post hhist hfails => ?_,
    fun m hm => silent_of_finished h hm⟩
  · rw [hfin] at hf ⊢
    obtain ⟨outcome, rfl, rfl⟩ := Life.mem_finished.mp hf
    exact ⟨rfl, rfl⟩
  · rw [hfin, Life.exists_ok_finished]
    exact hlife.succeeded_iff
  · rw [hfin, Life.exists_error_finished]
    exact hlife.failed_iff
  · obtain ⟨j, hj, hnone⟩ := hwait
    refine List.eq_nil_iff_forall_not_mem.mpr fun f hf => ?_
    obtain ⟨b, outcome, hsteps, hout, -⟩ := of_mem_finishedOf h hf
    rw [hhist] at hsteps
    rw [hsteps.outcome_held hn hj hnone] at hout
    exact absurd hout (by simp)
  · obtain ⟨b, hsteps⟩ := hlife.steps
    rw [hhist] at hsteps
    exact hsteps.eq_nil_of_fails hfails

/-- A vocabulary of as many literals as make a large build. -/
def manyLiterals : Vocabulary :=
  ⟨some "'a'" :: some "'b'" :: List.replicate 29 (some "'c'"), []⟩

/-- The lookup of the second token fails first. This ends a build of two tokens, and the first one
is never answered; a build of many tokens goes on until the first one is answered. -/
theorem answer_iff_history_secondFails :
    let ss := [.request 0 (some "g") none, .service (.release "b"), .service (.release "a")]
    let small : Outline Nat := ofService closedService .standard
    let large : Outline Nat :=
      ofService { closedService with vocabularies := [("*", some manyLiterals)] } .standard
    (Starts small ss 0 0 "g" twoLiterals ∧
      (∃ f ∈ small.finishedOf ss 0, ∃ err, f.answer = .error err) ∧
      small.eventsOf ss 0 = small.eventsOf (ss.take 2) 0) ∧
    Starts large ss 0 0 "g" manyLiterals ∧ large.finishedOf (ss.take 2) 0 = [] ∧
      ∃ f ∈ large.finishedOf ss 0, ∃ err, f.answer = .error err := by
  intro ss small large
  have h : Starts small ss 0 0 "g" twoLiterals := ⟨rfl, rfl⟩
  have hdecided := answer_iff_history closedService .standard ss h
  have hlast : Build.Fails twoLiterals.tokens.length (small.historyOf ss 0) := by
    refine ⟨1, .unavailable "down", List.mem_singleton_self _, fun hlarge => ?_⟩
    exact absurd hlarge (by decide)
  have hmany : Starts large ss 0 0 "g" manyLiterals := ⟨rfl, rfl⟩
  have hdecided' := answer_iff_history _ .standard ss hmany
  have hbefore := answer_iff_history _ .standard _ (hmany.take (m := 2) (by decide))
  have hheld : large.finishedOf (ss.take 2) 0 = [] := by
    have hfailed : ((large.historyOf (ss.take 2) 0).getLast?.bind (·.replyTo? 1)) =
        some (.error (.unavailable "down")) := by decide +kernel
    have hwaits : Build.repliesTo 0 (large.historyOf (ss.take 2) 0).dropLast = [] := by
      decide +kernel
    obtain ⟨x, hx, hreply⟩ := Option.bind_eq_some_iff.mp hfailed
    obtain ⟨key, hkey⟩ := Build.mem_repliesTo.mp
      (List.mem_filterMap.mpr ⟨x, List.mem_singleton_self x, hreply⟩)
    obtain rfl := List.mem_singleton.mp hkey
    obtain ⟨pre, hpre⟩ := List.getLast?_eq_some_iff.mp hx
    rw [hpre, List.dropLast_concat] at hwaits
    exact hbefore.held_back (by decide) pre 1 key _ hpre ⟨0, by decide, hwaits⟩
  have hturn : Build.Fails manyLiterals.tokens.length (large.historyOf ss 0) := by
    have hfailed : Build.repliesTo 1 (large.historyOf ss 0) = [.error (.unavailable "down")] := by
      decide +kernel
    have hsucceeded : Build.repliesTo 0 (large.historyOf ss 0) = [.ok none] := by decide +kernel
    refine ⟨1, _, hfailed ▸ List.mem_singleton_self _, fun _ j hj => ?_⟩
    obtain rfl : j = 0 := by omega
    exact ⟨none, hsucceeded ▸ List.mem_singleton_self _⟩
  exact ⟨⟨h, hdecided.fails_iff.mpr hlast, (hdecided.silent 2 (List.cons_ne_nil _ _)).1⟩,
    hmany, hheld, hdecided'.fails_iff.mpr hturn⟩

end Outline

end TokenOutline
