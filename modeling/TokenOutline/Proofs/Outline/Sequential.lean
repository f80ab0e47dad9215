import TokenOutline.Proofs.Build.Sequential
import TokenOutline.Proofs.Outline.Answer

/-!
# The outline and the sequential way

Requests are answered from builds whose lookups are all under way at once, in a run that opens gates
in any order and does much else. As long as the service does not change the replies of a build while
it runs, its answer is that of `sequential`: the order of the answers shows at most in which one of
several failures a small build names.

Headline:
* **`answer_refines_sequential`**: the answer of a build against that of the sequential way, and
  against that of any other run with the same replies.
-/

namespace TokenOutline.Outline

variable {ι : Type} [DecidableEq ι] {o : Outline ι} {service : Analysis} {settings s : Settings}
  {ss : List (Step ι)} {k m : Nat} {id : ι} {file : String} {v : Vocabulary}
  {reply : String → Reply} {answer : Answer}

/-- In a run, step `k` starts a build under settings `s` and step `m` ends it with an answer, and
from the one to the other the service replies to each token of the build what `reply` says. -/
structure Settles (o : Outline ι) (ss : List (Step ι)) (k m : Nat) (id : ι) (file : String)
    (v : Vocabulary) (s : Settings) (reply : String → Reply) (answer : Answer) : Prop where
  starts : Starts o ss k id file v
  settings : (o.after (ss.take k)).settings = s
  steady : ∀ j, k ≤ j → j ≤ m → ∀ t ∈ v.tokens,
    (o.after (ss.take j)).service.reply file t.key = reply t.key
  ends : ∃ r, (o.run ss)[m]? = some r ∧ ⟨id, k, answer⟩ ∈ r.1.finished

/-- What a step finishes is finished in the run up to it. -/
theorem mem_finishedOf_take {f : Finished ι} {r : Report ι × Outline ι}
    (hr : (o.run ss)[m]? = some r) (hf : f ∈ r.1.finished) :
    f ∈ o.finishedOf (ss.take (m + 1)) f.ticket := by
  have hr' : (o.run (ss.take (m + 1)))[m]? = some r := by
    rw [getElem?_run] at hr ⊢
    rw [List.getElem?_take_of_lt (Nat.lt_succ_self m), List.take_take,
      Nat.min_eq_left (Nat.le_succ m)]
    exact hr
  exact List.mem_flatMap.mpr
    ⟨r, List.mem_of_getElem? hr', List.mem_filter.mpr ⟨hf, decide_eq_true rfl⟩⟩

/-- A build ends no earlier than it starts. -/
theorem Settles.le (h : Settles (.ofService service settings) ss k m id file v s reply answer) :
    k ≤ m := by
  obtain ⟨r, hr, hf⟩ := h.ends
  by_contra hlt
  obtain ⟨-, hfin, -⟩ := run_before service settings (ss.take (m + 1))
    ((List.length_take_le ..).trans (Nat.not_le.mp hlt))
  have hmem := mem_finishedOf_take hr hf
  rw [hfin] at hmem
  exact absurd hmem List.not_mem_nil

/-- **The build of a run whose replies are steady**: its lookups are answered what `reply` says. -/
theorem Settles.build (h : Settles (.ofService service settings) ss k m id file v s reply answer) :
    ∃ history b outcome, Build.Steps (.ofTokens file s v.tokens) history b ∧
      b.outcome? = some outcome ∧ answer = outcome.map some ∧
      ∀ i key r, .answered i key r ∈ history → r = reply key := by
  obtain ⟨r, hr, hf⟩ := h.ends
  have hstarts := h.starts.take (Nat.lt_succ_of_le h.le)
  obtain ⟨b, outcome, hsteps, hout, hfin⟩ :=
    of_mem_finishedOf hstarts (mem_finishedOf_take hr hf)
  have htake : (ss.take (m + 1)).take k = ss.take k := by
    rw [List.take_take, Nat.min_eq_left (Nat.le_succ_of_le h.le)]
  rw [htake, h.settings] at hsteps
  refine ⟨_, b, outcome, hsteps, hout, congrArg Finished.answer hfin, fun i key r hmem => ?_⟩
  obtain ⟨t, ht, rfl⟩ := hsteps.records.keys i key r hmem
  rw [show b.tokens = v.tokens from hsteps.tokens_eq] at ht
  -- the answer was given while the build ran, when the service replied what `reply` says
  obtain ⟨j, hj⟩ := happensAt_of_mem_historyOf hstarts hmem
  obtain ⟨hjm, hj⟩ := happensAt_take.mp hj
  have hgenuine : r = _ := hj.genuine
  rw [hgenuine]
  exact h.steady j hj.ticket_le (Nat.le_of_lt_succ hjm) t (List.mem_of_getElem? ht)

/-- A build with steady replies succeeds iff the sequential way does, and with the same items. -/
theorem Settles.ok_iff (h : Settles (.ofService service settings) ss k m id file v s reply answer)
    (out : Option (List Item)) :
    answer = .ok out ↔ (sequential reply s v.tokens).map some = .ok out := by
  obtain ⟨history, b, outcome, hsteps, hout, rfl, hreply⟩ := h.build
  obtain ⟨hok, -⟩ := hsteps.outcome_sequential hreply hout
  cases outcome with
  | ok items => rw [(hok items).mp rfl]
  | error err =>
    cases hseq : sequential reply s v.tokens with
    | ok items => exact absurd ((hok items).mpr hseq) (by simp)
    | error err' => simp [Except.map]

/-- **The answer of a build against the sequential way**, whatever else happens in the run and in
whatever order the lookups are answered. The build succeeds iff the sequential way does, and with
the same items; it fails with a token that fails, and with the same one as the sequential way if it
is large, or if only one token fails. So all runs with the same replies succeed or all fail, and
those that succeed have the same items. -/
theorem answer_refines_sequential
    (h : Settles (.ofService service settings : Outline ι) ss k m id file v s reply answer) :
    let sequentially : Answer := (sequential reply s v.tokens).map some
    (∀ out, answer = .ok out ↔ sequentially = .ok out) ∧
    (∀ err, answer = .error err → ∃ i, FailsAt reply v.tokens i err) ∧
    (31 ≤ v.tokens.length → answer = sequentially) ∧
    ((∀ i j err err', FailsAt reply v.tokens i err → FailsAt reply v.tokens j err' → i = j) →
      answer = sequentially) ∧
    ∀ {κ : Type} [DecidableEq κ] (service' : Analysis) (settings' : Settings) (ss' : List (Step κ))
      (k' m' : Nat) (id' : κ) (file' : String) (answer' : Answer),
      Settles (.ofService service' settings') ss' k' m' id' file' v s reply answer' →
        ∀ out, answer = .ok out ↔ answer' = .ok out := by
  intro sequentially
  obtain ⟨history, b, outcome, hsteps, hout, hanswer, hreply⟩ := h.build
  obtain ⟨-, hfailed, hlarge, honly⟩ := hsteps.outcome_sequential hreply hout
  refine ⟨h.ok_iff, fun err herr => ?_, fun hn => ?_, fun hone => ?_,
    fun _ _ _ _ _ _ _ _ h' out => (h.ok_iff out).trans (h'.ok_iff out).symm⟩
  · rw [hanswer] at herr
    cases outcome with
    | ok out => exact absurd herr (by simp [Except.map])
    | error err' =>
      obtain rfl := Except.error.inj herr
      exact hfailed err' rfl
  · rw [hanswer, hlarge hn]
  · rw [hanswer, honly hone]

/-- The second token is answered first and fails, while the first one waits. -/
theorem answer_refines_sequential_twoLiterals :
    let o : Outline Nat := ofService closedService .standard
    let ss := [.request 0 (some "g") none, .service (.release "b")]
    let reply := closedService.reply "g"
    let err : ResolveError := ⟨1, "b", .unavailable "down"⟩
    Settles o ss 0 1 0 "g" twoLiterals .standard reply (.error err) ∧
      ∃ i, FailsAt reply twoLiterals.tokens i err := by
  intro o ss reply err
  have h : Settles o ss 0 1 0 "g" twoLiterals .standard reply (.error err) := by
    refine ⟨⟨rfl, rfl⟩, rfl, fun j _ hj t _ => ?_, _, rfl, List.mem_singleton_self _⟩
    rcases Nat.le_one_iff_eq_zero_or_eq_one.mp hj with rfl | rfl <;> rfl
  exact ⟨h, (answer_refines_sequential h).2.1 err rfl⟩

end TokenOutline.Outline
