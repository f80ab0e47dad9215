import TokenOutline.Build.Sequential
import TokenOutline.Proofs.Build.History

/-!
# A build and the sequential way

`sequential` asks for one token after the other and stops at the first failure. A build has all its
lookups under way at once, so the order of the answers is anyone's. When each lookup is answered
what `sequential` is told for its key, the order hardly matters.

Headlines:
* `sequential_eq_ok_iff`, `sequential_eq_error_iff`: the sequential way succeeds iff no token fails,
  and else fails with the first token that does.
* **`Build.Steps.outcome_sequential`**: the outcome of a build against that of the sequential way.
-/

namespace TokenOutline

variable {reply : String → Reply} {s : Settings} {tokens : List Token}

/-- The lookup of token `i` is replied a failure, which is that of a build. -/
def FailsAt (reply : String → Reply) (tokens : List Token) (i : Nat) (err : ResolveError) : Prop :=
  ∃ t e, tokens[i]? = some t ∧ reply t.key = .error e ∧ err = ⟨t.index, t.key, e⟩

theorem failsAt_zero {t : Token} {err : ResolveError} :
    FailsAt reply (t :: tokens) 0 err ↔
      ∃ e, reply t.key = .error e ∧ err = ⟨t.index, t.key, e⟩ := by
  unfold FailsAt
  simp

theorem failsAt_succ {t : Token} {i : Nat} {err : ResolveError} :
    FailsAt reply (t :: tokens) (i + 1) err ↔ FailsAt reply tokens i err := by
  unfold FailsAt
  simp

/-! ## The sequential way -/

/-- The items of the tokens, one after the other. -/
def resolveAll (reply : String → Reply) (s : Settings) (tokens : List Token) :
    Except ResolveError (List Item) :=
  tokens.mapM fun t => resolve s t (reply t.key)

theorem sequential_eq_map :
    sequential reply s tokens = (resolveAll reply s tokens).map (Item.eof s :: ·) := rfl

theorem resolveAll_cons_error {t : Token} {e : LookupError} (h : reply t.key = .error e) :
    resolveAll reply s (t :: tokens) = .error ⟨t.index, t.key, e⟩ := by
  unfold resolveAll
  rw [List.mapM_cons, h]
  rfl

theorem resolveAll_cons_ok {t : Token} {x : Option Grammar.Symbol} (h : reply t.key = .ok x) :
    resolveAll reply s (t :: tokens) =
      (resolveAll reply s tokens).map (Item.ofToken s t x :: ·) := by
  unfold resolveAll
  rw [List.mapM_cons, h]
  rfl

theorem resolveAll_eq_ok_iff {out : List Item} :
    resolveAll reply s tokens = .ok out ↔
      ∃ xs : List (Option Grammar.Symbol), (tokens.map fun t => reply t.key) = xs.map .ok ∧
        out = List.zipWith (Item.ofToken s) tokens xs := by
  constructor
  · intro h
    induction tokens generalizing out with
    | nil => exact ⟨[], rfl, (Except.ok.inj h).symm⟩
    | cons t tokens ih =>
      cases hr : reply t.key with
      | error e =>
        rw [resolveAll_cons_error hr] at h
        exact absurd h (by simp)
      | ok x =>
        rw [resolveAll_cons_ok hr] at h
        cases hrest : resolveAll reply s tokens with
        | error err =>
          rw [hrest] at h
          exact absurd h (by simp [Except.map])
        | ok items =>
          rw [hrest] at h
          obtain ⟨xs, hxs, rfl⟩ := ih hrest
          refine ⟨x :: xs, ?_, (Except.ok.inj h).symm⟩
          rw [List.map_cons, List.map_cons, hr, hxs]
  · rintro ⟨xs, hxs, rfl⟩
    induction tokens generalizing xs with
    | nil => rfl
    | cons t tokens ih =>
      cases xs with
      | nil => exact absurd hxs (by simp)
      | cons x xs =>
        obtain ⟨hr, hxs⟩ := List.cons.inj hxs
        rw [resolveAll_cons_ok hr, ih xs hxs]
        rfl

theorem resolveAll_eq_error_iff {err : ResolveError} :
    resolveAll reply s tokens = .error err ↔
      ∃ i, FailsAt reply tokens i err ∧ ∀ j < i, ∀ err', ¬ FailsAt reply tokens j err' := by
  induction tokens with
  | nil => simp [resolveAll, FailsAt, pure, Except.pure]
  | cons t tokens ih =>
    rw [← Nat.or_exists_add_one]
    simp only [failsAt_zero, failsAt_succ, Nat.not_lt_zero, Nat.forall_lt_succ_left]
    cases hr : reply t.key with
    | error e =>
      rw [resolveAll_cons_error hr]
      simp [eq_comm]
    | ok x =>
      rw [resolveAll_cons_ok hr]
      have hmap : (resolveAll reply s tokens).map (Item.ofToken s t x :: ·) = .error err ↔
          resolveAll reply s tokens = .error err := by
        cases resolveAll reply s tokens <;> simp [Except.map]
      rw [hmap, ih]
      simp

/-- **When the sequential way succeeds**: no lookup fails. -/
theorem sequential_eq_ok_iff {out : List Item} :
    sequential reply s tokens = .ok out ↔
      ∃ xs : List (Option Grammar.Symbol), (tokens.map fun t => reply t.key) = xs.map .ok ∧
        out = Build.items s tokens xs := by
  rw [sequential_eq_map]
  constructor
  · intro h
    cases hall : resolveAll reply s tokens with
    | error err =>
      rw [hall] at h
      exact absurd h (by simp [Except.map])
    | ok items =>
      rw [hall] at h
      obtain ⟨xs, hxs, rfl⟩ := resolveAll_eq_ok_iff.mp hall
      exact ⟨xs, hxs, (Except.ok.inj h).symm⟩
  · rintro ⟨xs, hxs, rfl⟩
    rw [resolveAll_eq_ok_iff.mpr ⟨xs, hxs, rfl⟩]
    rfl

/-- **When the sequential way fails**: it fails with the first lookup that does. -/
theorem sequential_eq_error_iff {err : ResolveError} :
    sequential reply s tokens = .error err ↔
      ∃ i, FailsAt reply tokens i err ∧ ∀ j < i, ∀ err', ¬ FailsAt reply tokens j err' := by
  rw [sequential_eq_map, ← resolveAll_eq_error_iff (s := s)]
  cases resolveAll reply s tokens <;> simp [Except.map]

/-- The sequential way does not succeed where a lookup fails. -/
theorem sequential_ne_ok {i : Nat} {err : ResolveError} (hf : FailsAt reply tokens i err)
    (out : List Item) : sequential reply s tokens ≠ .ok out := by
  intro hseq
  obtain ⟨xs, hxs, -⟩ := sequential_eq_ok_iff.mp hseq
  obtain ⟨t, e, ht, he, -⟩ := hf
  have hget := congrArg (·[i]?) hxs
  simp only [List.getElem?_map, ht, Option.map_some, he] at hget
  obtain ⟨x, -, hx⟩ := Option.map_eq_some_iff.mp hget.symm
  exact absurd hx (by simp)

/-! ## Builds -/

namespace Build

variable {file : String} {h : List LookupEvent} {b : Build} {outcome : Outcome}

/-- A lookup is answered what the sequential way is told, if all answers of the history are. -/
theorem Steps.reply_eq (hs : Steps (ofTokens file s tokens) h b)
    (hreply : ∀ i key r, .answered i key r ∈ h → r = reply key) {i : Nat} {t : Token} {r : Reply}
    (hi : repliesTo i h = [r]) (ht : tokens[i]? = some t) : reply t.key = r := by
  obtain ⟨key, hmem⟩ := mem_repliesTo.mp (hi ▸ List.mem_singleton_self r)
  obtain ⟨t', ht', rfl⟩ := hs.records.keys i key r hmem
  rw [show b.tokens = tokens from hs.tokens_eq, ht] at ht'
  rw [Option.some.inj ht']
  exact (hreply i _ r hmem).symm

/-- If a build succeeds, so does the sequential way, with the same items. -/
theorem Steps.sequential_of_ok (hs : Steps (ofTokens file s tokens) h b)
    (hreply : ∀ i key r, .answered i key r ∈ h → r = reply key) {out : List Item}
    (ho : b.outcome? = some (.ok out)) : sequential reply s tokens = .ok out := by
  have htokens : b.tokens = tokens := hs.tokens_eq
  have hsettings : b.settings = s := hs.settings_eq
  obtain ⟨xs, hlen, rfl, hreplies⟩ := hs.records.outcome_ok ho
  rw [htokens] at hlen
  rw [htokens, hsettings]
  refine sequential_eq_ok_iff.mpr ⟨xs, List.ext_getElem (by simp [hlen]) fun i hi hi' => ?_, rfl⟩
  rw [List.length_map] at hi hi'
  rw [List.getElem_map, List.getElem_map]
  exact hs.reply_eq hreply (hreplies i _ (List.getElem?_eq_getElem hi'))
    (List.getElem?_eq_getElem hi)

/-- **The outcome of a build against that of the sequential way**, when its lookups are answered
what the sequential way is told. The build succeeds iff that does, and with the same items; it fails
with a token that fails, and with the same one as the sequential way if it is large, or if only one
token fails. -/
theorem Steps.outcome_sequential (hs : Steps (ofTokens file s tokens) h b)
    (hreply : ∀ i key r, .answered i key r ∈ h → r = reply key) (ho : b.outcome? = some outcome) :
    (∀ out, outcome = .ok out ↔ sequential reply s tokens = .ok out) ∧
      (∀ err, outcome = .error err → ∃ i, FailsAt reply tokens i err) ∧
      (smallBuild < tokens.length → outcome = sequential reply s tokens) ∧
      ((∀ i j err err', FailsAt reply tokens i err → FailsAt reply tokens j err' → i = j) →
        outcome = sequential reply s tokens) := by
  cases outcome with
  | ok out =>
    rw [hs.sequential_of_ok hreply ho]
    exact ⟨fun out => Iff.rfl, fun err herr => absurd herr (by simp), fun _ => rfl, fun _ => rfl⟩
  | error err =>
    obtain ⟨i, t, e, ht, rfl, hi, hbefore, -⟩ := hs.outcome_error ho
    have hfails : FailsAt reply tokens i ⟨t.index, t.key, e⟩ :=
      ⟨t, e, ht, hs.reply_eq hreply hi ht, rfl⟩
    refine ⟨fun out => ⟨fun heq => absurd heq (by simp), fun hseq => ?_⟩, fun err herr => ?_,
      fun hn => ?_, fun honly => ?_⟩
    · exact absurd hseq (sequential_ne_ok hfails out)
    · rw [← Except.error.inj herr]
      exact ⟨i, hfails⟩
    · refine (sequential_eq_error_iff.mpr ⟨i, hfails, fun j hj err' => ?_⟩).symm
      rintro ⟨u, e', hu, hfail, -⟩
      obtain ⟨x, hx⟩ := hbefore hn j hj
      rw [hs.reply_eq hreply hx hu] at hfail
      exact absurd hfail (by simp)
    · refine (sequential_eq_error_iff.mpr ⟨i, hfails, fun j hj err' hfail => ?_⟩).symm
      exact absurd (honly j i _ _ hfail hfails) hj.ne

end Build

end TokenOutline
