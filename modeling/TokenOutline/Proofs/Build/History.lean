import TokenOutline.Proofs.Build.Outcome

/-!
# The history of a build

A history is the list of what happened to the lookups of a build. One event changes a build by
**`Build.Step`**: as long as no failure ends the build, its next lookup starts, or one that waits is
answered. What such a step keeps, all of them keep, one after the other: `Build.Steps`.

Headlines:
* **`Build.Steps.records`**: a build holds its history. The lookups start in the order of their
  tokens, each is answered at most once, and its slot holds the reply that it was answered.
* **`Build.Step.failure`**: the event that ends a build by a failure is the answer that the failure
  was waiting for.
* **`Build.Steps.outcome_error`**, **`Build.Steps.outcome_held`**: which failure ends a build, and
  which one does not.
-/

namespace TokenOutline.Build

/-! ## Histories -/

/-- Whether an event is the start of a lookup. -/
def LookupEvent.isStart : LookupEvent → Bool
  | .started .. => true
  | .answered .. => false

/-- The reply to lookup `i`, if the event is its answer. -/
def LookupEvent.replyTo? (i : Nat) : LookupEvent → Option Reply
  | .started .. => none
  | .answered j _ r => if j = i then some r else none

/-- Whether the reply of an event is the one that the service gives for a file. -/
def LookupEvent.Genuine (a : Analysis) (file : String) : LookupEvent → Prop
  | .started .. => True
  | .answered _ key r => r = a.reply file key

/-- The lookups that were started, in the order of their starts. -/
def startsIn (h : List LookupEvent) : List LookupEvent := h.filter (·.isStart)

/-- The replies that lookup `i` was answered, in the order of the answers. -/
def repliesTo (i : Nat) (h : List LookupEvent) : List Reply := h.filterMap (·.replyTo? i)

/-- The lookup of each of the tokens starts, in their order. -/
def startsOf (tokens : List Token) : List LookupEvent :=
  tokens.mapIdx fun i t => .started i t.key

theorem startsIn_append (h h' : List LookupEvent) :
    startsIn (h ++ h') = startsIn h ++ startsIn h' := List.filter_append ..

theorem repliesTo_append (i : Nat) (h h' : List LookupEvent) :
    repliesTo i (h ++ h') = repliesTo i h ++ repliesTo i h' := List.filterMap_append ..

@[simp] theorem startsIn_concat_started (h : List LookupEvent) (i : Nat) (key : String) :
    startsIn (h ++ [.started i key]) = startsIn h ++ [.started i key] := startsIn_append ..

@[simp] theorem startsIn_concat_answered (h : List LookupEvent) (i : Nat) (key : String)
    (r : Reply) : startsIn (h ++ [.answered i key r]) = startsIn h :=
  (startsIn_append ..).trans (List.append_nil _)

@[simp] theorem repliesTo_concat_started (i : Nat) (h : List LookupEvent) (j : Nat)
    (key : String) : repliesTo i (h ++ [.started j key]) = repliesTo i h :=
  (repliesTo_append ..).trans (List.append_nil _)

@[simp] theorem repliesTo_concat_answered (i : Nat) (h : List LookupEvent) (j : Nat)
    (key : String) (r : Reply) :
    repliesTo i (h ++ [.answered j key r]) = repliesTo i h ++ if j = i then [r] else [] := by
  rw [repliesTo_append]
  by_cases hj : j = i <;> simp [repliesTo, LookupEvent.replyTo?, hj]

theorem mem_repliesTo {i : Nat} {r : Reply} {h : List LookupEvent} :
    r ∈ repliesTo i h ↔ ∃ key, .answered i key r ∈ h := by
  unfold repliesTo
  rw [List.mem_filterMap]
  constructor
  · rintro ⟨e, he, hr⟩
    cases e with
    | started => exact absurd hr (by simp [LookupEvent.replyTo?])
    | answered j key r' =>
      simp only [LookupEvent.replyTo?, Option.ite_none_right_eq_some, Option.some.injEq] at hr
      obtain ⟨rfl, rfl⟩ := hr
      exact ⟨key, he⟩
  · rintro ⟨key, he⟩
    exact ⟨_, he, by simp [LookupEvent.replyTo?]⟩

/-! ## Steps -/

/-- What one event does to a build that no failure has ended. -/
inductive Step : Build → LookupEvent → Build → Prop
  | started (b : Build) (t : Token) (going : b.failure? = none)
      (next : b.tokens[b.slots.length]? = some t) :
      Step b (.started b.slots.length t.key) { b with slots := b.slots ++ [none] }
  | answered (b : Build) (i : Nat) (t : Token) (r : Reply) (going : b.failure? = none)
      (waits : b.slots[i]? = some none) (token : b.tokens[i]? = some t) :
      Step b (.answered i t.key r) { b with slots := b.slots.set i (some r) }

/-- What the events of a history do to a build, one after the other. -/
inductive Steps : Build → List LookupEvent → Build → Prop
  | refl (b : Build) : Steps b [] b
  | head {b c d : Build} {e : LookupEvent} {h : List LookupEvent} :
      Step b e c → Steps c h d → Steps b (e :: h) d

variable {b c d : Build} {e : LookupEvent} {h h' : List LookupEvent}

theorem Step.going (hs : Step b e c) : b.failure? = none := by
  cases hs <;> assumption

theorem Step.tokens_eq (hs : Step b e c) : c.tokens = b.tokens := by cases hs <;> rfl

theorem Step.settings_eq (hs : Step b e c) : c.settings = b.settings := by cases hs <;> rfl

theorem Step.file_eq (hs : Step b e c) : c.file = b.file := by cases hs <;> rfl

namespace Steps

theorem tokens_eq (hs : Steps b h c) : c.tokens = b.tokens := by
  induction hs with
  | refl => rfl
  | head hstep _ ih => exact ih.trans hstep.tokens_eq

theorem settings_eq (hs : Steps b h c) : c.settings = b.settings := by
  induction hs with
  | refl => rfl
  | head hstep _ ih => exact ih.trans hstep.settings_eq

theorem file_eq (hs : Steps b h c) : c.file = b.file := by
  induction hs with
  | refl => rfl
  | head hstep _ ih => exact ih.trans hstep.file_eq

theorem trans (hs : Steps b h c) (hs' : Steps c h' d) : Steps b (h ++ h') d := by
  induction hs with
  | refl => exact hs'
  | head hstep _ ih => exact .head hstep (ih hs')

/-- The build at the end of a part of a history. -/
theorem of_append (hs : Steps b (h ++ h') d) : ∃ c, Steps b h c ∧ Steps c h' d := by
  induction h generalizing b with
  | nil => exact ⟨b, .refl b, hs⟩
  | cons e h ih =>
    cases hs with
    | head hstep hrest =>
      obtain ⟨c, hbc, hcd⟩ := ih hrest
      exact ⟨c, .head hstep hbc, hcd⟩

/-- The last step of a history. -/
theorem of_concat (hs : Steps b (h ++ [e]) d) : ∃ c, Steps b h c ∧ Step c e d := by
  obtain ⟨c, hbc, hcd⟩ := of_append hs
  cases hcd with
  | head hstep hrest =>
    cases hrest
    exact ⟨c, hbc, hstep⟩

end Steps

/-! ## What a build records -/

/-- A build holds its history: how many lookups have started, and the reply to each. -/
structure Records (b : Build) (h : List LookupEvent) : Prop where
  length_le : b.slots.length ≤ b.tokens.length
  starts : startsIn h = startsOf (b.tokens.take b.slots.length)
  /-- A lookup that waits, or has not started, has no reply, and another one has the one that its
  slot holds. -/
  replies : ∀ i, repliesTo i h = b.slots[i]?.join.toList
  keys : ∀ i key r, .answered i key r ∈ h → ∃ t, b.tokens[i]? = some t ∧ key = t.key

/-- A build that has not started a lookup has no history. -/
theorem records_ofTokens (file : String) (s : Settings) (tokens : List Token) :
    Records (ofTokens file s tokens) [] where
  length_le := Nat.zero_le _
  starts := rfl
  replies _ := rfl
  keys _ _ _ hmem := absurd hmem List.not_mem_nil

/-- One more lookup that waits has no reply. -/
theorem join_getElem?_concat_none (slots : List (Option Reply)) (i : Nat) :
    (slots ++ [none])[i]?.join = slots[i]?.join := by
  rcases Nat.lt_trichotomy i slots.length with hi | rfl | hi
  · rw [List.getElem?_append_left hi]
  · simp
  · rw [List.getElem?_eq_none hi.le, List.getElem?_eq_none]
    rw [List.length_append, List.length_singleton]
    exact hi

/-- **A step is recorded.** -/
theorem Step.records (hs : Step b e c) (hb : Records b h) : Records c (h ++ [e]) := by
  cases hs with
  | started t _ next =>
    obtain ⟨hlt, -⟩ := List.getElem?_eq_some_iff.mp next
    refine ⟨?_, ?_, fun i => ?_, fun i key r hmem => ?_⟩
    · simp only [List.length_append, List.length_singleton]
      exact hlt
    · have htake : b.tokens.take (b.slots.length + 1) = b.tokens.take b.slots.length ++ [t] := by
        rw [List.take_add_one, next, Option.toList_some]
      simp only [List.length_append, List.length_singleton, htake]
      rw [startsIn_concat_started, hb.starts]
      simp [startsOf, List.mapIdx_append, Nat.min_eq_left hlt.le]
    · rw [repliesTo_concat_started, hb.replies i, join_getElem?_concat_none]
    · exact hb.keys i key r (by simpa using hmem)
  | answered i t r _ waits token =>
    refine ⟨?_, ?_, fun j => ?_, fun j key r' hmem => ?_⟩
    · simpa using hb.length_le
    · rw [startsIn_concat_answered, hb.starts]
      simp
    · rw [repliesTo_concat_answered, hb.replies j]
      by_cases hj : i = j
      · subst hj
        obtain ⟨hlt, -⟩ := List.getElem?_eq_some_iff.mp waits
        simp [waits, List.getElem?_set_self hlt]
      · simp [hj, List.getElem?_set_ne hj]
    · rcases List.mem_append.mp hmem with hmem | hmem
      · exact hb.keys j key r' hmem
      · simp only [List.mem_singleton, LookupEvent.answered.injEq] at hmem
        obtain ⟨rfl, rfl, rfl⟩ := hmem
        exact ⟨t, token, rfl⟩

theorem Steps.records_append (hs : Steps b h' c) (hb : Records b h) : Records c (h ++ h') := by
  induction hs generalizing h with
  | refl => simpa using hb
  | head hstep _ ih =>
    have := ih (hstep.records hb)
    rwa [List.append_assoc, List.singleton_append] at this

/-- **A build holds its history.** -/
theorem Steps.records {file : String} {s : Settings} {tokens : List Token}
    (hs : Steps (ofTokens file s tokens) h b) : Records b h := by
  simpa using hs.records_append (records_ofTokens file s tokens)

/-! ## What a history comes to -/

/-- A history of a build of `n` tokens holds the failure that ends the build: any failure of a small
build, and of a large one a failure before which all lookups succeeded. -/
def Fails (n : Nat) (h : List LookupEvent) : Prop :=
  ∃ i e, .error e ∈ repliesTo i h ∧ (smallBuild < n → ∀ j < i, ∃ x, .ok x ∈ repliesTo j h)

theorem Records.mem_replies_iff (hb : Records b h) {i : Nat} {r : Reply} :
    r ∈ repliesTo i h ↔ b.slots[i]? = some (some r) := by
  rw [hb.replies i, Option.mem_toList, Option.join_eq_some_iff]

theorem Records.replies_eq_iff (hb : Records b h) {i : Nat} {r : Reply} :
    repliesTo i h = [r] ↔ b.slots[i]? = some (some r) := by
  rw [hb.replies i, Option.toList_eq_singleton_iff, Option.join_eq_some_iff]

/-- A lookup waits iff it has started and has no reply. -/
theorem Records.waits_iff (hb : Records b h) {i : Nat} :
    b.slots[i]? = some none ↔ i < b.slots.length ∧ repliesTo i h = [] := by
  rw [hb.replies i]
  rcases Nat.lt_or_ge i b.slots.length with hi | hi
  · rw [List.getElem?_eq_getElem hi]
    cases b.slots[i] <;> simp [hi]
  · simp [Nat.not_lt.mpr hi]

/-- **The failure that ends a build is in its history.** -/
theorem Records.failure?_eq_none_iff (hb : Records b h) :
    b.failure? = none ↔ ¬ Fails b.tokens.length h := by
  constructor
  · rintro hnone ⟨i, e, hi, hbefore⟩
    obtain ⟨hlarge, j, hji, hj⟩ :=
      Build.failure?_eq_none_iff.mp hnone i e (hb.mem_replies_iff.mp hi)
    obtain ⟨x, hx⟩ := hbefore hlarge j hji
    rw [hb.mem_replies_iff, hj] at hx
    exact absurd hx (by simp)
  · intro hno
    cases hf : b.failure? with
    | none => rfl
    | some p =>
      obtain ⟨hi, -, hlarge⟩ := failure?_spec (i := p.1) (e := p.2) hf
      refine absurd ⟨p.1, p.2, hb.mem_replies_iff.mpr hi, fun hn j hj => ?_⟩ hno
      obtain ⟨x, hx⟩ := hlarge hn j hj
      exact ⟨x, hb.mem_replies_iff.mpr hx⟩

/-- A build that succeeds has the items of the symbols that its lookups were answered. -/
theorem Records.outcome_ok {out : List Item} (hb : Records b h) (ho : b.outcome? = some (.ok out)) :
    ∃ xs : List (Option Grammar.Symbol), xs.length = b.tokens.length ∧
      out = items b.settings b.tokens xs ∧ ∀ (i : Nat) x, xs[i]? = some x →
        repliesTo i h = [.ok x] := by
  obtain ⟨xs, hlen, hslots, rfl⟩ := outcome?_eq_ok_iff.mp ho
  have hlength : b.slots.length = xs.length := by rw [hslots, List.length_map]
  refine ⟨xs, ?_, rfl, fun i x hx => ?_⟩
  · have := hb.length_le
    omega
  · rw [hb.replies_eq_iff, hslots, List.getElem?_map, hx]
    rfl

/-- A build that a failure ends names the token of the lookup that failed. -/
theorem Records.outcome_error {err : ResolveError} (hb : Records b h)
    (ho : b.outcome? = some (.error err)) :
    ∃ i t e, b.failure? = some (i, e) ∧ b.tokens[i]? = some t ∧ err = ⟨t.index, t.key, e⟩ := by
  obtain ⟨i, e, hf, rfl⟩ := outcome?_eq_error_iff.mp ho
  obtain ⟨hlt, -⟩ := List.getElem?_eq_some_iff.mp (failure?_spec hf).1
  have ht := List.getElem?_eq_getElem (hlt.trans_le hb.length_le)
  exact ⟨i, _, e, hf, ht, by rw [ht]; rfl⟩

/-! ## The last step -/

/-- The start of a lookup ends no build. -/
theorem failure?_started (hgo : b.failure? = none) :
    ({ b with slots := b.slots ++ [none] } : Build).failure? = none := by
  rw [failure?_eq_none_iff] at hgo ⊢
  intro i e hi
  have hlt : i < b.slots.length := by
    rcases Nat.lt_or_ge i b.slots.length with hlt | hge
    · exact hlt
    · simp only [List.getElem?_append_right hge] at hi
      exact absurd hi (by cases i - b.slots.length <;> simp)
  simp only [List.getElem?_append_left hlt] at hi
  obtain ⟨hlarge, j, hji, hj⟩ := hgo i e hi
  refine ⟨hlarge, j, hji, ?_⟩
  simp only [List.getElem?_append_left (hji.trans hlt)]
  exact hj

/-- **The event that ends a build by a failure** is the answer to a lookup that waited: to the one
that failed, or, in a large build, to one before it. -/
theorem Step.failure {i : Nat} {err : LookupError} (hs : Step b e c)
    (hf : c.failure? = some (i, err)) :
    ∃ j key r, e = .answered j key r ∧ j ≤ i ∧ b.slots[j]? = some none ∧
      (j = i → r = .error err) ∧ (c.tokens.length ≤ smallBuild → j = i) := by
  cases hs with
  | started t going next =>
    rw [failure?_started going] at hf
    exact absurd hf (by simp)
  | answered j t r going waits token =>
    obtain ⟨hi, hsmall, hlarge⟩ := failure?_spec hf
    obtain ⟨hlt, -⟩ := List.getElem?_eq_some_iff.mp waits
    by_cases hji : j = i
    · subst hji
      simp only [List.getElem?_set_self hlt, Option.some.injEq] at hi
      exact ⟨j, t.key, r, rfl, Nat.le_refl j, waits, fun _ => hi, fun _ => rfl⟩
    · -- the failure was there before, behind a lookup that waited
      simp only [List.getElem?_set_ne hji] at hi
      obtain ⟨hn, k, hki, hk⟩ := failure?_eq_none_iff.mp going i err hi
      have hjk : j = k := by
        by_contra hne
        obtain ⟨x, hx⟩ := hlarge hn k hki
        simp only [List.getElem?_set_ne hne, hk] at hx
        exact absurd hx (by simp)
      subst hjk
      exact ⟨j, t.key, r, rfl, hki.le, waits, fun h => absurd h hji,
        fun hle => absurd hn (Nat.not_lt.mpr hle)⟩

theorem failure?_ofTokens (file : String) (s : Settings) (tokens : List Token) :
    (ofTokens file s tokens).failure? = none := by
  rw [failure?_eq_none_iff]
  intro i e hi
  exact absurd hi (by simp [ofTokens])

/-- **A build that a failure ends.** Its last event is the answer to the lookup that failed, or, in
a large build, to one before it; a small build has no other failure, and in a large one all lookups
before the one that failed have succeeded. -/
theorem Steps.outcome_error {file : String} {s : Settings} {tokens : List Token}
    {err : ResolveError} (hs : Steps (ofTokens file s tokens) h b)
    (ho : b.outcome? = some (.error err)) :
    ∃ i t e, tokens[i]? = some t ∧ err = ⟨t.index, t.key, e⟩ ∧ repliesTo i h = [.error e] ∧
      (smallBuild < tokens.length → ∀ j < i, ∃ x, repliesTo j h = [.ok x]) ∧
      ∃ pre j key r, h = pre ++ [.answered j key r] ∧ j ≤ i ∧ repliesTo j pre = [] ∧
        (tokens.length ≤ smallBuild → j = i ∧ r = .error e ∧
          ∀ m e', .error e' ∉ repliesTo m pre) := by
  have htokens : b.tokens = tokens := hs.tokens_eq
  obtain ⟨i, t, e, hf, ht, rfl⟩ := hs.records.outcome_error ho
  obtain ⟨hi, -, hlarge⟩ := failure?_spec hf
  rw [htokens] at ht hlarge
  refine ⟨i, t, e, ht, rfl, hs.records.replies_eq_iff.mpr hi, fun hn j hj => ?_, ?_⟩
  · obtain ⟨x, hx⟩ := hlarge hn j hj
    exact ⟨x, hs.records.replies_eq_iff.mpr hx⟩
  rcases List.eq_nil_or_concat h with rfl | ⟨pre, last, rfl⟩
  · cases hs
    rw [failure?_ofTokens] at hf
    exact absurd hf (by simp)
  · rw [List.concat_eq_append] at hs ⊢
    obtain ⟨c, hpre, hlast⟩ := hs.of_concat
    obtain ⟨j, key, r, rfl, hji, hwait, hr, hsmall⟩ := hlast.failure hf
    rw [htokens] at hsmall
    refine ⟨pre, j, key, r, rfl, hji, ?_, fun hn => ⟨hsmall hn, hr (hsmall hn), fun m e' hm => ?_⟩⟩
    · exact (hpre.records.waits_iff.mp hwait).2
    · have hc : c.tokens = tokens := hpre.tokens_eq
      have hgo := hpre.records.failure?_eq_none_iff.mp hlast.going
      rw [hc] at hgo
      exact hgo ⟨m, e', hm, fun hlt => absurd hn (Nat.not_le.mpr hlt)⟩

/-- **A failure that is held back ends nothing**: in a large build, one behind a lookup that still
waits. -/
theorem Steps.outcome_held {file : String} {s : Settings} {tokens : List Token} {i j : Nat}
    {key : String} {e : LookupError} (hn : smallBuild < tokens.length)
    (hs : Steps (ofTokens file s tokens) (h ++ [.answered i key (.error e)]) b) (hj : j < i)
    (hwait : repliesTo j h = []) : b.outcome? = none := by
  have htokens : b.tokens = tokens := hs.tokens_eq
  have hmem : .error e ∈ repliesTo i (h ++ [.answered i key (.error e)]) :=
    mem_repliesTo.mpr ⟨key, by simp⟩
  -- the lookup `j` has no success yet, so neither a success nor a failure is due
  have hno : ∀ x, repliesTo j (h ++ [.answered i key (.error e)]) ≠ [.ok x] := by
    intro x
    rw [repliesTo_concat_answered, hwait, if_neg hj.ne']
    simp
  cases hout : b.outcome? with
  | none => rfl
  | some outcome =>
    cases outcome with
    | ok out =>
      obtain ⟨xs, hlen, -, hreplies⟩ := hs.records.outcome_ok hout
      obtain ⟨t, ht, -⟩ := hs.records.keys i key (.error e) (by simp)
      have hlt : j < xs.length := by
        rw [hlen]
        exact hj.trans (List.getElem?_eq_some_iff.mp ht).1
      exact absurd (hreplies j _ (List.getElem?_eq_getElem hlt)) (hno _)
    | error err =>
      obtain ⟨i', t, e', -, -, -, hbefore, pre, j', key', r', hlast, hle, -, -⟩ :=
        hs.outcome_error hout
      obtain ⟨-, heq⟩ := List.append_inj' hlast rfl
      obtain ⟨rfl, -, -⟩ := LookupEvent.answered.inj (List.cons.inj heq).1
      obtain ⟨x, hx⟩ := hbefore hn j (hj.trans_le hle)
      exact absurd hx (hno x)

/-- Nothing follows the failure that ends a build. -/
theorem Steps.eq_nil_of_fails {file : String} {s : Settings} {tokens : List Token}
    (hs : Steps (ofTokens file s tokens) (h ++ h') b) (hf : Fails tokens.length h) : h' = [] := by
  obtain ⟨c, hpre, hpost⟩ := hs.of_append
  cases hpost with
  | refl => rfl
  | head hstep _ =>
    have hgo := hpre.records.failure?_eq_none_iff.mp hstep.going
    rw [hpre.tokens_eq] at hgo
    exact absurd hf hgo

end TokenOutline.Build
