import TokenOutline.Proofs.Build.History

/-!
# Starting builds and opening gates

`Build.start` and `Build.release` are recursions that stop when the build ends. Both are steps of
the build, one after the other, so what steps keep holds of every build that a run makes.

Headlines:
* **`Build.start_spec`**: starting a build takes steps, and starts all lookups or those up to the
  one that fails.
* **`Build.release_spec`**: opening a gate takes steps, none of which starts a lookup.
* **`Build.release_answers`**: it answers a lookup if one waits for it.
* `Build.launch_congr`, `Build.answer_congr`: of the service, starting a build reads the gates of its
  tokens, and both read the replies to the lookups that they answer.
-/

namespace TokenOutline.Build

variable {b : Build}

/-! ## Starting a build -/

theorem next_of_drop {tokens rest : List Token} {n : Nat} {t : Token}
    (h : tokens.drop n = t :: rest) : tokens[n]? = some t ∧ tokens.drop (n + 1) = rest := by
  constructor
  · rw [← Nat.add_zero n, ← List.getElem?_drop, h]
    rfl
  · rw [← List.tail_drop, h]
    rfl

/-- A lookup whose gate is open is answered when it has started. -/
theorem step_answered_last (r : Reply) {t : Token} (hgo : b.failure? = none)
    (ht : b.tokens[b.slots.length]? = some t) :
    Step { b with slots := b.slots ++ [none] } (.answered b.slots.length t.key r)
      { b with slots := b.slots ++ [some r] } := by
  have h := Step.answered { b with slots := b.slots ++ [none] } b.slots.length t r
    (failure?_started hgo) (by simp) ht
  simpa only [List.set_append_right _ _ (Nat.le_refl _), Nat.sub_self, List.set_cons_zero] using h

/-- Starting the lookups that are left takes steps. -/
theorem launch_steps (a : Analysis) : ∀ (rest : List Token) (b : Build), b.failure? = none →
    b.tokens.drop b.slots.length = rest → Steps b (b.launch a rest).2 (b.launch a rest).1
  | [], b, _, _ => .refl b
  | t :: rest, b, hgo, hrest => by
    obtain ⟨ht, hdrop⟩ := next_of_drop hrest
    have hstarted := Step.started b t hgo ht
    simp only [launch]
    split
    · have hanswered := step_answered_last (a.reply b.file t.key) hgo ht
      split
      · exact .head hstarted (.head hanswered (.refl _))
      · rename_i hgoes
        refine .head hstarted (.head hanswered ?_)
        exact launch_steps a rest _ (by simpa using hgoes) (by simpa using hdrop)
    · exact .head hstarted
        (launch_steps a rest _ (failure?_started hgo) (by simpa using hdrop))

/-- A launch that no failure ends starts all lookups. -/
theorem length_launch (a : Analysis) : ∀ (rest : List Token) (b : Build),
    (b.launch a rest).1.failure? = none →
      (b.launch a rest).1.slots.length = b.slots.length + rest.length
  | [], _, _ => rfl
  | t :: rest, b, hgo => by
    simp only [launch] at hgo ⊢
    split
    · rename_i hopen
      simp only [hopen, if_true] at hgo
      split
      · rename_i hends
        simp only [hends, if_true] at hgo
        rw [hgo] at hends
        exact absurd hends (by simp)
      · rename_i hgoes
        simp only [hgoes] at hgo
        rw [length_launch a rest _ hgo]
        simp only [List.length_append, List.length_cons, List.length_nil]
        omega
    · rename_i hclosed
      simp only [hclosed] at hgo
      rw [length_launch a rest _ hgo]
      simp only [List.length_append, List.length_cons, List.length_nil]
      omega

/-- A launch that a failure ends has just started the lookup that failed. -/
theorem length_launch_of_failure (a : Analysis) {i : Nat} {err : LookupError} :
    ∀ (rest : List Token) (b : Build), b.failure? = none → b.tokens.drop b.slots.length = rest →
      (b.launch a rest).1.failure? = some (i, err) → (b.launch a rest).1.slots.length = i + 1
  | [], b, hgo, _, hf => by
    rw [launch, hgo] at hf
    exact absurd hf (by simp)
  | t :: rest, b, hgo, hrest, hf => by
    obtain ⟨ht, hdrop⟩ := next_of_drop hrest
    simp only [launch] at hf ⊢
    split
    · rename_i hopen
      simp only [hopen, if_true] at hf
      split
      · rename_i hends
        simp only [hends, if_true] at hf
        obtain ⟨j, key, r, hev, hji, -⟩ :=
          (step_answered_last (a.reply b.file t.key) hgo ht).failure hf
        obtain ⟨rfl, -⟩ := LookupEvent.answered.inj hev
        have hlt := (List.getElem?_eq_some_iff.mp (failure?_spec hf).1).1
        simp only [List.length_append, List.length_cons, List.length_nil] at hlt ⊢
        omega
      · rename_i hgoes
        simp only [hgoes] at hf
        exact length_launch_of_failure a rest _ (by simpa using hgoes) (by simpa using hdrop) hf
    · rename_i hclosed
      simp only [hclosed] at hf
      exact length_launch_of_failure a rest _ (failure?_started hgo) (by simpa using hdrop) hf

/-- What the events of a launch say was answered is what the service replies. -/
theorem launch_genuine (a : Analysis) : ∀ (rest : List Token) (b : Build),
    ∀ e ∈ (b.launch a rest).2, e.Genuine a b.file
  | [], _, e, he => absurd he List.not_mem_nil
  | t :: rest, b, e, he => by
    simp only [launch] at he
    split at he
    · split at he
      · simp only [List.mem_cons, List.not_mem_nil, or_false] at he
        rcases he with rfl | rfl
        · trivial
        · rfl
      · simp only [List.mem_cons] at he
        rcases he with rfl | rfl | he
        · trivial
        · rfl
        · have := launch_genuine a rest _ e he
          exact this
    · simp only [List.mem_cons] at he
      rcases he with rfl | he
      · trivial
      · have := launch_genuine a rest _ e he
        exact this

/-- **Starting a build**: it starts all its lookups, or those up to the one whose failure ends
it. -/
theorem start_spec (a : Analysis) (file : String) (s : Settings) (tokens : List Token) :
    let r := (ofTokens file s tokens).start a
    Steps (ofTokens file s tokens) r.2 r.1 ∧
      (r.1.failure? = none → r.1.slots.length = tokens.length) ∧
      ∀ i err, r.1.failure? = some (i, err) → r.1.slots.length = i + 1 := by
  have hgo := failure?_ofTokens file s tokens
  refine ⟨launch_steps a tokens _ hgo rfl, fun h => ?_, fun i err h => ?_⟩
  · have := length_launch a tokens (ofTokens file s tokens) h
    simpa [start, ofTokens] using this
  · exact length_launch_of_failure a tokens _ hgo rfl h

/-- The lookups that starting a build starts: those of all tokens, or, if a failure ends it, those
up to the one that failed. -/
theorem startsIn_start (a : Analysis) (file : String) (s : Settings) (tokens : List Token) :
    let r := (ofTokens file s tokens).start a
    ((∀ err, r.1.outcome? ≠ some (.error err)) → startsIn r.2 = startsOf tokens) ∧
      ∀ err, r.1.outcome? = some (.error err) → ∃ i t, tokens[i]? = some t ∧
        err.index = t.index ∧ startsIn r.2 = startsOf (tokens.take (i + 1)) := by
  intro r
  obtain ⟨hsteps, hfull, hfailed⟩ := start_spec a file s tokens
  have htokens : r.1.tokens = tokens := hsteps.tokens_eq
  have hstarts : startsIn r.2 = startsOf (tokens.take r.1.slots.length) :=
    htokens ▸ hsteps.records.starts
  refine ⟨fun hno => ?_, fun err herr => ?_⟩
  · rw [hstarts, hfull (failure?_eq_none_of_outcome? hno), List.take_length]
  · obtain ⟨i, t, e, hf, ht, rfl⟩ := hsteps.records.outcome_error herr
    exact ⟨i, t, htokens ▸ ht, rfl, by rw [hstarts, hfailed i e hf]⟩

/-! ## Answering lookups -/

/-- Answering lookups that wait takes steps. -/
theorem answer_steps (a : Analysis) : ∀ (todo : List (Nat × String)) (b : Build),
    b.failure? = none → (todo.map Prod.fst).Nodup →
    (∀ p ∈ todo, b.slots[p.1]? = some none ∧ ∃ t, b.tokens[p.1]? = some t ∧ t.key = p.2) →
    Steps b (b.answer a todo).2 (b.answer a todo).1
  | [], b, _, _, _ => .refl b
  | (i, key) :: rest, b, hgo, hnodup, hwait => by
    obtain ⟨hi, t, ht, rfl⟩ := hwait (i, key) List.mem_cons_self
    have hstep := Step.answered b i t (a.reply b.file t.key) hgo hi ht
    rw [List.map_cons, List.nodup_cons] at hnodup
    simp only [answer]
    split
    · exact .head hstep (.refl _)
    · rename_i hgoes
      refine .head hstep (answer_steps a rest _ (by simpa using hgoes) hnodup.2 fun p hp => ?_)
      have hne : i ≠ p.1 := fun h => hnodup.1 (List.mem_map.mpr ⟨p, hp, h.symm⟩)
      obtain ⟨hp1, hp2⟩ := hwait p (List.mem_cons_of_mem _ hp)
      exact ⟨by rw [List.getElem?_set_ne hne]; exact hp1, hp2⟩

theorem answer_genuine (a : Analysis) : ∀ (todo : List (Nat × String)) (b : Build),
    ∀ e ∈ (b.answer a todo).2, e.Genuine a b.file
  | [], _, e, he => absurd he List.not_mem_nil
  | (i, key) :: rest, b, e, he => by
    simp only [answer] at he
    split at he
    · rw [List.mem_singleton] at he
      rw [he]
      rfl
    · rcases List.mem_cons.mp he with rfl | he
      · rfl
      · have := answer_genuine a rest _ e he
        exact this

theorem file_answer (a : Analysis) : ∀ (todo : List (Nat × String)) (b : Build),
    (b.answer a todo).1.file = b.file
  | [], _ => rfl
  | (i, key) :: rest, b => by
    simp only [answer]
    split
    · rfl
    · exact file_answer a rest _

theorem length_answer (a : Analysis) : ∀ (todo : List (Nat × String)) (b : Build),
    (b.answer a todo).1.slots.length = b.slots.length
  | [], _ => rfl
  | (i, key) :: rest, b => by
    simp only [answer]
    split
    · exact List.length_set
    · rw [length_answer a rest]
      exact List.length_set

/-- Answers start no lookup. -/
theorem startsIn_answer (a : Analysis) : ∀ (todo : List (Nat × String)) (b : Build),
    startsIn (b.answer a todo).2 = []
  | [], _ => rfl
  | (i, key) :: rest, b => by
    simp only [answer]
    split
    · rfl
    · exact startsIn_answer a rest _

/-- The empty slots of a key, in the order of their positions. -/
theorem emptySlots_spec (key : String) : ∀ (n : Nat) (slots : List (Option Reply))
    (tokens : List Token), (emptySlots key n slots tokens).Pairwise (· < ·) ∧
      ∀ i ∈ emptySlots key n slots tokens, n ≤ i ∧ slots[i - n]? = some none ∧
        ∃ t, tokens[i - n]? = some t ∧ t.key = key
  | _, [], _ => by simp [emptySlots]
  | _, _ :: _, [] => by simp [emptySlots]
  | n, slot :: slots, t :: tokens => by
    obtain ⟨hsorted, hmem⟩ := emptySlots_spec key (n + 1) slots tokens
    have hrest : ∀ i ∈ emptySlots key (n + 1) slots tokens, n ≤ i ∧
        (slot :: slots)[i - n]? = some none ∧
          ∃ u, (t :: tokens)[i - n]? = some u ∧ u.key = key := by
      intro i hi
      obtain ⟨hle, h⟩ := hmem i hi
      have hshift : i - n = i - (n + 1) + 1 := by omega
      rw [hshift, List.getElem?_cons_succ, List.getElem?_cons_succ]
      exact ⟨by omega, h⟩
    simp only [emptySlots]
    split
    · rename_i hkey
      simp only [Bool.and_eq_true, Option.isNone_iff_eq_none, decide_eq_true_eq] at hkey
      refine ⟨List.pairwise_cons.mpr ⟨fun i hi => (hmem i hi).1, hsorted⟩, fun i hi => ?_⟩
      rcases List.mem_cons.mp hi with rfl | hi
      · simp [hkey]
      · exact hrest i hi
    · exact ⟨hsorted, hrest⟩

/-- **Opening a gate**: lookups that wait for it are answered, and none is started. -/
theorem release_spec (a : Analysis) (key : String) (hgo : b.failure? = none) :
    Steps b (b.release a key).2 (b.release a key).1 ∧
      (b.release a key).1.slots.length = b.slots.length ∧ startsIn (b.release a key).2 = [] := by
  obtain ⟨hsorted, hmem⟩ := emptySlots_spec key 0 b.slots b.tokens
  refine ⟨answer_steps a _ b hgo ?_ fun p hp => ?_, length_answer a _ b, startsIn_answer a _ b⟩
  · have hnodup : (b.waiting key).Nodup := hsorted.imp Nat.ne_of_lt
    simpa [Function.comp_def] using hnodup
  · obtain ⟨i, hi, rfl⟩ := List.mem_map.mp hp
    exact (hmem i hi).2

/-- A lookup that waits is among those of its key. -/
theorem mem_emptySlots {t : Token} : ∀ (n : Nat) {slots : List (Option Reply)}
    {tokens : List Token} {i : Nat}, slots[i]? = some none → tokens[i]? = some t →
      n + i ∈ emptySlots t.key n slots tokens
  | _, [], _, _, hslot, _ => absurd hslot (by simp)
  | _, _ :: _, [], _, _, ht => absurd ht (by simp)
  | n, slot :: slots, u :: tokens, 0, hslot, ht => by
    obtain rfl := Option.some.inj hslot
    obtain rfl := Option.some.inj ht
    simp [emptySlots]
  | n, slot :: slots, u :: tokens, i + 1, hslot, ht => by
    have hmem := mem_emptySlots (n + 1) (i := i) hslot ht
    rw [Nat.add_right_comm] at hmem
    simp only [emptySlots]
    split
    · exact List.mem_cons_of_mem n hmem
    · exact hmem

/-- **No lookup waits in vain**: opening the gate of its key answers a lookup of the build. -/
theorem release_answers (a : Analysis) {i : Nat} {t : Token} (hwait : b.slots[i]? = some none)
    (ht : b.tokens[i]? = some t) : ∃ j r, .answered j t.key r ∈ (b.release a t.key).2 := by
  obtain ⟨j, rest, hwaiting⟩ := List.exists_cons_of_ne_nil
    (List.ne_nil_of_mem (mem_emptySlots 0 hwait ht))
  refine ⟨j, a.reply b.file t.key, ?_⟩
  unfold release waiting
  rw [hwaiting, List.map_cons]
  simp only [answer]
  split <;> exact List.mem_cons_self

/-! ## What a build reads of the service -/

/-- Two services start the lookups of a build alike if the same gates are open in both and the
second one replies what the first one answered. -/
theorem launch_congr (a a' : Analysis) : ∀ (rest : List Token) (b : Build),
    (∀ t ∈ rest, a'.isOpen t.key = a.isOpen t.key) →
    (∀ e ∈ (b.launch a rest).2, e.Genuine a' b.file) → b.launch a' rest = b.launch a rest
  | [], _, _, _ => rfl
  | t :: rest, b, hopen, hgenuine => by
    have hrest : ∀ u ∈ rest, a'.isOpen u.key = a.isOpen u.key :=
      fun u hu => hopen u (List.mem_cons_of_mem t hu)
    simp only [launch, hopen t List.mem_cons_self] at hgenuine ⊢
    split
    · rename_i hgate
      simp only [hgate, if_true] at hgenuine
      have hreply : a'.reply b.file t.key = a.reply b.file t.key := by
        split at hgenuine
        · exact (hgenuine (.answered b.slots.length t.key _) (by simp)).symm
        · exact (hgenuine (.answered b.slots.length t.key _) (by simp)).symm
      rw [hreply]
      split
      · rfl
      · rename_i hgoes
        rw [if_neg hgoes] at hgenuine
        have ih := launch_congr a a' rest { b with slots := b.slots ++ [some (a.reply b.file t.key)] }
          hrest fun e he => hgenuine e (List.mem_cons_of_mem _ (List.mem_cons_of_mem _ he))
        rw [ih]
    · rename_i hgate
      simp only [hgate] at hgenuine
      have ih := launch_congr a a' rest { b with slots := b.slots ++ [none] } hrest fun e he =>
        hgenuine e (List.mem_cons_of_mem _ he)
      rw [ih]

/-- Two services answer the lookups of a build alike if the second one replies what the first one
answered. -/
theorem answer_congr (a a' : Analysis) : ∀ (todo : List (Nat × String)) (b : Build),
    (∀ e ∈ (b.answer a todo).2, e.Genuine a' b.file) → b.answer a' todo = b.answer a todo
  | [], _, _ => rfl
  | (i, key) :: rest, b, hgenuine => by
    simp only [answer] at hgenuine ⊢
    have hreply : a'.reply b.file key = a.reply b.file key := by
      split at hgenuine
      · exact (hgenuine (.answered i key _) (by simp)).symm
      · exact (hgenuine (.answered i key _) (by simp)).symm
    rw [hreply]
    split
    · rfl
    · rename_i hgoes
      rw [if_neg hgoes] at hgenuine
      have ih := answer_congr a a' rest { b with slots := b.slots.set i (some (a.reply b.file key)) }
        fun e he => hgenuine e (List.mem_cons_of_mem _ he)
      rw [ih]

end TokenOutline.Build
