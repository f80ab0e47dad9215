import TokenOutline.Build.Basic
import Mathlib.Data.Set.List

/-!
# What a build comes to

`firstFailure` and `failureInTurn` read the failure that ends a build off its slots, and
`Build.symbols?` reads off the symbols of a build that succeeds. This file says, slot by slot, what
they find.

Headlines:
* **`Build.failure?_eq_none_iff`**: no failure ends a build iff every failure it holds, which only
  a large build does, stands behind an empty slot.
* **`Build.failure?_spec`**: where the failure that ends a build stands.
* **`Build.outcome?_eq_ok_iff`**: a build succeeds iff each of its tokens has a slot with a success.
* **`Build.outcome?_eq_none_iff`**: a build that has started all lookups goes on iff no failure ends
  it and a slot is empty.
-/

namespace TokenOutline

/-! ## Failures in slots -/

/-- The first failure is one without a failure before it. -/
theorem firstFailure_eq_some_iff {slots : List (Option Reply)} {i : Nat} {e : LookupError} :
    firstFailure slots = some (i, e) ↔
      slots[i]? = some (some (.error e)) ∧ ∀ j < i, ∀ e', slots[j]? ≠ some (some (.error e')) := by
  induction slots generalizing i with
  | nil => simp [firstFailure]
  | cons slot slots ih =>
    rcases slot with _ | e' | x
    · cases i with
      | zero => simp [firstFailure]
      | succ i =>
        rw [Nat.forall_lt_succ_left]
        simp [firstFailure, ih]
    · cases i with
      | zero => simp [firstFailure]
      | succ i =>
        rw [Nat.forall_lt_succ_left]
        simp [firstFailure]
    · cases i with
      | zero => simp [firstFailure]
      | succ i =>
        rw [Nat.forall_lt_succ_left]
        simp [firstFailure, ih]

theorem firstFailure_eq_none_iff {slots : List (Option Reply)} :
    firstFailure slots = none ↔ ∀ (i : Nat) e, slots[i]? ≠ some (some (.error e)) := by
  induction slots with
  | nil => simp [firstFailure]
  | cons slot slots ih =>
    rw [← Nat.and_forall_add_one]
    rcases slot with _ | e' | x <;> simp [firstFailure, ih]

/-- The failure in turn is one with nothing but successes before it. -/
theorem failureInTurn_eq_some_iff {slots : List (Option Reply)} {i : Nat} {e : LookupError} :
    failureInTurn slots = some (i, e) ↔
      slots[i]? = some (some (.error e)) ∧ ∀ j < i, ∃ x, slots[j]? = some (some (.ok x)) := by
  induction slots generalizing i with
  | nil => simp [failureInTurn]
  | cons slot slots ih =>
    rcases slot with _ | e' | x
    · cases i with
      | zero => simp [failureInTurn]
      | succ i =>
        rw [Nat.forall_lt_succ_left]
        simp [failureInTurn]
    · cases i with
      | zero => simp [failureInTurn]
      | succ i =>
        rw [Nat.forall_lt_succ_left]
        simp [failureInTurn]
    · cases i with
      | zero => simp [failureInTurn]
      | succ i =>
        rw [Nat.forall_lt_succ_left]
        simp [failureInTurn, ih]

theorem failureInTurn_eq_none_iff {slots : List (Option Reply)} :
    failureInTurn slots = none ↔
      ∀ (i : Nat) e, slots[i]? = some (some (.error e)) → ∃ j < i, slots[j]? = some none := by
  induction slots with
  | nil => simp [failureInTurn]
  | cons slot slots ih =>
    rw [← Nat.and_forall_add_one]
    simp only [Nat.exists_lt_succ_left]
    rcases slot with _ | e' | x
    · simp [failureInTurn]
    · simp [failureInTurn]
    · simp [failureInTurn, ih]

namespace Build

/-! ## The failure that ends a build -/

/-- **What does not end a build**: without failures it goes on, and with failures it goes on if it
is large and each of them stands behind an empty slot. -/
theorem failure?_eq_none_iff {b : Build} :
    b.failure? = none ↔ ∀ (i : Nat) e, b.slots[i]? = some (some (.error e)) →
      smallBuild < b.tokens.length ∧ ∃ j < i, b.slots[j]? = some none := by
  unfold failure? endingFailure
  split
  · rename_i hsmall
    rw [firstFailure_eq_none_iff]
    have hlarge : ¬ smallBuild < b.tokens.length := Nat.not_lt.mpr hsmall
    simp only [hlarge, false_and, imp_false, ne_eq]
  · rename_i hsmall
    rw [failureInTurn_eq_none_iff]
    have hlarge : smallBuild < b.tokens.length := Nat.not_le.mp hsmall
    simp only [hlarge, true_and]

/-- **The failure that ends a build**: the first one of a small build, and of a large one the one
before which all lookups have succeeded. -/
theorem failure?_spec {b : Build} {i : Nat} {e : LookupError} (h : b.failure? = some (i, e)) :
    b.slots[i]? = some (some (.error e)) ∧
      (b.tokens.length ≤ smallBuild → ∀ j < i, ∀ e', b.slots[j]? ≠ some (some (.error e'))) ∧
      (smallBuild < b.tokens.length → ∀ j < i, ∃ x, b.slots[j]? = some (some (.ok x))) := by
  unfold failure? endingFailure at h
  split at h
  · rename_i hsmall
    obtain ⟨hi, hbefore⟩ := firstFailure_eq_some_iff.mp h
    exact ⟨hi, fun _ => hbefore, fun hlarge => absurd hsmall (Nat.not_le.mpr hlarge)⟩
  · rename_i hsmall
    obtain ⟨hi, hbefore⟩ := failureInTurn_eq_some_iff.mp h
    exact ⟨hi, fun hle => absurd hle hsmall, fun _ => hbefore⟩

/-! ## The symbols of a build that succeeds -/

theorem mapM_toOption_eq_some_iff {slots : List (Option Reply)}
    {xs : List (Option Grammar.Symbol)} :
    slots.mapM (fun slot => slot.bind (·.toOption)) = some xs ↔
      slots = xs.map fun x => some (.ok x) := by
  induction slots generalizing xs with
  | nil =>
    cases xs with
    | nil => simp
    | cons x xs => simp
  | cons slot slots ih =>
    have hslot : ∀ x, slot.bind (·.toOption) = some x ↔ slot = some (.ok x) := by
      intro x
      rcases slot with _ | e | y <;> simp [Except.toOption]
    simp only [List.mapM_cons, Option.pure_def, Option.bind_eq_bind, Option.bind_eq_some_iff,
      Option.some.injEq, hslot, ih]
    constructor
    · rintro ⟨x, rfl, ys, rfl, rfl⟩
      rfl
    · cases xs with
      | nil => simp
      | cons x xs =>
        simp only [List.map_cons, List.cons.injEq]
        rintro ⟨rfl, rfl⟩
        exact ⟨x, rfl, xs, rfl, rfl, rfl⟩

theorem symbols?_eq_some_iff {b : Build} {xs : List (Option Grammar.Symbol)} :
    b.symbols? = some xs ↔
      b.tokens.length ≤ b.slots.length ∧ b.slots = xs.map fun x => some (.ok x) := by
  unfold symbols?
  split
  · rename_i h
    simp only [reduceCtorEq, false_iff, not_and]
    exact fun hle => absurd hle (Nat.not_le.mpr h)
  · rename_i h
    rw [mapM_toOption_eq_some_iff]
    simp only [Nat.not_lt.mp h, true_and]

/-! ## Outcomes -/

theorem outcome?_eq_error_iff {b : Build} {err : ResolveError} :
    b.outcome? = some (.error err) ↔ ∃ i e, b.failure? = some (i, e) ∧
      err = ⟨(b.tokens[i]?.getD default).index, (b.tokens[i]?.getD default).key, e⟩ := by
  unfold outcome?
  split
  · rename_i i e h
    simp only [Option.some.injEq, Except.error.injEq, h, Prod.mk.injEq]
    constructor
    · rintro rfl
      exact ⟨i, e, ⟨rfl, rfl⟩, rfl⟩
    · rintro ⟨i', e', ⟨rfl, rfl⟩, rfl⟩
      rfl
  · rename_i h
    simp [h]

/-- **When a build succeeds**: all its tokens have slots, and each slot holds a success. -/
theorem outcome?_eq_ok_iff {b : Build} {out : List Item} :
    b.outcome? = some (.ok out) ↔ ∃ xs : List (Option Grammar.Symbol),
      b.tokens.length ≤ b.slots.length ∧ (b.slots = xs.map fun x => some (.ok x)) ∧
        out = items b.settings b.tokens xs := by
  constructor
  · unfold outcome?
    split
    · intro h
      exact absurd h (by simp)
    · intro h
      obtain ⟨xs, hxs, hout⟩ := Option.map_eq_some_iff.mp h
      obtain ⟨hlen, hslots⟩ := symbols?_eq_some_iff.mp hxs
      exact ⟨xs, hlen, hslots, (Except.ok.inj hout).symm⟩
  · rintro ⟨xs, hlen, hslots, rfl⟩
    have hfail : b.failure? = none := by
      rw [failure?_eq_none_iff]
      intro i e hi
      rw [hslots, List.getElem?_map] at hi
      obtain ⟨x, -, hx⟩ := Option.map_eq_some_iff.mp hi
      exact absurd hx (by simp)
    unfold outcome?
    rw [hfail]
    simp only [symbols?_eq_some_iff.mpr ⟨hlen, hslots⟩, Option.map_some]

/-- No failure ends a build that has not come to one. -/
theorem failure?_eq_none_of_outcome? {b : Build} (h : ∀ err, b.outcome? ≠ some (.error err)) :
    b.failure? = none := by
  cases hf : b.failure? with
  | none => rfl
  | some p => exact absurd (outcome?_eq_error_iff.mpr ⟨p.1, p.2, hf, rfl⟩) (h _)

/-- **When a build goes on**, once it has started all its lookups: no failure ends it, and a lookup
waits. -/
theorem outcome?_eq_none_iff {b : Build} (hfull : b.slots.length = b.tokens.length) :
    b.outcome? = none ↔ b.failure? = none ∧ ∃ i : Nat, b.slots[i]? = some none := by
  constructor
  · intro h
    have hfail : b.failure? = none := failure?_eq_none_of_outcome? (by simp [h])
    refine ⟨hfail, ?_⟩
    by_contra hnone
    -- a failure stands behind an empty slot, so without one all slots are successes
    have hok : ∀ slot ∈ b.slots, slot ∈ Set.range fun x => some (.ok x) := by
      intro slot hslot
      obtain ⟨i, hi⟩ := List.mem_iff_getElem?.mp hslot
      rcases slot with _ | e | x
      · exact absurd ⟨i, hi⟩ hnone
      · obtain ⟨-, j, -, hj⟩ := failure?_eq_none_iff.mp hfail i e hi
        exact absurd ⟨j, hj⟩ hnone
      · exact ⟨x, rfl⟩
    obtain ⟨xs, hxs⟩ : b.slots ∈ Set.range (List.map fun x => some (.ok x)) := by
      rw [Set.range_list_map]
      exact hok
    have : b.outcome? = some (.ok _) := outcome?_eq_ok_iff.mpr ⟨xs, hfull.ge, hxs.symm, rfl⟩
    rw [h] at this
    exact absurd this (by simp)
  · rintro ⟨hfail, i, hi⟩
    cases ho : b.outcome? with
    | none => rfl
    | some outcome =>
      cases outcome with
      | error err =>
        obtain ⟨j, e, hj, -⟩ := outcome?_eq_error_iff.mp ho
        rw [hfail] at hj
        exact absurd hj (by simp)
      | ok out =>
        obtain ⟨xs, -, hslots, -⟩ := outcome?_eq_ok_iff.mp ho
        rw [hslots, List.getElem?_map] at hi
        obtain ⟨x, -, hx⟩ := Option.map_eq_some_iff.mp hi
        exact absurd hx (by simp)

end Build

end TokenOutline
