import TokenOutline.Proofs.Build.Launch

/-!
# Builds that are told late of an open gate

`Build.resume` answers the lookups that wait though their gates are open. A build at closed gates
has none of them, so nothing happens to it; and when a gate is opened, going on late with such a
build is the same as opening the gate for it.

Headlines:
* `Build.AtGates`: a build that goes on, and waits at closed gates only.
* **`Build.atGates_start`**, **`Build.AtGates.release`**: it is so when it has been started, and
  stays so when gates are opened.
* **`Build.AtGates.resume_eq`**, **`Build.AtGates.resume_eq_release`**: going on with it.
-/

namespace TokenOutline.Build

variable {a : Analysis} {b : Build}

/-! ## Builds at closed gates -/

/-- Only slots of tokens at closed gates are empty. -/
def WaitsClosed (a : Analysis) (slots : List (Option Reply)) (tokens : List Token) : Prop :=
  ∀ (i : Nat) (t : Token), slots[i]? = some none → tokens[i]? = some t → a.isOpen t.key = false

theorem WaitsClosed.tail {slot : Option Reply} {slots : List (Option Reply)} {t : Token}
    {tokens : List Token} (h : WaitsClosed a (slot :: slots) (t :: tokens)) :
    WaitsClosed a slots tokens := fun i u hslot hu =>
  h (i + 1) u (by simpa using hslot) (by simpa using hu)

/-- The build goes on, and only its lookups at closed gates wait. -/
structure AtGates (a : Analysis) (b : Build) : Prop where
  goes : b.outcome? = none
  closed : WaitsClosed a b.slots b.tokens

theorem openSlots_eq_nil : ∀ (n : Nat) (slots : List (Option Reply)) (tokens : List Token),
    WaitsClosed a slots tokens → openSlots a n slots tokens = []
  | _, [], _, _ => by simp [openSlots]
  | _, _ :: _, [], _ => by simp [openSlots]
  | n, slot :: slots, t :: tokens, h => by
    have hrest := openSlots_eq_nil (n + 1) slots tokens h.tail
    have hfirst : (slot.isNone && a.isOpen t.key) = false := by
      cases slot with
      | none => simp [h 0 t rfl rfl]
      | some r => rfl
    simp [openSlots, hrest, hfirst]

/-- **Nothing happens to a build at closed gates.** -/
theorem AtGates.resume_eq (h : b.AtGates a) : b.resume a = (b, []) := by
  rw [resume, openSlots_eq_nil 0 _ _ h.closed, answer]

theorem failure?_of_outcome? (h : b.outcome? = none) : b.failure? = none := by
  unfold outcome? at h
  split at h
  · cases h
  · assumption

/-- The lookups that a launch leaves waiting do so at closed gates. -/
theorem waitsClosed_launch : ∀ (rest : List Token) (b : Build),
    b.tokens.drop b.slots.length = rest → WaitsClosed a b.slots b.tokens →
      WaitsClosed a (b.launch a rest).1.slots (b.launch a rest).1.tokens
  | [], _, _, h => h
  | t :: rest, b, hrest, h => by
    obtain ⟨ht, hdrop⟩ := next_of_drop hrest
    have hfilled : ∀ r, WaitsClosed a (b.slots ++ [some r]) b.tokens := by
      intro r i u hslot hu
      rcases Nat.lt_trichotomy i b.slots.length with hlt | rfl | hgt
      · exact h i u (by simpa [List.getElem?_append_left hlt] using hslot) hu
      · simp at hslot
      · rw [List.getElem?_eq_none (by simp; omega)] at hslot
        cases hslot
    simp only [launch]
    split
    · split
      · exact hfilled _
      · exact waitsClosed_launch rest _ (by simpa using hdrop) (hfilled _)
    · rename_i hclosed
      refine waitsClosed_launch rest _ (by simpa using hdrop) fun i u hslot hu => ?_
      rcases Nat.lt_trichotomy i b.slots.length with hlt | rfl | hgt
      · exact h i u (by simpa [List.getElem?_append_left hlt] using hslot) hu
      · obtain rfl := Option.some.inj (ht.symm.trans hu)
        simpa using hclosed
      · rw [List.getElem?_eq_none (by simp; omega)] at hslot
        cases hslot

/-- **A build that goes on after its start waits at closed gates only.** -/
theorem atGates_start (file : String) (s : Settings) (tokens : List Token)
    (h : ((ofTokens file s tokens).start a).1.outcome? = none) :
    ((ofTokens file s tokens).start a).1.AtGates a :=
  ⟨h, waitsClosed_launch tokens _ rfl fun i t hslot => absurd hslot (by simp [ofTokens])⟩

/-! ## Changes of the service -/

/-- Closing gates and giving replies lets no lookup go on. -/
theorem AtGates.step (h : b.AtGates a) {s : Analysis.Step} (hs : ∀ key, s ≠ .release key) :
    b.AtGates (a.step s) := by
  refine ⟨h.goes, fun i t hslot ht => ?_⟩
  have hclosed := h.closed i t hslot ht
  cases s with
  | release key => exact absurd rfl (hs key)
  | close key =>
    by_cases hkey : t.key = key
    · simp [Analysis.step, Analysis.isOpen, hkey]
    · simpa [Analysis.step, Analysis.isOpen, Gates.isOpen_set_of_ne _ _ hkey] using hclosed
  | setVocabulary file v => exact hclosed
  | setSymbol file key r => exact hclosed

/-- The lookups at open gates are those at the gate that has just been opened. -/
theorem openSlots_release (key : String) :
    ∀ (n : Nat) (slots : List (Option Reply)) (tokens : List Token), WaitsClosed a slots tokens →
      openSlots (a.step (.release key)) n slots tokens =
        (emptySlots key n slots tokens).map fun i => (i, key)
  | _, [], _, _ => by simp [openSlots, emptySlots]
  | _, _ :: _, [], _ => by simp [openSlots, emptySlots]
  | n, slot :: slots, t :: tokens, h => by
    have hrest := openSlots_release key (n + 1) slots tokens h.tail
    have hopen : (slot.isNone && (a.step (.release key)).isOpen t.key) =
        (slot.isNone && decide (t.key = key)) := by
      cases slot with
      | some r => rfl
      | none =>
        by_cases hkey : t.key = key
        · simp [Analysis.step, Analysis.isOpen, hkey]
        · have hclosed := h 0 t rfl rfl
          rw [Analysis.isOpen] at hclosed
          simp [Analysis.step, Analysis.isOpen, Gates.isOpen_set_of_ne _ _ hkey, hkey, hclosed]
    simp only [openSlots, emptySlots, hopen, hrest]
    split
    · rename_i hkey
      simp only [Bool.and_eq_true, decide_eq_true_eq] at hkey
      rw [List.map_cons, hkey.2]
    · rfl

/-- **Going on late is opening the gate**, for a build that waited at closed gates only. -/
theorem AtGates.resume_eq_release (h : b.AtGates a) (key : String) :
    b.resume (a.step (.release key)) = b.release (a.step (.release key)) key := by
  rw [resume, release, waiting, openSlots_release key 0 _ _ h.closed]

/-- What waits after lookups have been answered has waited before. -/
theorem waits_of_answer (a : Analysis) : ∀ (todo : List (Nat × String)) (b : Build) {i : Nat},
    (b.answer a todo).1.slots[i]? = some none → b.slots[i]? = some none
  | [], _, _, h => h
  | (j, key) :: rest, b, i, h => by
    have hset : ∀ r : Reply,
        (b.slots.set j (some r))[i]? = some none → b.slots[i]? = some none := by
      intro r hr
      by_cases hij : j = i
      · subst hij
        rw [List.getElem?_set_self'] at hr
        cases hslot : b.slots[j]? <;> simp [hslot] at hr
      · rwa [List.getElem?_set_ne hij] at hr
    simp only [answer] at h
    split at h
    · exact hset _ h
    · exact hset _ (waits_of_answer a rest _ h)

/-- All lookups are answered that are to be, unless the build ends. -/
theorem not_waits_of_answer (a : Analysis) : ∀ (todo : List (Nat × String)) (b : Build),
    (b.answer a todo).1.failure? = none →
      ∀ p ∈ todo, (b.answer a todo).1.slots[p.1]? ≠ some none
  | [], _, _, _, hp => absurd hp List.not_mem_nil
  | (j, key) :: rest, b, hgo, p, hp => by
    simp only [answer] at hgo ⊢
    split at hgo
    · rename_i hfails
      simp [hgo] at hfails
    · rename_i hgoes
      rw [if_neg hgoes]
      rcases List.mem_cons.mp hp with rfl | hp
      · intro hwaits
        have h := waits_of_answer a rest _ hwaits
        rw [List.getElem?_set_self'] at h
        cases hslot : b.slots[j]? <;> simp [hslot] at h
      · exact not_waits_of_answer a rest _ hgo p hp

theorem tokens_answer (a : Analysis) : ∀ (todo : List (Nat × String)) (b : Build),
    (b.answer a todo).1.tokens = b.tokens
  | [], _ => rfl
  | (i, key) :: rest, b => by
    simp only [answer]
    split
    · rfl
    · exact tokens_answer a rest _

/-- **Opening a gate leaves a build that goes on at closed gates.** -/
theorem AtGates.release (h : b.AtGates a) (key : String)
    (hgo : (b.release (a.step (.release key)) key).1.outcome? = none) :
    (b.release (a.step (.release key)) key).1.AtGates (a.step (.release key)) := by
  refine ⟨hgo, fun i t hslot ht => ?_⟩
  rw [Build.release, tokens_answer] at ht
  have hwaited := waits_of_answer _ _ _ hslot
  have hclosed := h.closed i t hwaited ht
  by_cases hkey : t.key = key
  · subst hkey
    have hmem := mem_emptySlots 0 hwaited ht
    rw [Nat.zero_add] at hmem
    exact absurd hslot (not_waits_of_answer _ _ b (failure?_of_outcome? hgo) (i, t.key)
      (List.mem_map.mpr ⟨i, hmem, rfl⟩))
  · rw [Analysis.isOpen] at hclosed
    simp [Analysis.step, Analysis.isOpen, Gates.isOpen_set_of_ne _ _ hkey, hclosed]

end TokenOutline.Build
