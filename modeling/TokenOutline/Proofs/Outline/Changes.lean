import Mathlib.Data.List.Basic
import Mathlib.Data.List.Induction
import TokenOutline.Proofs.Outline.Request

/-!
# What subscribers are told

The outline counts its changes, and keeps for each subscriber the count that it has seen. They ask
at their own pace: all of them in a step of a run, or one alone between two steps. What they are
told is a matter of which changes there were, of when a subscriber came and of when it asked, and
not of who else asks.

Headlines:
* `Outline.poll`, **`Outline.changes_eq_polls`**: one subscriber asks, and all of them do.
* `Outline.Act`, `Outline.Unseen`: what may happen, and a change that a subscriber has not seen.
* **`Outline.Tracks.concat`**: what is kept goes with what happened, act by act.
* **`Outline.changes_told_once`**: the count and every answer to a subscriber, in every run.
-/

namespace TokenOutline.Outline

variable {ι : Type}

/-! ## One subscriber -/

/-- A subscriber asks, if there is one of the number, whether there was a change that it had not
seen, and for the generation. Then it has seen all changes. -/
def poll (o : Outline ι) (i : Nat) : Outline ι × Option (Bool × Nat) :=
  ({ o with seen := o.seen.set i o.generation }, o.changes[i]?)

theorem getElem?_changes (o : Outline ι) (i : Nat) :
    o.changes[i]? = o.seen[i]?.map fun g => (decide (g ≠ o.generation), o.generation) :=
  List.getElem?_map

/-- The outline after the first subscribers have asked, one after the other. -/
def afterPolls (o : Outline ι) (n : Nat) : Outline ι :=
  (List.range n).foldl (fun o i => (o.poll i).1) o

theorem afterPolls_eq (o : Outline ι) {n : Nat} (hn : n ≤ o.seen.length) :
    o.afterPolls n = { o with seen := List.replicate n o.generation ++ o.seen.drop n } := by
  induction n with
  | zero => rfl
  | succ n ih =>
    have hset : (List.replicate n o.generation ++ o.seen.drop n).set n o.generation =
        List.replicate (n + 1) o.generation ++ o.seen.drop (n + 1) := by
      rw [List.set_append_right _ _ (by simp), List.length_replicate, Nat.sub_self,
        List.drop_eq_getElem_cons hn, List.set_cons_zero, List.replicate_succ', List.append_assoc,
        List.singleton_append]
    rw [afterPolls, List.range_succ, List.foldl_append, List.foldl_cons, List.foldl_nil,
      ← afterPolls, ih (Nat.le_of_succ_le hn), poll, hset]

/-- **All subscribers ask** if one after the other does: each is told what it would be told alone,
and has seen all changes in the end. -/
theorem changes_eq_polls (o : Outline ι) :
    o.afterPolls o.seen.length = o.markSeen ∧
      ∀ i < o.seen.length, ((o.afterPolls i).poll i).2 = o.changes[i]? := by
  refine ⟨?_, fun i hi => ?_⟩
  · rw [afterPolls_eq o le_rfl, List.drop_length, List.append_nil, markSeen, List.map_const']
  · rw [afterPolls_eq o hi.le, poll, getElem?_changes, getElem?_changes,
      List.getElem?_append_right (by simp), List.length_replicate, Nat.sub_self,
      List.getElem?_drop, Nat.add_zero]

/-! ## Acts -/

/-- What happens to an outline with subscribers: a step of it, or one of them asks. -/
inductive Act (ι : Type) where
  | step (s : Step ι)
  | poll (subscriber : Nat)

namespace Act

/-- The outline is changed: it is refreshed, or takes settings. -/
def changes : Act ι → Bool
  | .step .refresh => true
  | .step (.configure value) => (Settings.decode value).isOk
  | _ => false

/-- A subscriber is let in. -/
def subscribes : Act ι → Bool
  | .step .subscribe => true
  | _ => false

/-- A subscriber asks, alone or with all others. -/
def asks (i : Nat) : Act ι → Bool
  | .step .changes => true
  | .poll j => j = i
  | _ => false

theorem changes_of_asks {a : Act ι} {i : Nat} (h : a.asks i) : a.changes = false := by
  cases a with
  | step s => cases s <;> first | rfl | exact absurd h (by simp [asks])
  | poll j => rfl

end Act

/-! ## What a subscriber has not seen -/

variable {as : List (Act ι)} {i : Nat}

/-- There was a change after a subscriber was let in, and the subscriber has not asked since. -/
def Unseen (i : Nat) (as : List (Act ι)) : Prop :=
  ∃ before a after, as = before ++ a :: after ∧ a.changes ∧
    i < before.countP Act.subscribes ∧ ∀ b ∈ after, ¬ b.asks i

theorem Unseen.lt (h : Unseen i as) : i < as.countP Act.subscribes := by
  obtain ⟨before, a, after, rfl, -, hi, -⟩ := h
  rw [List.countP_append]
  exact Nat.lt_add_right _ hi

/-- One act more is a change that no subscriber has seen, or leaves unseen what was unseen. -/
theorem unseen_concat {a : Act ι} :
    Unseen i (as ++ [a]) ↔
      (a.changes ∧ i < as.countP Act.subscribes) ∨ (¬ a.asks i ∧ Unseen i as) := by
  constructor
  · rintro ⟨before, c, after, heq, hchanges, hi, hafter⟩
    obtain rfl | ⟨after, b, rfl⟩ := after.eq_nil_or_concat'
    · obtain ⟨rfl, hlast⟩ := List.append_inj' heq rfl
      obtain rfl := List.head_eq_of_cons_eq hlast
      exact .inl ⟨hchanges, hi⟩
    · rw [← List.cons_append, ← List.append_assoc] at heq
      obtain ⟨rfl, hlast⟩ := List.append_inj' heq rfl
      obtain rfl := List.head_eq_of_cons_eq hlast
      exact .inr ⟨hafter a (List.mem_append_right _ List.mem_cons_self), before, c, after, rfl,
        hchanges, hi, fun b hb => hafter b (List.mem_append_left _ hb)⟩
  · rintro (⟨hchanges, hi⟩ | ⟨hasks, before, c, after, rfl, hchanges, hi, hafter⟩)
    · exact ⟨as, a, [], rfl, hchanges, hi, fun b hb => absurd hb List.not_mem_nil⟩
    · refine ⟨before, c, after ++ [a], by simp, hchanges, hi, fun b hb => ?_⟩
      rcases List.mem_append.mp hb with hb | hb
      · exact hafter b hb
      · exact List.mem_singleton.mp hb ▸ hasks

/-- Without a change since it asked, a subscriber has seen all changes. -/
theorem not_unseen_of_asks {before later : List (Act ι)} {b : Act ι} (hasks : b.asks i)
    (hlater : ∀ c ∈ later, ¬ c.changes) : ¬ Unseen i (before ++ b :: later) := by
  induction later using List.reverseRecOn with
  | nil =>
    rw [unseen_concat]
    rintro (⟨hchanges, -⟩ | ⟨hnot, -⟩)
    · rw [Act.changes_of_asks hasks] at hchanges
      cases hchanges
    · exact hnot hasks
  | append_singleton later c ih =>
    rw [← List.cons_append, ← List.append_assoc, unseen_concat]
    rintro (⟨hchanges, -⟩ | ⟨-, hunseen⟩)
    · exact hlater c (List.mem_append_right _ List.mem_cons_self) hchanges
    · exact ih (fun c hc => hlater c (List.mem_append_left _ hc)) hunseen

/-! ## What acts do -/

variable [DecidableEq ι] {o : Outline ι}

/-- The outline after an act. -/
def act (o : Outline ι) : Act ι → Outline ι
  | .step s => (o.step s).1
  | .poll i => (o.poll i).1

/-- The outline after some acts. -/
def afterActs (o : Outline ι) (as : List (Act ι)) : Outline ι := as.foldl act o

/-- What a subscriber is told in an act. -/
def told (o : Outline ι) (i : Nat) : Act ι → Option (Bool × Nat)
  | .step s =>
    match (o.step s).2.result with
    | some (.changes answers) => answers[i]?
    | _ => none
  | .poll j => if j = i then (o.poll j).2 else none

/-- Only changes are counted. -/
theorem generation_act (o : Outline ι) (a : Act ι) :
    (o.act a).generation = o.generation + if a.changes then 1 else 0 := by
  cases a with
  | step s =>
    rw [act, generation_step]
    cases s <;> rfl
  | poll j => rfl

/-- Steps other than these two leave what subscribers have seen, and tell them nothing. -/
theorem step_seen (o : Outline ι) {s : Step ι} (hsubscribe : s ≠ .subscribe)
    (hchanges : s ≠ .changes) :
    (o.step s).1.seen = o.seen ∧ ∀ answers, (o.step s).2.result ≠ some (.changes answers) := by
  cases s with
  | request id file below =>
    obtain ⟨-, -, hseen, hresult⟩ := request_leaves o id file below
    refine ⟨hseen, fun answers h => ?_⟩
    rw [step, perform, hresult] at h
    cases h
  | children id index file =>
    simp only [step, perform]
    split
    · exact ⟨(request_leaves o id file _).2.2.1, fun _ h => by cases h⟩
    · exact ⟨rfl, fun _ h => by cases h⟩
  | configure value =>
    simp only [step, perform]
    cases Settings.decode value with
    | ok settings => exact ⟨rfl, fun _ h => by cases h⟩
    | error e => exact ⟨rfl, fun _ h => by cases h⟩
  | service x => cases x <;> exact ⟨rfl, fun _ h => by cases h⟩
  | subscribe => exact absurd rfl hsubscribe
  | changes => exact absurd rfl hchanges
  | _ => exact ⟨rfl, fun _ h => by cases h⟩

/-- **What an act may be to the subscribers**: one more is let in, all of them ask, one of them
asks, or it does not concern them. -/
theorem act_cases (o : Outline ι) (a : Act ι) :
    a = .step .subscribe ∨ a = .step .changes ∨ (∃ j, a = .poll j) ∨
      ((∀ i, a.asks i = false) ∧ a.subscribes = false ∧ (o.act a).seen = o.seen ∧
        ∀ i, o.told i a = none) := by
  cases a with
  | poll j => exact .inr (.inr (.inl ⟨j, rfl⟩))
  | step s =>
    by_cases hsubscribe : s = .subscribe
    · exact .inl (congrArg _ hsubscribe)
    by_cases hchanges : s = .changes
    · exact .inr (.inl (congrArg _ hchanges))
    obtain ⟨hseen, hresult⟩ := step_seen o hsubscribe hchanges
    refine .inr (.inr (.inr ⟨fun i => ?_, ?_, hseen, fun i => ?_⟩))
    · cases s <;> first | rfl | contradiction
    · cases s <;> first | rfl | contradiction
    · -- what the step answers is nothing for subscribers
      simp only [told]

theorem length_seen_act (o : Outline ι) (a : Act ι) :
    (o.act a).seen.length = o.seen.length + if a.subscribes then 1 else 0 := by
  obtain rfl | rfl | ⟨j, rfl⟩ | ⟨-, hsubscribes, hseen, -⟩ := act_cases o a
  · exact List.length_append
  · exact List.length_map _
  · exact List.length_set
  · simp [hsubscribes, hseen]

/-- A subscriber has seen all there is when it asks and when it is let in, and otherwise what it had
seen before. -/
theorem seen_act {a : Act ι} {g : Nat} (hg : (o.act a).seen[i]? = some g) :
    (g = o.generation ∧ a.changes = false ∧ (a.asks i ∨ i = o.seen.length)) ∨
      (a.asks i = false ∧ o.seen[i]? = some g) := by
  obtain rfl | rfl | ⟨j, rfl⟩ | ⟨hasks, -, hseen, -⟩ := act_cases o a
  · change (o.seen ++ [o.generation])[i]? = some g at hg
    rw [List.getElem?_append] at hg
    split at hg
    case isTrue => exact .inr ⟨rfl, hg⟩
    case isFalse hi =>
      rw [List.getElem?_singleton] at hg
      split at hg
      case isTrue hzero =>
        have hlast : i = o.seen.length := by omega
        exact .inl ⟨(Option.some.inj hg).symm, rfl, .inr hlast⟩
      case isFalse => cases hg
  · obtain ⟨_, -, rfl⟩ := List.mem_map.mp (List.mem_of_getElem? hg)
    exact .inl ⟨rfl, rfl, .inl rfl⟩
  · change (o.seen.set j o.generation)[i]? = some g at hg
    by_cases hj : j = i
    · rw [hj, List.getElem?_set_self'] at hg
      obtain ⟨_, -, rfl⟩ := Option.map_eq_some_iff.mp hg
      exact .inl ⟨rfl, rfl, .inl (decide_eq_true hj)⟩
    · rw [List.getElem?_set_ne hj] at hg
      exact .inr ⟨decide_eq_false hj, hg⟩
  · rw [hseen] at hg
    exact .inr ⟨hasks i, hg⟩

/-- Who asks is told. -/
theorem told_eq (o : Outline ι) (a : Act ι) (i : Nat) :
    o.told i a = if a.asks i then o.changes[i]? else none := by
  obtain rfl | rfl | ⟨j, rfl⟩ | ⟨hasks, -, -, htold⟩ := act_cases o a
  · rfl
  · rfl
  · by_cases hj : j = i
    · simp [told, poll, Act.asks, hj]
    · simp [told, Act.asks, hj]
  · simp [hasks, htold]

/-! ## What an outline keeps -/

/-- What an outline keeps of its changes goes with what has happened to it. -/
structure Tracks (as : List (Act ι)) (o : Outline ι) : Prop where
  generation : o.generation = as.countP Act.changes
  subscribers : o.seen.length = as.countP Act.subscribes
  /-- No subscriber has seen more changes than there were. -/
  le : ∀ (i g : Nat), o.seen[i]? = some g → g ≤ o.generation
  unseen : ∀ (i g : Nat), o.seen[i]? = some g → (g ≠ o.generation ↔ Unseen i as)

namespace Tracks

/-- **An act**: what is kept still goes with what has happened. -/
theorem concat (h : Tracks as o) (a : Act ι) : Tracks (as ++ [a]) (o.act a) where
  generation := by
    rw [generation_act, h.generation, List.countP_append, List.countP_singleton]
  subscribers := by
    rw [length_seen_act, h.subscribers, List.countP_append, List.countP_singleton]
  le i g hg := by
    rw [generation_act]
    obtain ⟨rfl, -, -⟩ | ⟨-, hg⟩ := seen_act hg
    · exact Nat.le_add_right _ _
    · exact Nat.le_add_right_of_le (h.le i g hg)
  unseen i g hg := by
    rw [generation_act, unseen_concat]
    obtain ⟨rfl, hchanges, hseen⟩ | ⟨hasks, hg⟩ := seen_act hg
    · have hnone : ¬ (¬ a.asks i ∧ Unseen i as) := by
        rintro ⟨hasks, hunseen⟩
        obtain h' | rfl := hseen
        · exact hasks h'
        · exact absurd hunseen.lt (by rw [h.subscribers]; exact Nat.lt_irrefl _)
      simp only [hchanges, hnone, Bool.false_eq_true, false_and, or_false, if_false,
        Nat.add_zero, ne_eq, not_true_eq_false]
    · have hle := h.le i g hg
      have hi : i < as.countP Act.subscribes :=
        h.subscribers ▸ (List.getElem?_eq_some_iff.mp hg).1
      cases hchanges : a.changes with
      | true =>
        have hne : g ≠ o.generation + 1 := by omega
        simp [hne, hi]
      | false => simpa [hasks] using h.unseen i g hg

end Tracks

theorem tracks_afterActs (service : Analysis) (settings : Settings) (as : List (Act ι)) :
    Tracks as ((ofService service settings).afterActs as) := by
  induction as using List.reverseRecOn with
  | nil => exact ⟨rfl, rfl, nofun, nofun⟩
  | append_singleton as a ih =>
    rw [afterActs, List.foldl_append]
    exact ih.concat a

/-! ## Answers -/

/-- What is told to a subscriber that asks. -/
theorem Tracks.told_eq_some_iff (h : Tracks as o) {a : Act ι} {unseen : Bool} {g : Nat} :
    o.told i a = some (unseen, g) ↔
      a.asks i ∧ i < as.countP Act.subscribes ∧ g = as.countP Act.changes ∧
        (unseen = true ↔ Unseen i as) := by
  rw [told_eq, ← h.generation, ← h.subscribers]
  by_cases hasks : a.asks i
  · rw [if_pos hasks, getElem?_changes]
    by_cases hi : i < o.seen.length
    · have hseen := List.getElem?_eq_getElem hi
      have hunseen := h.unseen i _ hseen
      rw [hseen, Option.map_some, Option.some.injEq, Prod.mk.injEq, ← hunseen]
      constructor
      · rintro ⟨rfl, rfl⟩
        exact ⟨hasks, hi, rfl, decide_eq_true_iff⟩
      · rintro ⟨-, -, rfl, hiff⟩
        exact ⟨Bool.eq_iff_iff.mpr (decide_eq_true_iff.trans hiff.symm), rfl⟩
    · simp [hi]
  · simp [hasks]

/-- **Changes are told once.** In every run of steps in which subscribers also ask one by one, the
count is the number of changes so far, and an act counts it on iff it is a change. Whoever has been
let in and asks is told the count, and that there was a change iff there was one after it was let in
and after it last asked. So a change is told to every subscriber that asks later, whatever else
happens until then, and a subscriber that asks again is not told of it again. -/
theorem changes_told_once (service : Analysis) (settings : Settings) (as : List (Act ι)) :
    let o : Outline ι := (ofService service settings).afterActs as
    o.generation = as.countP Act.changes ∧
    (∀ a, (o.act a).generation = o.generation + if a.changes then 1 else 0) ∧
    ∀ a i,
      (∀ unseen g, o.told i a = some (unseen, g) ↔
        a.asks i ∧ i < as.countP Act.subscribes ∧ g = as.countP Act.changes ∧
          (unseen = true ↔ Unseen i as)) ∧
      (∀ before c later, as = before ++ c :: later → c.changes →
        i < before.countP Act.subscribes → (∀ b ∈ later, ¬ b.asks i) → a.asks i →
          o.told i a = some (true, o.generation)) ∧
      ∀ before b later, as = before ++ b :: later → b.asks i → (∀ c ∈ later, ¬ c.changes) →
        ∀ g, o.told i a ≠ some (true, g) := by
  intro o
  have htracks : Tracks as o := tracks_afterActs service settings as
  refine ⟨htracks.generation, generation_act o, fun a i => ⟨?answer, ?later, ?again⟩⟩
  case answer => exact fun unseen g => htracks.told_eq_some_iff
  case later =>
    intro before c later heq hchanges hi hlater hasks
    have hunseen : Unseen i as := ⟨before, c, later, heq, hchanges, hi, hlater⟩
    exact htracks.told_eq_some_iff.mpr ⟨hasks, hunseen.lt, htracks.generation, by simp [hunseen]⟩
  case again =>
    rintro before b later rfl hasks hlater g htold
    obtain ⟨-, -, -, hunseen⟩ := htracks.told_eq_some_iff.mp htold
    exact not_unseen_of_asks hasks hlater (hunseen.mp rfl)

example (service : Analysis) (settings : Settings) :
    let o : Outline Nat := (ofService service settings).afterActs
      [.step .subscribe, .step .refresh, .step .subscribe, .step .refresh, .poll 1]
    o.told 0 (.step .changes) = some (true, 2) ∧ o.told 1 (.step .changes) = some (false, 2) :=
  ⟨rfl, rfl⟩

end TokenOutline.Outline
