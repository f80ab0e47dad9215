import Mathlib.Logic.Relation
import TokenOutline.Grammar.Token

/-!
# The slots of a vocabulary

Both tables of a vocabulary have a slot for each token type, those past the end of the shorter one
without a name. A slot whose name is empty counts as one without a name. So a table may be edited
where it has no names, by writing an empty name or none, and by adding slots as far as the other
table goes: the tokens of the vocabulary stay what they are.

Headlines:
* `Vocabulary.getElem?_tokens`, `Vocabulary.nameAt_of_outside`: the tokens of all token types.
* `Vocabulary.Edits`, **`Vocabulary.SameNames.tokens_eq`**: vocabularies that only differ where they
  have no names have the same tokens.
-/

namespace TokenOutline.Vocabulary

variable {v w : Vocabulary} {i : Nat}

/-! ## Tokens by type -/

theorem length_tokens (v : Vocabulary) : v.tokens.length = v.size := by
  rw [tokens, List.length_map, List.length_range]

theorem size_eq_maxTokenType (v : Vocabulary) : (v.size : Int) = v.maxTokenType + 1 := by
  rw [maxTokenType, Int.sub_add_cancel]

/-- Tables within the limit have no names past it. -/
theorem size_of_lt (hliterals : v.literalNames.length < 2147483648)
    (hsymbolics : v.symbolicNames.length < 2147483648) :
    v.size = max v.literalNames.length v.symbolicNames.length := by
  refine Nat.min_eq_left (Nat.le_of_lt_succ ?_)
  exact Nat.max_lt.mpr ⟨hliterals, hsymbolics⟩

theorem getElem?_tokens (hi : i < v.size) : v.tokens[i]? = some (Token.ofVocabulary v i) := by
  rw [tokens, List.getElem?_map, List.getElem?_range hi]
  rfl

theorem index_tokens {t : Token} (ht : v.tokens[i]? = some t) : t.index = i := by
  obtain ⟨hlt, -⟩ := List.getElem?_eq_some_iff.mp ht
  rw [length_tokens] at hlt
  rw [getElem?_tokens hlt] at ht
  rw [← Option.some.inj ht]
  rfl

/-- A table has no name outside its slots. -/
theorem nameAt_of_outside {names : List (Option String)} {tokenType : Int}
    (h : tokenType < 0 ∨ (names.length : Int) ≤ tokenType) : nameAt names tokenType = none := by
  unfold nameAt
  split
  · rfl
  · rename_i hsign
    have hlen : names.length ≤ tokenType.toNat := by omega
    rw [List.getElem?_eq_none hlen]
    rfl

/-! ## Where there are no names -/

/-- A name that counts as missing: none, or an empty one. -/
def IsBlank (name : Option String) : Prop := name = none ∨ name = some ""

theorem IsBlank.nonempty_eq {name : Option String} (h : IsBlank name) : nonempty name = none := by
  rcases h with rfl | rfl <;> rfl

/-- A table is edited where it has no name; it is not made longer than `limit`. -/
inductive TableEdits (limit : Nat) : List (Option String) → List (Option String) → Prop where
  /-- A missing name is replaced by an empty one, or an empty name by a missing one. -/
  | replaces (before after : List (Option String)) {a b : Option String} (ha : IsBlank a)
      (hb : IsBlank b) : TableEdits limit (before ++ a :: after) (before ++ b :: after)
  /-- A slot without a name is added at the end. -/
  | adds {names : List (Option String)} {b : Option String} (hroom : names.length < limit)
      (hb : IsBlank b) : TableEdits limit names (names ++ [b])

/-- One of the tables is edited where it has no name; it is not made longer than both were. -/
inductive Edits : Vocabulary → Vocabulary → Prop where
  | literals {literals literals' symbolics : List (Option String)}
      (h : TableEdits symbolics.length literals literals') :
      Edits ⟨literals, symbolics⟩ ⟨literals', symbolics⟩
  | symbolics {literals symbolics symbolics' : List (Option String)}
      (h : TableEdits literals.length symbolics symbolics') :
      Edits ⟨literals, symbolics⟩ ⟨literals, symbolics'⟩

/-- Vocabularies that come from each other by edits, made or undone, where they have no names. -/
def SameNames : Vocabulary → Vocabulary → Prop := Relation.EqvGen Edits

variable {limit : Nat} {names names' : List (Option String)}

theorem nonempty_join (names : List (Option String)) (i : Nat) :
    nonempty names[i]?.join = (names.map nonempty)[i]?.join := by
  rw [List.getElem?_map]
  cases names[i]? <;> rfl

theorem TableEdits.name_eq (h : TableEdits limit names names') (i : Nat) :
    nonempty names'[i]?.join = nonempty names[i]?.join := by
  rw [nonempty_join, nonempty_join]
  cases h with
  | replaces before after ha hb =>
    simp only [List.map_append, List.map_cons, ha.nonempty_eq, hb.nonempty_eq]
  | adds _ hb =>
    rw [List.map_append, List.map_singleton, hb.nonempty_eq, List.getElem?_append]
    split
    · rfl
    · -- past the end there is no name either way
      rename_i hi
      rw [List.getElem?_eq_none (Nat.le_of_not_lt hi), List.getElem?_singleton]
      split <;> rfl

theorem TableEdits.nameAt_eq (h : TableEdits limit names names') (tokenType : Int) :
    nameAt names' tokenType = nameAt names tokenType := by
  rw [nameAt, nameAt, h.name_eq]

theorem TableEdits.max_length (h : TableEdits limit names names') :
    max names'.length limit = max names.length limit := by
  cases h with
  | replaces => simp
  | adds hroom =>
    rw [List.length_append, List.length_singleton, Nat.max_eq_right hroom,
      Nat.max_eq_right (Nat.le_of_lt hroom)]

theorem Edits.size_eq (h : Edits v w) : w.size = v.size := by
  cases h with
  | literals h => exact congrArg (min · sizeLimit) h.max_length
  | symbolics h =>
    refine congrArg (min · sizeLimit) ?_
    rw [Nat.max_comm, h.max_length, Nat.max_comm]

theorem Edits.ofVocabulary_eq (h : Edits v w) (tokenType : Int) :
    Token.ofVocabulary w tokenType = Token.ofVocabulary v tokenType := by
  cases h with
  | literals h => simp only [Token.ofVocabulary, literalName, symbolicName, h.nameAt_eq]
  | symbolics h => simp only [Token.ofVocabulary, literalName, symbolicName, h.nameAt_eq]

/-- **The same names make the same tokens**, as many of them and of every type. -/
theorem SameNames.tokens_eq (h : SameNames v w) :
    w.tokens = v.tokens ∧
      ∀ tokenType, Token.ofVocabulary w tokenType = Token.ofVocabulary v tokenType := by
  induction h with
  | rel v w h =>
    refine ⟨?_, h.ofVocabulary_eq⟩
    rw [tokens, tokens, h.size_eq]
    exact List.map_congr_left fun _ _ => h.ofVocabulary_eq _
  | refl => exact ⟨rfl, fun _ => rfl⟩
  | symm _ _ _ ih => exact ⟨ih.1.symm, fun i => (ih.2 i).symm⟩
  | trans _ _ _ _ _ ih ih' => exact ⟨ih'.1.trans ih.1, fun i => (ih'.2 i).trans (ih.2 i)⟩

end TokenOutline.Vocabulary
