import TokenOutline.Grammar.Token

/-!
# Reading captions

The index of a token stands in its caption before the first colon, as no index has one. The names
after it may hold any text, colons, parentheses and the words for a missing name included, so they
are read from the front: words for a missing name begin with `<`, a symbolic name goes as far as the
first space, and the literal is what is left between the parentheses. For this the symbolic name may
have no space and no `<`.

Headlines:
* **`Token.indexOfCaption_caption`**: the index is read back from every caption.
* **`Token.ofCaption_caption`**: a token with a plain symbolic name, or with none, is read back from
  its caption.
-/

namespace TokenOutline.Token

/-! ## The index -/

/-- The number that a text in decimal stands for. -/
def readIndex : List Char → Int
  | '-' :: digits => -(Nat.ofDigitChars 10 digits 0 : Nat)
  | digits => (Nat.ofDigitChars 10 digits 0 : Nat)

theorem toList_toString_negSucc (n : Nat) :
    (toString (Int.negSucc n)).toList = '-' :: Nat.toDigits 10 (n + 1) := by
  change ("-" ++ (n + 1).repr).toList = _
  rw [String.toList_append, Nat.toList_repr]
  rfl

theorem toList_toString_ofNat (n : Nat) :
    (toString (Int.ofNat n)).toList = Nat.toDigits 10 n := Nat.toList_repr

theorem isDigit_of_mem_toDigits {n : Nat} {c : Char} (h : c ∈ Nat.toDigits 10 n) : c.isDigit :=
  Nat.isDigit_of_mem_toDigits (by decide) (by decide) h

theorem ofDigitChars_toDigits (n : Nat) : Nat.ofDigitChars 10 (Nat.toDigits 10 n) 0 = n :=
  Nat.ofDigitChars_toDigits (by decide) (by decide)

theorem readIndex_toString (i : Int) : readIndex (toString i).toList = i := by
  cases i with
  | ofNat n =>
    have hsign : ∀ digits, Nat.toDigits 10 n ≠ '-' :: digits := fun digits h =>
      absurd (isDigit_of_mem_toDigits (h ▸ List.mem_cons_self)) (by decide)
    rw [toList_toString_ofNat, readIndex, ofDigitChars_toDigits]
    · rfl
    · exact hsign
  | negSucc n =>
    rw [toList_toString_negSucc, readIndex, ofDigitChars_toDigits]
    rfl

theorem ne_colon_of_mem_toString (i : Int) :
    ∀ c ∈ (toString i).toList, decide (c ≠ ':') = true := by
  refine fun c h => decide_eq_true ?_
  rintro rfl
  cases i with
  | ofNat n =>
    rw [toList_toString_ofNat] at h
    exact absurd (isDigit_of_mem_toDigits h) (by decide)
  | negSucc n =>
    rw [toList_toString_negSucc, List.mem_cons] at h
    rcases h with h | h
    · exact absurd h (by decide)
    · exact absurd (isDigit_of_mem_toDigits h) (by decide)

/-- The index before the first colon of a caption. -/
def indexOfCaption (caption : String) : Int := readIndex (caption.toList.takeWhile (· ≠ ':'))

/-- What follows the first colon of a caption and the space after it. -/
def namesOfCaption (caption : String) : List Char :=
  (caption.toList.dropWhile (· ≠ ':')).drop 2

theorem toList_caption (t : Token) :
    t.caption.toList = (toString t.index).toList ++ ':' :: ' ' :: t.captionNames.toList := by
  rw [caption, String.toList_append, String.toList_append, List.append_assoc]
  rfl

/-- **The index is read back from every caption.** -/
theorem indexOfCaption_caption (t : Token) : indexOfCaption t.caption = t.index := by
  rw [indexOfCaption, toList_caption,
    List.takeWhile_append_of_pos (ne_colon_of_mem_toString t.index),
    List.takeWhile_cons_of_neg (by decide), List.append_nil, readIndex_toString]

theorem indexOfCaption_eofCaption : indexOfCaption eofCaption = -1 := by decide

theorem namesOfCaption_caption (t : Token) :
    namesOfCaption t.caption = t.captionNames.toList := by
  rw [namesOfCaption, toList_caption,
    List.dropWhile_append_of_pos (ne_colon_of_mem_toString t.index),
    List.dropWhile_cons_of_neg (by decide)]
  rfl

/-! ## The names -/

/-- The text for a token without a name. -/
def unusedText : List Char := '<' :: "unused>".toList

/-- The text before the literal of a token without a symbolic name. -/
def implicitText : List Char := '<' :: "implicit token> (".toList

theorem implicitText_append_ne (rest : List Char) : implicitText ++ rest ≠ unusedText := by
  intro h
  have htail : "implicit token> (".toList ++ rest = "unused>".toList := (List.cons.inj h).2
  have hhead : ("implicit token> (".toList ++ rest).head? = some 'i' := by
    rw [List.head?_append]
    simp
  rw [htail] at hhead
  exact absurd hhead (by decide)

/-- The literal and the symbolic name that a text after the index shows. -/
def readNames (names : List Char) : Option String × Option String :=
  let literal (rest : List Char) : String := String.ofList rest.dropLast
  if names = unusedText then (none, none)
  else if names.head? = some '<' then (some (literal (names.drop implicitText.length)), none)
  else
    let rest := names.dropWhile (· ≠ ' ')
    (if rest = [] then none else some (literal (rest.drop 2)),
      some (String.ofList (names.takeWhile (· ≠ ' '))))

/-- A symbolic name, if there is one, has no space and no `<`. -/
def IsPlain (t : Token) : Prop := ∀ name ∈ t.symbolic, ' ' ∉ name.toList ∧ '<' ∉ name.toList

/-- The text after the index, by the names that there are. -/
theorem toList_captionNames (t : Token) :
    t.captionNames.toList = match t.symbolic, t.literal with
      | none, none => unusedText
      | none, some literal => implicitText ++ (literal.toList ++ [')'])
      | some symbolic, none => symbolic.toList
      | some symbolic, some literal =>
        symbolic.toList ++ ' ' :: '(' :: (literal.toList ++ [')']) := by
  obtain ⟨index, literal, symbolic⟩ := t
  cases symbolic with
  | none => cases literal <;> simp [captionNames, isUnused, unusedText, implicitText]
  | some s => cases literal <;> simp [captionNames, isUnused]

/-- A text that goes on after a symbolic name with a space, or not at all, shows that name. -/
theorem readNames_symbolic {name : String} (hspace : ' ' ∉ name.toList) (hless : '<' ∉ name.toList)
    (rest : List Char) (hrest : rest.head?.all (· = ' ')) :
    readNames (name.toList ++ rest) =
      (if rest = [] then none else some (String.ofList (rest.drop 2).dropLast), some name) := by
  have hhead : (name.toList ++ rest).head? ≠ some '<' := by
    intro h
    rw [List.head?_append] at h
    cases hname : name.toList with
    | nil =>
      rw [hname] at h
      rw [show rest.head? = some '<' from h] at hrest
      exact absurd hrest (by decide)
    | cons c cs =>
      rw [hname] at h hless
      exact hless (Option.some.inj h ▸ List.mem_cons_self)
  have hunused : name.toList ++ rest ≠ unusedText := fun h => hhead (by rw [h]; rfl)
  have hall : ∀ c ∈ name.toList, decide (c ≠ ' ') = true := fun c hc =>
    decide_eq_true fun heq => hspace (heq ▸ hc)
  have htake : rest.takeWhile (· ≠ ' ') = [] ∧ rest.dropWhile (· ≠ ' ') = rest := by
    cases rest with
    | nil => exact ⟨rfl, rfl⟩
    | cons c cs =>
      obtain rfl : c = ' ' := of_decide_eq_true hrest
      exact ⟨List.takeWhile_cons_of_neg (by decide), List.dropWhile_cons_of_neg (by decide)⟩
  simp only [readNames, if_neg hunused, if_neg hhead, List.takeWhile_append_of_pos hall,
    List.dropWhile_append_of_pos hall, htake, List.append_nil, String.ofList_toList]

/-- **The names are read back** from the text after the index. -/
theorem readNames_captionNames {t : Token} (h : t.IsPlain) :
    readNames t.captionNames.toList = (t.literal, t.symbolic) := by
  rw [toList_captionNames]
  obtain ⟨index, literal, symbolic⟩ := t
  cases symbolic with
  | none =>
    cases literal with
    | none => rfl
    | some l =>
      have hhead : (implicitText ++ (l.toList ++ [')'])).head? = some '<' := rfl
      simp only [readNames, if_neg (implicitText_append_ne _), if_pos hhead]
      rw [List.drop_left, List.dropLast_concat, String.ofList_toList]
  | some s =>
    obtain ⟨hspace, hless⟩ := h s rfl
    cases literal with
    | none =>
      have hread := readNames_symbolic hspace hless [] rfl
      rwa [List.append_nil] at hread
    | some l =>
      simp only
      rw [readNames_symbolic hspace hless _ rfl, if_neg (List.cons_ne_nil _ _)]
      simp

/-- The token that a caption shows. -/
def ofCaption (caption : String) : Token :=
  let names := readNames (namesOfCaption caption)
  ⟨indexOfCaption caption, names.1, names.2⟩

/-- **A token is read back from its caption** if its symbolic name is plain, or missing. -/
theorem ofCaption_caption {t : Token} (h : t.IsPlain) : ofCaption t.caption = t := by
  simp only [ofCaption, indexOfCaption_caption, namesOfCaption_caption, readNames_captionNames h]

/-- A literal may hold anything, the words for a missing name as well. -/
example : ofCaption "7: <implicit token> ((<unused>: ')" = ⟨7, some "(<unused>: '", none⟩ := by
  decide

end TokenOutline.Token
