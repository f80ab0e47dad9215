import TokenOutline.Text.Utf8

/-!
# Reading octets as text

The octets of a scalar value are told by their number and the bounds on the first two of them
(`Scalar`). A reader that goes by the first octet finds exactly these, so that what was written is
read and what is read was written. Octets that are no scalar value are cut off as one broken piece,
as long as a scalar value could still have begun with them; read lossily, every broken piece is one
`U+FFFD`.

Headlines:
* **`head_encodeChar`**, **`encodeChar_of_head`**: a scalar value is read from the octets that it is
  written as, and from no others.
* **`broken_of_head`**, **`head_of_broken`**: where no scalar value is read, a broken piece (`Broken`)
  is cut off.
* **`decodeLossy_eq_iff`**: the text that octets show (`Shows`) is the one that is read lossily.
* `Shows.eq_encode`: a text without `U+FFFD` is shown by its own octets alone.
-/

namespace TokenOutline.Utf8

variable {b : UInt8} {p bs rest : List UInt8} {c : Char} {cs : List Char} {n v : Nat}

/-! ## The octets of a scalar value -/

/-- An octet that may follow another one. -/
def Tail (b : UInt8) : Prop := 0x80 ≤ b.toNat ∧ b.toNat ≤ 0xBF

/-- The octets of a scalar value, with its code. The bounds on the second octet rule out what fewer
octets could write, surrogates, and codes that are too large. -/
inductive Scalar : List UInt8 → Nat → Prop where
  | one {b : UInt8} (hb : b.toNat < 0x80) : Scalar [b] b.toNat
  | two {b x : UInt8} (hb : 0xC2 ≤ b.toNat ∧ b.toNat < 0xE0) (hx : Tail x) :
    Scalar [b, x] ((b.toNat - 0xC0) * 64 + (x.toNat - 0x80))
  | three {b x y : UInt8} (hb : 0xE0 ≤ b.toNat ∧ b.toNat < 0xF0)
      (hx : Tail x ∧ (b.toNat = 0xE0 → 0xA0 ≤ x.toNat) ∧ (b.toNat = 0xED → x.toNat ≤ 0x9F))
      (hy : Tail y) :
    Scalar [b, x, y] (((b.toNat - 0xE0) * 64 + (x.toNat - 0x80)) * 64 + (y.toNat - 0x80))
  | four {b x y z : UInt8} (hb : 0xF0 ≤ b.toNat ∧ b.toNat < 0xF5)
      (hx : Tail x ∧ (b.toNat = 0xF0 → 0x90 ≤ x.toNat) ∧ (b.toNat = 0xF4 → x.toNat ≤ 0x8F))
      (hy : Tail y) (hz : Tail z) :
    Scalar [b, x, y, z] ((((b.toNat - 0xF0) * 64 + (x.toNat - 0x80)) * 64 + (y.toNat - 0x80)) * 64 +
      (z.toNat - 0x80))

theorem toNat_val_ofNat (h : v.isValidChar) : (Char.ofNat v).val.toNat = v := by
  rw [Char.ofNat, dif_pos h]
  rfl

/-- A code is written as its octets. -/
theorem Scalar.encodeChar (h : Scalar p v) : String.utf8EncodeChar (Char.ofNat v) = p := by
  cases h with
  | @one b hb =>
    have hvalid : b.toNat.isValidChar := by
      simp only [Nat.isValidChar]
      omega
    rw [String.utf8EncodeChar, toNat_val_ofNat hvalid, if_pos (by omega), UInt8.ofNat_toNat]
  | @two b x hb hx =>
    simp only [Tail] at hx
    rw [String.utf8EncodeChar, toNat_val_ofNat (by simp only [Nat.isValidChar]; omega),
      if_neg (by omega), if_pos (by omega)]
    simp only [List.cons.injEq, ← UInt8.toNat_inj, UInt8.toNat_ofNat', and_true]
    omega
  | @three b x y hb hx hy =>
    simp only [Tail] at hx hy
    rw [String.utf8EncodeChar, toNat_val_ofNat (by simp only [Nat.isValidChar]; omega),
      if_neg (by omega), if_neg (by omega), if_pos (by omega)]
    simp only [List.cons.injEq, ← UInt8.toNat_inj, UInt8.toNat_ofNat', and_true]
    omega
  | @four b x y z hb hx hy hz =>
    simp only [Tail] at hx hy hz
    have hoctet := b.toNat_lt
    rw [String.utf8EncodeChar, toNat_val_ofNat (by simp only [Nat.isValidChar]; omega),
      if_neg (by omega), if_neg (by omega), if_neg (by omega)]
    simp only [List.cons.injEq, ← UInt8.toNat_inj, UInt8.toNat_ofNat', and_true]
    omega

/-- What a scalar value is written as are its octets. -/
theorem scalar_encodeChar (c : Char) : Scalar (String.utf8EncodeChar c) c.val.toNat := by
  have hvalid : c.val.toNat.isValidChar := c.valid
  have hcode : ∀ {q : List UInt8} {w : Nat}, Scalar q w → w = c.val.toNat → Scalar q c.val.toNat :=
    fun h hw => hw ▸ h
  simp only [Nat.isValidChar] at hvalid
  rw [String.utf8EncodeChar]
  split
  next =>
    refine hcode (.one ?_) ?_
    all_goals
      simp only [UInt8.toNat_ofNat']
      omega
  split
  next =>
    refine hcode (.two ?_ ?_) ?_
    all_goals
      simp only [Tail, UInt8.toNat_ofNat']
      omega
  split
  next =>
    refine hcode (.three ?_ ?_ ?_) ?_
    all_goals
      simp only [Tail, UInt8.toNat_ofNat']
      omega
  next =>
    refine hcode (.four ?_ ?_ ?_ ?_) ?_
    all_goals
      simp only [Tail, UInt8.toNat_ofNat']
      omega

/-! ## First octets -/

/-- The table of first octets by the number of octets that follow. -/
theorem lead?_eq (b : UInt8) : lead? b =
    if b.toNat < 0x80 then some (0, 0x80, 0xBF, b.toNat)
    else if b.toNat < 0xC2 then none
    else if b.toNat < 0xE0 then some (1, 0x80, 0xBF, b.toNat - 0xC0)
    else if b.toNat < 0xF0 then some (2, if b.toNat = 0xE0 then 0xA0 else 0x80,
      if b.toNat = 0xED then 0x9F else 0xBF, b.toNat - 0xE0)
    else if b.toNat < 0xF5 then some (3, if b.toNat = 0xF0 then 0x90 else 0x80,
      if b.toNat = 0xF4 then 0x8F else 0xBF, b.toNat - 0xF0)
    else none := by
  simp only [lead?, UInt8.lt_iff_toNat_lt, ← UInt8.toNat_inj, UInt8.reduceToNat]
  grind

/-- The bounds on a second octet are those of a following one, but for two first octets. -/
theorem second_iff {b x low high : UInt8} {first last : Nat} (hlow : 0x80 ≤ low.toNat)
    (hhigh : high.toNat ≤ 0xBF) :
    (if b.toNat = first then low else 0x80).toNat ≤ x.toNat ∧
        x.toNat ≤ (if b.toNat = last then high else 0xBF).toNat ↔
      Tail x ∧ (b.toNat = first → low.toNat ≤ x.toNat) ∧
        (b.toNat = last → x.toNat ≤ high.toNat) := by
  simp only [Tail, apply_ite UInt8.toNat, UInt8.reduceToNat]
  grind

theorem low_le_high {low high : UInt8} {more bits : Nat}
    (h : lead? b = some (more, low, high, bits)) : low ≤ high := by
  rw [lead?_eq] at h
  grind

/-! ## Reading one scalar value -/

/-- One more octet is there, and within the bounds. -/
theorem follow_succ_eq_iff {code more code' : Nat} {low high : UInt8} :
    follow code (more + 1) low high bs = (code', 0) ↔
      ∃ b rest, bs = b :: rest ∧ (low.toNat ≤ b.toNat ∧ b.toNat ≤ high.toNat) ∧
        follow (code * 64 + (b.toNat - 0x80)) more 0x80 0xBF rest = (code', 0) := by
  cases bs with
  | nil => simp [follow]
  | cons b rest =>
    simp only [follow, List.cons.injEq, Bool.and_eq_true, decide_eq_true_eq, UInt8.le_iff_toNat_le]
    constructor
    · intro h
      split at h
      next hb => exact ⟨b, rest, ⟨rfl, rfl⟩, hb, h⟩
      next => cases h
    · rintro ⟨_, _, ⟨rfl, rfl⟩, hb, h⟩
      rwa [if_pos hb]

theorem head_eq_some_iff : head b bs = (some c, n) ↔ ∃ low high bits code,
    lead? b = some (n, low, high, bits) ∧ follow bits n low high bs = (code, 0) ∧
      Char.ofNat code = c := by
  unfold head
  constructor
  · intro h
    split at h
    next => cases h
    next more low high bits hlead =>
      split at h
      next code hfollow =>
        cases h
        exact ⟨low, high, bits, code, hlead, hfollow, rfl⟩
      next => cases h
  · rintro ⟨low, high, bits, code, hlead, hfollow, rfl⟩
    simp only [hlead, hfollow]

/-- The octets of a scalar value are read, whatever stands after them. -/
theorem Scalar.head {t : List UInt8} (h : Scalar (b :: t) v) (rest : List UInt8) :
    head b (t ++ rest) = (some (Char.ofNat v), t.length) := by
  have hlead := lead?_eq b
  cases h with
  | one hb =>
    rw [if_pos hb] at hlead
    exact head_eq_some_iff.mpr ⟨_, _, _, _, hlead, rfl, rfl⟩
  | two hb hx =>
    rw [if_neg (by omega), if_neg (by omega), if_pos hb.2] at hlead
    exact head_eq_some_iff.mpr
      ⟨_, _, _, _, hlead, follow_succ_eq_iff.mpr ⟨_, _, rfl, hx, rfl⟩, rfl⟩
  | three hb hx hy =>
    rw [if_neg (by omega), if_neg (by omega), if_neg (by omega), if_pos hb.2] at hlead
    have hsecond := (@second_iff _ _ 0xA0 0x9F 0xE0 0xED (by decide) (by decide)).mpr hx
    exact head_eq_some_iff.mpr
      ⟨_, _, _, _, hlead, follow_succ_eq_iff.mpr ⟨_, _, rfl, hsecond,
        follow_succ_eq_iff.mpr ⟨_, _, rfl, hy, rfl⟩⟩, rfl⟩
  | four hb hx hy hz =>
    rw [if_neg (by omega), if_neg (by omega), if_neg (by omega), if_neg (by omega),
      if_pos hb.2] at hlead
    have hsecond := (@second_iff _ _ 0x90 0x8F 0xF0 0xF4 (by decide) (by decide)).mpr hx
    exact head_eq_some_iff.mpr
      ⟨_, _, _, _, hlead, follow_succ_eq_iff.mpr ⟨_, _, rfl, hsecond,
        follow_succ_eq_iff.mpr ⟨_, _, rfl, hy, follow_succ_eq_iff.mpr ⟨_, _, rfl, hz, rfl⟩⟩⟩, rfl⟩

/-- What is read has the octets of a scalar value. -/
theorem exists_scalar_of_head (h : head b bs = (some c, n)) :
    ∃ t rest v, bs = t ++ rest ∧ t.length = n ∧ Scalar (b :: t) v ∧ Char.ofNat v = c := by
  obtain ⟨low, high, bits, code, hlead, hfollow, hcode⟩ := head_eq_some_iff.mp h
  rw [lead?_eq] at hlead
  split at hlead
  next hb =>
    cases hlead
    obtain rfl := (Prod.mk.inj hfollow).1
    exact ⟨[], bs, _, rfl, rfl, .one hb, hcode⟩
  split at hlead
  next => cases hlead
  split at hlead
  next hlow hb =>
    cases hlead
    obtain ⟨x, rest, rfl, hx, hfollow⟩ := follow_succ_eq_iff.mp hfollow
    obtain rfl := (Prod.mk.inj hfollow).1
    exact ⟨[x], rest, _, rfl, rfl, .two ⟨by omega, hb⟩ hx, hcode⟩
  split at hlead
  next hlow hb =>
    cases hlead
    obtain ⟨x, rest, rfl, hx, hfollow⟩ := follow_succ_eq_iff.mp hfollow
    obtain ⟨y, rest, rfl, hy, hfollow⟩ := follow_succ_eq_iff.mp hfollow
    obtain rfl := (Prod.mk.inj hfollow).1
    have hsecond := (second_iff (by decide) (by decide)).mp hx
    exact ⟨[x, y], rest, _, rfl, rfl, .three ⟨by omega, hb⟩ hsecond hy, hcode⟩
  split at hlead
  next hlow hb =>
    cases hlead
    obtain ⟨x, rest, rfl, hx, hfollow⟩ := follow_succ_eq_iff.mp hfollow
    obtain ⟨y, rest, rfl, hy, hfollow⟩ := follow_succ_eq_iff.mp hfollow
    obtain ⟨z, rest, rfl, hz, hfollow⟩ := follow_succ_eq_iff.mp hfollow
    obtain rfl := (Prod.mk.inj hfollow).1
    have hsecond := (second_iff (by decide) (by decide)).mp hx
    exact ⟨[x, y, z], rest, _, rfl, rfl, .four ⟨by omega, hb⟩ hsecond hy hz, hcode⟩
  next => cases hlead

/-- **A scalar value that is written is read**, whatever stands after it. -/
theorem head_encodeChar (c : Char) (rest : List UInt8) :
    ∃ b t, String.utf8EncodeChar c = b :: t ∧ head b (t ++ rest) = (some c, t.length) := by
  have hscalar := scalar_encodeChar c
  obtain ⟨b, t, hcons⟩ := List.exists_cons_of_ne_nil (String.utf8EncodeChar_ne_nil (c := c))
  rw [hcons] at hscalar
  have hhead := hscalar.head rest
  rw [show Char.ofNat c.val.toNat = c from Char.ofNat_toNat c] at hhead
  exact ⟨b, t, hcons, hhead⟩

/-- **A scalar value that is read was written.** -/
theorem encodeChar_of_head (h : head b bs = (some c, n)) :
    ∃ t rest, bs = t ++ rest ∧ t.length = n ∧ String.utf8EncodeChar c = b :: t := by
  obtain ⟨t, rest, v, hbs, hlength, hscalar, rfl⟩ := exists_scalar_of_head h
  exact ⟨t, rest, hbs, hlength, hscalar.encodeChar⟩

theorem head_of_encodeChar_append (c : Char) (r : List UInt8) {s : List UInt8}
    (h : String.utf8EncodeChar c ++ r = b :: s) : ∃ n, head b s = (some c, n) := by
  obtain ⟨b', t, hc, hhead⟩ := head_encodeChar c r
  rw [hc, List.cons_append, List.cons.injEq] at h
  obtain ⟨rfl, rfl⟩ := h
  exact ⟨_, hhead⟩

/-- No scalar value is written as the beginning of another one. -/
theorem eq_of_isPrefix_encodeChar {c d : Char}
    (h : String.utf8EncodeChar c <+: String.utf8EncodeChar d) : c = d := by
  obtain ⟨r, hr⟩ := h
  obtain ⟨b, t, hd, hhead⟩ := head_encodeChar d []
  obtain ⟨k, hsome⟩ := head_of_encodeChar_append c r (hr.trans hd)
  rw [List.append_nil, hsome] at hhead
  exact Option.some.inj (Prod.mk.inj hhead).1

/-! ## Broken pieces -/

/-- A scalar value could begin with the octets. -/
def Begins (p : List UInt8) : Prop := ∃ c, p <+: String.utf8EncodeChar c

theorem Begins.mono {p q : List UInt8} (h : Begins q) (hp : p <+: q) : Begins p := by
  obtain ⟨c, hq⟩ := h
  exact ⟨c, hp.trans hq⟩

/-- A broken piece before other octets: it is as long as it could still have been the beginning of
a scalar value, and at least one octet. -/
structure Broken (p rest : List UInt8) : Prop where
  ne_nil : p ≠ []
  ne_encodeChar : ∀ c, String.utf8EncodeChar c ≠ p
  begins : Begins p ∨ p.length = 1
  longest : ∀ x ∈ rest.head?, ¬Begins (p ++ [x])

/-- Octets within the bounds can be completed. -/
theorem exists_follow (code more : Nat) {low high : UInt8} (h : low ≤ high) :
    ∃ fill code', fill.length = more ∧ follow code more low high fill = (code', 0) := by
  induction more generalizing code low high with
  | zero => exact ⟨[], code, rfl, rfl⟩
  | succ more ih =>
    obtain ⟨fill, code', hlength, hfollow⟩ :=
      @ih (code * 64 + (low.toNat - 0x80)) 0x80 0xBF (by decide)
    exact ⟨low :: fill, code', congrArg (· + 1) hlength, follow_succ_eq_iff.mpr
      ⟨low, fill, rfl, ⟨Nat.le_refl _, UInt8.le_iff_toNat_le.mp h⟩, hfollow⟩⟩

/-- Where octets are missing, those before the gap can be completed, and the octet after it, if
there is one, breaks them whatever comes then. -/
theorem follow_broken {code more code' missing : Nat} {low high : UInt8} (hle : low ≤ high)
    (h : follow code more low high bs = (code', missing + 1)) :
    ∃ s rest, bs = s ++ rest ∧ s.length + (missing + 1) = more ∧
      (∃ fill code', fill.length = missing + 1 ∧
        follow code more low high (s ++ fill) = (code', 0)) ∧
      ∀ x ∈ rest.head?, ∀ r, follow code more low high (s ++ x :: r) = (code', missing + 1) := by
  induction more generalizing code low high bs with
  | zero => cases h
  | succ more ih =>
    cases bs with
    | nil =>
      obtain ⟨rfl, rfl⟩ : code = code' ∧ more = missing := by simpa [follow] using h
      exact ⟨[], [], rfl, Nat.zero_add _, exists_follow code (more + 1) hle, nofun⟩
    | cons b bs =>
      by_cases hb : low ≤ b ∧ b ≤ high
      · have hstep : ∀ t, follow code (more + 1) low high (b :: t) =
            follow (code * 64 + (b.toNat - 0x80)) more 0x80 0xBF t := fun t => by
          simp [follow, hb]
        rw [hstep] at h
        obtain ⟨s, rest, rfl, hlength, ⟨fill, code'', hfill, hfollow⟩, hrest⟩ := ih (by decide) h
        exact ⟨b :: s, rest, rfl, by simp only [List.length_cons]; omega,
          ⟨fill, code'', hfill, (hstep _).trans hfollow⟩,
          fun x hx r => (hstep _).trans (hrest x hx r)⟩
      · have hstep : ∀ t, follow code (more + 1) low high (b :: t) = (code, more + 1) := fun t => by
          simp only [follow, Bool.and_eq_true, decide_eq_true_eq, if_neg hb]
        rw [hstep] at h
        obtain ⟨rfl, rfl⟩ : code = code' ∧ more = missing := by simpa using h
        refine ⟨[], b :: bs, rfl, Nat.zero_add _, exists_follow code (more + 1) hle, ?_⟩
        rintro x hx r
        obtain rfl : b = x := Option.some.inj hx
        exact hstep r

theorem head_eq_none_iff : head b bs = (none, n) ↔ (lead? b = none ∧ n = 0) ∨
    ∃ more low high bits code missing, lead? b = some (more, low, high, bits) ∧
      follow bits more low high bs = (code, missing + 1) ∧ more - (missing + 1) = n := by
  unfold head
  constructor
  · intro h
    split at h
    next hlead => exact .inl ⟨hlead, (Prod.mk.inj h).2.symm⟩
    next more low high bits hlead =>
      split at h
      next => cases h
      next code missing hmissing hfollow =>
        obtain ⟨k, rfl⟩ := Nat.exists_eq_succ_of_ne_zero hmissing
        exact .inr ⟨more, low, high, bits, code, k, hlead, hfollow, (Prod.mk.inj h).2⟩
  · rintro (⟨hlead, rfl⟩ | ⟨more, low, high, bits, code, missing, hlead, hfollow, rfl⟩)
    · rw [hlead]
    · simp only [hlead, hfollow]

/-- Where no scalar value is read, a scalar value could begin with what is cut off, or it is one
octet; and it is cut off whatever stands after the octet that breaks it. -/
theorem exists_of_head_eq_none (h : head b bs = (none, n)) :
    ∃ s rest, bs = s ++ rest ∧ s.length = n ∧ (Begins (b :: s) ∨ s = []) ∧
      ∀ x ∈ rest.head?, ∀ r, head b (s ++ x :: r) = (none, n) := by
  obtain ⟨hlead, rfl⟩ | ⟨more, low, high, bits, code, missing, hlead, hfollow, rfl⟩ :=
    head_eq_none_iff.mp h
  · exact ⟨[], bs, rfl, rfl, .inr rfl, fun x _ r => head_eq_none_iff.mpr (.inl ⟨hlead, rfl⟩)⟩
  · obtain ⟨s, rest, rfl, hlength, ⟨fill, code', hfill, hcomplete⟩, hrest⟩ :=
      follow_broken (low_le_high hlead) hfollow
    refine ⟨s, rest, rfl, by omega, .inl ?_, fun x hx r => ?_⟩
    · have hhead := head_eq_some_iff.mpr ⟨low, high, bits, code', hlead, hcomplete, rfl⟩
      obtain ⟨t, t', ht, htlength, hencode⟩ := encodeChar_of_head hhead
      have hlengths := congrArg List.length ht
      simp only [List.length_append] at hlengths
      obtain rfl : t' = [] := List.length_eq_zero_iff.mp (by omega)
      rw [List.append_nil] at ht
      exact ⟨Char.ofNat code', fill, by rw [hencode, ← ht, List.cons_append]⟩
    · exact head_eq_none_iff.mpr
        (.inr ⟨more, low, high, bits, code, missing, hlead, hrest x hx r, rfl⟩)

/-- **Where no scalar value is read, a broken piece is cut off.** -/
theorem broken_of_head (h : head b bs = (none, n)) :
    ∃ s rest, bs = s ++ rest ∧ s.length = n ∧ Broken (b :: s) rest := by
  obtain ⟨s, rest, rfl, hlength, hbegins, hrest⟩ := exists_of_head_eq_none h
  refine ⟨s, rest, rfl, hlength, List.cons_ne_nil _ _, fun c hc => ?_, ?_, fun x hx => ?_⟩
  · obtain ⟨k, hsome⟩ := head_of_encodeChar_append c rest (hc ▸ List.cons_append)
    rw [h] at hsome
    cases hsome
  · exact hbegins.imp_right fun hs => by rw [hs]; rfl
  · rintro ⟨c, r, hc⟩
    have happend : String.utf8EncodeChar c ++ [] = b :: (s ++ x :: r) := by
      rw [← hc]
      simp
    obtain ⟨k, hsome⟩ := head_of_encodeChar_append c [] happend
    rw [hrest x hx r] at hsome
    cases hsome

theorem Broken.begins_of_cons {q : List UInt8} {x : UInt8} (h : Broken (p ++ x :: q) rest)
    (hp : p ≠ []) : Begins (p ++ x :: q) := by
  refine h.begins.resolve_right fun hlength => hp (List.length_eq_zero_iff.mp ?_)
  simp only [List.length_append, List.length_cons] at hlength
  omega

/-- No broken piece at the head of the same octets is longer than another. -/
theorem Broken.length_le {q rest' : List UInt8} (hp : Broken p rest) (hq : Broken q rest')
    (h : p ++ rest = q ++ rest') : q.length ≤ p.length := by
  obtain ⟨a, rfl, rfl⟩ | ⟨a, rfl, rfl⟩ := List.append_eq_append_iff.mp h
  · cases a with
    | nil => simp
    | cons x a =>
      -- a scalar value could begin with the shorter piece and the octet after it
      refine absurd ((hq.begins_of_cons hp.ne_nil).mono ?_) (hp.longest x rfl)
      exact ⟨a, by simp⟩
  · simp

/-- **A broken piece is cut off as a whole.** -/
theorem head_of_broken {s : List UInt8} (h : Broken (b :: s) rest) :
    head b (s ++ rest) = (none, s.length) := by
  rcases hhead : head b (s ++ rest) with ⟨c?, k⟩
  cases c? with
  | none =>
    obtain ⟨s', rest', heq, rfl, hbroken⟩ := broken_of_head hhead
    have hconcat : b :: s ++ rest = b :: s' ++ rest' := congrArg (b :: ·) heq
    have hle := h.length_le hbroken hconcat
    have hge := hbroken.length_le h hconcat.symm
    simp only [List.length_cons] at hle hge
    rw [show s'.length = s.length by omega]
  | some c =>
    exfalso
    obtain ⟨t, rest', heq, rfl, hencode⟩ := encodeChar_of_head hhead
    -- of the broken piece and the scalar value that is read, one is the beginning of the other
    obtain ⟨a, rfl, rfl⟩ | ⟨a, rfl, rfl⟩ := List.append_eq_append_iff.mp heq
    · cases a with
      | nil => exact h.ne_encodeChar c (by rw [hencode, List.append_nil])
      | cons x a => exact h.longest x rfl ⟨c, a, by simp [hencode]⟩
    · cases a with
      | nil => exact h.ne_encodeChar c (by rw [hencode, List.append_nil])
      | cons x a =>
        obtain ⟨d, hd⟩ := h.begins_of_cons (p := b :: t) (List.cons_ne_nil _ _)
        obtain rfl : c = d :=
          eq_of_isPrefix_encodeChar (hencode ▸ (List.prefix_append _ _).trans hd)
        have hlength := hd.length_le
        simp only [hencode, List.length_cons, List.length_append] at hlength
        omega

/-! ## Lossy reading -/

/-- The text that octets show: each scalar value as it is, and `U+FFFD` for each broken piece. -/
inductive Shows : List UInt8 → List Char → Prop where
  | nil : Shows [] []
  | char {bs : List UInt8} {cs : List Char} (c : Char) :
    Shows bs cs → Shows (String.utf8EncodeChar c ++ bs) (c :: cs)
  | broken {p bs : List UInt8} {cs : List Char} :
    Broken p bs → Shows bs cs → Shows (p ++ bs) ('\uFFFD' :: cs)

theorem pieces_drop (k : Nat) (bs : List UInt8) : pieces k bs = pieces 0 (bs.drop k) := by
  induction bs generalizing k with
  | nil => cases k <;> rfl
  | cons b bs ih =>
    cases k with
    | zero => rfl
    | succ k => exact ih k

theorem pieces_of_head {s : List UInt8} {c? : Option Char}
    (h : head b (s ++ rest) = (c?, s.length)) :
    pieces 0 (b :: s ++ rest) = c? :: pieces 0 rest := by
  rw [List.cons_append, pieces, h, pieces_drop, List.drop_left]

theorem pieces_encodeChar (c : Char) (bs : List UInt8) :
    pieces 0 (String.utf8EncodeChar c ++ bs) = some c :: pieces 0 bs := by
  obtain ⟨b, t, hc, hhead⟩ := head_encodeChar c bs
  rw [hc, pieces_of_head hhead]

/-- A piece takes at least one octet. -/
theorem length_lt_of_append (b : UInt8) (s rest : List UInt8) :
    rest.length < (b :: (s ++ rest)).length := by
  rw [List.length_cons, List.length_append]
  omega

theorem shows_decodeLossy (bs : List UInt8) : Shows bs (decodeLossy bs) := by
  -- by the number of octets: those behind the first piece are fewer
  induction hlength : bs.length using Nat.strongRecOn generalizing bs with
  | ind k ih =>
    cases bs with
    | nil => exact .nil
    | cons b bs =>
      rcases hhead : head b bs with ⟨c?, n⟩
      cases c? with
      | some c =>
        obtain ⟨t, rest, rfl, rfl, hencode⟩ := encodeChar_of_head hhead
        rw [decodeLossy, ← List.cons_append, pieces_of_head hhead, ← hencode]
        exact .char c (ih _ (hlength ▸ length_lt_of_append b t rest) _ rfl)
      | none =>
        obtain ⟨s, rest, rfl, rfl, hbroken⟩ := broken_of_head hhead
        rw [decodeLossy, ← List.cons_append, pieces_of_head hhead]
        exact .broken hbroken (ih _ (hlength ▸ length_lt_of_append b s rest) _ rfl)

theorem Shows.decodeLossy_eq (h : Shows bs cs) : decodeLossy bs = cs := by
  induction h with
  | nil => rfl
  | char c _ ih =>
    rw [decodeLossy, pieces_encodeChar, ← ih]
    rfl
  | broken hbroken _ ih =>
    obtain ⟨b, s, rfl⟩ := List.exists_cons_of_ne_nil hbroken.ne_nil
    rw [decodeLossy, pieces_of_head (head_of_broken hbroken), ← ih]
    rfl

/-- **What is read lossily is the text that the octets show.** -/
theorem decodeLossy_eq_iff : decodeLossy bs = cs ↔ Shows bs cs :=
  ⟨fun h => h ▸ shows_decodeLossy bs, Shows.decodeLossy_eq⟩

/-- Octets show one text. -/
theorem Shows.unique {ds : List Char} (h : Shows bs cs) (h' : Shows bs ds) : cs = ds :=
  h.decodeLossy_eq.symm.trans h'.decodeLossy_eq

/-- The octets are those of a text. -/
def IsText (bs : List UInt8) : Prop := ∃ cs, bs = encode cs

/-- The octets of a text show it. -/
theorem shows_encode (cs : List Char) : Shows (encode cs) cs := by
  induction cs with
  | nil => exact .nil
  | cons c cs ih => exact .char c ih

/-- Octets of texts that show the same are the same. -/
theorem IsText.eq_of_shows {bs' : List UInt8} (h : IsText bs) (h' : IsText bs') (hcs : Shows bs cs)
    (hcs' : Shows bs' cs) : bs = bs' := by
  obtain ⟨ds, rfl⟩ := h
  obtain ⟨ds', rfl⟩ := h'
  rw [(shows_encode ds).unique hcs, (shows_encode ds').unique hcs']

/-- A text without `U+FFFD` is shown by no octets but its own. -/
theorem Shows.eq_encode (h : Shows bs cs) (hcs : '\uFFFD' ∉ cs) : bs = encode cs := by
  induction h with
  | nil => rfl
  | char c _ ih => rw [encode, List.flatMap_cons, ← encode, ← ih (mt (List.mem_cons_of_mem _) hcs)]
  | broken => exact absurd List.mem_cons_self hcs

end TokenOutline.Utf8
