import TokenOutline.Decode.Record

/-!
# Values that read back

What is read from the value that something was written as is that thing again. For a record written
as an object this is a matter of its fields, taken one by one.

Headlines:
* `Decoder.nullable_ofOption`, `Decoder.list_map`: what may be missing, and lists.
* `Record.Reads`: what a record is in an object of some members.
* **`Record.Reads.field`**, **`Record.Reads.decode`**: such an object is read field by field.
* `Record.ofMembers_of_decode`, `Record.ofMembers_field`: and whatever was read was read so.
-/

namespace TokenOutline

/-! ## Scalars and lists -/

namespace Decoder

variable {d : Decoder α} {encode : α → Json}

@[simp] theorem word32_ofNat (n : UInt32) : word32 (.ofNat n.toNat) = .ok n := by
  have hbounds : (0 : Int) ≤ n.toNat ∧ (n.toNat : Int) ≤ 4294967295 := by
    have hlt := n.toNat_lt
    omega
  simp [word32, integer, Json.ofNat, hbounds, Except.map]

theorem eq_ofNat_of_word32 {v : Json} {n : UInt32} (h : word32 v = .ok n) :
    v = .ofNat n.toNat := by
  cases v with
  | number x =>
    cases x with
    | integer i =>
      rw [word32, integer] at h
      split at h
      next hbounds =>
        obtain rfl := Except.ok.inj h
        have hsmall : i.toNat < 2 ^ 32 := by omega
        rw [UInt32.toNat_ofNat_of_lt' hsmall, Json.ofNat, Int.toNat_of_nonneg hbounds.1]
      next => cases h
    | real bits => cases h
  | _ => cases h

@[simp] theorem word8_ofNat (n : UInt8) : word8 (.ofNat n.toNat) = .ok n := by
  have hbounds : (0 : Int) ≤ n.toNat ∧ (n.toNat : Int) ≤ 255 := by
    have hlt := n.toNat_lt
    omega
  simp [word8, integer, Json.ofNat, hbounds, Except.map]

theorem url_text {u : Url} (h : Url.parse u.text = .ok u) : url (.string u.text) = .ok u := by
  simp only [url, h]

theorem nullable_of_ne_null (d : Decoder α) {v : Json} (hv : v ≠ .null) :
    nullable d v = (d v).map some := by
  unfold nullable
  split
  · exact absurd rfl hv
  · rfl

/-- What may be missing reads back if whatever is there does, and is not written as null. -/
theorem nullable_ofOption {a : Option α} (hnull : ∀ x, encode x ≠ .null)
    (h : ∀ x ∈ a, d (encode x) = .ok x) : nullable d (.ofOption encode a) = .ok a := by
  cases a with
  | none => rfl
  | some x =>
    rw [Json.ofOption, nullable_of_ne_null d (hnull x), h x rfl]
    rfl

/-- A list reads back if its elements do. -/
theorem list_map {as : List α} (h : ∀ a ∈ as, d (encode a) = .ok a) :
    list d (.array (as.map encode)) = .ok as := by
  change (as.map encode).mapM d = .ok as
  induction as with
  | nil => rfl
  | cons a as ih =>
    rw [List.forall_mem_cons] at h
    rw [List.map_cons, List.mapM_cons, h.1, ih h.2]
    rfl

theorem list_json (vs : List Json) : list json (.array vs) = .ok vs := by
  have hall : ∀ v ∈ vs, json (id v) = .ok v := fun _ _ => rfl
  have h := list_map hall
  rwa [List.map_id] at h

end Decoder

/-! ## Records -/

namespace Field

variable {f : Field α} {ms : List (String × Json)}

theorem ofMembers_of_lookup {v : Json} (h : ms.lookup f.name = some v) :
    f.ofMembers ms = f.read v := by
  simp only [ofMembers, h]

theorem ofMembers_required {d : Decoder α} {name : String} {v : Json}
    (h : ms.lookup name = some v) : (required name d).ofMembers ms = d v := by
  rw [ofMembers_of_lookup h, required]

theorem ofMembers_of_absent {a : α} (h : ms.lookup f.name = none) (ha : f.absent = some a) :
    f.ofMembers ms = .ok a := by
  simp only [ofMembers, h, ha]

end Field

/-- In an object with the given members, of which no two have one name, the record is `a`. -/
structure Record.Reads (r : Record α) (ms : List (String × Json)) (a : α) : Prop where
  distinct : (ms.map Prod.fst).Nodup
  /-- No member is refused. -/
  checked : ∀ m ∈ ms, r.check m.1 m.2 = .ok ()
  made : r.ofMembers ms = .ok a

namespace Record

variable {ms : List (String × Json)}

theorem lookup_of_mem (hdistinct : (ms.map Prod.fst).Nodup) {m : String × Json} (hm : m ∈ ms) :
    ms.lookup m.1 = some m.2 := by
  induction ms with
  | nil => exact absurd hm List.not_mem_nil
  | cons x ms ih =>
    obtain ⟨name, v⟩ := x
    rw [List.map_cons, List.nodup_cons] at hdistinct
    rcases List.mem_cons.mp hm with rfl | hm
    · exact List.lookup_cons_self
    · have hne : m.1 ≠ name := fun heq => hdistinct.1 (List.mem_map.mpr ⟨m, hm, heq⟩)
      rw [List.lookup_cons, beq_false_of_ne hne]
      exact ih hdistinct.2 hm

theorem ofMembers_field_of {r : Record (α → β)} {make : α → β} {f : Field α} {a : α}
    (hr : r.ofMembers ms = .ok make) (hf : f.ofMembers ms = .ok a) :
    (r.field f).ofMembers ms = .ok (make a) := by
  simp only [Record.field, hr, hf]
  rfl

theorem Reads.of (make : α) (hdistinct : (ms.map Prod.fst).Nodup) : (Record.of make).Reads ms make :=
  ⟨hdistinct, fun _ _ => rfl, rfl⟩

/-- **One more field**: the record is made of the value that the field has in the object. -/
theorem Reads.field {r : Record (α → β)} {make : α → β} {f : Field α} {a : α}
    (hr : r.Reads ms make) (hf : f.ofMembers ms = .ok a) : (r.field f).Reads ms (make a) where
  distinct := hr.distinct
  checked m hm := by
    by_cases hname : m.1 = f.name
    · have hlookup := lookup_of_mem hr.distinct hm
      rw [hname] at hlookup
      rw [Field.ofMembers_of_lookup hlookup] at hf
      simp [Record.field, hname, hf, Except.map]
    · simp only [Record.field, if_neg hname]
      exact hr.checked m hm
  made := ofMembers_field_of hr.made hf

theorem check_field_eq_ok_iff {r : Record (α → β)} {f : Field α} {name : String} {v : Json} :
    (r.field f).check name v = .ok () ↔
      if name = f.name then ∃ a, f.read v = .ok a else r.check name v = .ok () := by
  simp only [Record.field]
  split
  · cases f.read v <;> simp [Except.map]
  · rfl

theorem checkAll_eq_ok_iff {r : Record α} :
    r.checkAll ms = .ok () ↔ ∀ m ∈ ms, r.check m.1 m.2 = .ok () := by
  induction ms with
  | nil => simp [checkAll]
  | cons m ms ih =>
    rw [List.forall_mem_cons, checkAll]
    cases r.check m.1 m.2 with
    | ok _ => simp [ih]
    | error e => simp

/-- **An object is read as the record that its fields give.** -/
theorem Reads.decode {r : Record α} {a : α} (h : r.Reads ms a) (title : String) :
    r.decode title (.object ms) = .ok a := by
  rw [Record.decode, checkAll_eq_ok_iff.mpr h.checked]
  exact h.made

/-! ## What has been read -/

/-- An object is read iff no member is refused and the record is made. -/
theorem decode_object_eq_ok_iff {r : Record α} {title : String} {a : α} :
    r.decode title (.object ms) = .ok a ↔
      (∀ m ∈ ms, r.check m.1 m.2 = .ok ()) ∧ r.ofMembers ms = .ok a := by
  rw [decode, ← checkAll_eq_ok_iff]
  cases r.checkAll ms with
  | ok _ => exact ⟨fun h => ⟨rfl, h⟩, fun h => h.2⟩
  | error e => exact ⟨nofun, nofun⟩

theorem ofMembers_of_decode {r : Record α} {title : String} {a : α}
    (h : r.decode title (.object ms) = .ok a) : r.ofMembers ms = .ok a :=
  (decode_object_eq_ok_iff.mp h).2

/-- A record that was made was made of what its last field read. -/
theorem ofMembers_field {r : Record (α → β)} {f : Field α} {b : β}
    (h : (r.field f).ofMembers ms = .ok b) :
    ∃ make a, r.ofMembers ms = .ok make ∧ f.ofMembers ms = .ok a ∧ make a = b := by
  simp only [field] at h
  cases hmake : r.ofMembers ms with
  | error e =>
    rw [hmake] at h
    cases h
  | ok make =>
    cases ha : f.ofMembers ms with
    | error e =>
      rw [hmake, ha] at h
      cases h
    | ok a =>
      rw [hmake, ha] at h
      exact ⟨make, a, rfl, rfl, Except.ok.inj h⟩

end Record

end TokenOutline
