import Mathlib.Data.List.Nodup
import Mathlib.Logic.Relation
import TokenOutline.Proofs.Decode.Record

/-!
# What does not count in a value

An object may have members that name no field of the record it is read as, and a field that may be
null may be left out of it. A format says what the fields of a record are, down to the records
within it; a value is loosened by such a member, or by leaving out such a null, at any depth. Neither
shows in what is read from the value.

Headlines:
* `Format`, `Format.Loosens`: the fields of a record, and what may be done to a value.
* `Record.Respects`: a record has the fields of a format and no others.
* **`Record.Respects.decode`**, **`Format.Respects.of_loosened`**: however a value is loosened, it is
  read as before, or refused as before.
-/

namespace TokenOutline

/-- What the fields of a record are. -/
inductive Format where
  /-- A value that is read as a whole. -/
  | whole
  /-- A value that may be null. -/
  | nullable (format : Format)
  /-- A record, by its fields in the order of their declaration. -/
  | record (fields : List (String × Format))

namespace Format

/-- Something is done to a value that does not count: to the object or array that a record is, or to
one within it. -/
inductive Loosens : Format → Json → Json → Prop where
  /-- A member is added that has the name of no field. -/
  | adds {fields : List (String × Format)} {before after : List (String × Json)} {name : String}
      (v : Json) (hname : name ∉ fields.map Prod.fst) :
      Loosens (.record fields) (.object (before ++ after))
        (.object (before ++ (name, v) :: after))
  /-- A null is left out, where a field may be null. -/
  | leavesOut {fields : List (String × Format)} {before after : List (String × Json)}
      {name : String} {f : Format} (hfield : (name, .nullable f) ∈ fields)
      (honly : name ∉ (before ++ after).map Prod.fst) :
      Loosens (.record fields) (.object (before ++ (name, .null) :: after))
        (.object (before ++ after))
  /-- The value of a field is loosened in an object. -/
  | member {fields : List (String × Format)} {before after : List (String × Json)} {name : String}
      {f : Format} {v w : Json} (hfield : (name, f) ∈ fields) (h : Loosens f v w) :
      Loosens (.record fields) (.object (before ++ (name, v) :: after))
        (.object (before ++ (name, w) :: after))
  /-- The value of a field is loosened in an array. -/
  | element {fields : List (String × Format)} {es : List Json} {i : Nat} {name : String}
      {f : Format} {v w : Json} (hfield : fields[i]? = some (name, f)) (hv : es[i]? = some v)
      (h : Loosens f v w) :
      Loosens (.record fields) (.array es) (.array (es.set i w))
  /-- A value that might be null is loosened. -/
  | present {f : Format} {v w : Json} (h : Loosens f v w) : Loosens (.nullable f) v w

variable {f : Format} {v w : Json}

theorem Loosens.ne_null (h : f.Loosens v w) : v ≠ .null ∧ w ≠ .null := by
  induction h with
  | present _ ih => exact ih
  | _ => exact ⟨nofun, nofun⟩

/-- What a decoder reads does not change when a value of the format is loosened. -/
def Respects (f : Format) (d : Decoder α) : Prop := ∀ v w, f.Loosens v w → d w = d v

theorem respects_whole (d : Decoder α) : whole.Respects d := fun _ _ => nofun

theorem Respects.nullable {d : Decoder α} (h : f.Respects d) :
    (nullable f).Respects (.nullable d) := by
  rintro v w (_ | _ | _ | _ | hvw)
  obtain ⟨hv, hw⟩ := hvw.ne_null
  rw [Decoder.nullable_of_ne_null d hv, Decoder.nullable_of_ne_null d hw, h v w hvw]

/-- However often a value is loosened, it is read as before. -/
theorem Respects.of_loosened {d : Decoder α} (h : f.Respects d)
    (hs : Relation.ReflTransGen f.Loosens v w) : d w = d v := by
  induction hs with
  | refl => rfl
  | tail _ hstep ih => rw [h _ _ hstep, ih]

/-- Members that name no field are added to an object one by one. -/
theorem loosens_filter {fields : List (String × Format)} (keep : String × Json → Bool)
    (before ms : List (String × Json))
    (h : ∀ m ∈ ms, keep m = false → m.1 ∉ fields.map Prod.fst) :
    Relation.ReflTransGen (record fields).Loosens (.object (before ++ ms.filter keep))
      (.object (before ++ ms)) := by
  induction ms generalizing before with
  | nil => exact .refl
  | cons m ms ih =>
    rw [List.forall_mem_cons] at h
    cases hm : keep m with
    | true =>
      rw [List.filter_cons_of_pos hm]
      have hrest := ih (before ++ [m]) h.2
      rwa [List.append_assoc, List.append_assoc] at hrest
    | false =>
      rw [List.filter_cons_of_neg (by simp [hm])]
      exact (ih before h.2).tail (.adds m.2 (h.1 hm))

/-- **Members that name no field do not count.** -/
theorem Respects.filter {fields : List (String × Format)} {d : Decoder α}
    (hd : (record fields).Respects d) (keep : String × Json → Bool) {ms : List (String × Json)}
    (h : ∀ m ∈ ms, keep m = false → m.1 ∉ fields.map Prod.fst) :
    d (.object ms) = d (.object (ms.filter keep)) :=
  hd.of_loosened (loosens_filter keep [] ms h)

/-! ## What a field finds -/

/-- A value is still there, and if anything was done to it then it was loosened. -/
inductive Kept (f : Format) : Option Json → Option Json → Prop where
  | same (v : Option Json) : Kept f v v
  | loosened {v w : Json} (h : f.Loosens v w) : Kept f (some v) (some w)

/-- What a field finds in an object before and after something was done to the object. -/
inductive Found : Format → Option Json → Option Json → Prop where
  | kept {f : Format} {v w : Option Json} (h : f.Kept v w) : Found f v w
  | leftOut (f : Format) : Found (.nullable f) (some .null) none

theorem Kept.set {es : List Json} {i : Nat} (hv : es[i]? = some v) (h : f.Loosens v w) :
    f.Kept es[i]? (es.set i w)[i]? := by
  have hw : (es.set i w)[i]? = some w :=
    List.getElem?_set_self (List.getElem?_eq_some_iff.mp hv).1
  rw [hv, hw]
  exact .loosened h

end Format

/-! ## Fields -/

/-- A field is of a format: what does not count there does not show in the field, and if it may be
null it may be left out. -/
structure Field.Respects (fd : Field α) (f : Format) : Prop where
  read : f.Respects fd.read
  null : ∀ g, f = .nullable g → ∃ a, fd.absent = some a ∧ fd.read .null = .ok a

namespace Field

variable {f : Format} {d : Decoder α} {fd : Field α}

theorem respects_whole (fd : Field α) : fd.Respects .whole :=
  ⟨Format.respects_whole fd.read, nofun⟩

theorem respects_required (name : String) {fields : List (String × Format)}
    (h : (Format.record fields).Respects d) : (required name d).Respects (.record fields) :=
  ⟨h, nofun⟩

theorem respects_optional (name : String) (h : f.Respects d) :
    (optional name d).Respects (.nullable f) :=
  ⟨h.nullable, fun _ _ => ⟨none, rfl, rfl⟩⟩

theorem respects_defaulted (name : String) (h : f.Respects d) :
    (defaulted name (.nullable d) none).Respects (.nullable f) :=
  ⟨h.nullable, fun _ _ => ⟨none, rfl, rfl⟩⟩

theorem Respects.ofMembers (h : fd.Respects f) {ms ms' : List (String × Json)}
    (hfound : f.Found (ms.lookup fd.name) (ms'.lookup fd.name)) :
    fd.ofMembers ms' = fd.ofMembers ms := by
  unfold Field.ofMembers
  generalize ms.lookup fd.name = v at hfound
  generalize ms'.lookup fd.name = w at hfound
  cases hfound with
  | kept hkept =>
    cases hkept with
    | same => rfl
    | loosened hvw => exact h.read _ _ hvw
  | leftOut g =>
    obtain ⟨a, habsent, hnull⟩ := h.null g rfl
    simp only [habsent, hnull]

theorem Respects.ofElements (h : fd.Respects f) {es es' : List Json} {i : Nat} (e : DecodeError)
    (hkept : f.Kept es[i]? es'[i]?) : fd.ofElements es' i e = fd.ofElements es i e := by
  unfold Field.ofElements
  generalize es[i]? = v at hkept
  generalize es'[i]? = w at hkept
  cases hkept with
  | same => rfl
  | loosened hvw => exact h.read _ _ hvw

end Field

/-! ## Records -/

namespace Record

/-- A record has the fields of a format, and no others. -/
structure Respects (r : Record α) (fields : List (String × Format)) : Prop where
  distinct : (fields.map Prod.fst).Nodup
  arity : r.arity = fields.length
  other : ∀ name v, name ∉ fields.map Prod.fst → r.check name v = .ok ()
  checks : ∀ x ∈ fields, ∀ v w, x.2.Loosens v w → r.check x.1 w = r.check x.1 v
  null : ∀ name f, (name, .nullable f) ∈ fields → r.check name .null = .ok ()
  ofMembers : ∀ ms ms' : List (String × Json),
    (∀ x ∈ fields, x.2.Found (ms.lookup x.1) (ms'.lookup x.1)) → r.ofMembers ms' = r.ofMembers ms
  ofElements : ∀ tooShort, ∀ es es' : List Json,
    (∀ (i : Nat) (x : String × Format), fields[i]? = some x → x.2.Kept es[i]? es'[i]?) →
      r.ofElements tooShort es' = r.ofElements tooShort es

variable {fields : List (String × Format)}

theorem Respects.of (make : α) : (Record.of make).Respects [] where
  distinct := List.nodup_nil
  arity := rfl
  other _ _ _ := rfl
  checks _ hx := absurd hx List.not_mem_nil
  null _ _ hx := absurd hx List.not_mem_nil
  ofMembers _ _ _ := rfl
  ofElements _ _ _ _ := rfl

theorem Respects.concat {r : Record (α → β)} {fd : Field α} {f : Format} (hr : r.Respects fields)
    (hf : fd.Respects f) (hnew : fd.name ∉ fields.map Prod.fst) :
    (r.field fd).Respects (fields ++ [(fd.name, f)]) where
  distinct := by
    rw [List.map_append, List.nodup_append]
    refine ⟨hr.distinct, List.nodup_singleton _, fun a ha b hb heq => ?_⟩
    rw [heq, List.mem_singleton.mp hb] at ha
    exact hnew ha
  arity := by simp [Record.field, hr.arity]
  other name v hname := by
    rw [List.map_append, List.mem_append, not_or] at hname
    have hne : name ≠ fd.name := by simpa using hname.2
    simp only [Record.field, if_neg hne]
    exact hr.other name v hname.1
  checks x hx v w hvw := by
    rcases List.mem_append.mp hx with hx | hx
    · have hne : x.1 ≠ fd.name := fun heq => hnew (heq ▸ List.mem_map_of_mem hx)
      simp only [Record.field, if_neg hne]
      exact hr.checks x hx v w hvw
    · obtain rfl := List.mem_singleton.mp hx
      simp only [Record.field, if_true, hf.read v w hvw]
  null name g hx := by
    rcases List.mem_append.mp hx with hx | hx
    · have hne : name ≠ fd.name := fun heq => hnew (heq ▸ List.mem_map_of_mem hx)
      simp only [Record.field, if_neg hne]
      exact hr.null name g hx
    · obtain ⟨rfl, rfl⟩ := Prod.mk.inj (List.mem_singleton.mp hx)
      obtain ⟨a, -, hnull⟩ := hf.null g rfl
      simp only [Record.field, if_true, hnull]
      rfl
  ofMembers ms ms' hfound := by
    have hfields := hr.ofMembers ms ms' fun x hx => hfound x (List.mem_append_left _ hx)
    have hfield := hf.ofMembers (hfound _ (List.mem_append_right _ List.mem_cons_self))
    simp only [Record.field, hfields, hfield]
  ofElements tooShort es es' hkept := by
    have hfields := hr.ofElements tooShort es es' fun i x hx =>
      hkept i x ((List.getElem?_append_left (List.getElem?_eq_some_iff.mp hx).1).trans hx)
    have hfield := hf.ofElements (tooShort r.arity)
      (hkept r.arity (fd.name, f) (by rw [hr.arity, List.getElem?_concat_length]))
    simp only [Record.field, hfields, hfield]

/-- **The last field of a record.** -/
theorem Respects.field {r : Record (α → β)} {fd : Field α} {f : Format}
    (hr : r.Respects fields.dropLast) (hlast : fields.getLast? = some (fd.name, f))
    (hf : fd.Respects f) (hnew : fd.name ∉ fields.dropLast.map Prod.fst) :
    (r.field fd).Respects fields := by
  have hfields := hr.concat hf hnew
  rwa [List.dropLast_append_getLast? _ hlast] at hfields

/-! ## Objects -/

variable {r : Record α} {before after : List (String × Json)} {name : String} {v w : Json}

theorem checkAll_insert (h : r.check name v = .ok ()) :
    r.checkAll (before ++ (name, v) :: after) = r.checkAll (before ++ after) := by
  induction before with
  | nil => simp only [List.nil_append, checkAll, h]
  | cons m before ih => simp only [List.cons_append, checkAll, ih]

theorem checkAll_congr (h : r.check name w = r.check name v) :
    r.checkAll (before ++ (name, w) :: after) = r.checkAll (before ++ (name, v) :: after) := by
  induction before with
  | nil => simp only [List.nil_append, checkAll, h]
  | cons m before ih => simp only [List.cons_append, checkAll, ih]

theorem lookup_insert_of_ne {k : String} (hne : k ≠ name) :
    (before ++ (name, v) :: after).lookup k = (before ++ after).lookup k := by
  rw [List.lookup_append, List.lookup_append, List.lookup_cons, beq_false_of_ne hne]

theorem lookup_insert_self :
    (before ++ (name, v) :: after).lookup name = (before.lookup name).or (some v) := by
  rw [List.lookup_append, List.lookup_cons_self]

theorem lookup_eq_none {ms : List (String × Json)} (h : name ∉ ms.map Prod.fst) :
    ms.lookup name = none :=
  List.lookup_eq_none_iff.mpr fun m hm => by
    simpa using fun heq : name = m.1 => h (heq ▸ List.mem_map_of_mem hm)

/-- The format of a field is that of its name. -/
theorem Respects.format_eq (hr : r.Respects fields) {x : String × Format} {f : Format}
    (hx : x ∈ fields) (hfield : (name, f) ∈ fields) (hname : x.1 = name) : x.2 = f :=
  congrArg Prod.snd (List.inj_on_of_nodup_map hr.distinct hx hfield hname)

/-- **A loosened object or array is read as before.** -/
theorem Respects.decode (hr : r.Respects fields) (title : String) :
    (Format.record fields).Respects (r.decode title) := by
  intro v w hvw
  cases hvw with
  | @adds _ before after name v hname =>
    refine congrArg₂ (fun c m => c >>= fun _ => m) (checkAll_insert (hr.other _ v hname)) ?_
    -- every field finds what it found before
    refine hr.ofMembers _ _ fun x hx => .kept ?_
    have hne : x.1 ≠ name := fun heq => hname (heq ▸ List.mem_map_of_mem hx)
    rw [lookup_insert_of_ne hne]
    exact .same _
  | @leavesOut _ before after name f hfield honly =>
    refine congrArg₂ (fun c m => c >>= fun _ => m)
      (checkAll_insert (hr.null name f hfield)).symm ?_
    refine hr.ofMembers _ _ fun x hx => ?_
    by_cases heq : x.1 = name
    · rw [hr.format_eq hx hfield heq, heq, lookup_insert_self, lookup_eq_none honly,
        lookup_eq_none fun h => honly (List.map_append ▸ List.mem_append_left _ h)]
      exact .leftOut f
    · rw [lookup_insert_of_ne heq]
      exact .kept (.same _)
  | @member _ before after name f v w hfield h =>
    refine congrArg₂ (fun c m => c >>= fun _ => m)
      (checkAll_congr (hr.checks (name, f) hfield v w h)) ?_
    refine hr.ofMembers _ _ fun x hx => .kept ?_
    by_cases heq : x.1 = name
    · rw [hr.format_eq hx hfield heq, heq, lookup_insert_self, lookup_insert_self]
      -- an earlier member of the name would be the one that counts
      cases before.lookup name with
      | none => exact .loosened h
      | some u => exact .same _
    · rw [lookup_insert_of_ne heq, lookup_insert_of_ne heq]
      exact .same _
  | @element _ es i name f v w hfield hv h =>
    have helements := fun tooShort => hr.ofElements tooShort es (es.set i w) fun j x hx => by
      by_cases heq : i = j
      · obtain rfl := heq
        obtain rfl := Option.some.inj (hx.symm.trans hfield)
        exact .set hv h
      · rw [List.getElem?_set_ne heq]
        exact .same _
    simp only [Record.decode, helements, List.length_set]

end Record

end TokenOutline
