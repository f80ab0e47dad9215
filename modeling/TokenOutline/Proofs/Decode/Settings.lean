import TokenOutline.Proofs.Decode.Format
import TokenOutline.Settings

/-!
# What settings are read from

Settings are read from the members of an object that name a field of theirs: three are texts, and
the directory of the icons may be null. Other members do not count. Under their key settings are
read as at the top level, with one exception: there the key itself is a member like any other.

Headlines:
* `Settings.Admits`, `Settings.statedBy`: what the members may be, and what settings they state.
* **`Settings.decodeFlat_object_iff`**: settings at the top level of an object.
* **`Settings.decode_nested`**: settings under their key, whatever stands next to it.
* **`settings_flat_and_nested`**: both, of what is offered as settings.
-/

namespace TokenOutline

/-! ## Scalars -/

theorem Decoder.stringAs_eq_ok_iff {wanted : String} {v : Json} {s : String} :
    stringAs wanted v = .ok s ↔ v = .string s := by
  cases v <;> simp [stringAs]

theorem Decoder.nullable_path_eq_ok_iff {v : Json} {p : Option String} :
    nullable path v = .ok p ↔ v = .ofOption .string p := by
  cases p with
  | none => cases v <;> simp [nullable, path, stringAs, Json.ofOption, Except.map]
  | some p => cases v <;> simp [nullable, path, stringAs, Json.ofOption, Except.map]

namespace Settings

variable {ms : List (String × Json)}

/-! ## At the top level -/

/-- The fields that are texts. -/
def textFields : List String := ["selectRangeCommand", "contextValue", "eofTitle"]

/-- A member is no field of settings, or its value is one of the field. -/
def Admits (name : String) (v : Json) : Prop :=
  (name ∈ textFields → ∃ s, v = .string s) ∧
    (name = "iconRoot" → v = .null ∨ ∃ s, v = .string s)

/-- The text of a member, or the standard one if there is no such member. -/
def textOf (ms : List (String × Json)) (name standard : String) : String :=
  match ms.lookup name with
  | some (.string s) => s
  | _ => standard

/-- The path of a member, none if it is null, or the standard one if there is no such member. -/
def pathOf (ms : List (String × Json)) (name : String) (standard : Option String) :
    Option String :=
  match ms.lookup name with
  | some (.string s) => some s
  | some _ => none
  | none => standard

/-- The settings that the members of an object state. -/
def statedBy (ms : List (String × Json)) : Settings where
  selectRangeCommand := textOf ms "selectRangeCommand" standard.selectRangeCommand
  contextValue := textOf ms "contextValue" standard.contextValue
  iconRoot := pathOf ms "iconRoot" standard.iconRoot
  eofTitle := textOf ms "eofTitle" standard.eofTitle

theorem check_eq_ok_iff {name : String} {v : Json} :
    record.check name v = .ok () ↔ Admits name v := by
  have htext : (∃ s, Decoder.string v = .ok s) ↔ ∃ s, v = .string s :=
    exists_congr fun _ => Decoder.stringAs_eq_ok_iff
  have hpath : (∃ p, Decoder.nullable .path v = .ok p) ↔ v = .null ∨ ∃ s, v = .string s := by
    simp only [Decoder.nullable_path_eq_ok_iff, Option.exists, Json.ofOption]
  simp only [record, Record.check_field_eq_ok_iff, Field.defaulted, htext, hpath, Admits,
    textFields]
  by_cases heof : name = "eofTitle"
  · simp [heof]
  by_cases hicon : name = "iconRoot"
  · simp [hicon]
  by_cases hcontext : name = "contextValue"
  · simp [hcontext]
  by_cases hcommand : name = "selectRangeCommand"
  · simp [hcommand]
  simp [heof, hicon, hcontext, hcommand, Record.of]

theorem ofMembers_text {name : String} (standard : String)
    (h : ∀ v, ms.lookup name = some v → ∃ s, v = .string s) :
    (Field.defaulted name .string standard).ofMembers ms = .ok (textOf ms name standard) := by
  unfold Field.ofMembers textOf
  simp only [Field.defaulted]
  cases hv : ms.lookup name with
  | none => rfl
  | some v =>
    obtain ⟨s, rfl⟩ := h v hv
    rfl

theorem ofMembers_path {name : String} (standard : Option String)
    (h : ∀ v, ms.lookup name = some v → v = .null ∨ ∃ s, v = .string s) :
    (Field.defaulted name (.nullable .path) standard).ofMembers ms =
      .ok (pathOf ms name standard) := by
  unfold Field.ofMembers pathOf
  simp only [Field.defaulted]
  cases hv : ms.lookup name with
  | none => rfl
  | some v => obtain rfl | ⟨s, rfl⟩ := h v hv <;> rfl

/-- Members that are admitted state settings. -/
theorem ofMembers_of_admits (h : ∀ m ∈ ms, Admits m.1 m.2) :
    record.ofMembers ms = .ok (statedBy ms) := by
  have hlookup : ∀ name v, ms.lookup name = some v → Admits name v := by
    intro name v hv
    obtain ⟨before, after, rfl, -⟩ := List.lookup_eq_some_iff.mp hv
    exact h (name, v) (List.mem_append_right _ List.mem_cons_self)
  have htext : ∀ name ∈ textFields, ∀ v, ms.lookup name = some v → ∃ s, v = .string s :=
    fun name hname v hv => (hlookup name v hv).1 hname
  refine Record.ofMembers_field_of (Record.ofMembers_field_of (Record.ofMembers_field_of
    (Record.ofMembers_field_of rfl ?_) ?_) ?_) ?_
  · exact ofMembers_text _ (htext _ (by decide))
  · exact ofMembers_text _ (htext _ (by decide))
  · exact ofMembers_path _ fun v hv => (hlookup _ v hv).2 rfl
  · exact ofMembers_text _ (htext _ (by decide))

/-- **The settings at the top level of an object** are those that its members state, if all members
that name a field are of that field. -/
theorem decodeFlat_object_iff {s : Settings} :
    decodeFlat (.object ms) = .ok s ↔ (∀ m ∈ ms, Admits m.1 m.2) ∧ s = statedBy ms := by
  have hadmits : (∀ m ∈ ms, record.check m.1 m.2 = .ok ()) ↔ ∀ m ∈ ms, Admits m.1 m.2 :=
    forall₂_congr fun _ _ => check_eq_ok_iff
  rw [decodeFlat, Record.decode_object_eq_ok_iff, hadmits]
  refine and_congr_right fun h => ?_
  rw [ofMembers_of_admits h]
  exact ⟨fun heq => (Except.ok.inj heq).symm, fun heq => congrArg _ heq.symm⟩

/-- The fields of settings. -/
def format : Format := .record [("selectRangeCommand", .whole), ("contextValue", .whole),
  ("iconRoot", .nullable .whole), ("eofTitle", .whole)]

theorem respects : format.Respects decodeFlat := by
  refine Record.Respects.decode (.field (.field (.field (.field (.of _)
    rfl ?_ (by decide)) rfl ?_ (by decide)) rfl ?_ (by decide)) rfl ?_ (by decide)) _
  · exact Field.respects_whole _
  · exact Field.respects_whole _
  · exact Field.respects_defaulted _ (Format.respects_whole _)
  · exact Field.respects_whole _

/-! ## Under their key -/

theorem nestedRecord_respects :
    (Format.record [(nestedKey, .whole)]).Respects (nestedRecord.decode "NestedSettings") := by
  refine Record.Respects.decode (.field (.of _) rfl ?_ (by decide)) _
  exact Field.respects_whole _

/-- The key alone: what is under it is read twice, once to check it and once to take it. -/
theorem nestedRecord_decode_singleton (v : Json) :
    nestedRecord.decode "NestedSettings" (.object [(nestedKey, v)]) = decodeFlat v := by
  cases hv : decodeFlat v <;>
    simp [Record.decode, Record.checkAll, nestedRecord, Record.field, Record.of, Field.required,
      Field.ofMembers, hv, Except.map, bind, Except.bind, pure, Except.pure]

/-- **Settings under their key** are those at the top level of what is under it, whatever stands
next to the key. -/
theorem decode_nested {before after : List (String × Json)} (v : Json)
    (honly : nestedKey ∉ (before ++ after).map Prod.fst) :
    decode (.object (before ++ (nestedKey, v) :: after)) = decodeFlat v := by
  rw [List.map_append, List.mem_append, not_or] at honly
  have hmember : ((Json.object (before ++ (nestedKey, v) :: after)).member? nestedKey).isSome := by
    rw [Json.member?, Record.lookup_insert_self, Record.lookup_eq_none honly.1]
    rfl
  have hkept : (before ++ (nestedKey, v) :: after).filter (fun m => m.1 == nestedKey) =
      [(nestedKey, v)] := by
    have hother : ∀ ms : List (String × Json), nestedKey ∉ ms.map Prod.fst →
        ms.filter (fun m => m.1 == nestedKey) = [] := by
      intro ms hms
      rw [List.filter_eq_nil_iff]
      intro m hm heq
      exact hms (beq_iff_eq.mp heq ▸ List.mem_map_of_mem hm)
    rw [List.filter_append, List.filter_cons, hother before honly.1, hother after honly.2]
    rfl
  rw [decode, if_pos hmember, nestedRecord_respects.filter (fun m => m.1 == nestedKey) ?_, hkept,
    nestedRecord_decode_singleton]
  intro m _ hm
  simpa using hm

theorem decode_of_member?_eq_none {v : Json} (h : v.member? nestedKey = none) :
    decode v = decodeFlat v := by
  simp [decode, h]

end Settings

/-- **Where settings are read from.**

At the top level of an object, members that name a field have to be of it, and the settings are what
they state, with the standard value of every field that no member names. Under their key settings
are read as they are at the top level: refused for the same reason, or the same settings. What
stands next to the key does not count, nor does the key once more in what is under it. -/
theorem settings_flat_and_nested :
    (∀ ms : List (String × Json), ms.lookup Settings.nestedKey = none →
      ((∃ s, Settings.decode (.object ms) = .ok s) ↔ ∀ m ∈ ms, Settings.Admits m.1 m.2) ∧
      ∀ s, Settings.decode (.object ms) = .ok s → s = Settings.statedBy ms) ∧
    ∀ (before after : List (String × Json)) (v : Json),
      Settings.nestedKey ∉ (before ++ after).map Prod.fst →
      (v.member? Settings.nestedKey = none →
        Settings.decode (.object (before ++ (Settings.nestedKey, v) :: after)) =
          Settings.decode v) ∧
      ∀ ms, v = .object ms →
        Settings.decode (.object (before ++ (Settings.nestedKey, v) :: after)) =
          Settings.decode (.object (ms.filter fun m => m.1 != Settings.nestedKey)) := by
  refine ⟨fun ms hnone => ?flat, fun before after v honly => ⟨fun hnone => ?nested, ?again⟩⟩
  case flat =>
    have hflat : Settings.decode (.object ms) = Settings.decodeFlat (.object ms) :=
      Settings.decode_of_member?_eq_none hnone
    simp only [hflat, Settings.decodeFlat_object_iff]
    exact ⟨⟨fun ⟨_, h, _⟩ => h, fun h => ⟨_, h, rfl⟩⟩, fun _ h => h.2⟩
  case nested => rw [Settings.decode_nested v honly, Settings.decode_of_member?_eq_none hnone]
  case again =>
    rintro ms rfl
    have hnone : (ms.filter fun m => m.1 != Settings.nestedKey).lookup Settings.nestedKey = none :=
      List.lookup_eq_none_iff.mpr fun m hm => by
        rw [bne_comm]
        exact (List.mem_filter.mp hm).2
    have hflat : Settings.decode (.object (ms.filter fun m => m.1 != Settings.nestedKey)) =
        Settings.decodeFlat (.object (ms.filter fun m => m.1 != Settings.nestedKey)) :=
      Settings.decode_of_member?_eq_none hnone
    rw [Settings.decode_nested _ honly, hflat]
    exact Settings.respects.filter _ fun m _ hm => by
      rw [bne_eq_false_iff_eq.mp hm]
      decide

example : Settings.decode (.object [("eofTitle", .null), (Settings.nestedKey, .object
    [(Settings.nestedKey, .null), ("eofTitle", .string "end")])]) =
    .ok { Settings.standard with eofTitle := "end" } := rfl

end TokenOutline
