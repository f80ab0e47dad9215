import TokenOutline.Proofs.Decode.Codec

/-!
# Items across and back

An item goes to the editor, which counts lines from zero, and comes back with its rows counted from
one: a row of zero, which has no line of its own, comes back as the first one. An item of the editor
comes back in normal form, in which the state is one that the editor knows, the context is there and
the arguments of the command are ranges, each written in one way.

Headlines:
* `Item.withRows`, `Item.HasLines`: what comes back of an item, and which items come back as they
  went.
* `Editor.Range.Canonical`, **`Editor.Range.canonical_iff`**: the one way to write a range.
* `Editor.Item.Canonical`: the normal form of an item of the editor.
* **`Item.toEditor_and_back`**, **`Editor.Item.toItem_and_back`**: the two ways around.
-/

namespace TokenOutline

/-! ## Lines and rows -/

namespace Grammar

/-- A position with something done to its row. -/
def Position.withRow (f : UInt32 → UInt32) (p : Position) : Position := { p with row := f p.row }

/-- A range with something done to its rows. -/
def Range.withRows (f : UInt32 → UInt32) (r : Range) : Range :=
  ⟨r.start.withRow f, r.stop.withRow f⟩

/-- The rows of a range are counted from one. -/
def Range.HasLines (r : Range) : Prop := 1 ≤ r.start.row ∧ 1 ≤ r.stop.row

end Grammar

namespace Editor

/-- No line of a range is the last that 32 bits can hold, so that each has a row. -/
def Range.HasRows (r : Range) : Prop := r.start.line ≠ 4294967295 ∧ r.stop.line ≠ 4294967295

instance (r : Range) : Decidable r.HasRows := inferInstanceAs (Decidable (_ ∧ _))

/-- A position of the editor and one of a grammar are the same, as numbers of any size. -/
structure Position.Counts (p : Position) (q : Grammar.Position) : Prop where
  row : q.row.toNat = p.line.toNat + 1
  column : q.column = p.character

/-- A range of the editor and one of a grammar are the same. -/
structure Range.Counts (r : Range) (s : Grammar.Range) : Prop where
  start : r.start.Counts s.start
  stop : r.stop.Counts s.stop

end Editor

section Lines

open Grammar Editor

theorem toNat_lineOfRow (row : UInt32) : (lineOfRow row).toNat = row.toNat - 1 := by
  unfold lineOfRow
  split
  next h => simp [h]
  next h =>
    have hne : row.toNat ≠ 0 := fun hzero => h (UInt32.toNat_inj.mp hzero)
    have hone : 1 ≤ row := UInt32.le_iff_toNat_le.mpr (Nat.one_le_iff_ne_zero.mpr hne)
    rw [UInt32.toNat_sub_of_le _ _ hone, UInt32.toNat_one]

theorem toNat_add_one {line : UInt32} (h : line ≠ 4294967295) :
    (line + 1).toNat = line.toNat + 1 := by
  have hlt := line.toNat_lt
  have hne : line.toNat ≠ 4294967295 := fun heq => h (UInt32.toNat_inj.mp heq)
  rw [UInt32.toNat_add, UInt32.toNat_one, Nat.mod_eq_of_lt (by omega)]

theorem toNat_max_one (row : UInt32) : (max row 1).toNat = max row.toNat 1 := by
  have hle : row ≤ 1 ↔ row.toNat ≤ 1 := UInt32.le_iff_toNat_le
  change (if row ≤ 1 then 1 else row).toNat = _
  split
  next h => rw [Nat.max_eq_right (hle.mp h), UInt32.toNat_one]
  next h => rw [Nat.max_eq_left (Nat.le_of_not_le (h ∘ hle.mpr))]

theorem lineOfRow_ne_last (row : UInt32) : lineOfRow row ≠ 4294967295 := by
  intro hlast
  have hrow := row.toNat_lt
  have hline : (4294967295 : UInt32).toNat = row.toNat - 1 := hlast ▸ toNat_lineOfRow row
  simp only [UInt32.reduceToNat] at hline
  omega

theorem lineOfRow_add_one (row : UInt32) : lineOfRow row + 1 = max row 1 := by
  apply UInt32.toNat_inj.mp
  rw [toNat_add_one (lineOfRow_ne_last row), toNat_lineOfRow, toNat_max_one]
  omega

theorem lineOfRow_of_line {line : UInt32} (h : line ≠ 4294967295) :
    lineOfRow (line + 1) = line := by
  apply UInt32.toNat_inj.mp
  rw [toNat_lineOfRow, toNat_add_one h, Nat.add_sub_cancel]

theorem max_one_eq_self_iff (row : UInt32) : max row 1 = row ↔ 1 ≤ row := by
  rw [← UInt32.toNat_inj, toNat_max_one, UInt32.le_iff_toNat_le, UInt32.toNat_one]
  omega

end Lines

/-! ## Ranges -/

namespace Grammar

theorem Position.toGrammar_toEditor (p : Position) :
    p.toEditor.toGrammar = p.withRow (max · 1) := by
  simp only [toEditor, Editor.Position.toGrammar, withRow, lineOfRow_add_one]

theorem Range.toGrammar_toEditor (r : Range) : r.toEditor.toGrammar = r.withRows (max · 1) := by
  simp only [toEditor, Editor.Range.toGrammar, withRows, Position.toGrammar_toEditor]

theorem Range.hasRows_toEditor (r : Range) : r.toEditor.HasRows :=
  ⟨lineOfRow_ne_last r.start.row, lineOfRow_ne_last r.stop.row⟩

theorem Range.withRows_eq_self_iff (r : Range) : r.withRows (max · 1) = r ↔ r.HasLines := by
  obtain ⟨⟨_, _⟩, ⟨_, _⟩⟩ := r
  simp [withRows, Position.withRow, HasLines, max_one_eq_self_iff]

end Grammar

namespace Editor

theorem Range.toEditor_toGrammar {r : Range} (h : r.HasRows) : r.toGrammar.toEditor = r := by
  simp only [toGrammar, Grammar.Range.toEditor, Position.toGrammar, Grammar.Position.toEditor,
    lineOfRow_of_line h.1, lineOfRow_of_line h.2]

theorem Range.counts_toGrammar {r : Range} (h : r.HasRows) : r.Counts r.toGrammar :=
  ⟨⟨toNat_add_one h.1, rfl⟩, ⟨toNat_add_one h.2, rfl⟩⟩

theorem Range.hasLines_toGrammar {r : Range} (h : r.HasRows) : r.toGrammar.HasLines := by
  rw [← Grammar.Range.withRows_eq_self_iff, ← Grammar.Range.toGrammar_toEditor,
    toEditor_toGrammar h]

end Editor

/-! ## Ranges as JSON -/

/-- The names of the members of an object, in their order. -/
def Json.names? : Json → Option (List String)
  | .object ms => some (ms.map Prod.fst)
  | _ => none

namespace Editor

/-- A range written as an object of its own fields only, with positions of their own fields only.
The members of an object stand in the order of their names. -/
structure Range.Canonical (v : Json) : Prop where
  reads : ∃ r, Range.decode v = .ok r
  fields : v.names? = some ["end", "start"]
  positions : ∀ name w, v.member? name = some w → w.names? = some ["character", "line"]

theorem Position.decode_encode (p : Position) : decode p.encode = .ok p := by
  refine Record.Reads.decode (.field (.field (.of _ (by simp)) ?_) ?_) _
  · exact Decoder.word32_ofNat p.line
  · exact Decoder.word32_ofNat p.character

theorem Range.decode_encode (r : Range) : decode r.encode = .ok r := by
  refine Record.Reads.decode (.field (.field (.of _ (by simp)) ?_) ?_) _
  · exact r.start.decode_encode
  · exact r.stop.decode_encode

/-- An object with two members, by their names. -/
theorem exists_object_of_names {v : Json} {a b : String} (h : v.names? = some [a, b]) :
    ∃ x y, v = .object [(a, x), (b, y)] := by
  cases v with
  | object ms =>
    match ms with
    | [(_, x), (_, y)] =>
      simp only [Json.names?, List.map_cons, List.map_nil, Option.some.injEq, List.cons.injEq,
        and_true] at h
      obtain ⟨rfl, rfl⟩ := h
      exact ⟨x, y, rfl⟩
    | [] | [_] | _ :: _ :: _ :: _ => simp [Json.names?] at h
  | _ => cases h

theorem Position.eq_encode {v : Json} {p : Position} (h : decode v = .ok p)
    (hnames : v.names? = some ["character", "line"]) : v = p.encode := by
  obtain ⟨character, line, rfl⟩ := exists_object_of_names hnames
  obtain ⟨make, c, hrest, hc, rfl⟩ := Record.ofMembers_field (Record.ofMembers_of_decode h)
  obtain ⟨make, l, hmake, hl, rfl⟩ := Record.ofMembers_field hrest
  obtain rfl := Except.ok.inj hmake
  rw [Position.encode, Decoder.eq_ofNat_of_word32 hc, Decoder.eq_ofNat_of_word32 hl]

theorem Range.eq_encode {v : Json} {r : Range} (h : decode v = .ok r) (hv : Canonical v) :
    v = r.encode := by
  obtain ⟨stop, start, rfl⟩ := exists_object_of_names hv.fields
  obtain ⟨make, t, hrest, ht, rfl⟩ := Record.ofMembers_field (Record.ofMembers_of_decode h)
  obtain ⟨make, s, hmake, hs, rfl⟩ := Record.ofMembers_field hrest
  obtain rfl := Except.ok.inj hmake
  rw [Range.encode, Position.eq_encode ht (hv.positions "end" stop rfl),
    Position.eq_encode hs (hv.positions "start" start rfl)]

theorem Range.canonical_encode (r : Range) : Canonical r.encode where
  reads := ⟨r, r.decode_encode⟩
  fields := rfl
  positions name w hw := by
    obtain ⟨before, after, hmembers, -⟩ := List.lookup_eq_some_iff.mp hw
    have hmem : (name, w) ∈ [("end", r.stop.encode), ("start", r.start.encode)] :=
      hmembers ▸ List.mem_append_right _ List.mem_cons_self
    rcases List.mem_pair.mp hmem with heq | heq
    · rw [(Prod.mk.inj heq).2]
      rfl
    · rw [(Prod.mk.inj heq).2]
      rfl

/-- **The canonical form of a range** is what it is written as. -/
theorem Range.canonical_iff (v : Json) : Canonical v ↔ ∃ r : Range, v = r.encode := by
  constructor
  · intro hv
    obtain ⟨r, hr⟩ := hv.reads
    exact ⟨r, eq_encode hr hv⟩
  · rintro ⟨r, rfl⟩
    exact r.canonical_encode

theorem ranges_encode (rs : List Range) :
    (rs.map Range.encode).filterMap (fun v => (Range.decode v).toOption) = rs := by
  induction rs with
  | nil => rfl
  | cons r rs ih =>
    rw [List.map_cons, List.filterMap_cons, r.decode_encode, ih]
    rfl

/-- Ranges in canonical form are read and written as they were. -/
theorem encode_ranges {vs : List Json} (h : ∀ v ∈ vs, Range.Canonical v) :
    (vs.filterMap fun v => (Range.decode v).toOption).map Range.encode = vs := by
  have hback : ∀ v ∈ vs, (Range.decode v).toOption.map Range.encode = some v := by
    intro v hv
    obtain ⟨r, rfl⟩ := (Range.canonical_iff v).mp (h v hv)
    rw [r.decode_encode]
    rfl
  rw [List.map_filterMap, List.filterMap_congr hback, List.filterMap_some]

end Editor

/-! ## Commands -/

namespace Command

/-- A command with something done to the rows of its arguments. -/
def withRows (f : UInt32 → UInt32) (c : Command) : Command :=
  { c with arguments := c.arguments.map (.withRows f) }

theorem ranges_toEditor (c : Command) :
    c.toEditor.ranges = c.arguments.map Grammar.Range.toEditor := by
  have harguments : c.toEditor.arguments.getD [] =
      (c.arguments.map Grammar.Range.toEditor).map Editor.Range.encode := by
    cases h : c.arguments <;> simp [toEditor, h]
  rw [Editor.Command.ranges, harguments, Editor.ranges_encode]

theorem toItem_toEditor (c : Command) : c.toEditor.toItem = c.withRows (max · 1) := by
  have harguments : (c.arguments.map Grammar.Range.toEditor).map Editor.Range.toGrammar =
      c.arguments.map (.withRows (max · 1)) := by
    rw [List.map_map]
    exact List.map_congr_left fun r _ => r.toGrammar_toEditor
  rw [Editor.Command.toItem, ranges_toEditor, harguments]
  rfl

theorem withRows_eq_self_iff (c : Command) :
    c.withRows (max · 1) = c ↔ ∀ r ∈ c.arguments, r.HasLines := by
  have hself : c.arguments.map (.withRows (max · 1)) = c.arguments.map id ↔
      ∀ r ∈ c.arguments, r.withRows (max · 1) = r := List.map_inj_left
  rw [List.map_id] at hself
  obtain ⟨title, name, arguments⟩ := c
  simp [withRows, hself, Grammar.Range.withRows_eq_self_iff]

theorem target?_withRows (f : UInt32 → UInt32) (c : Command) :
    (c.withRows f).target? = c.target?.map (.withRows f) := by
  have hactionable : (c.withRows f).isActionable = c.isActionable := rfl
  rw [target?, target?, hactionable]
  split
  · exact List.head?_map
  · rfl

end Command

namespace Editor.Command

/-- A command whose arguments, if it has any, are ranges in canonical form. -/
def Canonical (c : Command) : Prop :=
  ∀ vs, c.arguments = some vs → vs ≠ [] ∧ ∀ v ∈ vs, Range.Canonical v

variable {c : Command}

theorem hasLines_toItem (h : ∀ r ∈ c.ranges, r.HasRows) : ∀ r ∈ c.toItem.arguments, r.HasLines := by
  intro r hr
  obtain ⟨s, hs, rfl⟩ := List.mem_map.mp hr
  exact Range.hasLines_toGrammar (h s hs)

theorem counts_toItem (h : ∀ r ∈ c.ranges, r.HasRows) :
    List.Forall₂ Range.Counts c.ranges c.toItem.arguments :=
  List.forall₂_map_right_iff.mpr (List.forall₂_same.mpr fun r hr => Range.counts_toGrammar (h r hr))

theorem arguments_toEditor_toItem (h : ∀ r ∈ c.ranges, r.HasRows) :
    c.toItem.toEditor.arguments =
      if c.ranges.isEmpty then none else some (c.ranges.map Range.encode) := by
  have hback : (c.ranges.map Range.toGrammar).map (fun r => r.toEditor.encode) =
      c.ranges.map Range.encode := by
    rw [List.map_map]
    exact List.map_congr_left fun r hr => congrArg Range.encode (Range.toEditor_toGrammar (h r hr))
  simp only [toItem, TokenOutline.Command.toEditor, hback, List.isEmpty_map]

theorem toEditor_toItem_iff (h : ∀ r ∈ c.ranges, r.HasRows) :
    c.toItem.toEditor = c ↔ c.Canonical := by
  have harguments := arguments_toEditor_toItem h
  constructor
  · intro heq vs hvs
    rw [heq, hvs] at harguments
    split at harguments
    next => cases harguments
    next hne =>
      obtain rfl := Option.some.inj harguments
      refine ⟨by simpa using hne, fun v hv => ?_⟩
      obtain ⟨r, -, rfl⟩ := List.mem_map.mp hv
      exact r.canonical_encode
  · intro hc
    have hsame : c.toItem.toEditor.arguments = c.arguments := by
      rw [harguments, ranges]
      cases hvs : c.arguments with
      | none => rfl
      | some vs =>
        obtain ⟨hne, hall⟩ := hc vs hvs
        have hsome := encode_ranges hall
        -- a command without ranges would leave its arguments out
        have hranges : (vs.filterMap fun v => (Range.decode v).toOption) ≠ [] := fun hnil =>
          hne (by rw [← hsome, hnil, List.map_nil])
        rw [Option.getD_some, if_neg (by simpa using hranges), hsome]
    exact congrArg (Command.mk c.title c.name) hsame

end Editor.Command

/-! ## Items of the outline -/

namespace Item

/-- An item with something done to the rows of its command. -/
def withRows (f : UInt32 → UInt32) (i : Item) : Item :=
  { i with command := i.command.map (.withRows f) }

/-- The rows of the command are counted from one. -/
def HasLines (i : Item) : Prop := ∀ c ∈ i.command, ∀ r ∈ c.arguments, r.HasLines

theorem collapsibleOf_number (s : Collapsible) : Editor.collapsibleOf s.number = s := by
  cases s <;> rfl

theorem toItem_toEditor (i : Item) : i.toEditor.toItem = i.withRows (max · 1) := by
  have hcommand : (i.command.map Command.toEditor).map Editor.Command.toItem =
      i.command.map (.withRows (max · 1)) := by
    rw [Option.map_map]
    exact Option.map_congr fun c _ => c.toItem_toEditor
  simp only [toEditor, Editor.Item.toItem, hcommand, collapsibleOf_number]
  rfl

theorem withRows_eq_self_iff (i : Item) : i.withRows (max · 1) = i ↔ i.HasLines := by
  obtain ⟨label, collapsible, command, contextValue, icons⟩ := i
  cases command with
  | none => simp [withRows, HasLines]
  | some c => simp [withRows, HasLines, Command.withRows_eq_self_iff]

end Item

/-! ## Items of the editor -/

namespace Editor.Item

/-- Every line of an argument has a row. -/
def HasRows (i : Item) : Prop := ∀ c ∈ i.command, ∀ r ∈ c.ranges, r.HasRows

instance (i : Item) : Decidable i.HasRows :=
  inferInstanceAs (Decidable (∀ c ∈ i.command, ∀ r ∈ c.ranges, r.HasRows))

/-- An item in normal form: its state is one of the three, and it has a context. -/
structure Canonical (i : Item) : Prop where
  collapsible : i.collapsible = 0 ∨ i.collapsible = 1 ∨ i.collapsible = 2
  contextValue : i.contextValue.isSome
  command : ∀ c ∈ i.command, c.Canonical

theorem number_collapsibleOf_iff (n : UInt8) :
    (collapsibleOf n).number = n ↔ n = 0 ∨ n = 1 ∨ n = 2 := by
  unfold collapsibleOf
  split
  next h => simp [Collapsible.number, h]
  next hone =>
    split
    next h => simp [Collapsible.number, h]
    next htwo => simp [Collapsible.number, hone, htwo, eq_comm]

variable {i : Item}

theorem hasLines_toItem (h : i.HasRows) : i.toItem.HasLines := by
  intro c hc
  obtain ⟨d, hd, rfl⟩ := Option.map_eq_some_iff.mp hc
  exact Command.hasLines_toItem (h d hd)

theorem toItem_toEditor_toItem (h : i.HasRows) : i.toItem.toEditor.toItem = i.toItem := by
  rw [Item.toItem_toEditor, Item.withRows_eq_self_iff]
  exact hasLines_toItem h

theorem toEditor_toItem_iff (h : i.HasRows) : i.toItem.toEditor = i ↔ i.Canonical := by
  obtain ⟨label, n, command, contextValue, icons⟩ := i
  have hcommand : (command.map Command.toItem).map TokenOutline.Command.toEditor = command ↔
      ∀ c ∈ command, c.Canonical := by
    cases command with
    | none => simp
    | some c => simp [Command.toEditor_toItem_iff (h c rfl)]
  have hcontext : some (contextValue.getD "") = contextValue ↔ contextValue.isSome := by
    cases contextValue <;> simp
  simp only [toItem, TokenOutline.Item.toEditor, Item.mk.injEq, true_and, and_true,
    number_collapsibleOf_iff, hcommand, hcontext]
  constructor
  · rintro ⟨hcollapsible, hc, hv⟩
    exact ⟨hcollapsible, hv, hc⟩
  · rintro ⟨hcollapsible, hv, hc⟩
    exact ⟨hcollapsible, hc, hv⟩

end Editor.Item

theorem Item.hasRows_toEditor (i : Item) : i.toEditor.HasRows := by
  intro c hc r hr
  obtain ⟨d, -, rfl⟩ := Option.map_eq_some_iff.mp hc
  rw [Command.ranges_toEditor] at hr
  obtain ⟨s, -, rfl⟩ := List.mem_map.mp hr
  exact s.hasRows_toEditor

/-! ## Across and back -/

/-- **Every item comes back from the editor** with its rows counted from one and otherwise as it
went, also when the editor takes it as JSON. A line is the row before, or the first one, and no row
that a line comes back as has wrapped. Hence an item comes back as it went if its rows are counted
from one, and only then; the second time nothing changes. Whether the command does anything, and
where it goes, comes back. -/
theorem Item.toEditor_and_back (i : Item) :
    i.toEditor.toItem = i.withRows (max · 1) ∧
      (Editor.Item.decode i.toEditor.encode).map Editor.Item.toItem = .ok i.toEditor.toItem ∧
      (∀ c ∈ i.command, ∀ r ∈ c.arguments,
        r.toEditor.start.line.toNat = r.start.row.toNat - 1 ∧
          r.toEditor.stop.line.toNat = r.stop.row.toNat - 1 ∧
          r.toEditor.Counts r.toEditor.toGrammar) ∧
      (i.toEditor.toItem = i ↔ i.HasLines) ∧
      i.toEditor.toItem.toEditor.toItem = i.toEditor.toItem ∧
      i.toEditor.toItem.command.map Command.isActionable = i.command.map Command.isActionable ∧
      i.toEditor.toItem.command.map Command.target? =
        i.command.map fun c => c.target?.map (.withRows (max · 1)) := by
  refine ⟨i.toItem_toEditor, ?json, ?lines, ?same, ?again, ?actionable, ?target⟩
  case json =>
    rw [Editor.Item.decode_encode]
    rfl
  case lines =>
    intro c _ r _
    exact ⟨toNat_lineOfRow r.start.row, toNat_lineOfRow r.stop.row,
      Editor.Range.counts_toGrammar r.hasRows_toEditor⟩
  case same => rw [Item.toItem_toEditor, Item.withRows_eq_self_iff]
  case again => exact Editor.Item.toItem_toEditor_toItem i.hasRows_toEditor
  case actionable =>
    rw [Item.toItem_toEditor, Item.withRows, Option.map_map]
    rfl
  case target =>
    rw [Item.toItem_toEditor, Item.withRows, Option.map_map]
    exact Option.map_congr fun c _ => c.target?_withRows _

/-- **An item of the editor comes back in normal form.** Of the arguments of its command those that
are ranges are kept in their order, each with its lines counted from one. The item comes back as it
went if it is in normal form, and only then; what comes back is final. -/
theorem Editor.Item.toItem_and_back {i : Editor.Item} (hrows : i.HasRows) :
    (∀ c ∈ i.command, ∃ d ∈ i.toItem.command,
        List.Forall₂ Range.Counts
          ((c.arguments.getD []).filterMap fun v => (Range.decode v).toOption) d.arguments) ∧
      (i.toItem.toEditor = i ↔ i.Canonical) ∧
      i.toItem.toEditor.toItem = i.toItem := by
  refine ⟨fun c hc => ?_, toEditor_toItem_iff hrows, toItem_toEditor_toItem hrows⟩
  exact ⟨c.toItem, Option.mem_map_of_mem _ hc, Command.counts_toItem (hrows c hc)⟩

/-- A command with a range as an array, a range whose line is the last with a row, and no range. -/
theorem Editor.Item.toItem_and_back_mixedArguments :
    let position (line character : Nat) : Json := .array [.ofNat line, .ofNat character]
    let last : Range := ⟨⟨4294967294, 0⟩, ⟨4294967294, 7⟩⟩
    let i : Editor.Item := ⟨"'a'", 7, some ⟨"", "select",
      some [.array [position 3 1, position 3 4], last.encode, .string "x"]⟩, none, none⟩
    i.HasRows ∧ i.toItem.toEditor ≠ i ∧ i.toItem.toEditor.toItem = i.toItem := by
  intro position last i
  have hrows : i.HasRows := by decide +kernel
  obtain ⟨-, hsame, hfinal⟩ := toItem_and_back hrows
  refine ⟨hrows, fun heq => ?_, hfinal⟩
  have hcontext : i.contextValue.isSome := (hsame.mp heq).contextValue
  cases hcontext

end TokenOutline
