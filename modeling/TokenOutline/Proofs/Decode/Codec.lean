import TokenOutline.Editor.Params
import TokenOutline.Grammar.Vocabulary
import TokenOutline.Proofs.Decode.Format

/-!
# What is written and read

Vocabularies, ranges and symbols of a grammar come from its analysis as JSON values; items and the
parameters of the outline's own messages pass between a server and an editor. All of them are read
as they are written, and read from a value of which only their own fields count.

Headlines:
* `Codec`, `Codec.Faithful`: how a type is written and read, and that this loses and adds nothing.
* `decode_encode` of each type: what is written reads back.
* `respects` of each type: its fields, and nothing else, are what is read.
* **`codecs_faithful`**: both, of all that is written and read.
-/

namespace TokenOutline

/-! ## Codecs -/

/-- How the values of a type are written and read. -/
structure Codec (α : Type) where
  encode : α → Json
  decode : Decoder α
  format : Format
  /-- The URLs in a value. -/
  urls : α → List Url := fun _ => []

/-- Writing and reading fit each other. A URL is written as its text, and read from any text. -/
structure Codec.Faithful (c : Codec α) : Prop where
  /-- What is written is read back, if the texts of its URLs are. -/
  decode_encode : ∀ a, (∀ u ∈ c.urls a, Url.parse u.text = .ok u) → c.decode (c.encode a) = .ok a
  /-- Members that name no field do not count, nor does leaving out a null. -/
  decode_loosened : ∀ v w, Relation.ReflTransGen c.format.Loosens v w → c.decode w = c.decode v
  /-- Writing what was read gives a value that is read the same. -/
  decode_encode_of_decode : ∀ v a, c.decode v = .ok a →
    (∀ u ∈ c.urls a, Url.parse u.text = .ok u) → c.decode (c.encode a) = c.decode v

theorem Codec.faithful_of {c : Codec α}
    (hback : ∀ a, (∀ u ∈ c.urls a, Url.parse u.text = .ok u) → c.decode (c.encode a) = .ok a)
    (hformat : c.format.Respects c.decode) : c.Faithful where
  decode_encode := hback
  decode_loosened _ _ := hformat.of_loosened
  decode_encode_of_decode _ a ha hurls := (hback a hurls).trans ha.symm

open Decoder

/-! ## Vocabularies -/

namespace Vocabulary

/-- The fields of a vocabulary. -/
def format : Format := .record [("literalNames", .whole), ("symbolicNames", .whole)]

/-- Vocabularies. -/
def codec : Codec Vocabulary := { encode, decode, format }

theorem decodeNames_encodeNames (names : List (Option String)) :
    decodeNames (encodeNames names) = .ok names :=
  list_map fun _ _ => nullable_ofOption (by simp) fun _ _ => rfl

theorem decode_encode (v : Vocabulary) : decode v.encode = .ok v := by
  refine Record.Reads.decode (.field (.field (.of _ (by simp)) ?_) ?_) _
  · exact decodeNames_encodeNames v.literalNames
  · exact decodeNames_encodeNames v.symbolicNames

theorem respects : format.Respects decode := by
  refine Record.Respects.decode (.field (.field (.of _) rfl ?_ (by decide)) rfl ?_ (by decide)) _
  · exact Field.respects_whole _
  · exact Field.respects_whole _

end Vocabulary

/-! ## Symbols of a grammar -/

namespace Grammar

/-- The fields of a position. -/
def Position.format : Format := .record [("row", .whole), ("column", .whole)]

/-- The fields of a range. -/
def Range.format : Format := .record [("start", Position.format), ("end", Position.format)]

/-- The fields of a definition. -/
def Definition.format : Format := .record [("text", .whole), ("range", Range.format)]

/-- The fields of a symbol. -/
def Symbol.format : Format := .record [("name", .whole), ("kind", .nullable .whole),
  ("source", .nullable .whole), ("definition", .nullable Definition.format)]

/-- Ranges of a grammar. -/
def Range.codec : Codec Range := { encode, decode, format }

/-- Symbols of a grammar. -/
def Symbol.codec : Codec Symbol := { encode, decode, format }

theorem Position.decode_encode (p : Position) : decode p.encode = .ok p := by
  refine Record.Reads.decode (.field (.field (.of _ (by simp)) ?_) ?_) _
  · exact word32_ofNat p.row
  · exact word32_ofNat p.column

theorem Range.decode_encode (r : Range) : decode r.encode = .ok r := by
  refine Record.Reads.decode (.field (.field (.of _ (by simp)) ?_) ?_) _
  · exact r.start.decode_encode
  · exact r.stop.decode_encode

theorem Definition.decode_encode (d : Definition) : decode d.encode = .ok d := by
  refine Record.Reads.decode (.field (.field (.of _ (by simp)) ?_) ?_) _
  · rfl
  · exact d.range.decode_encode

theorem Symbol.decode_encode (s : Symbol) : decode s.encode = .ok s := by
  refine Record.Reads.decode (.field (.field (.field (.field (.of _ (by simp)) ?_) ?_) ?_) ?_) _
  · rfl
  · exact nullable_ofOption (by simp) fun _ _ => rfl
  · exact nullable_ofOption (by simp) fun _ _ => rfl
  · exact nullable_ofOption (by simp [Definition.encode]) fun d _ => d.decode_encode

theorem Position.respects : format.Respects decode := by
  refine Record.Respects.decode (.field (.field (.of _) rfl ?_ (by decide)) rfl ?_ (by decide)) _
  · exact Field.respects_whole _
  · exact Field.respects_whole _

theorem Range.respects : format.Respects decode := by
  refine Record.Respects.decode (.field (.field (.of _) rfl ?_ (by decide)) rfl ?_ (by decide)) _
  · exact Field.respects_required _ Position.respects
  · exact Field.respects_required _ Position.respects

theorem Definition.respects : format.Respects decode := by
  refine Record.Respects.decode (.field (.field (.of _) rfl ?_ (by decide)) rfl ?_ (by decide)) _
  · exact Field.respects_whole _
  · exact Field.respects_required _ Range.respects

theorem Symbol.respects : format.Respects decode := by
  refine Record.Respects.decode (.field (.field (.field (.field (.of _)
    rfl ?_ (by decide)) rfl ?_ (by decide)) rfl ?_ (by decide)) rfl ?_ (by decide)) _
  · exact Field.respects_whole _
  · exact Field.respects_defaulted _ (Format.respects_whole _)
  · exact Field.respects_defaulted _ (Format.respects_whole _)
  · exact Field.respects_defaulted _ Definition.respects

end Grammar

/-! ## Items of an editor -/

namespace Editor

/-- The fields of icons. -/
def iconsFormat : Format := .record [("light", .whole), ("dark", .whole)]

/-- The fields of a command; its arguments are any values, of which all counts. -/
def Command.format : Format :=
  .record [("title", .whole), ("command", .whole), ("arguments", .nullable .whole)]

/-- The fields of an item. -/
def Item.format : Format := .record [("label", .whole), ("collapsibleState", .whole),
  ("command", .nullable Command.format), ("contextValue", .nullable .whole),
  ("iconPath", .nullable iconsFormat)]

/-- Items as the editor sends them. -/
def Item.codec : Codec Item := { encode, decode, format }

theorem decodeIcons_encodeIcons (i : Icons) : decodeIcons (encodeIcons i) = .ok i := by
  refine Record.Reads.decode (.field (.field (.of _ (by simp)) ?_) ?_) _
  · rfl
  · rfl

theorem Command.decode_encode (c : Command) : decode c.encode = .ok c := by
  obtain ⟨title, name, arguments⟩ := c
  cases arguments with
  | none =>
    refine Record.Reads.decode (.field (.field (.field (.of _ (by simp)) ?_) ?_) ?_) _
    · rfl
    · rfl
    · exact Field.ofMembers_of_absent rfl rfl
  | some arguments =>
    refine Record.Reads.decode (.field (.field (.field (.of _ (by simp)) ?_) ?_) ?_) _
    · rfl
    · rfl
    · exact congrArg (Except.map some) (list_json arguments)

theorem Item.decode_encode (i : Item) : decode i.encode = .ok i := by
  refine Record.Reads.decode
    (.field (.field (.field (.field (.field (.of _ (by simp)) ?_) ?_) ?_) ?_) ?_) _
  · rfl
  · exact word8_ofNat i.collapsible
  · exact nullable_ofOption (by simp [Command.encode]) fun c _ => c.decode_encode
  · exact nullable_ofOption (by simp) fun _ _ => rfl
  · exact nullable_ofOption (by simp [encodeIcons]) fun x _ => decodeIcons_encodeIcons x

theorem respects_decodeIcons : iconsFormat.Respects decodeIcons := by
  refine Record.Respects.decode (.field (.field (.of _) rfl ?_ (by decide)) rfl ?_ (by decide)) _
  · exact Field.respects_whole _
  · exact Field.respects_whole _

theorem Command.respects : format.Respects decode := by
  refine Record.Respects.decode (.field (.field (.field (.of _)
    rfl ?_ (by decide)) rfl ?_ (by decide)) rfl ?_ (by decide)) _
  · exact Field.respects_whole _
  · exact Field.respects_whole _
  · exact Field.respects_optional _ (Format.respects_whole _)

theorem Item.respects : format.Respects decode := by
  refine Record.Respects.decode (.field (.field (.field (.field (.field (.of _)
    rfl ?_ (by decide)) rfl ?_ (by decide)) rfl ?_ (by decide)) rfl ?_ (by decide))
    rfl ?_ (by decide)) _
  · exact Field.respects_whole _
  · exact Field.respects_whole _
  · exact Field.respects_defaulted _ Command.respects
  · exact Field.respects_defaulted _ (Format.respects_whole _)
  · exact Field.respects_defaulted _ respects_decodeIcons

/-! ## Parameters of messages -/

/-- The fields of a document. -/
def DocumentId.format : Format := .record [("uri", .whole)]

/-- The fields of a request for items. -/
def OutlineParams.format : Format := .record
  [("textDocument", .nullable DocumentId.format), ("item", .nullable Item.format)]

/-- The fields of the active document. -/
def ActiveParams.format : Format := .record [("uri", .nullable .whole)]

/-- The fields of the changed document. -/
def ChangedParams.format : Format := .record [("uri", .nullable .whole)]

/-- Requests for items. -/
def OutlineParams.codec : Codec OutlineParams :=
  { encode, decode, format, urls := fun p => p.document.toList.map (·.uri) }

/-- Messages that tell which document is active. -/
def ActiveParams.codec : Codec ActiveParams :=
  { encode, decode, format, urls := fun p => p.uri.toList }

/-- Messages that tell for which document the outline changed. -/
def ChangedParams.codec : Codec ChangedParams :=
  { encode, decode, format, urls := fun p => p.uri.toList }

theorem DocumentId.decode_encode {d : DocumentId} (h : Url.parse d.uri.text = .ok d.uri) :
    decode d.encode = .ok d := by
  refine Record.Reads.decode (.field (.of _ (by simp)) ?_) _
  exact (Field.ofMembers_required rfl).trans (url_text h)

theorem OutlineParams.decode_encode {p : OutlineParams}
    (h : ∀ d ∈ p.document, Url.parse d.uri.text = .ok d.uri) : decode p.encode = .ok p := by
  refine Record.Reads.decode (.field (.field (.of _ (by simp)) ?_) ?_) _
  · exact nullable_ofOption (by simp [DocumentId.encode]) fun d hd =>
      DocumentId.decode_encode (h d hd)
  · exact nullable_ofOption (by simp [Item.encode]) fun i _ => i.decode_encode

theorem ActiveParams.decode_encode {p : ActiveParams}
    (h : ∀ u ∈ p.uri, Url.parse u.text = .ok u) : decode p.encode = .ok p := by
  refine Record.Reads.decode (.field (.of _ (by simp)) ?_) _
  exact nullable_ofOption (by simp) fun u hu => url_text (h u hu)

theorem ChangedParams.decode_encode {p : ChangedParams}
    (h : ∀ u ∈ p.uri, Url.parse u.text = .ok u) : decode p.encode = .ok p := by
  refine Record.Reads.decode (.field (.of _ (by simp)) ?_) _
  exact nullable_ofOption (by simp) fun u hu => url_text (h u hu)

theorem DocumentId.respects : format.Respects decode := by
  refine Record.Respects.decode (.field (.of _) rfl ?_ (by decide)) _
  exact Field.respects_whole _

theorem OutlineParams.respects : format.Respects decode := by
  refine Record.Respects.decode (.field (.field (.of _) rfl ?_ (by decide)) rfl ?_ (by decide)) _
  · exact Field.respects_defaulted _ DocumentId.respects
  · exact Field.respects_defaulted _ Item.respects

theorem ActiveParams.respects : format.Respects decode := by
  refine Record.Respects.decode (.field (.of _) rfl ?_ (by decide)) _
  exact Field.respects_defaulted _ (Format.respects_whole _)

theorem ChangedParams.respects : format.Respects decode := by
  refine Record.Respects.decode (.field (.of _) rfl ?_ (by decide)) _
  exact Field.respects_optional _ (Format.respects_whole _)

end Editor

/-! ## All that is written and read -/

/-- **What is written and read.** Every vocabulary, range, symbol and item, and the parameters of
every message of the outline, are read back from what they are written as, a URL if its text is.
Members that name no field and nulls that are left out, at any depth, do not show in what is read,
and what was read once is read again from what it is written as. -/
theorem codecs_faithful :
    Vocabulary.codec.Faithful ∧ Grammar.Range.codec.Faithful ∧ Grammar.Symbol.codec.Faithful ∧
      Editor.Item.codec.Faithful ∧ Editor.OutlineParams.codec.Faithful ∧
      Editor.ActiveParams.codec.Faithful ∧ Editor.ChangedParams.codec.Faithful := by
  refine ⟨?vocabulary, ?range, ?symbol, ?item, ?outline, ?active, ?changed⟩
  case vocabulary => exact Codec.faithful_of (fun v _ => v.decode_encode) Vocabulary.respects
  case range => exact Codec.faithful_of (fun r _ => r.decode_encode) Grammar.Range.respects
  case symbol => exact Codec.faithful_of (fun s _ => s.decode_encode) Grammar.Symbol.respects
  case item => exact Codec.faithful_of (fun i _ => i.decode_encode) Editor.Item.respects
  case outline =>
    refine Codec.faithful_of (fun p hurls => ?_) Editor.OutlineParams.respects
    exact Editor.OutlineParams.decode_encode fun d hd =>
      hurls d.uri (List.mem_map_of_mem (Option.mem_toList.mpr hd))
  case active =>
    refine Codec.faithful_of (fun p hurls => ?_) Editor.ActiveParams.respects
    exact Editor.ActiveParams.decode_encode fun u hu => hurls u (Option.mem_toList.mpr hu)
  case changed =>
    refine Codec.faithful_of (fun p hurls => ?_) Editor.ChangedParams.respects
    exact Editor.ChangedParams.decode_encode fun u hu => hurls u (Option.mem_toList.mpr hu)

/-- A request for the items of a document, with a version that is not read and without an item. -/
theorem codecs_faithful_document :
    let u : Url := ⟨"file", some ⟨"", .empty, none⟩, .segments ["g"], none, none⟩
    let strict : Json := Editor.OutlineParams.encode ⟨some ⟨u⟩, none⟩
    let loose : Json := .object
      [("textDocument", .object [("uri", .string u.text), ("version", .ofNat 7)])]
    Url.parse u.text = .ok u ∧ Editor.OutlineParams.decode strict = .ok ⟨some ⟨u⟩, none⟩ ∧
      Relation.ReflTransGen Editor.OutlineParams.format.Loosens strict loose ∧
      Editor.OutlineParams.decode loose = .ok ⟨some ⟨u⟩, none⟩ := by
  intro u strict loose
  have hfaithful := codecs_faithful.2.2.2.2.1
  have hurl : Url.parse u.text = .ok u := by decide +kernel
  have hstrict := hfaithful.decode_encode ⟨some ⟨u⟩, none⟩ (List.forall_mem_singleton.mpr hurl)
  have hitem : Editor.OutlineParams.format.Loosens strict (.object [("textDocument", _)]) :=
    @Format.Loosens.leavesOut _ [] _ _ _ (List.mem_cons_of_mem _ List.mem_cons_self) (by decide)
  have hversion : Editor.DocumentId.format.Loosens (.object [("uri", .string u.text)])
      (.object [("uri", .string u.text), ("version", .ofNat 7)]) :=
    @Format.Loosens.adds _ [_] [] _ (.ofNat 7) (by decide)
  have hdocument : Editor.OutlineParams.format.Loosens (.object [("textDocument", _)]) loose :=
    @Format.Loosens.member _ [] _ _ _ _ _ List.mem_cons_self (.present hversion)
  have hloose := Relation.ReflTransGen.tail (.single hitem) hdocument
  exact ⟨hurl, hstrict, hloose, (hfaithful.decode_loosened _ _ hloose).trans hstrict⟩

end TokenOutline
