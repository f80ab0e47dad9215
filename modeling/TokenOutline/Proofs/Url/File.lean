import TokenOutline.Url.File
import TokenOutline.Proofs.Text.Utf8
import TokenOutline.Proofs.Url.Parser

/-!
# Which URLs go by one name

The name of a URL with a file is the text that the octets of its path show, and begins with a slash.
Any other URL goes by its own text, which begins with the letter of its scheme, so the two kinds of
name never meet. Among URLs with a file three things do not show in the name: the scheme, whether
the slash behind a drive at the end was there, and which octets stood where no scalar value could be
read.

Headlines:
* **`decode_text_segments`**: the octets of a path are those of its segments.
* **`fileName_eq_iff`**: which URLs go by one name.
* **`fileName_shared`**: what two URLs with one name have in common.
-/

namespace TokenOutline.Url

variable {s t : String} {u v : Url}

/-! ## Percent decoding in parts -/

namespace Percent

variable {b : UInt8} {bs ys : List UInt8}

/-- The octet is no `%` with two hexadecimal digits after it. -/
def StandsForItself (b : UInt8) (bs : List UInt8) : Prop :=
  b = 37 → ∀ x y rest, bs = x :: y :: rest → hexValue? x = none ∨ hexValue? y = none

theorem decodeOctets_cons (h : StandsForItself b bs) :
    decodeOctets (b :: bs) = b :: decodeOctets bs := by
  by_cases hb : b = 37
  · match bs with
    | [] | [_] => simp [decodeOctets]
    | x :: y :: rest =>
      subst hb
      rw [decodeOctets]
      split
      next a b hx hy =>
        obtain hnone | hnone := h rfl x y rest rfl
        · cases hx.symm.trans hnone
        · cases hy.symm.trans hnone
      next => rfl
  · rw [decodeOctets]
    exact fun _ _ _ h => absurd h hb

theorem StandsForItself.append (h : StandsForItself b bs)
    (hys : ∀ d ∈ ys.head?, hexValue? d = none) : StandsForItself b (bs ++ ys) := by
  intro hb x y rest heq
  match bs with
  | [] =>
    obtain rfl : ys = x :: y :: rest := heq
    exact .inl (hys x rfl)
  | [_] =>
    obtain ⟨rfl, rfl⟩ := List.cons.inj heq
    exact .inr (hys y rfl)
  | x' :: y' :: bs =>
    cases heq
    exact h hb x y bs rfl

/-- No `%` sequence goes across an octet that is no hexadecimal digit. -/
theorem decodeOctets_append (xs : List UInt8) (hys : ∀ d ∈ ys.head?, hexValue? d = none) :
    decodeOctets (xs ++ ys) = decodeOctets xs ++ decodeOctets ys := by
  fun_induction decodeOctets xs with
  | case1 => rfl
  | case2 a b bs x y hx hy ih => simp only [List.cons_append, decodeOctets, hx, hy, ih]
  | case3 a b bs hnone ih =>
    have hitself : StandsForItself 37 (a :: b :: bs) := by
      rintro - x y rest heq
      cases heq
      cases ha : hexValue? a with
      | none => exact .inl rfl
      | some x => exact .inr (Option.eq_none_iff_forall_ne_some.mpr fun y hb => hnone x y ha hb)
    rw [List.cons_append, decodeOctets_cons (hitself.append hys), ih, List.cons_append]
  | case4 b bs hne ih =>
    have hitself : StandsForItself b bs := fun hb x y rest heq => absurd heq (hne x y rest hb)
    rw [List.cons_append, decodeOctets_cons (hitself.append hys), ih, List.cons_append]

end Percent

/-! ## The octets of a path -/

/-- The octets of the path with its `%` sequences decoded. -/
def pathOctets (u : Url) : List UInt8 := Percent.decode u.path.text

theorem encode_text_segments (ss : List String) :
    Utf8.encode (Path.segments ss).text.toList =
      ss.flatMap fun s => 47 :: Utf8.encode s.toList := by
  rw [Path.text, String.toList_join, List.flatMap_map, Utf8.encode, List.flatMap_assoc]
  congr 1
  funext s
  rw [String.toList_append, List.flatMap_append]
  rfl

/-- **The octets of a path are those of its segments**, each after a slash. -/
theorem decode_text_segments (ss : List String) :
    Percent.decode (Path.segments ss).text = ss.flatMap fun s => 47 :: Percent.decode s := by
  rw [Percent.decode, encode_text_segments]
  induction ss with
  | nil => rfl
  | cons s ss ih =>
    -- what follows a segment is nothing or a slash, so that no `%` sequence goes beyond it
    have hslash : ∀ d ∈ (ss.flatMap fun s => 47 :: Utf8.encode s.toList).head?,
        Percent.hexValue? d = none := by
      cases ss with
      | nil => exact nofun
      | cons s ss =>
        rintro d hd
        obtain rfl : 47 = d := Option.some.inj hd
        rfl
    have hitself : ∀ bs, Percent.StandsForItself 47 bs := fun _ h => absurd h (by decide)
    rw [List.flatMap_cons, List.flatMap_cons, ← ih, List.cons_append,
      Percent.decodeOctets_cons (hitself _), Percent.decodeOctets_append _ hslash]
    rfl

/-! ## Drives -/

/-- The octets of a path with a slash behind a drive at the end. -/
def closeDrive (octets : List UInt8) : List UInt8 :=
  if endsInDrive octets then octets ++ [47] else octets

/-- The octets are the same, but for a slash that one of them has behind a drive at the end. -/
def SameButSlash (p q : List UInt8) : Prop :=
  p = q ∨ (endsInDrive p ∧ q = p ++ [47]) ∨ (endsInDrive q ∧ p = q ++ [47])

theorem endsInDrive_append_slash (p : List UInt8) : endsInDrive (p ++ [47]) = false := by
  unfold endsInDrive
  rw [List.reverse_append]
  cases p.reverse <;> simp

theorem closeDrive_eq_iff {p q : List UInt8} : closeDrive p = closeDrive q ↔ SameButSlash p q := by
  unfold closeDrive
  constructor
  · intro h
    by_cases hp : endsInDrive p
    · by_cases hq : endsInDrive q
      · rw [if_pos hp, if_pos hq] at h
        exact .inl (List.append_cancel_right h)
      · rw [if_pos hp, if_neg hq] at h
        exact .inr (.inl ⟨hp, h.symm⟩)
    · by_cases hq : endsInDrive q
      · rw [if_neg hp, if_pos hq] at h
        exact .inr (.inr ⟨hq, h⟩)
      · rw [if_neg hp, if_neg hq] at h
        exact .inl h
  · rintro (rfl | ⟨hp, rfl⟩ | ⟨hq, rfl⟩)
    · rfl
    · rw [if_pos hp, endsInDrive_append_slash, if_neg Bool.false_ne_true]
    · rw [if_pos hq, endsInDrive_append_slash, if_neg Bool.false_ne_true]

theorem isText_closeDrive {p : List UInt8} (h : Utf8.IsText p) : Utf8.IsText (closeDrive p) := by
  obtain ⟨cs, rfl⟩ := h
  unfold closeDrive
  split
  · exact ⟨cs ++ ['/'], by rw [Utf8.encode, Utf8.encode, List.flatMap_append]; rfl⟩
  · exact ⟨cs, rfl⟩

/-! ## URLs with a file -/

/-- The path begins with a slash, and the host is missing or the local machine. -/
def HasFile (u : Url) : Prop := u.isLocal ∧ ∃ s ss, u.path = .segments (s :: ss)

/-- A file URL of the local machine. -/
def IsLocalFile (u : Url) : Prop := u.scheme = "file" ∧ u.isLocal

theorem IsLocalFile.hasFile (h : u.IsLocalFile) (hu : parse s = .ok u) : u.HasFile :=
  ⟨h.2, exists_segments_of_file hu h.1⟩

theorem filePath?_of_hasFile (h : u.HasFile) : u.filePath? = some (closeDrive u.pathOctets) := by
  obtain ⟨hlocal, s, ss, hpath⟩ := h
  unfold filePath? pathOctets closeDrive
  rw [hpath, decode_text_segments]
  simp only [hlocal, if_true]

theorem filePath?_of_not_hasFile (h : ¬u.HasFile) : u.filePath? = none := by
  unfold filePath?
  split
  next s ss hpath => exact if_neg fun hlocal => h ⟨hlocal, s, ss, hpath⟩
  next => rfl

/-! ## Names -/

/-- A URL with a file goes by the text that the octets of its path show. -/
theorem shows_fileName (h : u.HasFile) :
    Utf8.Shows (closeDrive u.pathOctets) u.fileName.toList := by
  unfold fileName
  rw [filePath?_of_hasFile h]
  simp only [String.toList_ofList]
  exact Utf8.decodeLossy_eq_iff.mp rfl

theorem fileName_of_not_hasFile (h : ¬u.HasFile) : u.fileName = u.text := by
  unfold fileName
  rw [filePath?_of_not_hasFile h]

/-- The name of a file begins with a slash. -/
theorem head?_fileName_of_hasFile (h : u.HasFile) : u.fileName.toList.head? = some '/' := by
  have hslash : ∃ bs, closeDrive u.pathOctets = String.utf8EncodeChar '/' ++ bs := by
    obtain ⟨-, s, ss, hpath⟩ := h
    unfold closeDrive pathOctets
    rw [hpath, decode_text_segments]
    split <;> exact ⟨_, rfl⟩
  obtain ⟨bs, hbs⟩ := hslash
  have hshows := shows_fileName h
  rw [hbs] at hshows
  rw [hshows.unique (.char '/' (Utf8.shows_decodeLossy bs)), List.head?_cons]

/-- The text of a URL begins with a letter. -/
theorem exists_head?_text (hu : parse s = .ok u) :
    ∃ c, u.text.toList.head? = some c ∧ c.isAlpha := by
  obtain ⟨c, t, hscheme, hc⟩ := exists_scheme hu
  refine ⟨c, ?_, hc⟩
  unfold text
  simp only [String.toList_append, hscheme, List.cons_append, List.head?_cons]

theorem fileName_ne_text (h : u.HasFile) (hv : parse t = .ok v) : u.fileName ≠ v.text := by
  intro heq
  have hhead := head?_fileName_of_hasFile h
  obtain ⟨c, hc, hletter⟩ := exists_head?_text hv
  rw [heq, hc] at hhead
  obtain rfl : c = '/' := Option.some.inj hhead
  exact absurd hletter (by decide)

/-- **Which URLs go by one name.** Those with files whose paths show the same text, and those
without that have the same text themselves. -/
theorem fileName_eq_iff (hu : parse s = .ok u) (hv : parse t = .ok v) :
    u.fileName = v.fileName ↔
      (u.HasFile ∧ v.HasFile ∧ ∃ cs, Utf8.Shows (closeDrive u.pathOctets) cs ∧
        Utf8.Shows (closeDrive v.pathOctets) cs) ∨
      (¬u.HasFile ∧ ¬v.HasFile ∧ u.text = v.text) := by
  by_cases hfile : u.HasFile
  · by_cases hfile' : v.HasFile
    · simp only [hfile, hfile', true_and, not_true_eq_false, false_and, or_false]
      constructor
      · intro h
        exact ⟨u.fileName.toList, shows_fileName hfile, h ▸ shows_fileName hfile'⟩
      · rintro ⟨cs, hcs, hcs'⟩
        exact String.toList_inj.mp
          (((shows_fileName hfile).unique hcs).trans (hcs'.unique (shows_fileName hfile')))
    · -- a name that begins with a slash is the text of no URL
      simp only [hfile, hfile', false_and, and_false, not_true_eq_false, or_self, iff_false]
      rw [fileName_of_not_hasFile hfile']
      exact fileName_ne_text hfile hv
  · by_cases hfile' : v.HasFile
    · simp only [hfile, hfile', false_and, and_false, not_true_eq_false, or_self, iff_false]
      rw [fileName_of_not_hasFile hfile]
      exact (fileName_ne_text hfile' hu).symm
    · simp only [hfile, hfile', false_and, false_or, not_false_eq_true, true_and]
      rw [fileName_of_not_hasFile hfile, fileName_of_not_hasFile hfile']

/-- **What two URLs with one name have in common.** Either both have a file, as every file URL of
the local machine does, and one text is shown by the octets of both paths, a drive at the end being
closed by a slash; the octets are then the same but for that slash if they are text, or if the name
has no `U+FFFD`. Or neither has a file, and their texts are the same. -/
theorem fileName_shared (hu : parse s = .ok u) (hv : parse t = .ok v) :
    (u.IsLocalFile → u.HasFile) ∧
      (u.fileName = v.fileName →
        (u.HasFile ∧ v.HasFile ∧
          (∃ cs, Utf8.Shows (closeDrive u.pathOctets) cs ∧
            Utf8.Shows (closeDrive v.pathOctets) cs) ∧
          (Utf8.IsText u.pathOctets ∧ Utf8.IsText v.pathOctets ∨
              '\uFFFD' ∉ u.fileName.toList →
            SameButSlash u.pathOctets v.pathOctets)) ∨
        (¬u.HasFile ∧ ¬v.HasFile ∧ u.text = v.text)) := by
  refine ⟨fun hlocal => hlocal.hasFile hu, fun h => ?_⟩
  obtain ⟨hfile, hfile', cs, hcs, hcs'⟩ | hnone := (fileName_eq_iff hu hv).mp h
  · refine .inl ⟨hfile, hfile', ⟨cs, hcs, hcs'⟩, fun htext => closeDrive_eq_iff.mp ?_⟩
    rcases htext with ⟨htext, htext'⟩ | hplain
    · exact (isText_closeDrive htext).eq_of_shows (isText_closeDrive htext') hcs hcs'
    · rw [← hcs.unique (shows_fileName hfile)] at hplain
      exact (hcs.eq_encode hplain).trans (hcs'.eq_encode hplain).symm
  · exact .inr hnone

/-- Two URLs whose paths are the same but for the slash behind a drive. -/
theorem fileName_shared_drive :
    let u : Url := ⟨"file", some ⟨"", .empty, none⟩, .segments ["g", "c%3A"], none, none⟩
    let v : Url := ⟨"file", some ⟨"", .empty, none⟩, .segments ["g", "c:", ""], some "q", none⟩
    parse "file:///g/c%3A" = .ok u ∧ parse "FILE://localhost/g/./c:/?q" = .ok v ∧
      u.fileName = v.fileName ∧ u.HasFile ∧ u.pathOctets ≠ v.pathOctets ∧
      SameButSlash u.pathOctets v.pathOctets := by
  intro u v
  have hu : parse "file:///g/c%3A" = .ok u := by rfl
  have hv : parse "FILE://localhost/g/./c:/?q" = .ok v := by rfl
  have hname : u.fileName = v.fileName := by decide +kernel
  have hplain : '\uFFFD' ∉ u.fileName.toList := by decide +kernel
  have hshared := fileName_shared hu hv
  have hfile : u.HasFile := hshared.1 ⟨rfl, rfl⟩
  obtain ⟨-, -, -, hsame⟩ | ⟨hnone, -, -⟩ := hshared.2 hname
  · exact ⟨hu, hv, hname, hfile, by decide +kernel, hsame (.inr hplain)⟩
  · exact absurd hfile hnone

/-- The two URLs go by one name only as local files with one path, or as other URLs with one
text. -/
def ToldApart (s t : String) : Prop :=
  ∀ u v, parse s = .ok u → parse t = .ok v → u.fileName = v.fileName →
    (u.IsLocalFile ∧ v.IsLocalFile ∧ u.pathOctets = v.pathOctets) ∨
      (¬u.IsLocalFile ∧ ¬v.IsLocalFile ∧ u.text = v.text)

/-- Local files are told apart neither by octets where no scalar value can be read nor by the slash
behind a drive, and the scheme does not show. -/
theorem not_toldApart :
    ¬ToldApart "file:///%FE" "file:///%FF" ∧ ¬ToldApart "file:///c:" "file:///c:/" ∧
      ¬ToldApart "file:///g" "untitled:/g" := by
  let file (segments : List String) : Url :=
    ⟨"file", some ⟨"", .empty, none⟩, .segments segments, none, none⟩
  have hlocal : ∀ segments, (file segments).IsLocalFile := fun _ => ⟨rfl, rfl⟩
  refine ⟨fun h => ?octets, fun h => ?slash, fun h => ?scheme⟩
  case octets =>
    obtain ⟨-, -, hoctets⟩ | ⟨hnone, -, -⟩ :=
      h (file ["%FE"]) (file ["%FF"]) (by rfl) (by rfl) (by decide +kernel)
    · exact absurd hoctets (by decide +kernel)
    · exact hnone (hlocal _)
  case slash =>
    obtain ⟨-, -, hoctets⟩ | ⟨hnone, -, -⟩ :=
      h (file ["c:"]) (file ["c:", ""]) (by rfl) (by rfl) (by decide +kernel)
    · exact absurd hoctets (by decide +kernel)
    · exact hnone (hlocal _)
  case scheme =>
    obtain ⟨-, hfile, -⟩ | ⟨hnone, -, -⟩ :=
      h (file ["g"]) ⟨"untitled", none, .segments ["g"], none, none⟩ (by rfl) (by rfl)
        (by decide +kernel)
    · exact absurd hfile.1 (by decide)
    · exact hnone (hlocal _)

end TokenOutline.Url
