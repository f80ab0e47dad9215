import TokenOutline.Url.Parser

/-!
# What is true of every URL that is read

Headlines:
* **`exists_scheme`**: the scheme begins with a letter.
* **`exists_segments_of_file`**: the path of a file URL is cut into segments, at least one.
-/

namespace TokenOutline.Url

variable {s scheme : String} {u : Url} {cs rest : List Char} {segments : List (List Char)}

/-! ## Schemes -/

/-- A letter of either case is one in lower case. -/
theorem isAlpha_toLower {c : Char} (h : c.isAlpha) : c.toLower.isAlpha := by
  unfold Char.toLower
  split
  next hupper =>
    have hlow : 65 ≤ c.val.toNat := UInt32.le_iff_toNat_le.mp hupper.1
    have hhigh : c.val.toNat ≤ 90 := UInt32.le_iff_toNat_le.mp hupper.2
    refine (Bool.or_eq_true _ _).mpr (.inr ((Bool.and_eq_true _ _).mpr
      ⟨decide_eq_true ?_, decide_eq_true ?_⟩))
    all_goals
      simp only [ge_iff_le, UInt32.le_iff_toNat_le, UInt32.toNat_add, UInt32.toNat_sub,
        Char.reduceVal, UInt32.reduceToNat]
      omega
  next => exact h

theorem exists_readScheme (h : readScheme cs = some (scheme, rest)) :
    ∃ c t, scheme.toList = c :: t ∧ c.isAlpha := by
  cases cs with
  | nil => cases h
  | cons c cs =>
    simp only [readScheme] at h
    split at h
    next halpha hcolon =>
      obtain rfl := (Prod.mk.inj (Option.some.inj h)).1
      have hchar : isSchemeChar c := by simp [isSchemeChar, Char.isAlphanum, halpha]
      rw [List.takeWhile_cons_of_pos hchar]
      exact ⟨c.toLower, _, String.toList_ofList, isAlpha_toLower halpha⟩
    next => cases h

theorem Kind.ofScheme_eq_file_iff : Kind.ofScheme scheme = .file ↔ scheme = "file" := by
  unfold Kind.ofScheme
  split
  next h => simp [h]
  next h => split <;> simp [h]

/-! ## Paths of segments -/

theorem Walk.step_ne_nil (file : Bool) (w : Walk) (segment : List Char) :
    (w.step file segment true).done ≠ [] := by
  unfold Walk.step
  split
  next => exact List.cons_ne_nil _ _
  split
  next => exact List.cons_ne_nil _ _
  next =>
    unfold Walk.ordinary
    split <;> exact List.cons_ne_nil _ _

/-- The last segment always leaves one behind. -/
theorem Walk.all_ne_nil (file : Bool) (h : segments ≠ []) (w : Walk) :
    (Walk.all file segments w).done ≠ [] := by
  fun_induction Walk.all file segments w with
  | case1 => exact absurd rfl h
  | case2 s w => exact w.step_ne_nil file s
  | case3 w s segments hne ih => exact ih (by simpa using hne)

theorem dropEmptyHeads_ne_nil (h : segments ≠ []) : dropEmptyHeads segments ≠ [] := by
  fun_induction dropEmptyHeads segments with
  | case1 s ss ih => exact ih (List.cons_ne_nil _ _)
  | case2 => exact h

theorem exists_readSegments (file special : Bool) (cs : List Char) :
    ∃ s ss, (readSegments file special cs).1 = .segments (s :: ss) := by
  have hparts := Text.splitOn_ne_nil (fun c => c = '/' || (special && c = '\\')) cs
  have hdone := Walk.all_ne_nil file
    (mt (List.map_eq_nil_iff (f := Percent.encode Percent.inPath)).mp hparts) ⟨[], false⟩
  have hreverse := mt List.reverse_eq_nil_iff.mp hdone
  suffices hsegments : ∀ segments : List (List Char), segments ≠ [] →
      ∃ s ss, Path.segments (segments.map String.ofList) = .segments (s :: ss) by
    unfold readSegments
    cases file with
    | true => exact hsegments _ (dropEmptyHeads_ne_nil hreverse)
    | false => exact hsegments _ hreverse
  intro segments hne
  obtain ⟨s, ss, rfl⟩ := List.exists_cons_of_ne_nil hne
  exact ⟨String.ofList s, ss.map String.ofList, rfl⟩

/-! ## The kinds of URL -/

theorem scheme_parseAuthority (h : parseAuthority scheme cs = .ok u) : u.scheme = scheme := by
  unfold parseAuthority at h
  simp only at h
  rcases hread : readAuthority scheme cs with e | ⟨authority, rest⟩
  · rw [hread] at h
    cases h
  · rw [hread] at h
    cases h
    rfl

theorem scheme_parseOther (h : parseOther scheme cs = .ok u) : u.scheme = scheme := by
  unfold parseOther at h
  simp only at h
  split at h
  next => exact scheme_parseAuthority h
  next =>
    cases h
    rfl
  next =>
    cases h
    rfl

/-- Every way through a file URL ends in `fileUrl`. -/
theorem exists_fileUrl (h : parseFile cs = .ok u) : ∃ host path, u = fileUrl host path := by
  have hpure : ∀ {host : Host} {path : List Char},
      (.ok (fileUrl host path) : Except Error Url) = .ok u → ∃ host path, u = fileUrl host path :=
    fun h => ⟨_, _, (Except.ok.inj h).symm⟩
  unfold parseFile at h
  split at h
  next c d cs =>
    split at h
    next =>
      split at h
      next =>
        simp only at h
        split at h
        next => exact hpure h
        next =>
          rcases hhost : readFileHost (cs.takeWhile (!endsAuthority .file ·)) with e | host
          · rw [hhost] at h
            cases h
          · rw [hhost] at h
            simp only [bind, Except.bind] at h
            split at h <;> exact hpure h
      next => exact hpure h
    next => exact hpure h
  next => exact hpure h
  next => exact hpure h

/-- **The scheme begins with a letter.** -/
theorem exists_scheme (h : parse s = .ok u) : ∃ c t, u.scheme.toList = c :: t ∧ c.isAlpha := by
  unfold parse at h
  split at h
  next => cases h
  next scheme rest hscheme =>
    split at h
    next =>
      obtain ⟨host, path, rfl⟩ := exists_fileUrl h
      exact ⟨'f', "ile".toList, show "file".toList = _ by decide, by decide⟩
    next => exact scheme_parseAuthority h ▸ exists_readScheme hscheme
    next => exact scheme_parseOther h ▸ exists_readScheme hscheme

/-- **The path of a file URL is cut into segments**, at least one. -/
theorem exists_segments_of_file (h : parse s = .ok u) (hfile : u.scheme = "file") :
    ∃ s ss, u.path = .segments (s :: ss) := by
  unfold parse at h
  split at h
  next => cases h
  next scheme rest hscheme =>
    split at h
    next =>
      obtain ⟨host, path, rfl⟩ := exists_fileUrl h
      exact exists_readSegments true true _
    next hkind =>
      rw [Kind.ofScheme_eq_file_iff.mpr (scheme_parseAuthority h ▸ hfile)] at hkind
      cases hkind
    next hkind =>
      rw [Kind.ofScheme_eq_file_iff.mpr (scheme_parseOther h ▸ hfile)] at hkind
      cases hkind

end TokenOutline.Url
