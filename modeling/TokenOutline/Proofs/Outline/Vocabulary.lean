import Mathlib.Data.List.Nodup
import TokenOutline.Proofs.Outline.Answer

/-!
# What a vocabulary shows in the outline

An outline sees the tokens of a vocabulary and nothing else of it. Each token shows by its caption,
which tells it apart from all others of the vocabulary and from the end of input. A name that is
missing and an empty one make the same tokens, and so the same runs.

Headlines:
* **`captions_identify_tokens`**: captions tell tokens apart, and so do the labels of a build.
* `Outline.run_sameNames`: two runs whose vocabularies only differ where they have no names.
* **`tokens_by_slot_and_name`**: there is a token for each slot of a vocabulary, and the tokens, and
  with them all runs, depend on the names alone.
-/

namespace TokenOutline

/-! ## Labels -/

theorem Build.labels_items {v : Vocabulary} (s : Settings) {xs : List (Option Grammar.Symbol)}
    (hxs : xs.length = v.size) :
    (items s v.tokens xs).map (·.label) = Token.eofCaption :: v.tokens.map Token.caption := by
  rw [items_tokens s hxs, List.map_cons, List.map_map, Vocabulary.tokens, List.map_map]
  rfl

/-- The end of input and the tokens of a vocabulary have captions that all differ. -/
theorem Vocabulary.nodup_captions (v : Vocabulary) :
    (Token.eofCaption :: v.tokens.map Token.caption).Nodup := by
  have hindices : (v.tokens.map Token.caption).map Token.indexOfCaption =
      (List.range v.size).map Int.ofNat := by
    rw [tokens, List.map_map, List.map_map]
    exact List.map_congr_left fun i _ => Token.indexOfCaption_caption _
  refine List.Nodup.of_map Token.indexOfCaption ?_
  rw [List.map_cons, hindices, Token.indexOfCaption_eofCaption, List.nodup_cons]
  exact ⟨by simp, List.Nodup.map (fun _ _ => Int.ofNat.inj) List.nodup_range⟩

section

variable {ι : Type} [DecidableEq ι]

/-- **Captions tell tokens apart.** The index of a token is read back from its caption, so equal
captions are those of equal indices; and if its symbolic name is missing, or has no space and no
`<`, all of the token is. So the labels of the items of a build, that of the end of input included,
all differ, whatever the names are. -/
theorem captions_identify_tokens :
    (∀ t u : Token, t.caption = u.caption → t.index = u.index) ∧
    (∀ t u : Token, t.IsPlain → u.IsPlain → t.caption = u.caption → t = u) ∧
    (∀ t : Token, Token.indexOfCaption t.caption = t.index ∧
      (t.IsPlain → Token.ofCaption t.caption = t)) ∧
    ∀ (service : Analysis) (settings : Settings) (ss : List (Outline.Step ι)) (k : Nat) (id : ι)
      (file : String) (v : Vocabulary),
      let o : Outline ι := .ofService service settings
      o.Starts ss k id file v → ∀ f ∈ o.finishedOf ss k, ∀ items, f.answer = .ok (some items) →
        (items.map (·.label)).Nodup := by
  refine ⟨fun t u h => ?_, fun t u ht hu h => ?_,
    fun t => ⟨t.indexOfCaption_caption, Token.ofCaption_caption⟩, ?_⟩
  · rw [← t.indexOfCaption_caption, h, u.indexOfCaption_caption]
  · rw [← Token.ofCaption_caption ht, h, Token.ofCaption_caption hu]
  · intro service settings ss k id file v o hstarts f hf items hok
    obtain ⟨b, outcome, hsteps, hout, rfl⟩ := Outline.of_mem_finishedOf hstarts hf
    cases outcome with
    | error err => exact absurd hok (by simp [Except.map])
    | ok out =>
      obtain rfl := Option.some.inj (Except.ok.inj hok)
      obtain ⟨xs, hlen, rfl, -⟩ := hsteps.records.outcome_ok hout
      have htokens : b.tokens = v.tokens := hsteps.tokens_eq
      rw [htokens, Vocabulary.length_tokens] at hlen
      rw [htokens, Build.labels_items b.settings hlen]
      exact v.nodup_captions

end

/-- Two literals, of which the second looks like the words for a missing name. -/
theorem captions_identify_tokens_twoBuilt :
    let v : Vocabulary := ⟨[some "'a'", some "<unused>"], []⟩
    let service : Analysis := ⟨[("*", some v)], [], ⟨[], false⟩⟩
    let o : Outline Nat := .ofService service .standard
    let ss := [.request 0 (some "g") none]
    o.Starts ss 0 0 "g" v ∧
      (∃ f ∈ o.finishedOf ss 0, ∃ items, f.answer = .ok (some items) ∧ items.length = 3 ∧
        (items.map (·.label)).Nodup) ∧
      Token.ofCaption (Token.ofVocabulary v 1).caption = Token.ofVocabulary v 1 := by
  intro v service o ss
  obtain ⟨-, -, hread, hlabels⟩ := captions_identify_tokens (ι := Nat)
  have hstarts : o.Starts ss 0 0 "g" v := ⟨rfl, rfl⟩
  have hanswered : _ ∈ o.finishedOf ss 0 := List.mem_singleton_self _
  refine ⟨hstarts, ⟨_, hanswered, _, rfl, rfl, ?_⟩, (hread _).2 fun _ h => ?_⟩
  · exact hlabels service .standard ss 0 0 "g" v hstarts _ hanswered _ rfl
  · cases h

/-! ## Services that only differ where there are no names -/

namespace Analysis

/-- Services that only differ where their vocabularies have no names. -/
structure SameNames (a a' : Analysis) : Prop where
  symbols : a'.symbols = a.symbols
  gates : a'.gates = a.gates
  vocabularies : List.Forall₂
    (fun e e' => e'.1 = e.1 ∧ Option.Rel Vocabulary.SameNames e.2 e'.2)
    a.vocabularies a'.vocabularies

/-- Changes of a service that only differ where the vocabulary that they give a file has no
names. -/
inductive Step.SameNames : Step → Step → Prop where
  | same (s : Step) : SameNames s s
  | vocabulary (file : String) {v w : Option Vocabulary}
      (h : Option.Rel Vocabulary.SameNames v w) :
      SameNames (.setVocabulary file v) (.setVocabulary file w)

variable {a a' : Analysis}

theorem SameNames.step {s s' : Step} (h : a.SameNames a') (hs : s.SameNames s') :
    (a.step s).SameNames (a'.step s') := by
  obtain ⟨hsymbols, hgates, htable⟩ := h
  cases hs with
  | vocabulary file hv => exact ⟨hsymbols, hgates, .cons ⟨rfl, hv⟩ htable⟩
  | same s =>
    cases s with
    | release key => exact ⟨hsymbols, congrArg (·.set key false) hgates, htable⟩
    | close key => exact ⟨hsymbols, congrArg (·.set key true) hgates, htable⟩
    | setVocabulary file v =>
      refine ⟨hsymbols, hgates, .cons ⟨rfl, ?_⟩ htable⟩
      cases v with
      | none => exact .none
      | some v => exact .some (.refl v)
    | setSymbol file key r =>
      refine ⟨?_, hgates, htable⟩
      simp only [Analysis.step, hsymbols]

theorem SameNames.isOpen_eq (h : a.SameNames a') (key : String) : a'.isOpen key = a.isOpen key := by
  rw [isOpen, isOpen, h.gates]

theorem SameNames.reply_eq (h : a.SameNames a') (file key : String) :
    a'.reply file key = a.reply file key := by
  rw [reply, reply, h.symbols]

theorem SameNames.genuine (h : a.SameNames a') {e : Build.LookupEvent} {file : String}
    (he : e.Genuine a file) : e.Genuine a' file := by
  cases e with
  | started => trivial
  | answered i key r => exact Eq.trans he (h.reply_eq file key).symm

theorem tokens_eq_of_rel {v w : Option Vocabulary} (h : Option.Rel Vocabulary.SameNames v w) :
    w.map Vocabulary.tokens = v.map Vocabulary.tokens := by
  cases h with
  | none => rfl
  | some h => exact congrArg some h.tokens_eq.1

/-- Both services have a vocabulary with the same tokens for a file, or none. -/
theorem SameNames.tokens_eq (h : a.SameNames a') (file : String) :
    (a'.vocabulary? file).map Vocabulary.tokens = (a.vocabulary? file).map Vocabulary.tokens := by
  have hlookup : ∀ name, (a'.vocabularies.lookup name).map (Option.map Vocabulary.tokens) =
      (a.vocabularies.lookup name).map (Option.map Vocabulary.tokens) := by
    intro name
    have htable := h.vocabularies
    generalize a.vocabularies = table at htable
    generalize a'.vocabularies = table' at htable
    induction htable with
    | nil => rfl
    | @cons e e' _ _ he _ ih =>
      rw [List.lookup_cons, List.lookup_cons, he.1]
      cases name == e.1 with
      | false => exact ih
      | true => exact congrArg some (tokens_eq_of_rel he.2)
  simp only [vocabulary?, entryFor, ← Option.join_map_eq_map_join, Option.map_or, hlookup]

end Analysis

/-! ## Runs that only differ where there are no names -/

namespace Outline

variable {ι : Type} {o : Outline ι} {a a' : Analysis}

/-- Steps that only differ where a vocabulary that they give a file has no names. -/
inductive Step.SameNames : Step ι → Step ι → Prop where
  | same (s : Step ι) : SameNames s s
  | service {c c' : Analysis.Step} (h : c.SameNames c') : SameNames (.service c) (.service c')

theorem startBuild_sameNames (h : o.service.SameNames a') (id : ι) (file : String)
    (tokens : List Token) :
    ({ o with service := a' } : Outline ι).startBuild id file tokens =
      ({ (o.startBuild id file tokens).1 with service := a' },
        (o.startBuild id file tokens).2) := by
  have hstart : (Build.ofTokens file o.settings tokens).start a' =
      (Build.ofTokens file o.settings tokens).start o.service :=
    Build.launch_congr _ _ tokens _ (fun t _ => h.isOpen_eq t.key) fun e he =>
      h.genuine (Build.launch_genuine _ tokens _ e he)
  simp only [startBuild, hstart]
  cases ((Build.ofTokens file o.settings tokens).start o.service).1.outcome? <;> rfl

theorem request_sameNames (h : o.service.SameNames a') (id : ι) (file : Option String)
    (below : Option Item) :
    ({ o with service := a' } : Outline ι).request id file below =
      ({ (o.request id file below).1 with service := a' }, (o.request id file below).2) := by
  cases below with
  | some item => rfl
  | none =>
    cases file with
    | none => rfl
    | some file =>
      have htokens := h.tokens_eq file
      simp only [request]
      cases hv : o.service.vocabulary? file with
      | none =>
        rw [hv, Option.map_none, Option.map_eq_none_iff] at htokens
        simp only [htokens]
        rfl
      | some v =>
        rw [hv, Option.map_some, Option.map_eq_some_iff] at htokens
        obtain ⟨w, hw, htokens⟩ := htokens
        simp only [hw, htokens]
        exact startBuild_sameNames h id file v.tokens

theorem releaseAll_sameNames (h : a.SameNames a') (key : String) (us : List (Unfinished ι)) :
    releaseAll a' key us = releaseAll a key us := by
  induction us with
  | nil => rfl
  | cons u us ih =>
    have hrelease : u.build.release a' key = u.build.release a key :=
      Build.answer_congr _ _ _ _ fun e he => h.genuine (Build.answer_genuine _ _ _ e he)
    rw [releaseAll, releaseAll, hrelease, ih]

theorem changeService_sameNames (h : o.service.SameNames a') {c c' : Analysis.Step}
    (hc : c.SameNames c') :
    ({ o with service := a' } : Outline ι).changeService c' =
      ({ (o.changeService c).1 with service := a'.step c' }, (o.changeService c).2) := by
  cases hc with
  | vocabulary file hv => rfl
  | same =>
    cases c with
    | release key =>
      simp only [changeService, releaseAll_sameNames (h.step (.same (.release key)))]
    | _ => rfl

variable {s s' : Step ι}

theorem serviceAfter_sameNames (h : a.SameNames a') (hs : s.SameNames s') :
    (serviceAfter a s).SameNames (serviceAfter a' s') := by
  cases hs with
  | service hc => exact h.step hc
  | same s =>
    cases s with
    | service c => exact h.step (.same c)
    | _ => exact h

variable [DecidableEq ι] {ss ss' : List (Step ι)}

theorem perform_sameNames (h : o.service.SameNames a') (hs : s.SameNames s') :
    ({ o with service := a' } : Outline ι).perform s' =
      ({ (o.perform s).1 with service := serviceAfter a' s' }, (o.perform s).2) := by
  cases hs with
  | service hc => exact changeService_sameNames h hc
  | same s =>
    cases s with
    | request id file below => exact request_sameNames h id file below
    | children id index file =>
      simp only [perform]
      cases o.lastItems[index]? with
      | none => rfl
      | some item =>
        simp only [request_sameNames h]
        rfl
    | configure value =>
      simp only [perform]
      cases Settings.decode value <;> rfl
    | service c => exact changeService_sameNames h (.same c)
    | _ => rfl

/-- **Runs whose vocabularies only differ where they have no names give the same reports.** -/
theorem run_sameNames (hss : List.Forall₂ Step.SameNames ss ss') (h : o.service.SameNames a') :
    (({ o with service := a' } : Outline ι).run ss').map (·.1) = (o.run ss).map (·.1) := by
  induction hss generalizing o a' with
  | nil => rfl
  | @cons s s' ss ss' hs _ ih =>
    have hstep : ({ o with service := a' } : Outline ι).step s' =
        ({ (o.step s).1 with service := serviceAfter a' s' }, (o.step s).2) := by
      rw [step, perform_sameNames h hs]
      rfl
    have hnext : (o.step s).1.service.SameNames (serviceAfter a' s') := by
      rw [service_step]
      exact serviceAfter_sameNames h hs
    simp only [run, hstep, List.map_cons, ih hnext]

end Outline

/-- **The tokens of a vocabulary are one for each slot, and depend on its names alone.** Tables
within the limit have as many tokens as the longer of them has slots, in the order of their types;
no other type has a name. Vocabularies that come from each other by edits where they have no names
have the same tokens, and so the same captions and keys; and runs that only differ by such edits
report the same, so that they ask the service for the same and answer every request the same. -/
theorem tokens_by_slot_and_name :
    (∀ v : Vocabulary,
      v.literalNames.length < 2147483648 → v.symbolicNames.length < 2147483648 →
      let n := max v.literalNames.length v.symbolicNames.length
      v.tokens.length = n ∧ (n : Int) = v.maxTokenType + 1 ∧
      (∀ i < n, v.tokens[i]? = some (Token.ofVocabulary v i) ∧
        (Token.ofVocabulary v i).index = i) ∧
      ∀ i : Int, i < 0 ∨ v.maxTokenType < i →
        v.literalName i = none ∧ v.symbolicName i = none ∧
          Token.ofVocabulary v i = ⟨i, none, none⟩) ∧
    (∀ v w : Vocabulary, v.SameNames w →
      w.tokens = v.tokens ∧ ∀ i : Int,
        Token.ofVocabulary w i = Token.ofVocabulary v i ∧
        (Token.ofVocabulary w i).caption = (Token.ofVocabulary v i).caption ∧
        (Token.ofVocabulary w i).key = (Token.ofVocabulary v i).key) ∧
    ∀ {ι : Type} [DecidableEq ι] (service service' : Analysis) (settings : Settings)
      (ss ss' : List (Outline.Step ι)), service.SameNames service' →
        List.Forall₂ Outline.Step.SameNames ss ss' →
          ((Outline.ofService service' settings : Outline ι).run ss').map (·.1) =
            ((Outline.ofService service settings : Outline ι).run ss).map (·.1) := by
  refine ⟨fun v hliterals hsymbolics => ?_, fun v w h => ⟨h.tokens_eq.1, fun i => ?_⟩, ?_⟩
  · intro n
    have hsize : v.size = n := v.size_of_lt hliterals hsymbolics
    have hmax : (n : Int) = v.maxTokenType + 1 := by rw [← hsize, v.size_eq_maxTokenType]
    refine ⟨v.length_tokens.trans hsize, hmax, fun i hi => ⟨?_, rfl⟩, fun i hi => ?_⟩
    · exact Vocabulary.getElem?_tokens (hsize ▸ hi)
    · have hliteral : v.literalName i = none := Vocabulary.nameAt_of_outside (by omega)
      have hsymbolic : v.symbolicName i = none := Vocabulary.nameAt_of_outside (by omega)
      refine ⟨hliteral, hsymbolic, ?_⟩
      rw [Token.ofVocabulary, hliteral, hsymbolic]
      rfl
  · rw [h.tokens_eq.2 i]
    exact ⟨rfl, rfl, rfl⟩
  · intro ι _ service service' settings ss ss' hservice hss
    exact Outline.run_sameNames (o := .ofService service settings) hss hservice

end TokenOutline
