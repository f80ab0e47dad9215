import Mathlib.Data.List.Induction
import TokenOutline.Proofs.Server.Session

/-!
# The documents of a session

What the notifications of a run have told of the documents is a history of calls. Which documents
are open, in which order, and which one is active is read off this history.

Headlines:
* `Session.handledIn`: the history of a run.
* `OpenSince`: a document is open, and was opened last at a place of the history.
* **`Documents.Tracks`**, **`Documents.tracks_foldl`**: what the history tells of the documents.
* **`Session.documents_track_history`**: the documents in every run.
-/

namespace TokenOutline.Server

/-! ## Histories -/

namespace Session

/-- What the steps of a run tell of the documents and the settings, one after the other. -/
def handledIn (s : Session) : List Step → List Call
  | [] => []
  | x :: xs => (s.handled? x).toList ++ (s.step x).1.handledIn xs

theorem handledIn_append (s : Session) (xs ys : List Step) :
    s.handledIn (xs ++ ys) = s.handledIn xs ++ (s.after xs).handledIn ys := by
  induction xs generalizing s with
  | nil => rfl
  | cons x xs ih => simp [handledIn, after, ih]

theorem handledIn_concat (s : Session) (xs : List Step) (x : Step) :
    s.handledIn (xs ++ [x]) = s.handledIn xs ++ ((s.after xs).handled? x).toList := by
  simp [handledIn_append, handledIn]

end Session

/-- The latest opening or closing of a document in a history is its opening at place `i`. -/
def OpenSince (h : List Call) (u : Url) (i : Nat) : Prop :=
  h[i]? = some (.opened u) ∧ ∀ j > i, h[j]? ≠ some (.opened u) ∧ h[j]? ≠ some (.closed u)

variable {h : List Call} {c : Call} {u v : Url} {i j : Nat}

theorem OpenSince.lt_length (hi : OpenSince h u i) : i < h.length :=
  (List.getElem?_eq_some_iff.mp hi.1).1

theorem OpenSince.unique (hi : OpenSince h u i) (hj : OpenSince h u j) : i = j := by
  by_contra hne
  rcases Nat.lt_or_gt_of_ne hne with hlt | hgt
  · exact (hi.2 j hlt).1 hj.1
  · exact (hj.2 i hgt).1 hi.1

/-- What one more call means for a document. -/
theorem openSince_concat :
    OpenSince (h ++ [c]) u i ↔
      (i = h.length ∧ c = .opened u) ∨ (OpenSince h u i ∧ c ≠ .opened u ∧ c ≠ .closed u) := by
  have hlast : (h ++ [c])[h.length]? = some c := List.getElem?_concat_length
  have hbefore : ∀ {j}, j < h.length → (h ++ [c])[j]? = h[j]? := fun hj =>
    List.getElem?_append_left hj
  have hpast : ∀ {j}, h.length < j → (h ++ [c])[j]? = none := fun hj =>
    List.getElem?_eq_none (by rw [List.length_append]; exact hj)
  constructor
  · rintro ⟨hat, hlater⟩
    rcases Nat.lt_trichotomy i h.length with hlt | rfl | hgt
    · refine .inr ⟨⟨hbefore hlt ▸ hat, fun j hj => ?_⟩, ?_⟩
      · by_cases hj' : j < h.length
        · exact hbefore hj' ▸ hlater j hj
        · simp [List.getElem?_eq_none (Nat.le_of_not_lt hj')]
      · have h' := hlater h.length hlt
        simpa [hlast] using h'
    · rw [hlast] at hat
      exact .inl ⟨rfl, Option.some.inj hat⟩
    · rw [hpast hgt] at hat
      exact absurd hat (by simp)
  · rintro (⟨rfl, rfl⟩ | ⟨hopen, hne⟩)
    · exact ⟨hlast, fun j hj => by simp [hpast hj]⟩
    · have hlt := hopen.lt_length
      refine ⟨(hbefore hlt).trans hopen.1, fun j hj => ?_⟩
      rcases Nat.lt_trichotomy j h.length with hj' | rfl | hj'
      · exact hbefore hj' ▸ hopen.2 j hj
      · simpa [hlast] using hne
      · simp [hpast hj']

theorem OpenSince.concat (hi : OpenSince h u i) (hne : c ≠ .opened u ∧ c ≠ .closed u) :
    OpenSince (h ++ [c]) u i := openSince_concat.mpr (.inr ⟨hi, hne⟩)

theorem openSince_last (h : List Call) (u : Url) : OpenSince (h ++ [.opened u]) u h.length :=
  openSince_concat.mpr (.inl ⟨rfl, rfl⟩)

theorem exists_openSince_concat :
    (∃ i, OpenSince (h ++ [c]) u i) ↔
      c = .opened u ∨ (c ≠ .closed u ∧ ∃ i, OpenSince h u i) := by
  constructor
  · rintro ⟨i, hi⟩
    obtain ⟨-, hc⟩ | ⟨hi, -, hclosed⟩ := openSince_concat.mp hi
    · exact .inl hc
    · exact .inr ⟨hclosed, i, hi⟩
  · rintro (rfl | ⟨hclosed, i, hi⟩)
    · exact ⟨h.length, openSince_last h u⟩
    · by_cases hopened : c = .opened u
      · exact ⟨h.length, hopened ▸ openSince_last h u⟩
      · exact ⟨i, hi.concat ⟨hopened, hclosed⟩⟩

namespace Documents

/-- The documents after what a notification tells. -/
def after (d : Documents) : Call → Documents
  | .opened u => d.open u
  | .closed u => d.close u
  | .activated u => d.activate u
  | _ => d

/-! ## What a history tells -/

/-- The documents are those of a history. -/
structure Tracks (d : Documents) (h : List Call) : Prop where
  nodup : d.opened.Nodup
  mem_opened : ∀ u, u ∈ d.opened ↔ ∃ i, OpenSince h u i
  /-- Documents that were opened later stand later. -/
  ordered : d.opened.Pairwise fun u v => ∃ i j, i < j ∧ OpenSince h u i ∧ OpenSince h v j
  /-- The active document is open, or was made active after it was closed last. -/
  active : ∀ u, d.active = some u → u ∉ d.opened →
    ∃ before later, h = before ++ .activated (some u) :: later ∧ .closed u ∉ later

variable {d : Documents}

theorem tracks_none : Tracks none [] where
  nodup := List.nodup_nil
  mem_opened u := by simp [none, OpenSince]
  ordered := .nil
  active u hu := absurd hu (by simp [none])

/-- A call that opens and closes nothing leaves the order of the open documents. -/
theorem Tracks.ordered_concat (hd : Tracks d h) {vs : List Url} (hsub : vs.Sublist d.opened)
    (hne : ∀ v ∈ vs, c ≠ .opened v ∧ c ≠ .closed v) :
    vs.Pairwise fun u v => ∃ i j, i < j ∧ OpenSince (h ++ [c]) u i ∧ OpenSince (h ++ [c]) v j := by
  refine (hd.ordered.sublist hsub).imp_of_mem ?_
  rintro u v hu hv ⟨i, j, hij, hi, hj⟩
  exact ⟨i, j, hij, hi.concat (hne u hu), hj.concat (hne v hv)⟩

/-- A document that is not open stays as it was made active until it is closed. -/
theorem Tracks.active_concat (hd : Tracks d h) (hactive : d.active = some u) (hnot : u ∉ d.opened)
    (hclosed : c ≠ .closed u) :
    ∃ before later, h ++ [c] = before ++ .activated (some u) :: later ∧ .closed u ∉ later := by
  obtain ⟨before, later, rfl, hlater⟩ := hd.active u hactive hnot
  refine ⟨before, later ++ [c], by simp, fun hmem => ?_⟩
  rcases List.mem_append.mp hmem with hmem | hmem
  · exact hlater hmem
  · exact hclosed (List.mem_singleton.mp hmem).symm

theorem Tracks.opened (hd : Tracks d h) (u : Url) : Tracks (d.open u) (h ++ [.opened u]) := by
  have hne : ∀ v ∈ d.opened.filter (· ≠ u),
      Call.opened u ≠ .opened v ∧ Call.opened u ≠ .closed v := by
    intro v hv
    have hvu : v ≠ u := by simpa using (List.mem_filter.mp hv).2
    simpa using Ne.symm hvu
  refine ⟨?_, fun v => ?_, ?_, fun v hv hnot => ?_⟩
  · refine List.nodup_append.mpr ⟨hd.nodup.filter _, List.nodup_singleton u, ?_⟩
    simp
  · rw [exists_openSince_concat, ← hd.mem_opened]
    by_cases hvu : v = u
    · simp [«open», hvu]
    · simp [«open», hvu, Ne.symm hvu]
  · refine List.pairwise_append.mpr ⟨hd.ordered_concat List.filter_sublist hne,
      List.pairwise_singleton _ _, fun v hv w hw => ?_⟩
    obtain rfl := List.mem_singleton.mp hw
    obtain ⟨i, hi⟩ := (hd.mem_opened v).mp (List.mem_filter.mp hv).1
    exact ⟨i, h.length, hi.lt_length, hi.concat (hne v hv), openSince_last h w⟩
  · obtain rfl := Option.some.inj hv
    exact absurd (List.mem_append_right _ List.mem_cons_self) hnot

/-- Closing a document makes none active that is not open. -/
theorem active_of_close (hv : (d.close u).active = some v) (hnot : v ∉ (d.close u).opened) :
    d.active = some v ∧ v ∉ d.opened ∧ v ≠ u := by
  simp only [close] at hv hnot
  split at hv
  · exact absurd (List.mem_of_getLast? hv) hnot
  · rename_i hother
    have hvu : v ≠ u := by
      rintro rfl
      exact hother hv
    exact ⟨hv, fun hmem => hnot (List.mem_filter.mpr ⟨hmem, by simpa using hvu⟩), hvu⟩

theorem Tracks.closed (hd : Tracks d h) (u : Url) : Tracks (d.close u) (h ++ [.closed u]) := by
  have hne : ∀ v ∈ d.opened.filter (· ≠ u),
      Call.closed u ≠ .opened v ∧ Call.closed u ≠ .closed v := by
    intro v hv
    have hvu : v ≠ u := by simpa using (List.mem_filter.mp hv).2
    simpa using Ne.symm hvu
  refine ⟨hd.nodup.filter _, fun v => ?_, hd.ordered_concat List.filter_sublist hne,
    fun v hv hnot => ?_⟩
  · rw [exists_openSince_concat, ← hd.mem_opened]
    by_cases hvu : v = u
    · simp [close, hvu]
    · simp [close, hvu, Ne.symm hvu]
  · obtain ⟨hactive, hnot, hvu⟩ := active_of_close hv hnot
    exact hd.active_concat hactive hnot (by simpa using Ne.symm hvu)

/-- A call that opens and closes nothing leaves the open documents. -/
theorem Tracks.concat (hd : Tracks d h) (hne : ∀ v, c ≠ .opened v ∧ c ≠ .closed v) {d' : Documents}
    (hopened : d'.opened = d.opened)
    (hactive : ∀ u, d'.active = some u → c = .activated (some u) ∨ d.active = some u) :
    Tracks d' (h ++ [c]) := by
  refine ⟨hopened ▸ hd.nodup, fun v => ?_, ?_, fun v hv hnot => ?_⟩
  · rw [hopened, exists_openSince_concat, hd.mem_opened]
    simp [hne v]
  · rw [hopened]
    exact hd.ordered_concat (List.Sublist.refl _) fun v _ => hne v
  · rcases hactive v hv with rfl | hv
    · exact ⟨h, [], rfl, List.not_mem_nil⟩
    · exact hd.active_concat hv (hopened ▸ hnot) (hne v).2

theorem Tracks.after (hd : Tracks d h) (c : Call) : Tracks (d.after c) (h ++ [c]) := by
  cases c with
  | opened u => exact hd.opened u
  | closed u => exact hd.closed u
  | activated u =>
    refine hd.concat (by simp) rfl fun v hv => .inl ?_
    rw [← hv]
    rfl
  | _ => exact hd.concat (by simp) rfl fun v hv => .inr hv

/-- **The documents after a history are those of the history.** -/
theorem tracks_foldl (h : List Call) : Tracks (h.foldl Documents.after none) h := by
  induction h using List.reverseRecOn with
  | nil => exact tracks_none
  | append_singleton h c ih =>
    rw [List.foldl_append]
    exact ih.after c

/-- The last of the open documents is the one that was opened last. -/
theorem Tracks.getLast?_opened (hd : Tracks d h) :
    d.opened.getLast? = some v ↔ ∃ i, OpenSince h v i ∧ ∀ w j, OpenSince h w j → j ≤ i := by
  -- whatever stands before the last one was opened before it
  have hlast : ∀ {v}, d.opened.getLast? = some v → ∃ i, OpenSince h v i ∧
      ∀ w j, OpenSince h w j → w = v ∨ j < i := by
    intro v hv
    obtain ⟨us, hus⟩ := List.getLast?_eq_some_iff.mp hv
    obtain ⟨i, hi⟩ := (hd.mem_opened v).mp (List.mem_of_getLast? hv)
    refine ⟨i, hi, fun w j hj => ?_⟩
    have hw := (hd.mem_opened w).mpr ⟨j, hj⟩
    rw [hus] at hw
    rcases List.mem_append.mp hw with hw | hw
    · have hord := hd.ordered
      rw [hus] at hord
      obtain ⟨j', i', hlt, hj', hi'⟩ :=
        (List.pairwise_append.mp hord).2.2 w hw v List.mem_cons_self
      exact .inr (hj.unique hj' ▸ hi.unique hi' ▸ hlt)
    · exact .inl (List.mem_singleton.mp hw)
  constructor
  · intro hv
    obtain ⟨i, hi, hbefore⟩ := hlast hv
    refine ⟨i, hi, fun w j hj => ?_⟩
    rcases hbefore w j hj with rfl | hlt
    · exact (hj.unique hi).le
    · exact hlt.le
  · rintro ⟨i, hi, hmax⟩
    have hne : d.opened ≠ [] := List.ne_nil_of_mem ((hd.mem_opened v).mpr ⟨i, hi⟩)
    have hsome := List.getLast?_eq_some_getLast hne
    obtain ⟨j, hj, hbefore⟩ := hlast hsome
    rcases hbefore v i hi with rfl | hlt
    · exact hsome
    · exact absurd (hmax _ j hj) (Nat.not_le_of_lt hlt)

/-- What becomes of the active document when a document is closed. -/
theorem Tracks.active_close (hd : Tracks d h) (u : Url) :
    (d.close u).active ≠ some u ∧ (d.active ≠ some u → (d.close u).active = d.active) ∧
      (d.active = some u → ∀ v, (d.close u).active = some v ↔
        ∃ i, OpenSince (h ++ [.closed u]) v i ∧
          ∀ w j, OpenSince (h ++ [.closed u]) w j → j ≤ i) := by
  have hclosed := hd.closed u
  have hgone : u ∉ (d.close u).opened := by simp [close]
  by_cases hactive : d.active = some u
  · have hlast : (d.close u).active = (d.close u).opened.getLast? := if_pos hactive
    refine ⟨fun h => hgone (List.mem_of_getLast? (hlast ▸ h)), fun h => absurd hactive h,
      fun _ v => ?_⟩
    rw [hlast, hclosed.getLast?_opened]
  · have hkept : (d.close u).active = d.active := if_neg hactive
    exact ⟨hkept ▸ hactive, fun _ => hkept, fun h => absurd h hactive⟩

end Documents

/-! ## The documents of a run -/

namespace Session

variable {s : Session} {msg : Message}

theorem documents_notified (s : Session) (call : Call) :
    (s.notified call).1.documents = s.documents.after call := by
  cases call with
  | settings v =>
    simp only [notified, takeSettings]
    split <;> rfl
  | closed u =>
    simp only [notified, close]
    split <;> rfl
  | activated u =>
    simp only [notified, activate]
    split
    · rename_i hactive
      simp only [Documents.after, Documents.activate, ← hactive]
    · rfl
  | _ => rfl

/-- **A step does to the documents what it tells of them.** -/
theorem documents_step (hs : s.Sound) (x : Step) :
    (s.step x).1.documents = (s.handled? x).elim s.documents s.documents.after := by
  have htakes := takes_step hs x
  generalize s.step x = r at htakes
  obtain ⟨s', e⟩ := r
  cases htakes with
  | idle => rfl
  | serves c => rfl
  | heeds msg call hhandled =>
    rw [hhandled]
    exact documents_notified s call
  | late msg _ hhandled => rw [hhandled]; rfl
  | lists msg _ _ _ hhandled => rw [hhandled]; rfl
  | cancels msg _ _ _ hhandled => rw [hhandled]; rfl
  | exits msg _ _ hhandled => rw [hhandled]; rfl
  | answers msg _ _ _ _ _ _ hhandled => rw [hhandled]; rfl

/-- The documents after a run are those after its history. -/
theorem documents_after (hs : s.Sound) (steps : List Step) :
    (s.after steps).documents = (s.handledIn steps).foldl Documents.after s.documents := by
  induction steps generalizing s with
  | nil => rfl
  | cons x xs ih =>
    rw [handledIn, List.foldl_append]
    refine (ih ((takes_step hs x).sound hs)).trans (congrArg (List.foldl _ · _) ?_)
    rw [documents_step hs]
    cases s.handled? x <;> rfl

theorem tracks_after (service : Analysis) (steps : List Step) :
    Documents.Tracks ((ofService service).after steps).documents
      ((ofService service).handledIn steps) := by
  rw [documents_after (sound_ofService service)]
  exact Documents.tracks_foldl _

/-- **The documents in every run.** The open documents are those whose latest opening or closing is
an opening, each once and in the order of these openings. The active document changes only when a
document is opened, made active or, if it is the active one, closed; then it is the one opened, the
one made active, or the one that was opened last of those that are still open. So a document that is
active and not open was made active, and has not been closed since. -/
theorem documents_track_history (service : Analysis) (steps : List Step) :
    let begun := ofService service
    let s := begun.after steps
    let d := s.documents
    let h := begun.handledIn steps
    d.opened.Nodup ∧
    (∀ u, u ∈ d.opened ↔ ∃ i, OpenSince h u i) ∧
    d.opened.Pairwise (fun u v => ∃ i j, i < j ∧ OpenSince h u i ∧ OpenSince h v j) ∧
    (∀ u, d.active = some u → u ∉ d.opened →
      ∃ before later, h = before ++ .activated (some u) :: later ∧ .closed u ∉ later) ∧
    ∀ x,
      let d' := (s.step x).1.documents
      let h' := begun.handledIn (steps ++ [x])
      (match s.handled? x with
        | some (.opened u) => d'.active = some u
        | some (.activated u) => d'.active = u
        | some (.closed u) =>
          d'.active ≠ some u ∧ (d.active ≠ some u → d'.active = d.active) ∧
            (d.active = some u → ∀ v, d'.active = some v ↔
              ∃ i, OpenSince h' v i ∧ ∀ w j, OpenSince h' w j → j ≤ i)
        | _ => d'.active = d.active) ∧
      ∀ u, d'.active = some u → u ∉ d'.opened →
        s.handled? x = some (.activated (some u)) ∨ d.active = some u ∧ u ∉ d.opened := by
  intro begun s d h
  have htracks : Documents.Tracks d h := tracks_after service steps
  refine ⟨htracks.nodup, htracks.mem_opened, htracks.ordered, htracks.active, fun x => ?_⟩
  intro d' h'
  have hd' : d' = (s.handled? x).elim d d.after := documents_step (sound_after service steps) x
  have hh' : h' = h ++ (s.handled? x).toList := handledIn_concat begun steps x
  rw [hd', hh']
  cases s.handled? x with
  | none => exact ⟨rfl, fun u hu hnot => .inr ⟨hu, hnot⟩⟩
  | some call =>
    cases call with
    | opened u =>
      refine ⟨rfl, fun v hv hnot => ?_⟩
      obtain rfl := Option.some.inj hv
      exact absurd (List.mem_append_right _ List.mem_cons_self) hnot
    | activated u =>
      refine ⟨rfl, fun v hv _ => .inl ?_⟩
      rw [← hv]
      rfl
    | closed u =>
      refine ⟨htracks.active_close u, fun v hv hnot => .inr ?_⟩
      obtain ⟨hactive, hnot, -⟩ := Documents.active_of_close hv hnot
      exact ⟨hactive, hnot⟩
    | _ => exact ⟨rfl, fun u hu hnot => .inr ⟨hu, hnot⟩⟩

/-- The document of a message. -/
def documentParams (uri : String) : Json :=
  .object [("textDocument", .object [("languageId", .string "antlr"), ("text", .string ""),
    ("uri", .string uri), ("version", .ofNat 1)])]

/-- A message that tells something of a document. -/
def documentMessage (method uri : String) : Step :=
  .receive ⟨method, some (documentParams uri), none⟩

/-- An editor that opens documents, the first one twice. -/
def reopeningRun : List Step := [
  .receive ⟨"initialize", some (.object [("capabilities", .object [])]), some (.number 0)⟩,
  documentMessage "textDocument/didOpen" "file:///g",
  documentMessage "textDocument/didOpen" "file:///h",
  documentMessage "textDocument/didOpen" "file:///g",
  documentMessage "textDocument/didOpen" "file:///i"]

/-- When the last document is closed, the one that was opened again is active. -/
theorem documents_track_history_reopeningRun :
    let g : Url := ⟨"file", some ⟨"", .empty, none⟩, .segments ["g"], none, none⟩
    let i : Url := ⟨"file", some ⟨"", .empty, none⟩, .segments ["i"], none, none⟩
    let s := (ofService default).after reopeningRun
    let x := documentMessage "textDocument/didClose" "file:///i"
    s.handled? x = some (.closed i) ∧ s.documents.active = some i ∧
      (s.step x).1.documents.active = some g ∧
      ∃ n, OpenSince ((ofService default).handledIn (reopeningRun ++ [x])) g n ∧
        ∀ w j, OpenSince ((ofService default).handledIn (reopeningRun ++ [x])) w j → j ≤ n := by
  have hclosing : ∀ (steps : List Step) (x : Step) (u v : Url),
      ((ofService default).after steps).handled? x = some (.closed u) →
        ((ofService default).after steps).documents.active = some u →
          (((ofService default).after steps).step x).1.documents.active = some v →
            ∃ i, OpenSince ((ofService default).handledIn (steps ++ [x])) v i ∧
              ∀ w j, OpenSince ((ofService default).handledIn (steps ++ [x])) w j → j ≤ i := by
    intro steps x u v hhandled hactive hnext
    obtain ⟨-, -, -, -, hstep⟩ := documents_track_history default steps
    have hclosed := (hstep x).1
    rw [hhandled] at hclosed
    exact (hclosed.2.2 hactive v).mp hnext
  intro g i s x
  have hhandled : s.handled? x = some (.closed i) := by decide +kernel
  have hactive : s.documents.active = some i := by decide +kernel
  have hnext : (s.step x).1.documents.active = some g := by decide +kernel
  refine ⟨hhandled, hactive, hnext, ?_⟩
  apply hclosing
  · exact hhandled
  · exact hactive
  · exact hnext

end Session

end TokenOutline.Server
