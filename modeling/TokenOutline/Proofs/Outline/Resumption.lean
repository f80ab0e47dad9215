import Mathlib.Data.List.Nodup
import TokenOutline.Outline.Basic
import TokenOutline.Proofs.Build.Gates

/-!
# Requests that are told late of an open gate

`Outline.resume` goes on with the build of one request, and leaves all others. When a change of the
service has been adopted of which no build was told, going on with the builds one after the other
comes to what a step of the outline does that tells them.

Headlines:
* **`Outline.resume_outcome`**: what going on with a build does.
* `Outline.AtGates`: all builds wait at closed gates only, so that going on with one does nothing.
* **`Outline.AtGates.step`**, **`Outline.atGates_after`**: so it is in every run.
* **`Outline.resumeAll_adopt`**: going on late with all builds is opening the gate for them.
-/

namespace TokenOutline.Outline

variable {ι : Type} [DecidableEq ι] {o : Outline ι}

/-! ## Going on with one build -/

/-- Builds of other requests are left as they are. -/
theorem map_others {β : Type} {id : ι} {us : List (Unfinished ι)} (hid : ∀ x ∈ us, x.id ≠ id)
    (f g : Unfinished ι → β) : (us.map fun x => if x.id = id then f x else g x) = us.map g :=
  List.map_congr_left fun x hx => if_neg (hid x hx)

/-- **Going on with a build** changes no other one, and answers its request if the build has come to
an end. -/
theorem resume_outcome {us vs : List (Unfinished ι)} {u : Unfinished ι}
    (hunf : o.unfinished = us ++ u :: vs) (hid : ∀ x ∈ us ++ vs, x.id ≠ u.id)
    (hticket : ∀ x ∈ us ++ vs, x.ticket ≠ u.ticket) :
    let b := (u.build.resume o.service).1
    let events := (u.build.resume o.service).2.map (Event.lookup u.ticket b.file)
    (b.outcome? = none ∧
        o.resume u.id = ({ o with unfinished := us ++ { u with build := b } :: vs }, { events })) ∨
      ∃ outcome, b.outcome? = some outcome ∧
        o.resume u.id = ({ o with
            unfinished := us ++ vs
            lastItems := itemsOf o.lastItems [⟨u.id, u.ticket, outcome.map some⟩] },
          { events, finished := [⟨u.id, u.ticket, outcome.map some⟩] }) := by
  intro b events
  have hus : ∀ x ∈ us, x.id ≠ u.id := fun x hx => hid x (List.mem_append_left vs hx)
  have hvs : ∀ x ∈ vs, x.id ≠ u.id := fun x hx => hid x (List.mem_append_right us hx)
  have hquiet : ∀ xs : List (Unfinished ι), xs.flatMap (fun _ => ([] : List Event)) = [] :=
    fun xs => List.flatMap_eq_nil_iff.mpr fun _ _ => rfl
  have hnone : ∀ xs : List (Unfinished ι), (∀ x ∈ xs, x.id ≠ u.id) →
      xs.filterMap (fun x => if x.id = u.id then
        x.build.outcome?.map fun outcome => (⟨x.id, x.ticket, outcome.map some⟩ : Finished ι)
        else none) = [] := fun xs h => List.filterMap_eq_nil_iff.mpr fun x hx => if_neg (h x hx)
  simp only [resume, hunf]
  rw [List.map_append, List.map_cons, map_others hus, map_others hvs, if_pos rfl]
  simp only [List.filterMap_append, List.filterMap_cons, List.filterMap_map, List.flatMap_append,
    List.flatMap_cons, List.flatMap_map, List.map_append, List.map_cons, List.map_map,
    Function.comp_def, List.map_id', hnone us hus, hnone vs hvs, hquiet, List.nil_append,
    List.append_nil, if_true]
  cases hout : (u.build.resume o.service).1.outcome? with
  | none =>
    have hall : ∀ xs : List (Unfinished ι), xs.filter (fun _ => true) = xs := fun xs =>
      List.filter_eq_self.mpr fun _ _ => rfl
    refine .inl ⟨rfl, ?_⟩
    simp [hall, itemsOf, b, events]
  | some outcome =>
    have hkept : ∀ xs : List (Unfinished ι), (∀ x ∈ xs, x.ticket ≠ u.ticket) →
        xs.filter (fun x => !decide (u.ticket = x.ticket)) = xs := fun xs h =>
      List.filter_eq_self.mpr fun x hx => by simpa using (h x hx).symm
    have hus' := hkept us fun x hx => hticket x (List.mem_append_left vs hx)
    have hvs' := hkept vs fun x hx => hticket x (List.mem_append_right us hx)
    refine .inr ⟨outcome, rfl, ?_⟩
    simp [hus', hvs', b, events]

/-! ## Builds at closed gates -/

/-- The builds that have not ended wait at closed gates only. -/
def AtGates (o : Outline ι) : Prop := ∀ u ∈ o.unfinished, u.build.AtGates o.service

omit [DecidableEq ι] in
theorem atGates_ofService (service : Analysis) (settings : Settings) :
    (ofService (ι := ι) service settings).AtGates := fun _ hu => absurd hu List.not_mem_nil

omit [DecidableEq ι] in
/-- A request starts a build that waits at closed gates, or none. -/
theorem AtGates.request (h : o.AtGates) (id : ι) (file : Option String) (below : Option Item) :
    (o.request id file below).1.AtGates := by
  unfold Outline.request
  split
  · exact h
  · exact h
  · split
    · exact h
    · rename_i file _ v _
      unfold startBuild
      dsimp only
      split
      · exact h
      · rename_i hgoes
        intro u hu
        rcases List.mem_append.mp hu with hu | hu
        · exact h u hu
        · obtain rfl := List.mem_singleton.mp hu
          exact Build.atGates_start file o.settings v.tokens hgoes

theorem AtGates.drop (h : o.AtGates) (id : ι) : (o.drop id).AtGates := fun u hu =>
  h u (List.mem_filter.mp hu).1

omit [DecidableEq ι] in
/-- The builds that go on when a gate has been opened. -/
theorem atGates_releaseAll {a : Analysis} (key : String) (us : List (Unfinished ι))
    (h : ∀ u ∈ us, u.build.AtGates a) :
    ∀ u ∈ (releaseAll (a.step (.release key)) key us).1,
      u.build.AtGates (a.step (.release key)) := by
  induction us with
  | nil => exact fun u hu => absurd hu List.not_mem_nil
  | cons v vs ih =>
    have hrest := ih fun u hu => h u (List.mem_cons_of_mem v hu)
    intro u hu
    simp only [releaseAll] at hu
    split at hu
    · exact hrest u hu
    · rename_i hgoes
      rcases List.mem_cons.mp hu with rfl | hu
      · exact (h v List.mem_cons_self).release key hgoes
      · exact hrest u hu

omit [DecidableEq ι] in
theorem AtGates.changeService (h : o.AtGates) (x : Analysis.Step) :
    (o.changeService x).1.AtGates := by
  have hstep : (∀ key, x ≠ .release key) → ∀ u ∈ o.unfinished,
      u.build.AtGates (o.service.step x) := fun hx u hu => (h u hu).step hx
  cases x with
  | release key => exact atGates_releaseAll key o.unfinished h
  | close key => exact hstep (by simp)
  | setVocabulary file v => exact hstep (by simp)
  | setSymbol file key r => exact hstep (by simp)

/-- **Each step leaves all builds at closed gates.** -/
theorem AtGates.step (h : o.AtGates) (x : Step ι) : (o.step x).1.AtGates := by
  change (o.perform x).1.AtGates
  cases x with
  | request id file below => exact h.request id file below
  | children id index file =>
    unfold perform
    dsimp only
    split
    · exact h.request id file _
    · exact h
  | drop id => exact h.drop id
  | configure value =>
    unfold perform
    dsimp only
    split
    · exact h
    · exact h
  | service x => exact h.changeService x
  | settings => exact h
  | refresh => exact h
  | subscribe => exact h
  | changes => exact h
  | idle => exact h

/-- **In every run all builds wait at closed gates only.** -/
theorem atGates_after (service : Analysis) (settings : Settings) (xs : List (Step ι)) :
    ((ofService service settings).after xs).AtGates := by
  have hafter : ∀ (xs : List (Step ι)) (o : Outline ι), o.AtGates → (o.after xs).AtGates := by
    intro xs
    induction xs with
    | nil => exact fun o h => h
    | cons x xs ih => exact fun o h => ih _ (h.step x)
  exact hafter xs _ (atGates_ofService service settings)

/-- **Nothing happens when builds at closed gates are gone on with.** -/
theorem AtGates.resume_eq (h : o.AtGates) (id : ι) : o.resume id = (o, {}) := by
  have hresumed : (o.unfinished.map fun u =>
      if u.id = id then ({ u with build := (u.build.resume o.service).1 },
        (u.build.resume o.service).2.map
          (Event.lookup u.ticket (u.build.resume o.service).1.file))
      else (u, [])) = o.unfinished.map fun u => (u, []) := by
    refine List.map_congr_left fun u hu => ?_
    split
    · rw [(h u hu).resume_eq]
      rfl
    · rfl
  have hfinished : o.unfinished.filterMap (fun u =>
      if u.id = id then u.build.outcome?.map fun outcome => (⟨u.id, u.ticket, outcome.map some⟩ :
        Finished ι) else none) = [] := by
    refine List.filterMap_eq_nil_iff.mpr fun u hu => ?_
    split
    · rw [(h u hu).goes]
      rfl
    · rfl
  have hquiet : (o.unfinished.flatMap fun _ => ([] : List Event)) = [] :=
    List.flatMap_eq_nil_iff.mpr fun _ _ => rfl
  simp only [resume, hresumed]
  simp [List.flatMap_map, Function.comp_def, hfinished, hquiet, itemsOf]

/-! ## Going on with all builds -/

/-- Go on with the builds of some requests, one after the other: what comes of it, the requests that
are answered and what happens. -/
def resumeAll (o : Outline ι) : List ι → Outline ι × List (Finished ι) × List Event
  | [] => (o, [], [])
  | id :: ids =>
    let (o, report) := o.resume id
    let (o, finished, events) := o.resumeAll ids
    (o, report.finished ++ finished, report.events ++ events)

/-- One among others is told from all of them by a key that no two have in common. -/
theorem key_ne_of_nodup {ι β : Type} {f : Unfinished ι → β} {us vs : List (Unfinished ι)}
    {u : Unfinished ι} (h : ((us ++ u :: vs).map f).Nodup) : ∀ x ∈ us ++ vs, f x ≠ f u := by
  rw [List.map_append, List.map_cons, List.nodup_middle, List.nodup_cons, ← List.map_append] at h
  exact fun x hx heq => h.1 (heq ▸ List.mem_map_of_mem hx)

/-- Going on with the builds that stand behind others, when a gate has been opened. -/
theorem resumeAll_release {a : Analysis} (key : String) (us vs : List (Unfinished ι))
    (o : Outline ι) (hservice : o.service = a.step (.release key))
    (hunf : o.unfinished = us ++ vs) (hids : (o.unfinished.map (·.id)).Nodup)
    (htickets : (o.unfinished.map (·.ticket)).Nodup) (hgates : ∀ u ∈ vs, u.build.AtGates a) :
    let released := releaseAll o.service key vs
    o.resumeAll (vs.map (·.id)) =
      ({ o with
        unfinished := us ++ released.1
        lastItems := itemsOf o.lastItems released.2.1 }, released.2.1, released.2.2) := by
  induction vs generalizing o us with
  | nil => simp [resumeAll, releaseAll, itemsOf, ← hunf]
  | cons u vs ih =>
    have hresume := (hgates u List.mem_cons_self).resume_eq_release key
    rw [← hservice] at hresume
    rw [hunf] at hids htickets
    have hgates' : ∀ u ∈ vs, u.build.AtGates a := fun v hv => hgates v (List.mem_cons_of_mem u hv)
    have hfirst := resume_outcome hunf (key_ne_of_nodup hids) (key_ne_of_nodup htickets)
    rw [hresume] at hfirst
    obtain ⟨hout, hr⟩ | ⟨outcome, hout, hr⟩ := hfirst
    · let u' := { u with build := (u.build.release o.service key).1 }
      have hrest := ih (us ++ [u']) { o with unfinished := us ++ u' :: vs } hservice (by simp)
        (by simpa [u'] using hids) (by simpa [u'] using htickets) hgates'
      simp only [List.map_cons, resumeAll, releaseAll, hr, hout]
      simp only [u'] at hrest
      simp [hrest]
    · let f : Finished ι := ⟨u.id, u.ticket, outcome.map some⟩
      have hsub : (us ++ vs).Sublist (us ++ u :: vs) := (List.sublist_cons_self u vs).append_left us
      have hrest := ih us
        { o with unfinished := us ++ vs, lastItems := itemsOf o.lastItems [f] } hservice rfl
        ((hsub.map _).nodup hids) ((hsub.map _).nodup htickets) hgates'
      simp only [List.map_cons, resumeAll, releaseAll, hr, hout]
      simp only [f] at hrest
      rw [hrest]
      rfl

/-- **Going on late with all builds is opening the gate for them.** -/
theorem resumeAll_adopt (o : Outline ι) (key : String) (hids : (o.unfinished.map (·.id)).Nodup)
    (htickets : (o.unfinished.map (·.ticket)).Nodup)
    (hgates : o.AtGates) :
    let (o', report) := o.changeService (.release key)
    (o.adopt (.release key)).resumeAll (o.unfinished.map (·.id)) =
      (o', report.finished, report.events) :=
  resumeAll_release key [] o.unfinished (o.adopt (.release key)) rfl rfl hids htickets hgates

end TokenOutline.Outline
