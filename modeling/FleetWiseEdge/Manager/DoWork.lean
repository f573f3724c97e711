import FleetWiseEdge.Manager.Run
import FleetWiseEdge.Manager.StateTemplates

/-!
# The `doWork` loop

One pass of `doWork` (`CollectionSchemeManager.cpp`) up to its wait point, in the default build
(every `FWE_FEATURE_*` option off): the decoder manifest and the scheme list when their flags are
set, `checkTimeLine`, then the checkin documents and, when the manifest or the Enabled map
changed, the active schemes and the matrices handed to the listeners. `matrixExtractor` is not in
the sources; it is a parameter that reads the Enabled map and the decoder manifest ID.

With `FWE_FEATURE_LAST_KNOWN_STATE` a pass also runs `processStateTemplates`: its
`stateTemplatesChanged` joins `documentsChanged`, the checkin lists the template IDs too, and the
last known state is extracted when the manifest or the templates changed (`doWorkPassLKS`).

* `foldl_last_flag`: in a run, an output that only a flagged pass writes is the one written by
  the last flagged pass.
* **`doWork_activeCollectionSchemes`**: the active schemes last published are those of the
  current Enabled map and manifest ID, in sync or not by the Idle map of the last pass that
  changed one of them.
* **`doWork_checkinDocuments`**: in both builds the last checkin lists the current Enabled IDs,
  manifest ID and template IDs, with the Idle IDs of the last pass that changed a document.
* **`mem_updateActiveCollectionSchemeListeners`**: the Enabled schemes are published all together,
  when every Enabled and Idle scheme carries the current manifest ID, or not at all.
* `staleActiveRun`, `staleCheckinRun`: an Idle-only change publishes nothing, in either build.
* `mixedManifestRun`: one Idle scheme of another manifest keeps an Enabled scheme of the current
  one from being published.
-/

namespace FleetWise

namespace CollectionSchemeManager

variable {Body : Type} [DecidableEq Body]

/-- A received `IDecoderManifest`: the ID of `getID()` if `build()` succeeds, `none` if it fails. -/
structure IDecoderManifest where
  build : Option SyncID

/-- `processDecoderManifest`: only a manifest that builds with a new ID changes anything. -/
def processDecoderManifest (decoderManifest : Option IDecoderManifest)
    (m : CollectionSchemeManager Body) : Bool × CollectionSchemeManager Body :=
  match decoderManifest with
  | none => (false, m)
  | some dm =>
    match dm.build with
    | none => (false, m)
    | some id =>
      if id = m.currentDecoderManifestID then (false, m)
      else (true, { m with currentDecoderManifestID := id })

/-- `updateCheckinDocuments`: Enabled, Idle and manifest IDs, then the template IDs. -/
def updateCheckinDocuments (m : CollectionSchemeManager Body) (stateTemplateIds : List SyncID) :
    List SyncID :=
  m.enabledCollectionSchemeMap.inOrder.map (·.1) ++ m.idleCollectionSchemeMap.inOrder.map (·.1) ++
    (if m.currentDecoderManifestID.isEmpty then [] else [m.currentDecoderManifestID]) ++
    stateTemplateIds

def isCollectionSchemesInSyncWithDm (m : CollectionSchemeManager Body) : Bool :=
  m.enabledCollectionSchemeMap.entries.all (·.2.decoderManifestID = m.currentDecoderManifestID) &&
    m.idleCollectionSchemeMap.entries.all (·.2.decoderManifestID = m.currentDecoderManifestID)

/-- `updateActiveCollectionSchemeListeners`: the Enabled schemes when in sync, none otherwise. -/
def updateActiveCollectionSchemeListeners (m : CollectionSchemeManager Body) :
    List (CollectionScheme Body) :=
  if isCollectionSchemesInSyncWithDm m then m.enabledCollectionSchemeMap.inOrder.map (·.2)
  else []

structure WorkPass (Body : Type) where
  decoderManifest : Option IDecoderManifest
  collectionSchemeList : Option (ICollectionSchemeList Body)
  processTime : Nat
  checkTime : Nat

/-- The manager thread: the schedule, `initialCheckinDocumentsUpdate`, what it handed out. -/
structure Worker (Body α : Type) extends CollectionSchemeManager Body where
  initialCheckinDocumentsUpdate : Bool
  checkinDocuments : List SyncID
  activeCollectionSchemes : Option (List (CollectionScheme Body))
  matrices : Option α

variable {α : Type} (matrixExtractor : SchemeMap Body → SyncID → α)

def Worker.init : Worker Body α :=
  ⟨CollectionSchemeManager.init, true, [], none, none⟩

/-- One pass of `doWork`, up to its wait point; the flag is `documentsChanged`. -/
def doWorkPass (p : WorkPass Body) (w : Worker Body α) : Bool × Worker Body α :=
  let d := processDecoderManifest p.decoderManifest w.toCollectionSchemeManager
  let c := pass ⟨p.collectionSchemeList, p.processTime, p.checkTime⟩ d.2
  let documentsChanged := d.1 || c.1
  let m := c.2
  (documentsChanged, { w with
    toCollectionSchemeManager := m
    initialCheckinDocumentsUpdate :=
      if documentsChanged || w.initialCheckinDocumentsUpdate then false
      else w.initialCheckinDocumentsUpdate
    checkinDocuments :=
      if documentsChanged || w.initialCheckinDocumentsUpdate then updateCheckinDocuments m []
      else w.checkinDocuments
    activeCollectionSchemes :=
      if documentsChanged then some (updateActiveCollectionSchemeListeners m)
      else w.activeCollectionSchemes
    matrices :=
      if documentsChanged then
        some (matrixExtractor m.enabledCollectionSchemeMap m.currentDecoderManifestID)
      else w.matrices })

def runWork (ps : List (WorkPass Body)) : Worker Body α :=
  ps.foldl (fun w p => (doWorkPass matrixExtractor p w).2) Worker.init

/-! ## The build with `FWE_FEATURE_LAST_KNOWN_STATE` -/

variable {T : Type}

structure WorkPassLKS (Body T : Type) extends WorkPass Body where
  lastKnownStateIngestion : Option (LastKnownStateIngestion T)

/-- The thread with `FWE_FEATURE_LAST_KNOWN_STATE`: also the templates and the last known state. -/
structure WorkerLKS (Body α T : Type) extends Worker Body α where
  stateTemplates : StateTemplates T
  lastKnownState : Option (StateTemplateMap T)

def WorkerLKS.init : WorkerLKS Body α T :=
  ⟨Worker.init, ⟨∅, 0⟩, none⟩

/-- The IDs of `mStateTemplates` in its entries' order; the `std::unordered_map` leaves it open. -/
def stateTemplateIds (st : StateTemplates T) : List SyncID :=
  st.stateTemplates.entries.map (·.2.id)

/-- A pass with `FWE_FEATURE_LAST_KNOWN_STATE`: `stateTemplatesChanged` joins `documentsChanged`. -/
def doWorkPassLKS (p : WorkPassLKS Body T) (w : WorkerLKS Body α T) : Bool × WorkerLKS Body α T :=
  let decoderManifestChanged :=
    (processDecoderManifest p.decoderManifest w.toCollectionSchemeManager).1
  let r := doWorkPass matrixExtractor p.toWorkPass w.toWorker
  let t := processStateTemplates p.lastKnownStateIngestion w.stateTemplates
  let documentsChanged := r.1 || t.1
  (documentsChanged,
    { toWorker := { r.2 with
        initialCheckinDocumentsUpdate :=
          if documentsChanged || w.initialCheckinDocumentsUpdate then false
          else w.initialCheckinDocumentsUpdate
        checkinDocuments :=
          if documentsChanged || w.initialCheckinDocumentsUpdate then
            updateCheckinDocuments r.2.toCollectionSchemeManager (stateTemplateIds t.2)
          else w.checkinDocuments }
      stateTemplates := t.2
      lastKnownState :=
        if decoderManifestChanged || t.1 then some t.2.stateTemplates else w.lastKnownState })

def runWorkLKS (ps : List (WorkPassLKS Body T)) : WorkerLKS Body α T :=
  ps.foldl (fun w p => (doWorkPassLKS matrixExtractor p w).2) WorkerLKS.init

/-! ## The last pass that publishes -/

section LastFlag

variable {σ π β : Type} (step : π → σ → σ) (flag : π → σ → Bool) (out : σ → β)

/-- **An output only flagged passes write is the one the last flagged pass wrote.** -/
theorem foldl_last_flag (hout : ∀ p s, flag p s = false → out (step p s) = out s) :
    ∀ (ps : List π) (s : σ),
      (out (ps.foldl (fun s p => step p s) s) = out s ∧
        ∀ qs₁ q qs₂, ps = qs₁ ++ q :: qs₂ → flag q (qs₁.foldl (fun s p => step p s) s) = false) ∨
      ∃ ps₁ p ps₂, ps = ps₁ ++ p :: ps₂ ∧ flag p (ps₁.foldl (fun s p => step p s) s) = true ∧
        (∀ qs₁ q qs₂, ps₂ = qs₁ ++ q :: qs₂ →
          flag q ((ps₁ ++ p :: qs₁).foldl (fun s p => step p s) s) = false) ∧
        out (ps.foldl (fun s p => step p s) s) = out (step p (ps₁.foldl (fun s p => step p s) s))
  | [], _ => .inl ⟨rfl, fun qs₁ q qs₂ h => by simp at h⟩
  | p :: ps, s => by
    rcases foldl_last_flag hout ps (step p s) with ⟨hps, hno⟩ | ⟨ps₁, p', ps₂, rfl, hf, hno, hps⟩
    · cases hp : flag p s
      · refine .inl ⟨hps.trans (hout p s hp), fun qs₁ q qs₂ h => ?_⟩
        cases qs₁ with
        | nil => cases h; exact hp
        | cons r qs₁ =>
          injection h with hr h
          subst hr
          exact hno qs₁ q qs₂ h
      · exact .inr ⟨[], p, ps, rfl, hp, hno, hps⟩
    · exact .inr ⟨p :: ps₁, p', ps₂, rfl, hf, hno, hps⟩

end LastFlag

/-! ## Runs of `doWork` -/

variable {p : WorkPass Body} {w : Worker Body α}

theorem runWork_concat (ps : List (WorkPass Body)) (p : WorkPass Body) :
    runWork matrixExtractor (ps ++ [p]) = (doWorkPass matrixExtractor p (runWork matrixExtractor ps)).2 :=
  List.foldl_append ..

theorem runWork_last_flag {β : Type} (flag : WorkPass Body → Worker Body α → Bool)
    (out : Worker Body α → β)
    (hout : ∀ p w, flag p w = false → out (doWorkPass matrixExtractor p w).2 = out w)
    (ps : List (WorkPass Body)) :
    (out (runWork matrixExtractor ps) = out Worker.init ∧
        ∀ qs₁ q qs₂, ps = qs₁ ++ q :: qs₂ → flag q (runWork matrixExtractor qs₁) = false) ∨
      ∃ ps₁ p ps₂, ps = ps₁ ++ p :: ps₂ ∧ flag p (runWork matrixExtractor ps₁) = true ∧
        (∀ qs₁ q qs₂, ps₂ = qs₁ ++ q :: qs₂ →
          flag q (runWork matrixExtractor (ps₁ ++ p :: qs₁)) = false) ∧
        out (runWork matrixExtractor ps) = out (runWork matrixExtractor (ps₁ ++ [p])) := by
  simp only [runWork_concat]
  exact foldl_last_flag (fun p w => (doWorkPass matrixExtractor p w).2) flag out hout ps _

/-! ## Disjoint maps over a run -/

omit [DecidableEq Body] in
theorem processDecoderManifest_disjoint {o : Option IDecoderManifest}
    {m : CollectionSchemeManager Body} (hd : m.Disjoint) : (processDecoderManifest o m).2.Disjoint := by
  rcases o with _ | ⟨_ | id⟩
  · exact hd
  · exact hd
  · simp only [processDecoderManifest]
    split_ifs <;> exact hd

theorem runWork_disjoint (ps : List (WorkPass Body))
    (hnd : ∀ p ∈ ps, ∀ l ∈ p.collectionSchemeList.bind ICollectionSchemeList.build,
      (schemeIDs l).Nodup) :
    (runWork matrixExtractor ps).Disjoint := by
  induction ps using List.reverseRecOn with
  | nil => exact fun id h => by simp [runWork, Worker.init, init] at h
  | append_singleton ps p ih =>
    rw [runWork_concat]
    exact pass_disjoint (processDecoderManifest_disjoint
      (ih fun q hq => hnd q (List.mem_append_left _ hq))) (hnd p (by simp))

/-! ## What a pass that changes no document leaves alone -/

omit [DecidableEq Body] in
theorem processDecoderManifest_false {o : Option IDecoderManifest}
    {m : CollectionSchemeManager Body} (h : (processDecoderManifest o m).1 = false) :
    (processDecoderManifest o m).2 = m := by
  rcases o with _ | ⟨_ | id⟩
  · rfl
  · rfl
  · by_cases hid : id = m.currentDecoderManifestID <;> simp_all [processDecoderManifest]

theorem doWorkPass_frame (h : (doWorkPass matrixExtractor p w).1 = false) :
    (doWorkPass matrixExtractor p w).2.enabledCollectionSchemeMap = w.enabledCollectionSchemeMap ∧
      (doWorkPass matrixExtractor p w).2.currentDecoderManifestID = w.currentDecoderManifestID ∧
      (doWorkPass matrixExtractor p w).2.activeCollectionSchemes = w.activeCollectionSchemes ∧
      (doWorkPass matrixExtractor p w).2.matrices = w.matrices := by
  simp only [doWorkPass, Bool.or_eq_false_iff] at h ⊢
  obtain ⟨hd, hc⟩ := h
  have hm := processDecoderManifest_false hd
  refine ⟨?_, ?_, by simp [hd, hc], by simp [hd, hc]⟩
  · rw [enabled_eq_of_pass_false hc, hm]
  · rw [pass_currentDecoderManifestID, hm]

theorem doWorkPass_checkin_frame
    (h : ((doWorkPass matrixExtractor p w).1 || w.initialCheckinDocumentsUpdate) = false) :
    (doWorkPass matrixExtractor p w).2.enabledCollectionSchemeMap = w.enabledCollectionSchemeMap ∧
      (doWorkPass matrixExtractor p w).2.currentDecoderManifestID = w.currentDecoderManifestID ∧
      (doWorkPass matrixExtractor p w).2.checkinDocuments = w.checkinDocuments := by
  rw [Bool.or_eq_false_iff] at h
  obtain ⟨hE, hdm, -⟩ := doWorkPass_frame matrixExtractor h.1
  refine ⟨hE, hdm, ?_⟩
  simp only [doWorkPass] at h ⊢
  simp [h.1, h.2]

theorem doWorkPass_published (h : (doWorkPass matrixExtractor p w).1 = true) :
    (doWorkPass matrixExtractor p w).2.activeCollectionSchemes =
        some (updateActiveCollectionSchemeListeners
          (doWorkPass matrixExtractor p w).2.toCollectionSchemeManager) ∧
      (doWorkPass matrixExtractor p w).2.matrices =
        some (matrixExtractor (doWorkPass matrixExtractor p w).2.enabledCollectionSchemeMap
          (doWorkPass matrixExtractor p w).2.currentDecoderManifestID) := by
  simp only [doWorkPass] at h ⊢
  simp [h]

theorem doWorkPass_checkin_sent
    (h : ((doWorkPass matrixExtractor p w).1 || w.initialCheckinDocumentsUpdate) = true) :
    (doWorkPass matrixExtractor p w).2.checkinDocuments =
      updateCheckinDocuments (doWorkPass matrixExtractor p w).2.toCollectionSchemeManager [] := by
  simp only [doWorkPass] at h ⊢
  simp [h]

theorem doWorkPass_initialCheckinDocumentsUpdate :
    (doWorkPass matrixExtractor p w).2.initialCheckinDocumentsUpdate = false := by
  simp only [doWorkPass]
  split_ifs <;> simp_all

/-! ## The same pass with state templates -/

variable {q : WorkPassLKS Body T} {v : WorkerLKS Body α T}

theorem doWorkPassLKS_checkin_frame
    (h : ((doWorkPassLKS matrixExtractor q v).1 || v.initialCheckinDocumentsUpdate) = false) :
    (doWorkPassLKS matrixExtractor q v).2.enabledCollectionSchemeMap = v.enabledCollectionSchemeMap ∧
      (doWorkPassLKS matrixExtractor q v).2.currentDecoderManifestID = v.currentDecoderManifestID ∧
      stateTemplateIds (doWorkPassLKS matrixExtractor q v).2.stateTemplates =
        stateTemplateIds v.stateTemplates ∧
      (doWorkPassLKS matrixExtractor q v).2.checkinDocuments = v.checkinDocuments := by
  simp only [doWorkPassLKS, Bool.or_eq_false_iff] at h ⊢
  obtain ⟨⟨hr, ht⟩, hi⟩ := h
  obtain ⟨hE, hdm, -⟩ := doWorkPass_frame matrixExtractor hr
  exact ⟨hE, hdm, by rw [stateTemplateIds, processStateTemplates_stateTemplates_of_false ht]; rfl,
    by simp [hr, ht, hi]⟩

theorem doWorkPassLKS_checkin_sent
    (h : ((doWorkPassLKS matrixExtractor q v).1 || v.initialCheckinDocumentsUpdate) = true) :
    (doWorkPassLKS matrixExtractor q v).2.checkinDocuments =
      updateCheckinDocuments (doWorkPassLKS matrixExtractor q v).2.toCollectionSchemeManager
        (stateTemplateIds (doWorkPassLKS matrixExtractor q v).2.stateTemplates) := by
  simp only [doWorkPassLKS] at h ⊢
  simp [h]

theorem doWorkPassLKS_initialCheckinDocumentsUpdate :
    (doWorkPassLKS matrixExtractor q v).2.initialCheckinDocumentsUpdate = false := by
  simp only [doWorkPassLKS]
  split_ifs <;> simp_all

/-! ## The last checkin, in either build -/

section LastCheckin

variable {σ π : Type} (step : π → σ → Bool × σ) (init : σ) (mgr : σ → CollectionSchemeManager Body)
  (initial : σ → Bool) (checkin templateIds : σ → List SyncID)

omit [DecidableEq Body] in
theorem foldl_initial (hstart : initial init = true) (hpass : ∀ p w, initial (step p w).2 = false)
    (ps : List π) : initial (ps.foldl (fun w p => (step p w).2) init) = ps.isEmpty := by
  rcases List.eq_nil_or_concat ps with rfl | ⟨ps, p, rfl⟩
  · exact hstart
  · simp [hpass]

omit [DecidableEq Body] in
/-- **The last checkin of a run**, for any pass that sends one as `doWork` does. -/
theorem foldl_last_checkin (hstart : initial init = true)
    (hpass : ∀ p w, initial (step p w).2 = false)
    (hframe : ∀ p w, ((step p w).1 || initial w) = false →
      (mgr (step p w).2).enabledCollectionSchemeMap = (mgr w).enabledCollectionSchemeMap ∧
      (mgr (step p w).2).currentDecoderManifestID = (mgr w).currentDecoderManifestID ∧
      templateIds (step p w).2 = templateIds w ∧ checkin (step p w).2 = checkin w)
    (hsent : ∀ p w, ((step p w).1 || initial w) = true →
      checkin (step p w).2 = updateCheckinDocuments (mgr (step p w).2) (templateIds (step p w).2))
    (ps : List π) :
    (ps = [] ∧ checkin (ps.foldl (fun w p => (step p w).2) init) = checkin init) ∨
      ∃ ps₁ p ps₂, ps = ps₁ ++ p :: ps₂ ∧
        (ps₁ = [] ∨ (step p (ps₁.foldl (fun w p => (step p w).2) init)).1 = true) ∧
        (∀ qs₁ q qs₂, ps₂ = qs₁ ++ q :: qs₂ →
          (step q ((ps₁ ++ p :: qs₁).foldl (fun w p => (step p w).2) init)).1 = false) ∧
        checkin (ps.foldl (fun w p => (step p w).2) init) = updateCheckinDocuments
          { mgr (ps.foldl (fun w p => (step p w).2) init) with
            idleCollectionSchemeMap :=
              (mgr ((ps₁ ++ [p]).foldl (fun w p => (step p w).2) init)).idleCollectionSchemeMap }
          (templateIds (ps.foldl (fun w p => (step p w).2) init)) := by
  have hinit := foldl_initial step init initial hstart hpass
  rcases foldl_last_flag (fun p w => (step p w).2) (fun p w => (step p w).1 || initial w)
      (fun w => ((mgr w).enabledCollectionSchemeMap, (mgr w).currentDecoderManifestID,
        templateIds w, checkin w))
      (fun p w h => by
        obtain ⟨h1, h2, h3, h4⟩ := hframe p w h
        simp only [h1, h2, h3, h4]) ps init with
    ⟨hout, hno⟩ | ⟨ps₁, p, ps₂, hps, hf, hno, hout⟩
  · simp only [Prod.mk.injEq] at hout
    refine .inl ⟨?_, hout.2.2.2⟩
    rcases ps with _ | ⟨p, ps⟩
    · rfl
    · simpa [hstart] using hno [] p ps rfl
  · simp only [Prod.mk.injEq] at hout
    obtain ⟨hE, hdm, hids, hck⟩ := hout
    refine .inr ⟨ps₁, p, ps₂, hps, ?_, fun qs₁ q qs₂ h => (Bool.or_eq_false_iff.mp (hno qs₁ q qs₂ h)).1, ?_⟩
    · simp only [hinit, Bool.or_eq_true, List.isEmpty_iff] at hf
      exact hf.symm
    · rw [List.foldl_concat, hck, hsent p _ hf, hids]
      simp only [updateCheckinDocuments, hE, hdm]

end LastCheckin

/-! ## What the listeners hold at the wait point -/

/-- **The published schemes** are those of the last pass changing the manifest or Enabled map. -/
theorem doWork_activeCollectionSchemes (ps : List (WorkPass Body)) :
    let w := runWork matrixExtractor ps
    (w.activeCollectionSchemes = none ∧ w.matrices = none ∧
        w.enabledCollectionSchemeMap = ∅ ∧ w.currentDecoderManifestID = "") ∨
      ∃ ps₁ p ps₂, ps = ps₁ ++ p :: ps₂ ∧
        (doWorkPass matrixExtractor p (runWork matrixExtractor ps₁)).1 = true ∧
        (∀ qs₁ q qs₂, ps₂ = qs₁ ++ q :: qs₂ →
          (doWorkPass matrixExtractor q (runWork matrixExtractor (ps₁ ++ p :: qs₁))).1 = false) ∧
        w.activeCollectionSchemes = some (updateActiveCollectionSchemeListeners
          { w.toCollectionSchemeManager with
            idleCollectionSchemeMap := (runWork matrixExtractor (ps₁ ++ [p])).idleCollectionSchemeMap }) ∧
        w.matrices = some (matrixExtractor w.enabledCollectionSchemeMap w.currentDecoderManifestID) := by
  rcases runWork_last_flag matrixExtractor (fun p w => (doWorkPass matrixExtractor p w).1)
      (fun w => (w.enabledCollectionSchemeMap, w.currentDecoderManifestID,
        w.activeCollectionSchemes, w.matrices))
      (fun p w h => by
        obtain ⟨h1, h2, h3, h4⟩ := doWorkPass_frame matrixExtractor h
        simp only [h1, h2, h3, h4]) ps with
    ⟨hout, -⟩ | ⟨ps₁, p, ps₂, hps, hf, hno, hout⟩
  · simp only [Prod.mk.injEq] at hout
    exact .inl ⟨hout.2.2.1, hout.2.2.2, hout.1, hout.2.1⟩
  · simp only [Prod.mk.injEq] at hout
    obtain ⟨hE, hdm, hact, hmat⟩ := hout
    obtain ⟨hact', hmat'⟩ := doWorkPass_published matrixExtractor hf
    rw [← runWork_concat] at hact' hmat'
    refine .inr ⟨ps₁, p, ps₂, hps, hf, hno, ?_, by rw [hmat, hmat', hE, hdm]⟩
    rw [hact, hact']
    simp only [updateActiveCollectionSchemeListeners, isCollectionSchemesInSyncWithDm, hE, hdm]

/-- **The last checkin, in both builds**, with the Idle IDs of the last pass changing a document. -/
theorem doWork_checkinDocuments (ps : List (WorkPass Body)) (qs : List (WorkPassLKS Body T)) :
    (let w := runWork matrixExtractor ps
     (ps = [] ∧ w.checkinDocuments = []) ∨
      ∃ ps₁ p ps₂, ps = ps₁ ++ p :: ps₂ ∧
        (ps₁ = [] ∨ (doWorkPass matrixExtractor p (runWork matrixExtractor ps₁)).1 = true) ∧
        (∀ qs₁ q qs₂, ps₂ = qs₁ ++ q :: qs₂ →
          (doWorkPass matrixExtractor q (runWork matrixExtractor (ps₁ ++ p :: qs₁))).1 = false) ∧
        w.checkinDocuments = updateCheckinDocuments
          { w.toCollectionSchemeManager with
            idleCollectionSchemeMap := (runWork matrixExtractor (ps₁ ++ [p])).idleCollectionSchemeMap }
          []) ∧
    (let w := runWorkLKS matrixExtractor qs
     (qs = [] ∧ w.checkinDocuments = []) ∨
      ∃ qs₁ q qs₂, qs = qs₁ ++ q :: qs₂ ∧
        (qs₁ = [] ∨ (doWorkPassLKS matrixExtractor q (runWorkLKS matrixExtractor qs₁)).1 = true) ∧
        (∀ rs₁ r rs₂, qs₂ = rs₁ ++ r :: rs₂ →
          (doWorkPassLKS matrixExtractor r (runWorkLKS matrixExtractor (qs₁ ++ q :: rs₁))).1 = false) ∧
        w.checkinDocuments = updateCheckinDocuments
          { w.toCollectionSchemeManager with
            idleCollectionSchemeMap :=
              (runWorkLKS matrixExtractor (qs₁ ++ [q])).idleCollectionSchemeMap }
          (stateTemplateIds w.stateTemplates)) :=
  ⟨foldl_last_checkin (doWorkPass matrixExtractor) Worker.init (·.toCollectionSchemeManager)
      (·.initialCheckinDocumentsUpdate) (·.checkinDocuments) (fun _ => []) rfl
      (fun _ _ => doWorkPass_initialCheckinDocumentsUpdate matrixExtractor)
      (fun _ _ h => let ⟨hE, hdm, hck⟩ := doWorkPass_checkin_frame matrixExtractor h; ⟨hE, hdm, rfl, hck⟩)
      (fun _ _ h => doWorkPass_checkin_sent matrixExtractor h) ps,
    foldl_last_checkin (doWorkPassLKS matrixExtractor) WorkerLKS.init (·.toCollectionSchemeManager)
      (·.initialCheckinDocumentsUpdate) (·.checkinDocuments) (fun w => stateTemplateIds w.stateTemplates)
      rfl (fun _ _ => doWorkPassLKS_initialCheckinDocumentsUpdate matrixExtractor)
      (fun _ _ h => doWorkPassLKS_checkin_frame matrixExtractor h)
      (fun _ _ h => doWorkPassLKS_checkin_sent matrixExtractor h) qs⟩

/-! ## What the listeners receive -/

omit [DecidableEq Body] in
theorem isCollectionSchemesInSyncWithDm_iff {m : CollectionSchemeManager Body} :
    isCollectionSchemesInSyncWithDm m = true ↔
      ∀ id s, m.enabledCollectionSchemeMap.lookup id = some s ∨
        m.idleCollectionSchemeMap.lookup id = some s →
        s.decoderManifestID = m.currentDecoderManifestID := by
  simp [isCollectionSchemesInSyncWithDm, List.all_eq_true, SchemeMap.lookup_eq_some, or_imp,
    forall_and, Sigma.forall]

omit [DecidableEq Body] in
/-- **The published schemes, all or none**: the Enabled ones, if all stored schemes are in sync. -/
theorem mem_updateActiveCollectionSchemeListeners (m : CollectionSchemeManager Body)
    (s : CollectionScheme Body) :
    s ∈ updateActiveCollectionSchemeListeners m ↔
      (∃ id, m.enabledCollectionSchemeMap.lookup id = some s) ∧
        ∀ id s', m.enabledCollectionSchemeMap.lookup id = some s' ∨
          m.idleCollectionSchemeMap.lookup id = some s' →
          s'.decoderManifestID = m.currentDecoderManifestID := by
  rw [← isCollectionSchemesInSyncWithDm_iff]
  simp only [updateActiveCollectionSchemeListeners, SchemeMap.inOrder]
  split_ifs with h
  · simp [h, (List.perm_insertionSort _ _).mem_iff, SchemeMap.lookup_eq_some]
  · simp [h]

/-! ## A change to the Idle map alone -/

def schemeB (dm : SyncID) : CollectionScheme Unit := ⟨"B", dm, 50, 100, ()⟩

/-- At time 5 `DM1` and `[A]` arrive, `A` of `DM1`; at time 10 `[A, B]`, `B` of `DM2`. -/
def staleActiveRun : List (WorkPass Unit) :=
  [⟨some ⟨some "DM1"⟩, some ⟨some [schemeA 0 100]⟩, 5, 5⟩,
    ⟨none, some ⟨some [schemeA 0 100, schemeB "DM2"]⟩, 10, 10⟩]

theorem staleActiveRun_published :
    (runWork (fun _ _ => ()) staleActiveRun).activeCollectionSchemes = some [schemeA 0 100] ∧
      updateActiveCollectionSchemeListeners
        (runWork (fun _ _ => ()) staleActiveRun).toCollectionSchemeManager = [] := by
  decide

/-- At time 5 the manifest `DM1` arrives; at time 10 the list `[B]`, `B` of `DM1`. -/
def staleCheckinRun : List (WorkPass Unit) :=
  [⟨some ⟨some "DM1"⟩, none, 5, 5⟩, ⟨none, some ⟨some [schemeB "DM1"]⟩, 10, 10⟩]

def staleCheckinRunLKS : List (WorkPassLKS Unit Unit) :=
  staleCheckinRun.map fun p => ⟨p, none⟩

/-- In either build the last checkin lists `DM1` alone, while the state holds the Idle `B` too. -/
theorem staleCheckinRun_checkin :
    (runWork (fun _ _ => ()) staleCheckinRun).checkinDocuments = ["DM1"] ∧
      updateCheckinDocuments
        (runWork (fun _ _ => ()) staleCheckinRun).toCollectionSchemeManager [] = ["B", "DM1"] ∧
      (runWorkLKS (fun _ _ => ()) staleCheckinRunLKS).checkinDocuments = ["DM1"] ∧
      updateCheckinDocuments (runWorkLKS (fun _ _ => ()) staleCheckinRunLKS).toCollectionSchemeManager
        (stateTemplateIds (runWorkLKS (fun _ _ => ()) staleCheckinRunLKS).stateTemplates) =
          ["B", "DM1"] := by
  decide

/-! ## A scheme of another manifest -/

/-- At time 5 `DM1` and `[A, B]` arrive, `A` of `DM1` on `[0, 100)` and `B` of `DM2`. -/
def mixedManifestRun : List (WorkPass Unit) :=
  [⟨some ⟨some "DM1"⟩, some ⟨some [schemeA 0 100, schemeB "DM2"]⟩, 5, 5⟩]

theorem mixedManifestRun_published :
    (runWork (fun _ _ => ()) mixedManifestRun).enabledCollectionSchemeMap.lookup "A" =
        some (schemeA 0 100) ∧
      (schemeA 0 100).decoderManifestID =
        (runWork (fun _ _ => ()) mixedManifestRun).currentDecoderManifestID ∧
      (runWork (fun _ _ => ()) mixedManifestRun).activeCollectionSchemes = some [] := by
  decide

end CollectionSchemeManager

end FleetWise
