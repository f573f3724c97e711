import FleetWiseEdge.Manager.Types

/-!
# State templates

`CollectionSchemeManager::processStateTemplates` (`CollectionSchemeManager.cpp`, built with
`FWE_FEATURE_LAST_KNOWN_STATE`). The cloud sends the state templates as versioned diffs: a diff
older than the last one applied is ignored; otherwise its version becomes the last one, the
templates it removes are erased and the templates it adds are inserted, an ID already present
keeping its template. The call returns whether a template was erased or inserted (the store of
the list is left out).

* `removeStateTemplate`, `addStateTemplate`: one step of each loop; `foldl_removeStateTemplate`,
  `foldl_addStateTemplate`: each loop in closed form.
* **`processStateTemplates_spec`**: what one delivery does to each ID, to the version and to the
  flag.
* **`processStateTemplates_twice`**: delivering a diff again leaves the templates as they are, and
  reports a change only when the diff removes an ID that it also adds.
* **`run_processStateTemplates`**: over any sequence of deliveries the version is the largest one
  delivered, and a diff older than one delivered before it changes nothing.
-/

namespace FleetWise

namespace CollectionSchemeManager

/-- `StateTemplateInformation` as the manager reads it: its ID, the rest an opaque body. -/
structure StateTemplateInformation (T : Type) where
  id : SyncID
  body : T
deriving DecidableEq, Repr

structure StateTemplatesDiff (T : Type) where
  version : Nat
  stateTemplatesToRemove : List SyncID
  stateTemplatesToAdd : List (StateTemplateInformation T)
deriving DecidableEq, Repr

/-- A received `LastKnownStateIngestion`: `none` if unbuilt, `some none` if its diff is null. -/
structure LastKnownStateIngestion (T : Type) where
  build : Option (Option (StateTemplatesDiff T))
deriving DecidableEq, Repr

/-- `std::unordered_map<SyncID, std::shared_ptr<StateTemplateInformation>>`. -/
abbrev StateTemplateMap (T : Type) := AList fun _ : SyncID => StateTemplateInformation T

/-- `mStateTemplates` and `mLastStateTemplatesDiffVersion`. -/
structure StateTemplates (T : Type) where
  stateTemplates : StateTemplateMap T
  lastStateTemplatesDiffVersion : Nat

variable {T : Type}

/-- One ID of the removal loop: `erase` returns whether it found the ID. -/
def removeStateTemplate (acc : Bool × StateTemplateMap T) (stateTemplateId : SyncID) :
    Bool × StateTemplateMap T :=
  if stateTemplateId ∈ acc.2 then (true, acc.2.erase stateTemplateId) else acc

/-- One template of the insertion loop: an ID already present is skipped. -/
def addStateTemplate (acc : Bool × StateTemplateMap T) (stateTemplate : StateTemplateInformation T) :
    Bool × StateTemplateMap T :=
  if stateTemplate.id ∈ acc.2 then acc else (true, acc.2.insert stateTemplate.id stateTemplate)

/-- `processStateTemplates`, given `mLastKnownStateIngestion` (`none` for a null pointer). -/
def processStateTemplates (lastKnownStateIngestion : Option (LastKnownStateIngestion T))
    (st : StateTemplates T) : Bool × StateTemplates T :=
  match lastKnownStateIngestion.bind LastKnownStateIngestion.build with
  | none | some none => (false, st)
  | some (some stateTemplatesDiff) =>
    if stateTemplatesDiff.version < st.lastStateTemplatesDiffVersion then (false, st) else
    let acc := stateTemplatesDiff.stateTemplatesToRemove.foldl removeStateTemplate
      (false, st.stateTemplates)
    let acc := stateTemplatesDiff.stateTemplatesToAdd.foldl addStateTemplate acc
    (acc.1, ⟨acc.2, stateTemplatesDiff.version⟩)

def runStateTemplates (st : StateTemplates T) (ds : List (Option (LastKnownStateIngestion T))) :
    StateTemplates T :=
  ds.foldl (fun st d => (processStateTemplates d st).2) st

/-! ## The two loops -/

section Loops

variable {β σ : Type} (f : Bool × σ → β → Bool × σ)

theorem foldl_flag_of_true (hf : ∀ acc b, f acc b = acc ∨ (f acc b).1 = true) :
    ∀ (l : List β) (acc : Bool × σ), acc.1 = true → (l.foldl f acc).1 = true
  | [], _, h => h
  | b :: l, acc, h => foldl_flag_of_true hf l _ ((hf acc b).elim (fun e => by rw [e]; exact h) id)

theorem foldl_eq_of_flag_false (hf : ∀ acc b, f acc b = acc ∨ (f acc b).1 = true) :
    ∀ (l : List β) (acc : Bool × σ), (l.foldl f acc).1 = false → l.foldl f acc = acc
  | [], _, _ => rfl
  | b :: l, acc, h => by
    rw [List.foldl_cons] at h ⊢
    rcases hf acc b with e | e
    · rw [e] at h ⊢
      exact foldl_eq_of_flag_false hf l acc h
    · rw [foldl_flag_of_true f hf l _ e] at h
      cases h

end Loops

theorem removeStateTemplate_eq_or (acc : Bool × StateTemplateMap T) (id : SyncID) :
    removeStateTemplate acc id = acc ∨ (removeStateTemplate acc id).1 = true := by
  unfold removeStateTemplate
  split_ifs <;> simp

theorem addStateTemplate_eq_or (acc : Bool × StateTemplateMap T) (t : StateTemplateInformation T) :
    addStateTemplate acc t = acc ∨ (addStateTemplate acc t).1 = true := by
  unfold addStateTemplate
  split_ifs <;> simp

theorem foldl_removeStateTemplate : ∀ (ids : List SyncID) (acc : Bool × StateTemplateMap T),
    (ids.foldl removeStateTemplate acc).1 = (acc.1 || ids.any (· ∈ acc.2)) ∧
      ∀ id, (ids.foldl removeStateTemplate acc).2.lookup id =
        if id ∈ ids then none else acc.2.lookup id
  | [], acc => by simp
  | k :: ids, (modified, m) => by
    obtain ⟨h1, h2⟩ := foldl_removeStateTemplate ids (removeStateTemplate (modified, m) k)
    rw [List.foldl_cons]
    unfold removeStateTemplate at h1 h2 ⊢
    by_cases hk : k ∈ m
    · simp only [hk, ↓reduceIte] at h1 h2 ⊢
      refine ⟨by simp [h1, hk], fun id => ?_⟩
      rw [h2, lookup_erase_ite]
      by_cases h : id = k <;> simp [h]
    · simp only [hk, ↓reduceIte] at h1 h2 ⊢
      refine ⟨by simp [h1, List.any_cons, hk], fun id => ?_⟩
      rw [h2]
      by_cases h : id = k
      · subst h; simp [AList.lookup_eq_none.mpr hk]
      · simp [h]

theorem foldl_addStateTemplate :
    ∀ (ts : List (StateTemplateInformation T)) (acc : Bool × StateTemplateMap T),
      (ts.foldl addStateTemplate acc).1 = (acc.1 || ts.any (·.id ∉ acc.2)) ∧
        ∀ id, (ts.foldl addStateTemplate acc).2.lookup id =
          (acc.2.lookup id).or (ts.find? (·.id = id))
  | [], acc => by simp
  | t :: ts, (modified, m) => by
    obtain ⟨h1, h2⟩ := foldl_addStateTemplate ts (addStateTemplate (modified, m) t)
    rw [List.foldl_cons]
    unfold addStateTemplate at h1 h2 ⊢
    by_cases ht : t.id ∈ m
    · simp only [ht, ↓reduceIte] at h1 h2 ⊢
      refine ⟨by simp [h1, ht], fun id => ?_⟩
      rw [h2, List.find?_cons]
      by_cases h : t.id = id
      · subst h
        obtain ⟨v, hv⟩ := Option.isSome_iff_exists.mp (AList.lookup_isSome.mpr ht)
        simp [hv]
      · simp [h]
    · simp only [ht, ↓reduceIte] at h1 h2 ⊢
      refine ⟨by simp [h1, ht], fun id => ?_⟩
      rw [h2, List.find?_cons, lookup_insert_ite]
      by_cases h : t.id = id
      · subst h; simp [AList.lookup_eq_none.mpr ht]
      · simp [h, Ne.symm h]

/-! ## One diff -/

def diffOf (d : Option (LastKnownStateIngestion T)) : Option (StateTemplatesDiff T) :=
  (d.bind LastKnownStateIngestion.build).join

theorem processStateTemplates_of_none {d : Option (LastKnownStateIngestion T)} (st : StateTemplates T)
    (h : diffOf d = none) : processStateTemplates d st = (false, st) := by
  unfold processStateTemplates
  unfold diffOf at h
  split <;> simp_all

theorem processStateTemplates_of_lt {d : Option (LastKnownStateIngestion T)} {diff : StateTemplatesDiff T}
    {st : StateTemplates T} (h : diffOf d = some diff) (hv : diff.version < st.lastStateTemplatesDiffVersion) :
    processStateTemplates d st = (false, st) := by
  unfold processStateTemplates
  unfold diffOf at h
  split <;> simp_all

theorem processStateTemplates_eq {d : Option (LastKnownStateIngestion T)} {diff : StateTemplatesDiff T}
    (st : StateTemplates T) (h : diffOf d = some diff)
    (hv : st.lastStateTemplatesDiffVersion ≤ diff.version) :
    processStateTemplates d st =
      ((diff.stateTemplatesToAdd.foldl addStateTemplate
          (diff.stateTemplatesToRemove.foldl removeStateTemplate (false, st.stateTemplates))).1,
        ⟨(diff.stateTemplatesToAdd.foldl addStateTemplate
          (diff.stateTemplatesToRemove.foldl removeStateTemplate (false, st.stateTemplates))).2,
          diff.version⟩) := by
  have hd : d.bind LastKnownStateIngestion.build = some (some diff) := by
    unfold diffOf at h
    cases hb : d.bind LastKnownStateIngestion.build with
    | none => simp [hb] at h
    | some o => cases o <;> simp_all
  simp only [processStateTemplates, hd, Nat.not_lt.mpr hv, ↓reduceIte]

theorem processStateTemplates_stateTemplates_of_false {d : Option (LastKnownStateIngestion T)}
    {st : StateTemplates T} (h : (processStateTemplates d st).1 = false) :
    (processStateTemplates d st).2.stateTemplates = st.stateTemplates := by
  cases hd : diffOf d with
  | none => rw [processStateTemplates_of_none st hd]
  | some diff =>
    by_cases hv : diff.version < st.lastStateTemplatesDiffVersion
    · rw [processStateTemplates_of_lt hd hv]
    rw [processStateTemplates_eq st hd (Nat.le_of_not_lt hv)] at h ⊢
    have hadd := foldl_eq_of_flag_false _ addStateTemplate_eq_or _ _ h
    rw [hadd] at h ⊢
    rw [foldl_eq_of_flag_false _ removeStateTemplate_eq_or _ _ h]

theorem processStateTemplates_accept {d : Option (LastKnownStateIngestion T)} {diff : StateTemplatesDiff T}
    (st : StateTemplates T) (h : diffOf d = some diff)
    (hv : st.lastStateTemplatesDiffVersion ≤ diff.version) :
    (processStateTemplates d st).2.lastStateTemplatesDiffVersion = diff.version ∧
      (∀ id, (processStateTemplates d st).2.stateTemplates.lookup id =
        (if id ∈ diff.stateTemplatesToRemove then none else st.stateTemplates.lookup id).or
          (diff.stateTemplatesToAdd.find? (·.id = id))) ∧
      ((processStateTemplates d st).1 = true ↔
        (∃ id ∈ diff.stateTemplatesToRemove, id ∈ st.stateTemplates) ∨
          ∃ t ∈ diff.stateTemplatesToAdd,
            t.id ∈ diff.stateTemplatesToRemove ∨ t.id ∉ st.stateTemplates) := by
  obtain ⟨hr1, hr2⟩ := foldl_removeStateTemplate diff.stateTemplatesToRemove (false, st.stateTemplates)
  obtain ⟨ha1, ha2⟩ := foldl_addStateTemplate diff.stateTemplatesToAdd
    (diff.stateTemplatesToRemove.foldl removeStateTemplate (false, st.stateTemplates))
  have hmem : ∀ id, id ∈ (diff.stateTemplatesToRemove.foldl removeStateTemplate
      (false, st.stateTemplates)).2 ↔ id ∉ diff.stateTemplatesToRemove ∧ id ∈ st.stateTemplates := by
    intro id
    rw [← AList.lookup_isSome, hr2, ← AList.lookup_isSome]
    split_ifs with h <;> simp [h]
  rw [processStateTemplates_eq st h hv]
  refine ⟨rfl, fun id => by rw [ha2, hr2], ?_⟩
  rw [ha1, hr1]
  simp only [Bool.false_or, Bool.or_eq_true, List.any_eq_true, decide_eq_true_eq, hmem, not_and]
  exact or_congr Iff.rfl (exists_congr fun t => and_congr_right fun _ => by tauto)

/-- **The same diff twice** changes no template, and reports a change iff it re-adds an ID. -/
theorem processStateTemplates_twice {d : Option (LastKnownStateIngestion T)}
    {diff : StateTemplatesDiff T} (st : StateTemplates T) (h : diffOf d = some diff)
    (hv : st.lastStateTemplatesDiffVersion ≤ diff.version) :
    (processStateTemplates d (processStateTemplates d st).2).2.lastStateTemplatesDiffVersion =
        (processStateTemplates d st).2.lastStateTemplatesDiffVersion ∧
      (∀ id, (processStateTemplates d (processStateTemplates d st).2).2.stateTemplates.lookup id =
        (processStateTemplates d st).2.stateTemplates.lookup id) ∧
      ((processStateTemplates d (processStateTemplates d st).2).1 = true ↔
        ∃ t ∈ diff.stateTemplatesToAdd, t.id ∈ diff.stateTemplatesToRemove) := by
  obtain ⟨h1, h2, -⟩ := processStateTemplates_accept st h hv
  obtain ⟨h1', h2', h3'⟩ := processStateTemplates_accept _ h (le_of_eq h1)
  refine ⟨h1'.trans h1.symm, fun id => ?_, ?_⟩
  · rw [h2', h2]
    split_ifs <;> simp [Option.or_assoc]
  · rw [h3']
    have hmem : ∀ id, id ∈ (processStateTemplates d st).2.stateTemplates ↔
        (id ∉ diff.stateTemplatesToRemove ∧ id ∈ st.stateTemplates) ∨
          ∃ t ∈ diff.stateTemplatesToAdd, t.id = id := by
      intro id
      rw [← AList.lookup_isSome, h2, ← AList.lookup_isSome]
      split_ifs with hr <;> simp [hr, Option.isSome_or, List.find?_isSome]
    simp only [hmem]
    constructor
    · rintro (⟨id, hr, (⟨hnr, -⟩ | ⟨t, ht, rfl⟩)⟩ | ⟨t, ht, hr | hn⟩)
      · exact absurd hr hnr
      · exact ⟨t, ht, hr⟩
      · exact ⟨t, ht, hr⟩
      · exact absurd (.inr ⟨t, ht, rfl⟩) hn
    · rintro ⟨t, ht, hr⟩
      exact .inr ⟨t, ht, .inl hr⟩

/-- A diff of version 1 that removes `A` and adds `A` and `B`. -/
def removeAddA : StateTemplatesDiff Unit := ⟨1, ["A"], [⟨"A", ()⟩, ⟨"B", ()⟩]⟩

theorem processStateTemplates_twice_removeAddA :
    diffOf (some ⟨some (some removeAddA)⟩) = some removeAddA ∧
      (⟨∅, 0⟩ : StateTemplates Unit).lastStateTemplatesDiffVersion ≤ removeAddA.version ∧
      ((processStateTemplates (some ⟨some (some removeAddA)⟩)
        (processStateTemplates (some ⟨some (some removeAddA)⟩) ⟨∅, 0⟩).2).1 = true ↔
          ∃ t ∈ removeAddA.stateTemplatesToAdd, t.id ∈ removeAddA.stateTemplatesToRemove) :=
  have h : diffOf (some ⟨some (some removeAddA)⟩) = some removeAddA := rfl
  ⟨h, Nat.zero_le 1, (processStateTemplates_twice ⟨∅, 0⟩ h (Nat.zero_le 1)).2.2⟩

/-! ## Deliveries -/

def diffVersions (ds : List (Option (LastKnownStateIngestion T))) : List Nat :=
  ds.filterMap fun d => (diffOf d).map (·.version)

theorem processStateTemplates_version (d : Option (LastKnownStateIngestion T)) (st : StateTemplates T) :
    (processStateTemplates d st).2.lastStateTemplatesDiffVersion =
      ((diffOf d).map (·.version)).elim st.lastStateTemplatesDiffVersion
        (max st.lastStateTemplatesDiffVersion) := by
  cases h : diffOf d with
  | none => simp [processStateTemplates_of_none st h]
  | some diff =>
    by_cases hv : diff.version < st.lastStateTemplatesDiffVersion
    · simp [processStateTemplates_of_lt h hv, Nat.max_eq_left hv.le]
    · simp [(processStateTemplates_accept st h (Nat.le_of_not_lt hv)).1,
        Nat.max_eq_right (Nat.le_of_not_lt hv)]

theorem le_foldl_max : ∀ (l : List Nat) (init : Nat),
    init ≤ l.foldl max init ∧ ∀ v ∈ l, v ≤ l.foldl max init
  | [], _ => by simp
  | a :: l, init => by
    obtain ⟨h1, h2⟩ := le_foldl_max l (max init a)
    refine ⟨(le_max_left _ _).trans h1, fun v hv => ?_⟩
    rcases List.mem_cons.mp hv with rfl | hv
    · exact (le_max_right _ _).trans h1
    · exact h2 v hv

theorem version_runStateTemplates :
    ∀ (ds : List (Option (LastKnownStateIngestion T))) (st : StateTemplates T),
      (runStateTemplates st ds).lastStateTemplatesDiffVersion =
        (diffVersions ds).foldl max st.lastStateTemplatesDiffVersion
  | [], _ => rfl
  | d :: ds, st => by
    rw [runStateTemplates, List.foldl_cons, ← runStateTemplates, version_runStateTemplates ds,
      processStateTemplates_version]
    simp only [diffVersions, List.filterMap_cons]
    cases diffOf d <;> rfl

/-- **The version over a run** is the largest delivered, and an older diff changes nothing. -/
theorem run_processStateTemplates (st : StateTemplates T)
    (ds : List (Option (LastKnownStateIngestion T))) :
    (runStateTemplates st ds).lastStateTemplatesDiffVersion =
        (diffVersions ds).foldl max st.lastStateTemplatesDiffVersion ∧
      ∀ d diff, diffOf d = some diff → (∃ v ∈ diffVersions ds, diff.version < v) →
        processStateTemplates d (runStateTemplates st ds) = (false, runStateTemplates st ds) := by
  refine ⟨version_runStateTemplates ds st, fun d diff h ⟨v, hmem, hlt⟩ =>
    processStateTemplates_of_lt h ?_⟩
  rw [version_runStateTemplates]
  exact hlt.trans_le ((le_foldl_max _ _).2 v hmem)

end CollectionSchemeManager

end FleetWise
