import FleetWiseEdge.Manager.Types

/-!
# Rebuilding and updating the maps

`rebuildMapsandTimeLine`, `updateMapsandTimeLine` and `processCollectionScheme`
(`CollectionSchemeManager.cpp`). Each loop body is a definition of its own (`rebuildScheme`,
`updateScheme`), and the loops are folds over the built list.

* `rebuildScheme_cases`, `updateScheme_cases`: what one scheme can do to the maps, the timeline
  and the flag, one disjunct per branch of the source.
* `enabled_eq_of_rebuild_false`, `enabled_eq_of_update_false`: a call that returns `false`
  leaves `mEnabledCollectionSchemeMap` as it was.
* `mem_updateMapsandTimeLine`: after an update every key of both maps is an ID of the list.
* `updateMapsandTimeLine_disjoint`, `processCollectionScheme_disjoint`: an update keeps the maps
  disjoint for every list; a rebuild does when the list names no ID twice.
* **`updateMapsandTimeLine_eq_rebuild`**: from empty maps, an update of a list that names no ID
  twice is the rebuild of it.
-/

namespace FleetWise

namespace CollectionSchemeManager

variable {Body : Type} [DecidableEq Body]

/-- A scheme of `rebuildMapsandTimeLine`: Idle if not started, Enabled if running, else dropped. -/
def rebuildScheme (currTime : Nat) (acc : Bool × CollectionSchemeManager Body)
    (s : CollectionScheme Body) : Bool × CollectionSchemeManager Body :=
  let m := acc.2
  let id := s.collectionSchemeID
  if currTime < s.startTime then
    (acc.1, { m with
      idleCollectionSchemeMap := m.idleCollectionSchemeMap.insert id s
      timeLine := (m.timeLine.push ⟨s.startTime, id⟩).push ⟨s.expiryTime, id⟩ })
  else if currTime < s.expiryTime then
    (true, { m with
      enabledCollectionSchemeMap := m.enabledCollectionSchemeMap.insert id s
      timeLine := m.timeLine.push ⟨s.expiryTime, id⟩ })
  else acc

/-- `rebuildMapsandTimeLine(currTime)` on the schemes of a built list. -/
def rebuildMapsandTimeLine (collectionSchemeList : List (CollectionScheme Body))
    (currTime : Nat) (m : CollectionSchemeManager Body) : Bool × CollectionSchemeManager Body :=
  collectionSchemeList.foldl (rebuildScheme currTime) (false, m)

/-- One scheme of the loop of `updateMapsandTimeLine`: found Enabled, found Idle, or new. -/
def updateScheme (currTime : Nat) (acc : Bool × CollectionSchemeManager Body)
    (s : CollectionScheme Body) : Bool × CollectionSchemeManager Body :=
  let m := acc.2
  let id := s.collectionSchemeID
  match m.enabledCollectionSchemeMap.lookup id with
  | some curr =>
    if s.expiryTime ≤ currTime then
      (true, { m with enabledCollectionSchemeMap := m.enabledCollectionSchemeMap.erase id })
    else
      let m := if s.expiryTime ≠ curr.expiryTime then
        { m with
          enabledCollectionSchemeMap := m.enabledCollectionSchemeMap.insert id s
          timeLine := m.timeLine.push ⟨s.expiryTime, id⟩ }
        else m
      if s ≠ curr then
        (true, { m with enabledCollectionSchemeMap := m.enabledCollectionSchemeMap.insert id s })
      else (acc.1, m)
  | none =>
    match m.idleCollectionSchemeMap.lookup id with
    | some curr =>
      if s.startTime ≤ currTime ∧ currTime < s.expiryTime then
        (true, { m with
          idleCollectionSchemeMap := m.idleCollectionSchemeMap.erase id
          enabledCollectionSchemeMap := m.enabledCollectionSchemeMap.insert id s
          timeLine := m.timeLine.push ⟨s.expiryTime, id⟩ })
      else if currTime < s.startTime ∧
          (s.startTime ≠ curr.startTime ∨ s.expiryTime ≠ curr.expiryTime) then
        (acc.1, { m with
          idleCollectionSchemeMap := m.idleCollectionSchemeMap.insert id s
          timeLine := (m.timeLine.push ⟨s.startTime, id⟩).push ⟨s.expiryTime, id⟩ })
      else
        (acc.1, { m with idleCollectionSchemeMap := m.idleCollectionSchemeMap.insert id s })
    | none =>
      if s.startTime ≤ currTime ∧ currTime < s.expiryTime then
        (true, { m with
          enabledCollectionSchemeMap := m.enabledCollectionSchemeMap.insert id s
          timeLine := m.timeLine.push ⟨s.expiryTime, id⟩ })
      else if currTime < s.startTime then
        (acc.1, { m with
          idleCollectionSchemeMap := m.idleCollectionSchemeMap.insert id s
          timeLine := (m.timeLine.push ⟨s.startTime, id⟩).push ⟨s.expiryTime, id⟩ })
      else acc

/-- `updateMapsandTimeLine`: the loop over the schemes, then the erase loops. -/
def updateMapsandTimeLine (collectionSchemeList : List (CollectionScheme Body))
    (currTime : Nat) (m : CollectionSchemeManager Body) : Bool × CollectionSchemeManager Body :=
  let acc := collectionSchemeList.foldl (updateScheme currTime) (false, m)
  let ids := schemeIDs collectionSchemeList
  let m := acc.2
  (acc.1 || m.enabledCollectionSchemeMap.keys.any (fun id => id ∉ ids),
    { m with
      idleCollectionSchemeMap := m.idleCollectionSchemeMap.retain (· ∈ ids)
      enabledCollectionSchemeMap := m.enabledCollectionSchemeMap.retain (· ∈ ids) })

/-- `processCollectionScheme`: a null or unbuilt list changes nothing; else rebuild or update. -/
def processCollectionScheme (collectionSchemeList : Option (ICollectionSchemeList Body))
    (currTime : Nat) (m : CollectionSchemeManager Body) : Bool × CollectionSchemeManager Body :=
  match collectionSchemeList with
  | none => (false, m)
  | some list =>
    match list.build with
    | none => (false, m)
    | some l =>
      if m.isCollectionSchemeLoaded then updateMapsandTimeLine l currTime m
      else rebuildMapsandTimeLine l currTime m

/-! ## What one scheme does -/

variable {t : Nat} {ret : Bool} {m : CollectionSchemeManager Body} {s : CollectionScheme Body}
  {id : SyncID}

omit [DecidableEq Body] in
theorem rebuildScheme_cases (ret : Bool) (m : CollectionSchemeManager Body)
    (s : CollectionScheme Body) :
    (t < s.startTime ∧ rebuildScheme t (ret, m) s = (ret, { m with
      idleCollectionSchemeMap := m.idleCollectionSchemeMap.insert s.collectionSchemeID s
      timeLine := (m.timeLine.push ⟨s.startTime, s.collectionSchemeID⟩).push
        ⟨s.expiryTime, s.collectionSchemeID⟩ })) ∨
    (s.startTime ≤ t ∧ t < s.expiryTime ∧ rebuildScheme t (ret, m) s = (true, { m with
      enabledCollectionSchemeMap := m.enabledCollectionSchemeMap.insert s.collectionSchemeID s
      timeLine := m.timeLine.push ⟨s.expiryTime, s.collectionSchemeID⟩ })) ∨
    (s.startTime ≤ t ∧ s.expiryTime ≤ t ∧ rebuildScheme t (ret, m) s = (ret, m)) := by
  unfold rebuildScheme
  by_cases h1 : t < s.startTime
  · exact .inl ⟨h1, by simp [h1]⟩
  · by_cases h2 : t < s.expiryTime
    · exact .inr (.inl ⟨Nat.le_of_not_lt h1, h2, by simp [h1, h2]⟩)
    · exact .inr (.inr ⟨Nat.le_of_not_lt h1, Nat.le_of_not_lt h2, by simp [h1, h2]⟩)

theorem updateScheme_cases (ret : Bool) (m : CollectionSchemeManager Body)
    (s : CollectionScheme Body) :
    (∃ curr, m.enabledCollectionSchemeMap.lookup s.collectionSchemeID = some curr ∧
      s.expiryTime ≤ t ∧ updateScheme t (ret, m) s = (true, { m with
        enabledCollectionSchemeMap := m.enabledCollectionSchemeMap.erase s.collectionSchemeID })) ∨
    (∃ curr, m.enabledCollectionSchemeMap.lookup s.collectionSchemeID = some curr ∧
      t < s.expiryTime ∧ updateScheme t (ret, m) s = (ret || decide (s ≠ curr), { m with
        enabledCollectionSchemeMap := if s ≠ curr then
          m.enabledCollectionSchemeMap.insert s.collectionSchemeID s else m.enabledCollectionSchemeMap
        timeLine := if s.expiryTime ≠ curr.expiryTime then
          m.timeLine.push ⟨s.expiryTime, s.collectionSchemeID⟩ else m.timeLine })) ∨
    (m.enabledCollectionSchemeMap.lookup s.collectionSchemeID = none ∧
      ∃ curr, m.idleCollectionSchemeMap.lookup s.collectionSchemeID = some curr ∧
      s.startTime ≤ t ∧ t < s.expiryTime ∧ updateScheme t (ret, m) s = (true, { m with
        idleCollectionSchemeMap := m.idleCollectionSchemeMap.erase s.collectionSchemeID
        enabledCollectionSchemeMap := m.enabledCollectionSchemeMap.insert s.collectionSchemeID s
        timeLine := m.timeLine.push ⟨s.expiryTime, s.collectionSchemeID⟩ })) ∨
    (m.enabledCollectionSchemeMap.lookup s.collectionSchemeID = none ∧
      ∃ curr, m.idleCollectionSchemeMap.lookup s.collectionSchemeID = some curr ∧
      t < s.startTime ∧ (s.startTime ≠ curr.startTime ∨ s.expiryTime ≠ curr.expiryTime) ∧
      updateScheme t (ret, m) s = (ret, { m with
        idleCollectionSchemeMap := m.idleCollectionSchemeMap.insert s.collectionSchemeID s
        timeLine := (m.timeLine.push ⟨s.startTime, s.collectionSchemeID⟩).push
          ⟨s.expiryTime, s.collectionSchemeID⟩ })) ∨
    (m.enabledCollectionSchemeMap.lookup s.collectionSchemeID = none ∧
      ∃ curr, m.idleCollectionSchemeMap.lookup s.collectionSchemeID = some curr ∧
      ¬ (s.startTime ≤ t ∧ t < s.expiryTime) ∧
      ¬ (t < s.startTime ∧ (s.startTime ≠ curr.startTime ∨ s.expiryTime ≠ curr.expiryTime)) ∧
      updateScheme t (ret, m) s = (ret, { m with
        idleCollectionSchemeMap := m.idleCollectionSchemeMap.insert s.collectionSchemeID s })) ∨
    (m.enabledCollectionSchemeMap.lookup s.collectionSchemeID = none ∧
      m.idleCollectionSchemeMap.lookup s.collectionSchemeID = none ∧
      s.startTime ≤ t ∧ t < s.expiryTime ∧ updateScheme t (ret, m) s = (true, { m with
        enabledCollectionSchemeMap := m.enabledCollectionSchemeMap.insert s.collectionSchemeID s
        timeLine := m.timeLine.push ⟨s.expiryTime, s.collectionSchemeID⟩ })) ∨
    (m.enabledCollectionSchemeMap.lookup s.collectionSchemeID = none ∧
      m.idleCollectionSchemeMap.lookup s.collectionSchemeID = none ∧
      t < s.startTime ∧ updateScheme t (ret, m) s = (ret, { m with
        idleCollectionSchemeMap := m.idleCollectionSchemeMap.insert s.collectionSchemeID s
        timeLine := (m.timeLine.push ⟨s.startTime, s.collectionSchemeID⟩).push
          ⟨s.expiryTime, s.collectionSchemeID⟩ })) ∨
    (m.enabledCollectionSchemeMap.lookup s.collectionSchemeID = none ∧
      m.idleCollectionSchemeMap.lookup s.collectionSchemeID = none ∧
      s.startTime ≤ t ∧ s.expiryTime ≤ t ∧ updateScheme t (ret, m) s = (ret, m)) := by
  unfold updateScheme
  cases hE : m.enabledCollectionSchemeMap.lookup s.collectionSchemeID with
  | some curr =>
    by_cases h1 : s.expiryTime ≤ t
    · exact .inl ⟨curr, rfl, h1, by simp [hE, h1]⟩
    refine .inr (.inl ⟨curr, rfl, Nat.lt_of_not_le h1, ?_⟩)
    by_cases h3 : s = curr
    · subst h3; simp [hE, h1]
    · by_cases h2 : s.expiryTime = curr.expiryTime
      · have h1' : ¬ curr.expiryTime ≤ t := h2 ▸ h1
        simp [hE, h1, h1', h2, h3]
      · simp [hE, h1, h2, h3]
  | none =>
    cases hI : m.idleCollectionSchemeMap.lookup s.collectionSchemeID with
    | some curr =>
      by_cases h1 : s.startTime ≤ t ∧ t < s.expiryTime
      · exact .inr (.inr (.inl ⟨rfl, curr, rfl, h1.1, h1.2, by simp [hE, hI, h1]⟩))
      by_cases h2 : t < s.startTime ∧ (s.startTime ≠ curr.startTime ∨ s.expiryTime ≠ curr.expiryTime)
      · exact .inr (.inr (.inr (.inl ⟨rfl, curr, rfl, h2.1, h2.2, by simp only [hE, hI, h1, h2]; rfl⟩)))
      · exact .inr (.inr (.inr (.inr (.inl ⟨rfl, curr, rfl, h1, h2,
          by simp only [hE, hI, h1, h2]; rfl⟩))))
    | none =>
      by_cases h1 : s.startTime ≤ t ∧ t < s.expiryTime
      · exact .inr (.inr (.inr (.inr (.inr (.inl ⟨rfl, rfl, h1.1, h1.2, by simp [hE, hI, h1]⟩)))))
      by_cases h2 : t < s.startTime
      · exact .inr (.inr (.inr (.inr (.inr (.inr (.inl ⟨rfl, rfl, h2, by simp [hE, hI, h1, h2]⟩))))))
      · refine .inr (.inr (.inr (.inr (.inr (.inr (.inr ⟨rfl, rfl, Nat.le_of_not_lt h2, ?_, by
          simp [hE, hI, h1, h2]⟩))))))
        omega

/-! ## Keys -/

variable {acc : Bool × CollectionSchemeManager Body}

omit [DecidableEq Body] in
theorem rebuild_foldl_mem :
    ∀ (l : List (CollectionScheme Body)) (acc : Bool × CollectionSchemeManager Body),
      id ∈ (l.foldl (rebuildScheme t) acc).2.enabledCollectionSchemeMap ∨
        id ∈ (l.foldl (rebuildScheme t) acc).2.idleCollectionSchemeMap →
      id ∈ acc.2.enabledCollectionSchemeMap ∨ id ∈ acc.2.idleCollectionSchemeMap ∨
        id ∈ schemeIDs l
  | [], _, h => h.elim .inl (fun h => .inr (.inl h))
  | s :: l, (ret, m), h => by
    have hs : id ∈ (rebuildScheme t (ret, m) s).2.enabledCollectionSchemeMap ∨
        id ∈ (rebuildScheme t (ret, m) s).2.idleCollectionSchemeMap →
        id ∈ m.enabledCollectionSchemeMap ∨ id ∈ m.idleCollectionSchemeMap ∨
          id = s.collectionSchemeID := by
      rcases rebuildScheme_cases (t := t) ret m s with ⟨-, he⟩ | ⟨-, -, he⟩ | ⟨-, -, he⟩ <;>
        rw [he] <;> simp only [AList.mem_insert] <;> tauto
    simp only [schemeIDs, List.map_cons, List.mem_cons]
    rcases rebuild_foldl_mem l _ h with h | h | h
    · exact (hs (.inl h)).imp_right (.imp_right .inl)
    · exact (hs (.inr h)).imp_right (.imp_right .inl)
    · exact .inr (.inr (.inr h))

omit [DecidableEq Body] in
theorem mem_rebuildMapsandTimeLine {l : List (CollectionScheme Body)}
    (h : id ∈ (rebuildMapsandTimeLine l t m).2.enabledCollectionSchemeMap ∨
      id ∈ (rebuildMapsandTimeLine l t m).2.idleCollectionSchemeMap) :
    id ∈ m.enabledCollectionSchemeMap ∨ id ∈ m.idleCollectionSchemeMap ∨ id ∈ schemeIDs l :=
  rebuild_foldl_mem l _ h

theorem mem_updateMapsandTimeLine {l : List (CollectionScheme Body)}
    (h : id ∈ (updateMapsandTimeLine l t m).2.enabledCollectionSchemeMap ∨
      id ∈ (updateMapsandTimeLine l t m).2.idleCollectionSchemeMap) : id ∈ schemeIDs l := by
  simp only [updateMapsandTimeLine, SchemeMap.mem_retain] at h
  exact h.elim And.left And.left

theorem mem_processCollectionScheme {list : ICollectionSchemeList Body}
    {l : List (CollectionScheme Body)} (hl : list.build = some l)
    (h : id ∈ (processCollectionScheme (some list) t m).2.enabledCollectionSchemeMap ∨
      id ∈ (processCollectionScheme (some list) t m).2.idleCollectionSchemeMap) :
    id ∈ schemeIDs l := by
  simp only [processCollectionScheme, hl] at h
  split at h
  · exact mem_updateMapsandTimeLine h
  · rename_i hload
    obtain ⟨hE, hI⟩ := not_isCollectionSchemeLoaded.mp (Bool.eq_false_iff.mpr hload)
    rcases mem_rebuildMapsandTimeLine h with h | h | h
    · simp [hE] at h
    · simp [hI] at h
    · exact h

/-! ## The flag -/

omit [DecidableEq Body] in
theorem foldl_false {f : Bool × CollectionSchemeManager Body → CollectionScheme Body →
      Bool × CollectionSchemeManager Body}
    (hf : ∀ acc s, (f acc s).1 = false →
      acc.1 = false ∧ (f acc s).2.enabledCollectionSchemeMap = acc.2.enabledCollectionSchemeMap) :
    ∀ (l : List (CollectionScheme Body)) (acc : Bool × CollectionSchemeManager Body),
      (l.foldl f acc).1 = false → acc.1 = false ∧
        (l.foldl f acc).2.enabledCollectionSchemeMap = acc.2.enabledCollectionSchemeMap
  | [], _, h => ⟨h, rfl⟩
  | s :: l, acc, h => by
    obtain ⟨h1, h2⟩ := foldl_false hf l _ h
    obtain ⟨h3, h4⟩ := hf acc s h1
    exact ⟨h3, h2.trans h4⟩

omit [DecidableEq Body] in
theorem enabled_eq_of_rebuild_false {l : List (CollectionScheme Body)}
    (h : (rebuildMapsandTimeLine l t m).1 = false) :
    (rebuildMapsandTimeLine l t m).2.enabledCollectionSchemeMap = m.enabledCollectionSchemeMap := by
  refine (foldl_false (fun ⟨ret, m⟩ s h => ?_) l _ h).2
  rcases rebuildScheme_cases (t := t) ret m s with ⟨-, he⟩ | ⟨-, -, he⟩ | ⟨-, -, he⟩ <;>
    rw [he] at h ⊢ <;> simp_all

theorem enabled_eq_of_update_false {l : List (CollectionScheme Body)}
    (h : (updateMapsandTimeLine l t m).1 = false) :
    (updateMapsandTimeLine l t m).2.enabledCollectionSchemeMap = m.enabledCollectionSchemeMap := by
  simp only [updateMapsandTimeLine, Bool.or_eq_false_iff, List.any_eq_false] at h ⊢
  obtain ⟨h1, h2⟩ := h
  rw [SchemeMap.retain_eq_self fun id hid => by simpa using h2 id hid]
  refine (foldl_false (fun ⟨ret, m⟩ s h => ?_) l _ h1).2
  rcases updateScheme_cases (t := t) ret m s with ⟨_, -, -, he⟩ | ⟨curr, -, -, he⟩ |
    ⟨-, _, -, -, -, he⟩ | ⟨-, _, -, -, -, he⟩ | ⟨-, _, -, -, -, he⟩ | ⟨-, -, -, -, he⟩ |
    ⟨-, -, -, he⟩ | ⟨-, -, -, -, he⟩ <;> rw [he] at h ⊢ <;> simp_all

theorem enabled_eq_of_process_false {list : Option (ICollectionSchemeList Body)}
    (h : (processCollectionScheme list t m).1 = false) :
    (processCollectionScheme list t m).2.enabledCollectionSchemeMap = m.enabledCollectionSchemeMap := by
  rcases list with _ | list
  · rfl
  cases hb : list.build with
  | none => simp [processCollectionScheme, hb]
  | some l =>
    cases hload : m.isCollectionSchemeLoaded <;>
      simp only [processCollectionScheme, hb, hload, Bool.false_eq_true, ↓reduceIte] at h ⊢
    · exact enabled_eq_of_rebuild_false h
    · exact enabled_eq_of_update_false h

/-! ## Disjoint maps -/

theorem updateScheme_disjoint (ret : Bool) (hd : m.Disjoint) :
    (updateScheme t (ret, m) s).2.Disjoint := by
  have hne : ∀ {M : SchemeMap Body}, M.lookup s.collectionSchemeID = none →
      s.collectionSchemeID ∉ M := AList.lookup_eq_none.mp
  rcases updateScheme_cases (t := t) ret m s with ⟨_, -, -, he⟩ | ⟨curr, hE, -, he⟩ |
    ⟨-, _, -, -, -, he⟩ | ⟨hE, _, -, -, -, he⟩ | ⟨hE, _, -, -, -, he⟩ | ⟨-, hI, -, -, he⟩ |
    ⟨hE, -, -, he⟩ | ⟨-, -, -, -, he⟩ <;> rw [he]
  · exact hd.of_subset (fun _ h => (AList.mem_erase.mp h).2) fun _ => id
  · by_cases h : s ≠ curr
    · exact hd.of_insert_enabled (hd _ (AList.lookup_isSome.mp (by simp [hE]))) (if_pos h) rfl
    · exact hd.of_subset (fun _ h' => by rwa [if_neg h] at h') fun _ => id
  · exact hd.of_enable rfl rfl
  · exact hd.of_insert_idle (hne hE) rfl rfl
  · exact hd.of_insert_idle (hne hE) rfl rfl
  · exact hd.of_insert_enabled (hne hI) rfl rfl
  · exact hd.of_insert_idle (hne hE) rfl rfl
  · exact hd

/-- **An update keeps the maps disjoint**, for every list, repeated IDs included. -/
theorem updateMapsandTimeLine_disjoint {l : List (CollectionScheme Body)} (hd : m.Disjoint) :
    (updateMapsandTimeLine l t m).2.Disjoint := by
  have hfold : ∀ (l : List (CollectionScheme Body)) (acc : Bool × CollectionSchemeManager Body),
      acc.2.Disjoint → (l.foldl (updateScheme t) acc).2.Disjoint := by
    intro l
    induction l with
    | nil => exact fun _ h => h
    | cons s l ih => exact fun ⟨ret, m⟩ h => ih _ (updateScheme_disjoint ret h)
  intro id hid hid'
  simp only [updateMapsandTimeLine, SchemeMap.mem_retain] at hid hid'
  exact hfold l _ hd id hid.2 hid'.2

omit [DecidableEq Body] in
theorem rebuildScheme_fresh {l : List (CollectionScheme Body)} (ret : Bool)
    (hnd : (schemeIDs (s :: l)).Nodup)
    (hfresh : ∀ id ∈ schemeIDs (s :: l), id ∉ m.enabledCollectionSchemeMap ∧
      id ∉ m.idleCollectionSchemeMap) :
    ∀ id ∈ schemeIDs l, id ∉ (rebuildScheme t (ret, m) s).2.enabledCollectionSchemeMap ∧
      id ∉ (rebuildScheme t (ret, m) s).2.idleCollectionSchemeMap := by
  intro id hid
  have hne : id ≠ s.collectionSchemeID := fun h => (List.nodup_cons.mp hnd).1 (h ▸ hid)
  have h := hfresh id (List.mem_cons_of_mem _ hid)
  rcases rebuildScheme_cases (t := t) ret m s with ⟨-, he⟩ | ⟨-, -, he⟩ | ⟨-, -, he⟩ <;>
    rw [he] <;> simpa [AList.mem_insert, hne] using h

omit [DecidableEq Body] in
theorem rebuild_foldl_disjoint :
    ∀ (l : List (CollectionScheme Body)) (acc : Bool × CollectionSchemeManager Body),
      (schemeIDs l).Nodup → acc.2.Disjoint →
      (∀ id ∈ schemeIDs l, id ∉ acc.2.enabledCollectionSchemeMap ∧
        id ∉ acc.2.idleCollectionSchemeMap) →
      (l.foldl (rebuildScheme t) acc).2.Disjoint
  | [], _, _, hd, _ => hd
  | s :: l, (ret, m), hnd, hd, hfresh => by
    refine rebuild_foldl_disjoint l _ (List.nodup_cons.mp hnd).2 ?_
      (rebuildScheme_fresh ret hnd hfresh)
    have ⟨hsE, hsI⟩ := hfresh _ (List.mem_cons_self _ _)
    rcases rebuildScheme_cases (t := t) ret m s with ⟨-, he⟩ | ⟨-, -, he⟩ | ⟨-, -, he⟩ <;> rw [he]
    · exact hd.of_insert_idle hsE rfl rfl
    · exact hd.of_insert_enabled hsI rfl rfl
    · exact hd

theorem processCollectionScheme_disjoint {list : ICollectionSchemeList Body} (hd : m.Disjoint)
    (hnd : ∀ l ∈ list.build, (schemeIDs l).Nodup) :
    (processCollectionScheme (some list) t m).2.Disjoint := by
  cases hb : list.build with
  | none => simpa [processCollectionScheme, hb] using hd
  | some l =>
    cases hload : m.isCollectionSchemeLoaded <;>
      simp only [processCollectionScheme, hb, hload, Bool.false_eq_true, ↓reduceIte]
    · obtain ⟨hE, hI⟩ := not_isCollectionSchemeLoaded.mp hload
      exact rebuild_foldl_disjoint l _ (hnd l hb) hd fun id _ => by simp [hE, hI]
    · exact updateMapsandTimeLine_disjoint hd

/-! ## An update from empty maps -/

theorem updateScheme_eq_rebuildScheme (ret : Bool)
    (hE : m.enabledCollectionSchemeMap.lookup s.collectionSchemeID = none)
    (hI : m.idleCollectionSchemeMap.lookup s.collectionSchemeID = none) :
    updateScheme t (ret, m) s = rebuildScheme t (ret, m) s := by
  simp only [updateScheme, rebuildScheme, hE, hI]
  split_ifs <;> first | rfl | omega

theorem update_foldl_eq_rebuild :
    ∀ (l : List (CollectionScheme Body)) (acc : Bool × CollectionSchemeManager Body),
      (schemeIDs l).Nodup →
      (∀ id ∈ schemeIDs l, id ∉ acc.2.enabledCollectionSchemeMap ∧
        id ∉ acc.2.idleCollectionSchemeMap) →
      l.foldl (updateScheme t) acc = l.foldl (rebuildScheme t) acc
  | [], _, _, _ => rfl
  | s :: l, (ret, m), hnd, hfresh => by
    have ⟨hsE, hsI⟩ := hfresh _ (List.mem_cons_self _ _)
    rw [List.foldl_cons, List.foldl_cons, updateScheme_eq_rebuildScheme ret
      (AList.lookup_eq_none.mpr hsE) (AList.lookup_eq_none.mpr hsI)]
    exact update_foldl_eq_rebuild l _ (List.nodup_cons.mp hnd).2 (rebuildScheme_fresh ret hnd hfresh)

/-- **From empty maps, an update of a list with distinct IDs is the rebuild of it.** -/
theorem updateMapsandTimeLine_eq_rebuild {l : List (CollectionScheme Body)}
    (hE : m.enabledCollectionSchemeMap = ∅) (hI : m.idleCollectionSchemeMap = ∅)
    (hnd : (schemeIDs l).Nodup) :
    updateMapsandTimeLine l t m = rebuildMapsandTimeLine l t m := by
  have hkeys : ∀ id, id ∈ (rebuildMapsandTimeLine l t m).2.enabledCollectionSchemeMap ∨
      id ∈ (rebuildMapsandTimeLine l t m).2.idleCollectionSchemeMap → id ∈ schemeIDs l :=
    fun id h => by simpa [hE, hI] using mem_rebuildMapsandTimeLine h
  have hfold : l.foldl (updateScheme t) (false, m) = rebuildMapsandTimeLine l t m :=
    update_foldl_eq_rebuild l _ hnd fun id _ => by simp [hE, hI]
  simp only [updateMapsandTimeLine, hfold]
  rw [SchemeMap.retain_eq_self fun id h => hkeys id (.inr (AList.mem_keys.mp h)),
    SchemeMap.retain_eq_self fun id h => hkeys id (.inl (AList.mem_keys.mp h))]
  have hany : (rebuildMapsandTimeLine l t m).2.enabledCollectionSchemeMap.keys.any
      (fun id => decide (id ∉ schemeIDs l)) = false :=
    List.any_eq_false.mpr fun id h => by simpa using hkeys id (.inl (AList.mem_keys.mp h))
  rw [hany, Bool.or_false]

theorem updateMapsandTimeLine_eq_rebuild_init :
    (init : CollectionSchemeManager Unit).enabledCollectionSchemeMap = ∅ ∧
      (init : CollectionSchemeManager Unit).idleCollectionSchemeMap = ∅ ∧
      (schemeIDs [⟨"A", "DM1", 10, 20, ()⟩, ⟨"B", "DM1", 0, 30, ()⟩]).Nodup ∧
      updateMapsandTimeLine [⟨"A", "DM1", 10, 20, ()⟩, ⟨"B", "DM1", 0, 30, ()⟩] 5 init =
        rebuildMapsandTimeLine [⟨"A", "DM1", 10, 20, ()⟩, ⟨"B", "DM1", 0, 30, ()⟩] 5 init :=
  have hnd : (schemeIDs [(⟨"A", "DM1", 10, 20, ()⟩ : CollectionScheme Unit),
      ⟨"B", "DM1", 0, 30, ()⟩]).Nodup := by decide
  ⟨rfl, rfl, hnd, updateMapsandTimeLine_eq_rebuild rfl rfl hnd⟩

/-! ## Frame -/

omit [DecidableEq Body] in
theorem foldl_currentDecoderManifestID {f : Bool × CollectionSchemeManager Body →
      CollectionScheme Body → Bool × CollectionSchemeManager Body}
    (hf : ∀ acc s, (f acc s).2.currentDecoderManifestID = acc.2.currentDecoderManifestID) :
    ∀ (l : List (CollectionScheme Body)) (acc : Bool × CollectionSchemeManager Body),
      (l.foldl f acc).2.currentDecoderManifestID = acc.2.currentDecoderManifestID
  | [], _ => rfl
  | s :: l, acc => (foldl_currentDecoderManifestID hf l _).trans (hf acc s)

theorem processCollectionScheme_currentDecoderManifestID {list : Option (ICollectionSchemeList Body)} :
    (processCollectionScheme list t m).2.currentDecoderManifestID = m.currentDecoderManifestID := by
  have hr := foldl_currentDecoderManifestID (f := @rebuildScheme Body t)
    fun (ret, m) s => by
    rcases rebuildScheme_cases (t := t) ret m s with ⟨-, he⟩ | ⟨-, -, he⟩ | ⟨-, -, he⟩ <;> rw [he]
  have hu := foldl_currentDecoderManifestID (f := @updateScheme Body _ t)
    fun (ret, m) s => by
    rcases updateScheme_cases (t := t) ret m s with ⟨_, -, -, he⟩ | ⟨_, -, -, he⟩ |
      ⟨-, _, -, -, -, he⟩ | ⟨-, _, -, -, -, he⟩ | ⟨-, _, -, -, -, he⟩ | ⟨-, -, -, -, he⟩ |
      ⟨-, -, -, he⟩ | ⟨-, -, -, -, he⟩ <;> rw [he]
  rcases list with _ | list
  · rfl
  cases hb : list.build with
  | none => simp [processCollectionScheme, hb]
  | some l =>
    simp only [processCollectionScheme, hb]
    split
    · exact hu _ _
    · exact hr _ _

end CollectionSchemeManager

end FleetWise
