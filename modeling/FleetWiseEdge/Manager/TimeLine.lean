import FleetWiseEdge.Manager.Types

/-!
# Checking the timeline

`checkTimeLine` (`CollectionSchemeManager.cpp`) pops the timeline while its top is stale or due,
flipping the scheme of each valid due entry: an Idle scheme whose start it is becomes Enabled,
an Enabled scheme whose expiry it is is dropped. It stops at the first valid entry that is not
yet due.

* `checkTop`: the loop body on the top entry; `checkTop_some`, `checkTop_none`: what it can do.
* `checkTimeLineLoop_sound`: without any assumption on the timeline, a flip is never early and
  moves schemes without changing them.
* `checkTimeLineLoop_complete`: when the timeline holds the entries of every due flip, the loop
  performs all of them.
* **`checkTimeLine_spec`**: both, for `checkTimeLine` itself.
-/

namespace FleetWise

namespace CollectionSchemeManager

variable {Body : Type}

/-- Where the loop of `checkTimeLine` finds an ID: Enabled (`true`), else Idle (`false`). -/
def findScheme (enabled idle : SchemeMap Body) (id : SyncID) :
    Option (Bool × CollectionScheme Body) :=
  match enabled.lookup id with
  | some s => some (true, s)
  | none => (idle.lookup id).map fun s => (false, s)

/-- The loop body on the top entry: `none` if the loop stops, else the flip flag and the maps. -/
def checkTop (currTime : Nat) (enabled idle : SchemeMap Body) (top : TimeData) :
    Option (Bool × SchemeMap Body × SchemeMap Body) :=
  match findScheme enabled idle top.id with
  | none => some (false, enabled, idle)
  | some (foundInEnabled, s) =>
    let timeOfInterest := if foundInEnabled then s.expiryTime else s.startTime
    if timeOfInterest ≠ top.time then some (false, enabled, idle)
    else if top.time ≤ currTime then
      if foundInEnabled then some (true, enabled.erase top.id, idle)
      else some (true, enabled.insert top.id s, idle.erase top.id)
    else none

/-- The loop of `checkTimeLine`, popping the timeline entries `l` in order. -/
def checkTimeLineLoop (currTime : Nat) :
    (l : List TimeData) → l.Sorted TimeData.le → Bool → CollectionSchemeManager Body →
      Bool × CollectionSchemeManager Body
  | [], _, ret, m => (ret, { m with timeLine := TimeLine.empty })
  | top :: rest, h, ret, m =>
    match checkTop currTime m.enabledCollectionSchemeMap m.idleCollectionSchemeMap top with
    | none => (ret, { m with timeLine := ⟨top :: rest, h⟩ })
    | some (flipped, enabled, idle) =>
      checkTimeLineLoop currTime rest h.of_cons (ret || flipped)
        { m with enabledCollectionSchemeMap := enabled, idleCollectionSchemeMap := idle }

/-- `checkTimeLine(currTime)`: nothing happens unless the timeline's top is due. -/
def checkTimeLine (currTime : Nat) (m : CollectionSchemeManager Body) :
    Bool × CollectionSchemeManager Body :=
  match m.timeLine with
  | ⟨[], _⟩ => (false, m)
  | ⟨top :: rest, h⟩ =>
    if currTime < top.time then (false, m) else checkTimeLineLoop currTime (top :: rest) h false m

/-! ## One step -/

section Step

variable {t : Nat} {E I E' I' : SchemeMap Body} {top : TimeData} {f : Bool}

theorem checkTop_some (h : checkTop t E I top = some (f, E', I')) :
    (f = false ∧ E' = E ∧ I' = I ∧
      (∀ s, E.lookup top.id = some s → s.expiryTime ≠ top.time) ∧
      (E.lookup top.id = none → ∀ s, I.lookup top.id = some s → s.startTime ≠ top.time)) ∨
    (f = true ∧ ∃ s, E.lookup top.id = some s ∧ s.expiryTime = top.time ∧ top.time ≤ t ∧
      E' = E.erase top.id ∧ I' = I) ∨
    (f = true ∧ ∃ s, E.lookup top.id = none ∧ I.lookup top.id = some s ∧
      s.startTime = top.time ∧ top.time ≤ t ∧ E' = E.insert top.id s ∧ I' = I.erase top.id) := by
  unfold checkTop findScheme at h
  cases hE : E.lookup top.id with
  | some s =>
    simp only [hE, ↓reduceIte] at h
    split_ifs at h with h1 h2 <;> simp only [Option.some.injEq, Prod.mk.injEq] at h
    · exact .inl ⟨h.1.symm, h.2.1.symm, h.2.2.symm, by simpa using h1, by simp⟩
    · exact .inr (.inl ⟨h.1.symm, s, rfl, by simpa using h1, h2, h.2.1.symm, h.2.2.symm⟩)
  | none =>
    cases hI : I.lookup top.id with
    | none =>
      simp only [hE, hI, Option.map_none] at h
      cases h
      exact .inl ⟨rfl, rfl, rfl, by simp, by simp⟩
    | some s =>
      simp only [hE, hI, Option.map_some', Bool.false_eq_true, ↓reduceIte] at h
      split_ifs at h with h1 h2 <;> simp only [Option.some.injEq, Prod.mk.injEq] at h
      · exact .inl ⟨h.1.symm, h.2.1.symm, h.2.2.symm, by simp, by simpa using h1⟩
      · exact .inr (.inr ⟨h.1.symm, s, rfl, rfl, by simpa using h1, h2, h.2.1.symm, h.2.2.symm⟩)

theorem checkTop_none (h : checkTop t E I top = none) :
    t < top.time ∧ ((∃ s, E.lookup top.id = some s ∧ s.expiryTime = top.time) ∨
      (E.lookup top.id = none ∧ ∃ s, I.lookup top.id = some s ∧ s.startTime = top.time)) := by
  unfold checkTop findScheme at h
  cases hE : E.lookup top.id with
  | some s =>
    simp only [hE, ↓reduceIte] at h
    split_ifs at h with h1 h2
    exact ⟨Nat.lt_of_not_le h2, .inl ⟨s, rfl, by simpa using h1⟩⟩
  | none =>
    cases hI : I.lookup top.id with
    | none => simp [hE, hI] at h
    | some s =>
      simp only [hE, hI, Option.map_some', Bool.false_eq_true, ↓reduceIte] at h
      split_ifs at h with h1 h2
      exact ⟨Nat.lt_of_not_le h2, .inr ⟨rfl, s, rfl, by simpa using h1⟩⟩

end Step

/-! ## What the loop keeps -/

section Loop

variable {t : Nat}

/-- Some scheme of `m` is due to flip at `t`. -/
def Due (t : Nat) (m : CollectionSchemeManager Body) : Prop :=
  (∃ id s, m.enabledCollectionSchemeMap.lookup id = some s ∧ s.expiryTime ≤ t) ∨
    ∃ id s, m.idleCollectionSchemeMap.lookup id = some s ∧ s.startTime ≤ t

/-- The entries of the flips of `m` due at `t` are in `l`. -/
def DueCovered (t : Nat) (m : CollectionSchemeManager Body) (l : List TimeData) : Prop :=
  (∀ id s, m.enabledCollectionSchemeMap.lookup id = some s → s.expiryTime ≤ t →
      ⟨s.expiryTime, id⟩ ∈ l) ∧
    ∀ id s, m.idleCollectionSchemeMap.lookup id = some s → s.startTime ≤ t →
      ⟨s.startTime, id⟩ ∈ l ∧ (s.expiryTime ≤ t → ⟨s.expiryTime, id⟩ ∈ l)

/-- `s` is Enabled under `id` once every flip due at `t` is done. -/
def EnabledAfter (t : Nat) (m : CollectionSchemeManager Body) (id : SyncID)
    (s : CollectionScheme Body) : Prop :=
  (m.enabledCollectionSchemeMap.lookup id = some s ∧ t < s.expiryTime) ∨
    (m.idleCollectionSchemeMap.lookup id = some s ∧ s.startTime ≤ t ∧ t < s.expiryTime)

/-- `s` is Idle under `id` once every flip due at `t` is done. -/
def IdleAfter (t : Nat) (m : CollectionSchemeManager Body) (id : SyncID)
    (s : CollectionScheme Body) : Prop :=
  m.idleCollectionSchemeMap.lookup id = some s ∧ t < s.startTime

/-- The maps of `m` arise from those of `m₀` by flips at `t`, at a start or an expiry. -/
def Sound (t : Nat) (m₀ m : CollectionSchemeManager Body) : Prop :=
  (∀ id s, m.enabledCollectionSchemeMap.lookup id = some s →
      m₀.enabledCollectionSchemeMap.lookup id = some s ∨
        (m₀.idleCollectionSchemeMap.lookup id = some s ∧ s.startTime ≤ t)) ∧
    (∀ id s, m₀.enabledCollectionSchemeMap.lookup id = some s →
      m.enabledCollectionSchemeMap.lookup id = none → s.expiryTime ≤ t) ∧
    (∀ id s, m.idleCollectionSchemeMap.lookup id = some s →
      m₀.idleCollectionSchemeMap.lookup id = some s) ∧
    ∀ id s, m₀.idleCollectionSchemeMap.lookup id = some s →
      m.idleCollectionSchemeMap.lookup id = none →
        s.startTime ≤ t ∧ (m.enabledCollectionSchemeMap.lookup id = some s ∨ s.expiryTime ≤ t)

theorem Sound.refl (m : CollectionSchemeManager Body) : Sound t m m :=
  ⟨fun _ _ h => .inl h, fun _ _ h h' => by simp [h] at h', fun _ _ h => h,
    fun _ _ h h' => by simp [h] at h'⟩

theorem after_of_not_due {m : CollectionSchemeManager Body} (h : ¬ Due t m) :
    (∀ id s, m.enabledCollectionSchemeMap.lookup id = some s ↔ EnabledAfter t m id s) ∧
      ∀ id s, m.idleCollectionSchemeMap.lookup id = some s ↔ IdleAfter t m id s := by
  simp only [Due, not_or, not_exists, not_and, Nat.not_le] at h
  refine ⟨fun id s => ⟨fun hs => .inl ⟨hs, h.1 id s hs⟩, ?_⟩, fun id s => ⟨fun hs => ⟨hs, h.2 id s hs⟩,
    And.left⟩⟩
  rintro (⟨hs, -⟩ | ⟨hs, hst, -⟩)
  · exact hs
  · exact absurd hst (Nat.not_le.mpr (h.2 id s hs))

theorem not_due_of_covered {m : CollectionSchemeManager Body} {l : List TimeData}
    (hc : DueCovered t m l) (hl : ∀ e ∈ l, t < e.time) : ¬ Due t m := by
  rintro (⟨id, s, hs, hst⟩ | ⟨id, s, hs, hst⟩)
  · exact absurd hst (Nat.not_le.mpr (hl _ (hc.1 id s hs hst)))
  · exact absurd hst (Nat.not_le.mpr (hl _ (hc.2 id s hs hst).1))

theorem TimeLineCovers.dueCovered {m : CollectionSchemeManager Body} (hc : m.TimeLineCovers) :
    DueCovered t m m.timeLine.entries :=
  ⟨fun id s hs _ => hc.1 id s hs, fun id s hs _ => ⟨(hc.2 id s hs).1, fun _ => (hc.2 id s hs).2⟩⟩

open SchemeMap in
theorem checkTop_sound {m₀ m : CollectionSchemeManager Body} {top : TimeData} {f : Bool}
    {E' I' : SchemeMap Body} (hd : m₀.Disjoint) (hs : Sound t m₀ m)
    (h : checkTop t m.enabledCollectionSchemeMap m.idleCollectionSchemeMap top = some (f, E', I')) :
    Sound t m₀ { m with enabledCollectionSchemeMap := E', idleCollectionSchemeMap := I' } := by
  obtain ⟨hE1, hE2, hI1, hI2⟩ := hs
  rcases checkTop_some h with ⟨-, rfl, rfl, -⟩ | ⟨-, s, hs, hst, hle, rfl, rfl⟩ |
    ⟨-, s, hsE, hsI, hst, hle, rfl, rfl⟩
  · exact ⟨hE1, hE2, hI1, hI2⟩
  · refine ⟨fun id s' h' => hE1 id s' (lookup_erase_eq_some.mp h').2, fun id s' h0 h' => ?_, hI1,
      fun id s' h0 h' => ?_⟩
    · simp only [lookup_erase_ite] at h'
      split_ifs at h' with hid
      · subst hid
        rcases hE1 _ _ hs with h1 | ⟨h1, -⟩
        · rw [h0] at h1; cases h1; omega
        · rw [hd.idle_none h0] at h1; cases h1
      · exact hE2 id s' h0 h'
    · obtain ⟨h1, h2⟩ := hI2 id s' h0 h'
      refine ⟨h1, ?_⟩
      simp only [lookup_erase_ite]
      split_ifs with hid
      · subst hid
        rcases h2 with h2 | h2
        · rw [hs] at h2; cases h2; exact .inr (by omega)
        · exact .inr h2
      · exact h2
  · refine ⟨fun id s' h' => ?_, fun id s' h0 h' => ?_,
      fun id s' h' => hI1 id s' (lookup_erase_eq_some.mp h').2, fun id s' h0 h' => ?_⟩
    · rcases lookup_insert_eq_some.mp h' with ⟨rfl, rfl⟩ | ⟨-, h'⟩
      · exact .inr ⟨hI1 _ _ hsI, by omega⟩
      · exact hE1 id s' h'
    · simp only [lookup_insert_ite] at h'
      split_ifs at h' with hid
      exact hE2 id s' h0 h'
    · simp only [lookup_insert_ite, lookup_erase_ite] at h' ⊢
      split_ifs at h' ⊢ with hid
      · subst hid
        rw [hI1 _ _ hsI] at h0; cases h0
        exact ⟨by omega, .inl rfl⟩
      · exact hI2 id s' h0 h'

variable {m : CollectionSchemeManager Body} {top : TimeData} {f : Bool} {E' I' : SchemeMap Body}

open SchemeMap

theorem checkTop_disjoint (hd : m.Disjoint)
    (h : checkTop t m.enabledCollectionSchemeMap m.idleCollectionSchemeMap top = some (f, E', I')) :
    Disjoint { m with enabledCollectionSchemeMap := E', idleCollectionSchemeMap := I' } := by
  rcases checkTop_some h with ⟨-, rfl, rfl, -⟩ | ⟨-, -, -, -, -, rfl, rfl⟩ |
    ⟨-, -, -, -, -, -, rfl, rfl⟩
  · exact hd
  · exact hd.of_subset (fun _ h => (AList.mem_erase.mp h).2) fun _ => id
  · exact hd.of_enable rfl rfl

theorem checkTop_valid (hv : m.WindowsValid)
    (h : checkTop t m.enabledCollectionSchemeMap m.idleCollectionSchemeMap top = some (f, E', I')) :
    WindowsValid { m with enabledCollectionSchemeMap := E', idleCollectionSchemeMap := I' } := by
  rcases checkTop_some h with ⟨-, rfl, rfl, -⟩ | ⟨-, -, -, -, -, rfl, rfl⟩ |
    ⟨-, s, -, hsI, -, -, rfl, rfl⟩
  · exact hv
  · exact ⟨fun id s' h' => hv.1 id s' (lookup_erase_eq_some.mp h').2, hv.2⟩
  · refine ⟨fun id s' h' => ?_, fun id s' h' => hv.2 id s' (lookup_erase_eq_some.mp h').2⟩
    rcases lookup_insert_eq_some.mp h' with ⟨-, rfl⟩ | ⟨-, h'⟩
    · exact hv.2 _ _ hsI
    · exact hv.1 id s' h'

theorem checkTop_after (hd : m.Disjoint)
    (h : checkTop t m.enabledCollectionSchemeMap m.idleCollectionSchemeMap top = some (f, E', I')) :
    (∀ id s, EnabledAfter t { m with enabledCollectionSchemeMap := E', idleCollectionSchemeMap := I' }
      id s ↔ EnabledAfter t m id s) ∧
    (∀ id s, IdleAfter t { m with enabledCollectionSchemeMap := E', idleCollectionSchemeMap := I' }
      id s ↔ IdleAfter t m id s) ∧ (f = true → Due t m) := by
  rcases checkTop_some h with ⟨rfl, rfl, rfl, -⟩ | ⟨rfl, s, hs, hst, hle, rfl, rfl⟩ |
    ⟨rfl, s, hsE, hsI, hst, hle, rfl, rfl⟩
  · exact ⟨fun _ _ => Iff.rfl, fun _ _ => Iff.rfl, by simp⟩
  · refine ⟨fun id s' => ?_, fun _ _ => Iff.rfl, fun _ => .inl ⟨top.id, s, hs, by omega⟩⟩
    simp only [EnabledAfter, lookup_erase_ite]
    split_ifs with hid
    · subst hid
      simp only [hs, hd.idle_none hs, Option.some.injEq, reduceCtorEq, false_and, or_false]
      exact ⟨False.elim, by rintro ⟨rfl, h2⟩; omega⟩
    · exact Iff.rfl
  · refine ⟨fun id s' => ?_, fun id s' => ?_, fun _ => .inr ⟨top.id, s, hsI, by omega⟩⟩
    · simp only [EnabledAfter, lookup_insert_ite, lookup_erase_ite]
      split_ifs with hid
      · subst hid
        simp only [hsE, hsI, Option.some.injEq, reduceCtorEq, false_and, or_false, false_or]
        constructor
        · rintro ⟨rfl, h2⟩; exact ⟨rfl, by omega, h2⟩
        · rintro ⟨rfl, -, h2⟩; exact ⟨rfl, h2⟩
      · exact Iff.rfl
    · simp only [IdleAfter, lookup_erase_ite]
      split_ifs with hid
      · subst hid
        simp only [hsI, Option.some.injEq, reduceCtorEq, false_and, false_iff, not_and, Nat.not_lt]
        rintro rfl; omega
      · exact Iff.rfl

theorem ne_top_of_id_ne {a : Nat} {id : SyncID} (h : id ≠ top.id) : (⟨a, id⟩ : TimeData) ≠ top :=
  fun heq => h (TimeData.mk_eq_iff.mp heq).2

theorem mem_of_id_ne {rest : List TimeData} {a : Nat} {id : SyncID} (hid : id ≠ top.id)
    (h : (⟨a, id⟩ : TimeData) ∈ top :: rest) : (⟨a, id⟩ : TimeData) ∈ rest :=
  List.mem_of_ne_of_mem (ne_top_of_id_ne hid) h

theorem DueCovered.idle_of_ne {rest : List TimeData} (hc : DueCovered t m (top :: rest))
    {id : SyncID} {s : CollectionScheme Body} (hid : id ≠ top.id)
    (hs : m.idleCollectionSchemeMap.lookup id = some s) (hst : s.startTime ≤ t) :
    (⟨s.startTime, id⟩ : TimeData) ∈ rest ∧
      (s.expiryTime ≤ t → (⟨s.expiryTime, id⟩ : TimeData) ∈ rest) :=
  ⟨mem_of_id_ne hid (hc.2 id s hs hst).1, fun hex => mem_of_id_ne hid ((hc.2 id s hs hst).2 hex)⟩

theorem checkTop_covered {rest : List TimeData} (hd : m.Disjoint) (hv : m.WindowsValid)
    (hl : (top :: rest).Sorted TimeData.le) (hc : DueCovered t m (top :: rest))
    (h : checkTop t m.enabledCollectionSchemeMap m.idleCollectionSchemeMap top = some (f, E', I')) :
    DueCovered t { m with enabledCollectionSchemeMap := E', idleCollectionSchemeMap := I' } rest := by
  rcases checkTop_some h with ⟨-, rfl, rfl, hnE, hnI⟩ | ⟨-, s, hs, hst, hle, rfl, rfl⟩ |
    ⟨-, s, hsE, hsI, hst, hle, rfl, rfl⟩
  · refine ⟨fun id s hs hst => List.mem_of_ne_of_mem ?_ (hc.1 id s hs hst), fun id s hs hst => ?_⟩
    · intro heq
      obtain ⟨h1, rfl⟩ := TimeData.mk_eq_iff.mp heq
      exact hnE s hs h1
    · obtain ⟨h1, h2⟩ := hc.2 id s hs hst
      have hstart : (⟨s.startTime, id⟩ : TimeData) ∈ rest := by
        refine List.mem_of_ne_of_mem (fun heq => ?_) h1
        obtain ⟨h3, rfl⟩ := TimeData.mk_eq_iff.mp heq
        exact hnI (hd.enabled_none hs) s hs h3
      refine ⟨hstart, fun hex => List.mem_of_ne_of_mem (fun heq => ?_) (h2 hex)⟩
      have h3 := (TimeData.mk_eq_iff.mp heq).1
      have h4 := List.rel_of_sorted_cons hl _ hstart
      have h5 := hv.2 id s hs
      simp only [TimeData.le] at h4
      omega
  · refine ⟨fun id s' hs' hst' => ?_, fun id s' hs' hst' => hc.idle_of_ne ?_ hs' hst'⟩
    · obtain ⟨hid, hs'⟩ := lookup_erase_eq_some.mp hs'
      exact mem_of_id_ne hid (hc.1 id s' hs' hst')
    · rintro rfl
      rw [hd.idle_none hs] at hs'
      cases hs'
  · refine ⟨fun id s' hs' hst' => ?_, fun id s' hs' hst' => ?_⟩
    · rcases lookup_insert_eq_some.mp hs' with ⟨rfl, rfl⟩ | ⟨hid, hs'⟩
      · refine List.mem_of_ne_of_mem (fun heq => ?_) ((hc.2 _ _ hsI (by omega)).2 hst')
        have h3 := (TimeData.mk_eq_iff.mp heq).1
        have h4 := hv.2 _ _ hsI
        omega
      · exact mem_of_id_ne hid (hc.1 id s' hs' hst')
    · obtain ⟨hid, hs'⟩ := lookup_erase_eq_some.mp hs'
      exact hc.idle_of_ne hid hs' hst'

theorem checkTop_false (h : checkTop t E I top = some (false, E', I')) : E' = E ∧ I' = I := by
  rcases checkTop_some h with ⟨-, h1, h2, -⟩ | ⟨h, -⟩ | ⟨h, -⟩
  · exact ⟨h1, h2⟩
  all_goals cases h

end Loop

/-! ## The loop -/

variable {t : Nat}

theorem checkTimeLineLoop_currentDecoderManifestID :
    ∀ (l : List TimeData) (hl : l.Sorted TimeData.le) (ret : Bool) (m : CollectionSchemeManager Body),
      (checkTimeLineLoop t l hl ret m).2.currentDecoderManifestID = m.currentDecoderManifestID
  | [], _, _, _ => rfl
  | top :: rest, hl, ret, m => by
    simp only [checkTimeLineLoop]
    split
    · rfl
    · exact checkTimeLineLoop_currentDecoderManifestID rest _ _ _

theorem checkTimeLineLoop_later :
    ∀ (l : List TimeData) (hl : l.Sorted TimeData.le) (ret : Bool) (m : CollectionSchemeManager Body),
      ∀ e ∈ (checkTimeLineLoop t l hl ret m).2.timeLine.entries, t < e.time
  | [], _, _, _ => by simp [checkTimeLineLoop]
  | top :: rest, hl, ret, m => by
    simp only [checkTimeLineLoop]
    split
    · rename_i hc
      exact fun e he => Nat.lt_of_lt_of_le (checkTop_none hc).1 (TimeLine.head_le hl he)
    · exact checkTimeLineLoop_later rest _ _ _

theorem checkTimeLineLoop_sound {m₀ : CollectionSchemeManager Body} (hd : m₀.Disjoint) :
    ∀ (l : List TimeData) (hl : l.Sorted TimeData.le) (ret : Bool) (m : CollectionSchemeManager Body),
      Sound t m₀ m → Sound t m₀ (checkTimeLineLoop t l hl ret m).2
  | [], _, _, _, hs => hs
  | top :: rest, hl, ret, m, hs => by
    simp only [checkTimeLineLoop]
    split
    · exact hs
    · rename_i f E' I' hc
      exact checkTimeLineLoop_sound hd rest _ _ _ (checkTop_sound hd hs hc)

theorem checkTimeLineLoop_complete :
    ∀ (l : List TimeData) (hl : l.Sorted TimeData.le) (ret : Bool) (m : CollectionSchemeManager Body),
      m.Disjoint → m.WindowsValid → DueCovered t m l →
      (∀ id s, (checkTimeLineLoop t l hl ret m).2.enabledCollectionSchemeMap.lookup id = some s ↔
        EnabledAfter t m id s) ∧
      (∀ id s, (checkTimeLineLoop t l hl ret m).2.idleCollectionSchemeMap.lookup id = some s ↔
        IdleAfter t m id s) ∧
      ((checkTimeLineLoop t l hl ret m).1 = true ↔ ret = true ∨ Due t m)
  | [], _, ret, m, _, _, hc => by
    have hnd := not_due_of_covered hc (by simp)
    exact ⟨(after_of_not_due hnd).1, (after_of_not_due hnd).2, by simp [checkTimeLineLoop, hnd]⟩
  | top :: rest, hl, ret, m, hd, hv, hc => by
    simp only [checkTimeLineLoop]
    split
    · rename_i hstop
      have hnd := not_due_of_covered hc
        fun e he => Nat.lt_of_lt_of_le (checkTop_none hstop).1 (TimeLine.head_le hl he)
      exact ⟨(after_of_not_due hnd).1, (after_of_not_due hnd).2, by simp [hnd]⟩
    · rename_i f E' I' hstep
      obtain ⟨ihE, ihI, ihr⟩ := checkTimeLineLoop_complete rest hl.of_cons (ret || f) _
        (checkTop_disjoint hd hstep) (checkTop_valid hv hstep) (checkTop_covered hd hv hl hc hstep)
      obtain ⟨hE, hI, hf⟩ := checkTop_after hd hstep
      refine ⟨fun id s => (ihE id s).trans (hE id s), fun id s => (ihI id s).trans (hI id s), ?_⟩
      rw [ihr]
      cases f
      · obtain ⟨rfl, rfl⟩ := checkTop_false hstep
        simp only [Bool.or_false]
      · simp [hf rfl]

theorem checkTimeLineLoop_false_ret :
    ∀ (l : List TimeData) (hl : l.Sorted TimeData.le) (ret : Bool) (m : CollectionSchemeManager Body),
      (checkTimeLineLoop t l hl ret m).1 = false → ret = false
  | [], _, _, _, h => h
  | top :: rest, hl, ret, m, h => by
    simp only [checkTimeLineLoop] at h
    split at h
    · exact h
    · have := checkTimeLineLoop_false_ret rest _ _ _ h
      simp only [Bool.or_eq_false_iff] at this
      exact this.1

theorem checkTimeLineLoop_mem {id : SyncID} :
    ∀ (l : List TimeData) (hl : l.Sorted TimeData.le) (ret : Bool) (m : CollectionSchemeManager Body),
      id ∈ (checkTimeLineLoop t l hl ret m).2.enabledCollectionSchemeMap ∨
        id ∈ (checkTimeLineLoop t l hl ret m).2.idleCollectionSchemeMap →
      id ∈ m.enabledCollectionSchemeMap ∨ id ∈ m.idleCollectionSchemeMap
  | [], _, _, _, h => h
  | top :: rest, hl, ret, m, h => by
    simp only [checkTimeLineLoop] at h
    split at h
    · exact h
    · rename_i f E' I' hc
      have h' := checkTimeLineLoop_mem rest _ _ _ h
      simp only at h'
      rcases checkTop_some hc with ⟨-, rfl, rfl, -⟩ | ⟨-, -, -, -, -, rfl, rfl⟩ |
        ⟨-, s, -, hsI, -, -, rfl, rfl⟩
      · exact h'
      · simp only [AList.mem_erase] at h'; tauto
      · simp only [AList.mem_insert, AList.mem_erase] at h'
        rcases h' with (rfl | h') | h'
        · exact .inr (AList.lookup_isSome.mp (by simp [hsI]))
        · exact .inl h'
        · exact .inr h'.2

theorem checkTimeLineLoop_false :
    ∀ (l : List TimeData) (hl : l.Sorted TimeData.le) (ret : Bool) (m : CollectionSchemeManager Body),
      (checkTimeLineLoop t l hl ret m).1 = false →
        (checkTimeLineLoop t l hl ret m).2.enabledCollectionSchemeMap = m.enabledCollectionSchemeMap
  | [], _, _, _, _ => rfl
  | top :: rest, hl, ret, m, h => by
    simp only [checkTimeLineLoop] at h ⊢
    cases hc : checkTop t m.enabledCollectionSchemeMap m.idleCollectionSchemeMap top with
    | none => rfl
    | some r =>
      obtain ⟨f, E', I'⟩ := r
      simp only [hc] at h ⊢
      have hf : (ret || f) = false := checkTimeLineLoop_false_ret rest hl.of_cons _ _ h
      simp only [Bool.or_eq_false_iff] at hf
      rw [hf.2] at hc
      rw [checkTimeLineLoop_false rest _ _ _ h]
      exact (checkTop_false hc).1

/-! ## `checkTimeLine` -/

/-- **`checkTimeLine` is sound, and complete on a timeline that covers the maps.** -/
theorem checkTimeLine_spec (t : Nat) (m : CollectionSchemeManager Body) (hd : m.Disjoint)
    (hv : m.WindowsValid) :
    Sound t m (checkTimeLine t m).2 ∧
    (∀ e ∈ (checkTimeLine t m).2.timeLine.entries, t < e.time) ∧
    (m.TimeLineCovers →
      (∀ id s, (checkTimeLine t m).2.enabledCollectionSchemeMap.lookup id = some s ↔
        EnabledAfter t m id s) ∧
      (∀ id s, (checkTimeLine t m).2.idleCollectionSchemeMap.lookup id = some s ↔
        IdleAfter t m id s) ∧
      ((checkTimeLine t m).1 = true ↔ Due t m)) := by
  obtain ⟨E, I, ⟨_ | ⟨top, rest⟩, hl⟩, dm⟩ := m
  · refine ⟨Sound.refl _, by simp [checkTimeLine], fun hc => ?_⟩
    have hnd : ¬ Due t _ := not_due_of_covered hc.dueCovered (by simp)
    exact ⟨(after_of_not_due hnd).1, (after_of_not_due hnd).2, by simp [checkTimeLine, hnd]⟩
  · simp only [checkTimeLine]
    split_ifs with htop
    · have hlater : ∀ e ∈ top :: rest, t < e.time :=
        fun e he => Nat.lt_of_lt_of_le htop (TimeLine.head_le hl he)
      refine ⟨Sound.refl _, hlater, fun hc => ?_⟩
      have hnd := not_due_of_covered hc.dueCovered hlater
      exact ⟨(after_of_not_due hnd).1, (after_of_not_due hnd).2, by simp [hnd]⟩
    · refine ⟨checkTimeLineLoop_sound hd _ _ _ _ (Sound.refl _), checkTimeLineLoop_later _ _ _ _,
        fun hc => ?_⟩
      obtain ⟨h1, h2, h3⟩ := checkTimeLineLoop_complete _ hl false _ hd hv hc.dueCovered
      exact ⟨h1, h2, by simpa using h3⟩

theorem mem_checkTimeLine {m : CollectionSchemeManager Body} {id : SyncID}
    (h : id ∈ (checkTimeLine t m).2.enabledCollectionSchemeMap ∨
      id ∈ (checkTimeLine t m).2.idleCollectionSchemeMap) :
    id ∈ m.enabledCollectionSchemeMap ∨ id ∈ m.idleCollectionSchemeMap := by
  obtain ⟨E, I, ⟨_ | ⟨top, rest⟩, hl⟩, dm⟩ := m
  · exact h
  · simp only [checkTimeLine] at h
    split_ifs at h
    · exact h
    · exact checkTimeLineLoop_mem _ _ _ _ h

theorem enabled_eq_of_checkTimeLine_false {m : CollectionSchemeManager Body}
    (h : (checkTimeLine t m).1 = false) :
    (checkTimeLine t m).2.enabledCollectionSchemeMap = m.enabledCollectionSchemeMap := by
  obtain ⟨E, I, ⟨_ | ⟨top, rest⟩, hl⟩, dm⟩ := m
  · rfl
  · simp only [checkTimeLine] at h ⊢
    split_ifs at h ⊢
    · rfl
    · exact checkTimeLineLoop_false _ _ _ _ h

theorem checkTimeLineLoop_disjoint :
    ∀ (l : List TimeData) (hl : l.Sorted TimeData.le) (ret : Bool) (m : CollectionSchemeManager Body),
      m.Disjoint → (checkTimeLineLoop t l hl ret m).2.Disjoint
  | [], _, _, _, hd => hd
  | top :: rest, hl, ret, m, hd => by
    simp only [checkTimeLineLoop]
    split
    · exact hd
    · rename_i f E' I' hc
      exact checkTimeLineLoop_disjoint rest _ _ _ (checkTop_disjoint hd hc)

/-- **`checkTimeLine` keeps the maps disjoint.** -/
theorem checkTimeLine_disjoint {m : CollectionSchemeManager Body} (hd : m.Disjoint) :
    (checkTimeLine t m).2.Disjoint := by
  obtain ⟨E, I, ⟨_ | ⟨top, rest⟩, hl⟩, dm⟩ := m
  · exact hd
  · simp only [checkTimeLine]
    split_ifs
    · exact hd
    · exact checkTimeLineLoop_disjoint _ _ _ _ hd

theorem checkTimeLine_currentDecoderManifestID {m : CollectionSchemeManager Body} :
    (checkTimeLine t m).2.currentDecoderManifestID = m.currentDecoderManifestID := by
  obtain ⟨E, I, ⟨_ | ⟨top, rest⟩, hl⟩, dm⟩ := m
  · rfl
  · simp only [checkTimeLine]
    split_ifs
    · rfl
    · exact checkTimeLineLoop_currentDecoderManifestID _ _ _ _

/-- A manager with one Idle scheme `A` on `[10, 20)` and its two timeline entries. -/
def idleA : CollectionSchemeManager Unit :=
  ⟨∅, (∅ : SchemeMap Unit).insert "A" ⟨"A", "DM1", 10, 20, ()⟩,
    (TimeLine.empty.push ⟨10, "A"⟩).push ⟨20, "A"⟩, "DM1"⟩

theorem checkTimeLine_spec_idleA :
    idleA.Disjoint ∧ idleA.WindowsValid ∧
      (Sound 15 idleA (checkTimeLine 15 idleA).2 ∧
        (∀ e ∈ (checkTimeLine 15 idleA).2.timeLine.entries, 15 < e.time) ∧
        (idleA.TimeLineCovers →
          (∀ id s, (checkTimeLine 15 idleA).2.enabledCollectionSchemeMap.lookup id = some s ↔
            EnabledAfter 15 idleA id s) ∧
          (∀ id s, (checkTimeLine 15 idleA).2.idleCollectionSchemeMap.lookup id = some s ↔
            IdleAfter 15 idleA id s) ∧
          ((checkTimeLine 15 idleA).1 = true ↔ Due 15 idleA))) :=
  have hd : idleA.Disjoint := fun id h => (AList.not_mem_empty id h).elim
  have hv : idleA.WindowsValid := ⟨fun id s h => by simp [idleA] at h, fun id s h => by
    simp only [idleA, lookup_insert_ite] at h
    split_ifs at h
    · cases h; decide
    · simp at h⟩
  ⟨hd, hv, checkTimeLine_spec 15 idleA hd hv⟩

end CollectionSchemeManager

end FleetWise
