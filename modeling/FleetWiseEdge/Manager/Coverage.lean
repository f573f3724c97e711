import FleetWiseEdge.Manager.Wait

/-!
# The timeline misses no later flip

Over every run whose lists name no ID twice and hold no window that ends before it starts, and
whose clock readings never go back, the timeline of `CollectionSchemeManager` keeps an entry for
every flip still ahead: the expiry of each Enabled scheme that has not expired, and the start of
each Idle scheme that has not started, together with its expiry. So `doWork` never sleeps past a
scheduled start or expiry. A flip that is already overdue can be lost (`overdueRun`,
`closedIdleRun`); the invariant says nothing about those.

* `CoveredAt`, `FutureCovered`: the entries that the flips of one ID, and of every ID, after a
  time `c` need; `FutureCovered.of_local`: a change at one ID needs checking at that ID only.
* `updateScheme_futureCovered`: one scheme of `updateMapsandTimeLine` keeps the timeline
  covering; a rebuild from empty maps is the same loop.
* `checkTop_futureCovered`: popping one entry keeps the rest covering; the entry the loop pops is
  never one a later flip needs.
* `Scheduled`, `pass_scheduled`, `run_scheduled`: the invariant of a pass, and of a run.
* **`run_waitAt_upcoming`**: at the wait point, `doWork` neither waits on its signal alone nor
  longer than the distance to the next start or expiry.
-/

namespace FleetWise

namespace CollectionSchemeManager

variable {Body : Type}

/-- The entries `l` hold what the flips of `id` after time `c` need. -/
def CoveredAt (c : Nat) (m : CollectionSchemeManager Body) (l : List TimeData) (id : SyncID) :
    Prop :=
  (∀ s, m.enabledCollectionSchemeMap.lookup id = some s → c < s.expiryTime →
      ⟨s.expiryTime, id⟩ ∈ l) ∧
    ∀ s, m.idleCollectionSchemeMap.lookup id = some s →
      (c < s.startTime → ⟨s.startTime, id⟩ ∈ l) ∧
      (⟨s.startTime, id⟩ ∈ l → c < s.expiryTime → ⟨s.expiryTime, id⟩ ∈ l)

def FutureCovered (c : Nat) (m : CollectionSchemeManager Body) (l : List TimeData) : Prop :=
  ∀ id, CoveredAt c m l id

def IdleOrdered (m : CollectionSchemeManager Body) : Prop :=
  ∀ id s, m.idleCollectionSchemeMap.lookup id = some s → s.startTime ≤ s.expiryTime

/-! ## Covering one ID -/

section Covered

variable {c : Nat} {m m' : CollectionSchemeManager Body} {l l' : List TimeData} {id k : SyncID}
  {s : CollectionScheme Body}

theorem CoveredAt.mono {c' : Nat} (h : CoveredAt c m l id) (hc : c ≤ c') : CoveredAt c' m l id :=
  ⟨fun s hs hex => h.1 s hs (by omega), fun s hs =>
    ⟨fun hst => (h.2 s hs).1 (by omega), fun hin hex => (h.2 s hs).2 hin (by omega)⟩⟩

theorem CoveredAt.congr (h : CoveredAt c m l id)
    (hE : m'.enabledCollectionSchemeMap.lookup id = m.enabledCollectionSchemeMap.lookup id)
    (hI : m'.idleCollectionSchemeMap.lookup id = m.idleCollectionSchemeMap.lookup id)
    (hl : ∀ x, (⟨x, id⟩ : TimeData) ∈ l' ↔ ⟨x, id⟩ ∈ l) : CoveredAt c m' l' id := by
  simp only [CoveredAt, hE, hI, hl]
  exact h

theorem CoveredAt.of_sub (h : CoveredAt c m l id)
    (hE : ∀ s, m'.enabledCollectionSchemeMap.lookup id = some s →
      m.enabledCollectionSchemeMap.lookup id = some s)
    (hI : ∀ s, m'.idleCollectionSchemeMap.lookup id = some s →
      m.idleCollectionSchemeMap.lookup id = some s) : CoveredAt c m' l id :=
  ⟨fun s hs => h.1 s (hE s hs), fun s hs => h.2 s (hI s hs)⟩

theorem coveredAt_none (hE : m.enabledCollectionSchemeMap.lookup id = none)
    (hI : m.idleCollectionSchemeMap.lookup id = none) : CoveredAt c m l id :=
  ⟨fun s hs => by simp [hE] at hs, fun s hs => by simp [hI] at hs⟩

theorem coveredAt_enabled (hE : m.enabledCollectionSchemeMap.lookup id = some s)
    (hI : m.idleCollectionSchemeMap.lookup id = none)
    (hin : c < s.expiryTime → ⟨s.expiryTime, id⟩ ∈ l) : CoveredAt c m l id :=
  ⟨fun s' hs => by rw [hE] at hs; cases hs; exact hin, fun s hs => by simp [hI] at hs⟩

theorem coveredAt_idle (hE : m.enabledCollectionSchemeMap.lookup id = none)
    (hI : m.idleCollectionSchemeMap.lookup id = some s)
    (hst : c < s.startTime → ⟨s.startTime, id⟩ ∈ l)
    (hex : ⟨s.startTime, id⟩ ∈ l → c < s.expiryTime → ⟨s.expiryTime, id⟩ ∈ l) :
    CoveredAt c m l id :=
  ⟨fun s hs => by simp [hE] at hs, fun s' hs => by rw [hI] at hs; cases hs; exact ⟨hst, hex⟩⟩

theorem FutureCovered.mono {c' : Nat} (h : FutureCovered c m l) (hc : c ≤ c') :
    FutureCovered c' m l :=
  fun id => (h id).mono hc

theorem FutureCovered.of_local (h : FutureCovered c m l) (k : SyncID)
    (hE : ∀ id, id ≠ k →
      m'.enabledCollectionSchemeMap.lookup id = m.enabledCollectionSchemeMap.lookup id)
    (hI : ∀ id, id ≠ k →
      m'.idleCollectionSchemeMap.lookup id = m.idleCollectionSchemeMap.lookup id)
    (hl : ∀ x id, id ≠ k → ((⟨x, id⟩ : TimeData) ∈ l' ↔ ⟨x, id⟩ ∈ l))
    (hk : CoveredAt c m' l' k) : FutureCovered c m' l' := fun id => by
  by_cases hid : id = k
  · exact hid ▸ hk
  · exact (h id).congr (hE id hid) (hI id hid) (hl · id hid)

theorem IdleOrdered.of_idle (h : m.IdleOrdered) (hs : s.startTime ≤ s.expiryTime)
    (hI : ∀ id s', m'.idleCollectionSchemeMap.lookup id = some s' →
      m.idleCollectionSchemeMap.lookup id = some s' ∨ s' = s) : m'.IdleOrdered :=
  fun id s' hs' => (hI id s' hs').elim (h id s') fun h => h ▸ hs

end Covered

/-! ## One scheme of an update -/

section Update

variable [DecidableEq Body] {t : Nat} {m : CollectionSchemeManager Body} {s : CollectionScheme Body}

open SchemeMap

theorem updateScheme_off (ret : Bool) (m : CollectionSchemeManager Body) (s : CollectionScheme Body)
    {id : SyncID} (h : id ≠ s.collectionSchemeID) :
    (updateScheme t (ret, m) s).2.enabledCollectionSchemeMap.lookup id =
        m.enabledCollectionSchemeMap.lookup id ∧
      (updateScheme t (ret, m) s).2.idleCollectionSchemeMap.lookup id =
        m.idleCollectionSchemeMap.lookup id ∧
      ∀ x, (⟨x, id⟩ : TimeData) ∈ (updateScheme t (ret, m) s).2.timeLine.entries ↔
        ⟨x, id⟩ ∈ m.timeLine.entries := by
  rcases updateScheme_cases (t := t) ret m s with ⟨_, -, -, he⟩ | ⟨curr, -, -, he⟩ |
    ⟨-, _, -, -, -, he⟩ | ⟨-, _, -, -, -, he⟩ | ⟨-, _, -, -, -, he⟩ | ⟨-, -, -, -, he⟩ |
    ⟨-, -, -, he⟩ | ⟨-, -, -, -, he⟩ <;> rw [he] <;> dsimp only <;> try split_ifs
  all_goals simp [lookup_insert_ite, lookup_erase_ite, h]

theorem updateScheme_idle (ret : Bool) {id : SyncID} {s' : CollectionScheme Body}
    (h : (updateScheme t (ret, m) s).2.idleCollectionSchemeMap.lookup id = some s') :
    m.idleCollectionSchemeMap.lookup id = some s' ∨ s' = s := by
  rcases updateScheme_cases (t := t) ret m s with ⟨_, -, -, he⟩ | ⟨curr, -, -, he⟩ |
    ⟨-, _, -, -, -, he⟩ | ⟨-, _, -, -, -, he⟩ | ⟨-, _, -, -, -, he⟩ | ⟨-, -, -, -, he⟩ |
    ⟨-, -, -, he⟩ | ⟨-, -, -, -, he⟩ <;> rw [he] at h <;> dsimp only at h
  all_goals first
    | exact .inl h
    | exact .inl (lookup_erase_eq_some.mp h).2
    | exact (lookup_insert_eq_some.mp h).elim (fun h => .inr h.2.symm) fun h => .inl h.2

theorem updateScheme_futureCovered (ret : Bool) (hd : m.Disjoint)
    (hc : FutureCovered t m m.timeLine.entries) :
    FutureCovered t (updateScheme t (ret, m) s).2 (updateScheme t (ret, m) s).2.timeLine.entries := by
  refine hc.of_local s.collectionSchemeID (fun id h => (updateScheme_off ret m s h).1)
    (fun id h => (updateScheme_off ret m s h).2.1) (fun x id h => (updateScheme_off ret m s h).2.2 x) ?_
  have hk := hc s.collectionSchemeID
  rcases updateScheme_cases (t := t) ret m s with ⟨curr, hE, -, he⟩ | ⟨curr, hE, hex, he⟩ |
    ⟨hE, curr, hI, -, -, he⟩ | ⟨hE, curr, hI, -, -, he⟩ | ⟨hE, curr, hI, h1, h2, he⟩ |
    ⟨hE, hI, -, -, he⟩ | ⟨hE, hI, -, he⟩ | ⟨-, -, -, -, he⟩ <;> rw [he]
  · -- found Enabled and expired: erased
    exact coveredAt_none (by simp [lookup_erase_ite]) (hd.idle_none hE)
  · -- found Enabled and running: a changed expiry is pushed, an unchanged one is there
    refine coveredAt_enabled (s := s) (by split_ifs <;> simp_all [lookup_insert_ite])
      (hd.idle_none hE) fun _ => ?_
    dsimp only
    split_ifs with hne
    · simp
    · rw [not_not.mp hne]
      exact hk.1 curr hE (not_not.mp hne ▸ hex)
  · -- found Idle and started: enabled with its expiry pushed
    exact coveredAt_enabled (s := s) (by simp [lookup_insert_ite]) (by simp [lookup_erase_ite]) fun _ => by simp
  · -- found Idle with a new window: both entries pushed
    exact coveredAt_idle (s := s) hE (by simp [lookup_insert_ite]) (fun _ => by simp) fun _ _ => by simp
  · -- found Idle otherwise: the old window with its entries, or a window already closed
    refine coveredAt_idle (s := s) hE (by simp [lookup_insert_ite]) (fun hst => ?_) fun hin hex => ?_
    · have ⟨h3, h4⟩ : s.startTime = curr.startTime ∧ s.expiryTime = curr.expiryTime := by tauto
      exact h3 ▸ (hk.2 curr hI).1 (h3 ▸ hst)
    · by_cases hst : t < s.startTime
      · have ⟨h3, h4⟩ : s.startTime = curr.startTime ∧ s.expiryTime = curr.expiryTime := by tauto
        exact h4 ▸ (hk.2 curr hI).2 (h3 ▸ hin) (h4 ▸ hex)
      · omega
  · -- new and started: enabled with its expiry pushed
    exact coveredAt_enabled (s := s) (by simp [lookup_insert_ite]) hI fun _ => by simp
  · -- new and not started: both entries pushed
    exact coveredAt_idle (s := s) hE (by simp [lookup_insert_ite]) (fun _ => by simp) fun _ _ => by simp
  · exact hk

end Update

/-! ## An update and a rebuild -/

section List

variable [DecidableEq Body] {t : Nat} {m : CollectionSchemeManager Body}

open SchemeMap

/-- The invariant at `c`: disjoint maps, Idle windows in order, no flip after `c` missed. -/
structure Scheduled (c : Nat) (m : CollectionSchemeManager Body) : Prop where
  disjoint : m.Disjoint
  ordered : m.IdleOrdered
  covered : FutureCovered c m m.timeLine.entries

omit [DecidableEq Body] in
theorem Scheduled.mono {c c' : Nat} (h : Scheduled c m) (hc : c ≤ c') : Scheduled c' m :=
  ⟨h.disjoint, h.ordered, h.covered.mono hc⟩

theorem update_foldl_scheduled :
    ∀ (l : List (CollectionScheme Body)) (acc : Bool × CollectionSchemeManager Body),
      (∀ s ∈ l, s.startTime ≤ s.expiryTime) → Scheduled t acc.2 →
      Scheduled t (l.foldl (updateScheme t) acc).2
  | [], _, _, h => h
  | s :: l, (ret, _), hl, h =>
    update_foldl_scheduled l _ (fun s' hs' => hl s' (List.mem_cons_of_mem _ hs'))
      ⟨updateScheme_disjoint ret h.disjoint,
        h.ordered.of_idle (hl s (List.mem_cons_self _ _)) fun _ _ => updateScheme_idle ret,
        updateScheme_futureCovered ret h.disjoint h.covered⟩

theorem updateMapsandTimeLine_scheduled {l : List (CollectionScheme Body)}
    (hl : ∀ s ∈ l, s.startTime ≤ s.expiryTime) (h : Scheduled t m) :
    Scheduled t (updateMapsandTimeLine l t m).2 := by
  have hf := update_foldl_scheduled l (false, m) hl h
  have hsub : ∀ (M : SchemeMap Body) id s,
      (M.retain (· ∈ schemeIDs l)).lookup id = some s → M.lookup id = some s := fun M id s h => by
    rw [lookup_retain] at h
    split_ifs at h
    exact h
  refine ⟨hf.disjoint.of_subset (fun id h => (mem_retain.mp h).2) fun id h => (mem_retain.mp h).2,
    fun id s h' => hf.ordered id s (hsub _ id s h'), fun id => ?_⟩
  exact (hf.covered id).of_sub (hsub _ id) (hsub _ id)

theorem processCollectionScheme_scheduled {list : ICollectionSchemeList Body}
    (hnd : ∀ l ∈ list.build, (schemeIDs l).Nodup)
    (hord : ∀ l ∈ list.build, ∀ s ∈ l, s.startTime ≤ s.expiryTime) (h : Scheduled t m) :
    Scheduled t (processCollectionScheme (some list) t m).2 := by
  cases hb : list.build with
  | none => simpa [processCollectionScheme, hb] using h
  | some l =>
    cases hload : m.isCollectionSchemeLoaded <;>
      simp only [processCollectionScheme, hb, hload, Bool.false_eq_true, ↓reduceIte]
    · obtain ⟨hE, hI⟩ := not_isCollectionSchemeLoaded.mp hload
      rw [rebuildMapsandTimeLine, ← update_foldl_eq_rebuild l _ (hnd l hb) fun id _ => by
        simp [hE, hI]]
      exact update_foldl_scheduled l _ (hord l hb) h
    · exact updateMapsandTimeLine_scheduled (hord l hb) h

end List

/-! ## Popping the timeline -/

section Pop

variable {c : Nat} {m : CollectionSchemeManager Body} {top : TimeData} {f : Bool}
  {E' I' : SchemeMap Body}

open SchemeMap

/-- **Popping one entry keeps the rest covering**: no entry a later flip needs is popped. -/
theorem checkTop_futureCovered {rest : List TimeData} (hd : m.Disjoint) (ho : m.IdleOrdered)
    (hsort : (top :: rest).Sorted TimeData.le) (hc : FutureCovered c m (top :: rest))
    (h : checkTop c m.enabledCollectionSchemeMap m.idleCollectionSchemeMap top = some (f, E', I')) :
    FutureCovered c { m with enabledCollectionSchemeMap := E', idleCollectionSchemeMap := I' }
      rest := by
  have hrest : ∀ x id, id ≠ top.id → ((⟨x, id⟩ : TimeData) ∈ rest ↔ ⟨x, id⟩ ∈ top :: rest) :=
    fun x id hid => ⟨List.mem_cons_of_mem _, mem_of_id_ne hid⟩
  have hne : ∀ {x : Nat}, x ≠ top.time → ⟨x, top.id⟩ ∈ top :: rest → ⟨x, top.id⟩ ∈ rest :=
    fun hx hin => List.mem_of_ne_of_mem (fun heq => hx (TimeData.mk_eq_iff.mp heq).1) hin
  have hk := hc top.id
  rcases checkTop_some h with ⟨-, rfl, rfl, hE, hI⟩ | ⟨-, s, hsE, hst, hle, rfl, rfl⟩ |
    ⟨-, s, hsE, hsI, hst, hle, rfl, rfl⟩
  · -- a stale entry
    refine hc.of_local top.id (fun _ _ => rfl) (fun _ _ => rfl) hrest
      ⟨fun s hs hex => hne (hE s hs) (hk.1 s hs hex), fun s hs => ⟨fun hst => ?_, fun hin hex => ?_⟩⟩
    · exact hne (hI (hd.enabled_none hs) s hs) ((hk.2 s hs).1 hst)
    · refine hne (fun heq => hI (hd.enabled_none hs) s hs ?_)
        ((hk.2 s hs).2 (List.mem_cons_of_mem _ hin) hex)
      have := List.rel_of_sorted_cons hsort _ hin
      have := ho top.id s hs
      simp only [TimeData.le] at *
      omega
  · -- the due expiry of an Enabled scheme
    exact hc.of_local top.id (fun id hid => by simp [lookup_erase_ite, hid]) (fun _ _ => rfl) hrest
      (coveredAt_none (by simp [lookup_erase_ite]) (hd.idle_none hsE))
  · -- the due start of an Idle scheme
    refine hc.of_local top.id (fun id hid => by simp [lookup_insert_ite, hid])
      (fun id hid => by simp [lookup_erase_ite, hid]) hrest
      (coveredAt_enabled (s := s) (by simp [lookup_insert_ite]) (by simp [lookup_erase_ite])
        fun hex => hne (by omega) ((hk.2 s hsI).2 ?_ hex))
    rw [hst]
    exact List.mem_cons_self _ _

theorem checkTop_idleOrdered (ho : m.IdleOrdered)
    (h : checkTop c m.enabledCollectionSchemeMap m.idleCollectionSchemeMap top = some (f, E', I')) :
    IdleOrdered { m with enabledCollectionSchemeMap := E', idleCollectionSchemeMap := I' } := by
  rcases checkTop_some h with ⟨-, rfl, rfl, -⟩ | ⟨-, -, -, -, -, rfl, rfl⟩ |
    ⟨-, -, -, -, -, -, rfl, rfl⟩
  · exact ho
  · exact ho
  · exact fun id s h => ho id s (lookup_erase_eq_some.mp h).2

theorem checkTimeLineLoop_scheduled :
    ∀ (l : List TimeData) (hl : l.Sorted TimeData.le) (ret : Bool) (m : CollectionSchemeManager Body),
      m.Disjoint → m.IdleOrdered → FutureCovered c m l → Scheduled c (checkTimeLineLoop c l hl ret m).2
  | [], _, _, _, hd, ho, hc => ⟨hd, ho, hc⟩
  | top :: rest, hl, ret, m, hd, ho, hc => by
    simp only [checkTimeLineLoop]
    split
    · exact ⟨hd, ho, hc⟩
    · rename_i f E' I' h
      exact checkTimeLineLoop_scheduled rest _ _ _ (checkTop_disjoint hd h) (checkTop_idleOrdered ho h)
        (checkTop_futureCovered hd ho hl hc h)

theorem checkTimeLine_scheduled {t : Nat} (h : Scheduled t m) (ht : t ≤ c) :
    Scheduled c (checkTimeLine c m).2 := by
  obtain ⟨E, I, ⟨_ | ⟨top, rest⟩, hl⟩, dm⟩ := m
  · exact h.mono ht
  · simp only [checkTimeLine]
    split_ifs
    · exact h.mono ht
    · exact checkTimeLineLoop_scheduled _ _ _ _ h.disjoint h.ordered (h.covered.mono ht)

end Pop

/-! ## Runs -/

section Run

variable [DecidableEq Body]

/-- The clock readings of a run in the order `doWork` takes them. -/
def clockReadings : List (Pass Body) → List Nat
  | [] => []
  | p :: ps => p.processTime :: p.checkTime :: clockReadings ps

/-- **A pass keeps the schedule** when its clocks do not go back and its list is well formed. -/
theorem pass_scheduled {c : Nat} {p : Pass Body} {m : CollectionSchemeManager Body}
    (h : Scheduled c m) (h1 : c ≤ p.processTime) (h2 : p.processTime ≤ p.checkTime)
    (hnd : ∀ l ∈ p.built, (schemeIDs l).Nodup)
    (hord : ∀ l ∈ p.built, ∀ s ∈ l, s.startTime ≤ s.expiryTime) :
    Scheduled p.checkTime (pass p m).2 := by
  rcases p with ⟨_ | list, t, t'⟩
  · exact checkTimeLine_scheduled h (h1.trans h2)
  · exact checkTimeLine_scheduled (processCollectionScheme_scheduled hnd hord (h.mono h1)) h2

theorem foldl_pass_scheduled :
    ∀ (ps : List (Pass Body)) (c now : Nat) (m : CollectionSchemeManager Body),
      (∀ p ∈ ps, ∀ l ∈ p.built, (schemeIDs l).Nodup) →
      (∀ p ∈ ps, ∀ l ∈ p.built, ∀ s ∈ l, s.startTime ≤ s.expiryTime) →
      (c :: (clockReadings ps ++ [now])).Sorted (· ≤ ·) → Scheduled c m →
      Scheduled now (ps.foldl (fun m p => (pass p m).2) m)
  | [], c, now, m, _, _, hclk, h => h.mono ((List.sorted_cons.mp hclk).1 now (List.mem_singleton_self _))
  | p :: ps, c, now, m, hnd, hord, hclk, h => by
    simp only [clockReadings, List.cons_append] at hclk
    have ⟨h1, hclk⟩ := List.sorted_cons.mp hclk
    have ⟨h2, hclk⟩ := List.sorted_cons.mp hclk
    exact foldl_pass_scheduled ps p.checkTime now _ (fun q hq => hnd q (List.mem_cons_of_mem _ hq))
      (fun q hq => hord q (List.mem_cons_of_mem _ hq)) hclk
      (pass_scheduled h (h1 _ (List.mem_cons_self _ _)) (h2 _ (List.mem_cons_self _ _))
        (hnd p (List.mem_cons_self _ _)) (hord p (List.mem_cons_self _ _)))

theorem run_scheduled (ps : List (Pass Body)) (hnd : ∀ p ∈ ps, ∀ l ∈ p.built, (schemeIDs l).Nodup)
    (hord : ∀ p ∈ ps, ∀ l ∈ p.built, ∀ s ∈ l, s.startTime ≤ s.expiryTime) (now : Nat)
    (hclk : (clockReadings ps ++ [now]).Sorted (· ≤ ·)) : Scheduled now (run ps) :=
  foldl_pass_scheduled ps 0 now init hnd hord (List.sorted_cons.mpr ⟨fun _ _ => Nat.zero_le _, hclk⟩)
    ⟨fun id h => by simp [init] at h, fun id s h => by simp [init] at h,
      fun id => coveredAt_none (by simp [init]) (by simp [init])⟩

/-- **`doWork` never sleeps past a scheduled flip.** -/
theorem run_waitAt_upcoming (ps : List (Pass Body))
    (hnd : ∀ p ∈ ps, ∀ l ∈ p.built, (schemeIDs l).Nodup)
    (hord : ∀ p ∈ ps, ∀ l ∈ p.built, ∀ s ∈ l, s.startTime ≤ s.expiryTime) (idleTimeMs now next : Nat)
    (hclk : (clockReadings ps ++ [now]).Sorted (· ≤ ·)) (hnext : Upcoming now next (run ps)) :
    waitAt idleTimeMs now (run ps) ≠ .withPredicate ∧
      ∀ ms, waitAt idleTimeMs now (run ps) = .timed ms → ms ≤ idleTimeMs ∧ ms ≤ next - now := by
  have hc := (run_scheduled ps hnd hord now hclk).covered
  rcases hnext with ⟨id, s, hs, hst, rfl⟩ | ⟨id, s, hs, hex, rfl⟩
  · exact ⟨(waitAt_of_mem (((hc id).2 s hs).1 hst)).1, (waitAt_of_mem (((hc id).2 s hs).1 hst)).2.2⟩
  · exact ⟨(waitAt_of_mem ((hc id).1 s hs hex)).1, (waitAt_of_mem ((hc id).1 s hs hex)).2.2⟩

theorem run_waitAt_upcoming_schemeA :
    (∀ p ∈ [(⟨some ⟨some [schemeA 10 20]⟩, 5, 5⟩ : Pass Unit)], ∀ l ∈ p.built,
      (schemeIDs l).Nodup) ∧
    (∀ p ∈ [(⟨some ⟨some [schemeA 10 20]⟩, 5, 5⟩ : Pass Unit)], ∀ l ∈ p.built, ∀ s ∈ l,
      s.startTime ≤ s.expiryTime) ∧
    (clockReadings [(⟨some ⟨some [schemeA 10 20]⟩, 5, 5⟩ : Pass Unit)] ++ [7]).Sorted (· ≤ ·) ∧
    Upcoming 7 10 (run [(⟨some ⟨some [schemeA 10 20]⟩, 5, 5⟩ : Pass Unit)]) ∧
    (waitAt 1000 7 (run [(⟨some ⟨some [schemeA 10 20]⟩, 5, 5⟩ : Pass Unit)]) ≠ .withPredicate ∧
      ∀ ms, waitAt 1000 7 (run [(⟨some ⟨some [schemeA 10 20]⟩, 5, 5⟩ : Pass Unit)]) = .timed ms →
        ms ≤ 1000 ∧ ms ≤ 10 - 7) :=
  have hnd : ∀ p ∈ [(⟨some ⟨some [schemeA 10 20]⟩, 5, 5⟩ : Pass Unit)], ∀ l ∈ p.built,
      (schemeIDs l).Nodup := by decide
  have hord : ∀ p ∈ [(⟨some ⟨some [schemeA 10 20]⟩, 5, 5⟩ : Pass Unit)], ∀ l ∈ p.built, ∀ s ∈ l,
      s.startTime ≤ s.expiryTime := by decide
  have hclk : (clockReadings [(⟨some ⟨some [schemeA 10 20]⟩, 5, 5⟩ : Pass Unit)] ++ [7]).Sorted
      (· ≤ ·) := by decide
  have hnext : Upcoming 7 10 (run [(⟨some ⟨some [schemeA 10 20]⟩, 5, 5⟩ : Pass Unit)]) :=
    .inl ⟨"A", schemeA 10 20, by decide, by decide, rfl⟩
  ⟨hnd, hord, hclk, hnext, run_waitAt_upcoming _ hnd hord 1000 7 10 hclk hnext⟩

end Run

end CollectionSchemeManager

end FleetWise
