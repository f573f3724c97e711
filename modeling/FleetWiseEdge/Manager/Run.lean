import FleetWiseEdge.Manager.Maps
import FleetWiseEdge.Manager.TimeLine

/-!
# Runs of the schedule

A pass of `doWork` (`CollectionSchemeManager.cpp`), as far as the maps and the timeline go:
`processCollectionScheme` when a scheme list is pending, then `checkTimeLine`. A run is a
sequence of passes from the manager as constructed.

* `enabled_eq_of_pass_false`: a pass that reports no change leaves the Enabled map alone.
* `KeysIn`, **`run_keys_lastBuilt`**: after every pass both maps hold only IDs of the list most
  recently built, and a list that fails to build changes nothing.
* **`run_disjoint`**: over a run whose lists name no ID twice, no ID is in both maps;
  `duplicateRun` shows that a repeated ID breaks this.
* `closedIdleRun`: an Idle scheme updated to a window that has already closed stays Idle, with
  no timeline entry for its new start.
* **`enabled_change_sets_flag`**: every call that changes the Enabled map returns `true`.
* `duplicateRun`: a first list that holds one ID twice puts it in both maps; from empty maps the
  rebuild of such a list does so, while the update keeps the maps disjoint.
-/

namespace FleetWise

namespace CollectionSchemeManager

variable {Body : Type} [DecidableEq Body]

/-- What a pass of `doWork` hands the schedule: the list it processes, if any, and two clocks. -/
structure Pass (Body : Type) where
  collectionSchemeList : Option (ICollectionSchemeList Body)
  processTime : Nat
  checkTime : Nat

/-- A pass on the schedule; the flag is `enabledCollectionSchemeMapChanged`. -/
def pass (p : Pass Body) (m : CollectionSchemeManager Body) : Bool × CollectionSchemeManager Body :=
  let r := match p.collectionSchemeList with
    | none => (false, m)
    | some list => processCollectionScheme (some list) p.processTime m
  let c := checkTimeLine p.checkTime r.2
  (r.1 || c.1, c.2)

def run (ps : List (Pass Body)) : CollectionSchemeManager Body :=
  ps.foldl (fun m p => (pass p m).2) init

def Pass.built (p : Pass Body) : Option (List (CollectionScheme Body)) :=
  p.collectionSchemeList.bind ICollectionSchemeList.build

def lastBuilt (ps : List (Pass Body)) : Option (List (CollectionScheme Body)) :=
  ps.foldl (fun o p => p.built.or o) none

theorem pass_currentDecoderManifestID (p : Pass Body) (m : CollectionSchemeManager Body) :
    (pass p m).2.currentDecoderManifestID = m.currentDecoderManifestID := by
  rcases p with ⟨_ | list, t, t'⟩ <;>
    simp only [pass, checkTimeLine_currentDecoderManifestID,
      processCollectionScheme_currentDecoderManifestID]

theorem enabled_eq_of_pass_false {p : Pass Body} {m : CollectionSchemeManager Body}
    (h : (pass p m).1 = false) :
    (pass p m).2.enabledCollectionSchemeMap = m.enabledCollectionSchemeMap := by
  rcases p with ⟨_ | list, t, t'⟩ <;> simp only [pass, Bool.or_eq_false_iff] at h ⊢
  · exact enabled_eq_of_checkTimeLine_false h.2
  · rw [enabled_eq_of_checkTimeLine_false h.2, enabled_eq_of_process_false h.1]

/-- **No change to the Enabled map goes unreported** by a rebuild, update, check or pass. -/
theorem enabled_change_sets_flag (l : List (CollectionScheme Body)) (t : Nat) (p : Pass Body)
    (m : CollectionSchemeManager Body) :
    ((rebuildMapsandTimeLine l t m).2.enabledCollectionSchemeMap ≠ m.enabledCollectionSchemeMap →
      (rebuildMapsandTimeLine l t m).1 = true) ∧
    ((updateMapsandTimeLine l t m).2.enabledCollectionSchemeMap ≠ m.enabledCollectionSchemeMap →
      (updateMapsandTimeLine l t m).1 = true) ∧
    ((checkTimeLine t m).2.enabledCollectionSchemeMap ≠ m.enabledCollectionSchemeMap →
      (checkTimeLine t m).1 = true) ∧
    ((pass p m).2.enabledCollectionSchemeMap ≠ m.enabledCollectionSchemeMap →
      (pass p m).1 = true) :=
  ⟨fun h => Bool.eq_true_of_not_eq_false (mt enabled_eq_of_rebuild_false h),
    fun h => Bool.eq_true_of_not_eq_false (mt enabled_eq_of_update_false h),
    fun h => Bool.eq_true_of_not_eq_false (mt enabled_eq_of_checkTimeLine_false h),
    fun h => Bool.eq_true_of_not_eq_false (mt enabled_eq_of_pass_false h)⟩

/-! ## The maps hold only IDs of the last list -/

def KeysIn (o : Option (List (CollectionScheme Body))) (m : CollectionSchemeManager Body) : Prop :=
  ∀ id, id ∈ m.enabledCollectionSchemeMap ∨ id ∈ m.idleCollectionSchemeMap →
    ∃ l, o = some l ∧ id ∈ schemeIDs l

omit [DecidableEq Body] in
theorem KeysIn.of_checkTimeLine {o : Option (List (CollectionScheme Body))}
    {m : CollectionSchemeManager Body} (h : KeysIn o m) (t : Nat) :
    KeysIn o (m.checkTimeLine t).2 :=
  fun id hid => h id (mem_checkTimeLine hid)

theorem KeysIn.of_pass {o : Option (List (CollectionScheme Body))} {m : CollectionSchemeManager Body}
    (h : KeysIn o m) (p : Pass Body) : KeysIn (p.built.or o) (pass p m).2 := by
  rcases p with ⟨_ | list, t, t'⟩
  · exact h.of_checkTimeLine t'
  cases hb : list.build with
  | none =>
    have he : processCollectionScheme (some list) t m = (false, m) := by
      simp [processCollectionScheme, hb]
    simpa [pass, Pass.built, hb, he] using h.of_checkTimeLine t'
  | some l =>
    intro id hid
    refine ⟨l, by simp [Pass.built, hb], mem_processCollectionScheme hb (mem_checkTimeLine hid)⟩

theorem KeysIn.foldl_pass :
    ∀ (ps : List (Pass Body)) (o : Option (List (CollectionScheme Body)))
      (m : CollectionSchemeManager Body), KeysIn o m →
      KeysIn (ps.foldl (fun o p => p.built.or o) o) (ps.foldl (fun m p => (pass p m).2) m)
  | [], _, _, h => h
  | p :: ps, _, _, h => KeysIn.foldl_pass ps _ _ (h.of_pass p)

/-- **The maps follow the last list**: every key of either map is an ID of the list last built. -/
theorem run_keys_lastBuilt (ps : List (Pass Body)) :
    (∀ id, id ∈ (run ps).enabledCollectionSchemeMap ∨ id ∈ (run ps).idleCollectionSchemeMap →
      ∃ l, lastBuilt ps = some l ∧ id ∈ schemeIDs l) ∧
    ∀ (list : ICollectionSchemeList Body) (t : Nat) (m : CollectionSchemeManager Body),
      list.build = none → processCollectionScheme (some list) t m = (false, m) :=
  ⟨KeysIn.foldl_pass ps none init fun id hid => by simp [init] at hid,
    fun list t m hb => by simp [processCollectionScheme, hb]⟩

/-! ## Disjoint maps over a run -/

theorem pass_disjoint {p : Pass Body} {m : CollectionSchemeManager Body} (hd : m.Disjoint)
    (hnd : ∀ l ∈ p.built, (schemeIDs l).Nodup) : (pass p m).2.Disjoint := by
  rcases p with ⟨_ | list, t, t'⟩
  · exact checkTimeLine_disjoint hd
  · exact checkTimeLine_disjoint (processCollectionScheme_disjoint hd hnd)

/-- **Disjoint maps over a run** in which no list that builds names an ID twice. -/
theorem run_disjoint (ps : List (Pass Body)) (hnd : ∀ p ∈ ps, ∀ l ∈ p.built, (schemeIDs l).Nodup) :
    (run ps).Disjoint := by
  have key : ∀ (qs : List (Pass Body)) (m : CollectionSchemeManager Body), m.Disjoint →
      (∀ p ∈ qs, ∀ l ∈ p.built, (schemeIDs l).Nodup) →
      (qs.foldl (fun m p => (pass p m).2) m).Disjoint := by
    intro qs
    induction qs with
    | nil => exact fun _ hd _ => hd
    | cons p qs ih =>
      exact fun m hd h => ih _ (pass_disjoint hd (h p (List.mem_cons_self _ _)))
        fun q hq => h q (List.mem_cons_of_mem _ hq)
  exact key ps init (fun id h => by simp [init] at h) hnd

/-! ## An Idle scheme updated to a closed window -/

def schemeA (start expiry : Nat) : CollectionScheme Unit := ⟨"A", "DM1", start, expiry, ()⟩

/-- A list at time 0 schedules `A` for `[10, 20)`; one at time 5 moves it to the closed `[1, 3)`. -/
def closedIdleRun : List (Pass Unit) :=
  [⟨some ⟨some [schemeA 10 20]⟩, 0, 0⟩, ⟨some ⟨some [schemeA 1 3]⟩, 5, 5⟩]

/-- After the second pass, at time 5, `A` is Idle with its closed window `[1, 3)`. -/
theorem closedIdleRun_idle :
    (run closedIdleRun).idleCollectionSchemeMap.lookup "A" = some (schemeA 1 3) ∧
      (schemeA 1 3).startTime ≤ 5 ∧ (schemeA 1 3).expiryTime ≤ 5 := by
  decide

theorem run_disjoint_closedIdleRun :
    (∀ p ∈ closedIdleRun, ∀ l ∈ p.built, (schemeIDs l).Nodup) ∧ (run closedIdleRun).Disjoint :=
  have h : ∀ p ∈ closedIdleRun, ∀ l ∈ p.built, (schemeIDs l).Nodup := by decide
  ⟨h, run_disjoint closedIdleRun h⟩

/-- The same calls without the timeline check: a rebuild at time 0, an update at time 5. -/
def closedIdleState : CollectionSchemeManager Unit :=
  (updateMapsandTimeLine [schemeA 1 3] 5 (rebuildMapsandTimeLine [schemeA 10 20] 0 init).2).2

/-- `A` is Idle with window `[1, 3)`, and the timeline has no entry `(1, A)`. -/
theorem closedIdleState_uncovered :
    closedIdleState.idleCollectionSchemeMap.lookup "A" = some (schemeA 1 3) ∧
      (⟨1, "A"⟩ : TimeData) ∉ closedIdleState.timeLine.entries := by
  decide

/-- From one Idle scheme `A` on `[10, 20)`, an update at time 5 to `[1, 3)` keeps `A` Idle. -/
theorem updateMapsandTimeLine_keeps_closed_idle :
    (updateMapsandTimeLine [schemeA 1 3] 5 idleA).2.idleCollectionSchemeMap.lookup "A" =
      some (schemeA 1 3) := by
  decide

/-! ## A list that holds one ID twice -/

/-- A first list, at time 5, with `A` on `[10, 20)` and on `[1, 30)`. -/
def duplicateRun : List (Pass Unit) := [⟨some ⟨some [schemeA 10 20, schemeA 1 30]⟩, 5, 5⟩]

/-- After the pass, `A` is a key of both maps. -/
theorem duplicateRun_both :
    "A" ∈ (run duplicateRun).enabledCollectionSchemeMap ∧
      "A" ∈ (run duplicateRun).idleCollectionSchemeMap := by
  decide

/-- On `duplicateRun`'s list the rebuild leaves `A` in both maps, the update Enabled only. -/
theorem rebuild_update_differ_on_duplicate :
    (rebuildMapsandTimeLine [schemeA 10 20, schemeA 1 30] 5 init).2.enabledCollectionSchemeMap.lookup
        "A" = some (schemeA 1 30) ∧
      (rebuildMapsandTimeLine [schemeA 10 20, schemeA 1 30] 5 init).2.idleCollectionSchemeMap.lookup
        "A" = some (schemeA 10 20) ∧
      (updateMapsandTimeLine [schemeA 10 20, schemeA 1 30] 5 init).2.enabledCollectionSchemeMap.lookup
        "A" = some (schemeA 1 30) ∧
      (updateMapsandTimeLine [schemeA 10 20, schemeA 1 30] 5 init).2.idleCollectionSchemeMap.lookup
        "A" = none := by
  decide

end CollectionSchemeManager

end FleetWise
