import FleetWiseEdge.Manager.Run

/-!
# The wait point of `doWork`

After a pass, `doWork` (`CollectionSchemeManager.cpp`) reads the system clock again and waits:
on its signal alone when the timeline is empty, not at all when the top of the timeline is due,
and otherwise for the distance to the top, cast to `uint32_t` and capped by `mIdleTimeMs`.

* `waitAt`: the three branches.
* `waitAt_of_mem`: one timeline entry bounds the wait by its distance from the clock.
* **`waitAt_of_covers`**: when the timeline holds the entries of every scheme, the manager does
  not wait while a flip is overdue, and otherwise waits no longer than the idle time and the
  distance to any later start or expiry.
* `overdueRun`: after a first list that repeats an ID, an Idle scheme whose window is open has
  no timeline entry left and the manager waits on its signal alone.
-/

namespace FleetWise

namespace CollectionSchemeManager

variable {Body : Type}

/-- How `doWork` waits: on its signal alone, not at all, or `mWait.wait(waitTimeMs)`. -/
inductive Wait
  | withPredicate
  | expired
  | timed (waitTimeMs : Nat)
deriving DecidableEq, Repr

/-- The wait of `doWork` at `currentSystemTime`; the distance to the top is cast to `uint32_t`. -/
def waitAt (idleTimeMs currentSystemTime : Nat) (m : CollectionSchemeManager Body) : Wait :=
  match m.timeLine.entries with
  | [] => .withPredicate
  | top :: _ =>
    if top.time ≤ currentSystemTime then .expired
    else .timed (min ((top.time - currentSystemTime) % 2 ^ 32) idleTimeMs)

/-- A flip is overdue at `now`: an Idle window is open, or an Enabled scheme has expired. -/
def Overdue (now : Nat) (m : CollectionSchemeManager Body) : Prop :=
  (∃ id s, m.idleCollectionSchemeMap.lookup id = some s ∧ s.startTime ≤ now ∧
      now < s.expiryTime) ∨
    ∃ id s, m.enabledCollectionSchemeMap.lookup id = some s ∧ s.expiryTime ≤ now

def Upcoming (now next : Nat) (m : CollectionSchemeManager Body) : Prop :=
  (∃ id s, m.idleCollectionSchemeMap.lookup id = some s ∧ now < s.startTime ∧
      next = s.startTime) ∨
    ∃ id s, m.enabledCollectionSchemeMap.lookup id = some s ∧ now < s.expiryTime ∧
      next = s.expiryTime

/-! ## The wait against the timeline -/

variable {idleTimeMs now : Nat} {m : CollectionSchemeManager Body}

theorem waitAt_of_mem {e : TimeData} (he : e ∈ m.timeLine.entries) :
    waitAt idleTimeMs now m ≠ .withPredicate ∧
      (e.time ≤ now → waitAt idleTimeMs now m = .expired) ∧
      ∀ ms, waitAt idleTimeMs now m = .timed ms → ms ≤ idleTimeMs ∧ ms ≤ e.time - now := by
  obtain ⟨E, I, ⟨_ | ⟨top, rest⟩, hs⟩, dm⟩ := m
  · simp at he
  have htop : top.time ≤ e.time := TimeLine.head_le hs he
  simp only [waitAt]
  split_ifs with h
  · exact ⟨Wait.noConfusion, fun _ => rfl, fun _ h => by cases h⟩
  · refine ⟨Wait.noConfusion, fun hdue => absurd (htop.trans hdue) h, fun ms hms => ?_⟩
    cases hms
    have := Nat.mod_le (top.time - now) (2 ^ 32)
    exact ⟨min_le_right _ _, (min_le_left _ _).trans (by omega)⟩

/-- **The wait when the timeline covers the maps**: none if a flip is overdue, else bounded. -/
theorem waitAt_of_covers (hc : m.TimeLineCovers) :
    (Overdue now m → waitAt idleTimeMs now m = .expired) ∧
      ∀ next, Upcoming now next m → waitAt idleTimeMs now m ≠ .withPredicate ∧
        ∀ ms, waitAt idleTimeMs now m = .timed ms → ms ≤ idleTimeMs ∧ ms ≤ next - now := by
  refine ⟨fun h => ?_, fun next h => ?_⟩
  · rcases h with ⟨id, s, hs, hst, -⟩ | ⟨id, s, hs, hex⟩
    · exact (waitAt_of_mem (hc.2 id s hs).1).2.1 hst
    · exact (waitAt_of_mem (hc.1 id s hs)).2.1 hex
  · rcases h with ⟨id, s, hs, -, rfl⟩ | ⟨id, s, hs, -, rfl⟩
    · exact ⟨(waitAt_of_mem (hc.2 id s hs).1).1, (waitAt_of_mem (hc.2 id s hs).1).2.2⟩
    · exact ⟨(waitAt_of_mem (hc.1 id s hs)).1, (waitAt_of_mem (hc.1 id s hs)).2.2⟩

theorem waitAt_of_covers_idleA :
    idleA.TimeLineCovers ∧ (Overdue 15 idleA → waitAt 1000 15 idleA = .expired) ∧
      ∀ next, Upcoming 15 next idleA → waitAt 1000 15 idleA ≠ .withPredicate ∧
        ∀ ms, waitAt 1000 15 idleA = .timed ms → ms ≤ 1000 ∧ ms ≤ next - 15 :=
  have hc : idleA.TimeLineCovers := ⟨fun id s h => by simp [idleA] at h, fun id s h => by
    simp only [idleA, lookup_insert_ite] at h
    split_ifs at h with hid
    · cases h; subst hid; decide
    · simp at h⟩
  ⟨hc, waitAt_of_covers hc⟩

/-! ## An open window with no entry -/

/-- A first list at time 5 with `A` on `[10, 20)` and on `[1, 12)`, then a pass at time 12. -/
def overdueRun : List (Pass Unit) :=
  [⟨some ⟨some [schemeA 10 20, schemeA 1 12]⟩, 5, 5⟩, ⟨none, 12, 12⟩]

/-- At time 12 the Idle `A` on `[10, 20)` is open, yet the manager waits on its signal alone. -/
theorem overdueRun_waits (idleTimeMs : Nat) :
    (run overdueRun).idleCollectionSchemeMap.lookup "A" = some (schemeA 10 20) ∧
      Overdue 12 (run overdueRun) ∧ waitAt idleTimeMs 12 (run overdueRun) = .withPredicate := by
  have hA : (run overdueRun).idleCollectionSchemeMap.lookup "A" = some (schemeA 10 20) := by
    decide
  have hTL : (run overdueRun).timeLine.entries = [] := by decide
  exact ⟨hA, .inl ⟨"A", _, hA, by decide, by decide⟩, by simp only [waitAt, hTL]⟩

end CollectionSchemeManager

end FleetWise
