import Mathlib.Data.List.AList
import Mathlib.Data.List.Sort
import Mathlib.Data.String.Basic

/-!
# The collection-scheme manager: data model

The state that `CollectionSchemeManager` keeps for its schedule (`CollectionSchemeManager.cpp`).
Timestamps (`Timestamp`, milliseconds since the epoch) are natural numbers: the schedule only
compares them.

* `CollectionScheme`: what the manager reads of an `ICollectionScheme` (its ID, its decoder
  manifest ID, its start and expiry time); the rest of a scheme is an opaque `Body`, compared
  only by `operator==`.
* `SchemeMap`: `mEnabledCollectionSchemeMap` and `mIdleCollectionSchemeMap`, finite maps from
  `SyncID` to schemes; `SchemeMap.inOrder` lists the entries as a loop over the `std::map` visits
  them, and `SchemeMap.retain` is the removal loop of `updateMapsandTimeLine`.
* `TimeData`, `TimeLine`: `mTimeLine`, a min-heap of `(time, id)` pairs ordered by system
  time, kept as the list in which `top`/`pop` hand its entries out. The list is sorted by
  construction, so every `TimeLine` is a heap the code can hold.
* `CollectionSchemeManager`: the manager's maps, timeline and current decoder manifest ID;
  `Disjoint.of_subset`, `Disjoint.of_insert_enabled`, `Disjoint.of_insert_idle` and
  `Disjoint.of_enable` say which changes to the maps keep them disjoint.
-/

namespace FleetWise

/-- `SyncID`: the cloud's document ID, a `std::string`. -/
abbrev SyncID := String

/-- What the manager reads of an `ICollectionScheme`; `body` stands for every other field. -/
structure CollectionScheme (Body : Type) where
  collectionSchemeID : SyncID
  decoderManifestID : SyncID
  startTime : Nat
  expiryTime : Nat
  body : Body
deriving DecidableEq, Repr

/-- A received `ICollectionSchemeList`: its schemes if `build()` succeeds, `none` if it fails. -/
structure ICollectionSchemeList (Body : Type) where
  build : Option (List (CollectionScheme Body))
deriving DecidableEq, Repr

/-- `std::map<SyncID, std::shared_ptr<ICollectionScheme>>`. -/
abbrev SchemeMap (Body : Type) := AList fun _ : SyncID => CollectionScheme Body

variable {Body : Type}

/-- The IDs of a scheme list, `newCollectionSchemeIDs` of `updateMapsandTimeLine`. -/
def schemeIDs (l : List (CollectionScheme Body)) : List SyncID :=
  l.map CollectionScheme.collectionSchemeID

@[simp]
theorem mem_schemeIDs {l : List (CollectionScheme Body)} {id : SyncID} :
    id ∈ schemeIDs l ↔ ∃ s ∈ l, s.collectionSchemeID = id := by
  simp [schemeIDs]

section AList

variable {κ β : Type} [DecidableEq κ]

theorem lookup_insert_ite (m : AList fun _ : κ => β) (k id : κ) (v : β) :
    (m.insert k v).lookup id = if id = k then some v else m.lookup id := by
  split_ifs with h
  · subst h; exact AList.lookup_insert m
  · exact AList.lookup_insert_ne h

theorem lookup_erase_ite (m : AList fun _ : κ => β) (k id : κ) :
    (m.erase k).lookup id = if id = k then none else m.lookup id := by
  split_ifs with h
  · subst h; exact AList.lookup_erase _ m
  · exact AList.lookup_erase_ne h

end AList

namespace SchemeMap

theorem lookup_insert_eq_some {m : SchemeMap Body} {k id : SyncID} {v s : CollectionScheme Body} :
    (m.insert k v).lookup id = some s ↔ (id = k ∧ v = s) ∨ (id ≠ k ∧ m.lookup id = some s) := by
  rw [lookup_insert_ite]
  split_ifs <;> simp_all

theorem lookup_erase_eq_some {m : SchemeMap Body} {k id : SyncID} {s : CollectionScheme Body} :
    (m.erase k).lookup id = some s ↔ id ≠ k ∧ m.lookup id = some s := by
  rw [lookup_erase_ite]
  split_ifs <;> simp_all

/-- The entries in the order a loop over the `std::map` visits them: by increasing ID. -/
def inOrder (m : SchemeMap Body) : List (Σ _ : SyncID, CollectionScheme Body) :=
  m.entries.insertionSort fun a b => a.1 ≤ b.1

/-- What the erase loops of `updateMapsandTimeLine` leave of a map: the keys satisfying `p`. -/
def retain (p : SyncID → Prop) [DecidablePred p] (m : SchemeMap Body) : SchemeMap Body :=
  ⟨m.entries.filter fun e => p e.1, m.nodupKeys.sublist (List.filter_sublist _)⟩

@[simp]
theorem lookup_retain (p : SyncID → Prop) [DecidablePred p] (m : SchemeMap Body) (id : SyncID) :
    (m.retain p).lookup id = if p id then m.lookup id else none := by
  simp only [retain, AList.lookup]
  induction m.entries with
  | nil => simp
  | cons e l ih =>
    obtain ⟨k, v⟩ := e
    by_cases he : id = k
    · subst he; by_cases hp : p id <;> simp_all
    · by_cases hp : p k <;> simp_all [List.dlookup_cons_ne]

theorem lookup_eq_some {m : SchemeMap Body} {id : SyncID} {s : CollectionScheme Body} :
    m.lookup id = some s ↔ ⟨id, s⟩ ∈ m.entries :=
  AList.mem_lookup_iff

theorem retain_eq_self {p : SyncID → Prop} [DecidablePred p] {m : SchemeMap Body}
    (h : ∀ id ∈ m.keys, p id) : m.retain p = m :=
  AList.ext (List.filter_eq_self.mpr fun e he => decide_eq_true (h e.1 (List.mem_map_of_mem _ he)))

@[simp]
theorem mem_retain {p : SyncID → Prop} [DecidablePred p] {m : SchemeMap Body} {id : SyncID} :
    id ∈ m.retain p ↔ p id ∧ id ∈ m := by
  rw [← AList.lookup_isSome, ← AList.lookup_isSome, lookup_retain]
  split_ifs <;> simp_all

end SchemeMap

/-- `TimeData`: a timeline entry, at the system time of its `TimePoint`. -/
structure TimeData where
  time : Nat
  id : SyncID
deriving DecidableEq, Repr

/-- The heap order of the timeline: by time only. -/
def TimeData.le (a b : TimeData) : Prop := a.time ≤ b.time

instance : DecidableRel TimeData.le := fun a b => inferInstanceAs (Decidable (a.time ≤ b.time))

instance : IsTotal TimeData TimeData.le := ⟨fun a b => Nat.le_total a.time b.time⟩

instance : IsTrans TimeData TimeData.le := ⟨fun _ _ _ => Nat.le_trans⟩

/-- `mTimeLine`: a min-heap of `TimeData`, as the list of its entries in pop order. -/
structure TimeLine where
  entries : List TimeData
  sorted : entries.Sorted TimeData.le
deriving DecidableEq

namespace TimeLine

def empty : TimeLine := ⟨[], List.sorted_nil⟩

/-- `mTimeLine.push(e)`: the entry goes before the entries of equal time. -/
def push (tl : TimeLine) (e : TimeData) : TimeLine :=
  ⟨tl.entries.orderedInsert TimeData.le e, tl.sorted.orderedInsert e _⟩

@[simp]
theorem mem_push {tl : TimeLine} {e x : TimeData} : x ∈ (tl.push e).entries ↔ x = e ∨ x ∈ tl.entries :=
  List.mem_orderedInsert _

@[simp]
theorem empty_entries : empty.entries = [] := rfl

theorem head_le {top : TimeData} {rest : List TimeData} (h : (top :: rest).Sorted TimeData.le)
    {x : TimeData} (hx : x ∈ top :: rest) : top.time ≤ x.time := by
  rcases List.mem_cons.mp hx with rfl | hx
  · exact le_rfl
  · exact List.rel_of_sorted_cons h x hx

end TimeLine

/-- The members of `CollectionSchemeManager` that its schedule reads and writes. -/
structure CollectionSchemeManager (Body : Type) where
  enabledCollectionSchemeMap : SchemeMap Body
  idleCollectionSchemeMap : SchemeMap Body
  timeLine : TimeLine
  currentDecoderManifestID : SyncID

namespace CollectionSchemeManager

/-- The manager as constructed: empty maps, an empty timeline, no decoder manifest. -/
def init : CollectionSchemeManager Body := ⟨∅, ∅, TimeLine.empty, ""⟩

/-- `isCollectionSchemeLoaded`: one of the maps holds a scheme. -/
def isCollectionSchemeLoaded (m : CollectionSchemeManager Body) : Bool :=
  !m.enabledCollectionSchemeMap.entries.isEmpty || !m.idleCollectionSchemeMap.entries.isEmpty

theorem not_isCollectionSchemeLoaded {m : CollectionSchemeManager Body} :
    m.isCollectionSchemeLoaded = false ↔
      m.enabledCollectionSchemeMap = ∅ ∧ m.idleCollectionSchemeMap = ∅ := by
  simp only [isCollectionSchemeLoaded, Bool.or_eq_false_iff, Bool.not_eq_false',
    List.isEmpty_iff]
  constructor
  · rintro ⟨h1, h2⟩; exact ⟨AList.ext h1, AList.ext h2⟩
  · rintro ⟨h1, h2⟩; simp [h1, h2]

/-! ## Well-formed states -/

/-- No ID is a key of both maps. -/
def Disjoint (m : CollectionSchemeManager Body) : Prop :=
  ∀ id, id ∈ m.enabledCollectionSchemeMap → id ∉ m.idleCollectionSchemeMap

/-- Every stored scheme starts before it expires. -/
def WindowsValid (m : CollectionSchemeManager Body) : Prop :=
  (∀ id s, m.enabledCollectionSchemeMap.lookup id = some s → s.startTime < s.expiryTime) ∧
    ∀ id s, m.idleCollectionSchemeMap.lookup id = some s → s.startTime < s.expiryTime

/-- Every Enabled scheme has its expiry in the timeline, every Idle one its start and expiry. -/
def TimeLineCovers (m : CollectionSchemeManager Body) : Prop :=
  (∀ id s, m.enabledCollectionSchemeMap.lookup id = some s →
      ⟨s.expiryTime, id⟩ ∈ m.timeLine.entries) ∧
    ∀ id s, m.idleCollectionSchemeMap.lookup id = some s →
      ⟨s.startTime, id⟩ ∈ m.timeLine.entries ∧ ⟨s.expiryTime, id⟩ ∈ m.timeLine.entries

theorem TimeData.mk_eq_iff {a : Nat} {id : SyncID} {e : TimeData} :
    (⟨a, id⟩ : TimeData) = e ↔ a = e.time ∧ id = e.id := by
  cases e; simp

theorem Disjoint.idle_none {m : CollectionSchemeManager Body} (h : m.Disjoint) {id : SyncID}
    {s : CollectionScheme Body} (hs : m.enabledCollectionSchemeMap.lookup id = some s) :
    m.idleCollectionSchemeMap.lookup id = none :=
  AList.lookup_eq_none.mpr (h id (AList.lookup_isSome.mp (by simp [hs])))

theorem Disjoint.enabled_none {m : CollectionSchemeManager Body} (h : m.Disjoint) {id : SyncID}
    {s : CollectionScheme Body} (hs : m.idleCollectionSchemeMap.lookup id = some s) :
    m.enabledCollectionSchemeMap.lookup id = none :=
  AList.lookup_eq_none.mpr fun he => h id he (AList.lookup_isSome.mp (by simp [hs]))

section DisjointUpdates

variable {m m' : CollectionSchemeManager Body} {k : SyncID} {s : CollectionScheme Body}

theorem Disjoint.of_subset (hd : m.Disjoint)
    (hE : ∀ id ∈ m'.enabledCollectionSchemeMap, id ∈ m.enabledCollectionSchemeMap)
    (hI : ∀ id ∈ m'.idleCollectionSchemeMap, id ∈ m.idleCollectionSchemeMap) : m'.Disjoint :=
  fun id h h' => hd id (hE id h) (hI id h')

theorem Disjoint.of_insert_enabled (hd : m.Disjoint) (hk : k ∉ m.idleCollectionSchemeMap)
    (hE : m'.enabledCollectionSchemeMap = m.enabledCollectionSchemeMap.insert k s)
    (hI : m'.idleCollectionSchemeMap = m.idleCollectionSchemeMap) : m'.Disjoint := by
  intro id h h'
  rw [hE, AList.mem_insert] at h
  rw [hI] at h'
  rcases h with rfl | h
  exacts [hk h', hd id h h']

theorem Disjoint.of_insert_idle (hd : m.Disjoint) (hk : k ∉ m.enabledCollectionSchemeMap)
    (hE : m'.enabledCollectionSchemeMap = m.enabledCollectionSchemeMap)
    (hI : m'.idleCollectionSchemeMap = m.idleCollectionSchemeMap.insert k s) : m'.Disjoint := by
  intro id h h'
  rw [hI, AList.mem_insert] at h'
  rw [hE] at h
  rcases h' with rfl | h'
  exacts [hk h, hd id h h']

theorem Disjoint.of_enable (hd : m.Disjoint)
    (hE : m'.enabledCollectionSchemeMap = m.enabledCollectionSchemeMap.insert k s)
    (hI : m'.idleCollectionSchemeMap = m.idleCollectionSchemeMap.erase k) : m'.Disjoint := by
  intro id h h'
  rw [hI, AList.mem_erase] at h'
  rw [hE, AList.mem_insert] at h
  rcases h with rfl | h
  exacts [h'.1 rfl, hd id h h'.2]

end DisjointUpdates

end CollectionSchemeManager

end FleetWise
