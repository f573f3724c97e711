import FleetWiseEdge.DataSource.ActiveDictionary

/-!
# The PID dictionary of `OBDOverCANModule`

What `OBDOverCANModule::onChangeOfActiveDictionary` (`OBDOverCANModule.cpp`) leaves in
`mDecoderDictionary` and in the PIDs requested for `SID::CURRENT_STATS`, and the condition of the
PID cycle of `doWork`: PIDs are requested only while `mDecoderDictionary` is not empty, and nothing
but the handler writes it.

* `foldl_pidEntry`: the loop over the frames of the channel, in closed form.
* `onChangeOfActiveDictionary_invalid`: a null dictionary, or one without exactly one channel,
  empties `mDecoderDictionary` and changes nothing else.
* `onChangeOfActiveDictionaryRun_empty`: the dictionary stays empty over any calls until a valid
  one.
* **`onChangeOfActiveDictionary_pids`**: for one channel whose frame keys are PIDs, the dictionary
  maps exactly its keys to their formats, and the requested PIDs, in increasing order, are those
  with a signal to collect.
-/

namespace FleetWise

namespace OBDOverCANModule

open DecoderDictionary

/-- The PID cycle of `doWork` requests PIDs only when `mDecoderDictionary` is not empty. -/
def requestsPIDs (m : OBDOverCANModule) : Bool :=
  !m.decoderDictionary.entries.isEmpty

/-- A call that passes both checks of the handler: `OBD`, and a CAN dictionary with one channel. -/
def ValidCall (c : Option DecoderDictionary × VehicleDataSourceProtocol) : Prop :=
  c.2 = .obd ∧ ∃ d, castCAN c.1 = some d ∧ d.canMessageDecoderMethod.entries.length = 1

instance (c : Option DecoderDictionary × VehicleDataSourceProtocol) : Decidable (ValidCall c) :=
  decidable_of_iff (c.2 = .obd ∧ (castCAN c.1).any (·.canMessageDecoderMethod.entries.length = 1))
    (by unfold ValidCall; cases castCAN c.1 <;> simp)

def onChangeOfActiveDictionaryRun (m : OBDOverCANModule)
    (calls : List (Option DecoderDictionary × VehicleDataSourceProtocol)) :
    Except Fault OBDOverCANModule :=
  calls.foldlM (fun m c => m.onChangeOfActiveDictionary c.1 c.2) m

/-! ## The loop over the frames -/

theorem toPID_of_lt {id : Nat} (h : id < 256) : toPID id = id :=
  Nat.mod_eq_of_lt h

theorem emplace_of_not_mem {pid : Nat} {format : CANMessageFormat}
    {m : AList fun _ : Nat => CANMessageFormat} (h : pid ∉ m) :
    emplace pid format m = m.insert pid format :=
  if_neg h

section Frames

variable (signalIDsToCollect : List Nat)

theorem foldl_pidEntry :
    ∀ (l : List (Nat × CANMessageDecoderMethod)) (D : AList fun _ : Nat => CANMessageFormat)
      (R : List Nat), (∀ e ∈ l, e.1 < 256) → (l.map Prod.fst).Nodup → (∀ e ∈ l, e.1 ∉ D) →
      (∀ pid f, (l.foldl (pidEntry signalIDsToCollect) (D, R)).1.lookup pid = some f ↔
        (∃ method, (pid, method) ∈ l ∧ method.format = f) ∨ D.lookup pid = some f) ∧
      (l.foldl (pidEntry signalIDsToCollect) (D, R)).2 = R ++ (l.filter fun e =>
        e.2.format.signals.any (·.signalID ∈ signalIDsToCollect)).map Prod.fst
  | [], D, R, _, _, _ => ⟨fun pid f => by simp, by simp⟩
  | (k, method) :: l, D, R, hpid, hnd, hfresh => by
    have hk := toPID_of_lt (hpid _ (List.mem_cons_self _ _))
    have hkD : k ∉ D := hfresh _ (List.mem_cons_self _ _)
    have hkl : ∀ method', (k, method') ∉ l := fun _ h =>
      (List.nodup_cons.mp hnd).1 (List.mem_map.mpr ⟨_, h, rfl⟩)
    obtain ⟨ih1, ih2⟩ := foldl_pidEntry l (D.insert k method.format)
      (if method.format.signals.any (·.signalID ∈ signalIDsToCollect) then R ++ [k] else R)
      (fun e he => hpid e (List.mem_cons_of_mem _ he)) (List.nodup_cons.mp hnd).2
      fun e he h => ((AList.mem_insert _).mp h).elim (fun h => hkl e.2 (h ▸ he))
        (hfresh e (List.mem_cons_of_mem _ he))
    simp only [List.foldl_cons, pidEntry, hk, emplace_of_not_mem hkD]
    refine ⟨fun pid f => ?_, ?_⟩
    · rw [ih1]
      by_cases hp : pid = k
      · subst hp
        simp [hkl, AList.lookup_eq_none.mpr hkD]
      · simp [hp, AList.lookup_insert_ne hp]
    · rw [ih2]
      split <;> simp_all [List.filter_cons]

end Frames

/-! ## The handler -/

theorem onChangeOfActiveDictionary_invalid (m : OBDOverCANModule)
    (dictionary : Option DecoderDictionary) (h : ¬ ValidCall (dictionary, .obd)) :
    m.onChangeOfActiveDictionary dictionary .obd = .ok { m with decoderDictionary := ∅ } := by
  unfold onChangeOfActiveDictionary
  cases hc : castCAN dictionary with
  | none => simp [hc]
  | some d =>
    have hl : d.canMessageDecoderMethod.entries.length ≠ 1 := fun hl => h ⟨rfl, d, hc, hl⟩
    simp [hc, deref, bind, Except.bind, hl]

theorem onChangeOfActiveDictionary_one_channel (m : OBDOverCANModule) {d : CANDecoderDictionary}
    {channel : Nat × NatMap CANMessageDecoderMethod}
    (hch : d.canMessageDecoderMethod.entries = [channel]) :
    m.onChangeOfActiveDictionary (some (.can d)) .obd = .ok
      { decoderDictionary := (channel.2.entries.foldl (pidEntry d.signalIDsToCollect) (∅, [])).1
        pidsRequestedByDecoderDict :=
          (channel.2.entries.foldl (pidEntry d.signalIDsToCollect) (∅, [])).2.insertionSort (· ≤ ·)
        decoderManifestAvailable := true } := by
  simp [onChangeOfActiveDictionary, castCAN, hch, deref, bind, Except.bind]

theorem onChangeOfActiveDictionary_other (m : OBDOverCANModule)
    (dictionary : Option DecoderDictionary) {networkProtocol : VehicleDataSourceProtocol}
    (h : networkProtocol ≠ .obd) : m.onChangeOfActiveDictionary dictionary networkProtocol = .ok m :=
  if_pos h

theorem onChangeOfActiveDictionaryRun_empty :
    ∀ (calls : List (Option DecoderDictionary × VehicleDataSourceProtocol)) (m : OBDOverCANModule),
      m.decoderDictionary = ∅ → (∀ c ∈ calls, ¬ ValidCall c) →
      ∃ m', onChangeOfActiveDictionaryRun m calls = .ok m' ∧ m'.decoderDictionary = ∅ ∧
        requestsPIDs m' = false
  | [], m, hm, _ => ⟨m, rfl, hm, by simp [requestsPIDs, hm]⟩
  | (dictionary, networkProtocol) :: calls, m, hm, hv => by
    have hrest := fun m hm => onChangeOfActiveDictionaryRun_empty calls m hm
      fun c hc => hv c (List.mem_cons_of_mem _ hc)
    simp only [onChangeOfActiveDictionaryRun, List.foldlM_cons] at hrest ⊢
    by_cases hp : networkProtocol = .obd
    · subst hp
      rw [onChangeOfActiveDictionary_invalid m dictionary (hv _ (List.mem_cons_self _ _))]
      exact hrest _ rfl
    · rw [onChangeOfActiveDictionary_other m dictionary hp]
      exact hrest m hm

/-- **The PIDs of a one-channel dictionary**, and an empty dictionary until the next valid one. -/
theorem onChangeOfActiveDictionary_pids (m : OBDOverCANModule) (d : CANDecoderDictionary)
    (channel : Nat × NatMap CANMessageDecoderMethod)
    (hch : d.canMessageDecoderMethod.entries = [channel])
    (hpid : ∀ e ∈ channel.2.entries, e.1 < 256) :
    (∃ m', m.onChangeOfActiveDictionary (some (.can d)) .obd = .ok m' ∧
      (∀ pid f, m'.decoderDictionary.lookup pid = some f ↔
        ∃ method, (pid, method) ∈ channel.2.entries ∧ method.format = f) ∧
      m'.pidsRequestedByDecoderDict.Sorted (· < ·) ∧
      ∀ pid, pid ∈ m'.pidsRequestedByDecoderDict ↔ ∃ method, (pid, method) ∈ channel.2.entries ∧
        ∃ signal ∈ method.format.signals, signal.signalID ∈ d.signalIDsToCollect) ∧
    ∀ dictionary calls, ¬ ValidCall (dictionary, .obd) → (∀ c ∈ calls, ¬ ValidCall c) →
      ∃ m', onChangeOfActiveDictionaryRun m ((dictionary, .obd) :: calls) = .ok m' ∧
        m'.decoderDictionary = ∅ ∧ requestsPIDs m' = false := by
  refine ⟨?_, fun dictionary calls h hv => ?_⟩
  · obtain ⟨h1, h2⟩ := foldl_pidEntry d.signalIDsToCollect channel.2.entries ∅ [] hpid
      channel.2.sorted.nodup fun e _ h => by simp at h
    rw [List.nil_append] at h2
    have hsorted : (channel.2.entries.foldl (pidEntry d.signalIDsToCollect) (∅, [])).2.Sorted
        (· < ·) := h2 ▸ channel.2.sorted.sublist ((List.filter_sublist _).map _)
    have hreq := List.Sorted.insertionSort_eq (hsorted.imp le_of_lt)
    refine ⟨_, onChangeOfActiveDictionary_one_channel m hch, by simpa using h1, ?_, fun pid => ?_⟩
    · rw [hreq]
      exact hsorted
    · rw [hreq, h2]
      simp
  · simp only [onChangeOfActiveDictionaryRun, List.foldlM_cons]
    rw [onChangeOfActiveDictionary_invalid m dictionary h]
    exact onChangeOfActiveDictionaryRun_empty calls _ rfl hv

/-- Channel `0` with the frames of PIDs `12` and `13`, carrying the signals `1` and `2`. -/
def obdChannel : Nat × NatMap CANMessageDecoderMethod :=
  (0, ⟨[(12, ⟨⟨[⟨1⟩]⟩⟩), (13, ⟨⟨[⟨2⟩]⟩⟩)], by decide⟩)

def obdDictionary : CANDecoderDictionary :=
  ⟨⟨[obdChannel], by decide⟩, [1]⟩

theorem onChangeOfActiveDictionary_pids_obdDictionary :
    obdDictionary.canMessageDecoderMethod.entries = [obdChannel] ∧
      (∀ e ∈ obdChannel.2.entries, e.1 < 256) ∧
      (∃ m', (⟨∅, [], false⟩ : OBDOverCANModule).onChangeOfActiveDictionary
          (some (.can obdDictionary)) .obd = .ok m' ∧
        (∀ pid f, m'.decoderDictionary.lookup pid = some f ↔
          ∃ method, (pid, method) ∈ obdChannel.2.entries ∧ method.format = f) ∧
        m'.pidsRequestedByDecoderDict.Sorted (· < ·) ∧
        ∀ pid, pid ∈ m'.pidsRequestedByDecoderDict ↔ ∃ method, (pid, method) ∈ obdChannel.2.entries ∧
          ∃ signal ∈ method.format.signals, signal.signalID ∈ obdDictionary.signalIDsToCollect) ∧
      ∀ dictionary calls, ¬ ValidCall (dictionary, .obd) → (∀ c ∈ calls, ¬ ValidCall c) →
        ∃ m', onChangeOfActiveDictionaryRun ⟨∅, [], false⟩ ((dictionary, .obd) :: calls) = .ok m' ∧
          m'.decoderDictionary = ∅ ∧ requestsPIDs m' = false :=
  ⟨rfl, by decide, onChangeOfActiveDictionary_pids ⟨∅, [], false⟩ obdDictionary obdChannel rfl
    (by decide)⟩

end OBDOverCANModule

end FleetWise
