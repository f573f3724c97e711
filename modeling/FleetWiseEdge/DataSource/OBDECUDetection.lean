import Mathlib.Data.List.Dedup
import Mathlib.Data.List.Sort
import Mathlib.Data.String.Basic

/-!
# Detecting the ECUs of the OBD module

The first loop of `OBDOverCANModule::doWork` (`OBDOverCANModule.cpp`): a broadcast request with
11-bit IDs, and with 29-bit IDs when no ECU answers; `autoDetectECUs` keeps the IDs of the frames
that answer in the ECU response range, and `initECUs` builds one `OBDOverCANECU` per distinct ID,
in increasing order, with the transmit ID that `getTxIDByRxID` computes from it. The `ECUID`
ranges and the masks are not in the sources; their values are the ones the comments of
`autoDetectECUs` and `getTxIDByRxID` give. CAN IDs are `uint32_t`, kept as `Nat` below `2 ^ 32`.

* `getTxIDByRxID_extended`, `getTxIDByRxID_standard`: the transmit ID in closed form on the
  response ranges, `0x18DA00F1 + 256 * (rxId - 0x18DAF100)` and `rxId - 8`.
* `mem_autoDetectECUs`: every kept ID is in the response range of its ID kind.
* **`detectECUs_initECUs`**: whatever frames answer, the ECUs get distinct receive IDs in
  increasing order, each in its range, and distinct transmit IDs; the transmit ID of an ECU is the
  receive ID of an ECU only for the 29-bit ID `0x18DAF1F1`, which maps to itself.
-/

namespace FleetWise

namespace OBDOverCANModule

/-- `ECUID::LOWEST_ECU_RX_ID`: the 11-bit range is `[7E8, 7EF]`. -/
def lowestECURxID : Nat := 0x7E8

def highestECURxID : Nat := 0x7EF

/-- `ECUID::LOWEST_ECU_EXTENDED_RX_ID`: the 29-bit range is `[18DAF100, 18DAF1FF]`. -/
def lowestECUExtendedRxID : Nat := 0x18DAF100

def highestECUExtendedRxID : Nat := 0x18DAF1FF

def canEffMask : Nat := 0x1FFFFFFF

def maskingGetByte : Nat := 0xFF

def maskingShiftBits : Nat := 8

/-- `MASKING_TEMPLATE_TX_ID`: all 29-bit transmit IDs share its bytes. -/
def maskingTemplateTxId : Nat := 0x18DA00F1

def maskingRemoveByte : Nat := 0x8

/-- `getTxIDByRxID`, in `uint32_t`. -/
def getTxIDByRxID (isExtendedID : Bool) (rxId : Nat) : Nat :=
  if isExtendedID then ((rxId &&& maskingGetByte) <<< maskingShiftBits ||| maskingTemplateTxId) % 2 ^ 32
  else (rxId + 2 ^ 32 - maskingRemoveByte) % 2 ^ 32

def InRange (isExtendedID : Bool) (canId : Nat) : Prop :=
  if isExtendedID then lowestECUExtendedRxID ≤ canId ∧ canId ≤ highestECUExtendedRxID
  else lowestECURxID ≤ canId ∧ canId ≤ highestECURxID

instance (isExtendedID : Bool) (canId : Nat) : Decidable (InRange isExtendedID canId) := by
  unfold InRange; split <;> infer_instance

/-- One answer to the broadcast: its ID, masked if extended, kept when in the response range. -/
def detectFrame (isExtendedID : Bool) (canIDResponses : List Nat) (canId : Nat) : List Nat :=
  let frameCANId := if isExtendedID then canId &&& canEffMask else canId
  if InRange isExtendedID frameCANId then canIDResponses ++ [frameCANId] else canIDResponses

/-- `autoDetectECUs` on the IDs of the frames received before its loop ends. -/
def autoDetectECUs (isExtendedID : Bool) (received : List Nat) : List Nat :=
  received.foldl (detectFrame isExtendedID) []

/-- One round of ECU detection: the 11-bit broadcast, then the 29-bit one if none answered. -/
def detectECUs (received11 received29 : List Nat) : Option (Bool × List Nat) :=
  let canIDResponses := autoDetectECUs false received11
  if canIDResponses.isEmpty then
    let canIDResponses := autoDetectECUs true received29
    if canIDResponses.isEmpty then none else some (true, canIDResponses)
  else some (false, canIDResponses)

structure OBDOverCANECU where
  rxId : Nat
  txId : Nat
  isExtendedID : Bool
deriving DecidableEq, Repr

def initECUsLoop (isExtendedID : Bool) (ecuInit : Nat → Bool) :
    List Nat → List OBDOverCANECU → Bool × List OBDOverCANECU
  | [], ecus => (true, ecus)
  | rxID :: rest, ecus =>
    if ecuInit rxID then
      initECUsLoop isExtendedID ecuInit rest (ecus ++ [⟨rxID, getTxIDByRxID isExtendedID rxID, isExtendedID⟩])
    else (false, ecus)

/-- `std::set<uint32_t>` of the responses, as its elements in increasing order. -/
def canIDSet (canIDResponses : List Nat) : List Nat :=
  (canIDResponses.insertionSort (· ≤ ·)).dedup

/-- `initECUs`; `ecuInit` is the outcome of each `OBDOverCANECU::init`. -/
def initECUs (isExtendedID : Bool) (canIDResponses : List Nat) (ecuInit : Nat → Bool)
    (ecus : List OBDOverCANECU) : Bool × List OBDOverCANECU :=
  initECUsLoop isExtendedID ecuInit (canIDSet canIDResponses) ecus

/-! ## Transmit IDs -/

theorem getTxIDByRxID_extended {rxId : Nat} (h : InRange true rxId) :
    getTxIDByRxID true rxId = maskingTemplateTxId + 256 * (rxId - lowestECUExtendedRxID) := by
  have hb : ∀ b < 256, b <<< 8 ||| 0x18DA00F1 = 0x18DA00F1 + 256 * b := by
    set_option maxRecDepth 4000 in decide
  simp only [InRange, lowestECUExtendedRxID, highestECUExtendedRxID, ↓reduceIte] at h
  have hmask : rxId &&& maskingGetByte = rxId - lowestECUExtendedRxID := by
    rw [show maskingGetByte = 2 ^ 8 - 1 from rfl, Nat.and_pow_two_sub_one_eq_mod,
      lowestECUExtendedRxID]
    omega
  rw [getTxIDByRxID, if_pos rfl, hmask, maskingShiftBits, maskingTemplateTxId,
    hb _ (by simp only [lowestECUExtendedRxID]; omega)]
  simp only [lowestECUExtendedRxID]
  omega

theorem getTxIDByRxID_standard {rxId : Nat} (h : InRange false rxId) :
    getTxIDByRxID false rxId = rxId - maskingRemoveByte := by
  simp only [InRange, lowestECURxID, highestECURxID, Bool.false_eq_true, ↓reduceIte] at h
  simp only [getTxIDByRxID, Bool.false_eq_true, ↓reduceIte, maskingRemoveByte]
  omega

theorem getTxIDByRxID_of_inRange {isExtendedID : Bool} {rxId : Nat} (h : InRange isExtendedID rxId) :
    getTxIDByRxID isExtendedID rxId =
      if isExtendedID then maskingTemplateTxId + 256 * (rxId - lowestECUExtendedRxID)
      else rxId - maskingRemoveByte := by
  cases isExtendedID
  exacts [getTxIDByRxID_standard h, getTxIDByRxID_extended h]

theorem getTxIDByRxID_lt_of_lt {isExtendedID : Bool} {x y : Nat} (hx : InRange isExtendedID x)
    (hy : InRange isExtendedID y) (hxy : x < y) :
    getTxIDByRxID isExtendedID x < getTxIDByRxID isExtendedID y := by
  rw [getTxIDByRxID_of_inRange hx, getTxIDByRxID_of_inRange hy]
  cases isExtendedID
  · simp only [InRange, lowestECURxID, highestECURxID, Bool.false_eq_true, ↓reduceIte,
      maskingRemoveByte] at hx hy ⊢
    omega
  · simp only [InRange, lowestECUExtendedRxID, highestECUExtendedRxID, ↓reduceIte] at hx hy ⊢
    omega

theorem getTxIDByRxID_eq_rxId {isExtendedID : Bool} {x y : Nat} (hx : InRange isExtendedID x)
    (hy : InRange isExtendedID y) (hxy : getTxIDByRxID isExtendedID x = y) :
    x = y ∧ isExtendedID = true ∧ x = 0x18DAF1F1 := by
  rw [getTxIDByRxID_of_inRange hx] at hxy
  cases isExtendedID
  · simp only [InRange, lowestECURxID, highestECURxID, Bool.false_eq_true, ↓reduceIte,
      maskingRemoveByte] at hx hy hxy
    exact absurd hxy (by omega)
  · simp only [InRange, lowestECUExtendedRxID, highestECUExtendedRxID, ↓reduceIte,
      maskingTemplateTxId] at hx hy hxy
    exact ⟨by omega, rfl, by omega⟩

/-! ## Detection -/

theorem mem_detectFrame {isExtendedID : Bool} {canIDResponses : List Nat} {canId x : Nat}
    (h : x ∈ detectFrame isExtendedID canIDResponses canId) :
    x ∈ canIDResponses ∨ InRange isExtendedID x := by
  unfold detectFrame at h
  dsimp only at h
  generalize (if isExtendedID = true then canId &&& canEffMask else canId) = f at h
  split_ifs at h with hr
  · exact (List.mem_append.mp h).imp_right fun h => by rw [List.mem_singleton.mp h]; exact hr
  · exact .inl h

theorem foldl_detectFrame (isExtendedID : Bool) : ∀ (received canIDResponses : List Nat) (x : Nat),
    x ∈ received.foldl (detectFrame isExtendedID) canIDResponses →
      x ∈ canIDResponses ∨ InRange isExtendedID x
  | [], _, _, h => .inl h
  | _ :: received, _, x, h =>
    (foldl_detectFrame isExtendedID received _ x h).elim mem_detectFrame .inr

theorem mem_autoDetectECUs {isExtendedID : Bool} {received : List Nat} {x : Nat}
    (h : x ∈ autoDetectECUs isExtendedID received) : InRange isExtendedID x :=
  (foldl_detectFrame isExtendedID received [] x h).resolve_left (List.not_mem_nil x)

theorem detectECUs_inRange {received11 received29 : List Nat} {isExtendedID : Bool}
    {canIDResponses : List Nat} (h : detectECUs received11 received29 = some (isExtendedID, canIDResponses))
    {x : Nat} (hx : x ∈ canIDResponses) : InRange isExtendedID x := by
  unfold detectECUs at h
  dsimp only at h
  split_ifs at h <;> cases h
  exacts [mem_autoDetectECUs hx, mem_autoDetectECUs hx]

/-! ## The ECU table -/

theorem mem_canIDSet {canIDResponses : List Nat} {x : Nat} :
    x ∈ canIDSet canIDResponses ↔ x ∈ canIDResponses := by
  rw [canIDSet, List.mem_dedup, List.mem_insertionSort]

theorem canIDSet_sorted (canIDResponses : List Nat) : (canIDSet canIDResponses).Sorted (· < ·) :=
  List.Sorted.lt_of_le ((List.sorted_insertionSort _ _).sublist (List.dedup_sublist _))
    (List.nodup_dedup _)

theorem initECUsLoop_prefix (isExtendedID : Bool) (ecuInit : Nat → Bool) :
    ∀ (l : List Nat) (ecus : List OBDOverCANECU), ∃ k,
      (initECUsLoop isExtendedID ecuInit l ecus).2 =
        ecus ++ (l.take k).map fun rxID => ⟨rxID, getTxIDByRxID isExtendedID rxID, isExtendedID⟩
  | [], ecus => ⟨0, by simp [initECUsLoop]⟩
  | rxID :: rest, ecus => by
    unfold initECUsLoop
    split_ifs
    · obtain ⟨k, hk⟩ := initECUsLoop_prefix isExtendedID ecuInit rest
        (ecus ++ [⟨rxID, getTxIDByRxID isExtendedID rxID, isExtendedID⟩])
      exact ⟨k + 1, by rw [hk]; simp⟩
    · exact ⟨0, by simp⟩

/-- **The ECU table** has distinct receive IDs in range, in order, with their transmit IDs. -/
theorem detectECUs_initECUs (received11 received29 : List Nat) (ecuInit : Nat → Bool) :
    ∀ isExtendedID canIDResponses,
      detectECUs received11 received29 = some (isExtendedID, canIDResponses) →
      let ecus := (initECUs isExtendedID canIDResponses ecuInit []).2
      (∀ e ∈ ecus, e.isExtendedID = isExtendedID ∧ InRange isExtendedID e.rxId ∧
        e.txId = if isExtendedID then maskingTemplateTxId + 256 * (e.rxId - lowestECUExtendedRxID)
          else e.rxId - maskingRemoveByte) ∧
      (ecus.map (·.rxId)).Sorted (· < ·) ∧ (ecus.map (·.txId)).Sorted (· < ·) ∧
      ∀ e₁ ∈ ecus, ∀ e₂ ∈ ecus, e₁.txId = e₂.rxId →
        e₁ = e₂ ∧ isExtendedID = true ∧ e₁.rxId = 0x18DAF1F1 := by
  intro isExtendedID canIDResponses h
  obtain ⟨k, hk⟩ := initECUsLoop_prefix isExtendedID ecuInit (canIDSet canIDResponses) []
  simp only [initECUs, hk, List.nil_append, List.mem_map, List.map_map]
  set l := (canIDSet canIDResponses).take k
  have hsorted : l.Sorted (· < ·) := (canIDSet_sorted canIDResponses).sublist (List.take_sublist _ _)
  have hrange : ∀ x ∈ l, InRange isExtendedID x := fun x hx =>
    detectECUs_inRange h (mem_canIDSet.mp (List.mem_of_mem_take hx))
  refine ⟨?table, ?rxSorted, ?txSorted, ?txNotRx⟩
  case table =>
    rintro _ ⟨x, hx, rfl⟩
    exact ⟨rfl, hrange x hx, getTxIDByRxID_of_inRange (hrange x hx)⟩
  case rxSorted => exact (List.map_id l).symm ▸ hsorted
  case txSorted =>
    exact List.pairwise_map.mpr (hsorted.imp_of_mem fun hx hy hxy =>
      getTxIDByRxID_lt_of_lt (hrange _ hx) (hrange _ hy) hxy)
  case txNotRx =>
    rintro _ ⟨x, hx, rfl⟩ _ ⟨y, hy, rfl⟩ hxy
    obtain ⟨rfl, he, hx'⟩ := getTxIDByRxID_eq_rxId (hrange x hx) (hrange y hy) hxy
    exact ⟨rfl, he, hx'⟩

theorem detectECUs_initECUs_standard :
    detectECUs [0x7E8, 0x7E9, 0x7E8, 0x123] [] = some (false, [0x7E8, 0x7E9, 0x7E8]) ∧
      (((initECUs false [0x7E8, 0x7E9, 0x7E8] (fun _ => true) []).2).map (·.txId)).Sorted (· < ·) :=
  have h : detectECUs [0x7E8, 0x7E9, 0x7E8, 0x123] [] = some (false, [0x7E8, 0x7E9, 0x7E8]) := by
    decide
  ⟨h, (detectECUs_initECUs _ _ (fun _ => true) false _ h).2.2.1⟩

end OBDOverCANModule

end FleetWise
