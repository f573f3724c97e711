import Mathlib.Data.List.AList
import Mathlib.Data.List.Sort

/-!
# The data sources' `onChangeOfActiveDictionary`

`CollectionSchemeManager` publishes one decoder dictionary per `VehicleDataSourceProtocol`; each
data source receives it in `onChangeOfActiveDictionary` (`CANDataSource`, `MyBlobDataSource`,
`OBDOverCANModule.cpp`). A `ConstDecoderDictionaryConstPtr` is an `Option DecoderDictionary`
(`none` is `nullptr`), the dynamic type of a dictionary is its constructor, and
`std::dynamic_pointer_cast` yields `none` on a null pointer or on another type. A dereference
runs in `Except Fault` and faults on `nullptr` (and on the `begin()` of an empty map).

* `CANDataSource.onChangeOfActiveDictionary_ok`, `OBDOverCANModule.onChangeOfActiveDictionary_ok`:
  the CAN and OBD handlers never fault; the OBD one checks its cast and the size of the map before
  it dereferences them.
* **`onChangeOfActiveDictionary_null_dereference`**: the blob handler dereferences its cast
  unchecked, so it faults exactly on `COMPLEX_DATA` with a null pointer or a dictionary of
  another type.
-/

namespace FleetWise

inductive VehicleDataSourceProtocol
  | rawSocket
  | obd
  | customDecoding
  | complexData
deriving DecidableEq, Repr

structure CANSignalFormat where
  signalID : Nat
deriving DecidableEq, Repr

structure CANMessageFormat where
  signals : List CANSignalFormat
deriving DecidableEq, Repr

structure CANMessageDecoderMethod where
  format : CANMessageFormat
deriving DecidableEq, Repr

structure NatMap (V : Type) where
  entries : List (Nat × V)
  sorted : (entries.map Prod.fst).Sorted (· < ·)

structure CANDecoderDictionary where
  canMessageDecoderMethod : NatMap (NatMap CANMessageDecoderMethod)
  signalIDsToCollect : List Nat

structure ComplexDataMessageFormat where
  signalId : Nat

structure ComplexDataDecoderDictionary where
  complexMessageDecoderMethod :
    AList fun _ : String => AList fun _ : String => ComplexDataMessageFormat

/-- A `DecoderDictionary` by its dynamic type. -/
inductive DecoderDictionary
  | can (d : CANDecoderDictionary)
  | custom
  | complexData (d : ComplexDataDecoderDictionary)

namespace DecoderDictionary

/-- `std::dynamic_pointer_cast<const CANDecoderDictionary>`. -/
def castCAN : Option DecoderDictionary → Option CANDecoderDictionary
  | some (.can d) => some d
  | _ => none

/-- `std::dynamic_pointer_cast<const ComplexDataDecoderDictionary>`. -/
def castComplexData : Option DecoderDictionary → Option ComplexDataDecoderDictionary
  | some (.complexData d) => some d
  | _ => none

end DecoderDictionary

open DecoderDictionary

inductive Fault
  | nullDereference
deriving DecidableEq, Repr

/-- `*p`: a null pointer faults. -/
def deref {α : Type} : Option α → Except Fault α
  | some a => .ok a
  | none => .error .nullDereference

/-! ## `CANDataSource` -/

structure CANDataSource where
  decoderDictionary : Option CANDecoderDictionary

def CANDataSource.onChangeOfActiveDictionary (s : CANDataSource)
    (dictionary : Option DecoderDictionary) (networkProtocol : VehicleDataSourceProtocol) :
    Except Fault CANDataSource :=
  if networkProtocol ≠ .rawSocket then .ok s
  else .ok { s with decoderDictionary := castCAN dictionary }

theorem CANDataSource.onChangeOfActiveDictionary_ok (s : CANDataSource)
    (dictionary : Option DecoderDictionary) (networkProtocol : VehicleDataSourceProtocol) :
    ∃ s', s.onChangeOfActiveDictionary dictionary networkProtocol = .ok s' := by
  unfold onChangeOfActiveDictionary
  split_ifs <;> exact ⟨_, rfl⟩

/-! ## `MyBlobDataSource` -/

def blobNetworkInterfaceId : String := "MyBlobNetworkInterfaceId"

def blobMessageId : String := "MyBlobMessageId"

structure MyBlobDataSource where
  blobSourceSignalId : Option Nat

/-- `MyBlobDataSource::onChangeOfActiveDictionary`: the cast is dereferenced unchecked. -/
def MyBlobDataSource.onChangeOfActiveDictionary (s : MyBlobDataSource)
    (dictionary : Option DecoderDictionary) (networkProtocol : VehicleDataSourceProtocol) :
    Except Fault MyBlobDataSource :=
  if networkProtocol ≠ .complexData then .ok s else
  let s := { s with blobSourceSignalId := none }
  deref (castComplexData dictionary) >>= fun decoderDictionaryPtr =>
  match decoderDictionaryPtr.complexMessageDecoderMethod.lookup blobNetworkInterfaceId with
  | none => .ok s
  | some decoders =>
    match decoders.lookup blobMessageId with
    | none => .ok s
    | some decoder => .ok { s with blobSourceSignalId := some decoder.signalId }

theorem MyBlobDataSource.onChangeOfActiveDictionary_fault_iff (s : MyBlobDataSource)
    (dictionary : Option DecoderDictionary) (networkProtocol : VehicleDataSourceProtocol) :
    (∃ f, s.onChangeOfActiveDictionary dictionary networkProtocol = .error f) ↔
      networkProtocol = .complexData ∧ castComplexData dictionary = none := by
  unfold onChangeOfActiveDictionary
  by_cases hp : networkProtocol = .complexData
  · cases hc : castComplexData dictionary with
    | none =>
      exact iff_of_true ⟨.nullDereference, by simp [hp, hc, deref, bind, Except.bind]⟩ ⟨hp, rfl⟩
    | some d =>
      simp only [hp, hc, ne_eq, not_true_eq_false, ↓reduceIte, deref, bind, Except.bind,
        reduceCtorEq, and_false, iff_false, not_exists]
      intro f
      split
      · exact nofun
      · split <;> exact nofun
  · simp [hp]

/-! ## `OBDOverCANModule` -/

/-- What `OBDOverCANModule::onChangeOfActiveDictionary` writes: formats by PID, PIDs, a flag. -/
structure OBDOverCANModule where
  decoderDictionary : AList fun _ : Nat => CANMessageFormat
  pidsRequestedByDecoderDict : List Nat
  decoderManifestAvailable : Bool

namespace OBDOverCANModule

def toPID (id : Nat) : Nat := id % 256

/-- `emplace`: a key already present keeps its value. -/
def emplace (pid : Nat) (format : CANMessageFormat) (m : AList fun _ : Nat => CANMessageFormat) :
    AList fun _ : Nat => CANMessageFormat :=
  if pid ∈ m then m else m.insert pid format

/-- One frame of the loop: its format goes in under its PID, requested if one of its signals is. -/
def pidEntry (signalIDsToCollect : List Nat)
    (acc : (AList fun _ : Nat => CANMessageFormat) × List Nat)
    (canMessageDecoderMethod : Nat × CANMessageDecoderMethod) :
    (AList fun _ : Nat => CANMessageFormat) × List Nat :=
  (emplace (toPID canMessageDecoderMethod.1) canMessageDecoderMethod.2.format acc.1,
    if canMessageDecoderMethod.2.format.signals.any (·.signalID ∈ signalIDsToCollect) then
      acc.2 ++ [toPID canMessageDecoderMethod.1]
    else acc.2)

/-- `OBDOverCANModule::onChangeOfActiveDictionary`: the cast and size are checked first. -/
def onChangeOfActiveDictionary (m : OBDOverCANModule) (dictionary : Option DecoderDictionary)
    (networkProtocol : VehicleDataSourceProtocol) : Except Fault OBDOverCANModule :=
  if networkProtocol ≠ .obd then .ok m else
  let m := { m with decoderDictionary := ∅ }
  let canDecoderDictionaryPtr := castCAN dictionary
  if canDecoderDictionaryPtr.isNone then .ok m else
  deref canDecoderDictionaryPtr >>= fun d =>
  if d.canMessageDecoderMethod.entries.length ≠ 1 then .ok m else
  deref d.canMessageDecoderMethod.entries.head? >>= fun channel =>
  let r := channel.2.entries.foldl (pidEntry d.signalIDsToCollect) (m.decoderDictionary, [])
  .ok { decoderDictionary := r.1
        pidsRequestedByDecoderDict := r.2.insertionSort (· ≤ ·)
        decoderManifestAvailable := true }

theorem onChangeOfActiveDictionary_ok (m : OBDOverCANModule)
    (dictionary : Option DecoderDictionary) (networkProtocol : VehicleDataSourceProtocol) :
    ∃ m', m.onChangeOfActiveDictionary dictionary networkProtocol = .ok m' := by
  unfold onChangeOfActiveDictionary
  split_ifs with hp
  · exact ⟨_, rfl⟩
  cases hc : castCAN dictionary with
  | none => exact ⟨_, rfl⟩
  | some d =>
    simp only [Option.isNone_some, Bool.false_eq_true, ↓reduceIte, deref, bind, Except.bind]
    split_ifs with hl
    · exact ⟨_, rfl⟩
    obtain ⟨channel, hch⟩ : ∃ channel, d.canMessageDecoderMethod.entries.head? = some channel := by
      cases h : d.canMessageDecoderMethod.entries with
      | nil => simp [h] at hl
      | cons channel _ => exact ⟨channel, rfl⟩
    simp [hch]

end OBDOverCANModule

/-- **Only the blob handler faults on a null dictionary**, for `COMPLEX_DATA` and a failed cast. -/
theorem onChangeOfActiveDictionary_null_dereference :
    (∀ (s : CANDataSource) dictionary networkProtocol,
      ∃ s', s.onChangeOfActiveDictionary dictionary networkProtocol = .ok s') ∧
    (∀ (m : OBDOverCANModule) dictionary networkProtocol,
      ∃ m', m.onChangeOfActiveDictionary dictionary networkProtocol = .ok m') ∧
    ∀ (s : MyBlobDataSource) dictionary networkProtocol,
      (∃ f, s.onChangeOfActiveDictionary dictionary networkProtocol = .error f) ↔
        networkProtocol = .complexData ∧ castComplexData dictionary = none :=
  ⟨CANDataSource.onChangeOfActiveDictionary_ok, OBDOverCANModule.onChangeOfActiveDictionary_ok,
    MyBlobDataSource.onChangeOfActiveDictionary_fault_iff⟩

end FleetWise
