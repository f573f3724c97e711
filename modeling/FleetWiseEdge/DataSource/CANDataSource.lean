import FleetWiseEdge.DataSource.ActiveDictionary
import Mathlib.Algebra.Group.Int
import Mathlib.Data.String.Basic

/-!
# The receive loop of `CANDataSource`

`CANDataSource::doWork` and `CANDataSource::extractTimestamp`. Each pass of the loop copies
`mDecoderDictionary` under its mutex (whatever the last `onChangeOfActiveDictionary` left there),
sleeps on its signal when the copy is null, reads up to `PARALLEL_RECEIVED_FRAMES_FROM_KERNEL`
frames with `recvmmsg`, and hands each frame to `mConsumer.processMessage` unless the thread has
slept for lack of a dictionary since the kernel queue was last drained (a batch shorter than
`PARALLEL_RECEIVED_FRAMES_FROM_KERNEL`). `lastFrameTime`, `activations`, `mReceivedMessages` and
the timers feed only traces and logs, and are left out.

* `extractTimestamp`; `extractTimestamp_of_ne_pollingTime`: the timestamp of the last
  `SO_TIMESTAMPING` control message, `ts[2]` for hardware and `ts[0]` for software timestamps, or
  the system clock when there is none or it is `0`; `extractTimestamp_eq_zero`: a timestamp is
  `0` only when the system clock is.
* `iteration`, `doWork`: one pass of the loop and a run of passes.
* `draining`: since the last short batch some pass found no dictionary;
  `doWork_wokeUpFromSleep`: this is the flag `wokeUpFromSleep`.
* **`doWork_processMessage`**: every call of `processMessage` carries a dictionary, and a pass
  hands on all its frames exactly when it found a dictionary and the queue is not draining.
-/

namespace FleetWise

namespace CANDataSource

inductive CanTimestampType
  | kernelSoftwareTimestamp
  | kernelHardwareTimestamp
  | pollingTime
deriving DecidableEq, Repr

structure Timespec where
  tvSec : Int
  tvNsec : Int
deriving DecidableEq, Repr

/-- `tv_sec * 1000 + tv_nsec / 1000000`, in `uint64_t`. -/
def Timespec.toMs (ts : Timespec) : Nat :=
  ((ts.tvSec % 2 ^ 64).toNat * 1000 + (ts.tvNsec % 2 ^ 64).toNat / 1000000) % 2 ^ 64

structure ScmTimestamping where
  ts0 : Timespec
  ts2 : Timespec
deriving DecidableEq, Repr

structure Cmsghdr where
  cmsgType : Nat
  data : ScmTimestamping
deriving DecidableEq, Repr

structure CanfdFrame where
  canId : UInt32
  len : UInt8
  data : List UInt8
deriving DecidableEq, Repr

/-- A message of `recvmmsg`: its frame, its control messages, and the system time read for it. -/
structure ReceivedMessage where
  frame : CanfdFrame
  controlMessages : List Cmsghdr
  systemTimeSinceEpochMs : Nat
deriving DecidableEq, Repr

structure ProcessMessage where
  channelId : Nat
  dictionary : Option CANDecoderDictionary
  messageId : UInt32
  data : List UInt8
  dataLength : UInt8
  timestamp : Nat

/-- One pass of the loop: its copy of `mDecoderDictionary` and what `recvmmsg` returned. -/
structure Iteration where
  decoderDictionary : Option CANDecoderDictionary
  received : List ReceivedMessage

structure Loop where
  wokeUpFromSleep : Bool
  processed : List ProcessMessage

section DoWork

variable (channelId : Nat) (timestampTypeToUse : CanTimestampType) (soTimestamping : Nat)
  (parallelReceivedFramesFromKernel : Nat)

/-- One control message of the loop of `extractTimestamp`: `SO_TIMESTAMPING` sets the timestamp. -/
def timestampOf (timestamp : Nat) (currentHeader : Cmsghdr) : Nat :=
  if currentHeader.cmsgType = soTimestamping then
    match timestampTypeToUse with
    | .kernelHardwareTimestamp => currentHeader.data.ts2.toMs
    | .kernelSoftwareTimestamp => currentHeader.data.ts0.toMs
    | .pollingTime => timestamp
  else timestamp

/-- `CANDataSource::extractTimestamp`: the kernel's timestamp, or the system time when it is `0`. -/
def extractTimestamp (msg : ReceivedMessage) : Nat :=
  let timestamp :=
    if timestampTypeToUse ≠ .pollingTime then
      msg.controlMessages.foldl (timestampOf timestampTypeToUse soTimestamping) 0
    else 0
  if timestamp = 0 then msg.systemTimeSinceEpochMs else timestamp

def processMessage (decoderDictionary : Option CANDecoderDictionary) (msg : ReceivedMessage) :
    ProcessMessage :=
  ⟨channelId, decoderDictionary, msg.frame.canId, msg.frame.data, msg.frame.len,
    extractTimestamp timestampTypeToUse soTimestamping msg⟩

/-- One pass of the loop of `CANDataSource::doWork`. -/
def iteration (s : Loop) (it : Iteration) : Loop :=
  let wokeUpFromSleep := if it.decoderDictionary.isNone then true else s.wokeUpFromSleep
  let processed := it.received.foldl (fun processed msg =>
    if !wokeUpFromSleep then
      processed ++ [processMessage channelId timestampTypeToUse soTimestamping it.decoderDictionary msg]
    else processed) s.processed
  ⟨if it.received.length < parallelReceivedFramesFromKernel then false else wokeUpFromSleep,
    processed⟩

def doWork (its : List Iteration) : Loop :=
  its.foldl (iteration channelId timestampTypeToUse soTimestamping parallelReceivedFramesFromKernel)
    ⟨false, []⟩

/-- Since the last pass that read a short batch, some pass found no dictionary. -/
def draining (its : List Iteration) : Bool :=
  (its.reverse.takeWhile fun it => parallelReceivedFramesFromKernel ≤ it.received.length).any
    fun it => it.decoderDictionary.isNone

end DoWork

/-! ## Timestamps -/

section Timestamp

variable {timestampTypeToUse : CanTimestampType} {soTimestamping : Nat}

theorem timestampOf_of_type (hp : timestampTypeToUse ≠ .pollingTime) {h : Cmsghdr}
    (hh : h.cmsgType = soTimestamping) (t : Nat) :
    timestampOf timestampTypeToUse soTimestamping t h =
      timestampOf timestampTypeToUse soTimestamping 0 h := by
  cases timestampTypeToUse <;> simp_all [timestampOf]

theorem foldl_timestampOf (hp : timestampTypeToUse ≠ .pollingTime) :
    ∀ (hs : List Cmsghdr) (t : Nat),
      hs.foldl (timestampOf timestampTypeToUse soTimestamping) t =
        (((hs.filter (·.cmsgType = soTimestamping)).getLast?).map
          (timestampOf timestampTypeToUse soTimestamping 0)).getD t
  | [], _ => rfl
  | h :: hs, t => by
    rw [List.foldl_cons, foldl_timestampOf hp hs, List.filter_cons]
    by_cases hh : h.cmsgType = soTimestamping
    · simp only [hh, decide_True, ↓reduceIte, List.getLast?_cons]
      cases (hs.filter (·.cmsgType = soTimestamping)).getLast? <;>
        simp [timestampOf_of_type hp hh]
    · simp [timestampOf, hh]

theorem extractTimestamp_of_ne_pollingTime (hp : timestampTypeToUse ≠ .pollingTime)
    (msg : ReceivedMessage) :
    extractTimestamp timestampTypeToUse soTimestamping msg =
      let timestamp := (((msg.controlMessages.filter (·.cmsgType = soTimestamping)).getLast?).map
        (timestampOf timestampTypeToUse soTimestamping 0)).getD 0
      if timestamp = 0 then msg.systemTimeSinceEpochMs else timestamp := by
  simp only [extractTimestamp, hp, ne_eq, not_false_eq_true, ↓reduceIte, foldl_timestampOf hp]

theorem extractTimestamp_eq_zero (msg : ReceivedMessage)
    (h : extractTimestamp timestampTypeToUse soTimestamping msg = 0) :
    msg.systemTimeSinceEpochMs = 0 := by
  revert h
  unfold extractTimestamp
  dsimp only
  split_ifs <;> omega

end Timestamp

/-! ## The loop -/

section Loop

variable {channelId : Nat} {timestampTypeToUse : CanTimestampType} {soTimestamping : Nat}
  {parallelReceivedFramesFromKernel : Nat}

theorem foldl_processMessage (wokeUpFromSleep : Bool) (d : Option CANDecoderDictionary) :
    ∀ (msgs : List ReceivedMessage) (processed : List ProcessMessage),
      msgs.foldl (fun processed msg =>
        if !wokeUpFromSleep then
          processed ++ [processMessage channelId timestampTypeToUse soTimestamping d msg]
        else processed) processed =
      processed ++ if wokeUpFromSleep then [] else
        msgs.map (processMessage channelId timestampTypeToUse soTimestamping d)
  | [], _ => by simp
  | msg :: msgs, processed => by
    rw [List.foldl_cons, foldl_processMessage wokeUpFromSleep d msgs]
    cases wokeUpFromSleep <;> simp

theorem iteration_eq (s : Loop) (it : Iteration) :
    iteration channelId timestampTypeToUse soTimestamping parallelReceivedFramesFromKernel s it =
      ⟨!decide (it.received.length < parallelReceivedFramesFromKernel) &&
          (it.decoderDictionary.isNone || s.wokeUpFromSleep),
        s.processed ++ if it.decoderDictionary.isSome && !s.wokeUpFromSleep then
          it.received.map (processMessage channelId timestampTypeToUse soTimestamping it.decoderDictionary)
        else []⟩ := by
  simp only [iteration, foldl_processMessage]
  cases hd : it.decoderDictionary <;> cases s.wokeUpFromSleep <;>
    by_cases hl : it.received.length < parallelReceivedFramesFromKernel <;> simp [hl]

theorem doWork_append (its : List Iteration) (it : Iteration) :
    doWork channelId timestampTypeToUse soTimestamping parallelReceivedFramesFromKernel (its ++ [it]) =
      iteration channelId timestampTypeToUse soTimestamping parallelReceivedFramesFromKernel
        (doWork channelId timestampTypeToUse soTimestamping parallelReceivedFramesFromKernel its) it :=
  List.foldl_append _ _ _ _

/-- **`wokeUpFromSleep` is up exactly while the queue drains** after a pass found no dictionary. -/
theorem doWork_wokeUpFromSleep (its : List Iteration) :
    (doWork channelId timestampTypeToUse soTimestamping parallelReceivedFramesFromKernel
      its).wokeUpFromSleep = draining parallelReceivedFramesFromKernel its := by
  induction its using List.reverseRecOn with
  | nil => rfl
  | append_singleton its it ih =>
    rw [doWork_append, iteration_eq, ih]
    simp only [draining, List.reverse_append, List.reverse_singleton, List.singleton_append,
      List.takeWhile_cons]
    by_cases hl : it.received.length < parallelReceivedFramesFromKernel
    · simp [hl]
    · simp [hl, Nat.le_of_not_lt hl]

/-- **What `processMessage` receives**: a non-null dictionary, and a pass's frames all or none. -/
theorem doWork_processMessage (its : List Iteration) (it : Iteration) :
    (∀ c ∈ (doWork channelId timestampTypeToUse soTimestamping parallelReceivedFramesFromKernel
      its).processed, c.dictionary.isSome) ∧
    (doWork channelId timestampTypeToUse soTimestamping parallelReceivedFramesFromKernel
      (its ++ [it])).processed =
      (doWork channelId timestampTypeToUse soTimestamping parallelReceivedFramesFromKernel
        its).processed ++
        if it.decoderDictionary.isSome && !draining parallelReceivedFramesFromKernel its then
          it.received.map (processMessage channelId timestampTypeToUse soTimestamping
            it.decoderDictionary)
        else [] := by
  refine ⟨?_, by rw [doWork_append, iteration_eq, doWork_wokeUpFromSleep]⟩
  induction its using List.reverseRecOn with
  | nil => simp [doWork]
  | append_singleton its it' ih =>
    intro c hc
    rw [doWork_append, iteration_eq] at hc
    simp only [List.mem_append] at hc
    rcases hc with hc | hc
    · exact ih c hc
    · split_ifs at hc with hcond
      · obtain ⟨msg, -, rfl⟩ := List.mem_map.mp hc
        exact (Bool.and_eq_true _ _ ▸ hcond).1
      · simp at hc

end Loop

end CANDataSource

end FleetWise
