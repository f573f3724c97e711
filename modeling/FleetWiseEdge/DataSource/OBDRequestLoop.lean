import FleetWiseEdge.DataSource.OBDOverCANModule
import Mathlib.Algebra.BigOperators.Group.List
import Mathlib.Algebra.Order.Ring.Nat
import Mathlib.Algebra.Group.Int
import Mathlib.Data.String.Basic

/-!
# The request loop of `OBDOverCANModule::doWork`

Once the ECUs are detected, `doWork` (`OBDOverCANModule.cpp`) loops: it clears
`mDecoderManifestAvailable`; when `mPIDTimer` is due it resets it and, with a non-empty
`mDecoderDictionary`, acquires the supported PIDs of the ECUs (once, resetting the timer again)
and requests the emission PIDs; when `mDTCTimer` is due it resets it and, with
`mShouldRequestDTCs` set, requests the DTCs and pushes a `DTCInfo` if an ECU answered; then it
waits for the next due timer. On other threads `onChangeOfActiveDictionary` writes the dictionary
under `mDecoderDictMutex` and, for a dictionary that passes its checks, calls `assignPIDsToECUs`,
and `onChangeInspectionMatrix` stores `mShouldRequestDTCs`. Each part of
a cycle reads the shared state once, so a run is any interleaving of the parts and the handlers'
calls.

A `Timer` is the steady-clock reading of its last `reset()`: `getElapsedMs` is the distance to the
clock and `getElapsedSeconds` truncates it to seconds. The requests to the single ECUs are one
action per cycle.

* **`cycleWait_spec`**: the loop does not wait when a request is overdue, never waits past the
  next due request, and waits `0xFFFFFFFF` ms when both intervals are `0`.
* **`runLoop_spaced`**: over every interleaving with a monotone clock, emission PID requests are
  at least `mPIDRequestIntervalSeconds` apart, and DTC requests `mDTCRequestIntervalSeconds`.
* **`runLoop_pidActions`**: every emission request follows an `assignPIDsToECUs` with no call for
  `OBD` in between.
* **`runLoop_latest`**: a due cycle requests PIDs exactly when the latest OBD dictionary left
  PIDs, and DTCs exactly when the latest inspection matrix asks for active DTCs.
* **`flush_calls`**: `flush` gives each call of the other ECUs the budget left of
  `P2_TIMEOUT_DEFAULT_MS`.
-/

namespace FleetWise

namespace OBDOverCANModule

open DecoderDictionary

structure ConditionWithCollectedData where
  includeActiveDtcs : Bool
deriving DecidableEq, Repr

structure InspectionMatrix where
  conditions : List ConditionWithCollectedData
deriving DecidableEq, Repr

/-- `onChangeInspectionMatrix`: a matrix sets `mShouldRequestDTCs`; `nullptr` leaves it. -/
def onChangeInspectionMatrix (shouldRequestDTCs : Bool) : Option InspectionMatrix → Bool
  | none => shouldRequestDTCs
  | some inspectionMatrix => inspectionMatrix.conditions.any (·.includeActiveDtcs)

def int64Max : Int := 2 ^ 63 - 1

/-- `calcSleepTime`: an enabled timer lowers the sleep time to the time until its next request. -/
def calcSleepTime (requestIntervalSeconds timer now : Nat) (outputSleepTime : Int) : Int :=
  if requestIntervalSeconds > 0 then
    let sleepTime := (requestIntervalSeconds : Int) * 1000 - ((now - timer : Nat) : Int)
    if sleepTime < outputSleepTime then sleepTime else outputSleepTime
  else outputSleepTime

def due (requestIntervalSeconds timer now : Nat) : Bool :=
  requestIntervalSeconds > 0 && (now - timer) / 1000 ≥ requestIntervalSeconds

/-- What the loop does: assign the PIDs, request PIDs or DTCs, push a `DTCInfo`, wait. -/
inductive Action
  | assignPIDsToECUs
  | requestReceiveEmissionPIDs (time : Nat)
  | getDTCData (time : Nat)
  | pushDTCInfo (receiveTime : Nat)
  | wait (waitTimeMs : Option Nat)
deriving DecidableEq, Repr

/-- A part of a cycle with its clock readings and the ECUs' answers, or a call of a handler. -/
inductive Event
  | decoderManifest
  | pidCycle (now resetTime assignTime : Nat)
  | dtcCycle (now resetTime systemTime : Nat) (dtcData : List Bool)
  | sleep (pidNow dtcNow : Nat)
  | onChangeOfActiveDictionary (dictionary : Option DecoderDictionary)
      (networkProtocol : VehicleDataSourceProtocol)
  | onChangeInspectionMatrix (inspectionMatrix : Option InspectionMatrix)

/-- The loop's state: the handlers' fields, the timers, `hasAcquiredSupportedPIDs`, its actions. -/
structure RequestLoop where
  module : OBDOverCANModule
  shouldRequestDTCs : Bool
  pidTimer : Nat
  dtcTimer : Nat
  hasAcquiredSupportedPIDs : Bool
  actions : List Action

def loopStart (module : OBDOverCANModule) (shouldRequestDTCs : Bool) (dtcStart pidStart : Nat) :
    RequestLoop :=
  ⟨module, shouldRequestDTCs, pidStart, dtcStart, false, []⟩

section Loop

variable (pidRequestIntervalSeconds dtcRequestIntervalSeconds : Nat)

/-- The PID part of a cycle. -/
def pidCycle (s : RequestLoop) (now resetTime assignTime : Nat) : RequestLoop :=
  if due pidRequestIntervalSeconds s.pidTimer now then
    let s := { s with pidTimer := resetTime }
    if requestsPIDs s.module then
      let s := if !s.hasAcquiredSupportedPIDs then
        { s with hasAcquiredSupportedPIDs := true, pidTimer := assignTime,
                 actions := s.actions ++ [.assignPIDsToECUs] }
      else s
      { s with actions := s.actions ++ [.requestReceiveEmissionPIDs now] }
    else s
  else s

/-- The DTC part of a cycle: `DTCInfo` is pushed when one ECU answered. -/
def dtcCycle (s : RequestLoop) (now resetTime systemTime : Nat) (dtcData : List Bool) :
    RequestLoop :=
  if due dtcRequestIntervalSeconds s.dtcTimer now then
    let s := { s with dtcTimer := resetTime }
    if s.shouldRequestDTCs then
      { s with actions := s.actions ++
          .getDTCData now :: if dtcData.any id then [.pushDTCInfo systemTime] else [] }
    else s
  else s

/-- The end of a cycle: no wait when `sleepTime < 0`, else a wait of `sleepTime` as `uint32_t`. -/
def cycleWait (pidTimer dtcTimer pidNow dtcNow : Nat) : Option Nat :=
  let sleepTime := calcSleepTime dtcRequestIntervalSeconds dtcTimer dtcNow
    (calcSleepTime pidRequestIntervalSeconds pidTimer pidNow int64Max)
  if sleepTime < 0 then none else some (sleepTime.toNat % 2 ^ 32)

/-- One event; a handler's call that passes both checks calls `assignPIDsToECUs`. -/
def step (s : RequestLoop) : Event → RequestLoop
  | .decoderManifest =>
    if s.module.decoderManifestAvailable then
      { s with module := { s.module with decoderManifestAvailable := false } }
    else s
  | .pidCycle now resetTime assignTime =>
    pidCycle pidRequestIntervalSeconds s now resetTime assignTime
  | .dtcCycle now resetTime systemTime dtcData =>
    dtcCycle dtcRequestIntervalSeconds s now resetTime systemTime dtcData
  | .sleep pidNow dtcNow =>
    { s with actions := s.actions ++ [.wait (cycleWait pidRequestIntervalSeconds
        dtcRequestIntervalSeconds s.pidTimer s.dtcTimer pidNow dtcNow)] }
  | .onChangeOfActiveDictionary dictionary networkProtocol =>
    match s.module.onChangeOfActiveDictionary dictionary networkProtocol with
    | .ok m =>
      { s with module := m, actions := s.actions ++
          if ValidCall (dictionary, networkProtocol) then [.assignPIDsToECUs] else [] }
    | .error _ => s
  | .onChangeInspectionMatrix inspectionMatrix =>
    { s with shouldRequestDTCs := onChangeInspectionMatrix s.shouldRequestDTCs inspectionMatrix }

def runLoop (s : RequestLoop) (es : List Event) : RequestLoop :=
  es.foldl (step pidRequestIntervalSeconds dtcRequestIntervalSeconds) s

end Loop

def cycleEvents (pidNow pidReset assignTime dtcNow dtcReset systemTime : Nat)
    (dtcData : List Bool) (sleepPid sleepDtc : Nat) : List Event :=
  [.decoderManifest, .pidCycle pidNow pidReset assignTime,
    .dtcCycle dtcNow dtcReset systemTime dtcData, .sleep sleepPid sleepDtc]

def Event.readings : Event → List Nat
  | .pidCycle now resetTime assignTime => [now, resetTime, assignTime]
  | .dtcCycle now resetTime _ _ => [now, resetTime]
  | .sleep pidNow dtcNow => [pidNow, dtcNow]
  | _ => []

def clockReadings (es : List Event) : List Nat :=
  es.flatMap Event.readings

def pidRequestTimes (actions : List Action) : List Nat :=
  actions.filterMap fun
    | .requestReceiveEmissionPIDs time => some time
    | _ => none

def dtcRequestTimes (actions : List Action) : List Nat :=
  actions.filterMap fun
    | .getDTCData time => some time
    | _ => none

/-- The dictionary of a call of `onChangeOfActiveDictionary` for `OBD`. -/
def dictionaryCallOf : Event → Option (Option DecoderDictionary)
  | .onChangeOfActiveDictionary dictionary .obd => some dictionary
  | _ => none

/-- Whether a dictionary leaves PIDs: a CAN dictionary with one channel that has a frame. -/
def hasPIDs : Option DecoderDictionary → Bool
  | some (.can d) =>
    match d.canMessageDecoderMethod.entries with
    | [channel] => !channel.2.entries.isEmpty
    | _ => false
  | _ => false

def inspectionMatrixOf : Event → Option InspectionMatrix
  | .onChangeInspectionMatrix (some inspectionMatrix) => some inspectionMatrix
  | _ => none

/-- Whether PIDs are requested after the events: by the latest `OBD` dictionary, else at start. -/
def latestHasPIDs (module : OBDOverCANModule) (es : List Event) : Bool :=
  ((es.filterMap dictionaryCallOf).getLast?.map hasPIDs).getD (requestsPIDs module)

/-- Whether DTCs are requested after the events: by the latest matrix, else the start's flag. -/
def latestRequestsDTCs (shouldRequestDTCs : Bool) (es : List Event) : Bool :=
  ((es.filterMap inspectionMatrixOf).getLast?.map fun inspectionMatrix =>
    inspectionMatrix.conditions.any (·.includeActiveDtcs)).getD shouldRequestDTCs

/-! ## Timers and the wait -/

theorem due_iff {requestIntervalSeconds timer now : Nat} :
    due requestIntervalSeconds timer now = true ↔
      0 < requestIntervalSeconds ∧ timer + requestIntervalSeconds * 1000 ≤ now := by
  rw [due, Bool.and_eq_true, decide_eq_true_iff, decide_eq_true_iff, ge_iff_le,
    Nat.le_div_iff_mul_le (by decide)]
  omega

theorem calcSleepTime_spec (requestIntervalSeconds timer now : Nat) (outputSleepTime : Int) :
    calcSleepTime requestIntervalSeconds timer now outputSleepTime ≤ outputSleepTime ∧
      (0 < requestIntervalSeconds → calcSleepTime requestIntervalSeconds timer now outputSleepTime ≤
        requestIntervalSeconds * 1000 - ((now - timer : Nat) : Int)) ∧
      (calcSleepTime requestIntervalSeconds timer now outputSleepTime < 0 ↔
        (0 < requestIntervalSeconds ∧ timer + requestIntervalSeconds * 1000 < now) ∨
          outputSleepTime < 0) ∧
      (requestIntervalSeconds = 0 →
        calcSleepTime requestIntervalSeconds timer now outputSleepTime = outputSleepTime) := by
  simp only [calcSleepTime]
  split_ifs <;> omega

section Wait

variable (pidRequestIntervalSeconds dtcRequestIntervalSeconds : Nat)

/-- **The wait of a cycle** ends by the next request of an enabled timer, and is none if overdue. -/
theorem cycleWait_spec (pidTimer dtcTimer pidNow dtcNow : Nat) :
    (cycleWait pidRequestIntervalSeconds dtcRequestIntervalSeconds pidTimer dtcTimer pidNow
        dtcNow = none ↔
      (0 < pidRequestIntervalSeconds ∧ pidTimer + pidRequestIntervalSeconds * 1000 < pidNow) ∨
        (0 < dtcRequestIntervalSeconds ∧ dtcTimer + dtcRequestIntervalSeconds * 1000 < dtcNow)) ∧
    ∀ w, cycleWait pidRequestIntervalSeconds dtcRequestIntervalSeconds pidTimer dtcTimer pidNow
        dtcNow = some w →
      (0 < pidRequestIntervalSeconds → pidNow + w ≤ pidTimer + pidRequestIntervalSeconds * 1000) ∧
      (0 < dtcRequestIntervalSeconds → dtcNow + w ≤ dtcTimer + dtcRequestIntervalSeconds * 1000) ∧
      (pidRequestIntervalSeconds = 0 → dtcRequestIntervalSeconds = 0 → w = 0xFFFFFFFF) := by
  have hmax : int64Max = 2 ^ 63 - 1 := rfl
  obtain ⟨-, hp2, hp3, hp4⟩ :=
    calcSleepTime_spec pidRequestIntervalSeconds pidTimer pidNow int64Max
  obtain ⟨hd1, hd2, hd3, hd4⟩ := calcSleepTime_spec dtcRequestIntervalSeconds dtcTimer dtcNow
    (calcSleepTime pidRequestIntervalSeconds pidTimer pidNow int64Max)
  simp only [cycleWait]
  generalize calcSleepTime pidRequestIntervalSeconds pidTimer pidNow int64Max = y at *
  generalize calcSleepTime dtcRequestIntervalSeconds dtcTimer dtcNow y = x at *
  refine ⟨?_, fun w hw => ?_⟩
  · clear hp2 hp4 hd1 hd2 hd4
    split_ifs <;> simp <;> omega
  · clear hp3 hd3
    split_ifs at hw
    cases hw
    omega

end Wait

/-! ## The parts of a cycle -/

section Parts

variable {pidRequestIntervalSeconds dtcRequestIntervalSeconds : Nat} {s : RequestLoop}
  {now resetTime assignTime systemTime : Nat} {dtcData : List Bool}

@[simp] theorem pidCycle_module :
    (pidCycle pidRequestIntervalSeconds s now resetTime assignTime).module = s.module := by
  simp only [pidCycle]; split_ifs <;> rfl

@[simp] theorem pidCycle_shouldRequestDTCs :
    (pidCycle pidRequestIntervalSeconds s now resetTime assignTime).shouldRequestDTCs =
      s.shouldRequestDTCs := by
  simp only [pidCycle]; split_ifs <;> rfl

@[simp] theorem pidCycle_dtcTimer :
    (pidCycle pidRequestIntervalSeconds s now resetTime assignTime).dtcTimer = s.dtcTimer := by
  simp only [pidCycle]; split_ifs <;> rfl

theorem pidCycle_pidTimer :
    (pidCycle pidRequestIntervalSeconds s now resetTime assignTime).pidTimer =
      if due pidRequestIntervalSeconds s.pidTimer now then
        if requestsPIDs s.module && !s.hasAcquiredSupportedPIDs then assignTime else resetTime
      else s.pidTimer := by
  simp only [pidCycle]; split_ifs <;> simp_all

theorem pidCycle_hasAcquiredSupportedPIDs :
    (pidCycle pidRequestIntervalSeconds s now resetTime assignTime).hasAcquiredSupportedPIDs =
      (s.hasAcquiredSupportedPIDs ||
        due pidRequestIntervalSeconds s.pidTimer now && requestsPIDs s.module) := by
  simp only [pidCycle]; split_ifs <;> simp_all

theorem pidCycle_actions :
    (pidCycle pidRequestIntervalSeconds s now resetTime assignTime).actions = s.actions ++
      if due pidRequestIntervalSeconds s.pidTimer now && requestsPIDs s.module then
        (if s.hasAcquiredSupportedPIDs then [] else [.assignPIDsToECUs]) ++
          [.requestReceiveEmissionPIDs now]
      else [] := by
  simp only [pidCycle]; split_ifs <;> simp_all

@[simp] theorem dtcCycle_module :
    (dtcCycle dtcRequestIntervalSeconds s now resetTime systemTime dtcData).module = s.module := by
  simp only [dtcCycle]; split_ifs <;> rfl

@[simp] theorem dtcCycle_shouldRequestDTCs :
    (dtcCycle dtcRequestIntervalSeconds s now resetTime systemTime dtcData).shouldRequestDTCs =
      s.shouldRequestDTCs := by
  simp only [dtcCycle]; split_ifs <;> rfl

@[simp] theorem dtcCycle_pidTimer :
    (dtcCycle dtcRequestIntervalSeconds s now resetTime systemTime dtcData).pidTimer =
      s.pidTimer := by
  simp only [dtcCycle]; split_ifs <;> rfl

@[simp] theorem dtcCycle_hasAcquiredSupportedPIDs :
    (dtcCycle dtcRequestIntervalSeconds s now resetTime systemTime dtcData).hasAcquiredSupportedPIDs =
      s.hasAcquiredSupportedPIDs := by
  simp only [dtcCycle]; split_ifs <;> rfl

theorem dtcCycle_dtcTimer :
    (dtcCycle dtcRequestIntervalSeconds s now resetTime systemTime dtcData).dtcTimer =
      if due dtcRequestIntervalSeconds s.dtcTimer now then resetTime else s.dtcTimer := by
  simp only [dtcCycle]; split_ifs <;> rfl

theorem dtcCycle_actions :
    (dtcCycle dtcRequestIntervalSeconds s now resetTime systemTime dtcData).actions = s.actions ++
      if due dtcRequestIntervalSeconds s.dtcTimer now && s.shouldRequestDTCs then
        .getDTCData now :: if dtcData.any id then [.pushDTCInfo systemTime] else []
      else [] := by
  simp only [dtcCycle]; split_ifs <;> simp_all

end Parts

/-! ## The dictionary handler -/

theorem emplace_entries_ne_nil (pid : Nat) (format : CANMessageFormat)
    (m : AList fun _ : Nat => CANMessageFormat) : (emplace pid format m).entries ≠ [] := by
  unfold emplace
  split_ifs with h
  · intro he
    rw [AList.mem_keys, AList.keys, he] at h
    simp at h
  · simp [AList.insert_entries]

theorem foldl_pidEntry_isEmpty (signalIDsToCollect : List Nat) :
    ∀ (l : List (Nat × CANMessageDecoderMethod)) (D : AList fun _ : Nat => CANMessageFormat)
      (R : List Nat), (l.foldl (pidEntry signalIDsToCollect) (D, R)).1.entries.isEmpty =
        (D.entries.isEmpty && l.isEmpty)
  | [], D, R => by simp
  | e :: l, D, R => by
    rw [List.foldl_cons, pidEntry, foldl_pidEntry_isEmpty signalIDsToCollect l]
    simp [List.isEmpty_iff, emplace_entries_ne_nil]

theorem requestsPIDs_of_ok {m m' : OBDOverCANModule} {dictionary : Option DecoderDictionary}
    (h : m.onChangeOfActiveDictionary dictionary .obd = .ok m') :
    requestsPIDs m' = hasPIDs dictionary := by
  have hinv : ¬ ValidCall (dictionary, .obd) → requestsPIDs m' = false := fun hv => by
    rw [onChangeOfActiveDictionary_invalid m dictionary hv] at h
    cases h
    rfl
  rcases dictionary with _ | (d | _ | d)
  · exact hinv (by simp [ValidCall, castCAN])
  · rcases hch : d.canMessageDecoderMethod.entries with _ | ⟨channel, _ | ⟨c, l⟩⟩
    · simpa [hasPIDs, hch] using hinv (by simp [ValidCall, castCAN, hch])
    · rw [onChangeOfActiveDictionary_one_channel m hch] at h
      cases h
      simp [requestsPIDs, hasPIDs, hch, foldl_pidEntry_isEmpty]
    · simpa [hasPIDs, hch] using hinv (by simp [ValidCall, castCAN, hch])
  · exact hinv (by simp [ValidCall, castCAN])
  · exact hinv (by simp [ValidCall, castCAN])

/-! ## Runs -/

section Runs

variable (pidRequestIntervalSeconds dtcRequestIntervalSeconds : Nat)

theorem runLoop_concat (s : RequestLoop) (es : List Event) (e : Event) :
    runLoop pidRequestIntervalSeconds dtcRequestIntervalSeconds s (es ++ [e]) =
      step pidRequestIntervalSeconds dtcRequestIntervalSeconds
        (runLoop pidRequestIntervalSeconds dtcRequestIntervalSeconds s es) e :=
  List.foldl_concat _ _ _ _

theorem step_onChangeOfActiveDictionary (s : RequestLoop) (dictionary : Option DecoderDictionary)
    (networkProtocol : VehicleDataSourceProtocol) :
    ∃ m, s.module.onChangeOfActiveDictionary dictionary networkProtocol = .ok m ∧
      step pidRequestIntervalSeconds dtcRequestIntervalSeconds s
        (.onChangeOfActiveDictionary dictionary networkProtocol) =
        { s with module := m, actions := s.actions ++
            if ValidCall (dictionary, networkProtocol) then [.assignPIDsToECUs] else [] } := by
  obtain ⟨m, hm⟩ := s.module.onChangeOfActiveDictionary_ok dictionary networkProtocol
  exact ⟨m, hm, by simp only [step, hm]⟩

theorem requestsPIDs_runLoop (s : RequestLoop) (es : List Event) :
    requestsPIDs (runLoop pidRequestIntervalSeconds dtcRequestIntervalSeconds s es).module =
      latestHasPIDs s.module es := by
  induction es using List.reverseRecOn with
  | nil => simp [runLoop, latestHasPIDs]
  | append_singleton es e ih =>
    rw [runLoop_concat]
    cases e with
    | onChangeOfActiveDictionary dictionary networkProtocol =>
      obtain ⟨m, hm, hstep⟩ := step_onChangeOfActiveDictionary pidRequestIntervalSeconds
        dtcRequestIntervalSeconds (runLoop pidRequestIntervalSeconds dtcRequestIntervalSeconds s es)
        dictionary networkProtocol
      rw [hstep]
      by_cases hp : networkProtocol = .obd
      · subst hp
        simp [latestHasPIDs, List.filterMap_append, dictionaryCallOf, requestsPIDs_of_ok hm]
      · rw [onChangeOfActiveDictionary_other _ _ hp] at hm
        cases hm
        cases networkProtocol <;> simp_all [latestHasPIDs, List.filterMap_append, dictionaryCallOf]
    | decoderManifest =>
      simp only [step]
      split_ifs <;> simpa [latestHasPIDs, List.filterMap_append, dictionaryCallOf, requestsPIDs]
        using ih
    | _ => simpa [step, latestHasPIDs, List.filterMap_append, dictionaryCallOf] using ih

theorem shouldRequestDTCs_runLoop (s : RequestLoop) (es : List Event) :
    (runLoop pidRequestIntervalSeconds dtcRequestIntervalSeconds s es).shouldRequestDTCs =
      latestRequestsDTCs s.shouldRequestDTCs es := by
  induction es using List.reverseRecOn with
  | nil => simp [runLoop, latestRequestsDTCs]
  | append_singleton es e ih =>
    rw [runLoop_concat]
    cases e with
    | onChangeOfActiveDictionary dictionary networkProtocol =>
      obtain ⟨m, -, hstep⟩ := step_onChangeOfActiveDictionary pidRequestIntervalSeconds
        dtcRequestIntervalSeconds (runLoop pidRequestIntervalSeconds dtcRequestIntervalSeconds s es)
        dictionary networkProtocol
      simpa [hstep, latestRequestsDTCs, List.filterMap_append, inspectionMatrixOf] using ih
    | onChangeInspectionMatrix inspectionMatrix =>
      cases inspectionMatrix <;>
        simp_all [step, latestRequestsDTCs, List.filterMap_append, inspectionMatrixOf,
          onChangeInspectionMatrix]
    | decoderManifest =>
      simp only [step]
      split_ifs <;> simpa [latestRequestsDTCs, List.filterMap_append, inspectionMatrixOf] using ih
    | _ => simpa [step, latestRequestsDTCs, List.filterMap_append, inspectionMatrixOf] using ih

/-- **The handlers' latest call decides** whether a due part requests PIDs or DTCs. -/
theorem runLoop_latest (s : RequestLoop) (es : List Event) :
    (∀ now resetTime assignTime, pidRequestTimes (runLoop pidRequestIntervalSeconds
        dtcRequestIntervalSeconds s (es ++ [.pidCycle now resetTime assignTime])).actions =
      pidRequestTimes (runLoop pidRequestIntervalSeconds dtcRequestIntervalSeconds s es).actions ++
        if due pidRequestIntervalSeconds
            (runLoop pidRequestIntervalSeconds dtcRequestIntervalSeconds s es).pidTimer now &&
          latestHasPIDs s.module es then [now] else []) ∧
    ∀ now resetTime systemTime dtcData, dtcRequestTimes (runLoop pidRequestIntervalSeconds
        dtcRequestIntervalSeconds s (es ++ [.dtcCycle now resetTime systemTime dtcData])).actions =
      dtcRequestTimes (runLoop pidRequestIntervalSeconds dtcRequestIntervalSeconds s es).actions ++
        if due dtcRequestIntervalSeconds
            (runLoop pidRequestIntervalSeconds dtcRequestIntervalSeconds s es).dtcTimer now &&
          latestRequestsDTCs s.shouldRequestDTCs es then [now] else [] := by
  refine ⟨fun now resetTime assignTime => ?_, fun now resetTime systemTime dtcData => ?_⟩
  · rw [runLoop_concat, step, pidCycle_actions, requestsPIDs_runLoop]
    split_ifs <;> simp [pidRequestTimes, List.filterMap_append]
  · rw [runLoop_concat, step, dtcCycle_actions, shouldRequestDTCs_runLoop]
    split_ifs <;> simp [dtcRequestTimes, List.filterMap_append]

/-! ### Spacing -/

def SpacedBy (k timer : Nat) (times : List Nat) : Prop :=
  times.Sorted (fun a b => a + k ≤ b) ∧ ∀ t ∈ times, t ≤ timer

theorem SpacedBy.part {k timer timer' : Nat} (now : Nat) {times new : List Nat}
    (h : SpacedBy k timer times)
    (hpart : (timer' = timer ∧ new = []) ∨
      (timer + k ≤ now ∧ now ≤ timer' ∧ (new = [] ∨ new = [now]))) :
    SpacedBy k timer' (times ++ new) := by
  rcases hpart with ⟨rfl, rfl⟩ | ⟨hdue, hnow, rfl | rfl⟩
  · simpa using h
  · exact ⟨by simpa using h.1, fun t ht => by have := h.2 t (by simpa using ht); omega⟩
  · refine ⟨List.pairwise_append.mpr ⟨h.1, List.pairwise_singleton _ _, fun a ha b hb => ?_⟩,
      fun t ht => ?_⟩
    · have := h.2 a ha
      rw [List.mem_singleton] at hb
      omega
    · rcases List.mem_append.mp ht with ht | ht
      · have := h.2 t ht
        omega
      · rw [List.mem_singleton] at ht
        omega

/-- Requests of each kind spaced by its interval after its start, none with a zero interval. -/
structure Spaced (pidStart dtcStart : Nat) (s : RequestLoop) : Prop where
  pid : SpacedBy (pidRequestIntervalSeconds * 1000) s.pidTimer
    (pidStart :: pidRequestTimes s.actions)
  dtc : SpacedBy (dtcRequestIntervalSeconds * 1000) s.dtcTimer
    (dtcStart :: dtcRequestTimes s.actions)
  pid_off : pidRequestIntervalSeconds = 0 → pidRequestTimes s.actions = []
  dtc_off : dtcRequestIntervalSeconds = 0 → dtcRequestTimes s.actions = []

section Spacing

variable {pidRequestIntervalSeconds dtcRequestIntervalSeconds pidStart dtcStart : Nat}
  {s : RequestLoop}

theorem Spaced.congr {s' : RequestLoop}
    (h : Spaced pidRequestIntervalSeconds dtcRequestIntervalSeconds pidStart dtcStart s)
    (hpid : s'.pidTimer = s.pidTimer) (hdtc : s'.dtcTimer = s.dtcTimer)
    (hp : pidRequestTimes s'.actions = pidRequestTimes s.actions)
    (hd : dtcRequestTimes s'.actions = dtcRequestTimes s.actions) :
    Spaced pidRequestIntervalSeconds dtcRequestIntervalSeconds pidStart dtcStart s' :=
  ⟨by rw [hpid, hp]; exact h.pid, by rw [hdtc, hd]; exact h.dtc, by rw [hp]; exact h.pid_off,
    by rw [hd]; exact h.dtc_off⟩

theorem spaced_pidCycle {now resetTime assignTime : Nat}
    (h : Spaced pidRequestIntervalSeconds dtcRequestIntervalSeconds pidStart dtcStart s)
    (hr : now ≤ resetTime) (ha : resetTime ≤ assignTime) :
    Spaced pidRequestIntervalSeconds dtcRequestIntervalSeconds pidStart dtcStart
      (pidCycle pidRequestIntervalSeconds s now resetTime assignTime) := by
  have hd : dtcRequestTimes (pidCycle pidRequestIntervalSeconds s now resetTime assignTime).actions
      = dtcRequestTimes s.actions := by
    rw [pidCycle_actions]; split_ifs <;> simp [dtcRequestTimes]
  have hp : pidRequestTimes (pidCycle pidRequestIntervalSeconds s now resetTime assignTime).actions
      = pidRequestTimes s.actions ++
        if due pidRequestIntervalSeconds s.pidTimer now && requestsPIDs s.module then [now]
        else [] := by
    rw [pidCycle_actions]; split_ifs <;> simp [pidRequestTimes]
  refine ⟨?_, by rw [pidCycle_dtcTimer, hd]; exact h.dtc, fun h0 => ?_, by rw [hd]; exact h.dtc_off⟩
  · rw [hp, ← List.cons_append, pidCycle_pidTimer]
    refine SpacedBy.part now h.pid ?_
    by_cases hdue : due pidRequestIntervalSeconds s.pidTimer now
    · refine .inr ⟨(due_iff.mp hdue).2, ?_, ?_⟩
      · simp only [hdue, if_true]; split_ifs <;> omega
      · cases requestsPIDs s.module <;> simp [hdue]
    · exact .inl ⟨by simp [hdue], by simp [hdue]⟩
  · have hoff : due pidRequestIntervalSeconds s.pidTimer now = false := by simp [due, h0]
    rw [hp, hoff, h.pid_off h0]
    rfl

theorem spaced_dtcCycle {now resetTime systemTime : Nat} {dtcData : List Bool}
    (h : Spaced pidRequestIntervalSeconds dtcRequestIntervalSeconds pidStart dtcStart s)
    (hr : now ≤ resetTime) :
    Spaced pidRequestIntervalSeconds dtcRequestIntervalSeconds pidStart dtcStart
      (dtcCycle dtcRequestIntervalSeconds s now resetTime systemTime dtcData) := by
  have hp : pidRequestTimes
      (dtcCycle dtcRequestIntervalSeconds s now resetTime systemTime dtcData).actions =
      pidRequestTimes s.actions := by
    rw [dtcCycle_actions]; split_ifs <;> simp [pidRequestTimes]
  have hd : dtcRequestTimes
      (dtcCycle dtcRequestIntervalSeconds s now resetTime systemTime dtcData).actions =
      dtcRequestTimes s.actions ++
        if due dtcRequestIntervalSeconds s.dtcTimer now && s.shouldRequestDTCs then [now]
        else [] := by
    rw [dtcCycle_actions]; split_ifs <;> simp [dtcRequestTimes]
  refine ⟨by rw [dtcCycle_pidTimer, hp]; exact h.pid, ?_, by rw [hp]; exact h.pid_off,
    fun h0 => ?_⟩
  · rw [hd, ← List.cons_append, dtcCycle_dtcTimer]
    refine SpacedBy.part now h.dtc ?_
    by_cases hdue : due dtcRequestIntervalSeconds s.dtcTimer now
    · exact .inr ⟨(due_iff.mp hdue).2, by simp [hdue, hr],
        by cases s.shouldRequestDTCs <;> simp [hdue]⟩
    · exact .inl ⟨by simp [hdue], by simp [hdue]⟩
  · have hoff : due dtcRequestIntervalSeconds s.dtcTimer now = false := by simp [due, h0]
    rw [hd, hoff, h.dtc_off h0]
    rfl

theorem spaced_step
    (h : Spaced pidRequestIntervalSeconds dtcRequestIntervalSeconds pidStart dtcStart s)
    (e : Event) (hs : e.readings.Sorted (· ≤ ·)) :
    let s' := step pidRequestIntervalSeconds dtcRequestIntervalSeconds s e
    Spaced pidRequestIntervalSeconds dtcRequestIntervalSeconds pidStart dtcStart s' ∧
      (s'.pidTimer = s.pidTimer ∨ s'.pidTimer ∈ e.readings) ∧
      (s'.dtcTimer = s.dtcTimer ∨ s'.dtcTimer ∈ e.readings) := by
  cases e with
  | decoderManifest =>
    simp only [step]
    split_ifs <;> exact ⟨h.congr rfl rfl rfl rfl, .inl rfl, .inl rfl⟩
  | pidCycle now resetTime assignTime =>
    simp only [Event.readings, List.sorted_cons, List.mem_cons, List.mem_singleton,
      List.not_mem_nil, or_false, forall_eq_or_imp, forall_eq] at hs
    simp only [step]
    refine ⟨spaced_pidCycle h hs.1.1 hs.2.1, ?_, .inl pidCycle_dtcTimer⟩
    rw [pidCycle_pidTimer]
    split_ifs <;> simp [Event.readings]
  | dtcCycle now resetTime systemTime dtcData =>
    simp only [Event.readings, List.sorted_cons, List.mem_cons, List.mem_singleton,
      List.not_mem_nil, or_false, forall_eq_or_imp, forall_eq] at hs
    simp only [step]
    refine ⟨spaced_dtcCycle h hs.1, .inl dtcCycle_pidTimer, ?_⟩
    rw [dtcCycle_dtcTimer]
    split_ifs <;> simp [Event.readings]
  | sleep pidNow dtcNow =>
    exact ⟨h.congr rfl rfl (by simp [step, pidRequestTimes]) (by simp [step, dtcRequestTimes]),
      .inl rfl, .inl rfl⟩
  | onChangeOfActiveDictionary dictionary networkProtocol =>
    obtain ⟨m, -, hstep⟩ := step_onChangeOfActiveDictionary pidRequestIntervalSeconds
      dtcRequestIntervalSeconds s dictionary networkProtocol
    rw [hstep]
    exact ⟨h.congr rfl rfl (by split_ifs <;> simp [pidRequestTimes])
      (by split_ifs <;> simp [dtcRequestTimes]), .inl rfl, .inl rfl⟩
  | onChangeInspectionMatrix inspectionMatrix =>
    exact ⟨h.congr rfl rfl rfl rfl, .inl rfl, .inl rfl⟩

theorem foldl_spaced : ∀ (es : List Event) (s : RequestLoop),
    Spaced pidRequestIntervalSeconds dtcRequestIntervalSeconds pidStart dtcStart s →
    (clockReadings es).Sorted (· ≤ ·) → (∀ x ∈ clockReadings es, s.pidTimer ≤ x ∧ s.dtcTimer ≤ x) →
    Spaced pidRequestIntervalSeconds dtcRequestIntervalSeconds pidStart dtcStart
      (es.foldl (step pidRequestIntervalSeconds dtcRequestIntervalSeconds) s)
  | [], _, h, _, _ => h
  | e :: es, s, h, hs, hr => by
    have hsplit : clockReadings (e :: es) = e.readings ++ clockReadings es := rfl
    rw [hsplit, List.Sorted, List.pairwise_append] at hs
    rw [hsplit] at hr
    obtain ⟨h', hpid, hdtc⟩ := spaced_step h e hs.1
    refine foldl_spaced es _ h' hs.2.1 fun x hx => ⟨?_, ?_⟩
    · rcases hpid with hpid | hpid
      · exact hpid ▸ (hr x (List.mem_append_right _ hx)).1
      · exact hs.2.2 _ hpid x hx
    · rcases hdtc with hdtc | hdtc
      · exact hdtc ▸ (hr x (List.mem_append_right _ hx)).2
      · exact hs.2.2 _ hdtc x hx

end Spacing

/-- **Requests are spaced by their intervals** over every interleaving of monotone clock. -/
theorem runLoop_spaced (module : OBDOverCANModule) (shouldRequestDTCs : Bool)
    (dtcStart pidStart : Nat) (es : List Event)
    (hclk : (dtcStart :: pidStart :: clockReadings es).Sorted (· ≤ ·)) :
    let s := runLoop pidRequestIntervalSeconds dtcRequestIntervalSeconds
      (loopStart module shouldRequestDTCs dtcStart pidStart) es
    (pidStart :: pidRequestTimes s.actions).Sorted
        (fun a b => a + pidRequestIntervalSeconds * 1000 ≤ b) ∧
      (dtcStart :: dtcRequestTimes s.actions).Sorted
        (fun a b => a + dtcRequestIntervalSeconds * 1000 ≤ b) ∧
      (pidRequestIntervalSeconds = 0 → pidRequestTimes s.actions = []) ∧
      (dtcRequestIntervalSeconds = 0 → dtcRequestTimes s.actions = []) := by
  simp only [List.sorted_cons, List.mem_cons, forall_eq_or_imp] at hclk
  have h0 : Spaced pidRequestIntervalSeconds dtcRequestIntervalSeconds pidStart dtcStart
      (loopStart module shouldRequestDTCs dtcStart pidStart) :=
    ⟨⟨List.sorted_singleton _, by simp [loopStart, pidRequestTimes]⟩,
      ⟨List.sorted_singleton _, by simp [loopStart, dtcRequestTimes]⟩,
      fun _ => rfl, fun _ => rfl⟩
  have h := foldl_spaced es _ h0 hclk.2.2 fun x hx => ⟨hclk.2.1 x hx, hclk.1.2 x hx⟩
  exact ⟨h.pid.1, h.dtc.1, h.pid_off, h.dtc_off⟩

/-- A dictionary with PIDs, then two cycles, one and two seconds after a start at `0`. -/
def requestRun : List Event :=
  .onChangeOfActiveDictionary (some (.can obdDictionary)) .obd ::
    (cycleEvents 1000 1000 1001 1002 1002 50 [true] 1003 1003 ++
      cycleEvents 2003 2003 2003 2004 2004 60 [false] 2005 2005)

theorem runLoop_spaced_requestRun :
    (0 :: 0 :: clockReadings requestRun).Sorted (· ≤ ·) ∧
      let s := runLoop 1 2 (loopStart ⟨∅, [], false⟩ true 0 0) requestRun
      (0 :: pidRequestTimes s.actions).Sorted (fun a b => a + 1 * 1000 ≤ b) ∧
        (0 :: dtcRequestTimes s.actions).Sorted (fun a b => a + 2 * 1000 ≤ b) ∧
        (1 = 0 → pidRequestTimes s.actions = []) ∧ (2 = 0 → dtcRequestTimes s.actions = []) :=
  ⟨by decide, runLoop_spaced 1 2 ⟨∅, [], false⟩ true 0 0 requestRun (by decide)⟩

/-! ### PIDs assigned from the current dictionary -/

def added (s : RequestLoop) (e : Event) : List Action :=
  (step pidRequestIntervalSeconds dtcRequestIntervalSeconds s e).actions.drop s.actions.length

theorem added_pidCycle (s : RequestLoop) (now resetTime assignTime : Nat) :
    added pidRequestIntervalSeconds dtcRequestIntervalSeconds s (.pidCycle now resetTime assignTime) =
      if due pidRequestIntervalSeconds s.pidTimer now && requestsPIDs s.module then
        (if s.hasAcquiredSupportedPIDs then [] else [.assignPIDsToECUs]) ++
          [.requestReceiveEmissionPIDs now]
      else [] := by
  rw [added, step, pidCycle_actions, List.drop_left]

theorem added_onChangeOfActiveDictionary (s : RequestLoop) (dictionary : Option DecoderDictionary)
    (networkProtocol : VehicleDataSourceProtocol) :
    added pidRequestIntervalSeconds dtcRequestIntervalSeconds s
        (.onChangeOfActiveDictionary dictionary networkProtocol) =
      if ValidCall (dictionary, networkProtocol) then [.assignPIDsToECUs] else [] := by
  obtain ⟨m, -, hstep⟩ := step_onChangeOfActiveDictionary pidRequestIntervalSeconds
    dtcRequestIntervalSeconds s dictionary networkProtocol
  rw [added, hstep, List.drop_left]

theorem eq_pidCycle_of_request {s : RequestLoop} {e : Event} {t : Nat}
    (h : .requestReceiveEmissionPIDs t ∈ added pidRequestIntervalSeconds dtcRequestIntervalSeconds s e) :
    ∃ now resetTime assignTime, e = .pidCycle now resetTime assignTime ∧
      (due pidRequestIntervalSeconds s.pidTimer now && requestsPIDs s.module) = true := by
  cases e with
  | pidCycle now resetTime assignTime =>
    rw [added_pidCycle] at h
    refine ⟨now, resetTime, assignTime, rfl, ?_⟩
    by_contra hc
    simp [hc] at h
  | dtcCycle now resetTime systemTime dtcData =>
    rw [added, step, dtcCycle_actions, List.drop_left] at h
    split_ifs at h <;> simp at h
  | decoderManifest =>
    rw [added, step] at h
    split_ifs at h <;> simp at h
  | onChangeOfActiveDictionary dictionary networkProtocol =>
    rw [added_onChangeOfActiveDictionary] at h
    split_ifs at h <;> simp at h
  | sleep | onChangeInspectionMatrix => simp [added, step] at h

theorem step_frame {s : RequestLoop} {e : Event}
    (ha : .assignPIDsToECUs ∉ added pidRequestIntervalSeconds dtcRequestIntervalSeconds s e) :
    (step pidRequestIntervalSeconds dtcRequestIntervalSeconds s e).hasAcquiredSupportedPIDs =
        s.hasAcquiredSupportedPIDs ∧
      requestsPIDs (step pidRequestIntervalSeconds dtcRequestIntervalSeconds s e).module =
        (requestsPIDs s.module && (dictionaryCallOf e).isNone) := by
  cases e with
  | pidCycle now resetTime assignTime =>
    rw [added_pidCycle] at ha
    refine ⟨?_, by simp [step, dictionaryCallOf]⟩
    rw [step, pidCycle_hasAcquiredSupportedPIDs]
    cases hs : s.hasAcquiredSupportedPIDs <;> simp_all
  | onChangeOfActiveDictionary dictionary networkProtocol =>
    rw [added_onChangeOfActiveDictionary] at ha
    obtain ⟨m, hm, hstep⟩ := step_onChangeOfActiveDictionary pidRequestIntervalSeconds
      dtcRequestIntervalSeconds s dictionary networkProtocol
    rw [hstep]
    by_cases hp : networkProtocol = .obd
    · subst hp
      rw [onChangeOfActiveDictionary_invalid _ _ (by simpa using ha)] at hm
      cases hm
      simp [dictionaryCallOf, requestsPIDs]
    · rw [onChangeOfActiveDictionary_other _ _ hp] at hm
      cases hm
      cases networkProtocol <;> simp_all [dictionaryCallOf]
  | decoderManifest => simp only [step]; split_ifs <;> simp [dictionaryCallOf, requestsPIDs]
  | dtcCycle | sleep | onChangeInspectionMatrix => simp [step, dictionaryCallOf]

/-- Since the latest `OBD` dictionary call among the events, one has called `assignPIDsToECUs`. -/
def AssignedSince (s₀ : RequestLoop) (es : List Event) : Prop :=
  ∃ pre e mid, es = pre ++ e :: mid ∧
    .assignPIDsToECUs ∈ added pidRequestIntervalSeconds dtcRequestIntervalSeconds
      (runLoop pidRequestIntervalSeconds dtcRequestIntervalSeconds s₀ pre) e ∧
    ∀ x ∈ mid, dictionaryCallOf x = none

theorem AssignedSince.snoc {s₀ : RequestLoop} {es : List Event}
    (h : AssignedSince pidRequestIntervalSeconds dtcRequestIntervalSeconds s₀ es) {e : Event}
    (he : dictionaryCallOf e = none) :
    AssignedSince pidRequestIntervalSeconds dtcRequestIntervalSeconds s₀ (es ++ [e]) := by
  obtain ⟨pre, e', mid, rfl, ha, hmid⟩ := h
  refine ⟨pre, e', mid ++ [e], by simp, ha, fun x hx => ?_⟩
  rcases List.mem_append.mp hx with hx | hx
  exacts [hmid x hx, List.mem_singleton.mp hx ▸ he]

theorem assignedSince_of_mem {s₀ : RequestLoop} {es : List Event} {e : Event}
    (h : .assignPIDsToECUs ∈ added pidRequestIntervalSeconds dtcRequestIntervalSeconds
      (runLoop pidRequestIntervalSeconds dtcRequestIntervalSeconds s₀ es) e) :
    AssignedSince pidRequestIntervalSeconds dtcRequestIntervalSeconds s₀ (es ++ [e]) :=
  ⟨es, e, [], rfl, h, nofun⟩

theorem assignedSince_runLoop {s₀ : RequestLoop} (h₀ : s₀.hasAcquiredSupportedPIDs = false) :
    ∀ es : List Event,
      (runLoop pidRequestIntervalSeconds dtcRequestIntervalSeconds s₀ es).hasAcquiredSupportedPIDs =
        true →
      requestsPIDs (runLoop pidRequestIntervalSeconds dtcRequestIntervalSeconds s₀ es).module = true →
      AssignedSince pidRequestIntervalSeconds dtcRequestIntervalSeconds s₀ es := by
  intro es
  induction es using List.reverseRecOn with
  | nil => intro h; simp [runLoop, h₀] at h
  | append_singleton es e ih =>
    intro hacq hreq
    by_cases ha : .assignPIDsToECUs ∈ added pidRequestIntervalSeconds dtcRequestIntervalSeconds
      (runLoop pidRequestIntervalSeconds dtcRequestIntervalSeconds s₀ es) e
    · exact assignedSince_of_mem _ _ ha
    obtain ⟨h1, h2⟩ := step_frame _ _ ha
    rw [runLoop_concat, h1] at hacq
    rw [runLoop_concat, h2, Bool.and_eq_true, Option.isNone_iff_eq_none] at hreq
    exact (ih hacq hreq.1).snoc _ _ hreq.2

/-- **Each emission request follows an `assignPIDsToECUs`, with no `OBD` dictionary call since.** -/
theorem runLoop_pidActions (module : OBDOverCANModule) (shouldRequestDTCs : Bool)
    (dtcStart pidStart : Nat) (es : List Event) (e : Event) (t : Nat)
    (hreq : .requestReceiveEmissionPIDs t ∈ added pidRequestIntervalSeconds dtcRequestIntervalSeconds
      (runLoop pidRequestIntervalSeconds dtcRequestIntervalSeconds
        (loopStart module shouldRequestDTCs dtcStart pidStart) es) e) :
    ∃ pre e' mid, es ++ [e] = pre ++ e' :: mid ∧
      .assignPIDsToECUs ∈ added pidRequestIntervalSeconds dtcRequestIntervalSeconds
        (runLoop pidRequestIntervalSeconds dtcRequestIntervalSeconds
          (loopStart module shouldRequestDTCs dtcStart pidStart) pre) e' ∧
      ∀ x ∈ mid, dictionaryCallOf x = none := by
  obtain ⟨now, resetTime, assignTime, rfl, hc⟩ := eq_pidCycle_of_request _ _ hreq
  cases hacq : (runLoop pidRequestIntervalSeconds dtcRequestIntervalSeconds
    (loopStart module shouldRequestDTCs dtcStart pidStart) es).hasAcquiredSupportedPIDs
  · apply assignedSince_of_mem
    rw [added_pidCycle, hc, hacq]
    simp
  · exact (assignedSince_runLoop _ _ rfl es hacq ((Bool.and_eq_true _ _).mp hc).2).snoc _ _ rfl

theorem runLoop_pidActions_requestRun :
    Action.requestReceiveEmissionPIDs 2003 ∈ added 1 2
        (runLoop 1 2 (loopStart ⟨∅, [], false⟩ true 0 0) (requestRun.take 6))
        (.pidCycle 2003 2003 2003) ∧
      ∃ pre e' mid, requestRun.take 6 ++ [.pidCycle 2003 2003 2003] = pre ++ e' :: mid ∧
        Action.assignPIDsToECUs ∈ added 1 2 (runLoop 1 2 (loopStart ⟨∅, [], false⟩ true 0 0) pre) e' ∧
        ∀ x ∈ mid, dictionaryCallOf x = none :=
  have h : Action.requestReceiveEmissionPIDs 2003 ∈ added 1 2
      (runLoop 1 2 (loopStart ⟨∅, [], false⟩ true 0 0) (requestRun.take 6))
      (.pidCycle 2003 2003 2003) := by decide
  ⟨h, runLoop_pidActions 1 2 ⟨∅, [], false⟩ true 0 0 _ _ _ h⟩

end Runs

/-! ## `flush` -/

/-- One call `ecu->flush(timeLeftMs)`: the time it needed is taken off the budget, down to `0`. -/
def flushCall (timeNeeded : Nat → Nat) (ecu : Nat) (acc : Nat × List (Nat × Nat)) :
    Nat × List (Nat × Nat) :=
  let timeNeededMs := timeNeeded acc.2.length
  (if timeNeededMs ≥ acc.1 then 0 else acc.1 - timeNeededMs, acc.2 ++ [(ecu, acc.1)])

def flushECU (count exceptECU : Nat) (timeNeeded : Nat → Nat) (acc : Nat × List (Nat × Nat))
    (ecu : Nat) : Nat × List (Nat × Nat) :=
  if ecu = exceptECU then acc
  else (List.range count).foldl (fun acc _ => flushCall timeNeeded ecu acc) acc

/-- `flush`: with broadcast requests, each ECU but `exceptECU` flushes `count` times. -/
def flush (broadcastRequests : Bool) (p2TimeoutDefaultMs : Nat) (ecus : List Nat)
    (count exceptECU : Nat) (timeNeeded : Nat → Nat) : List (Nat × Nat) :=
  if !broadcastRequests then []
  else (ecus.foldl (flushECU count exceptECU timeNeeded) (p2TimeoutDefaultMs, [])).2

/-- The accumulator of `flush`: the budget left, and each call given the budget at its turn. -/
def Budget (p2TimeoutDefaultMs : Nat) (timeNeeded : Nat → Nat) (acc : Nat × List (Nat × Nat)) :
    Prop :=
  acc.1 = p2TimeoutDefaultMs - ((List.range acc.2.length).map timeNeeded).sum ∧
    acc.2.map Prod.snd = (List.range acc.2.length).map fun k =>
      p2TimeoutDefaultMs - ((List.range k).map timeNeeded).sum

section Flush

variable {p2TimeoutDefaultMs : Nat} {timeNeeded : Nat → Nat}

theorem budget_flushCall {acc : Nat × List (Nat × Nat)} (h : Budget p2TimeoutDefaultMs timeNeeded acc)
    (ecu : Nat) : Budget p2TimeoutDefaultMs timeNeeded (flushCall timeNeeded ecu acc) := by
  obtain ⟨h1, h2⟩ := h
  simp only [Budget, flushCall, List.length_append, List.length_singleton, List.range_succ,
    List.map_append, List.sum_append, List.map_singleton, List.sum_singleton, h2, ← h1, and_true]
  split_ifs <;> omega

theorem foldl_flushCall (ecu : Nat) :
    ∀ (l : List Nat) (acc : Nat × List (Nat × Nat)), Budget p2TimeoutDefaultMs timeNeeded acc →
      let acc' := l.foldl (fun acc _ => flushCall timeNeeded ecu acc) acc
      Budget p2TimeoutDefaultMs timeNeeded acc' ∧
        acc'.2.map Prod.fst = acc.2.map Prod.fst ++ List.replicate l.length ecu
  | [], _, h => ⟨h, by simp⟩
  | _ :: l, acc, h => by
    obtain ⟨hb, hf⟩ := foldl_flushCall ecu l _ (budget_flushCall h ecu)
    refine ⟨hb, ?_⟩
    rw [List.foldl_cons, hf]
    simp [flushCall, List.replicate_succ]

theorem foldl_flushECU (count exceptECU : Nat) :
    ∀ (ecus : List Nat) (acc : Nat × List (Nat × Nat)), Budget p2TimeoutDefaultMs timeNeeded acc →
      let acc' := ecus.foldl (flushECU count exceptECU timeNeeded) acc
      Budget p2TimeoutDefaultMs timeNeeded acc' ∧
        acc'.2.map Prod.fst = acc.2.map Prod.fst ++
          (ecus.filter (· ≠ exceptECU)).flatMap (List.replicate count)
  | [], _, h => ⟨h, by simp⟩
  | ecu :: ecus, acc, h => by
    by_cases he : ecu = exceptECU
    · simpa [flushECU, he] using foldl_flushECU count exceptECU ecus acc h
    · obtain ⟨h', hf⟩ := foldl_flushCall ecu (List.range count) acc h
      obtain ⟨hb, hf'⟩ := foldl_flushECU count exceptECU ecus _ h'
      simp only [List.foldl_cons, flushECU, he, if_false]
      refine ⟨hb, ?_⟩
      rw [hf', hf]
      simp [he]

end Flush

/-- **The budget of `flush`**: a call gets `P2_TIMEOUT_DEFAULT_MS` less what earlier calls used. -/
theorem flush_calls (p2TimeoutDefaultMs : Nat) (ecus : List Nat) (count exceptECU : Nat)
    (timeNeeded : Nat → Nat) :
    flush false p2TimeoutDefaultMs ecus count exceptECU timeNeeded = [] ∧
      let calls := flush true p2TimeoutDefaultMs ecus count exceptECU timeNeeded
      calls.map Prod.fst = (ecus.filter (· ≠ exceptECU)).flatMap (List.replicate count) ∧
        calls.map Prod.snd = (List.range calls.length).map fun k =>
          p2TimeoutDefaultMs - ((List.range k).map timeNeeded).sum := by
  have h₀ : Budget p2TimeoutDefaultMs timeNeeded (p2TimeoutDefaultMs, []) := ⟨by simp, rfl⟩
  obtain ⟨⟨-, hb⟩, hf⟩ := foldl_flushECU count exceptECU ecus _ h₀
  exact ⟨rfl, by simpa [flush] using hf, by simpa [flush] using hb⟩

end OBDOverCANModule

end FleetWise
