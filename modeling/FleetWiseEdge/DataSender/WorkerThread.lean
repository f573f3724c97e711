import Mathlib.Data.List.AList
import Mathlib.Data.List.Sort
import Mathlib.Data.String.Basic

/-!
# The worker thread of the data sender

`DataSenderManagerWorkerThread::doWork` (`DataSenderManagerWorkerThread.cpp`). Each pass waits,
for the rest of the persistency retry interval or on its signal alone, hands everything in its
queues to `processData`, and retries the upload of persisted data when it has never succeeded or
when `mRetrySendingPersistedDataTimer` has run for a whole interval; the upload itself runs only
while the connection is alive. A pass reads the steady clock twice (for its wait, and for the
retry check) and the queues and the connection state once; these are its inputs. The timer is
the clock reading of its last reset.

* `doWorkPass`, `run`: one pass and a run of passes from the constructed worker.
* `waitOf_spec`: a pass never waits past the moment its retry falls due, and waits on its
  signal alone only when the interval is `0` (or `UINT64_MAX` with no time elapsed).
* **`run_uploads`**: the first upload of persisted data is at the first pass that finds the
  connection alive; any two uploads are a whole retry interval apart; with no interval there is
  at most one.
-/

namespace FleetWise

namespace DataSenderManagerWorkerThread

def uint64Max : Nat := 2 ^ 64 - 1

/-- How a pass waits: `mWait.wait(minTimeToWaitMs)` cast to `uint32_t`, or on its signal alone. -/
inductive Wait
  | timed (waitTimeMs : Nat)
  | withPredicate
deriving DecidableEq, Repr

/-- What a pass reads: its two clocks, what `consumeAll` drained from each queue, `isAlive()`. -/
structure Pass (α : Type) where
  waitClock : Nat
  dataToSend : List (List α)
  checkClock : Nat
  isAlive : Bool

/-- The worker: `uploadedPersistedDataOnce`, the retry timer's last reset, and what it has done. -/
structure Worker (α : Type) where
  uploadedPersistedDataOnce : Bool
  retryTimerStart : Nat
  waits : List Wait
  processed : List α
  uploads : List Nat

variable {α : Type}

section Pass

variable (persistencyUploadRetryIntervalMs : Nat)

/-- The wait of a pass whose retry timer has run for `elapsedMs`. -/
def waitOf (elapsedMs : Nat) : Wait :=
  let minTimeToWaitMs :=
    if persistencyUploadRetryIntervalMs > 0 then
      min uint64Max (persistencyUploadRetryIntervalMs - min elapsedMs persistencyUploadRetryIntervalMs)
    else uint64Max
  if minTimeToWaitMs < uint64Max then .timed (minTimeToWaitMs % 2 ^ 32) else .withPredicate

def doWorkPass (w : Worker α) (p : Pass α) : Worker α :=
  let w := { w with
    waits := w.waits ++ [waitOf persistencyUploadRetryIntervalMs (p.waitClock - w.retryTimerStart)]
    processed := w.processed ++ p.dataToSend.flatten }
  if !w.uploadedPersistedDataOnce || (persistencyUploadRetryIntervalMs > 0 &&
      persistencyUploadRetryIntervalMs ≤ p.checkClock - w.retryTimerStart) then
    let w := { w with retryTimerStart := p.checkClock }
    if p.isAlive then
      { w with uploads := w.uploads ++ [p.checkClock], uploadedPersistedDataOnce := true }
    else w
  else w

def run (constructedAt : Nat) (ps : List (Pass α)) : Worker α :=
  ps.foldl (doWorkPass persistencyUploadRetryIntervalMs) ⟨false, constructedAt, [], [], []⟩

def clockReadings : List (Pass α) → List Nat
  | [] => []
  | p :: ps => p.waitClock :: p.checkClock :: clockReadings ps

end Pass

/-! ## One pass -/

section Step

variable {I : Nat} {w : Worker α} {p : Pass α}

/-- **The wait of a pass** ends by its retry; it is on the signal alone only with no interval. -/
theorem waitOf_spec (hI : I ≤ uint64Max) (elapsedMs : Nat) :
    (∀ ms, waitOf I elapsedMs = .timed ms → ms ≤ I - elapsedMs) ∧
      (waitOf I elapsedMs = .withPredicate ↔ I = 0 ∨ (I = uint64Max ∧ elapsedMs = 0)) := by
  unfold waitOf
  by_cases h0 : I > 0
  · have hmin : min uint64Max (I - min elapsedMs I) = I - min elapsedMs I :=
      min_eq_right (by omega)
    simp only [h0, ↓reduceIte, hmin]
    split_ifs with hlt
    · refine ⟨fun ms h => ?_, by simp only [reduceCtorEq, false_iff]; omega⟩
      cases h
      have := Nat.mod_le (I - min elapsedMs I) (2 ^ 32)
      omega
    · exact ⟨fun ms h => (by cases h), by simp only [true_iff]; omega⟩
  · simp only [h0, ↓reduceIte, lt_self_iff_false]
    exact ⟨fun ms h => (by cases h), by simp only [true_iff]; omega⟩

theorem doWorkPass_eq (w : Worker α) (p : Pass α) :
    doWorkPass I w p =
      let retry := !w.uploadedPersistedDataOnce || (I > 0 && I ≤ p.checkClock - w.retryTimerStart)
      ⟨w.uploadedPersistedDataOnce || (retry && p.isAlive),
        if retry then p.checkClock else w.retryTimerStart,
        w.waits ++ [waitOf I (p.waitClock - w.retryTimerStart)],
        w.processed ++ p.dataToSend.flatten,
        w.uploads ++ if retry && p.isAlive then [p.checkClock] else []⟩ := by
  unfold doWorkPass
  cases hu : w.uploadedPersistedDataOnce <;> cases ha : p.isAlive <;>
    by_cases hr : I > 0 ∧ I ≤ p.checkClock - w.retryTimerStart <;> simp [hu, ha, hr]

end Step

/-! ## Runs -/

section Run

variable {I : Nat}

theorem foldl_uploads_prefix : ∀ (ps : List (Pass α)) (w : Worker α),
    ∃ l, (ps.foldl (doWorkPass I) w).uploads = w.uploads ++ l
  | [], w => ⟨[], by simp⟩
  | p :: ps, w => by
    obtain ⟨l, hl⟩ := foldl_uploads_prefix ps (doWorkPass I w p)
    rw [List.foldl_cons, hl, doWorkPass_eq]
    exact ⟨_, List.append_assoc _ _ _⟩

theorem foldl_uploads_head : ∀ (ps : List (Pass α)) (w : Worker α),
    w.uploadedPersistedDataOnce = false → w.uploads = [] →
    (ps.foldl (doWorkPass I) w).uploads.head? = (ps.find? (·.isAlive)).map (·.checkClock)
  | [], w, _, hu => by simp [hu]
  | p :: ps, w, hf, hu => by
    rw [List.foldl_cons, List.find?_cons]
    cases ha : p.isAlive
    · refine foldl_uploads_head ps _ ?_ ?_ <;> simp [doWorkPass_eq, hf, hu, ha]
    · obtain ⟨l, hl⟩ := foldl_uploads_prefix (I := I) ps (doWorkPass I w p)
      rw [hl]
      simp [doWorkPass_eq, hf, hu, ha]

/-- The uploads along a run whose clocks never go back: reset-bounded and an interval apart. -/
structure Spaced (I : Nat) (w : Worker α) : Prop where
  fresh : w.uploadedPersistedDataOnce = false ↔ w.uploads = []
  before : ∀ u ∈ w.uploads, u ≤ w.retryTimerStart
  spaced : w.uploads.Pairwise fun a b => a + I ≤ b
  single : I = 0 → w.uploads.length ≤ 1

theorem Spaced.doWorkPass {w : Worker α} {p : Pass α} (h : Spaced I w)
    (hclk : w.retryTimerStart ≤ p.checkClock) : Spaced I (doWorkPass I w p) := by
  rw [doWorkPass_eq]
  by_cases hr : (!w.uploadedPersistedDataOnce || (I > 0 && I ≤ p.checkClock - w.retryTimerStart)) = true
  · cases ha : p.isAlive
    · simp only [hr, ha, Bool.and_false, Bool.or_false, Bool.false_eq_true, ↓reduceIte,
        List.append_nil]
      exact ⟨h.fresh, fun u hu => (h.before u hu).trans hclk, h.spaced, h.single⟩
    · simp only [hr, ha, Bool.and_self, Bool.or_true, ↓reduceIte]
      refine ⟨by simp, fun u hu => ?_, ?_, fun hI => ?_⟩
      · rcases List.mem_append.mp hu with hu | hu
        · exact (h.before u hu).trans hclk
        · simp_all
      · refine List.pairwise_append.mpr ⟨h.spaced, by simp, fun a ha b hb => ?_⟩
        simp only [List.mem_singleton] at hb
        subst hb
        cases hw : w.uploadedPersistedDataOnce
        · simp [h.fresh.mp hw] at ha
        · have := h.before a ha
          simp only [hw, Bool.not_true, Bool.false_or, Bool.and_eq_true, decide_eq_true_eq] at hr
          omega
      · cases hw : w.uploadedPersistedDataOnce
        · simp [h.fresh.mp hw]
        · simp [hw, hI] at hr
  · simp only [Bool.not_eq_true] at hr
    simp only [hr, Bool.false_and, Bool.or_false, Bool.false_eq_true, ↓reduceIte, List.append_nil]
    exact ⟨h.fresh, h.before, h.spaced, h.single⟩

theorem foldl_spaced : ∀ (ps : List (Pass α)) (c : Nat) (w : Worker α),
    (c :: clockReadings ps).Sorted (· ≤ ·) → w.retryTimerStart ≤ c → Spaced I w →
      Spaced I (ps.foldl (doWorkPass I) w)
  | [], _, _, _, _, h => h
  | p :: ps, c, w, hclk, hc, h => by
    simp only [clockReadings] at hclk
    have ⟨h1, hclk⟩ := List.sorted_cons.mp hclk
    have ⟨h2, hclk⟩ := List.sorted_cons.mp hclk
    have hwc : w.retryTimerStart ≤ p.checkClock :=
      hc.trans ((h1 _ (List.mem_cons_self _ _)).trans (h2 _ (List.mem_cons_self _ _)))
    refine foldl_spaced ps p.checkClock _ hclk ?_ (h.doWorkPass hwc)
    rw [doWorkPass_eq]
    dsimp only
    split_ifs
    exacts [le_rfl, hwc]

/-- **The uploads of persisted data**: first at the first pass online, then an interval apart. -/
theorem run_uploads (constructedAt : Nat) (ps : List (Pass α))
    (hclk : (constructedAt :: clockReadings ps).Sorted (· ≤ ·)) :
    (run I constructedAt ps).uploads.head? = (ps.find? (·.isAlive)).map (·.checkClock) ∧
      (run I constructedAt ps).uploads.Pairwise (fun a b => a + I ≤ b) ∧
      (I = 0 → (run I constructedAt ps).uploads.length ≤ 1) := by
  have h := foldl_spaced (I := I) ps constructedAt ⟨false, constructedAt, [], [], []⟩ hclk le_rfl
    ⟨by simp, by simp, by simp, by simp⟩
  exact ⟨foldl_uploads_head ps _ rfl rfl, h.spaced, h.single⟩

theorem run_uploads_offline :
    (0 :: clockReadings [(⟨5, [[1]], 10, false⟩ : Pass Nat), ⟨15, [[2, 3]], 20, true⟩,
      ⟨45, [], 50, true⟩]).Sorted (· ≤ ·) ∧
    (run 100 0 [(⟨5, [[1]], 10, false⟩ : Pass Nat), ⟨15, [[2, 3]], 20, true⟩,
      ⟨45, [], 50, true⟩]).uploads.head? = some 20 ∧
    (run 100 0 [(⟨5, [[1]], 10, false⟩ : Pass Nat), ⟨15, [[2, 3]], 20, true⟩,
      ⟨45, [], 50, true⟩]).uploads.Pairwise (fun a b => a + 100 ≤ b) :=
  have hclk : (0 :: clockReadings [(⟨5, [[1]], 10, false⟩ : Pass Nat), ⟨15, [[2, 3]], 20, true⟩,
      ⟨45, [], 50, true⟩]).Sorted (· ≤ ·) := by decide
  ⟨hclk, (run_uploads 0 _ hclk).1, (run_uploads 0 _ hclk).2.1⟩

end Run

end DataSenderManagerWorkerThread

end FleetWise
