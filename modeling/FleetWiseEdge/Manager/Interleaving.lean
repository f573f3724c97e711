import FleetWiseEdge.Manager.Mailbox

/-!
# The callbacks interleaved with the passes of `doWork`

The manager as a whole (`CollectionSchemeManager.cpp`, default build): the threads that receive
documents call `onCollectionSchemeUpdate` and `onDecoderManifestUpdate` at any time, and the
manager's thread runs its passes, each one starting with the flag checks and, after its wait,
ending with `updateAvailable`. Every step is atomic, for the reasons the mailbox gives, so a
schedule is any sequence of steps.

* `SystemEvent`, `systemStep`, `runSystem`: a schedule of the whole manager.
* `runSystem_refines`: after any schedule the manager's thread is in the state that `runWork`
  leaves, run on what each pass took from the mailbox with the clocks it read.
* **`runSystem_disjoint`**: over every schedule in which the callback delivers no list naming an
  ID twice, no ID is ever a key of both maps.
-/

namespace FleetWise

namespace CollectionSchemeManager

variable {Body : Type} [DecidableEq Body] {α : Type} (matrixExtractor : SchemeMap Body → SyncID → α)

/-- A step of the manager: a callback, `updateAvailable`, or a pass of `doWork` with its clocks. -/
inductive SystemEvent (Body : Type)
  | onCollectionSchemeUpdate (collectionSchemeList : Option (ICollectionSchemeList Body))
  | onDecoderManifestUpdate (decoderManifest : Option IDecoderManifest)
  | updateAvailable
  | pass (processTime checkTime : Nat)

def SystemEvent.input : SystemEvent Body → InputEvent Body
  | .onCollectionSchemeUpdate l => .onCollectionSchemeUpdate l
  | .onDecoderManifestUpdate d => .onDecoderManifestUpdate d
  | .updateAvailable => .updateAvailable
  | .pass _ _ => .startPass

def SystemEvent.clocks : SystemEvent Body → Option (Nat × Nat)
  | .pass processTime checkTime => some (processTime, checkTime)
  | _ => none

/-- One step: the mailbox's share, and for a pass the flag checks, then `doWorkPass`. -/
def systemStep (s : Inputs Body × Worker Body α) : SystemEvent Body → Inputs Body × Worker Body α
  | .onCollectionSchemeUpdate l => (onCollectionSchemeUpdate l s.1, s.2)
  | .onDecoderManifestUpdate d => (onDecoderManifestUpdate d s.1, s.2)
  | .updateAvailable => (updateAvailable s.1, s.2)
  | .pass processTime checkTime =>
    let taken := startPass s.1
    (taken.2, (doWorkPass matrixExtractor ⟨taken.1.1, taken.1.2, processTime, checkTime⟩ s.2).2)

def runSystem (es : List (SystemEvent Body)) : Inputs Body × Worker Body α :=
  es.foldl (systemStep matrixExtractor) (⟨Slot.init, Slot.init⟩, Worker.init)

theorem runSystem_concat (es : List (SystemEvent Body)) (e : SystemEvent Body) :
    runSystem matrixExtractor (es ++ [e]) = systemStep matrixExtractor (runSystem matrixExtractor es) e :=
  List.foldl_concat ..

omit [DecidableEq Body] in
theorem runInputs_concat (es : List (InputEvent Body)) (e : InputEvent Body) :
    runInputs (es ++ [e]) = inputStep e (runInputs es) :=
  List.foldl_concat ..

theorem runSystem_refines (es : List (SystemEvent Body)) :
    ∃ ps : List (WorkPass Body),
      ps.map (fun p => (p.decoderManifest, p.collectionSchemeList)) =
          (runInputs (es.map SystemEvent.input)).2 ∧
        ps.map (fun p => (p.processTime, p.checkTime)) = es.filterMap SystemEvent.clocks ∧
        (runSystem matrixExtractor es).1 = (runInputs (es.map SystemEvent.input)).1 ∧
        (runSystem matrixExtractor es).2 = runWork matrixExtractor ps := by
  induction es using List.reverseRecOn with
  | nil => exact ⟨[], rfl, rfl, rfl, rfl⟩
  | append_singleton es e ih =>
    obtain ⟨ps, hlog, hclocks, hinputs, hwork⟩ := ih
    rw [runSystem_concat, List.map_append, List.map_singleton, runInputs_concat, List.filterMap_append]
    cases e
    case pass processTime checkTime =>
      refine ⟨ps ++ [⟨(startPass (runSystem matrixExtractor es).1).1.1,
        (startPass (runSystem matrixExtractor es).1).1.2, processTime, checkTime⟩], ?_, ?_, ?_, ?_⟩
      · simp [hlog, hinputs, inputStep, SystemEvent.input]
      · simp [hclocks, SystemEvent.clocks]
      · simp [systemStep, hinputs, inputStep, SystemEvent.input]
      · rw [runWork_concat, ← hwork]
        rfl
    -- a callback or `updateAvailable`: no pass, and the thread's state is untouched
    all_goals exact ⟨ps, hlog, by simp [hclocks, SystemEvent.clocks],
      by simp [systemStep, hinputs, inputStep, SystemEvent.input], hwork⟩

/-! ## Disjoint maps over every schedule -/

/-- **Disjoint maps over every schedule** whose delivered lists name no ID twice. -/
theorem runSystem_disjoint (es : List (SystemEvent Body))
    (hnd : ∀ list, SystemEvent.onCollectionSchemeUpdate (some list) ∈ es →
      ∀ l ∈ list.build, (schemeIDs l).Nodup) :
    (runSystem matrixExtractor es).2.Disjoint := by
  obtain ⟨ps, hlog, -, -, hwork⟩ := runSystem_refines matrixExtractor es
  rw [hwork]
  refine runWork_disjoint matrixExtractor ps fun p hp l hl => ?_
  obtain ⟨list, hlist, hb⟩ := Option.bind_eq_some.mp hl
  have htaken : some list ∈ (runInputs (es.map SystemEvent.input)).2.map Prod.snd := by
    rw [← hlog]
    exact List.mem_map.mpr ⟨_, List.mem_map_of_mem _ hp, hlist⟩
  obtain ⟨e, he, hev⟩ := List.mem_map.mp (onCollectionSchemeUpdate_mem_of_taken htaken)
  cases e
  case onCollectionSchemeUpdate l' =>
    simp only [SystemEvent.input, InputEvent.onCollectionSchemeUpdate.injEq] at hev
    exact hnd list (hev ▸ he) l hb
  all_goals simp [SystemEvent.input] at hev

/-- `[A]` on `[10, 20)` is delivered, then overwritten by `[A]` on `[1, 30)` before a pass. -/
def overwrittenSchedule : List (SystemEvent Unit) :=
  [.onCollectionSchemeUpdate (some ⟨some [schemeA 10 20]⟩), .updateAvailable,
    .onCollectionSchemeUpdate (some ⟨some [schemeA 1 30]⟩), .pass 5 5, .updateAvailable,
    .pass 12 12]

theorem runSystem_disjoint_overwrittenSchedule :
    (∀ list, SystemEvent.onCollectionSchemeUpdate (some list) ∈ overwrittenSchedule →
      ∀ l ∈ list.build, (schemeIDs l).Nodup) ∧
      (runSystem (fun _ _ => ()) overwrittenSchedule).2.Disjoint :=
  have hnd : ∀ list, SystemEvent.onCollectionSchemeUpdate (some list) ∈ overwrittenSchedule →
      ∀ l ∈ list.build, (schemeIDs l).Nodup := fun list h l hl => by
    simp only [overwrittenSchedule, List.mem_cons, SystemEvent.onCollectionSchemeUpdate.injEq,
      Option.some.injEq, List.mem_nil_iff, or_false, false_or, reduceCtorEq] at h
    rcases h with rfl | rfl <;> cases hl <;> decide
  ⟨hnd, runSystem_disjoint _ overwrittenSchedule hnd⟩

end CollectionSchemeManager

end FleetWise
