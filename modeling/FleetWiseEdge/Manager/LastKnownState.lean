import FleetWiseEdge.Manager.Mailbox
import FleetWiseEdge.Manager.StateTemplates

/-!
# The state templates from the callback to the manager

With `FWE_FEATURE_LAST_KNOWN_STATE` the manager has a third input (`CollectionSchemeManager.cpp`):
`onStateTemplatesChanged` writes `mLastKnownStateIngestionInput` and sets
`mStateTemplatesAvailable`, `updateAvailable` hands a non-null input to the next pass, and a pass
that finds `mProcessStateTemplates` set clears it and calls `processStateTemplates`. When that
call reports a change, or the pass changed the decoder manifest, the pass hands the last known
state extracted from the templates to `lastKnownStateUpdater`. The input is a `Slot` like the
other two, and the steps are atomic for the reasons the mailbox gives.

* `templatesPass`, `templatesStep`, `runTemplates`: the manager's share of a schedule of the
  callback, `updateAvailable` and the passes.
* `Refines`, `refines_foldl`: after any schedule the slot is the run of the slot alone, and the
  templates are what `processStateTemplates` leaves, applied in order to what each pass took.
* **`runTemplates_overwritten`**: a delivery that another one follows before the next
  `updateAvailable` leaves no trace: the schedule runs as if it had not been made. A diff lost so
  never has its templates added, although diffs are incremental.
* **`runTemplates_provenance`**: every template the manager holds was added by a diff that the
  callback delivered.
* **`runTemplates_published`**: after every step the templates handed to `lastKnownStateUpdater`
  last are the templates the manager holds; a pass that reports no change changes none.
-/

namespace FleetWise

namespace Slot

variable {α : Type}

theorem pass_onUpdate (s : Slot α) (v : Option α) :
    (s.onUpdate v).pass = (s.pass.1, s.pass.2.onUpdate v) := by
  unfold pass onUpdate
  split <;> rfl

@[simp]
theorem onUpdate_onUpdate (s : Slot α) (v w : Option α) : (s.onUpdate v).onUpdate w = s.onUpdate w :=
  rfl

end Slot

namespace CollectionSchemeManager

variable {T : Type}

/-! ## Where a held template comes from -/

theorem lookup_processStateTemplates {d : Option (LastKnownStateIngestion T)} {st : StateTemplates T}
    {id : SyncID} {t : StateTemplateInformation T}
    (h : (processStateTemplates d st).2.stateTemplates.lookup id = some t) :
    st.stateTemplates.lookup id = some t ∨
      ∃ diff, diffOf d = some diff ∧ t ∈ diff.stateTemplatesToAdd ∧ t.id = id := by
  cases hd : diffOf d with
  | none => rw [processStateTemplates_of_none st hd] at h; exact .inl h
  | some diff =>
    by_cases hv : diff.version < st.lastStateTemplatesDiffVersion
    · rw [processStateTemplates_of_lt hd hv] at h; exact .inl h
    rw [(processStateTemplates_accept st hd (Nat.le_of_not_lt hv)).2.1, Option.or_eq_some] at h
    rcases h with h | ⟨-, h⟩
    · split_ifs at h
      exact .inl h
    · exact .inr ⟨diff, rfl, List.mem_of_find?_eq_some h, by simpa using List.find?_some h⟩

theorem lookup_runStateTemplates {id : SyncID} {t : StateTemplateInformation T} :
    ∀ (ds : List (Option (LastKnownStateIngestion T))) (st : StateTemplates T),
      (runStateTemplates st ds).stateTemplates.lookup id = some t →
      st.stateTemplates.lookup id = some t ∨
        ∃ d ∈ ds, ∃ diff, diffOf d = some diff ∧ t ∈ diff.stateTemplatesToAdd ∧ t.id = id
  | [], _, h => .inl h
  | d :: ds, st, h => by
    rcases lookup_runStateTemplates ds _ h with h | ⟨d', hd', hdiff⟩
    · rcases lookup_processStateTemplates h with h | hdiff
      · exact .inl h
      · exact .inr ⟨d, List.mem_cons_self _ _, hdiff⟩
    · exact .inr ⟨d', List.mem_cons_of_mem _ hd', hdiff⟩

theorem runStateTemplates_concat (st : StateTemplates T) (ds : List (Option (LastKnownStateIngestion T)))
    (d : Option (LastKnownStateIngestion T)) :
    runStateTemplates st (ds ++ [d]) = (processStateTemplates d (runStateTemplates st ds)).2 :=
  List.foldl_concat ..

/-! ## The manager's share of a schedule -/

/-- The manager's templates: the input slot, `mStateTemplates`, and the last ones extracted. -/
structure TemplatesWorker (T : Type) where
  slot : Slot (LastKnownStateIngestion T)
  templates : StateTemplates T
  published : StateTemplateMap T

def TemplatesWorker.init : TemplatesWorker T := ⟨Slot.init, ⟨∅, 0⟩, ∅⟩

/-- A pass's template share: `processStateTemplates` if flagged, extraction if anything changed. -/
def templatesPass (decoderManifestChanged : Bool) (w : TemplatesWorker T) : TemplatesWorker T :=
  let r := if w.slot.process then processStateTemplates w.slot.current w.templates
    else (false, w.templates)
  ⟨w.slot.pass.2, r.2, if decoderManifestChanged || r.1 then r.2.stateTemplates else w.published⟩

/-- A call of `onStateTemplatesChanged` or `updateAvailable`, or a pass. -/
inductive TemplatesEvent (T : Type)
  | onStateTemplatesChanged (lastKnownStateIngestion : Option (LastKnownStateIngestion T))
  | updateAvailable
  | pass (decoderManifestChanged : Bool)

def TemplatesEvent.slotEvent : TemplatesEvent T → Slot.Event (LastKnownStateIngestion T)
  | .onStateTemplatesChanged l => .onUpdate l
  | .updateAvailable => .updateAvailable
  | .pass _ => .pass

def templatesStep (w : TemplatesWorker T) : TemplatesEvent T → TemplatesWorker T
  | .onStateTemplatesChanged l => { w with slot := w.slot.onUpdate l }
  | .updateAvailable => { w with slot := w.slot.updateAvailable }
  | .pass decoderManifestChanged => templatesPass decoderManifestChanged w

def runTemplates (es : List (TemplatesEvent T)) : TemplatesWorker T :=
  es.foldl templatesStep TemplatesWorker.init

/-! ## Refinement of the sequential deliveries -/

/-- The worker's slot is the slot's own run, and its templates are those of the values taken. -/
def Refines (st₀ : StateTemplates T) (w : TemplatesWorker T)
    (r : Slot (LastKnownStateIngestion T) × List (Option (LastKnownStateIngestion T))) : Prop :=
  w.slot = r.1 ∧ w.templates = runStateTemplates st₀ r.2

theorem refines_step {st₀ : StateTemplates T} {w : TemplatesWorker T}
    {r : Slot (LastKnownStateIngestion T) × List (Option (LastKnownStateIngestion T))}
    (h : Refines st₀ w r) (e : TemplatesEvent T) :
    Refines st₀ (templatesStep w e) (Slot.step e.slotEvent r) := by
  obtain ⟨hslot, htemplates⟩ := h
  cases e with
  | onStateTemplatesChanged l => exact ⟨congrArg (Slot.onUpdate l) hslot, htemplates⟩
  | updateAvailable => exact ⟨congrArg Slot.updateAvailable hslot, htemplates⟩
  | pass decoderManifestChanged =>
    refine ⟨congrArg (·.pass.2) hslot, ?_⟩
    simp only [templatesStep, templatesPass, TemplatesEvent.slotEvent, Slot.step,
      runStateTemplates_concat, ← htemplates, hslot, Slot.pass]
    split <;> rfl

theorem refines_foldl {st₀ : StateTemplates T} :
    ∀ (es : List (TemplatesEvent T)) (w : TemplatesWorker T)
      (r : Slot (LastKnownStateIngestion T) × List (Option (LastKnownStateIngestion T))),
      Refines st₀ w r →
      Refines st₀ (es.foldl templatesStep w) (Slot.runFrom r (es.map TemplatesEvent.slotEvent))
  | [], _, _, h => h
  | e :: es, _, _, h => refines_foldl es _ _ (refines_step h e)

/-! ## An overwritten delivery -/

theorem templatesPass_onUpdate (decoderManifestChanged : Bool) (w : TemplatesWorker T)
    (l : Option (LastKnownStateIngestion T)) :
    templatesPass decoderManifestChanged { w with slot := w.slot.onUpdate l } =
      let w' := templatesPass decoderManifestChanged w
      { w' with slot := w'.slot.onUpdate l } := by
  simp only [templatesPass, Slot.pass_onUpdate]
  rfl

theorem foldl_passes_onUpdate (l : Option (LastKnownStateIngestion T)) :
    ∀ (mid : List (TemplatesEvent T)), (∀ e ∈ mid, ∃ b, e = .pass b) → ∀ w : TemplatesWorker T,
      mid.foldl templatesStep { w with slot := w.slot.onUpdate l } =
        let w' := mid.foldl templatesStep w
        { w' with slot := w'.slot.onUpdate l }
  | [], _, _ => rfl
  | e :: mid, h, w => by
    obtain ⟨b, rfl⟩ := h e (List.mem_cons_self _ _)
    simp only [List.foldl_cons, templatesStep, templatesPass_onUpdate]
    exact foldl_passes_onUpdate l mid (fun e he => h e (List.mem_cons_of_mem _ he)) _

/-- **An overwritten delivery is lost**: the schedule runs as if it had not been made. -/
theorem runTemplates_overwritten (pre mid post : List (TemplatesEvent T))
    (l l' : Option (LastKnownStateIngestion T)) (hmid : ∀ e ∈ mid, ∃ b, e = .pass b) :
    runTemplates (pre ++ .onStateTemplatesChanged l :: mid ++ .onStateTemplatesChanged l' :: post) =
      runTemplates (pre ++ mid ++ .onStateTemplatesChanged l' :: post) := by
  simp only [runTemplates, List.foldl_append, List.append_assoc, List.cons_append,
    List.foldl_cons, templatesStep]
  rw [foldl_passes_onUpdate l mid hmid]
  rfl

/-- A diff of version 1 that adds `A`. -/
def addA : LastKnownStateIngestion Unit := ⟨some (some ⟨1, [], [⟨"A", ()⟩]⟩)⟩

/-- A diff of version 2 that adds `B`. -/
def addB : LastKnownStateIngestion Unit := ⟨some (some ⟨2, [], [⟨"B", ()⟩]⟩)⟩

theorem runTemplates_overwritten_addA :
    runTemplates [.onStateTemplatesChanged (some addA), .onStateTemplatesChanged (some addB),
        .updateAvailable, .pass false] =
      runTemplates [.onStateTemplatesChanged (some addB), .updateAvailable, .pass false] ∧
    (runTemplates [.onStateTemplatesChanged (some addB), .updateAvailable,
      .pass false]).templates.stateTemplates.lookup "A" = none :=
  ⟨runTemplates_overwritten [] [] [.updateAvailable, .pass false] _ _ nofun, by decide⟩

/-! ## Where the templates come from -/

theorem eq_some_of_diffOf {d : Option (LastKnownStateIngestion T)} {diff : StateTemplatesDiff T}
    (h : diffOf d = some diff) : ∃ l, d = some l := by
  cases d with
  | none => simp [diffOf] at h
  | some l => exact ⟨l, rfl⟩

/-- **Every template held was added by a diff that `onStateTemplatesChanged` delivered.** -/
theorem runTemplates_provenance (es : List (TemplatesEvent T)) {id : SyncID}
    {t : StateTemplateInformation T} (h : (runTemplates es).templates.stateTemplates.lookup id = some t) :
    ∃ l diff, .onStateTemplatesChanged (some l) ∈ es ∧ diffOf (some l) = some diff ∧
      t ∈ diff.stateTemplatesToAdd ∧ t.id = id := by
  have hr : Refines ⟨∅, 0⟩ (runTemplates es) (Slot.run (es.map TemplatesEvent.slotEvent)) :=
    refines_foldl es _ _ ⟨rfl, rfl⟩
  rw [hr.2] at h
  obtain h | ⟨d, hd, diff, hdiff, ht, hid⟩ := lookup_runStateTemplates _ _ h
  · simp at h
  obtain ⟨l, rfl⟩ := eq_some_of_diffOf hdiff
  obtain ⟨e, he, hev⟩ := List.mem_map.mp (Slot.onUpdate_mem_of_run hd)
  cases e with
  | onStateTemplatesChanged l' =>
    cases hev
    exact ⟨l, diff, he, hdiff, ht, hid⟩
  | updateAvailable => cases hev
  | pass _ => cases hev

theorem runTemplates_provenance_addB :
    (runTemplates [.onStateTemplatesChanged (some addB), .updateAvailable,
      .pass false]).templates.stateTemplates.lookup "B" = some ⟨"B", ()⟩ ∧
    ∃ l diff, TemplatesEvent.onStateTemplatesChanged (some l) ∈
        [.onStateTemplatesChanged (some addB), .updateAvailable, .pass false] ∧
      diffOf (some l) = some diff ∧
      (⟨"B", ()⟩ : StateTemplateInformation Unit) ∈ diff.stateTemplatesToAdd ∧
      (⟨"B", ()⟩ : StateTemplateInformation Unit).id = "B" :=
  have h : (runTemplates [.onStateTemplatesChanged (some addB), .updateAvailable,
      .pass false]).templates.stateTemplates.lookup "B" = some ⟨"B", ()⟩ := by decide
  ⟨h, runTemplates_provenance _ h⟩

/-! ## The published last known state -/

def Published (w : TemplatesWorker T) : Prop :=
  ∀ id, w.published.lookup id = w.templates.stateTemplates.lookup id

theorem published_templatesPass {w : TemplatesWorker T} (h : Published w)
    (decoderManifestChanged : Bool) : Published (templatesPass decoderManifestChanged w) := by
  intro id
  simp only [templatesPass]
  split_ifs with hp hc hc
  · rfl
  · simp only [Bool.or_eq_true, not_or, Bool.not_eq_true] at hc
    rw [processStateTemplates_stateTemplates_of_false hc.2]
    exact h id
  · rfl
  · exact h id

theorem published_step {w : TemplatesWorker T} (h : Published w) :
    ∀ e : TemplatesEvent T, Published (templatesStep w e)
  | .onStateTemplatesChanged _ => h
  | .updateAvailable => h
  | .pass decoderManifestChanged => published_templatesPass h decoderManifestChanged

theorem published_foldl :
    ∀ (es : List (TemplatesEvent T)) (w : TemplatesWorker T), Published w →
      Published (es.foldl templatesStep w)
  | [], _, h => h
  | e :: es, _, h => published_foldl es _ (published_step h e)

/-- **The published state is never stale**: it has, ID by ID, the templates the manager holds. -/
theorem runTemplates_published (es : List (TemplatesEvent T)) (id : SyncID) :
    (runTemplates es).published.lookup id = (runTemplates es).templates.stateTemplates.lookup id :=
  published_foldl es _ (fun _ => rfl) id

end CollectionSchemeManager

end FleetWise
