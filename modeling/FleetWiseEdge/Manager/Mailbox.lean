import FleetWiseEdge.Manager.DoWork

/-!
# The input mailboxes

`onCollectionSchemeUpdate` and `onDecoderManifestUpdate` run on the threads that receive
documents; `updateAvailable` and the start of each pass of `doWork` run on the manager's thread
(`CollectionSchemeManager.cpp`). Each input is a `Slot`: a callback writes its `...Input` pointer
and sets its `...Available` flag; `updateAvailable` copies a non-null input to the pointer that
the next pass processes and sets its `mProcess...` flag, then clears `...Available`. The
callbacks and `updateAvailable` hold `mSchemaUpdateMutex`, and only the manager's thread touches
the pointer a pass reads, so every step is atomic and a schedule is any sequence of steps.

* `Slot.run`: a schedule on one slot, with what each pass processed.
* `runInputs_slots`: each of the manager's two slots runs the schedule as that slot sees it.
* `Slot.stampFrom`, `Slot.run_stampFrom`: tagging each delivery with its position in the
  schedule changes nothing but the tags.
* **`Slot.run_laws`**: one entry per pass; the values processed are non-null deliveries, in
  delivery order, none twice; and the last delivery before an `updateAvailable`, when non-null and
  after the previous `updateAvailable`, is what the next pass processes.
-/

namespace FleetWise

/-- One input of the manager: what the callback writes, and what a pass reads. -/
structure Slot (α : Type) where
  input : Option α
  available : Bool
  current : Option α
  process : Bool

namespace Slot

variable {α β : Type}

def init : Slot α := ⟨none, false, none, false⟩

/-- The body of `onCollectionSchemeUpdate` and of `onDecoderManifestUpdate`. -/
def onUpdate (v : Option α) (s : Slot α) : Slot α := { s with input := v, available := true }

/-- The slot's share of `updateAvailable`. -/
def updateAvailable (s : Slot α) : Slot α :=
  match s.available, s.input with
  | true, some v => { s with current := some v, process := true, available := false }
  | _, _ => { s with available := false }

/-- The slot's share of the start of a pass: the value to process if flagged; it clears the flag. -/
def pass (s : Slot α) : Option α × Slot α :=
  if s.process then (s.current, { s with process := false }) else (none, s)

@[simp]
theorem pass_input (s : Slot α) : s.pass.2.input = s.input := by
  unfold pass; split <;> rfl

@[simp]
theorem pass_available (s : Slot α) : s.pass.2.available = s.available := by
  unfold pass; split <;> rfl

theorem pass_fst_of_process {s : Slot α} (h : s.process = true) : s.pass.1 = s.current := by
  simp [pass, h]

theorem updateAvailable_of_available {s : Slot α} {v : α} (ha : s.available = true)
    (hi : s.input = some v) :
    s.updateAvailable = { s with current := some v, process := true, available := false } := by
  simp [updateAvailable, ha, hi]

inductive Event (α : Type)
  | onUpdate (v : Option α)
  | updateAvailable
  | pass
deriving DecidableEq

def Event.isPass : Event α → Bool
  | .pass => true
  | _ => false

/-- A step, with the list of what each pass has processed. -/
def step (e : Event α) (r : Slot α × List (Option α)) : Slot α × List (Option α) :=
  match e with
  | .onUpdate v => (r.1.onUpdate v, r.2)
  | .updateAvailable => (r.1.updateAvailable, r.2)
  | .pass => (r.1.pass.2, r.2 ++ [r.1.pass.1])

def runFrom (r : Slot α × List (Option α)) (es : List (Event α)) : Slot α × List (Option α) :=
  es.foldl (fun r e => step e r) r

def run (es : List (Event α)) : Slot α × List (Option α) := runFrom (init, []) es

@[simp]
theorem runFrom_nil (r : Slot α × List (Option α)) : runFrom r [] = r := rfl

@[simp]
theorem runFrom_cons (r : Slot α × List (Option α)) (e : Event α) (es : List (Event α)) :
    runFrom r (e :: es) = runFrom (step e r) es := rfl

theorem runFrom_append (r : Slot α × List (Option α)) (es₁ es₂ : List (Event α)) :
    runFrom r (es₁ ++ es₂) = runFrom (runFrom r es₁) es₂ :=
  List.foldl_append ..

theorem length_runFrom (r : Slot α × List (Option α)) :
    ∀ es : List (Event α), (runFrom r es).2.length = r.2.length + es.countP Event.isPass
  | [] => rfl
  | e :: es => by
    rw [runFrom_cons, length_runFrom _ es, List.countP_cons]
    cases e <;> simp [step, Event.isPass]
    omega

/-! ## Every value comes from a delivery -/

/-- `x` is the slot's input or its current value, or a pass processed it. -/
def Held (x : α) (r : Slot α × List (Option α)) : Prop :=
  r.1.input = some x ∨ r.1.current = some x ∨ some x ∈ r.2

theorem held_step {x : α} {r : Slot α × List (Option α)} {e : Event α} (h : Held x (step e r)) :
    Held x r ∨ e = .onUpdate (some x) := by
  rcases r with ⟨⟨_ | i, _ | _, c, _ | _⟩, log⟩ <;> cases e <;>
    simp_all [Held, step, onUpdate, updateAvailable, pass] <;> tauto

theorem held_runFrom {x : α} :
    ∀ (es : List (Event α)) (r : Slot α × List (Option α)), Held x (runFrom r es) →
      Held x r ∨ .onUpdate (some x) ∈ es
  | [], _, h => .inl h
  | e :: es, r, h => by
    rcases held_runFrom es _ h with h | h
    · rcases held_step h with h | rfl
      · exact .inl h
      · exact .inr (List.mem_cons_self _ _)
    · exact .inr (List.mem_cons_of_mem _ h)

theorem onUpdate_mem_of_run {es : List (Event α)} {x : α} (h : some x ∈ (run es).2) :
    .onUpdate (some x) ∈ es :=
  (held_runFrom es _ (.inr (.inr h))).resolve_left (by simp [Held, init])

/-! ## Deliveries tagged with their position -/

def Event.map (f : α → β) : Event α → Event β
  | .onUpdate v => .onUpdate (v.map f)
  | .updateAvailable => .updateAvailable
  | .pass => .pass

def map (f : α → β) (s : Slot α) : Slot β := ⟨s.input.map f, s.available, s.current.map f, s.process⟩

/-- The schedule with each delivered value tagged with its position, counted from `n`. -/
def stampFrom : Nat → List (Event α) → List (Event (Nat × α))
  | _, [] => []
  | n, e :: es => e.map (Prod.mk n) :: stampFrom (n + 1) es

theorem step_map (f : α → β) (e : Event α) (r : Slot α × List (Option α)) :
    step (e.map f) (r.1.map f, r.2.map (Option.map f)) =
      ((step e r).1.map f, (step e r).2.map (Option.map f)) := by
  rcases r with ⟨⟨_ | i, _ | _, c, _ | _⟩, log⟩ <;> cases e <;>
    simp [step, Event.map, map, onUpdate, updateAvailable, pass]

theorem runFrom_map (f : α → β) :
    ∀ (es : List (Event α)) (r : Slot α × List (Option α)),
      runFrom (r.1.map f, r.2.map (Option.map f)) (es.map (Event.map f)) =
        ((runFrom r es).1.map f, (runFrom r es).2.map (Option.map f))
  | [], _ => rfl
  | e :: es, r => by
    rw [List.map_cons, runFrom_cons, step_map, runFrom_map f es]
    rfl

theorem map_stampFrom : ∀ (n : Nat) (es : List (Event α)),
    (stampFrom n es).map (Event.map Prod.snd) = es
  | _, [] => rfl
  | n, e :: es => by
    rw [stampFrom, List.map_cons, map_stampFrom (n + 1) es]
    cases e <;> simp [Event.map, Option.map_map, Function.comp_def]

theorem run_stampFrom (es : List (Event α)) :
    (run (stampFrom 0 es)).2.map (Option.map Prod.snd) = (run es).2 := by
  have h := runFrom_map Prod.snd (stampFrom 0 es) (init, [])
  rw [map_stampFrom] at h
  exact (congrArg Prod.snd h).symm

theorem onUpdate_mem_stampFrom {i : Nat} {v : α} :
    ∀ (n : Nat) (es : List (Event α)), .onUpdate (some (i, v)) ∈ stampFrom n es →
      n ≤ i ∧ es[i - n]? = some (.onUpdate (some v))
  | _, [], h => by simp [stampFrom] at h
  | n, e :: es, h => by
    rcases List.mem_cons.mp h with h | h
    · cases e <;> simp only [Event.map, Event.onUpdate.injEq, reduceCtorEq] at h
      obtain ⟨w, rfl, hw⟩ := Option.map_eq_some'.mp h.symm
      cases hw
      simp
    · obtain ⟨hi, he⟩ := onUpdate_mem_stampFrom (n + 1) es h
      refine ⟨by omega, ?_⟩
      rw [show i - n = i - (n + 1) + 1 by omega, List.getElem?_cons_succ]
      exact he

/-! ## Tags increase along a run -/

theorem filterMap_id_concat (log : List (Option α)) (o : Option α) :
    (log ++ [o]).filterMap id = log.filterMap id ++ o.toList := by
  cases o <;> simp

/-- What holds of a tagged schedule after its first `n` steps. -/
structure StampInv (n : Nat) (r : Slot (Nat × α) × List (Option (Nat × α))) : Prop where
  /-- Tags are positions of steps already taken. -/
  input_lt : ∀ x, r.1.input = some x → x.1 < n
  current_lt : ∀ x, r.1.current = some x → x.1 < n
  done_lt : ∀ y ∈ r.2.filterMap id, y.1 < n
  /-- The processed values have increasing tags. -/
  sorted : (r.2.filterMap id).Pairwise (·.1 < ·.1)
  /-- A value waiting for the next pass is later than every processed one. -/
  current_later : r.1.process = true → ∀ c, r.1.current = some c →
    ∀ y ∈ r.2.filterMap id, y.1 < c.1
  /-- A value delivered since the last `updateAvailable` is later than every processed one, and
  than a waiting one. -/
  input_later : r.1.available = true → ∀ x, r.1.input = some x →
    (∀ y ∈ r.2.filterMap id, y.1 < x.1) ∧ (r.1.process = true → ∀ c, r.1.current = some c → c.1 < x.1)

theorem stampInv_init : StampInv 0 ((init : Slot (Nat × α)), []) where
  input_lt _ h := by simp [init] at h
  current_lt _ h := by simp [init] at h
  done_lt _ h := by simp at h
  sorted := List.Pairwise.nil
  current_later h := by simp [init] at h
  input_later h := by simp [init] at h

section StampStep

variable {n : Nat} {s : Slot (Nat × α)} {log : List (Option (Nat × α))}

theorem StampInv.onUpdate (h : StampInv n (s, log)) (v : Option α) :
    StampInv (n + 1) (s.onUpdate (v.map (Prod.mk n)), log) where
  input_lt x hx := by
    obtain ⟨_, -, rfl⟩ := Option.map_eq_some'.mp hx
    exact Nat.lt_succ_self n
  current_lt x hx := Nat.lt_succ_of_lt (h.current_lt x hx)
  done_lt y hy := Nat.lt_succ_of_lt (h.done_lt y hy)
  sorted := h.sorted
  current_later := h.current_later
  input_later _ x hx := by
    obtain ⟨_, -, rfl⟩ := Option.map_eq_some'.mp hx
    exact ⟨h.done_lt, fun _ c hc => h.current_lt c hc⟩

theorem StampInv.updateAvailable (h : StampInv n (s, log)) :
    StampInv (n + 1) (s.updateAvailable, log) := by
  obtain ⟨i, a, c, p⟩ := s
  have hcl := h.current_lt
  cases a <;> cases i <;> simp only [Slot.updateAvailable] at hcl ⊢
  case true.some x =>
    exact ⟨fun y hy => Nat.lt_succ_of_lt (h.input_lt y hy),
      fun _ hy => by cases hy; exact Nat.lt_succ_of_lt (h.input_lt _ rfl),
      fun y hy => Nat.lt_succ_of_lt (h.done_lt y hy), h.sorted,
      fun _ _ hy => by cases hy; exact (h.input_later rfl _ rfl).1, nofun⟩
  all_goals exact ⟨fun y hy => Nat.lt_succ_of_lt (h.input_lt y hy),
    fun y hy => Nat.lt_succ_of_lt (hcl y hy), fun y hy => Nat.lt_succ_of_lt (h.done_lt y hy),
    h.sorted, h.current_later, nofun⟩

theorem StampInv.pass (h : StampInv n (s, log)) :
    StampInv (n + 1) (s.pass.2, log ++ [s.pass.1]) := by
  obtain ⟨i, a, c, p⟩ := s
  have hi : ∀ x, i = some x → x.1 < n + 1 := fun x hx => Nat.lt_succ_of_lt (h.input_lt x hx)
  have hc : ∀ x, c = some x → x.1 < n + 1 := fun x hx => Nat.lt_succ_of_lt (h.current_lt x hx)
  have hd := filterMap_id_concat log
  cases p <;> simp only [Slot.pass, Bool.false_eq_true, ↓reduceIte]
  case false =>
    refine ⟨hi, hc, ?_, ?_, nofun, ?_⟩ <;> simp only [hd, Option.toList_none, List.append_nil]
    · exact fun y hy => Nat.lt_succ_of_lt (h.done_lt y hy)
    · exact h.sorted
    · exact h.input_later
  case true =>
    refine ⟨hi, hc, ?_, ?_, nofun, fun ha x hx => ⟨?_, nofun⟩⟩ <;>
      simp only [hd, List.mem_append, Option.mem_toList, Option.mem_def]
    · rintro y (hy | rfl)
      exacts [Nat.lt_succ_of_lt (h.done_lt y hy), hc y rfl]
    · refine List.pairwise_append.mpr ⟨h.sorted, by cases c <;> simp, fun y hy z hz => ?_⟩
      exact h.current_later rfl z (by simpa using hz) y hy
    · rintro y (hy | rfl)
      exacts [(h.input_later ha x hx).1 y hy, (h.input_later ha x hx).2 rfl y rfl]

theorem StampInv.step (h : StampInv n (s, log)) (e : Event α) :
    StampInv (n + 1) (Slot.step (e.map (Prod.mk n)) (s, log)) := by
  cases e with
  | onUpdate v => exact h.onUpdate v
  | updateAvailable => exact h.updateAvailable
  | pass => exact h.pass

end StampStep

theorem StampInv.runFrom :
    ∀ (es : List (Event α)) (n : Nat) (r : Slot (Nat × α) × List (Option (Nat × α))),
      StampInv n r → StampInv (n + es.length) (Slot.runFrom r (stampFrom n es))
  | [], _, _, h => h
  | e :: es, n, (s, log), h => by
    rw [List.length_cons, show n + (es.length + 1) = n + 1 + es.length by omega]
    exact StampInv.runFrom es (n + 1) _ (h.step e)

/-! ## The next pass takes the last delivery -/

theorem runFrom_passes (r : Slot α × List (Option α)) :
    ∀ mid : List (Event α), (∀ e ∈ mid, e = .pass) →
      (runFrom r mid).1.input = r.1.input ∧ (runFrom r mid).1.available = r.1.available
  | [], _ => ⟨rfl, rfl⟩
  | e :: mid, h => by
    obtain rfl := h e (List.mem_cons_self _ _)
    obtain ⟨h1, h2⟩ := runFrom_passes (step .pass r) mid fun e he => h e (List.mem_cons_of_mem _ he)
    exact ⟨h1.trans (pass_input r.1), h2.trans (pass_available r.1)⟩

theorem runFrom_onUpdates (r : Slot α × List (Option α)) :
    ∀ post : List (Event α), (∀ e ∈ post, ∃ w, e = .onUpdate w) →
      (runFrom r post).1.current = r.1.current ∧ (runFrom r post).1.process = r.1.process
  | [], _ => ⟨rfl, rfl⟩
  | e :: post, h => by
    obtain ⟨w, rfl⟩ := h e (List.mem_cons_self _ _)
    exact runFrom_onUpdates (step (.onUpdate w) r) post fun e he => h e (List.mem_cons_of_mem _ he)

theorem pass_after_updateAvailable (pre mid post : List (Event α)) (v : α)
    (hmid : ∀ e ∈ mid, e = .pass) (hpost : ∀ e ∈ post, ∃ w, e = .onUpdate w) :
    (run (pre ++ .onUpdate (some v) :: mid ++ .updateAvailable :: post)).1.pass.1 = some v := by
  rw [run, runFrom_append, runFrom_cons, runFrom_append, runFrom_cons]
  generalize runFrom (init, []) pre = r₀
  obtain ⟨hi, ha⟩ := runFrom_passes (step (.onUpdate (some v)) r₀) mid hmid
  generalize runFrom (step (.onUpdate (some v)) r₀) mid = r₁ at hi ha
  have hu : (step .updateAvailable r₁).1 =
      { r₁.1 with current := some v, process := true, available := false } :=
    updateAvailable_of_available ha hi
  obtain ⟨hc, hp⟩ := runFrom_onUpdates (step .updateAvailable r₁) post hpost
  rw [pass_fst_of_process (hp.trans (congrArg Slot.process hu)), hc, hu]

/-! ## The mailbox laws -/

/-- **The mailbox laws**: a pass takes at most one value, non-null, delivered, in order. -/
theorem run_laws (es : List (Event α)) :
    (run es).2.length = es.countP Event.isPass ∧
      (run (stampFrom 0 es)).2.map (Option.map Prod.snd) = (run es).2 ∧
      (∀ i v, some (i, v) ∈ (run (stampFrom 0 es)).2 → es[i]? = some (.onUpdate (some v))) ∧
      (((run (stampFrom 0 es)).2.filterMap id).map Prod.fst).Sorted (· < ·) ∧
      ∀ (pre mid post : List (Event α)) (v : α), (∀ e ∈ mid, e = .pass) →
        (∀ e ∈ post, ∃ w, e = .onUpdate w) →
        (run (pre ++ .onUpdate (some v) :: mid ++ .updateAvailable :: post)).1.pass.1 = some v :=
  ⟨by simpa using length_runFrom (init, []) es,
    run_stampFrom es,
    fun i v h => by simpa using onUpdate_mem_stampFrom 0 es (onUpdate_mem_of_run h),
    List.pairwise_map.mpr (StampInv.runFrom es 0 _ stampInv_init).sorted,
    pass_after_updateAvailable⟩

end Slot

/-! ## The manager's two slots -/

theorem foldl_filterMap_proj {ε ε' σ τ : Type} (f : ε → Option ε') (proj : σ → τ)
    (big : ε → σ → σ) (small : ε' → τ → τ)
    (h : ∀ e s, proj (big e s) = (f e).elim (proj s) fun e' => small e' (proj s)) :
    ∀ (es : List ε) (s : σ),
      proj (es.foldl (fun s e => big e s) s) = (es.filterMap f).foldl (fun t e => small e t) (proj s)
  | [], _ => rfl
  | e :: es, s => by
    rw [List.foldl_cons, foldl_filterMap_proj f proj big small h es, h]
    cases hf : f e <;> simp [List.filterMap_cons, hf]

namespace CollectionSchemeManager

variable {Body : Type}

/-- The manager's inputs: the slots of `onCollectionSchemeUpdate` and `onDecoderManifestUpdate`. -/
structure Inputs (Body : Type) where
  collectionScheme : Slot (ICollectionSchemeList Body)
  decoderManifest : Slot IDecoderManifest

def onCollectionSchemeUpdate (collectionSchemeList : Option (ICollectionSchemeList Body))
    (st : Inputs Body) : Inputs Body :=
  { st with collectionScheme := st.collectionScheme.onUpdate collectionSchemeList }

def onDecoderManifestUpdate (decoderManifest : Option IDecoderManifest) (st : Inputs Body) :
    Inputs Body :=
  { st with decoderManifest := st.decoderManifest.onUpdate decoderManifest }

def updateAvailable (st : Inputs Body) : Inputs Body :=
  ⟨st.collectionScheme.updateAvailable, st.decoderManifest.updateAvailable⟩

/-- The flag checks at the start of a pass of `doWork`: the manifest and the list it processes. -/
def startPass (st : Inputs Body) :
    (Option IDecoderManifest × Option (ICollectionSchemeList Body)) × Inputs Body :=
  ((st.decoderManifest.pass.1, st.collectionScheme.pass.1),
    ⟨st.collectionScheme.pass.2, st.decoderManifest.pass.2⟩)

inductive InputEvent (Body : Type)
  | onCollectionSchemeUpdate (collectionSchemeList : Option (ICollectionSchemeList Body))
  | onDecoderManifestUpdate (decoderManifest : Option IDecoderManifest)
  | updateAvailable
  | startPass

def inputStep (e : InputEvent Body)
    (r : Inputs Body × List (Option IDecoderManifest × Option (ICollectionSchemeList Body))) :
    Inputs Body × List (Option IDecoderManifest × Option (ICollectionSchemeList Body)) :=
  match e with
  | .onCollectionSchemeUpdate l => (onCollectionSchemeUpdate l r.1, r.2)
  | .onDecoderManifestUpdate d => (onDecoderManifestUpdate d r.1, r.2)
  | .updateAvailable => (updateAvailable r.1, r.2)
  | .startPass => ((startPass r.1).2, r.2 ++ [(startPass r.1).1])

/-- A schedule from the inputs as constructed. -/
def runInputs (es : List (InputEvent Body)) :
    Inputs Body × List (Option IDecoderManifest × Option (ICollectionSchemeList Body)) :=
  es.foldl (fun r e => inputStep e r) (⟨Slot.init, Slot.init⟩, [])

def InputEvent.collectionScheme : InputEvent Body → Option (Slot.Event (ICollectionSchemeList Body))
  | .onCollectionSchemeUpdate l => some (.onUpdate l)
  | .onDecoderManifestUpdate _ => none
  | .updateAvailable => some .updateAvailable
  | .startPass => some .pass

def InputEvent.decoderManifest : InputEvent Body → Option (Slot.Event IDecoderManifest)
  | .onCollectionSchemeUpdate _ => none
  | .onDecoderManifestUpdate d => some (.onUpdate d)
  | .updateAvailable => some .updateAvailable
  | .startPass => some .pass

theorem runInputs_slots (es : List (InputEvent Body)) :
    ((runInputs es).1.collectionScheme, (runInputs es).2.map Prod.snd) =
        Slot.run (es.filterMap InputEvent.collectionScheme) ∧
      ((runInputs es).1.decoderManifest, (runInputs es).2.map Prod.fst) =
        Slot.run (es.filterMap InputEvent.decoderManifest) :=
  ⟨foldl_filterMap_proj _ (fun r => (r.1.collectionScheme, r.2.map Prod.snd)) inputStep Slot.step
      (fun e _ => by
        cases e <;> simp [inputStep, startPass, InputEvent.collectionScheme, Slot.step] <;> rfl) es _,
    foldl_filterMap_proj _ (fun r => (r.1.decoderManifest, r.2.map Prod.fst)) inputStep Slot.step
      (fun e _ => by
        cases e <;> simp [inputStep, startPass, InputEvent.decoderManifest, Slot.step] <;> rfl) es _⟩

theorem onCollectionSchemeUpdate_mem_of_taken {es : List (InputEvent Body)}
    {list : ICollectionSchemeList Body} (h : some list ∈ (runInputs es).2.map Prod.snd) :
    .onCollectionSchemeUpdate (some list) ∈ es := by
  have hslot : (runInputs es).2.map Prod.snd =
      (Slot.run (es.filterMap InputEvent.collectionScheme)).2 :=
    congrArg Prod.snd (runInputs_slots es).1
  rw [hslot] at h
  obtain ⟨e, he, hev⟩ := List.mem_filterMap.mp (Slot.onUpdate_mem_of_run h)
  cases e
  case onCollectionSchemeUpdate l =>
    simp only [InputEvent.collectionScheme, Option.some.injEq, Slot.Event.onUpdate.injEq] at hev
    exact hev ▸ he
  all_goals simp [InputEvent.collectionScheme] at hev

end CollectionSchemeManager

end FleetWise
