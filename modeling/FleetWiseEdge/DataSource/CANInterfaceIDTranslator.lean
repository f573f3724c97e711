import Mathlib.Data.List.AList
import Mathlib.Data.List.Sort

/-!
# `CANInterfaceIDTranslator`

The translator between the interface IDs of the decoder manifest and the numeric channel IDs
used inside, as `DecoderDictionaryExtractorTest.cpp` defines it: `add` appends the pair of the
counter and the interface ID, and each getter returns the first pair that matches.
`INVALID_CAN_SOURCE_NUMERIC_ID` and `INVALID_INTERFACE_ID` are not in the sources; they are
parameters. `mCounter` is a `Nat`: with fewer adds than `INVALID_CAN_SOURCE_NUMERIC_ID`, a value
of its type, it never wraps.

* `foldl_add`: after a sequence of adds, `mLookup` pairs each interface ID with its position.
* `getChannelNumericID_ofAdds`, `getInterfaceID_ofAdds`: the two getters in closed form, the
  position of the first add and the interface ID added at a position.
* **`ofAdds_roundTrip`**: the numeric IDs of the added interface IDs are distinct and valid, and
  the getters invert each other on them.
-/

namespace FleetWise

abbrev InterfaceID := String

/-- `CANInterfaceIDTranslator`: `mLookup` and `mCounter`. -/
structure CANInterfaceIDTranslator where
  lookup : List (Nat × InterfaceID)
  counter : Nat

namespace CANInterfaceIDTranslator

def init : CANInterfaceIDTranslator := ⟨[], 0⟩

/-- `add(iid)`: the pair of the counter and `iid` goes last, and the counter goes up. -/
def add (t : CANInterfaceIDTranslator) (iid : InterfaceID) : CANInterfaceIDTranslator :=
  ⟨t.lookup ++ [(t.counter, iid)], t.counter + 1⟩

section Getters

variable (invalidCANSourceNumericID : Nat) (invalidInterfaceID : InterfaceID)

/-- `getChannelNumericID(iid)`: the numeric ID of the first pair with interface ID `iid`. -/
def getChannelNumericID (t : CANInterfaceIDTranslator) (iid : InterfaceID) : Nat :=
  match t.lookup.find? (·.2 = iid) with
  | some l => l.1
  | none => invalidCANSourceNumericID

/-- `getInterfaceID(cid)`: the interface ID of the first pair with numeric ID `cid`. -/
def getInterfaceID (t : CANInterfaceIDTranslator) (cid : Nat) : InterfaceID :=
  match t.lookup.find? (·.1 = cid) with
  | some l => l.2
  | none => invalidInterfaceID

end Getters

def ofAdds (iids : List InterfaceID) : CANInterfaceIDTranslator :=
  iids.foldl add init

/-! ## The pairs after a sequence of adds -/

theorem foldl_add : ∀ (iids : List InterfaceID) (t : CANInterfaceIDTranslator),
    iids.foldl add t = ⟨t.lookup ++ iids.enumFrom t.counter, t.counter + iids.length⟩
  | [], t => by simp
  | iid :: iids, t => by
    rw [List.foldl_cons, foldl_add iids]
    simp only [add, List.append_assoc, List.singleton_append, List.enumFrom_cons, List.length_cons]
    congr 1
    omega

theorem ofAdds_lookup (iids : List InterfaceID) : (ofAdds iids).lookup = iids.enumFrom 0 := by
  simp [ofAdds, foldl_add, init]

theorem find?_snd_enumFrom (iid : InterfaceID) : ∀ (l : List InterfaceID) (k : Nat),
    (l.enumFrom k).find? (·.2 = iid) = if iid ∈ l then some (k + l.indexOf iid, iid) else none
  | [], _ => rfl
  | a :: l, k => by
    by_cases h : a = iid
    · subst h
      simp [List.enumFrom_cons, List.find?_cons, List.indexOf_cons_eq]
    · simp [List.enumFrom_cons, List.find?_cons, h, Ne.symm h, find?_snd_enumFrom iid l,
        List.indexOf_cons_ne _ h, Nat.add_right_comm k 1, ← Nat.add_assoc]

theorem find?_fst_enumFrom {cid : Nat} : ∀ (l : List InterfaceID) (k : Nat), k ≤ cid →
    ((l.enumFrom k).find? (·.1 = cid)).map Prod.snd = l[cid - k]?
  | [], _, _ => rfl
  | a :: l, k, hk => by
    rw [List.enumFrom_cons, List.find?_cons]
    by_cases h : k = cid
    · subst h
      simp
    · have hc : cid - k = cid - (k + 1) + 1 := by omega
      simp only [h, decide_eq_false, hc, List.getElem?_cons_succ]
      exact find?_fst_enumFrom l (k + 1) (by omega)

section AfterAdds

variable (invalidCANSourceNumericID : Nat) (invalidInterfaceID : InterfaceID)

theorem getChannelNumericID_ofAdds (iids : List InterfaceID) (iid : InterfaceID) :
    getChannelNumericID invalidCANSourceNumericID (ofAdds iids) iid =
      if iid ∈ iids then iids.indexOf iid else invalidCANSourceNumericID := by
  simp only [getChannelNumericID, ofAdds_lookup, find?_snd_enumFrom]
  split_ifs <;> simp

theorem getInterfaceID_ofAdds (iids : List InterfaceID) (cid : Nat) :
    getInterfaceID invalidInterfaceID (ofAdds iids) cid = iids[cid]?.getD invalidInterfaceID := by
  have h := find?_fst_enumFrom iids 0 (Nat.zero_le cid)
  rw [Nat.sub_zero] at h
  rw [getInterfaceID, ofAdds_lookup, ← h]
  cases (iids.enumFrom 0).find? (·.1 = cid) <;> rfl

/-- **The round trip**: after fewer adds than the invalid ID, distinct IDs map back and forth. -/
theorem ofAdds_roundTrip (iids : List InterfaceID) (hn : iids.length < invalidCANSourceNumericID) :
    (∀ iid ∈ iids,
      getChannelNumericID invalidCANSourceNumericID (ofAdds iids) iid = iids.indexOf iid) ∧
    (∀ iid₁ ∈ iids, ∀ iid₂ ∈ iids, iid₁ ≠ iid₂ →
      getChannelNumericID invalidCANSourceNumericID (ofAdds iids) iid₁ ≠
        getChannelNumericID invalidCANSourceNumericID (ofAdds iids) iid₂) ∧
    (∀ iid ∈ iids,
      getChannelNumericID invalidCANSourceNumericID (ofAdds iids) iid ≠ invalidCANSourceNumericID) ∧
    (∀ iid ∈ iids, getInterfaceID invalidInterfaceID (ofAdds iids)
      (getChannelNumericID invalidCANSourceNumericID (ofAdds iids) iid) = iid) ∧
    (∀ iid, iid ∉ iids →
      getChannelNumericID invalidCANSourceNumericID (ofAdds iids) iid = invalidCANSourceNumericID) ∧
    ∀ cid iid, iids[cid]? = some iid → iids.indexOf iid = cid →
      getChannelNumericID invalidCANSourceNumericID (ofAdds iids)
        (getInterfaceID invalidInterfaceID (ofAdds iids) cid) = cid := by
  have hpos : ∀ iid ∈ iids,
      getChannelNumericID invalidCANSourceNumericID (ofAdds iids) iid = iids.indexOf iid :=
    fun iid h => by rw [getChannelNumericID_ofAdds, if_pos h]
  refine ⟨hpos, fun iid₁ h₁ iid₂ h₂ hne => ?_, fun iid h => ?_, fun iid h => ?_,
    fun iid h => by rw [getChannelNumericID_ofAdds, if_neg h], fun cid iid hc hfirst => ?_⟩
  · rw [hpos iid₁ h₁, hpos iid₂ h₂]
    exact mt (List.indexOf_inj h₁ h₂).mp hne
  · rw [hpos iid h]
    exact (List.indexOf_lt_length.mpr h).trans hn |>.ne
  · rw [hpos iid h, getInterfaceID_ofAdds, List.getElem?_eq_getElem (List.indexOf_lt_length.mpr h),
      List.getElem_indexOf]
    rfl
  · rw [getInterfaceID_ofAdds, hc, Option.getD_some, hpos iid (List.getElem?_mem hc), hfirst]

theorem ofAdds_roundTrip_distinct :
    ["10", "20"].length < 0xFFFFFFFF ∧
      getChannelNumericID 0xFFFFFFFF (ofAdds ["10", "20"]) "10" ≠
        getChannelNumericID 0xFFFFFFFF (ofAdds ["10", "20"]) "20" :=
  have hn : ["10", "20"].length < 0xFFFFFFFF := by decide
  ⟨hn, (ofAdds_roundTrip 0xFFFFFFFF "" ["10", "20"] hn).2.1 "10" (by decide) "20" (by decide)
    (by decide)⟩

end AfterAdds

end CANInterfaceIDTranslator

end FleetWise
