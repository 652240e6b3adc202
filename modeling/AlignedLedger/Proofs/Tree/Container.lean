import AlignedLedger.Proofs.Alignment.Segments
import AlignedLedger.Proofs.Tree.Constructors
import AlignedLedger.Proofs.Tree.Entries

/-! Reaching into a container and changing it, taken together. What is put under a key is found there,
what is found under keys that name other places stays, and trees within the caps stay within them. -/

namespace AlignedLedger.Tree

variable {cfg : Config} {t t' u v : Tree} {k l : AlignedValue} {items : List Tree}
variable {es : List (AlignedValue × Tree)}

theorem position_eq_ok {size i : Nat} :
    position k size = .ok i ↔ k.toNat? = some i ∧ i < size := by
  unfold position
  cases k.toNat? with
  | none => simp
  | some j =>
    by_cases h : j < size
    · simp only [if_pos h, Except.ok.injEq, Option.some.injEq]
      constructor
      · rintro rfl
        exact ⟨rfl, h⟩
      · exact And.left
    · simp only [if_neg h, reduceCtorEq, Option.some.injEq, false_iff, not_and]
      rintro rfl
      exact h

theorem index_array_eq_ok :
    (array items).index k = .ok u ↔ ∃ i, k.toNat? = some i ∧ items[i]? = some u := by
  rw [index, bind_eq_ok]
  constructor
  · rintro ⟨i, hi, h⟩
    refine ⟨i, (position_eq_ok.mp hi).1, ?_⟩
    split at h
    · next hu => rw [hu, Except.ok.inj h]
    · simp at h
  · rintro ⟨i, hi, hu⟩
    refine ⟨i, position_eq_ok.mpr ⟨hi, (List.getElem?_eq_some_iff.mp hu).1⟩, ?_⟩
    rw [hu]
    rfl

theorem index_map_eq_ok : (map es).index k = .ok u ↔ Entries.get? k es = some u := by
  rw [index]
  cases Entries.get? k es <;> simp

theorem insert_array_eq_ok [Memory] :
    (array items).insert cfg k v = .ok t ↔ ∃ i, k.toNat? = some i ∧ i < items.length ∧
      items.length ≤ cfg.maxArrayLength ∧ t = array (items.set i v) := by
  rw [insert, bind_eq_ok]
  simp only [position_eq_ok, makeArray_eq_ok, List.length_set, and_assoc]

theorem insert_index_array [Memory] (hl : items.length ≤ cfg.maxArrayLength) (h : (array items).index k = .ok u) :
    (array items).insert cfg k u = .ok (array items) := by
  obtain ⟨i, hi, hu⟩ := index_array_eq_ok.mp h
  obtain ⟨hlt, hget⟩ := List.getElem?_eq_some_iff.mp hu
  refine insert_array_eq_ok.mpr ⟨i, hi, hlt, hl, ?_⟩
  rw [← hget, List.set_getElem_self]

theorem insert_map_eq_ok [Memory] :
    (map es).insert cfg k v = .ok t ↔
      k.requestBinary = .ok () ∧ t = map (Entries.insert k v es) := by
  rw [insert, bind_eq_ok]
  constructor
  · rintro ⟨_, hk, ht⟩
    exact ⟨hk, (Except.ok.inj ht).symm⟩
  · rintro ⟨hk, rfl⟩
    exact ⟨(), hk, rfl⟩

theorem remove_map_eq_ok :
    (map es).remove k = .ok t ↔ (Entries.get? k es).isSome ∧ t = map (Entries.erase k es) := by
  rw [remove]
  split <;> simp [*, eq_comm]

/-- The keys name different places of the container. In an array only the number of a key counts. -/
def Apart (t : Tree) (k l : AlignedValue) : Prop :=
  match t with
  | array _ => k.toNat? ≠ l.toNat?
  | _ => k ≠ l

instance (t : Tree) (k l : AlignedValue) : Decidable (t.Apart k l) := by
  unfold Apart
  split <;> infer_instance

theorem index_insert_self [Memory] (h : t.insert cfg k v = .ok t') : t'.index k = .ok v := by
  cases t with
  | array items =>
    obtain ⟨i, hi, hlt, -, rfl⟩ := insert_array_eq_ok.mp h
    refine index_array_eq_ok.mpr ⟨i, hi, ?_⟩
    rw [List.getElem?_set_self hlt]
  | map es =>
    obtain ⟨-, rfl⟩ := insert_map_eq_ok.mp h
    exact index_map_eq_ok.mpr (Entries.get?_insert_self k v es)
  | null => simp [insert] at h
  | cell w => simp [insert] at h

/-- At every other place there is what there was, be it nothing. -/
theorem index_insert_of_apart [Memory] (h : t.insert cfg k v = .ok t') (hl : t.Apart k l) :
    t'.index l = t.index l := by
  cases t with
  | array items =>
    obtain ⟨i, hi, -, -, rfl⟩ := insert_array_eq_ok.mp h
    have hne : l.toNat? ≠ some i := fun hh => hl (hi.trans hh.symm)
    rw [index, index, List.length_set]
    cases hp : position l items.length with
    | error e => rfl
    | ok j =>
      have hji : i ≠ j := by
        rintro rfl
        exact hne (position_eq_ok.mp hp).1
      simp only [ok_bind, List.getElem?_set_ne hji]
  | map es =>
    obtain ⟨-, rfl⟩ := insert_map_eq_ok.mp h
    rw [index, index, Entries.get?_insert_of_ne (Ne.symm hl)]
  | null => simp [insert] at h
  | cell w => simp [insert] at h

theorem index_iff_of_not_apart (h : ¬ t.Apart k l) : t.index k = .ok u ↔ t.index l = .ok u := by
  cases t with
  | array items =>
    have hh : k.toNat? = l.toNat? := not_not.mp h
    rw [index_array_eq_ok, index_array_eq_ok, hh]
  | _ =>
    obtain rfl : k = l := not_not.mp h
    exact Iff.rfl

theorem apart_insert_iff [Memory] {a b : AlignedValue} (h : t.insert cfg k v = .ok t') :
    t'.Apart a b ↔ t.Apart a b := by
  cases t with
  | array items =>
    obtain ⟨i, -, -, -, rfl⟩ := insert_array_eq_ok.mp h
    exact Iff.rfl
  | map es =>
    obtain ⟨-, rfl⟩ := insert_map_eq_ok.mp h
    exact Iff.rfl
  | null => simp [insert] at h
  | cell w => simp [insert] at h

section Refused

variable {e : Fault}

theorem kind_of_position {size : Nat} (h : position k size = .error e) : e.kind = .structural := by
  unfold position at h
  split at h
  · cases h
    rfl
  · split at h
    · cases h
    · cases h
      rfl

theorem kind_of_index (h : t.index k = .error e) : e.kind = .structural := by
  cases t with
  | array items =>
    rcases bind_eq_error.mp h with h | ⟨i, -, h⟩
    · exact kind_of_position h
    · split at h
      · cases h
      · cases h
        rfl
  | map entries =>
    rw [index] at h
    split at h
    · cases h
    · cases h
      rfl
  | _ =>
    cases h
    rfl

theorem kind_of_insert [Memory] (hk : k.requestBinary = .ok ()) (h : t.insert cfg k u = .error e) :
    e.kind = .structural := by
  cases t with
  | array items =>
    rcases bind_eq_error.mp h with h | ⟨i, -, h⟩
    · exact kind_of_position h
    · unfold makeArray at h
      split at h
      · cases h
      · cases h
        rfl
  | map entries =>
    rw [insert, hk] at h
    cases h
  | _ =>
    cases h
    rfl

end Refused

variable [Memory]

section Built

theorem built_cell_iff {w : AlignedValue} :
    Built cfg (cell w) ↔ w.binaryLength ≤ cfg.maxCellBytes := by
  constructor
  · intro h
    cases h with
    | cell h =>
      obtain ⟨hw, ⟨⟩⟩ := makeCell_eq_ok.mp h
      exact hw
    | array _ h => simpa using (makeArray_eq_ok.mp h).2
    | map _ h => simpa using (makeMap_eq_ok.mp h).2
  · intro h
    exact .cell (makeCell_eq_ok.mpr ⟨h, rfl⟩)

theorem built_array_iff :
    Built cfg (array items) ↔ items.length ≤ cfg.maxArrayLength ∧ ∀ u ∈ items, Built cfg u := by
  constructor
  · intro h
    cases h with
    | cell h => simpa using (makeCell_eq_ok.mp h).2
    | array hi h =>
      obtain ⟨hl, ⟨⟩⟩ := makeArray_eq_ok.mp h
      exact ⟨hl, hi⟩
    | map _ h => simpa using (makeMap_eq_ok.mp h).2
  · rintro ⟨hl, hi⟩
    exact .array hi (makeArray_eq_ok.mpr ⟨hl, rfl⟩)

theorem built_map_iff :
    Built cfg (map es) ↔
      Entries.Sorted es ∧ ∀ e ∈ es, e.1.requestBinary = .ok () ∧ Built cfg e.2 := by
  constructor
  · intro h
    cases h with
    | cell h => simpa using (makeCell_eq_ok.mp h).2
    | array _ h => simpa using (makeArray_eq_ok.mp h).2
    | @map fs t he h =>
      obtain ⟨hk, ht⟩ := makeMap_eq_ok.mp h
      obtain rfl := map.inj ht
      refine ⟨Entries.sorted_ofList fs, fun e hm => ?_⟩
      have hm := Entries.mem_of_mem_ofList hm
      exact ⟨hk e hm, he e hm⟩
  · rintro ⟨hs, he⟩
    refine .map (fun e hm => (he e hm).2) (makeMap_eq_ok.mpr ⟨fun e hm => (he e hm).1, ?_⟩)
    rw [Entries.ofList_of_sorted hs]

theorem Built.index (hb : Built cfg t) (h : t.index k = .ok u) : Built cfg u := by
  cases t with
  | array items =>
    obtain ⟨i, -, hu⟩ := index_array_eq_ok.mp h
    exact (built_array_iff.mp hb).2 u (List.mem_of_getElem? hu)
  | map es =>
    have hm := Entries.mem_of_get? (index_map_eq_ok.mp h)
    exact ((built_map_iff.mp hb).2 _ hm).2
  | null => simp [Tree.index] at h
  | cell w => simp [Tree.index] at h

theorem Built.insert (hb : Built cfg t) (hv : Built cfg v) (h : t.insert cfg k v = .ok t') :
    Built cfg t' := by
  cases t with
  | array items =>
    obtain ⟨i, -, -, hl, rfl⟩ := insert_array_eq_ok.mp h
    refine built_array_iff.mpr ⟨by rwa [List.length_set], fun u hu => ?_⟩
    rcases List.mem_or_eq_of_mem_set hu with hm | rfl
    · exact (built_array_iff.mp hb).2 u hm
    · exact hv
  | map es =>
    obtain ⟨hk, rfl⟩ := insert_map_eq_ok.mp h
    obtain ⟨hs, he⟩ := built_map_iff.mp hb
    refine built_map_iff.mpr ⟨hs.insert k v, fun e hm => ?_⟩
    rcases Entries.mem_of_mem_insert hm with rfl | hm
    · exact ⟨hk, hv⟩
    · exact he e hm
  | null => simp [Tree.insert] at h
  | cell w => simp [Tree.insert] at h

theorem Built.remove (hb : Built cfg t) (h : t.remove k = .ok t') : Built cfg t' := by
  cases t with
  | map es =>
    obtain ⟨-, rfl⟩ := remove_map_eq_ok.mp h
    obtain ⟨hs, he⟩ := built_map_iff.mp hb
    exact built_map_iff.mpr ⟨hs.erase k, fun e hm => he e (Entries.mem_of_mem_erase hm)⟩
  | _ => simp [Tree.remove] at h

theorem Built.push (hb : Built cfg t) (hv : Built cfg v) (h : t.push cfg v = .ok t') : Built cfg t' := by
  cases t with
  | array items =>
    refine .array (fun u hu => ?_) h
    rcases List.mem_append.mp hu with hm | hm
    · exact (built_array_iff.mp hb).2 u hm
    · exact List.mem_singleton.mp hm ▸ hv
  | _ => simp [Tree.push] at h

/-- Where something is, something can be put, and what is there already changes nothing. -/
theorem Built.exists_insert (hb : Built cfg t) (hk : k.requestBinary = .ok ())
    (h : t.index k = .ok u) (v : Tree) :
    ∃ t', t.insert cfg k v = .ok t' := by
  cases t with
  | array items =>
    obtain ⟨i, hi, hu⟩ := index_array_eq_ok.mp h
    exact ⟨_, insert_array_eq_ok.mpr
      ⟨i, hi, (List.getElem?_eq_some_iff.mp hu).1, (built_array_iff.mp hb).1, rfl⟩⟩
  | map es => exact ⟨_, insert_map_eq_ok.mpr ⟨hk, rfl⟩⟩
  | null => simp [Tree.index] at h
  | cell w => simp [Tree.index] at h

theorem Built.insert_index (hb : Built cfg t) (hk : k.requestBinary = .ok ())
    (h : t.index k = .ok u) : t.insert cfg k u = .ok t := by
  cases t with
  | array items => exact insert_index_array (built_array_iff.mp hb).1 h
  | map es =>
    refine insert_map_eq_ok.mpr ⟨hk, ?_⟩
    rw [Entries.insert_get? (built_map_iff.mp hb).1 (index_map_eq_ok.mp h)]
  | null => simp [Tree.index] at h
  | cell w => simp [Tree.index] at h

end Built

end AlignedLedger.Tree
