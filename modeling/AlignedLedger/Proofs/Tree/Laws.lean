import AlignedLedger.Proofs.Tree.WellFormed
import AlignedLedger.Tree.Foreign

/-! The laws of containers. Arrays and maps keep what is put into them under different notions of a key:
in an array only its number counts, in a map the whole aligned value. -/

namespace AlignedLedger.Tree

variable {cfg : Config} {c t : Tree} {k l : AlignedValue} {u v w : Tree} {items : List Tree}
variable {es : List (AlignedValue × Tree)}

/-- The key is a single slot with a number, which is below the size. -/
def Addresses (k : AlignedValue) (size : Nat) : Prop :=
  ∃ a n, k.alignment = [a] ∧ a ≠ .compress ∧ k.toNat? = some n ∧ n < size

theorem addresses_iff {size : Nat} : Addresses k size ↔ ∃ n, k.toNat? = some n ∧ n < size := by
  constructor
  · rintro ⟨-, n, -, -, hn, hlt⟩
    exact ⟨n, hn, hlt⟩
  · rintro ⟨n, hn, hlt⟩
    obtain ⟨s, width, rfl, hwidth, -⟩ := AlignedValue.toNat?_eq_some_iff.mp hn
    refine ⟨s.atom, n, rfl, ?_, hn, hlt⟩
    intro ha
    rw [ha] at hwidth
    cases hwidth

/-- What arrays and maps have in common. -/
structure ContainerLaws [Memory] (cfg : Config) (c : Tree) : Prop where
  index_insert : ∀ k v t, c.insert cfg k v = .ok t → t.index k = .ok v
  index_apart : ∀ k l v t, c.insert cfg k v = .ok t → c.Apart k l → t.index l = c.index l
  insert_index : ∀ k u, c.index k = .ok u → c.insert cfg k u = .ok c
  insert_insert : ∀ k v w, (c.insert cfg k v >>= fun t => t.insert cfg k w) = c.insert cfg k w
  insert_comm : ∀ k l v w t, c.Apart k l →
    ((c.insert cfg k v >>= fun u => u.insert cfg l w) = .ok t ↔
      (c.insert cfg l w >>= fun u => u.insert cfg k v) = .ok t)

structure ArrayLaws [Memory] (cfg : Config) (c : Tree) : Prop where
  size_insert : ∀ k v t, c.insert cfg k v = .ok t → t.size = c.size
  exists_index : ∀ k, (∃ u, c.index k = .ok u) ↔ Addresses k c.size
  exists_insert : ∀ k v, (∃ t, c.insert cfg k v = .ok t) ↔ Addresses k c.size
  same_slot : ∀ k l n, k.toNat? = some n → l.toNat? = some n →
    c.index k = c.index l ∧ ∀ v, c.insert cfg k v = c.insert cfg l v

structure MapLaws [Memory] (cfg : Config) (c : Tree) : Prop where
  size_insert : ∀ k v t, c.insert cfg k v = .ok t →
    (c.contains k = .ok true → t.size = c.size) ∧ (c.contains k = .ok false → t.size = c.size + 1)
  exists_remove : ∀ k, (∃ t, c.remove k = .ok t) ↔ c.contains k = .ok true
  remove : ∀ k t, c.remove k = .ok t → t.contains k = .ok false ∧ t.size + 1 = c.size ∧
    ∀ l, l ≠ k → t.index l = c.index l
  remove_insert : ∀ k v t, c.contains k = .ok false → c.insert cfg k v = .ok t → t.remove k = .ok c
  lookups : ∃ ks, c.keys = .ok ks ∧ ks.Nodup ∧ ks.length = c.size ∧
    ∀ k, (c.contains k = .ok true ∧ k ∈ ks ∧ ∃ u, c.index k = .ok u ∧ c.get? k = .ok (some u)) ∨
      (c.contains k = .ok false ∧ k ∉ ks ∧ c.index k = .error (.missingMapKey k) ∧ c.get? k = .ok none)

theorem contains_map (es : List (AlignedValue × Tree)) (k : AlignedValue) (b : Bool) :
    (map es).contains k = .ok b ↔ (Entries.get? k es).isSome = b := by
  rw [contains, Except.ok.injEq]

section Array

theorem exists_index_array : (∃ u, (array items).index k = .ok u) ↔ Addresses k items.length := by
  simp only [index_array_eq_ok, addresses_iff]
  constructor
  · rintro ⟨u, i, hi, hu⟩
    exact ⟨i, hi, (List.getElem?_eq_some_iff.mp hu).1⟩
  · rintro ⟨i, hi, hlt⟩
    exact ⟨items[i], i, hi, List.getElem?_eq_getElem hlt⟩

theorem exists_insert_array [Memory] (hl : items.length ≤ cfg.maxArrayLength) :
    (∃ t, (array items).insert cfg k v = .ok t) ↔ Addresses k items.length := by
  simp only [insert_array_eq_ok, addresses_iff]
  constructor
  · rintro ⟨t, i, hi, hlt, -⟩
    exact ⟨i, hi, hlt⟩
  · rintro ⟨i, hi, hlt⟩
    exact ⟨_, i, hi, hlt, hl, rfl⟩

theorem position_congr {size : Nat} {n : Nat} (hk : k.toNat? = some n) (hl : l.toNat? = some n) :
    position k size = position l size := by
  rw [position, position, hk, hl]

variable [Memory]

theorem arrayLaws (hl : items.length ≤ cfg.maxArrayLength) : ArrayLaws cfg (array items) where
  size_insert k v t h := by
    obtain ⟨i, -, -, -, rfl⟩ := insert_array_eq_ok.mp h
    exact List.length_set
  exists_index _ := exists_index_array
  exists_insert _ _ := exists_insert_array hl
  same_slot k l n hk hl := by
    have hposition : position k items.length = position l items.length := position_congr hk hl
    refine ⟨?_, fun v => ?_⟩
    · rw [index, index, hposition]
    · rw [insert, insert, hposition]

/-- The second insertion finds the key at the same position. -/
theorem insert_insert_array (hl : items.length ≤ cfg.maxArrayLength) :
    ((array items).insert cfg k v >>= fun t => t.insert cfg k w) = (array items).insert cfg k w := by
  cases hp : position k items.length with
  | error e => rw [insert, insert, hp, error_bind, error_bind, error_bind]
  | ok i =>
    have hfirst : (array items).insert cfg k v = .ok (array (items.set i v)) := by
      obtain ⟨hi, hlt⟩ := position_eq_ok.mp hp
      exact insert_array_eq_ok.mpr ⟨i, hi, hlt, hl, rfl⟩
    rw [hfirst, ok_bind, insert, insert, List.length_set, hp, ok_bind, ok_bind, List.set_set]

theorem insert_comm_array (ha : (array items).Apart k l)
    (h : ((array items).insert cfg k v >>= fun u => u.insert cfg l w) = .ok t) :
    ((array items).insert cfg l w >>= fun u => u.insert cfg k v) = .ok t := by
  obtain ⟨_, hfirst, hsecond⟩ := bind_eq_ok.mp h
  obtain ⟨i, hi, hilt, hmax, rfl⟩ := insert_array_eq_ok.mp hfirst
  obtain ⟨j, hj, hjlt, -, rfl⟩ := insert_array_eq_ok.mp hsecond
  rw [List.length_set] at hjlt
  have hne : i ≠ j := by
    rintro rfl
    exact ha (hi.trans hj.symm)
  refine bind_eq_ok.mpr ⟨_, insert_array_eq_ok.mpr ⟨j, hj, hjlt, hmax, rfl⟩, ?_⟩
  refine insert_array_eq_ok.mpr ⟨i, hi, by rwa [List.length_set], by rwa [List.length_set], ?_⟩
  rw [List.set_comm _ _ hne]

end Array

section Map

variable [Memory]

theorem insert_insert_map (hs : Entries.Sorted es) :
    ((map es).insert cfg k v >>= fun t => t.insert cfg k w) = (map es).insert cfg k w := by
  cases hk : k.requestBinary with
  | error e => rw [insert, insert, hk, error_bind, error_bind, error_bind]
  | ok =>
    have hfirst : (map es).insert cfg k v = .ok (map (Entries.insert k v es)) :=
      insert_map_eq_ok.mpr ⟨hk, rfl⟩
    rw [hfirst, ok_bind, insert, insert, hs.insert_insert]

theorem insert_comm_map (hs : Entries.Sorted es) (ha : (map es).Apart k l)
    (h : ((map es).insert cfg k v >>= fun u => u.insert cfg l w) = .ok t) :
    ((map es).insert cfg l w >>= fun u => u.insert cfg k v) = .ok t := by
  obtain ⟨_, hfirst, hsecond⟩ := bind_eq_ok.mp h
  obtain ⟨hk, rfl⟩ := insert_map_eq_ok.mp hfirst
  obtain ⟨hl, rfl⟩ := insert_map_eq_ok.mp hsecond
  refine bind_eq_ok.mpr ⟨_, insert_map_eq_ok.mpr ⟨hl, rfl⟩, insert_map_eq_ok.mpr ⟨hk, ?_⟩⟩
  rw [hs.insert_comm ha]

theorem mapLaws (cfg : Config) (hs : Entries.Sorted es) : MapLaws cfg (map es) where
  size_insert k v t h := by
    obtain ⟨-, rfl⟩ := insert_map_eq_ok.mp h
    have hlength := hs.length_insert k v
    simp only [contains_map, size, hlength]
    exact ⟨fun hk => by rw [hk, if_pos rfl], fun hk => by rw [hk, if_neg Bool.false_ne_true]⟩
  exists_remove k := by
    simp only [remove_map_eq_ok, contains_map, exists_and_left, exists_eq, and_true]
  remove k t h := by
    obtain ⟨hk, rfl⟩ := remove_map_eq_ok.mp h
    refine ⟨?_, Entries.length_erase hk, fun l hl => ?_⟩
    · rw [contains_map, hs.get?_erase_self, Option.isSome_none]
    · rw [index, index, Entries.get?_erase_of_ne hl]
  remove_insert k v t hk h := by
    obtain ⟨-, rfl⟩ := insert_map_eq_ok.mp h
    have hnone : Entries.get? k es = none := by simpa [contains_map] using hk
    refine remove_map_eq_ok.mpr ⟨?_, ?_⟩
    · rw [Entries.get?_insert_self, Option.isSome_some]
    · rw [hs.erase_insert hnone]
  lookups := by
    refine ⟨es.map Prod.fst, rfl, hs.nodup_keys, es.length_map Prod.fst, fun k => ?_⟩
    simp only [contains_map, Entries.mem_keys_iff, index, get?]
    cases Entries.get? k es with
    | some u => exact .inl ⟨rfl, rfl, u, rfl, rfl⟩
    | none => exact .inr ⟨rfl, Bool.false_ne_true, rfl, rfl⟩

end Map

theorem apart_comm : c.Apart k l ↔ c.Apart l k := by
  cases c <;> exact ne_comm

section

variable [Memory]

/-- A key under which a map has something came in with room for its binary form. -/
theorem requestBinary_of_index (hb : Built cfg (map es)) (h : (map es).index k = .ok u) :
    k.requestBinary = .ok () :=
  ((built_map_iff.mp hb).2 _ (Entries.mem_of_get? (index_map_eq_ok.mp h))).1

theorem containerLaws (hb : Built cfg c) : ContainerLaws cfg c where
  index_insert _ _ _ := index_insert_self
  index_apart _ _ _ _ := index_insert_of_apart
  insert_index k u h := by
    cases c with
    | array items => exact insert_index_array (built_array_iff.mp hb).1 h
    | map es => exact hb.insert_index (requestBinary_of_index hb h) h
    | null => cases h
    | cell x => cases h
  insert_insert k v w := by
    cases c with
    | array items => exact insert_insert_array (built_array_iff.mp hb).1
    | map es => exact insert_insert_map (built_map_iff.mp hb).1
    | null => rfl
    | cell x => rfl
  insert_comm k l v w t ha := by
    cases c with
    | array items => exact ⟨insert_comm_array ha, insert_comm_array (apart_comm.mp ha)⟩
    | map es =>
      have hs := (built_map_iff.mp hb).1
      exact ⟨insert_comm_map hs ha, insert_comm_map hs (apart_comm.mp ha)⟩
    | null => exact iff_of_false nofun nofun
    | cell x => exact iff_of_false nofun nofun

/-- Every well-formed container keeps to the laws of its kind. -/
theorem laws_of_wellFormed (hc : WellFormed cfg c) :
    ContainerLaws cfg c ∧ (∀ items, c = array items → ArrayLaws cfg c) ∧
      ∀ es, c = map es → MapLaws cfg c := by
  refine ⟨containerLaws hc.built, ?_, ?_⟩
  · rintro items rfl
    exact arrayLaws (built_array_iff.mp hc.built).1
  · rintro es rfl
    exact mapLaws cfg (built_map_iff.mp hc.built).1

end

/-- Two keys of one number in an array, and a key that a map does not have. -/
theorem laws_of_array_in_map :
    let cfg := Config.ofEnvironment fun _ => none
    let one : AlignedValue := ⟨[⟨.bytes 1, [1], by decide⟩]⟩
    let other : AlignedValue := ⟨[⟨.field, [1], by decide⟩]⟩
    let a : Tree := .array [.null, .cell one]
    let m : Tree := .map [(one, a)]
    a.WellFormed cfg ∧ m.WellFormed cfg ∧ a.index one = a.index other ∧
      ∃ t, m.insert cfg other .null = .ok t ∧ t.size = 2 ∧ t.index one = .ok a ∧ t.remove other = .ok m := by
  intro cfg one other a m
  have hroom : one.requestBinary = .ok () := AlignedValue.requestBinary_eq_ok.mpr (by decide)
  have hroom' : other.requestBinary = .ok () := AlignedValue.requestBinary_eq_ok.mpr (by decide)
  have hcell : Built cfg (.cell one) := built_cell_iff.mpr (by decide)
  have ha : Built cfg a := by
    refine built_array_iff.mpr ⟨by decide, fun u hu => ?_⟩
    rcases List.mem_pair.mp hu with rfl | rfl
    · exact .null
    · exact hcell
  have hm : Built cfg m :=
    built_map_iff.mpr ⟨List.pairwise_singleton _ _, List.forall_mem_singleton.mpr ⟨hroom, ha⟩⟩
  obtain ⟨-, harray, -⟩ := laws_of_wellFormed ha.wellFormed
  obtain ⟨hcommon, -, hmap⟩ := laws_of_wellFormed hm.wellFormed
  have hother : m.contains other = .ok false := (contains_map _ _ _).mpr (by decide)
  obtain ⟨t, ht⟩ : ∃ t, m.insert cfg other .null = .ok t :=
    ⟨_, insert_map_eq_ok.mpr ⟨hroom', rfl⟩⟩
  have hindex : t.index one = m.index one := hcommon.index_apart other one .null t ht (by decide)
  exact ⟨ha.wellFormed, hm.wellFormed, ((harray _ rfl).same_slot one other 1 rfl rfl).1, t, ht,
    ((hmap _ rfl).size_insert other .null t ht).2 hother, hindex,
    (hmap _ rfl).remove_insert other .null t hother ht⟩

end AlignedLedger.Tree
