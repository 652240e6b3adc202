import AlignedLedger.Proofs.Tree.Laws
import AlignedLedger.Proofs.Tree.Paths

/-! What trees take up in storage as parts of them give way to others. -/

namespace AlignedLedger

theorem AlignedValue.layOut_eq_ok [Memory] {k : AlignedValue} {b : Bytes} :
    k.layOut = .ok b ↔ k.requestBinary = .ok () ∧ b = k.binary := by
  rw [layOut, bind_eq_ok]
  constructor
  · rintro ⟨_, hk, ⟨⟩⟩
    exact ⟨hk, rfl⟩
  · rintro ⟨hk, rfl⟩
    exact ⟨(), hk, rfl⟩

namespace Tree

variable {cfg : Config} {c t t' u v w : Tree} {k : AlignedValue} {ks : List AlignedValue}
variable {items : List Tree} {es : List (AlignedValue × Tree)}

theorem storageSizeList_set {i : Nat} (h : items[i]? = some u) (v : Tree) :
    storageSizeList (items.set i v) + u.storageSize = storageSizeList items + v.storageSize := by
  induction items generalizing i with
  | nil => simp at h
  | cons t items ih =>
    cases i with
    | zero =>
      obtain rfl : t = u := by simpa using h
      simp only [List.set_cons_zero, storageSizeList]
      omega
    | succ i =>
      have hrest := ih (i := i) (by simpa using h)
      simp only [List.set_cons_succ, storageSizeList]
      omega

/-- What the entry under a key takes up, if there is one. -/
def held (k : AlignedValue) (es : List (AlignedValue × Tree)) : Nat :=
  match Entries.get? k es with
  | some u => k.binaryLength + u.storageSize
  | none => 0

theorem held_of_get? (h : Entries.get? k es = some u) : held k es = k.binaryLength + u.storageSize := by
  rw [held, h]

theorem held_of_get?_eq_none (h : Entries.get? k es = none) : held k es = 0 := by
  rw [held, h]

theorem held_cons_self (k : AlignedValue) (u : Tree) (es : List (AlignedValue × Tree)) :
    held k ((k, u) :: es) = k.binaryLength + u.storageSize :=
  held_of_get? (by rw [Entries.get?, if_pos rfl])

theorem held_cons_of_ne {e : AlignedValue × Tree} (h : e.1 ≠ k) : held k (e :: es) = held k es := by
  rw [held, Entries.get?, if_neg h, held]

/-- An entry put in takes the place of the one that its key had, if any. -/
theorem storageSizeEntries_insert (hs : Entries.Sorted es) (k : AlignedValue) (v : Tree) :
    storageSizeEntries (Entries.insert k v es) + held k es =
      storageSizeEntries es + (k.binaryLength + v.storageSize) := by
  induction es with
  | nil => simp [Entries.insert, storageSizeEntries, held, Entries.get?]
  | cons e es ih =>
    obtain ⟨l, u⟩ := e
    rw [Entries.insert]
    cases ho : k.order l with
    | lt =>
      rw [held_of_get?_eq_none (hs.get?_eq_none ho)]
      simp only [storageSizeEntries]
      omega
    | eq =>
      obtain rfl := Std.LawfulEqCmp.eq_of_compare ho
      rw [held_cons_self]
      simp only [storageSizeEntries]
      omega
    | gt =>
      have hne : l ≠ k := by
        rintro rfl
        simp at ho
      have hrest := ih (List.pairwise_cons.mp hs).2
      rw [held_cons_of_ne hne]
      simp only [storageSizeEntries]
      omega

theorem storageSizeEntries_erase (k : AlignedValue) (es : List (AlignedValue × Tree)) :
    storageSizeEntries (Entries.erase k es) + held k es = storageSizeEntries es := by
  induction es with
  | nil => rfl
  | cons e es ih =>
    obtain ⟨l, u⟩ := e
    rw [Entries.erase]
    by_cases hl : l = k
    · subst hl
      rw [if_pos rfl, held_cons_self, storageSizeEntries]
      omega
    · rw [if_neg hl, held_cons_of_ne hl, storageSizeEntries, storageSizeEntries]
      omega

variable [Memory]

theorem Built.storageSize_insert (hb : Built cfg c) (hi : c.index k = .ok u) (h : c.insert cfg k v = .ok t) :
    t.storageSize + u.storageSize = c.storageSize + v.storageSize := by
  cases c with
  | array items =>
    obtain ⟨i, hk, hu⟩ := index_array_eq_ok.mp hi
    obtain ⟨j, hk', -, -, rfl⟩ := insert_array_eq_ok.mp h
    obtain rfl := Option.some.inj (hk.symm.trans hk')
    have hset := storageSizeList_set hu v
    simp only [storageSize]
    omega
  | map es =>
    obtain ⟨-, rfl⟩ := insert_map_eq_ok.mp h
    have hinsert := storageSizeEntries_insert (built_map_iff.mp hb).1 k v
    rw [held_of_get? (index_map_eq_ok.mp hi)] at hinsert
    simp only [storageSize]
    omega
  | null => cases hi
  | cell x => cases hi

/-- What takes up room changes by just what gives way and what comes in; a key counts with its binary
form. -/
structure StorageLaws (cfg : Config) (c : Tree) : Prop where
  replace : ∀ k u v, c.index k = .ok u → ∃ t, c.insert cfg k v = .ok t ∧
    (t.storageSize : Int) = c.storageSize - u.storageSize + v.storageSize
  add : ∀ k v b, c.get? k = .ok none → k.layOut = .ok b → ∃ t, c.insert cfg k v = .ok t ∧
    t.storageSize = c.storageSize + b.length + v.storageSize
  remove : ∀ k u, c.get? k = .ok (some u) → ∃ t b, c.remove k = .ok t ∧ k.layOut = .ok b ∧
    (t.storageSize : Int) = c.storageSize - (b.length + u.storageSize)

theorem storageLaws (hb : Built cfg c) : StorageLaws cfg c where
  replace k u v hi := by
    have hlaws := containerLaws hb
    have hback := (hlaws.insert_insert k v u).trans (hlaws.insert_index k u hi)
    obtain ⟨t, ht, -⟩ := bind_eq_ok.mp hback
    have hsize := hb.storageSize_insert hi ht
    exact ⟨t, ht, by omega⟩
  add k v b hk hform := by
    obtain ⟨hroom, rfl⟩ := AlignedValue.layOut_eq_ok.mp hform
    cases c with
    | map es =>
      have hsize := storageSizeEntries_insert (built_map_iff.mp hb).1 k v
      rw [held_of_get?_eq_none (Except.ok.inj hk)] at hsize
      refine ⟨_, insert_map_eq_ok.mpr ⟨hroom, rfl⟩, ?_⟩
      rw [AlignedValue.length_binary, storageSize, storageSize]
      omega
    | _ => cases hk
  remove k u hk := by
    cases c with
    | map es =>
      have hget : Entries.get? k es = some u := Except.ok.inj hk
      have hroom := requestBinary_of_index hb (index_map_eq_ok.mpr hget)
      have hsize := storageSizeEntries_erase k es
      rw [held_of_get? hget] at hsize
      have hform : k.layOut = .ok k.binary := AlignedValue.layOut_eq_ok.mpr ⟨hroom, rfl⟩
      refine ⟨_, _, remove_map_eq_ok.mpr ⟨by rw [hget, Option.isSome_some], rfl⟩, hform, ?_⟩
      rw [AlignedValue.length_binary, storageSize, storageSize]
      omega
    | _ => cases hk

/-- What a path leads to gives way to something else, and all that is around it stays. -/
theorem Built.storageSize_putAt (hb : Built cfg t) (hw : t.walk ks = .ok u) (h : t.putAt cfg ks w = .ok t') :
    t'.storageSize + u.storageSize = t.storageSize + w.storageSize := by
  induction ks generalizing t t' with
  | nil =>
    cases hw
    cases h
    omega
  | cons k ks ih =>
    obtain ⟨c, hc, hbelow⟩ := walk_cons_eq_ok.mp hw
    obtain ⟨_, hc', h⟩ := bind_eq_ok.mp h
    obtain ⟨v, hv, hput⟩ := bind_eq_ok.mp h
    cases (childOrNull_of_index hc).symm.trans hc'
    rw [orNewMap_of_index hc] at hput
    have hchild := ih (hb.index hc) hbelow hv
    have hhere := hb.storageSize_insert hc hput
    omega

end Tree

end AlignedLedger
