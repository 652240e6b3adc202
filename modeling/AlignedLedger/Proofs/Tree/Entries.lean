import AlignedLedger.Proofs.Alignment.Order
import AlignedLedger.Tree.Entries

/-! Entries brought into order stay in order, and bringing them into order again changes nothing. What is
put under one key is found under it, and what is found under the others stays. -/

namespace AlignedLedger.Entries

variable {α : Type} {k : AlignedValue} {x : α} {es : List (AlignedValue × α)}

theorem mem_of_mem_insert {e : AlignedValue × α} (h : e ∈ insert k x es) : e = (k, x) ∨ e ∈ es := by
  induction es with
  | nil => simpa [insert] using h
  | cons f es ih =>
    rw [insert] at h
    split at h
    · simpa using h
    · rcases List.mem_cons.mp h with rfl | hm
      · exact .inl rfl
      · exact .inr (List.mem_cons_of_mem _ hm)
    · rcases List.mem_cons.mp h with rfl | hm
      · exact .inr List.mem_cons_self
      · exact (ih hm).imp_right (List.mem_cons_of_mem _)

theorem Sorted.insert (k : AlignedValue) (x : α) (h : Sorted es) : Sorted (insert k x es) := by
  induction es with
  | nil => exact List.pairwise_singleton _ _
  | cons f es ih =>
    obtain ⟨hf, hs⟩ := List.pairwise_cons.mp h
    rw [Entries.insert]
    cases ho : k.order f.1 with
    | lt =>
      refine List.pairwise_cons.mpr ⟨fun e he => ?_, h⟩
      rcases List.mem_cons.mp he with rfl | hm
      · exact ho
      · exact Std.TransCmp.lt_trans ho (hf e hm)
    | eq =>
      obtain rfl := Std.LawfulEqCmp.eq_of_compare ho
      exact List.pairwise_cons.mpr ⟨hf, hs⟩
    | gt =>
      refine List.pairwise_cons.mpr ⟨fun e he => ?_, ih hs⟩
      rcases mem_of_mem_insert he with rfl | hm
      · exact Std.OrientedCmp.lt_of_gt ho
      · exact hf e hm

/-- A key above all others goes to the end. -/
theorem insert_of_forall_lt (h : ∀ e ∈ es, e.1.order k = .lt) : insert k x es = es ++ [(k, x)] := by
  induction es with
  | nil => rfl
  | cons f es ih =>
    have ho : k.order f.1 = .gt := Std.OrientedCmp.gt_of_lt (h f List.mem_cons_self)
    rw [insert, ho, List.cons_append, ← ih fun e he => h e (List.mem_cons_of_mem _ he)]

theorem mem_of_mem_ofList {e : AlignedValue × α} (h : e ∈ ofList es) : e ∈ es := by
  induction es using List.reverseRecOn with
  | nil => simp [ofList] at h
  | append_singleton es f ih =>
    rw [ofList, List.foldl_append] at h
    rcases mem_of_mem_insert h with rfl | hm
    · simp
    · exact List.mem_append_left _ (ih hm)

theorem sorted_ofList (es : List (AlignedValue × α)) : Sorted (ofList es) := by
  induction es using List.reverseRecOn with
  | nil => exact List.Pairwise.nil
  | append_singleton es f ih =>
    rw [ofList, List.foldl_append]
    exact ih.insert f.1 f.2

theorem ofList_of_sorted (h : Sorted es) : ofList es = es := by
  induction es using List.reverseRecOn with
  | nil => rfl
  | append_singleton es f ih =>
    obtain ⟨hs, _, hf⟩ := List.pairwise_append.mp h
    have hh := ih hs
    rw [ofList] at hh
    rw [ofList, List.foldl_append, hh]
    exact insert_of_forall_lt fun e he => hf e he f (by simp)

@[simp] theorem get?_insert_self (k : AlignedValue) (x : α) (es : List (AlignedValue × α)) :
    get? k (insert k x es) = some x := by
  induction es with
  | nil => simp [insert, get?]
  | cons f es ih =>
    rw [insert]
    cases ho : k.order f.1 with
    | lt => simp [get?]
    | eq => simp [get?]
    | gt =>
      have hne : f.1 ≠ k := by
        intro he
        rw [he, AlignedValue.order_self] at ho
        simp at ho
      simp only [get?, if_neg hne, ih]

theorem get?_insert_of_ne {l : AlignedValue} (hl : l ≠ k) (x : α) (es : List (AlignedValue × α)) :
    get? l (insert k x es) = get? l es := by
  induction es with
  | nil => simp [insert, get?, hl.symm]
  | cons f es ih =>
    rw [insert]
    cases ho : k.order f.1 with
    | lt => simp [get?, hl.symm]
    | eq =>
      obtain rfl := Std.LawfulEqCmp.eq_of_compare ho
      simp [get?, hl.symm]
    | gt =>
      by_cases he : f.1 = l
      · simp [get?, he]
      · simp [get?, he, ih]

theorem mem_of_get? (h : get? k es = some x) : (k, x) ∈ es := by
  induction es with
  | nil => simp [get?] at h
  | cons f es ih =>
    by_cases hf : f.1 = k
    · rw [get?, if_pos hf] at h
      obtain rfl := Option.some.inj h
      simp [← hf]
    · rw [get?, if_neg hf] at h
      exact List.mem_cons_of_mem _ (ih h)

theorem mem_of_mem_erase {e : AlignedValue × α} (h : e ∈ erase k es) : e ∈ es := by
  induction es with
  | nil => simp [erase] at h
  | cons f es ih =>
    rw [erase] at h
    split at h
    · exact List.mem_cons_of_mem _ h
    · rcases List.mem_cons.mp h with rfl | hm
      · exact List.mem_cons_self
      · exact List.mem_cons_of_mem _ (ih hm)

theorem Sorted.erase (k : AlignedValue) (h : Sorted es) : Sorted (erase k es) := by
  induction es with
  | nil => exact h
  | cons f es ih =>
    obtain ⟨hf, hs⟩ := List.pairwise_cons.mp h
    rw [Entries.erase]
    split
    · exact hs
    · exact List.pairwise_cons.mpr ⟨fun e he => hf e (mem_of_mem_erase he), ih hs⟩

theorem get?_erase_of_ne {l : AlignedValue} (hl : l ≠ k) (es : List (AlignedValue × α)) :
    get? l (erase k es) = get? l es := by
  induction es with
  | nil => rfl
  | cons f es ih =>
    rw [erase]
    by_cases hf : f.1 = k
    · simp [get?, hf, hl.symm]
    · simp only [if_neg hf, get?, ih]

/-- Putting back what is there changes nothing. -/
theorem insert_get? (hs : Sorted es) (h : get? k es = some x) : insert k x es = es := by
  induction es with
  | nil => simp [get?] at h
  | cons f es ih =>
    obtain ⟨hf, hs⟩ := List.pairwise_cons.mp hs
    by_cases hk : f.1 = k
    · subst hk
      rw [get?, if_pos rfl] at h
      rw [insert, AlignedValue.order_self, ← Option.some.inj h]
    · rw [get?, if_neg hk] at h
      have ho : k.order f.1 = .gt := Std.OrientedCmp.gt_of_lt (hf _ (mem_of_get? h))
      rw [insert, ho, ih hs h]

/-- The last of the entries under a key is the one that is found once they are in order. -/
theorem get?_ofList (k : AlignedValue) (es : List (AlignedValue × α)) :
    get? k (ofList es) = get? k es.reverse := by
  induction es using List.reverseRecOn with
  | nil => rfl
  | append_singleton es f ih =>
    rw [ofList, List.foldl_append, List.reverse_append]
    change get? k (insert f.1 f.2 (ofList es)) = get? k (f :: es.reverse)
    by_cases hf : f.1 = k
    · subst hf
      rw [get?_insert_self, get?, if_pos rfl]
    · have hne : k ≠ f.1 := fun h => hf h.symm
      rw [get?_insert_of_ne hne, ih, get?, if_neg hf]

theorem get?_eq_none_of_lt (h : ∀ e ∈ es, k.order e.1 = .lt) : get? k es = none := by
  induction es with
  | nil => rfl
  | cons f es ih =>
    obtain ⟨hf, hes⟩ := List.forall_mem_cons.mp h
    have hne : f.1 ≠ k := by
      rintro rfl
      simp at hf
    rw [get?, if_neg hne, ih hes]

/-- A key before the first one is nowhere. -/
theorem Sorted.get?_eq_none {f : AlignedValue × α} (hs : Sorted (f :: es)) (ho : k.order f.1 = .lt) :
    get? k (f :: es) = none := by
  have hf := (List.pairwise_cons.mp hs).1
  exact get?_eq_none_of_lt (List.forall_mem_cons.mpr ⟨ho, fun g hg => Std.TransCmp.lt_trans ho (hf g hg)⟩)

theorem Sorted.get?_erase_self (hs : Sorted es) : get? k (Entries.erase k es) = none := by
  induction es with
  | nil => rfl
  | cons f es ih =>
    obtain ⟨hf, hs⟩ := List.pairwise_cons.mp hs
    rw [Entries.erase]
    split
    · next hk => exact get?_eq_none_of_lt fun e he => hk ▸ hf e he
    · next hk => rw [get?, if_neg hk, ih hs]

/-- In order, each entry is the one that is found under its key. -/
theorem Sorted.get?_eq_some_iff (hs : Sorted es) : get? k es = some x ↔ (k, x) ∈ es := by
  constructor
  · exact mem_of_get?
  · intro h
    induction es with
    | nil => simp at h
    | cons f es ih =>
      obtain ⟨hf, hs⟩ := List.pairwise_cons.mp hs
      rcases List.mem_cons.mp h with rfl | hm
      · rw [get?, if_pos rfl]
      · have hne : f.1 ≠ k := by
          intro he
          have ho := hf _ hm
          simp [he] at ho
        rw [get?, if_neg hne, ih hs hm]

/-- In order, the entries follow from what is found under each key. -/
theorem Sorted.ext {fs : List (AlignedValue × α)} (hs : Sorted es) (ht : Sorted fs)
    (h : ∀ k, get? k es = get? k fs) : es = fs := by
  induction es generalizing fs with
  | nil =>
    cases fs with
    | nil => rfl
    | cons f fs => simpa [get?] using h f.1
  | cons e es ih =>
    obtain ⟨he, hes⟩ := List.pairwise_cons.mp hs
    cases fs with
    | nil => simpa [get?] using h e.1
    | cons f fs =>
      obtain ⟨hf, hfs⟩ := List.pairwise_cons.mp ht
      -- Neither of the first keys stands before the other, or the other list would lack it.
      have hkey : e.1 = f.1 := by
        cases ho : e.1.order f.1 with
        | eq => exact Std.LawfulEqCmp.eq_of_compare ho
        | lt =>
          have hfound := h e.1
          rw [ht.get?_eq_none ho] at hfound
          simp [get?] at hfound
        | gt =>
          have ho : f.1.order e.1 = .lt := Std.OrientedCmp.lt_of_gt ho
          have hfound := h f.1
          rw [hs.get?_eq_none ho] at hfound
          simp [get?] at hfound
      have hvalue : e.2 = f.2 := by simpa [get?, hkey] using h e.1
      have hrest : ∀ k, get? k es = get? k fs := by
        intro k
        by_cases hk : e.1 = k
        · subst hk
          rw [get?_eq_none_of_lt he, get?_eq_none_of_lt fun g hg => hkey ▸ hf g hg]
        · simpa [get?, hk, ← hkey] using h k
      rw [Prod.ext hkey hvalue, ih hes hfs hrest]

theorem get?_insert (k l : AlignedValue) (x : α) (es : List (AlignedValue × α)) :
    get? l (insert k x es) = if l = k then some x else get? l es := by
  by_cases hl : l = k
  · rw [if_pos hl, hl, get?_insert_self]
  · rw [if_neg hl, get?_insert_of_ne hl]

/-- Of two values put under one key the second counts. -/
theorem Sorted.insert_insert (hs : Sorted es) (k : AlignedValue) (x y : α) :
    Entries.insert k y (Entries.insert k x es) = Entries.insert k y es := by
  refine ((hs.insert k x).insert k y).ext (hs.insert k y) fun l => ?_
  simp only [get?_insert]
  by_cases hl : l = k
  · rw [if_pos hl, if_pos hl]
  · rw [if_neg hl, if_neg hl, if_neg hl]

theorem Sorted.insert_comm {l : AlignedValue} (hs : Sorted es) (hkl : k ≠ l) (x y : α) :
    Entries.insert k x (Entries.insert l y es) = Entries.insert l y (Entries.insert k x es) := by
  refine ((hs.insert l y).insert k x).ext ((hs.insert k x).insert l y) fun m => ?_
  simp only [get?_insert]
  by_cases hk : m = k
  · have hl : m ≠ l := hk ▸ hkl
    rw [if_pos hk, if_neg hl, if_pos hk]
  · rw [if_neg hk, if_neg hk]

/-- What is put under a new key is all that goes with the key. -/
theorem Sorted.erase_insert (hs : Sorted es) (h : get? k es = none) (x : α) :
    Entries.erase k (Entries.insert k x es) = es := by
  refine ((hs.insert k x).erase k).ext hs fun l => ?_
  by_cases hl : l = k
  · rw [hl, (hs.insert k x).get?_erase_self, h]
  · rw [get?_erase_of_ne hl, get?_insert_of_ne hl]

theorem Sorted.length_insert (hs : Sorted es) (k : AlignedValue) (x : α) :
    (Entries.insert k x es).length = if (get? k es).isSome then es.length else es.length + 1 := by
  induction es with
  | nil => rfl
  | cons f es ih =>
    rw [Entries.insert]
    cases ho : k.order f.1 with
    | lt =>
      rw [hs.get?_eq_none ho]
      rfl
    | eq =>
      obtain rfl := Std.LawfulEqCmp.eq_of_compare ho
      rw [get?, if_pos rfl]
      rfl
    | gt =>
      have hne : f.1 ≠ k := by
        intro he
        rw [he, AlignedValue.order_self] at ho
        simp at ho
      have hlength := ih (List.pairwise_cons.mp hs).2
      rw [get?, if_neg hne]
      simp only [List.length_cons, hlength]
      split <;> rfl

theorem length_erase (h : (get? k es).isSome) : (erase k es).length + 1 = es.length := by
  induction es with
  | nil => simp [get?] at h
  | cons f es ih =>
    rw [erase]
    by_cases hf : f.1 = k
    · rw [if_pos hf, List.length_cons]
    · rw [get?, if_neg hf] at h
      rw [if_neg hf, List.length_cons, List.length_cons, ih h]

theorem mem_keys_iff : k ∈ es.map Prod.fst ↔ (get? k es).isSome := by
  induction es with
  | nil => simp [get?]
  | cons f es ih =>
    rw [List.map_cons, List.mem_cons, ih, get?]
    by_cases hf : f.1 = k
    · simp [hf]
    · simp [hf, Ne.symm hf]

theorem Sorted.nodup_keys (hs : Sorted es) : (es.map Prod.fst).Nodup := by
  refine List.pairwise_map.mpr (hs.imp fun {e f} ho he => ?_)
  rw [he, AlignedValue.order_self] at ho
  cases ho

end AlignedLedger.Entries
