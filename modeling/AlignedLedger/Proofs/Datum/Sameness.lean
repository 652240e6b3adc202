import AlignedLedger.Datum.Equality
import AlignedLedger.Proofs.Binary
import Mathlib.Data.List.Nodup

/-! When loosely typed data count as equal: numbers by value, sequences place by place, dicts entry by
entry in any order. -/

namespace AlignedLedger.Datum

variable {v w : Datum}

attribute [local simp] same sameList sameEntries

theorem number?_of_integer? {i : Int} (h : v.integer? = some i) : v.number? = some (Binary.ofInt i) := by
  cases v <;> simp_all [integer?, number?, index?]

theorem same_of_number? {x y : Binary} (hv : v.number? = some x) (hw : w.number? = some y)
    (h : x.equal y = true) : v.same w = true := by
  have hs : sameNumber v w = true := by
    rw [sameNumber, hv, hw]
    exact h
  cases v <;> first | exact hs | simp [number?, index?, integer?] at hv

theorem same_of_integer? {i : Int} (hv : v.integer? = some i) (hw : w.integer? = some i) :
    v.same w = true :=
  same_of_number? (number?_of_integer? hv) (number?_of_integer? hw) (Binary.equal_ofInt.mpr rfl)

theorem truth_of_number? {x : Binary} (h : v.number? = some x) : v.truth = !x.isZero := by
  cases v with
  | bool b =>
    obtain rfl : Binary.ofInt b.toNat = x := by simpa [number?, index?] using h
    cases b <;> rfl
  | float y =>
    obtain rfl : y = x := by simpa [number?] using h
    rfl
  | int i =>
    obtain rfl : Binary.ofInt i = x := by simpa [number?, index?, integer?] using h
    simp [truth, Binary.ofInt, Binary.isZero]
  | member c n i =>
    obtain rfl : Binary.ofInt i = x := by simpa [number?, index?, integer?] using h
    simp [truth, Binary.ofInt, Binary.isZero]
  | _ => simp [number?, index?, integer?] at h

/-- A datum that equals a number is one. -/
theorem sameNumber_of_same {y : Binary} (hw : w.number? = some y) (h : v.same w = true) :
    ∃ x, v.number? = some x ∧ x.equal y = true := by
  have hs : sameNumber v w = true := by
    cases v <;> cases w <;> simp_all [number?, index?, integer?, bytes?]
  unfold sameNumber at hs
  split at hs
  · next x z hx hz =>
    cases hw.symm.trans hz
    exact ⟨x, hx, hs⟩
  · simp at hs

/-- Data that equal one number equal each other. -/
theorem same_of_same {d : Datum} {x : Binary} (hd : d.number? = some x) (hv : v.same d = true)
    (hw : w.same d = true) : v.same w = true := by
  obtain ⟨y, hy, hyx⟩ := sameNumber_of_same hd hv
  obtain ⟨z, hz, hzx⟩ := sameNumber_of_same hd hw
  exact same_of_number? hy hz (Binary.equal_of_equal hyx hzx)

theorem eq_of_same_of_integer? {i j : Int} (hv : v.integer? = some i) (hw : w.integer? = some j)
    (h : v.same w = true) : i = j := by
  obtain ⟨x, hx, he⟩ := sameNumber_of_same (number?_of_integer? hw) h
  cases (number?_of_integer? hv).symm.trans hx
  exact Binary.equal_ofInt.mp he

theorem truth_of_same_bool {b : Bool} (h : v.same (bool b) = true) : v.truth = b := by
  have hb : (bool b).number? = some (Binary.ofInt b.toNat) := rfl
  obtain ⟨x, hx, he⟩ := sameNumber_of_same hb h
  rw [truth_of_number? hx, Binary.isZero_of_equal he]
  cases b <;> rfl

theorem bytes?_of_same {b : Bytes} (hv : v.bytes? = some b) (h : v.same w = true) :
    w.bytes? = some b := by
  cases v with
  | bytes c =>
    obtain rfl : c = b := by simpa [bytes?] using hv
    simpa using h
  | buffer c =>
    obtain rfl : c = b := by simpa [bytes?] using hv
    simpa using h
  | _ => simp [bytes?] at hv

theorem same_bool (b : Bool) : (bool b).same (bool b) = true := by
  cases b <;> decide

theorem same_text {s : String} {d : Datum} : (text s).same d = true ↔ d = text s := by
  cases d <;> simp [eq_comm]

theorem same_maybe {x y : Datum} (b : Bool) (h : x.same y = true) :
    (maybe (bool b) x).same (maybe (bool b) y) = true := by
  change ((bool b).same (bool b) && x.same y) = true
  rw [same_bool, h]
  rfl

theorem same_either {x y z w : Datum} (b : Bool) (h : x.same z = true) (h' : y.same w = true) :
    (either (bool b) x y).same (either (bool b) z w) = true := by
  change ((bool b).same (bool b) && x.same z && y.same w) = true
  rw [same_bool, h, h']
  rfl

theorem sameList_iff {xs ys : List Datum} :
    sameList xs ys = true ↔ List.Forall₂ (fun x y => x.same y = true) xs ys := by
  induction xs generalizing ys with
  | nil => cases ys <;> simp
  | cons x xs ih => cases ys <;> simp [ih]

theorem eq_tuple_of_same {ys : List Datum} (h : v.same (tuple ys) = true) :
    ∃ xs, v = tuple xs ∧ sameList xs ys = true := by
  cases v with
  | tuple xs => exact ⟨xs, rfl, by simpa using h⟩
  | _ => simp [sameNumber, number?, index?, integer?, bytes?] at h

theorem eq_maybe_of_same {b x : Datum} (h : v.same (maybe b x) = true) :
    ∃ a y, v = maybe a y ∧ a.same b = true ∧ y.same x = true := by
  cases v with
  | maybe a y => exact ⟨a, y, rfl, by simpa using h⟩
  | _ => simp [sameNumber, number?, index?, integer?, bytes?] at h

theorem eq_either_of_same {b x y : Datum} (h : v.same (either b x y) = true) :
    ∃ a z w, v = either a z w ∧ a.same b = true ∧ z.same x = true ∧ w.same y = true := by
  cases v with
  | either a z w => exact ⟨a, z, w, rfl, by simpa [and_assoc] using h⟩
  | _ => simp [sameNumber, number?, index?, integer?, bytes?] at h

theorem eq_dict_of_same {fs : List (Datum × Datum)} (h : v.same (dict fs) = true) :
    ∃ es, v = dict es ∧ es.length = fs.length ∧ sameEntries es fs = true := by
  cases v with
  | dict es => exact ⟨es, rfl, by simpa using h⟩
  | _ => simp [sameNumber, number?, index?, integer?, bytes?] at h

theorem sameEntries_iff {es fs : List (Datum × Datum)} :
    sameEntries es fs = true ↔
      ∀ e ∈ es, ∃ f ∈ fs, e.1.same f.1 = true ∧ e.2.same f.2 = true := by
  induction es with
  | nil => simp
  | cons e es ih => simp [ih]

theorem find?_cons_of_ne {k : String} {e : Datum × Datum} {es : List (Datum × Datum)}
    (h : e.1 ≠ text k) : find? k (e :: es) = find? k es := by
  obtain ⟨l, v⟩ := e
  cases l with
  | text s =>
    have hs : s ≠ k := fun he => h (congrArg text he)
    simp [find?, hs]
  | _ => rfl

theorem mem_of_find? {k : String} {v : Datum} {es : List (Datum × Datum)}
    (h : find? k es = some v) : (text k, v) ∈ es := by
  induction es with
  | nil => simp [find?] at h
  | cons e es ih =>
    obtain ⟨l, w⟩ := e
    by_cases hl : l = text k
    · subst hl
      simp only [find?, if_true, Option.some.injEq] at h
      simp [h]
    · rw [find?_cons_of_ne hl] at h
      exact List.mem_cons_of_mem _ (ih h)

theorem find?_of_mem {k : String} {v : Datum} {es : List (Datum × Datum)}
    (hk : (es.map Prod.fst).Nodup) (h : (text k, v) ∈ es) : find? k es = some v := by
  induction es with
  | nil => simp at h
  | cons e es ih =>
    have hn := List.nodup_cons.mp hk
    rcases List.mem_cons.mp h with rfl | hm
    · simp [find?]
    · have hne : e.1 ≠ text k := by
        intro he
        exact hn.1 (he ▸ List.mem_map_of_mem hm)
      rw [find?_cons_of_ne hne]
      exact ih hn.2 hm

end AlignedLedger.Datum
