import AlignedLedger.Proofs.Agreement
import AlignedLedger.Proofs.Tree.Paths
import Mathlib.Data.List.Forall2

/-! Two trees that are the same but for the cell under one key. Nothing that is done to both under other
keys can tell them apart. -/

namespace AlignedLedger.Tree

variable {cfg : Config} {key l : AlignedValue} {a b : AlignedValue} {t u : Tree}

/-- The entries have one key, and the same below it, or else one cell and another below the one key. -/
def SwappedEntry (key a b : AlignedValue) (e f : AlignedValue × Tree) : Prop :=
  e.1 = f.1 ∧ (e.2 = f.2 ∨ e.1 = key ∧ e.2 = .cell a ∧ f.2 = .cell b)

/-- The trees have the same places, with the same in them, or else one cell in the one and another in the
other under the key. -/
inductive Swapped (key a b : AlignedValue) : Tree → Tree → Prop
  | array {xs ys : List Tree} (hl : xs.length = ys.length)
      (h : ∀ i, xs[i]? = ys[i]? ∨
        key.toNat? = some i ∧ xs[i]? = some (.cell a) ∧ ys[i]? = some (.cell b)) :
      Swapped key a b (.array xs) (.array ys)
  | map {es fs : List (AlignedValue × Tree)}
      (h : List.Forall₂ (SwappedEntry key a b) es fs) :
      Swapped key a b (.map es) (.map fs)

theorem Swapped.eq_of_same (h : Swapped key a a t u) : t = u := by
  cases h with
  | @array xs ys hl h =>
    congr 1
    refine List.ext_getElem? fun i => ?_
    rcases h i with he | ⟨-, hx, hy⟩
    · exact he
    · rw [hx, hy]
  | @map es fs h =>
    congr 1
    refine List.forall₂_eq_eq_eq ▸ h.imp fun e f hef => ?_
    obtain ⟨hk, hv | ⟨-, hx, hy⟩⟩ := hef
    · exact Prod.ext hk hv
    · exact Prod.ext hk (hx.trans hy.symm)

theorem forall₂_insert {es fs : List (AlignedValue × Tree)} {x y : Tree}
    (hxy : SwappedEntry key a b (l, x) (l, y)) (h : List.Forall₂ (SwappedEntry key a b) es fs) :
    List.Forall₂ (SwappedEntry key a b) (Entries.insert l x es) (Entries.insert l y fs) := by
  induction h with
  | nil => exact .cons hxy .nil
  | @cons e f es fs hef h ih =>
    obtain ⟨k, x'⟩ := e
    obtain ⟨k', y'⟩ := f
    obtain rfl : k = k' := hef.1
    rw [Entries.insert, Entries.insert]
    cases l.order k with
    | lt => exact .cons hxy (.cons hef h)
    | eq => exact .cons hxy h
    | gt => exact .cons hef ih

/-- One cell or the other put under the key of one tree. -/
theorem swapped_insert [Memory] (cfg : Config) (t : Tree) (key a b : AlignedValue) :
    Agree (Swapped key a b) (t.insert cfg key (.cell a)) (t.insert cfg key (.cell b)) := by
  cases t with
  | null => exact rfl
  | cell v => exact rfl
  | array items =>
    refine (Agree.refl (R := fun i j => i = j ∧ position key items.length = .ok i)
      (position key items.length) fun i hi => ⟨rfl, hi⟩).bind ?_
    rintro i _ ⟨rfl, hi⟩
    obtain ⟨hn, hlt⟩ := position_eq_ok.mp hi
    unfold makeArray
    rw [List.length_set, List.length_set]
    by_cases hl : items.length ≤ cfg.maxArrayLength
    · rw [if_pos hl, if_pos hl]
      refine .array (by simp) fun j => ?_
      by_cases hij : i = j
      · subst hij
        exact .inr ⟨hn, List.getElem?_set_self hlt, List.getElem?_set_self hlt⟩
      · rw [List.getElem?_set_ne hij, List.getElem?_set_ne hij]
        exact .inl rfl
    · rw [if_neg hl, if_neg hl]
      exact rfl
  | map es =>
    refine (Agree.refl (R := fun _ _ => True) key.requestBinary fun _ _ => trivial).bind fun _ _ _ => ?_
    have hsame : List.Forall₂ (SwappedEntry key a b) es es :=
      List.forall₂_same.mpr fun _ _ => ⟨rfl, .inl rfl⟩
    exact .map (forall₂_insert ⟨rfl, .inr ⟨rfl, rfl, rfl⟩⟩ hsame)

namespace Swapped

theorem index_eq (h : Swapped key a b t u) (hl : t.Apart key l) : t.index l = u.index l := by
  cases h with
  | @array xs ys hlen h =>
    rw [index, index, ← hlen]
    cases hp : position l xs.length with
    | error e => rfl
    | ok i =>
      have hi : xs[i]? = ys[i]? := by
        rcases h i with he | ⟨hk, -⟩
        · exact he
        · exact absurd (hk.trans (position_eq_ok.mp hp).1.symm) hl
      simp only [ok_bind, hi, hlen]
  | @map es fs h =>
    have hne : key ≠ l := hl
    have hget : Entries.get? l es = Entries.get? l fs := by
      clear hl
      induction h with
      | nil => rfl
      | @cons e f es fs hef h ih =>
        obtain ⟨hk, hv⟩ := hef
        by_cases he : e.1 = l
        · rw [Entries.get?, Entries.get?, if_pos he, if_pos (hk ▸ he)]
          rcases hv with hv | ⟨hh, -⟩
          · rw [hv]
          · exact absurd (hh.symm.trans he) hne
        · rw [Entries.get?, Entries.get?, if_neg he, if_neg (hk ▸ he), ih]
    rw [index, index, hget]

theorem orNewMap_eq (h : Swapped key a b t u) : t.orNewMap = t ∧ u.orNewMap = u := by
  cases h <;> exact ⟨rfl, rfl⟩

theorem childOrNull_eq (h : Swapped key a b t u) (hl : t.Apart key l) :
    t.childOrNull l = u.childOrNull l := by
  have hi := h.index_eq hl
  cases h with
  | array hlen h => exact hi
  | @map es fs h =>
    rw [index, index] at hi
    rw [childOrNull, childOrNull]
    cases he : Entries.get? l es <;> cases hf : Entries.get? l fs <;> simp [he, hf] at hi ⊢
    exact hi

theorem insert [Memory] (cfg : Config) (h : Swapped key a b t u) (l : AlignedValue) (c : Tree) :
    Agree (Swapped key a b) (t.insert cfg l c) (u.insert cfg l c) := by
  cases h with
  | @array xs ys hlen h =>
    rw [Tree.insert, Tree.insert, ← hlen]
    refine (Agree.refl (R := fun i j => i = j ∧ position l xs.length = .ok i)
      (position l xs.length) fun i hi => ⟨rfl, hi⟩).bind ?_
    rintro i _ ⟨rfl, hi⟩
    have hlt := (position_eq_ok.mp hi).2
    unfold makeArray
    rw [List.length_set, List.length_set, ← hlen]
    by_cases hl : xs.length ≤ cfg.maxArrayLength
    · rw [if_pos hl, if_pos hl]
      refine .array (by simp [hlen]) fun j => ?_
      by_cases hij : i = j
      · subst hij
        rw [List.getElem?_set_self hlt, List.getElem?_set_self (hlen ▸ hlt)]
        exact .inl rfl
      · rw [List.getElem?_set_ne hij, List.getElem?_set_ne hij]
        exact h j
    · rw [if_neg hl, if_neg hl]
      exact rfl
  | @map es fs h =>
    refine (Agree.refl (R := fun _ _ => True) l.requestBinary fun _ _ => trivial).bind fun _ _ _ => ?_
    exact .map (forall₂_insert ⟨rfl, .inl rfl⟩ h)

end Swapped

end AlignedLedger.Tree
