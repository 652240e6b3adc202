import AlignedLedger.Proofs.Machine.Frame
import AlignedLedger.Proofs.Tree.Paths

/-! What the machine takes out of trees that the constructors made, and what it puts together of them, is
such a tree again, and its keys are no larger than a cell may be. -/

namespace AlignedLedger

namespace Stack

variable {cfg : Config} {s t : Stack} {u v : Tree} {ks : List AlignedValue}

/-- A key that is not written in the path has come out of a cell. -/
theorem binaryLength_of_pathKeys [Memory] {path : List PathKey} (hs : ∀ u ∈ s, u.Built cfg)
    (h : s.pathKeys path = .ok (ks, t)) :
    ∀ k ∈ ks, .literal k ∈ path ∨ k.binaryLength ≤ cfg.maxCellBytes := by
  induction path generalizing s ks with
  | nil =>
    cases h
    simp
  | cons step path ih =>
    cases step with
    | literal k =>
      obtain ⟨⟨ks, _⟩, hp, h⟩ := bind_eq_ok.mp h
      cases h
      refine List.forall_mem_cons.mpr ⟨.inl List.mem_cons_self, fun l hl => ?_⟩
      exact (ih hs hp l hl).imp_left (List.mem_cons_of_mem _)
    | stack =>
      obtain ⟨⟨k, r⟩, hk, h⟩ := bind_eq_ok.mp h
      obtain ⟨⟨ks, _⟩, hp, h⟩ := bind_eq_ok.mp h
      cases h
      obtain rfl := popCell_eq_ok.mp hk
      obtain ⟨hcell, hr⟩ := List.forall_mem_cons.mp hs
      refine List.forall_mem_cons.mpr ⟨.inr (Tree.built_cell_iff.mp hcell), fun l hl => ?_⟩
      exact (ih hr hp l hl).imp_left (List.mem_cons_of_mem _)

theorem built_of_recordedWalk [Memory] (hu : u.Built cfg) (h : s.recordedWalk cfg ks u = .ok (v, t)) :
    v.Built cfg := by
  induction ks generalizing u s with
  | nil =>
    cases h
    exact hu
  | cons k ks ih =>
    obtain ⟨-, -, child, hchild, h⟩ := recordedWalk_cons.mp h
    exact ih (hu.orNewMap.childOrNull hchild) h

theorem built_of_rebuild [Memory] {n : Nat} (hs : ∀ u ∈ s, u.Built cfg) (hu : u.Built cfg)
    (h : s.rebuild cfg n u = .ok (v, t)) : v.Built cfg := by
  induction n generalizing u s with
  | zero =>
    cases h
    exact hu
  | succ n ih =>
    obtain ⟨⟨k, r⟩, hk, h⟩ := bind_eq_ok.mp h
    obtain ⟨⟨x, r'⟩, hx, h⟩ := bind_eq_ok.mp h
    obtain ⟨w, hw, hrest⟩ := bind_eq_ok.mp h
    rw [popCell_eq_ok.mp hk, pop_eq_ok.mp hx] at hs
    obtain ⟨hx, hr⟩ := List.forall_mem_cons.mp (List.forall_mem_cons.mp hs).2
    exact ih hr (hx.insert hu hw) hrest

theorem insOperands_eq_ok {n : Nat} :
    s.insOperands (.ofNat n) = .ok (v, t) ↔ s = v :: t ∧ 2 * n ≤ t.length := by
  rw [insOperands, require]
  by_cases hn : s.length < 1 + 2 * n
  · rw [if_pos hn, error_bind]
    constructor
    · rintro ⟨⟩
    · rintro ⟨rfl, ht⟩
      simp only [List.length_cons] at hn
      omega
  · rw [if_neg hn, ok_bind, pop_eq_ok]
    constructor
    · rintro rfl
      refine ⟨rfl, ?_⟩
      simp only [List.length_cons] at hn
      omega
    · exact And.left

end Stack

namespace AlignedValue

variable {v w : AlignedValue} {n : Nat}

/-- A larger number takes up no more room than the one that it replaces. -/
theorem binaryLength_addNat (h : v.addNat n = .ok w) : w.binaryLength = v.binaryLength := by
  obtain ⟨m, hm, h⟩ := bind_eq_ok.mp h
  obtain ⟨s, width, rfl, hs, -⟩ := toNat?_eq_some_iff.mp (toNat_eq_ok.mp hm)
  obtain ⟨-, ha⟩ := ofSegments_eq_ok.mp h
  obtain ⟨slots⟩ := w
  obtain ⟨t, rfl, ht⟩ := List.map_eq_singleton_iff.mp ha.symm
  rw [binaryLength_singleton hs, binaryLength_singleton (ht ▸ hs)]

end AlignedValue

end AlignedLedger
