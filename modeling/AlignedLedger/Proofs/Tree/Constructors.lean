import AlignedLedger.Proofs.Success
import AlignedLedger.Tree.Container

/-! The trees that the constructors make, each within the caps of the configuration. -/

namespace AlignedLedger.Tree

/-- Induction over trees, where arrays and maps have the claim for all that stands in them. -/
@[elab_as_elim, induction_eliminator]
theorem induct {motive : Tree → Prop} (null : motive null) (cell : ∀ v, motive (cell v))
    (array : ∀ items, (∀ t ∈ items, motive t) → motive (array items))
    (map : ∀ entries, (∀ e ∈ entries, motive e.2) → motive (map entries)) (t : Tree) : motive t :=
  match t with
  | .null => null
  | .cell v => cell v
  | .array items => array items fun t _ => induct null cell array map t
  | .map entries => map entries fun e _ => induct null cell array map e.2
termination_by t
decreasing_by
  · next ht =>
    have h := List.sizeOf_lt_of_mem ht
    simp only [Tree.array.sizeOf_spec]
    omega
  · next he =>
    have h := List.sizeOf_lt_of_mem he
    cases e
    simp only [Prod.mk.sizeOf_spec, Tree.map.sizeOf_spec] at h ⊢
    omega

/-- The trees that the constructors make under a configuration. -/
inductive Built [Memory] (cfg : Config) : Tree → Prop
  | null : Built cfg null
  | cell {v : AlignedValue} {t : Tree} (h : makeCell cfg v = .ok t) : Built cfg t
  | array {items : List Tree} {t : Tree} (hi : ∀ u ∈ items, Built cfg u)
      (h : makeArray cfg items = .ok t) : Built cfg t
  | map {es : List (AlignedValue × Tree)} {t : Tree} (he : ∀ e ∈ es, Built cfg e.2)
      (h : makeMap es = .ok t) : Built cfg t

theorem makeCell_eq_ok [Memory] {cfg : Config} {v : AlignedValue} {t : Tree} :
    makeCell cfg v = .ok t ↔ v.binaryLength ≤ cfg.maxCellBytes ∧ t = cell v := by
  unfold makeCell
  split <;> simp [*, eq_comm]

/-- A cell is refused for its size, or for want of room. -/
theorem kind_of_makeCell [Memory] {cfg : Config} {v : AlignedValue} {e : Fault} (h : makeCell cfg v = .error e) :
    e.kind = .structural ∨ v.requestBinary = .error e := by
  unfold makeCell cellRefusal at h
  split at h
  · cases h
  · cases hr : v.requestBinary with
    | ok _ =>
      rw [hr] at h
      cases h
      exact .inl rfl
    | error f =>
      rw [hr] at h
      cases h
      exact .inr rfl

theorem asCell_eq_ok {t : Tree} {v : AlignedValue} : t.asCell = .ok v ↔ t = cell v := by
  cases t <;> simp [asCell]

theorem makeArray_eq_ok {cfg : Config} {items : List Tree} {t : Tree} :
    makeArray cfg items = .ok t ↔ items.length ≤ cfg.maxArrayLength ∧ t = array items := by
  unfold makeArray
  split <;> simp [*, eq_comm]

theorem makeMap_eq_ok [Memory] {es : List (AlignedValue × Tree)} {t : Tree} :
    makeMap es = .ok t ↔ (∀ e ∈ es, e.1.requestBinary = .ok ()) ∧ t = map (Entries.ofList es) := by
  rw [makeMap, bind_eq_ok]
  constructor
  · rintro ⟨_, h, ht⟩
    exact ⟨forM_eq_ok.mp h, (Except.ok.inj ht).symm⟩
  · rintro ⟨h, rfl⟩
    exact ⟨⟨⟩, forM_eq_ok.mpr h, rfl⟩

end AlignedLedger.Tree
