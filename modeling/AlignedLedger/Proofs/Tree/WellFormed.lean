import AlignedLedger.Proofs.Tree.Container

/-! Trees that are well formed, said of the trees themselves and not of how they come about: the caps are
kept, segments fit their slots, and maps stand in the order of their keys and are looked up as they stand.
These are just the trees that the constructors make. -/

namespace AlignedLedger

/-- There is one segment for each atom, which the slot can hold: it is no wider, and a number has no zeros
at its end. -/
def AlignedValue.WellFormed (v : AlignedValue) : Prop :=
  v.segments.length = v.alignment.length ∧
    ∀ p ∈ v.alignment.zip v.segments, p.1.Holds p.2

theorem AlignedValue.wellFormed (v : AlignedValue) : v.WellFormed := by
  refine ⟨v.holds.length_eq.symm, fun p hp => ?_⟩
  exact (List.forall₂_iff_zip.mp v.holds).2 hp

namespace Tree

variable [Memory]

/-- What holds of a tree within the caps, at each node. The place of a key in a map comes from its binary
form, so there has to be one. -/
inductive WellFormed (cfg : Config) : Tree → Prop
  | null : WellFormed cfg null
  | cell {v : AlignedValue} (value : v.WellFormed) (size : v.binary.length ≤ cfg.maxCellBytes) :
      WellFormed cfg (cell v)
  | array {items : List Tree} (size : items.length ≤ cfg.maxArrayLength)
      (children : ∀ t ∈ items, WellFormed cfg t) : WellFormed cfg (array items)
  | map {es : List (AlignedValue × Tree)} (keys : ∀ e ∈ es, e.1.WellFormed ∧ ∃ b, e.1.layOut = .ok b)
      (order : Entries.Sorted es) (lookup : ∀ k t, Entries.get? k es = some t ↔ (k, t) ∈ es)
      (children : ∀ e ∈ es, WellFormed cfg e.2) : WellFormed cfg (map es)

variable {cfg : Config} {t t' u v : Tree} {k : AlignedValue}

theorem WellFormed.built (h : WellFormed cfg t) : Built cfg t := by
  induction h with
  | null => exact .null
  | cell _ hs => exact built_cell_iff.mpr (AlignedValue.length_binary _ ▸ hs)
  | array hs _ ih => exact built_array_iff.mpr ⟨hs, ih⟩
  | map hk ho _ _ ih =>
    refine built_map_iff.mpr ⟨ho, fun e he => ⟨?_, ih e he⟩⟩
    obtain ⟨-, b, hb⟩ := hk e he
    obtain ⟨_, hr, -⟩ := bind_eq_ok.mp hb
    exact hr

theorem Built.wellFormed (h : Built cfg t) : WellFormed cfg t := by
  induction t with
  | null => exact .null
  | cell v => exact .cell v.wellFormed (v.length_binary ▸ built_cell_iff.mp h)
  | array items ih =>
    obtain ⟨hl, hi⟩ := built_array_iff.mp h
    exact .array hl fun t ht => ih t ht (hi t ht)
  | map es ih =>
    obtain ⟨ho, he⟩ := built_map_iff.mp h
    refine .map (fun e hm => ⟨e.1.wellFormed, e.1.binary, ?_⟩) ho (fun k t => ho.get?_eq_some_iff)
      fun e hm => ih e hm (he e hm).2
    rw [AlignedValue.layOut, (he e hm).1, ok_bind, pure_eq_ok]

theorem WellFormed.index (ht : WellFormed cfg t) (h : t.index k = .ok u) : WellFormed cfg u :=
  (ht.built.index h).wellFormed

theorem WellFormed.insert (ht : WellFormed cfg t) (hv : WellFormed cfg v)
    (h : t.insert cfg k v = .ok t') : WellFormed cfg t' :=
  (ht.built.insert hv.built h).wellFormed

theorem WellFormed.remove (ht : WellFormed cfg t) (h : t.remove k = .ok t') : WellFormed cfg t' :=
  (ht.built.remove h).wellFormed

theorem WellFormed.push (ht : WellFormed cfg t) (hv : WellFormed cfg v) (h : t.push cfg v = .ok t') :
    WellFormed cfg t' :=
  (ht.built.push hv.built h).wellFormed

end Tree

end AlignedLedger
