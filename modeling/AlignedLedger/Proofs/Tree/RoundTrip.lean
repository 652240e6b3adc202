import AlignedLedger.Proofs.Alignment.Segments
import AlignedLedger.Proofs.Cbor.RoundTrip
import AlignedLedger.Proofs.Tree.Constructors
import AlignedLedger.Proofs.Tree.Entries
import AlignedLedger.Tree.Persistence

/-! State trees and charged states are read back from their stored form, which tells them apart. -/

namespace AlignedLedger

theorem Cbor.Item.toData_eq_map (xs : List Item) : toData xs = xs.map toDatum := by
  induction xs with
  | nil => rfl
  | cons x xs ih => rw [toData, ih, List.map_cons]

theorem Cbor.Item.toDatum_array (xs : List Item) : (array xs).toDatum = .list (xs.map toDatum) := by
  rw [toDatum, toData_eq_map]

theorem Atom.ofDatum_toItem (a : Atom) : Atom.ofDatum a.toItem.toDatum = .ok a := by
  cases a <;> rfl

theorem AlignedValue.ofDatum_toItem [Memory] (v : AlignedValue) :
    AlignedValue.ofDatum v.toItem.toDatum = .ok v := by
  have hs : ((v.segments.map Cbor.Item.bytes).map Cbor.Item.toDatum).mapM Datum.toBytes =
      .ok v.segments := by
    rw [List.map_map]
    exact mapM_map_ok fun s _ => by rfl
  have ha : ((v.alignment.map Atom.toItem).map Cbor.Item.toDatum).mapM Atom.ofDatum =
      .ok v.alignment := by
    rw [List.map_map]
    exact mapM_map_ok fun a _ => a.ofDatum_toItem
  simp only [toItem, Cbor.Item.toDatum_array, List.map_cons, List.map_nil, ofDatum,
    Datum.sequence?, ofPair, Datum.elements, Datum.elements?, ok_bind, hs, ha, ofSegments_self]

theorem AlignedValue.toItem_injective [Memory] : Function.Injective toItem := by
  intro v w h
  have hh := ofDatum_toItem v
  rw [h, ofDatum_toItem] at hh
  exact (Except.ok.inj hh).symm

theorem map_inj_of_forall {α β : Type} {f : α → β} {xs ys : List α}
    (hf : ∀ x ∈ xs, ∀ y, f x = f y → x = y) (h : xs.map f = ys.map f) : xs = ys := by
  induction xs generalizing ys with
  | nil => exact (List.map_eq_nil_iff.mp h.symm).symm
  | cons x xs ih =>
    cases ys with
    | nil => simp at h
    | cons y ys =>
      simp only [List.map_cons, List.cons.injEq] at h
      rw [hf x List.mem_cons_self y h.1, ih (fun z hz => hf z (List.mem_cons_of_mem _ hz)) h.2]

namespace Tree

variable {cfg : Config}

theorem toItemList_eq_map (ts : List Tree) : toItemList ts = ts.map toItem := by
  induction ts with
  | nil => rfl
  | cons t ts ih => rw [toItemList, ih, List.map_cons]

theorem toItemEntries_eq_map (es : List (AlignedValue × Tree)) :
    toItemEntries es = es.map fun e => .array [e.1.toItem, e.2.toItem] := by
  induction es with
  | nil => rfl
  | cons e es ih => rw [toItemEntries, ih, List.map_cons]

variable [Memory]

theorem ofData_toItemList {ts : List Tree} (h : ∀ t ∈ ts, ofDatum cfg t.toItem.toDatum = .ok t) :
    ofData cfg (Cbor.Item.toData (toItemList ts)) = .ok ts := by
  induction ts with
  | nil => rfl
  | cons t ts ih =>
    simp only [toItemList, Cbor.Item.toData, ofData, h t List.mem_cons_self, ok_bind,
      ih fun u hu => h u (List.mem_cons_of_mem _ hu), pure_eq_ok]

theorem ofEntryData_toItemEntries {es : List (AlignedValue × Tree)}
    (h : ∀ e ∈ es, ofDatum cfg e.2.toItem.toDatum = .ok e.2) :
    ofEntryData cfg (Cbor.Item.toData (toItemEntries es)) = .ok es := by
  induction es with
  | nil => rfl
  | cons e es ih =>
    simp only [toItemEntries, Cbor.Item.toData, Cbor.Item.toDatum, ofEntryData,
      AlignedValue.ofDatum_toItem, h e List.mem_cons_self, ok_bind,
      ih fun f hf => h f (List.mem_cons_of_mem _ hf), pure_eq_ok]

/-- Reading puts maps in order again and checks the caps again, to no effect on a tree that the
constructors made. -/
theorem Built.ofDatum_toItem {t : Tree} (h : Built cfg t) : ofDatum cfg t.toItem.toDatum = .ok t := by
  induction h with
  | null => rfl
  | @cell v t h =>
    obtain ⟨-, rfl⟩ := makeCell_eq_ok.mp h
    change AlignedValue.ofDatum v.toItem.toDatum >>= makeCell cfg = _
    rw [AlignedValue.ofDatum_toItem, ok_bind, h]
  | @array items t hi h ih =>
    obtain ⟨-, rfl⟩ := makeArray_eq_ok.mp h
    change ofData cfg (Cbor.Item.toData (toItemList items)) >>= makeArray cfg = _
    rw [ofData_toItemList ih, ok_bind, h]
  | @map es t he h ih =>
    obtain ⟨hk, rfl⟩ := makeMap_eq_ok.mp h
    change ofEntryData cfg (Cbor.Item.toData (toItemEntries (Entries.ofList es))) >>= makeMap = _
    rw [ofEntryData_toItemEntries fun e he => ih e (Entries.mem_of_mem_ofList he), ok_bind]
    refine makeMap_eq_ok.mpr ⟨fun e he => hk e (Entries.mem_of_mem_ofList he), ?_⟩
    rw [Entries.ofList_of_sorted (Entries.sorted_ofList es)]

theorem toItem_injective : Function.Injective toItem := by
  intro t
  induction t with
  | null =>
    intro u h
    cases u <;> first | rfl | simp [toItem] at h
  | cell v =>
    intro u h
    cases u with
    | cell w =>
      simp only [toItem, Cbor.Item.array.injEq, List.cons.injEq, true_and, and_true] at h
      rw [AlignedValue.toItem_injective h]
    | _ => simp [toItem] at h
  | array ts ih =>
    intro u h
    cases u with
    | array us =>
      simp only [toItem, Cbor.Item.array.injEq, List.cons.injEq, true_and, and_true,
        toItemList_eq_map] at h
      rw [map_inj_of_forall (fun t ht u => @ih t ht u) h]
    | _ => simp [toItem] at h
  | map es ih =>
    intro u h
    cases u with
    | map fs =>
      simp only [toItem, Cbor.Item.array.injEq, List.cons.injEq, true_and, and_true,
        toItemEntries_eq_map] at h
      refine congrArg map (map_inj_of_forall (fun e he f hf => ?_) h)
      simp only [Cbor.Item.array.injEq, List.cons.injEq, and_true] at hf
      exact Prod.ext (AlignedValue.toItem_injective hf.1) (ih e he hf.2)
    | _ => simp [toItem] at h

theorem decode_encode {t : Tree} (h : Built cfg t) (hl : t.encode.length ≤ Memory.largestSize) :
    decode cfg t.encode = .ok t := by
  rw [decode, encode, Cbor.decode?_encode (Nat.lt_of_le_of_lt hl (by decide))]
  exact h.ofDatum_toItem

end Tree

theorem Cbor.encode_inj {x y : Item} (hl : (encode x).length < 2 ^ 64) (h : encode x = encode y) :
    x = y := by
  have hh := decode?_encode hl
  rw [h, decode?_encode (h ▸ hl)] at hh
  exact (Option.some.inj hh).symm

section

variable [Memory]

theorem ChargedState.decode_encode {cfg : Config} {s : ChargedState} (h : s.tree.Built cfg)
    (hl : s.encode.length ≤ Memory.largestSize) : decode cfg s.encode = .ok s := by
  rw [decode, encode, Cbor.decode?_encode (Nat.lt_of_le_of_lt hl (by decide))]
  change ofDatum cfg (.list [.bytes magic, .int formatVersion, s.tree.toItem.toDatum, .int s.charged]) = _
  have hm : (Datum.bytes magic).same (.bytes magic) = true := by decide
  have hv : (Datum.int formatVersion).same (.int formatVersion) = true := by decide
  have hn : (Datum.int s.charged).toInt = .ok s.charged := rfl
  simp only [ofDatum, hm, hv, h.ofDatum_toItem, hn, ok_bind]
  rfl

/-- A tree that the constructors made and a state around one are read back as they were, down to the
number of bytes charged, and no two trees have one stored form. All a stored form has to be is a byte
string, and so no longer than a size can say. -/
theorem storedForm_roundTrip (cfg : Config) :
    (∀ t : Tree, t.Built cfg → t.encode.length ≤ Memory.largestSize →
      Tree.decode cfg t.encode = .ok t) ∧
    (∀ s : ChargedState, s.tree.Built cfg → s.encode.length ≤ Memory.largestSize →
      ChargedState.decode cfg s.encode = .ok s) ∧
    ∀ t u : Tree, t.encode.length ≤ Memory.largestSize → (t.encode = u.encode ↔ t = u) := by
  refine ⟨fun t => Tree.decode_encode, fun s => ChargedState.decode_encode, fun t u hl => ?_⟩
  constructor
  · intro h
    exact Tree.toItem_injective (Cbor.encode_inj (Nat.lt_of_le_of_lt hl (by decide)) h)
  · rintro rfl
    rfl

end

/-- A map given out of order, with a key of two slots, an array in it, and a charge beyond 64 bits. -/
theorem storedForm_nested_map :
    let cfg := Config.ofEnvironment fun _ => none
    let j : AlignedValue := ⟨[⟨.bytes 2, [1], by decide⟩, ⟨.compress, [0x68, 0x69], trivial⟩]⟩
    let k : AlignedValue := ⟨[⟨.field, [7], by decide⟩]⟩
    let t : Tree := .map [(j, .array [.cell k, .null]), (k, .cell j)]
    let s : ChargedState := ⟨t, 2 ^ 70⟩
    t.Built cfg ∧ t.encode.length ≤ Memory.largestSize ∧ Tree.decode cfg t.encode = .ok t ∧
      ChargedState.decode cfg s.encode = .ok s ∧ t.encode ≠ (Tree.cell j).encode := by
  intro cfg j k t s
  have hcell : ∀ v : AlignedValue, v.binaryLength ≤ 65536 → Tree.Built cfg (.cell v) := fun v hv =>
    .cell (Tree.makeCell_eq_ok.mpr ⟨hv, rfl⟩)
  have hj := hcell j (by decide +kernel)
  have hk := hcell k (by decide +kernel)
  have ha : Tree.Built cfg (.array [.cell k, .null]) :=
    @Tree.Built.array _ _ [.cell k, .null] _ (by simpa using ⟨hk, .null⟩)
      (Tree.makeArray_eq_ok.mpr ⟨by decide +kernel, rfl⟩)
  have ht : t.Built cfg := by
    refine @Tree.Built.map _ _ [(k, .cell j), (j, .array [.cell k, .null])] _ (by simpa using ⟨hj, ha⟩)
      (Tree.makeMap_eq_ok.mpr ⟨?_, ?_⟩)
    · simp only [List.forall_mem_cons, AlignedValue.requestBinary_eq_ok]
      decide +kernel
    · have ho : j.order k = .lt := by decide +kernel
      simp [Entries.ofList, Entries.insert, ho, t]
  have hl : t.encode.length ≤ Memory.largestSize := by decide +kernel
  obtain ⟨htree, hstate, hforms⟩ := storedForm_roundTrip cfg
  refine ⟨ht, hl, htree t ht hl, hstate s ht (by decide +kernel), fun h => ?_⟩
  exact absurd ((hforms t (.cell j) hl).mp h) (by simp [t])

end AlignedLedger
