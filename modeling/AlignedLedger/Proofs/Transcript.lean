import AlignedLedger.Proofs.Machine.Safety
import AlignedLedger.Proofs.Tree.RoundTrip
import AlignedLedger.Transcript

/-! Instructions and the records of calls are read back from their stored form as they were, and what
anyone may see of a record tells just the parts that anyone may see. -/

namespace AlignedLedger

open Cbor (Item)

namespace PathKey

variable [Memory]

theorem ofDatum_toItem (k : PathKey) : ofDatum k.toItem.toDatum = .ok k := by
  cases k with
  | stack => rfl
  | literal v =>
    change (AlignedValue.ofDatum v.toItem.toDatum).map literal = _
    rw [AlignedValue.ofDatum_toItem, ok_map]

theorem toItem_injective : Function.Injective toItem := by
  intro k l h
  have hh := ofDatum_toItem k
  rw [h, ofDatum_toItem] at hh
  exact (Except.ok.inj hh).symm

end PathKey

namespace Instr

variable {cfg : Config}

variable [Memory]

theorem ofDatum_of_ofOperands {name : String} {args : List Datum} {i : Instr}
    (h : ofOperands cfg name args = .ok i) : ofDatum cfg (.list (.text name :: args)) = .ok i := by
  simp only [ofDatum, h]

/-- Nothing but the tree of a push is checked when an instruction is read. -/
theorem ofDatum_toItem {i : Instr} (hi : (Step.instr i).WellTyped cfg) :
    ofDatum cfg i.toItem.toDatum = .ok i := by
  cases i with
  | push persist t =>
    have ht : Tree.ofDatum cfg t.toItem.toDatum = .ok t := Tree.Built.ofDatum_toItem hi
    have hread : ofOperands cfg "push" [.bool persist, t.toItem.toDatum] = .ok (push persist t) := by
      change (Tree.ofDatum cfg t.toItem.toDatum >>= fun u => pure (push persist u)) = _
      rw [ht, ok_bind, pure_eq_ok]
    exact ofDatum_of_ofOperands hread
  | idx persist pushPath path =>
    have hpath : ((path.map PathKey.toItem).map Item.toDatum).mapM PathKey.ofDatum = .ok path := by
      rw [List.map_map]
      exact mapM_map_ok fun k _ => k.ofDatum_toItem
    have hread : ofOperands cfg "idx" [.bool persist, .bool pushPath,
        .list ((path.map PathKey.toItem).map Item.toDatum)] = .ok (idx persist pushPath path) := by
      change (List.mapM PathKey.ofDatum _ >>= fun ks => pure (idx persist pushPath ks)) = _
      rw [hpath, ok_bind, pure_eq_ok]
    rw [← Item.toDatum_array] at hread
    exact ofDatum_of_ofOperands hread
  | popeq persist result =>
    cases result with
    | none => rfl
    | some v =>
      have hread : ofOperands cfg "popeq" [.bool persist, v.toItem.toDatum] =
          .ok (popeq persist (some v)) := by
        change ((AlignedValue.ofDatum v.toItem.toDatum).map some >>= fun r => pure (popeq persist r)) = _
        rw [AlignedValue.ofDatum_toItem, ok_map, ok_bind, pure_eq_ok]
      exact ofDatum_of_ofOperands hread
  | dup n => rfl
  | ins persist n => rfl
  | addi n => rfl

theorem resultItem_injective : Function.Injective resultItem := by
  intro r s h
  cases r with
  | none =>
    cases s with
    | none => rfl
    | some w => simp [resultItem, AlignedValue.toItem] at h
  | some v =>
    cases s with
    | none => simp [resultItem, AlignedValue.toItem] at h
    | some w => exact congrArg some (AlignedValue.toItem_injective h)

theorem toItem_injective : Function.Injective toItem := by
  intro i j h
  cases i with
  | push persist t =>
    cases j with
    | push persist' u =>
      simp only [toItem, Item.array.injEq, List.cons.injEq, Item.bool.injEq, true_and, and_true] at h
      rw [h.1, Tree.toItem_injective h.2]
    | _ => simp [toItem] at h
  | idx persist pushPath path =>
    cases j with
    | idx persist' pushPath' path' =>
      simp only [toItem, Item.array.injEq, List.cons.injEq, Item.bool.injEq, true_and, and_true] at h
      rw [h.1, h.2.1, PathKey.toItem_injective.list_map h.2.2]
    | _ => simp [toItem] at h
  | popeq persist result =>
    cases j with
    | popeq persist' result' =>
      simp only [toItem, Item.array.injEq, List.cons.injEq, Item.bool.injEq, true_and, and_true] at h
      rw [h.1, resultItem_injective h.2]
    | _ => simp [toItem] at h
  | dup n =>
    cases j with
    | dup n' => simpa [toItem] using h
    | _ => simp [toItem] at h
  | ins persist n =>
    cases j with
    | ins persist' n' => simpa [toItem] using h
    | _ => simp [toItem] at h
  | addi n =>
    cases j with
    | addi n' => simpa [toItem] using h
    | _ => simp [toItem] at h

theorem listItem_injective : Function.Injective listItem := by
  intro is js h
  exact toItem_injective.list_map (Item.array.inj h)

end Instr

namespace ProofRecord

variable {cfg : Config} {p q : ProofRecord}

section

variable [Memory]

theorem ofDatum_toItem (hp : ∀ i ∈ p.publicTranscript, (Step.instr i).WellTyped cfg) :
    ofDatum cfg (Item.array (p.publicItems ++ [.array (p.privateOutputs.map AlignedValue.toItem)])).toDatum =
      .ok p := by
  have hinstrs : ((p.publicTranscript.map Instr.toItem).map Item.toDatum).mapM (Instr.ofDatum cfg) =
      .ok p.publicTranscript := by
    rw [List.map_map]
    exact mapM_map_ok fun i hi => Instr.ofDatum_toItem (hp i hi)
  have houtputs : ((p.privateOutputs.map AlignedValue.toItem).map Item.toDatum).mapM
      AlignedValue.ofDatum = .ok p.privateOutputs := by
    rw [List.map_map]
    exact mapM_map_ok fun v _ => v.ofDatum_toItem
  simp only [publicItems, Instr.listItem, List.cons_append, List.nil_append, Item.toDatum_array,
    List.map_cons, List.map_nil, ofDatum, AlignedValue.ofDatum_toItem, Datum.elements, Datum.elements?,
    ok_bind, hinstrs, houtputs, pure_eq_ok]

theorem decode_encode (hp : ∀ i ∈ p.publicTranscript, (Step.instr i).WellTyped cfg)
    (hl : p.encode.length ≤ Memory.largestSize) : decode cfg p.encode = .ok p := by
  rw [decode, encode, Cbor.decode?_encode (Nat.lt_of_le_of_lt hl (by decide))]
  exact ofDatum_toItem hp

theorem publicItems_inj : p.publicItems = q.publicItems ↔
    p.input = q.input ∧ p.output = q.output ∧ p.publicTranscript = q.publicTranscript := by
  simp only [publicItems, List.cons.injEq, and_true, AlignedValue.toItem_injective.eq_iff,
    Instr.listItem_injective.eq_iff]

theorem publicBinary_eq_iff (hl : p.publicBinary.length ≤ Memory.largestSize) :
    p.publicBinary = q.publicBinary ↔
      p.input = q.input ∧ p.output = q.output ∧ p.publicTranscript = q.publicTranscript := by
  rw [← publicItems_inj]
  constructor
  · intro h
    exact Item.array.inj (Cbor.encode_inj (Nat.lt_of_le_of_lt hl (by decide)) h)
  · intro h
    rw [publicBinary, h, publicBinary]

/-- Instructions and records come back as they were if the trees that they push are ones that the
constructors made, whatever the integers in them are, and the public part of a record tells its argument,
its result and its instructions, but not what the witnesses gave. All a stored form has to be is a byte
string, and so no longer than a size can say. -/
theorem record_roundTrip (cfg : Config) :
    (∀ i : Instr, (Step.instr i).WellTyped cfg → Instr.ofDatum cfg i.toItem.toDatum = .ok i) ∧
    (∀ p : ProofRecord, (∀ i ∈ p.publicTranscript, (Step.instr i).WellTyped cfg) →
      p.encode.length ≤ Memory.largestSize → decode cfg p.encode = .ok p) ∧
    ∀ p q : ProofRecord, p.publicBinary.length ≤ Memory.largestSize →
      (p.publicBinary = q.publicBinary ↔
        p.input = q.input ∧ p.output = q.output ∧ p.publicTranscript = q.publicTranscript) :=
  ⟨fun _ => Instr.ofDatum_toItem, fun _ => decode_encode, fun _ _ => publicBinary_eq_iff⟩

end

/-- A record with an instruction of each kind, a number beyond 64 bits and a read without a result. -/
theorem record_of_each_kind :
    let cfg := Config.ofEnvironment fun _ => none
    let k : AlignedValue := ⟨[⟨.bytes 2, [1], by decide⟩, ⟨.compress, [0x68, 0], trivial⟩]⟩
    let t : Tree := .map [(k, .array [.cell k, .null])]
    let is : List Instr := [.push true t, .dup 1180591620717411303424, .idx true false [.literal k, .stack],
      .popeq false none, .popeq true (some k), .ins false (-1), .addi (-18446744073709551616)]
    let p : ProofRecord := ⟨k, .empty, is, [k]⟩
    decode cfg p.encode = .ok p ∧ p.publicBinary ≠ (⟨k, k, is, []⟩ : ProofRecord).publicBinary ∧
      Instr.ofDatum cfg (Instr.push true t).toItem.toDatum = .ok (.push true t) := by
  intro cfg k t is p
  have hcell : (Tree.cell k).Built cfg := Tree.built_cell_iff.mpr (by decide +kernel)
  have harray : (Tree.array [.cell k, .null]).Built cfg :=
    Tree.built_array_iff.mpr ⟨by decide +kernel, by simpa using ⟨hcell, .null⟩⟩
  have hkey : k.requestBinary = .ok () := AlignedValue.requestBinary_eq_ok.mpr (by decide +kernel)
  have ht : t.Built cfg :=
    Tree.built_map_iff.mpr ⟨List.pairwise_singleton _ _, by simpa using ⟨hkey, harray⟩⟩
  have hp : ∀ i ∈ p.publicTranscript, (Step.instr i).WellTyped cfg := by
    simpa [p, is, Step.WellTyped] using ht
  obtain ⟨hinstr, hrecord, hpublic⟩ := record_roundTrip cfg
  refine ⟨hrecord p hp (by decide +kernel), fun h => ?_, hinstr (.push true t) ht⟩
  obtain ⟨-, houtput, -⟩ := (hpublic p _ (by decide +kernel)).mp h
  exact absurd houtput (by decide)

end ProofRecord

end AlignedLedger
