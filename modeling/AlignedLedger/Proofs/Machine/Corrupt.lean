import AlignedLedger.Proofs.Machine.Layout

/-! Corrupt instructions that reading stumbles over. An operand of a wrong kind makes the instruction malformed,
which is told; what else goes unreported in an operand goes unreported here. -/

namespace AlignedLedger

section Escapes

variable {α β γ : Type} {x : Except Fault α} {f : γ → Except Fault α} {xs : List γ}

/-- It fails, and neither is a report made of that nor has it to do with a wrong kind. -/
def Escapes (x : Except Fault α) : Prop := ∃ e, x = .error e ∧ ¬ e.IsReported ∧ e ≠ .wrongType

theorem escapes_iff : Escapes x ↔ Unreported x ∧ x ≠ .error .wrongType := by
  constructor
  · rintro ⟨e, rfl, hr, hne⟩
    exact ⟨⟨e, rfl, hr⟩, fun h => hne (Except.error.inj h)⟩
  · rintro ⟨⟨e, rfl, hr⟩, hne⟩
    exact ⟨e, rfl, hr, fun h => hne (congrArg Except.error h)⟩

theorem not_escapes_ok (a : α) : ¬ Escapes (.ok a : Except Fault α) := by
  simp [Escapes]

theorem not_escapes_wrongType : ¬ Escapes (.error .wrongType : Except Fault α) := by
  simp [Escapes]

theorem escapes_map {g : α → β} : Escapes (x.map g) ↔ Escapes x := by
  simp only [Escapes, map_eq_error]

theorem escapes_bind {g : α → Except Fault β} :
    Escapes (x >>= g) ↔ Escapes x ∨ ∃ a, x = .ok a ∧ Escapes (g a) := by
  cases x with
  | ok a => simp [Escapes]
  | error e => simp [Escapes]

theorem escapes_mapM : Escapes (xs.mapM f) ↔
    ∃ before x after, xs = before ++ x :: after ∧ (∀ y ∈ before, ∃ z, f y = .ok z) ∧ Escapes (f x) := by
  simp only [← exists_mapM_ok]
  constructor
  · rintro ⟨e, he, h⟩
    obtain ⟨before, x, after, hxs, hbefore, hx⟩ := mapM_eq_error.mp he
    exact ⟨before, x, after, hxs, hbefore, e, hx, h⟩
  · rintro ⟨before, x, after, hxs, hbefore, e, hx, h⟩
    exact ⟨e, mapM_eq_error.mpr ⟨before, x, after, hxs, hbefore, hx⟩, h⟩

end Escapes

namespace Datum

variable {d : Datum}

/-- A text, a byte string or a fraction that spells no integer. -/
def Misspelt (d : Datum) : Prop :=
  (d.codes?.isSome ∨ d.bytes?.isSome ∨ ∃ x, d = .float x) ∧ ¬ ∃ i, ReadsAsInt d i

theorem escapes_elements : ¬ Escapes d.elements := by
  unfold elements
  cases d.elements? with
  | some xs => exact not_escapes_ok xs
  | none => exact not_escapes_wrongType

theorem escapes_toInt : Escapes d.toInt ↔ Misspelt d := by
  have hescapes : Escapes d.toInt ↔ (¬ ∃ i, ReadsAsInt d i) ∧ d.toInt ≠ .error .wrongType := by
    rw [escapes_iff, unreported_iff_of_forall fun _ => not_isReported_of_toInt]
    simp only [toInt_eq_ok]
  have hother : ∀ s, toInt.ofText s ≠ .error .wrongType := by
    intro s
    unfold toInt.ofText
    cases Text.integer? s <;> simp
  rw [hescapes, Misspelt, and_comm]
  refine and_congr_left fun hspelt => ?_
  cases d with
  | bool | int | member => exact absurd ⟨_, .number rfl⟩ hspelt
  | text s => simpa [toInt, codes?] using hother s
  | broken t => simp [toInt, codes?]
  | bytes b => simpa [toInt, bytes?] using hother _
  | buffer b => simpa [toInt, bytes?] using hother _
  | float x => cases x <;> simp [toInt]
  | _ => simp [toInt, index?, integer?, bytes?, codes?]

end Datum

namespace PathKey

variable {d : Datum}

variable [Memory]

/-- Reading a key stumbles over the datum. -/
def StumblesOver : Datum → Prop
  | .list [.text "value", v] => AlignedValue.StumblesOver v
  | d => d.isWritable = false

theorem unreported_iff : Unreported (ofDatum d) ↔ StumblesOver d := by
  unfold ofDatum
  split
  · exact iff_of_false (not_unreported_ok _) (by simp [StumblesOver, Datum.isWritable, Datum.areWritable])
  · rw [unreported_map, AlignedValue.unreported_iff]
    rfl
  · next hd =>
    rw [unreported_error_of_spelled rfl rfl]
    unfold StumblesOver
    split
    · exact absurd rfl (hd _)
    · rfl

end PathKey

namespace Instr

variable {cfg : Config} {d : Datum} {name : String} {args : List Datum}

variable [Memory]

/-- An operand escapes. Flags never do, and numbers do if they are misspelt. -/
def OperandEscapes (cfg : Config) : String → List Datum → Prop
  | "push", _ :: d :: _ => Tree.StumblesOver cfg d ∧ Tree.ofDatum cfg d ≠ .error .wrongType
  | "dup", d :: _ => d.Misspelt
  | "idx", _ :: _ :: path :: _ => ∃ before k after, path.elements? = some (before ++ k :: after) ∧
    (∀ x ∈ before, ∃ y, PathKey.ofDatum x = .ok y) ∧
    PathKey.StumblesOver k ∧ PathKey.ofDatum k ≠ .error .wrongType
  | "popeq", _ :: d :: _ => AlignedValue.StumblesOver d ∧ AlignedValue.ofDatum d ≠ .error .wrongType
  | "ins", _ :: d :: _ => d.Misspelt
  | "addi", d :: _ => d.Misspelt
  | _, _ => False

/-- Reading an instruction stumbles over the datum. What is malformed may be too long for the message. -/
def StumblesOver (cfg : Config) : Datum → Prop
  | .list (.text name :: args) =>
    (ofOperands cfg name args = .error .wrongType ∧ Datum.areWritable args = false) ∨
      OperandEscapes cfg name args
  | .list (name :: _) => name.isWritable = false
  | d => d.isWritable = false

section Operands

variable {p q path : Datum} {ds : List Datum}

theorem escapes_push : Escapes (ofOperands cfg "push" (p :: d :: ds)) ↔
    Tree.StumblesOver cfg d ∧ Tree.ofDatum cfg d ≠ .error .wrongType := by
  rw [ofOperands_push, escapes_map, escapes_iff, Tree.unreported_iff]

theorem escapes_idx : Escapes (ofOperands cfg "idx" (p :: q :: path :: ds)) ↔
    ∃ before k after, path.elements? = some (before ++ k :: after) ∧
      (∀ x ∈ before, ∃ y, PathKey.ofDatum x = .ok y) ∧
      PathKey.StumblesOver k ∧ PathKey.ofDatum k ≠ .error .wrongType := by
  rw [ofOperands_idx, escapes_map, escapes_bind, or_iff_right Datum.escapes_elements]
  simp only [AlignedValue.elements_eq_ok, escapes_mapM]
  simp only [escapes_iff, PathKey.unreported_iff]
  constructor
  · rintro ⟨_, hpath, before, k, after, rfl, h⟩
    exact ⟨before, k, after, hpath, h⟩
  · rintro ⟨before, k, after, hpath, h⟩
    exact ⟨_, hpath, before, k, after, rfl, h⟩

theorem escapes_popeq : Escapes (ofOperands cfg "popeq" (p :: d :: ds)) ↔
    AlignedValue.StumblesOver d ∧ AlignedValue.ofDatum d ≠ .error .wrongType := by
  rw [ofOperands_popeq, ← AlignedValue.unreported_iff, ← escapes_iff]
  by_cases hd : d.isNull = true
  · obtain rfl : d = .null := by
      cases d <;> first | rfl | cases hd
    -- No result is asked for, and as an aligned value it would be refused with a report.
    have hnull : ¬ Escapes (AlignedValue.ofDatum .null) := by
      rw [escapes_iff]
      rintro ⟨h, -⟩
      cases (unreported_error_of_spelled rfl rfl).mp h
    exact iff_of_false (not_escapes_ok _) hnull
  · rw [if_neg hd, escapes_map]

end Operands

theorem escapes_ofOperands : Escapes (ofOperands cfg name args) ↔ OperandEscapes cfg name args := by
  constructor
  · intro h
    cases form cfg name args with
    | push p d ds => exact escapes_push.mp h
    | dup d ds =>
      rw [ofOperands_dup, escapes_map] at h
      exact Datum.escapes_toInt.mp h
    | idx p q path ds => exact escapes_idx.mp h
    | popeq p d ds => exact escapes_popeq.mp h
    | ins p d ds =>
      rw [ofOperands_ins, escapes_map] at h
      exact Datum.escapes_toInt.mp h
    | addi d ds =>
      rw [ofOperands_addi, escapes_map] at h
      exact Datum.escapes_toInt.mp h
    | missing hargs =>
      rw [hargs] at h
      exact absurd h not_escapes_wrongType
    | unknown hname =>
      rw [hname, escapes_iff, unreported_error_of_spelled rfl rfl] at h
      cases h.1
  · intro h
    unfold OperandEscapes at h
    split at h
    · exact escapes_push.mpr h
    · rw [ofOperands_dup, escapes_map]
      exact Datum.escapes_toInt.mpr h
    · exact escapes_idx.mpr h
    · exact escapes_popeq.mpr h
    · rw [ofOperands_ins, escapes_map]
      exact Datum.escapes_toInt.mpr h
    · rw [ofOperands_addi, escapes_map]
      exact Datum.escapes_toInt.mpr h
    · exact h.elim

theorem unreported_named : Unreported (ofDatum cfg (.list (.text name :: args))) ↔
    (ofOperands cfg name args = .error .wrongType ∧ Datum.areWritable args = false) ∨
      Escapes (ofOperands cfg name args) := by
  rw [ofDatum]
  cases hargs : ofOperands cfg name args with
  | ok i =>
    have hi := not_unreported_ok i
    simp [hi, not_escapes_ok]
  | error e =>
    by_cases he : e = .wrongType
    · -- The message spells the whole instruction, and the name is never too long for it.
      subst he
      simp [unreported_error, Fault.isReported_iff, Fault.kind, FaultKind.isReported, Fault.spelled,
        Datum.isWritable, Datum.areWritable, not_escapes_wrongType]
    · have hwrong : (Except.error e : Except Fault Instr) ≠ .error .wrongType := by simpa using he
      cases e <;> simp_all [escapes_iff]

theorem unreported_iff : Unreported (ofDatum cfg d) ↔ StumblesOver cfg d := by
  unfold StumblesOver
  split
  · rw [unreported_named, escapes_ofOperands]
  · next name args hname =>
    have hd : ofDatum cfg (.list (name :: args)) = .error (.unknownInstructionName name) := by
      cases name <;> first | rfl | exact absurd rfl (hname _)
    rw [hd, unreported_error_of_spelled rfl rfl]
  · next hlist hne =>
    have hd : ofDatum cfg d = .error (.badInstruction d) := by
      unfold ofDatum
      split
      · exact absurd rfl (hlist _ _)
      · exact absurd rfl (hne _ _)
      · rfl
    rw [hd, unreported_error_of_spelled rfl rfl]

end Instr

end AlignedLedger
