import AlignedLedger.Proofs.Call.Query
import AlignedLedger.Proofs.Machine.Sequence

/-! One program or two. A program and another one after it come to what both come to as one program, run on
their own as well as in a call, where they leave the same context and the same record. -/

namespace AlignedLedger.Call

variable {cfg : Config} {p q : Program} {s s₁ s₂ : CallState} {v w : Option AlignedValue}

section

variable [Memory]

theorem query_append (hp : query cfg p s = .ok v s₁) (hq : query cfg q s₁ = .ok w s₂) :
    query cfg (p ++ q) s = .ok (w.or v) s₂ := by
  obtain ⟨o, m₁, r₁, hrun, hr₁, rfl, rfl⟩ := query_eq_ok.mp hp
  obtain ⟨o', m₂, r₂, hrun', hr₂, rfl, rfl⟩ := query_eq_ok.mp hq
  obtain ⟨hopen, rfl⟩ := recordInstrs_eq_ok.mp hr₁
  obtain ⟨-, rfl⟩ := recordInstrs_eq_ok.mp hr₂
  refine query_eq_ok.mpr ⟨_, m₂, _, Machine.run_append hrun hrun', recordInstrs_eq_ok.mpr ⟨hopen, rfl⟩, ?_, ?_⟩
  · exact List.getLast?_append.symm
  · rw [List.append_assoc]

/-- Where the first program succeeds, the second one is all that can still stop the two as one. -/
theorem exists_query_of_append (hp : query cfg p s = .ok v s₁) (h : query cfg (p ++ q) s = .ok w s₂) :
    ∃ x s', query cfg q s₁ = .ok x s' := by
  obtain ⟨o, m₁, r₁, hrun, hr₁, -, rfl⟩ := query_eq_ok.mp hp
  obtain ⟨hopen, rfl⟩ := recordInstrs_eq_ok.mp hr₁
  obtain ⟨_, _, _, hall, -, -, -⟩ := query_eq_ok.mp h
  cases hrun' : Machine.run cfg s.context.rates o.tree q m₁ with
  | ok o' m₂ =>
    exact ⟨_, _, query_eq_ok.mpr ⟨o', m₂, _, hrun', recordInstrs_eq_ok.mpr ⟨hopen, rfl⟩, rfl, rfl⟩⟩
  | error e m₂ =>
    obtain ⟨f, hf, -⟩ := Machine.run_append_eq_error hrun hrun'
    cases hall.symm.trans hf

/-- After a program that succeeds, another one runs from the root that is left and with the meter that is
left as if both were one program, whatever the rates and the limit are. The reads and the record of the one
program are those of the first and then those of the second, and its cost is that of both; where the second
one fails, the one program fails for the same reason with as much used, and tells of what is no instruction
by its place in the whole. In a call the one program succeeds if the second one does, and leaves the context
and the recorder that the two leave; its value is that of the second, or that of the first if the second
reads nothing. -/
theorem programs_compose (cfg : Config) (p q : Program) :
    (∀ rates root m o m₁, Machine.run cfg rates root p m = .ok o m₁ →
      (∀ o' m₂, Machine.run cfg rates o.tree q m₁ = .ok o' m₂ →
        Machine.run cfg rates root (p ++ q) m =
          .ok ⟨o'.tree, o.reads ++ o'.reads, o.executed ++ o'.executed, o.cost + o'.cost⟩ m₂) ∧
      ∀ e m₂, Machine.run cfg rates o.tree q m₁ = .error e m₂ →
        ∃ f, Machine.run cfg rates root (p ++ q) m = .error f m₂ ∧ Fault.Displaced p.length e f) ∧
    ∀ s v s₁, query cfg p s = .ok v s₁ → ∀ x s₂,
      query cfg (p ++ q) s = .ok x s₂ ↔ ∃ w, query cfg q s₁ = .ok w s₂ ∧ x = w.or v := by
  refine ⟨fun rates root m o m₁ hp => ⟨?succeeds, ?fails⟩, ?queries⟩
  case succeeds => exact fun o' m₂ hq => Machine.run_append hp hq
  case fails => exact fun e m₂ hq => Machine.run_append_eq_error hp hq
  case queries =>
    intro s v s₁ hp x s₂
    constructor
    · intro h
      obtain ⟨w, s', hq⟩ := exists_query_of_append hp h
      cases h.symm.trans (query_append hp hq)
      exact ⟨w, hq, rfl⟩
    · rintro ⟨w, hq, rfl⟩
      exact query_append hp hq

end

/-- Something is put into an array and then read, under a limit that is just enough for both. What is no
instruction is found at its place behind the three that put it there. -/
theorem composed_put_and_read :
    let cfg := Config.ofEnvironment fun _ => none
    let zero : AlignedValue := ⟨[⟨.bytes 1, [], by decide⟩]⟩
    let one : AlignedValue := ⟨[⟨.field, [1], by decide⟩]⟩
    let root : Tree := .array [.null]
    let put : Program := .ofInstrs [.push false (.cell zero), .push true (.cell one), .ins true 1]
    let read : Program := .ofInstrs [.dup 0, .idx true false [.literal zero], .popeq true none]
    let stray : Program := [.instr (.dup 0), .foreign .null]
    let m := Meter.start (some (.ofNat 44))
    let s : CallState := ⟨.detached root, .start .empty⟩
    (∃ o m', Machine.run cfg Tariff.standard root (put ++ read) m = .ok o m' ∧
      o.tree = .array [.cell one] ∧ o.reads = [one] ∧ o.cost = 39 + 5) ∧
    (∃ f m', Machine.run cfg Tariff.standard root (put ++ stray) m = .error f m' ∧
      Fault.Displaced 3 (.unknownInstruction 1 .null) f ∧ m'.used = 39 + 1) ∧
    ∃ s', query cfg (put ++ read) s = .ok (some one) s' ∧ s'.context.tree = .array [.cell one] := by
  intro cfg zero one root put read stray m s
  have hput : Machine.run cfg Tariff.standard root put m =
      .ok ⟨.array [.cell one], [], put.instrs, 39⟩ ⟨m.limit, 39⟩ := rfl
  obtain ⟨hok, -⟩ := (programs_compose cfg put read).1 _ _ _ _ _ hput
  obtain ⟨-, herror⟩ := (programs_compose cfg put stray).1 _ _ _ _ _ hput
  obtain ⟨f, hf, hd⟩ := herror (.unknownInstruction 1 .null) ⟨m.limit, 40⟩ rfl
  refine ⟨⟨_, _, hok _ _ rfl, rfl, rfl, rfl⟩, ⟨f, _, hf, hd, rfl⟩, ?_⟩
  obtain ⟨s₁, hquery⟩ : ∃ s₁, query cfg put s = .ok none s₁ := ⟨_, rfl⟩
  obtain ⟨s₂, hread⟩ : ∃ s₂, query cfg read s₁ = .ok (some one) s₂ := by
    cases hquery
    exact ⟨_, rfl⟩
  refine ⟨s₂, ((programs_compose cfg put read).2 _ _ _ hquery _ _).mpr ⟨some one, hread, rfl⟩, ?_⟩
  cases hquery
  cases hread
  rfl

end AlignedLedger.Call
