import AlignedLedger.Proofs.Machine.Built
import AlignedLedger.Proofs.Machine.CutOff
import AlignedLedger.Proofs.Machine.Sequence
import Mathlib.Algebra.Order.BigOperators.Group.List
import Mathlib.Algebra.Ring.Int.Defs

/-! What runs cost. A success uses the prices of its instructions and the price of the bytes it puts
back, no more and no less, whatever the sign of the rates; no failure gives anything back. -/

namespace AlignedLedger

namespace Datum

variable {a b : Datum} {i k : Int}

theorem times_of_index [Memory] (ha : a.index? = some i) (n : Int) : a.times n = .ok (.int (i * n)) := by
  cases a with
  | bool _ | int _ | member _ _ _ =>
    cases ha
    rfl
  | _ => simp [index?, integer?] at ha

theorem plus_of_index (ha : a.index? = some i) (hb : b.index? = some k) :
    a.plus b = .ok (.int (i + k)) := by
  simp [plus, ha, hb]

theorem index?_of_integer? (ha : a.integer? = some i) : a.index? = some i := by
  cases a with
  | bool b => simp [integer?] at ha
  | _ => exact ha

end Datum

def Rates.map {α β : Type} (f : α → β) (r : Rates α) : Rates β where
  push := f r.push
  dup := f r.dup
  idx := f r.idx
  idxCached := f r.idxCached
  popeq := f r.popeq
  popeqCached := f r.popeqCached
  ins := f r.ins
  insCached := f r.insCached
  addi := f r.addi
  perPathStep := f r.perPathStep
  perByteWritten := f r.perByteWritten

namespace Tariff

/-- All rates are integers, those of the cost model; truth values and members of enumerations count
as the integers that they are. -/
def Whole (rates : Tariff) (prices : CostModel) : Prop :=
  rates.map Datum.index? = prices.map some

theorem whole_tariff (prices : CostModel) : Whole prices.tariff prices := rfl

variable [Memory]

variable {rates : Tariff} {prices : CostModel}

/-- Integer rates give integer prices. -/
theorem Whole.exists_costOf (h : rates.Whole prices) (i : Instr) :
    ∃ d, rates.costOf i = .ok d ∧ d.index? = some (prices.costOf i) := by
  obtain ⟨hpush, hdup, hidx, hidxCached, hpopeq, hpopeqCached, hins, hinsCached, haddi, hstep, -⟩ :=
    Rates.mk.inj h
  cases i with
  | push _ _ => exact ⟨rates.push, rfl, hpush⟩
  | dup _ => exact ⟨rates.dup, rfl, hdup⟩
  | idx persist _ path =>
    have halong := Datum.times_of_index hstep path.length
    cases persist with
    | false => exact ⟨_, by rw [costOf, costOfPath, halong]; exact Datum.plus_of_index hidx rfl, rfl⟩
    | true => exact ⟨_, by rw [costOf, costOfPath, halong]; exact Datum.plus_of_index hidxCached rfl, rfl⟩
  | popeq persist _ =>
    cases persist with
    | false => exact ⟨rates.popeq, rfl, hpopeq⟩
    | true => exact ⟨rates.popeqCached, rfl, hpopeqCached⟩
  | ins persist n =>
    cases persist with
    | false => exact ⟨_, Datum.times_of_index hins (max n 1), rfl⟩
    | true => exact ⟨_, Datum.times_of_index hinsCached (max n 1), rfl⟩
  | addi _ => exact ⟨rates.addi, rfl, haddi⟩

theorem Whole.times_perByteWritten (h : rates.Whole prices) (size : Nat) :
    rates.perByteWritten.times size = .ok (.int (prices.perByteWritten * size)) :=
  Datum.times_of_index (congrArg Rates.perByteWritten h) size

end Tariff

namespace Meter

variable {m r : Meter} {d : Datum}

theorem used_of_spend {n : Amount} (h : spend n m = .ok () r) : r.used = m.used + n.value := by
  obtain ⟨k, rfl, hk⟩ := spend_onlyAdds n h
  have hfree : spend n ⟨none, m.used⟩ = .ok () ⟨none, m.used + n.value⟩ := rfl
  exact (congrArg Meter.used (EStateM.Result.ok.inj (hfree.symm.trans (hk m.used))).2).symm

theorem used_of_chargePrice {i : Int} (hd : d.index? = some i) (h : chargePrice (.ok d) m = .ok () r) :
    (r.used : Int) = m.used + i := by
  obtain ⟨_, ⟨⟩, h⟩ := bind_ofExcept_run.mp h
  obtain ⟨a, ha, h⟩ := bind_ofExcept_run.mp h
  unfold amountOf at ha
  split at ha
  · next k hk =>
    cases ha
    obtain rfl : (k : Int) = i := Option.some.inj ((Datum.index?_of_integer? hk).symm.trans hd)
    rw [used_of_spend h]
    rfl
  · simp at ha
  · simp at ha

theorem eq_of_spend_error {n : Amount} {e : Fault} (h : spend n m = .error e r) : r = m := by
  unfold spend at h
  split at h
  · split at h
    · simp at h
    · exact (EStateM.Result.error.inj h).2.symm
  · simp at h

/-- A price that is refused is not charged. -/
theorem eq_of_chargePrice_error {price : Except Fault Datum} {e : Fault}
    (h : chargePrice price m = .error e r) : r = m := by
  obtain ⟨-, rfl⟩ | ⟨d, -, h⟩ := bind_ofExcept_run_error.mp h
  · rfl
  obtain ⟨-, rfl⟩ | ⟨n, -, h⟩ := bind_ofExcept_run_error.mp h
  · rfl
  · exact eq_of_spend_error h

end Meter

namespace Instr

/-- The size of what the instruction puts back, on the stack that it meets. -/
def bytesWritten : Instr → Stack → Nat
  | .ins .., t :: _ => t.storageSize
  | _, _ => 0

end Instr

namespace Stack

variable [Memory]

/-- The size of all that a program puts back, as far as it gets. -/
def bytesWritten (cfg : Config) : List Instr → Stack → Nat
  | [], _ => 0
  | i :: is, s => i.bytesWritten s +
    match perform cfg i s with
    | .ok (t, _) => bytesWritten cfg is t
    | .error _ => 0

variable {cfg : Config} {i : Instr} {s t : Stack} {read : Option AlignedValue}

theorem bytesWritten_cons (h : perform cfg i s = .ok (t, read)) (is : List Instr) :
    bytesWritten cfg (i :: is) s = i.bytesWritten s + bytesWritten cfg is t := by
  rw [bytesWritten, h]

theorem bytesWritten_cons_of_error {e : Fault} (h : perform cfg i s = .error e) (is : List Instr) :
    bytesWritten cfg (i :: is) s = i.bytesWritten s := by
  rw [bytesWritten, h]
  rfl

theorem bytesWritten_singleton (i : Instr) (s : Stack) : bytesWritten cfg [i] s = i.bytesWritten s := by
  cases h : perform cfg i s with
  | ok x => exact bytesWritten_cons h []
  | error e => exact bytesWritten_cons_of_error h []

end Stack

namespace Machine

open Metering

variable {cfg : Config} {rates : Tariff} {prices : CostModel} {m r : Meter} {s : Stack}

theorem used_of_perform [Memory] (hw : rates.Whole prices) {i : Instr} {e : Effect}
    (h : perform cfg rates i s m = .ok e r) :
    (r.used : Int) = m.used + prices.perByteWritten * i.bytesWritten s := by
  cases i with
  | ins persist n =>
    obtain ⟨⟨v, t⟩, hv, h⟩ := bind_ofExcept_run.mp h
    obtain ⟨_, u, hc, h⟩ := bind_run_eq_ok.mp h
    obtain ⟨_, -, ⟨⟩⟩ := bind_ofExcept_run.mp h
    cases n with
    | negSucc n => simp [Stack.insOperands] at hv
    | ofNat n =>
      obtain ⟨rfl, -⟩ := Stack.insOperands_eq_ok.mp hv
      rw [hw.times_perByteWritten] at hc
      exact Meter.used_of_chargePrice rfl hc
  | _ =>
    obtain ⟨_, -, ⟨⟩⟩ := bind_ofExcept_run.mp h
    simp [Instr.bytesWritten]

theorem used_of_step [Memory] (hw : rates.Whole prices) {k : Nat} {i : Instr} {e : Effect}
    (h : step cfg rates k (.instr i) s m = .ok e r) :
    (r.used : Int) = m.used + prices.costOf i + prices.perByteWritten * i.bytesWritten s := by
  obtain ⟨_, u, ⟨⟩, hc, hp⟩ := step_eq_ok.mp h
  obtain ⟨d, hd, hi⟩ := hw.exists_costOf i
  rw [hd] at hc
  rw [used_of_perform hw hp, Meter.used_of_chargePrice hi hc]

theorem used_of_steps [Memory] (hw : rates.Whole prices) {k : Nat} {is : List Instr}
    {x : Stack × List AlignedValue × List Instr} (h : steps cfg rates k (.ofInstrs is) s m = .ok x r) :
    (r.used : Int) = m.used + (is.map prices.costOf).sum +
      prices.perByteWritten * Stack.bytesWritten cfg is s := by
  induction is generalizing k s m x with
  | nil =>
    cases h
    simp [Stack.bytesWritten]
  | cons i is ih =>
    obtain ⟨e, u, rs, es, hs, hp, -, -⟩ := steps_cons_eq_ok.mp h
    obtain ⟨_, _, ⟨⟩, -, he⟩ := step_eq_ok.mp hs
    have hfirst := used_of_step hw hs
    have hrest := ih hp
    rw [Stack.bytesWritten_cons (perform_of_ok he), List.map_cons, List.sum_cons]
    push_cast
    rw [hrest, hfirst, Int.mul_add]
    omega

section Payable

variable [Memory]

variable (hw : rates.Whole prices) (hp : prices.Payable)
include hw hp

theorem used_le_of_perform_error {i : Instr} {e : Fault} (h : perform cfg rates i s m = .error e r) :
    (r.used : Int) ≤ m.used + prices.perByteWritten * i.bytesWritten s := by
  have hbytes : 0 ≤ prices.perByteWritten * i.bytesWritten s := Int.mul_nonneg hp.byte (by omega)
  cases i with
  | ins persist n =>
    obtain ⟨-, rfl⟩ | ⟨⟨v, t⟩, hv, h⟩ := bind_ofExcept_run_error.mp h
    · omega
    rcases bind_run_eq_error.mp h with hc | ⟨_, u, hc, h⟩
    · obtain rfl := Meter.eq_of_chargePrice_error hc
      omega
    obtain ⟨-, rfl⟩ | ⟨_, -, ⟨⟩⟩ := bind_ofExcept_run_error.mp h
    rw [hw.times_perByteWritten] at hc
    rw [Meter.used_of_chargePrice rfl hc]
    cases n with
    | negSucc n => simp [Stack.insOperands] at hv
    | ofNat n =>
      obtain ⟨rfl, -⟩ := Stack.insOperands_eq_ok.mp hv
      exact Int.le_refl _
  | _ =>
    obtain ⟨-, rfl⟩ | ⟨_, -, ⟨⟩⟩ := bind_ofExcept_run_error.mp h
    omega

/-- Without prices below zero, a run that fails uses no more than the whole program would. -/
theorem used_le_of_steps_error {k : Nat} {is : List Instr} {e : Fault}
    (h : steps cfg rates k (.ofInstrs is) s m = .error e r) :
    (r.used : Int) ≤ m.used + (is.map prices.costOf).sum +
      prices.perByteWritten * Stack.bytesWritten cfg is s := by
  induction is generalizing k s m with
  | nil => cases h
  | cons i is ih =>
    have hprice : 0 ≤ prices.costOf i := hp.instr i
    have hrest : 0 ≤ (is.map prices.costOf).sum := List.sum_nonneg fun _ hx => by
      obtain ⟨j, -, rfl⟩ := List.mem_map.mp hx
      exact hp.instr j
    have hbytes : ∀ n : Nat, 0 ≤ prices.perByteWritten * n := fun n => Int.mul_nonneg hp.byte (by omega)
    have hfirst := hbytes (i.bytesWritten s)
    rw [List.map_cons, List.sum_cons]
    rcases steps_cons_eq_error.mp h with hs | ⟨f, u, hs, h⟩
    · have hle : i.bytesWritten s ≤ Stack.bytesWritten cfg (i :: is) s := Nat.le_add_right _ _
      have hall := Int.mul_le_mul_of_nonneg_left (Int.ofNat_le.mpr hle) hp.byte
      rcases bind_run_eq_error.mp hs with hc | ⟨_, u, hc, hs⟩
      · obtain rfl := Meter.eq_of_chargePrice_error hc
        omega
      · obtain ⟨d, hd, hi⟩ := hw.exists_costOf i
        rw [hd] at hc
        have hcharge := Meter.used_of_chargePrice hi hc
        have hdone := used_le_of_perform_error hw hp hs
        omega
    · obtain ⟨_, _, ⟨⟩, -, he⟩ := step_eq_ok.mp hs
      have hstep := used_of_step hw hs
      have hsteps := ih h
      rw [Stack.bytesWritten_cons (perform_of_ok he)]
      push_cast
      rw [Int.mul_add]
      omega

end Payable

/-- What the meter shows before each step of a program and in the end. -/
def readings [Memory] (cfg : Config) (rates : Tariff) : Nat → Program → Stack → Meter → List Meter
  | _, [], _, m => [m]
  | k, op :: ops, s, m => m ::
    match step cfg rates k op s m with
    | .ok e r => readings cfg rates (k + 1) ops e.stack r
    | .error _ r => [r]

/-- What the meter shows while programs run on it one after another, each on a root of its own. -/
def history [Memory] (cfg : Config) (rates : Tariff) : List (Tree × Program) → Meter → List Meter
  | [], m => [m]
  | (root, p) :: runs, m => readings cfg rates 0 p [root] m ++
    history cfg rates runs (left (run cfg rates root p m))

theorem climbs_left {α : Type} {x : Metered α} (h : x.OnlyClimbs) (m : Meter) : m.Climbs (left (x m)) := by
  have hm := h m
  cases hx : x m with
  | ok a r =>
    rw [hx] at hm
    exact hm
  | error e r =>
    rw [hx] at hm
    exact hm

section

variable [Memory]

/-- The last reading is that of the run. -/
theorem left_run (root : Tree) (p : Program) (m : Meter) :
    left (run cfg rates root p m) = left (steps cfg rates 0 p [root] m) := by
  rw [run, bind_run_of_ok (get_run m)]
  cases h : steps cfg rates 0 p [root] m with
  | error e r =>
    rw [bind_run_of_error h]
    rfl
  | ok x r =>
    obtain ⟨s, _, _⟩ := x
    rw [bind_run_of_ok h]
    dsimp only
    rw [bind_run_of_ok (get_run r)]
    split <;> rfl

theorem climbs_of_mem_readings {k : Nat} {p : Program} (h : r ∈ readings cfg rates k p s m) :
    m.Climbs r ∧ r.Climbs (left (steps cfg rates k p s m)) := by
  have hall := climbs_left (Metered.lasting_onlyClimbs.steps cfg rates k p s)
  induction p generalizing k s m with
  | nil =>
    obtain rfl := List.mem_singleton.mp h
    exact ⟨.refl r, .refl r⟩
  | cons op p ih =>
    have hfirst := climbs_left (Metered.lasting_onlyClimbs.step cfg rates k op s) m
    rcases List.mem_cons.mp h with rfl | h
    · exact ⟨.refl r, hall r⟩
    cases hs : step cfg rates k op s m with
    | error e t =>
      rw [hs] at h hfirst
      obtain rfl := List.mem_singleton.mp h
      rw [steps, bind_run_of_error hs]
      exact ⟨hfirst, .refl r⟩
    | ok e t =>
      rw [hs] at h hfirst
      obtain ⟨hbefore, hafter⟩ := ih h (climbs_left (Metered.lasting_onlyClimbs.steps cfg rates _ p _))
      have hrest : left (steps cfg rates k (op :: p) s m) = left (steps cfg rates (k + 1) p e.stack t) := by
        rw [steps, bind_run_of_ok hs]
        cases hp : steps cfg rates (k + 1) p e.stack t with
        | error f u => rw [bind_run_of_error hp]
        | ok x u =>
          rw [bind_run_of_ok hp]
          rfl
      rw [hrest]
      exact ⟨hfirst.trans hbefore, hafter⟩

theorem pairwise_readings (k : Nat) (p : Program) (s : Stack) (m : Meter) :
    (readings cfg rates k p s m).Pairwise Meter.Climbs := by
  induction p generalizing k s m with
  | nil => exact List.pairwise_singleton _ m
  | cons op p ih =>
    refine List.pairwise_cons.mpr ⟨fun r hr => ?_, ?_⟩
    · have hmem : r ∈ readings cfg rates k (op :: p) s m := List.mem_cons_of_mem m hr
      exact (climbs_of_mem_readings hmem).1
    · split
      · exact ih _ _ _
      · exact List.pairwise_singleton _ _

theorem climbs_of_mem_history {runs : List (Tree × Program)} (h : r ∈ history cfg rates runs m) :
    m.Climbs r := by
  induction runs generalizing m with
  | nil =>
    obtain rfl := List.mem_singleton.mp h
    exact .refl r
  | cons first runs ih =>
    rcases List.mem_append.mp h with h | h
    · exact (climbs_of_mem_readings h).1
    · exact (climbs_left (run_onlyClimbs cfg rates first.1 first.2) m).trans (ih h)

theorem pairwise_history (runs : List (Tree × Program)) (m : Meter) :
    (history cfg rates runs m).Pairwise Meter.Climbs := by
  induction runs generalizing m with
  | nil => exact List.pairwise_singleton _ m
  | cons first runs ih =>
    refine List.pairwise_append.mpr ⟨pairwise_readings 0 first.2 _ m, ih _, fun r hr t ht => ?_⟩
    have hrun := (climbs_of_mem_readings hr).2
    rw [← left_run] at hrun
    exact hrun.trans (climbs_of_mem_history ht)

/-- Programs that run on one meter never take anything off it, nor take it past its limit, and each one
that succeeds costs the prices of its instructions and the price of the bytes it puts back. -/
theorem accounting_exact (hw : rates.Whole prices) (hm : ∀ l, m.limit = some l → m.used ≤ l.value)
    (runs : List (Tree × Program)) :
    (history cfg rates runs m).Pairwise (fun r t => r.used ≤ t.used) ∧
    (∀ r ∈ history cfg rates runs m, r.limit = m.limit ∧ ∀ l, m.limit = some l → r.used ≤ l.value) ∧
    (∀ root p o r t, run cfg rates root p r = .ok o t → ∃ is, p = .ofInstrs is ∧
      t.used = r.used + o.cost ∧
      (o.cost : Int) = (is.map prices.costOf).sum +
        prices.perByteWritten * Stack.bytesWritten cfg is [root]) ∧
    (∀ i, ∃ d, rates.costOf i = .ok d ∧ d.index? = some (prices.costOf i)) ∧
    ∀ persist n, prices.costOf (.ins persist n) =
      (if persist then prices.insCached else prices.ins) * max n 1 := by
  refine ⟨(pairwise_history runs m).imp Meter.Climbs.used, fun r hr => ?_, fun root p o r t h => ?_,
    hw.exists_costOf, fun _ _ => rfl⟩
  · have hc := climbs_of_mem_history hr
    refine ⟨hc.limit, fun l hl => ?_⟩
    rcases hc.within l hl with he | hle
    · rw [he]
      exact hm l hl
    · exact hle
  · obtain ⟨hs, -⟩ := run_eq_ok.mp h
    obtain ⟨rfl, -⟩ := run_unlimited h
    obtain ⟨is, rfl⟩ := exists_instrs_of_steps hs
    refine ⟨is, rfl, rfl, ?_⟩
    have hused := used_of_steps hw hs
    push_cast at hused
    omega

end

/-- One program is paid for, one has a price below zero, and one would pass the limit. -/
theorem accounting_with_discount :
    ∃ (cfg : Config) (rates : Tariff) (prices : CostModel) (runs : List (Tree × Program)) (m : Meter),
      rates.Whole prices ∧ prices.dup < 0 ∧ m.limit = some (.ofNat 20) ∧
      (history cfg rates runs m).map Meter.used = [0, 11, 11, 11, 11, 11, 11] ∧
      (history cfg rates runs m).Pairwise (fun r t => r.used ≤ t.used) := by
  let prices : CostModel := { CostModel.standard with dup := -1 }
  let put : Program := .ofInstrs [.ins false 0]
  refine ⟨Config.ofEnvironment fun _ => none, prices.tariff, prices,
    [(.null, put), (.null, .ofInstrs [.dup 0]), (.null, put)], .capped (some 20),
    Tariff.whole_tariff prices, by decide, rfl, by decide,
    (accounting_exact (Tariff.whole_tariff prices) ?_ _).1⟩
  rintro l ⟨⟩
  exact Nat.zero_le _

end Machine

end AlignedLedger
