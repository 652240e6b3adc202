import AlignedLedger.Proofs.Agreement
import AlignedLedger.Proofs.Machine.Accounting

/-! The flag `persist`. Programs that differ in their flags alone come to the same end, and for a path that
the call has touched before nothing costs more than it would otherwise. -/

namespace AlignedLedger

namespace Instr

/-- The same instruction with this flag, if it has one at all. -/
def withFlag (b : Bool) : Instr → Instr
  | push _ t => push b t
  | idx _ pushPath path => idx b pushPath path
  | popeq _ result => popeq b result
  | ins _ n => ins b n
  | i => i

def flag? : Instr → Option Bool
  | push b _ | idx b _ _ | popeq b _ | ins b _ => some b
  | dup _ | addi _ => none

/-- The flag marks a path that the call has touched before. -/
def cached : Instr → Bool
  | idx b _ _ | popeq b _ | ins b _ => b
  | push _ _ | dup _ | addi _ => false

variable (b : Bool) (i : Instr)

@[simp] theorem withFlag_withFlag (c : Bool) : (i.withFlag c).withFlag b = i.withFlag b := by
  cases i <;> rfl

theorem exists_withFlag : ∃ c, i.withFlag c = i := by
  cases i with
  | push c _ | idx c _ _ | popeq c _ | ins c _ => exact ⟨c, rfl⟩
  | dup _ | addi _ => exact ⟨false, rfl⟩

theorem eq_withFlag {i j : Instr} (h : i.withFlag false = j.withFlag false) : ∃ b, j = i.withFlag b := by
  obtain ⟨b, hb⟩ := j.exists_withFlag
  exact ⟨b, by rw [← i.withFlag_withFlag b false, h, withFlag_withFlag, hb]⟩

@[simp] theorem bytesWritten_withFlag (s : Stack) : (i.withFlag b).bytesWritten s = i.bytesWritten s := by
  cases i with
  | ins _ _ => cases s <;> rfl
  | _ => rfl

end Instr

namespace Step

def withFlag (b : Bool) : Step → Step
  | instr i => instr (i.withFlag b)
  | pushForeign _ d => pushForeign b d
  | idxForeign _ pushPath path => idxForeign b pushPath path
  | popeqForeign _ d => popeqForeign b d
  | foreign d => foreign d

theorem withFlag_withFlag (b c : Bool) (op : Step) : (op.withFlag c).withFlag b = op.withFlag b := by
  cases op with
  | instr i => exact congrArg instr (i.withFlag_withFlag b c)
  | _ => rfl

theorem exists_withFlag (op : Step) : ∃ b, op.withFlag b = op := by
  cases op with
  | instr i =>
    obtain ⟨b, hb⟩ := i.exists_withFlag
    exact ⟨b, congrArg instr hb⟩
  | pushForeign b _ | idxForeign b _ _ | popeqForeign b _ => exact ⟨b, rfl⟩
  | foreign _ => exact ⟨false, rfl⟩

theorem eq_withFlag {op op' : Step} (h : op.withFlag false = op'.withFlag false) :
    ∃ b, op' = op.withFlag b := by
  obtain ⟨b, hb⟩ := op'.exists_withFlag
  exact ⟨b, by rw [← op.withFlag_withFlag b false, h, withFlag_withFlag, hb]⟩

end Step

namespace Program

/-- The programs are one, but for the flags. -/
def SameButFlags (p q : Program) : Prop := p.map (Step.withFlag false) = q.map (Step.withFlag false)

variable {p q : Program} {op op' : Step}

theorem instrs_withFlag (b : Bool) (p : Program) :
    instrs (p.map (Step.withFlag b)) = p.instrs.map (Instr.withFlag b) := by
  induction p with
  | nil => rfl
  | cons op p ih =>
    cases op with
    | instr i => exact congrArg (i.withFlag b :: ·) ih
    | _ => exact ih

theorem SameButFlags.instrs (h : SameButFlags p q) :
    p.instrs.map (Instr.withFlag false) = q.instrs.map (Instr.withFlag false) := by
  rw [← instrs_withFlag, ← instrs_withFlag]
  exact congrArg Program.instrs h

theorem SameButFlags.cons_inv (h : SameButFlags (op :: p) (op' :: q)) :
    (∃ b, op' = op.withFlag b) ∧ SameButFlags p q := by
  obtain ⟨hop, hp⟩ := List.cons.inj h
  exact ⟨Step.eq_withFlag hop, hp⟩

end Program

namespace Stack

variable [Memory]

variable {cfg : Config}

@[simp] theorem perform_withFlag (b : Bool) (i : Instr) (s : Stack) :
    perform cfg (i.withFlag b) s = perform cfg i s := by
  cases i <;> rfl

theorem bytesWritten_withFlag (b : Bool) (is : List Instr) (s : Stack) :
    bytesWritten cfg (is.map (Instr.withFlag b)) s = bytesWritten cfg is s := by
  induction is generalizing s with
  | nil => rfl
  | cons i is ih => simp only [List.map_cons, bytesWritten, Instr.bytesWritten_withFlag, perform_withFlag, ih]

end Stack

namespace CostModel

/-- What has been touched before is no dearer than what has not. -/
structure FavoursCached (prices : CostModel) : Prop where
  idx : prices.idxCached ≤ prices.idx
  popeq : prices.popeqCached ≤ prices.popeq
  ins : prices.insCached ≤ prices.ins

theorem favoursCached_standard : standard.FavoursCached := ⟨by decide, by decide, by decide⟩

theorem FavoursCached.costOf_le {prices : CostModel} (hc : prices.FavoursCached) {i j : Instr}
    (h : i.withFlag false = j.withFlag false) (hcached : i.cached ≤ j.cached) :
    prices.costOf j ≤ prices.costOf i := by
  obtain ⟨b, rfl⟩ := Instr.eq_withFlag h
  have hrate : ∀ {c d : Bool} {x y : Int}, c ≤ d → x ≤ y →
      (if d then x else y) ≤ if c then x else y := by
    intro c d x y hcd hxy
    cases c with
    | false => cases d with
      | false => exact Int.le_refl _
      | true => exact hxy
    | true =>
      rw [hcd rfl]
  cases i with
  | idx persist _ path => exact Int.add_le_add_right (hrate hcached hc.idx) _
  | popeq persist _ => exact hrate hcached hc.popeq
  | ins persist n => exact Int.mul_le_mul_of_nonneg_right (hrate hcached hc.ins) (by omega)
  | _ => exact Int.le_refl _

end CostModel

namespace Machine

variable {cfg : Config} {rates : Tariff} {prices : CostModel} {m m' : Meter} {s : Stack}

theorem charge_agree {x y : Except Fault Datum}
    (hx : ∃ r, Meter.chargePrice x m = .ok () r ∧ r.limit = none)
    (hy : ∃ r, Meter.chargePrice y m' = .ok () r ∧ r.limit = none) :
    RunsAgree (fun _ r _ r' => r.limit = none ∧ r'.limit = none) (Meter.chargePrice x m)
      (Meter.chargePrice y m') := by
  obtain ⟨r, hx, hr⟩ := hx
  obtain ⟨r', hy, hr'⟩ := hy
  rw [hx, hy]
  exact ⟨hr, hr'⟩

/-- The same stack and the same read come of both, nothing is limited afterwards, and what goes on record
differs in the flag alone. -/
def SameEffect (e : Effect) (r : Meter) (f : Effect) (r' : Meter) : Prop :=
  f.stack = e.stack ∧ f.read = e.read ∧
    f.executed.withFlag false = e.executed.withFlag false ∧ r.limit = none ∧ r'.limit = none

section Payable

variable [Memory]

variable (hp : prices.Payable)
include hp

theorem exists_charge {op : Step} (hop : ∀ d, op ≠ .foreign d) (hm : m.limit = none) :
    ∃ r, Meter.chargePrice (prices.tariff.costOfStep op) m = .ok () r ∧ r.limit = none := by
  obtain ⟨_, u⟩ := m
  subst hm
  obtain ⟨i, hi⟩ : ∃ i, prices.tariff.costOfStep op = prices.tariff.costOf i := by
    cases op with
    | instr i => exact ⟨i, rfl⟩
    | pushForeign b _ => exact ⟨.push b .null, rfl⟩
    | idxForeign b pushPath path =>
      refine ⟨.idx b pushPath (path.map fun _ => .stack), ?_⟩
      rw [Tariff.costOf, List.length_map]
      rfl
    | popeqForeign b _ => exact ⟨.popeq b none, rfl⟩
    | foreign d => exact absurd rfl (hop d)
  obtain ⟨n, hn⟩ := chargePrice_of_payable hp i u
  exact ⟨_, hi ▸ hn, rfl⟩

theorem exists_charge_bytes (size : Nat) (hm : m.limit = none) :
    ∃ r, Meter.chargePrice (prices.tariff.perByteWritten.times size) m = .ok () r ∧ r.limit = none := by
  obtain ⟨_, u⟩ := m
  subst hm
  obtain ⟨n, hn⟩ := chargePrice_bytes hp size u
  exact ⟨_, hn, rfl⟩

theorem perform_withFlag_agree (b : Bool) (i : Instr) (s : Stack) (hm : m.limit = none)
    (hm' : m'.limit = none) :
    RunsAgree SameEffect (perform cfg prices.tariff i s m)
      (perform cfg prices.tariff (i.withFlag b) s m') := by
  have hsame : ∀ {α : Type} (x : Except Fault α), Agree Eq x x := fun x => .refl x fun _ _ => rfl
  cases i with
  | popeq persist result =>
    refine (RunsAgree.ofExcept (hsame (s.popeq result))).bind ?_
    rintro ⟨v, t⟩ _ _ _ ⟨rfl, rfl, rfl⟩
    exact ⟨rfl, rfl, rfl, hm, hm'⟩
  | ins persist n =>
    refine (RunsAgree.ofExcept (hsame (s.insOperands n))).bind ?_
    rintro ⟨v, t⟩ _ _ _ ⟨rfl, rfl, rfl⟩
    have hcharge := exists_charge_bytes hp v.storageSize hm
    have hcharge' := exists_charge_bytes hp v.storageSize hm'
    refine (charge_agree hcharge hcharge').bind ?_
    rintro _ r _ r' ⟨hr, hr'⟩
    refine (RunsAgree.ofExcept (hsame (t.ins cfg n.toNat v))).bind ?_
    rintro t _ _ _ ⟨rfl, rfl, rfl⟩
    exact ⟨rfl, rfl, rfl, hr, hr'⟩
  | _ =>
    refine (RunsAgree.ofExcept (hsame _)).bind ?_
    rintro t _ _ _ ⟨rfl, rfl, rfl⟩
    exact ⟨rfl, rfl, rfl, hm, hm'⟩

theorem step_withFlag_agree (b : Bool) (k : Nat) (op : Step) (s : Stack) (hm : m.limit = none)
    (hm' : m'.limit = none) :
    RunsAgree SameEffect (step cfg prices.tariff k op s m)
      (step cfg prices.tariff k (op.withFlag b) s m') := by
  by_cases hop : ∃ d, op = .foreign d
  · obtain ⟨d, rfl⟩ := hop
    exact rfl
  · have hop : ∀ d, op ≠ .foreign d := fun d hd => hop ⟨d, hd⟩
    have hop' : ∀ d, op.withFlag b ≠ .foreign d := by
      intro d hd
      cases op with
      | foreign e => exact hop e rfl
      | _ => cases hd
    have hcharge := charge_agree (exists_charge hp hop hm) (exists_charge hp hop' hm')
    cases op with
    | foreign d => exact absurd rfl (hop d)
    | instr i => exact hcharge.bind fun _ r _ r' hr => perform_withFlag_agree hp b i s hr.1 hr.2
    | _ => exact hcharge.bind fun _ _ _ _ _ => rfl

/-- The programs fail for the same reason, or leave the same and read the same; their records differ in the
flags alone. -/
theorem steps_agree {p q : Program} (hpq : p.SameButFlags q) (k : Nat) (s : Stack) (hm : m.limit = none)
    (hm' : m'.limit = none) :
    RunsAgree (fun x r y r' => y.1 = x.1 ∧ y.2.1 = x.2.1 ∧
        y.2.2.map (Instr.withFlag false) = x.2.2.map (Instr.withFlag false) ∧ r.limit = none ∧ r'.limit = none)
      (steps cfg prices.tariff k p s m) (steps cfg prices.tariff k q s m') := by
  induction p generalizing q k s m m' with
  | nil =>
    obtain rfl : q = [] := List.map_eq_nil_iff.mp (Eq.symm hpq)
    exact ⟨rfl, rfl, rfl, hm, hm'⟩
  | cons op p ih =>
    cases q with
    | nil => cases hpq
    | cons op' q =>
      obtain ⟨⟨b, rfl⟩, htail⟩ := hpq.cons_inv
      refine (step_withFlag_agree hp b k op s hm hm').bind ?_
      rintro ⟨_, _, executed⟩ r ⟨t, read, executed'⟩ r' ⟨rfl, rfl, hexecuted, hr, hr'⟩
      refine (ih htail (k + 1) t hr hr').bind ?_
      rintro ⟨_, _, es⟩ u ⟨t', reads, es'⟩ u' ⟨rfl, rfl, hes, hu, hu'⟩
      exact ⟨rfl, rfl, congrArg₂ List.cons hexecuted hes, hu, hu'⟩

theorem run_agree {p q : Program} (hpq : p.SameButFlags q) (root : Tree) (hm : m.limit = none)
    (hm' : m'.limit = none) :
    RunsAgree (fun o _ o' _ => o'.tree = o.tree ∧ o'.reads = o.reads ∧
        o'.executed.map (Instr.withFlag false) = o.executed.map (Instr.withFlag false))
      (run cfg prices.tariff root p m) (run cfg prices.tariff root q m') := by
  rw [run, run, bind_run_of_ok (get_run m), bind_run_of_ok (get_run m')]
  refine (steps_agree hp hpq 0 [root] hm hm').bind ?_
  rintro ⟨_, _, executed⟩ r ⟨s, reads, executed'⟩ r' ⟨rfl, rfl, hexecuted, -⟩
  dsimp only
  rw [bind_run_of_ok (get_run r), bind_run_of_ok (get_run r')]
  rcases s with _ | ⟨t, _ | ⟨u, s⟩⟩
  · exact rfl
  · exact ⟨rfl, rfl, hexecuted⟩
  · exact rfl

end Payable

section Records

variable [Memory]

variable {k : Nat} {i : Instr} {e : Effect} {p : Program} {t : Stack} {reads : List AlignedValue}
variable {executed : List Instr}

theorem flag_executed (h : perform cfg rates i s m = .ok e m') : e.executed.flag? = i.flag? := by
  cases i with
  | popeq persist result =>
    obtain ⟨_, -, -, he, -⟩ := perform_popeq.mp h
    rw [he]
    rfl
  | _ => rw [(perform_executed (by simp) h).1]

/-- Instructions go on record with their flags. -/
theorem flags_of_steps (h : steps cfg rates k p s m = .ok (t, reads, executed) m') :
    executed.map Instr.flag? = p.instrs.map Instr.flag? := by
  induction p generalizing k s m reads executed with
  | nil =>
    cases h
    rfl
  | cons op p ih =>
    obtain ⟨e, r, rs, es, hs, hp, -, rfl⟩ := steps_cons_eq_ok.mp h
    obtain ⟨i, _, rfl, -, he⟩ := step_eq_ok.mp hs
    exact congrArg₂ List.cons (flag_executed he) (ih hp)

end Records

section Costs

/-- A run that succeeds costs the prices of its instructions and the price of the bytes it puts back. -/
theorem cost_of_run [Memory] (hw : rates.Whole prices) {root : Tree} {p : Program} {o : Outcome}
    (h : run cfg rates root p m = .ok o m') :
    (o.cost : Int) = (p.instrs.map prices.costOf).sum +
      prices.perByteWritten * Stack.bytesWritten cfg p.instrs [root] := by
  obtain ⟨hs, -⟩ := run_eq_ok.mp h
  obtain ⟨rfl, -⟩ := run_unlimited h
  obtain ⟨is, rfl⟩ := exists_instrs_of_steps hs
  have hused := used_of_steps hw hs
  rw [Program.instrs_ofInstrs]
  push_cast at hused
  omega

variable {is js : List Instr}

theorem sum_costOf_le (hc : prices.FavoursCached)
    (hsame : is.map (Instr.withFlag false) = js.map (Instr.withFlag false))
    (hcached : List.Forall₂ (· ≤ ·) (is.map Instr.cached) (js.map Instr.cached)) :
    (js.map prices.costOf).sum ≤ (is.map prices.costOf).sum := by
  rw [List.forall₂_map_left_iff, List.forall₂_map_right_iff] at hcached
  induction hcached with
  | nil => exact Int.le_refl _
  | cons hij _ ih =>
    obtain ⟨hi, his⟩ := List.cons.inj hsame
    rw [List.map_cons, List.map_cons, List.sum_cons, List.sum_cons]
    exact Int.add_le_add (hc.costOf_le hi hij) (ih his)

/-- Where more is marked as touched before, the run does not cost more. -/
theorem cost_le_of_cached [Memory] (hc : prices.FavoursCached) {root : Tree} {p q : Program} (hpq : p.SameButFlags q)
    {o o' : Outcome} {r r' : Meter} (ho : run cfg prices.tariff root p m = .ok o r)
    (ho' : run cfg prices.tariff root q m' = .ok o' r')
    (hcached : List.Forall₂ (· ≤ ·) (p.instrs.map Instr.cached) (q.instrs.map Instr.cached)) :
    o'.cost ≤ o.cost := by
  have hbytes : Stack.bytesWritten cfg q.instrs [root] = Stack.bytesWritten cfg p.instrs [root] := by
    rw [← Stack.bytesWritten_withFlag false, ← hpq.instrs, Stack.bytesWritten_withFlag]
  have hsum := sum_costOf_le hc hpq.instrs hcached
  have hcost := cost_of_run (Tariff.whole_tariff prices) ho
  have hcost' := cost_of_run (Tariff.whole_tariff prices) ho'
  rw [hbytes] at hcost'
  omega

end Costs

/-- Where no price is below zero, programs that differ in nothing but their flags fail for one reason, or they
succeed with one tree and the same reads, and each puts its own flags on record. At the standard prices the
flags of pushes make no difference, and those of paths, reads and values put back make nothing dearer. -/
theorem flags_only_bear_on_cost [Memory] (cfg : Config) (root : Tree) (used used' : Nat) {p q : Program}
    (hpq : p.SameButFlags q) :
    (∀ prices : CostModel, prices.Payable →
      let left := run cfg prices.tariff root p ⟨none, used⟩
      let right := run cfg prices.tariff root q ⟨none, used'⟩
      (∃ e m m', left = .error e m ∧ right = .error e m') ∨
        ∃ o m o' m', left = .ok o m ∧ right = .ok o' m' ∧ o'.tree = o.tree ∧ o'.reads = o.reads ∧
          o'.executed.map (Instr.withFlag false) = o.executed.map (Instr.withFlag false) ∧
          o.executed.map Instr.flag? = p.instrs.map Instr.flag? ∧
          o'.executed.map Instr.flag? = q.instrs.map Instr.flag?) ∧
    ∀ o m o' m', run cfg Tariff.standard root p ⟨none, used⟩ = .ok o m →
      run cfg Tariff.standard root q ⟨none, used'⟩ = .ok o' m' →
      (List.Forall₂ (· ≤ ·) (p.instrs.map Instr.cached) (q.instrs.map Instr.cached) → o'.cost ≤ o.cost) ∧
      (p.instrs.map Instr.cached = q.instrs.map Instr.cached → o'.cost = o.cost) := by
  refine ⟨fun prices hp => ?_, fun o m o' m' ho ho' => ⟨?_, fun hcached => ?_⟩⟩
  · intro left right
    have hagree : RunsAgree _ left right := run_agree hp hpq root rfl rfl
    cases hleft : left with
    | error e m =>
      cases hright : right with
      | error f m' =>
        rw [hleft, hright] at hagree
        obtain rfl : e = f := hagree
        exact .inl ⟨e, m, m', rfl, rfl⟩
      | ok o' m' =>
        rw [hleft, hright] at hagree
        exact hagree.elim
    | ok o m =>
      cases hright : right with
      | error f m' =>
        rw [hleft, hright] at hagree
        exact hagree.elim
      | ok o' m' =>
        rw [hleft, hright] at hagree
        obtain ⟨htree, hreads, hexecuted⟩ := hagree
        exact .inr ⟨o, m, o', m', rfl, rfl, htree, hreads, hexecuted, flags_of_steps (run_eq_ok.mp hleft).1,
          flags_of_steps (run_eq_ok.mp hright).1⟩
  · exact cost_le_of_cached CostModel.favoursCached_standard hpq ho ho'
  · have hle : List.Forall₂ (· ≤ ·) (p.instrs.map Instr.cached) (q.instrs.map Instr.cached) := by
      rw [hcached]
      exact List.forall₂_refl _
    have hge : List.Forall₂ (· ≤ ·) (q.instrs.map Instr.cached) (p.instrs.map Instr.cached) := by
      rw [hcached]
      exact List.forall₂_refl _
    exact Nat.le_antisymm (cost_le_of_cached CostModel.favoursCached_standard hpq ho ho' hle)
      (cost_le_of_cached CostModel.favoursCached_standard (Eq.symm hpq) ho' ho hge)

/-- A cell is read and gives way to null, once as if nothing had been touched before and once as if all of it
had. -/
theorem flags_of_put :
    let cfg := Config.ofEnvironment fun _ => none
    let zero : AlignedValue := ⟨[⟨.bytes 1, [], by decide⟩]⟩
    let root : Tree := .array [.cell zero]
    let put (b : Bool) : Program := .ofInstrs [.dup 0, .idx b false [.literal zero], .popeq b none,
      .push b (.cell zero), .push b .null, .ins b 1]
    ∃ o m o' m', run cfg Tariff.standard root (put false) ⟨none, 0⟩ = .ok o m ∧
      run cfg Tariff.standard root (put true) ⟨none, 0⟩ = .ok o' m' ∧ o'.tree = o.tree ∧ o'.reads = o.reads ∧
      o.executed.map Instr.flag? ≠ o'.executed.map Instr.flag? ∧ o'.cost ≤ o.cost := by
  intro cfg zero root put
  have hsame : (put false).SameButFlags (put true) := rfl
  obtain ⟨hend, hcost⟩ := flags_only_bear_on_cost cfg root 0 0 hsame
  obtain ⟨o, m, ho⟩ : ∃ o m, run cfg Tariff.standard root (put false) ⟨none, 0⟩ = .ok o m := ⟨_, _, rfl⟩
  obtain ⟨e, m, _, he, -⟩ | ⟨_, _, o', m', ho, ho', htree, hreads, -, hflags, hflags'⟩ :=
    hend CostModel.standard CostModel.payable_standard
  · cases ho.symm.trans he
  · refine ⟨_, _, o', m', ho, ho', htree, hreads, ?_, (hcost _ _ _ _ ho ho').1 (by decide)⟩
    rw [hflags, hflags']
    decide

end Machine

end AlignedLedger
