import AlignedLedger.Proofs.Machine.Steps

/-! Running a record again. What goes on record is the program with the value of each read filled in,
so on the same stack it does the same, and on another one it does what the program without any
expected values does, as long as that reads the same. -/

namespace AlignedLedger

/-- The instruction without the result that a read has to give. -/
def Instr.forgetResult : Instr → Instr
  | popeq persist _ => popeq persist none
  | i => i

theorem Stack.popeq_eq_ok {result : Option AlignedValue} {v : AlignedValue} {s t : Stack} :
    s.popeq result = .ok (v, t) ↔ s.popCell .popeq = .ok (v, t) ∧ (result = none ∨ result = some v) := by
  unfold popeq
  rw [bind_eq_ok]
  constructor
  · rintro ⟨⟨w, r⟩, hp, h⟩
    cases result with
    | none =>
      cases h
      exact ⟨hp, .inl rfl⟩
    | some expected =>
      by_cases he : expected = w
      · simp only [he, if_true] at h
        cases h
        exact ⟨hp, .inr (congrArg some he)⟩
      · simp [he] at h
  · rintro ⟨hp, rfl | rfl⟩
    · exact ⟨_, hp, rfl⟩
    · exact ⟨_, hp, by simp⟩

namespace Machine

variable {cfg : Config} {rates : Tariff} {m m' : Meter}

section Steps

variable [Memory]

variable {i : Instr} {op : Step} {k : Nat} {s : Stack} {e : Effect}

theorem perform_popeq {persist : Bool} {result : Option AlignedValue} :
    perform cfg rates (.popeq persist result) s m = .ok e m' ↔
      ∃ v, s.popeq result = .ok (v, e.stack) ∧ e.read = some v ∧ e.executed = .popeq persist (some v) ∧
        m' = m := by
  rw [perform, bind_ofExcept_run]
  constructor
  · rintro ⟨⟨v, t⟩, hv, ⟨⟩⟩
    exact ⟨v, hv, rfl, rfl, rfl⟩
  · obtain ⟨t, read, executed⟩ := e
    rintro ⟨v, hv, rfl, rfl, rfl⟩
    exact ⟨_, hv, rfl⟩

/-- Instructions other than reads go on record as they are. -/
theorem perform_executed (hi : ∀ persist result, i ≠ .popeq persist result)
    (h : perform cfg rates i s m = .ok e m') : e.executed = i ∧ e.read = none := by
  cases i with
  | popeq persist result => exact absurd rfl (hi persist result)
  | ins persist n =>
    obtain ⟨_, -, h⟩ := bind_ofExcept_run.mp h
    obtain ⟨_, _, -, h⟩ := bind_run_eq_ok.mp h
    obtain ⟨_, -, ⟨⟩⟩ := bind_ofExcept_run.mp h
    exact ⟨rfl, rfl⟩
  | _ =>
    obtain ⟨_, -, ⟨⟩⟩ := bind_ofExcept_run.mp h
    exact ⟨rfl, rfl⟩

theorem perform_replay (h : perform cfg rates i s m = .ok e m') :
    perform cfg rates e.executed s m = .ok e m' := by
  cases i with
  | popeq persist result =>
    obtain ⟨v, hv, hr, he, rfl⟩ := perform_popeq.mp h
    rw [he]
    exact perform_popeq.mpr ⟨v, Stack.popeq_eq_ok.mpr ⟨(Stack.popeq_eq_ok.mp hv).1, .inr rfl⟩, hr, he, rfl⟩
  | _ => rwa [(perform_executed (by simp) h).1]

/-- On another stack the instruction on record does what the instruction without a result does, when
that reads the same. -/
theorem perform_executed_iff (h : perform cfg rates i s m = .ok e m') {t : Stack} {f : Effect}
    {r r' : Meter} :
    perform cfg rates e.executed t r = .ok f r' ↔
      perform cfg rates i.forgetResult t r = .ok f r' ∧ f.read = e.read := by
  cases i with
  | popeq persist result =>
    obtain ⟨v, -, hr, he, -⟩ := perform_popeq.mp h
    rw [he, hr, Instr.forgetResult, perform_popeq, perform_popeq]
    constructor
    · rintro ⟨w, hw, hf, hx, rfl⟩
      obtain ⟨hp, hv | hv⟩ := Stack.popeq_eq_ok.mp hw
      · simp at hv
      · obtain rfl := Option.some.inj hv
        exact ⟨⟨v, Stack.popeq_eq_ok.mpr ⟨hp, .inl rfl⟩, hf, hx, rfl⟩, hf⟩
    · rintro ⟨⟨w, hw, hf, hx, rfl⟩, hv⟩
      obtain rfl := Option.some.inj (hf.symm.trans hv)
      exact ⟨w, Stack.popeq_eq_ok.mpr ⟨(Stack.popeq_eq_ok.mp hw).1, .inr rfl⟩, hf, hx, rfl⟩
  | _ =>
    obtain ⟨he, hr⟩ := perform_executed (by simp) h
    rw [he, hr, Instr.forgetResult]
    · exact ⟨fun hf => ⟨hf, (perform_executed (by simp) hf).2⟩, And.left⟩
    all_goals simp

theorem costOf_forgetResult (rates : Tariff) (i : Instr) :
    rates.costOf i.forgetResult = rates.costOf i := by
  cases i <;> rfl

theorem costOf_executed (h : perform cfg rates i s m = .ok e m') :
    rates.costOf e.executed = rates.costOf i := by
  cases i with
  | popeq persist result =>
    obtain ⟨_, -, -, he, -⟩ := perform_popeq.mp h
    rw [he]
    rfl
  | _ => rw [(perform_executed (by simp) h).1]

theorem step_replay {k' : Nat} (h : step cfg rates k op s m = .ok e m') :
    step cfg rates k' (.instr e.executed) s m = .ok e m' := by
  obtain ⟨i, r, rfl, hc, hp⟩ := step_eq_ok.mp h
  exact step_eq_ok.mpr ⟨_, r, rfl, by rwa [costOf_executed hp], perform_replay hp⟩

theorem step_executed_iff (h : step cfg rates k (.instr i) s m = .ok e m') {k' : Nat} {t : Stack}
    {f : Effect} {r r' : Meter} :
    step cfg rates k' (.instr e.executed) t r = .ok f r' ↔
      step cfg rates k' (.instr i.forgetResult) t r = .ok f r' ∧ f.read = e.read := by
  obtain ⟨_, _, ⟨⟩, -, hp⟩ := step_eq_ok.mp h
  rw [step_eq_ok, step_eq_ok]
  constructor
  · rintro ⟨_, q, ⟨⟩, hc, hf⟩
    obtain ⟨hf, hr⟩ := (perform_executed_iff hp).mp hf
    rw [costOf_executed hp, ← costOf_forgetResult] at hc
    exact ⟨⟨_, q, rfl, hc, hf⟩, hr⟩
  · rintro ⟨⟨_, q, ⟨⟩, hc, hf⟩, hr⟩
    rw [costOf_forgetResult, ← costOf_executed hp] at hc
    exact ⟨_, q, rfl, hc, (perform_executed_iff hp).mpr ⟨hf, hr⟩⟩

end Steps

section Programs

variable {k : Nat} {op : Step} {p q : Program} {is executed : List Instr} {s t : Stack}
variable {reads : List AlignedValue}

/-- A record can be run again from where the program ran, to the same effect and for the same price. -/
theorem steps_replay [Memory] (h : steps cfg rates k p s m = .ok (t, reads, executed) m') (k' : Nat) :
    steps cfg rates k' (.ofInstrs executed) s m = .ok (t, reads, executed) m' := by
  induction p generalizing k k' s m reads executed with
  | nil =>
    cases h
    rfl
  | cons op p ih =>
    obtain ⟨e, r, rs, es, hs, hp, rfl, rfl⟩ := steps_cons_eq_ok.mp h
    exact steps_cons_eq_ok.mpr ⟨e, r, rs, es, step_replay hs, ih hp (k' + 1), rfl, rfl⟩

/-- What one step reads, another reads only if both are reads. -/
theorem toList_append_inj {x y : Option AlignedValue} {xs ys : List AlignedValue}
    (hxy : x.isSome = y.isSome) : x.toList ++ xs = y.toList ++ ys ↔ x = y ∧ xs = ys := by
  cases x <;> cases y <;> simp_all

variable [Memory]

theorem perform_forgetResult_read {i : Instr} {e f : Effect} {r r' : Meter}
    (h : perform cfg rates i s m = .ok e m') (hf : perform cfg rates i.forgetResult t r = .ok f r') :
    f.read.isSome = e.read.isSome := by
  cases i with
  | popeq persist result =>
    obtain ⟨_, -, he, -⟩ := perform_popeq.mp h
    obtain ⟨_, -, hf, -⟩ := perform_popeq.mp hf
    simp [he, hf]
  | _ => rw [(perform_executed (by simp) h).2, (perform_executed (by simp [Instr.forgetResult]) hf).2]

theorem steps_executed_iff (h : steps cfg rates k (.ofInstrs is) s m = .ok (t, reads, executed) m')
    {j : Nat} {s' t' : Stack} {reads' : List AlignedValue} {executed' : List Instr} {r r' : Meter} :
    steps cfg rates j (.ofInstrs executed) s' r = .ok (t', reads', executed') r' ↔
      steps cfg rates j (.ofInstrs (is.map Instr.forgetResult)) s' r = .ok (t', reads', executed') r' ∧
        reads' = reads := by
  induction is generalizing k j s m reads executed s' r reads' executed' with
  | nil =>
    cases h
    constructor
    · intro hs
      cases hs
      exact ⟨rfl, rfl⟩
    · exact And.left
  | cons i is ih =>
    obtain ⟨e, q, rs, es, hs, hp, rfl, rfl⟩ := steps_cons_eq_ok.mp h
    obtain ⟨_, _, ⟨⟩, -, he⟩ := step_eq_ok.mp hs
    constructor
    · intro hx
      obtain ⟨f, q', rs', es', hf, hr, rfl, rfl⟩ := steps_cons_eq_ok.mp hx
      obtain ⟨hf, hread⟩ := (step_executed_iff hs).mp hf
      obtain ⟨hr, rfl⟩ := (ih hp).mp hr
      exact ⟨steps_cons_eq_ok.mpr ⟨f, q', _, _, hf, hr, rfl, rfl⟩, by rw [hread]⟩
    · rintro ⟨hx, hreads⟩
      obtain ⟨f, q', rs', es', hf, hr, rfl, rfl⟩ := steps_cons_eq_ok.mp hx
      obtain ⟨_, _, ⟨⟩, -, hff⟩ := step_eq_ok.mp hf
      obtain ⟨hread, rfl⟩ := (toList_append_inj (perform_forgetResult_read he hff)).mp hreads
      exact steps_cons_eq_ok.mpr
        ⟨f, q', _, _, (step_executed_iff hs).mpr ⟨hf, hread⟩, (ih hp).mpr ⟨hr, rfl⟩, rfl, rfl⟩

end Programs

variable [Memory]

section Runs

variable {root : Tree} {p : Program} {is : List Instr} {o : Outcome}

theorem run_replay (h : run cfg rates root p m = .ok o m') :
    run cfg rates root (.ofInstrs o.executed) m = .ok o m' := by
  obtain ⟨hs, hc⟩ := run_eq_ok.mp h
  exact run_eq_ok.mpr ⟨steps_replay hs 0, hc⟩

theorem run_executed_iff (h : run cfg rates root (.ofInstrs is) m = .ok o m') {root' : Tree}
    {o' : Outcome} {r r' : Meter} :
    run cfg rates root' (.ofInstrs o.executed) r = .ok o' r' ↔
      run cfg rates root' (.ofInstrs (is.map Instr.forgetResult)) r = .ok o' r' ∧
        o'.reads = o.reads := by
  rw [run_eq_ok, run_eq_ok, steps_executed_iff (run_eq_ok.mp h).1, and_right_comm]

end Runs

end Machine

end AlignedLedger
