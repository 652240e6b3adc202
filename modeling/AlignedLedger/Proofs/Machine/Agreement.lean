import AlignedLedger.Proofs.Machine.Replay
import AlignedLedger.Proofs.Tree.Swapped

/-! Two programs side by side, each on a stack of its own, that cost the same, read the same and fail in
the same way. Nobody who follows both can tell what sets their stacks apart. -/

namespace AlignedLedger

namespace Stack

variable {cfg : Config} {s t : Stack} {u v : Tree} {key : AlignedValue}

theorem push_agree (h : s.length = t.length) (c d : Tree) :
    Agree (fun s' t' => s' = c :: s ∧ t' = d :: t) (push cfg c s) (push cfg d t) := by
  rw [push, push, ← h]
  by_cases hl : s.length < cfg.maxStackDepth
  · rw [if_pos hl, if_pos hl]
    exact ⟨rfl, rfl⟩
  · rw [if_neg hl, if_neg hl]
    exact rfl

variable [Memory]

theorem recordedWalk_agree (hu : u.orNewMap = u) (hv : v.orNewMap = v)
    (h : u.childOrNull key = v.childOrNull key) :
    Agree (fun x y => x.1 = y.1 ∧ x.2 = [.cell key, u] ∧ y.2 = [.cell key, v])
      (recordedWalk cfg [key] u []) (recordedWalk cfg [key] v []) := by
  have hkey : ∀ k, Tree.makeCell cfg key = .ok k → k = .cell key ∧ k = k := fun k hk =>
    ⟨(Tree.makeCell_eq_ok.mp hk).2, rfl⟩
  rw [recordedWalk, recordedWalk, hu, hv, ← h]
  refine (push_agree rfl u v).bind ?_
  rintro _ _ ⟨rfl, rfl⟩
  refine (Agree.refl (R := fun k l => k = .cell key ∧ k = l) _ hkey).bind ?_
  rintro _ _ ⟨rfl, rfl⟩
  refine (push_agree (s := [u]) (t := [v]) rfl _ _).bind ?_
  rintro _ _ ⟨rfl, rfl⟩
  refine (Agree.refl (R := Eq) _ fun _ _ => rfl).bind ?_
  rintro c _ rfl
  exact ⟨rfl, rfl, rfl⟩

/-- A walk below one key is the same from two roots that have the same there. -/
theorem idx_agree (hu : u.orNewMap = u) (hv : v.orNewMap = v)
    (h : u.childOrNull key = v.childOrNull key) :
    Agree (fun s' t' => ∃ c, s' = [c, .cell key, u] ∧ t' = [c, .cell key, v])
      (idx cfg true [.literal key] [u]) (idx cfg true [.literal key] [v]) := by
  by_cases hp : cfg.maxPathLength < 1
  · simp [idx, hp, Agree]
  · simp only [idx, List.length_singleton, if_neg hp, pathKeys, pop, pure_eq_ok, ok_bind, if_true]
    refine (recordedWalk_agree hu hv h).bind ?_
    rintro ⟨c, _⟩ ⟨_, _⟩ ⟨rfl, rfl, rfl⟩
    refine (push_agree (s := [.cell key, u]) (t := [.cell key, v]) rfl c c).imp ?_
    rintro _ _ ⟨rfl, rfl⟩
    exact ⟨c, rfl, rfl⟩

theorem addi_agree (h : s.length = t.length) (n : Nat) (c : Tree) :
    Agree (fun s' t' => ∃ d, s' = d :: s ∧ t' = d :: t) (addi cfg n (c :: s)) (addi cfg n (c :: t)) := by
  cases c with
  | cell v =>
    simp only [addi, popCell, pop, Tree.asCell, ok_bind, pure_eq_ok]
    cases v.addNat n with
    | error e => exact rfl
    | ok w =>
      refine (Agree.refl (R := Eq) (Tree.makeCell cfg w) fun _ _ => rfl).bind ?_
      rintro d _ rfl
      refine (push_agree h d d).imp ?_
      rintro _ _ ⟨rfl, rfl⟩
      exact ⟨d, rfl, rfl⟩
  | _ => exact rfl

end Stack

namespace Machine

variable {cfg : Config} {rates : Tariff} {i j : Instr} {is js : List Instr} {s t : Stack}
variable {S T : Stack → Stack → Prop}

variable [Memory]

/-- Two instructions do alike on their stacks and read nothing; what they leave is related. -/
def PerformAlike (cfg : Config) (rates : Tariff) (i j : Instr) (s t : Stack)
    (S : Stack → Stack → Prop) : Prop :=
  ∀ m, RunsAgree (fun e m₁ f m₂ => m₁ = m₂ ∧ S e.stack f.stack ∧ e.read = none ∧ f.read = none ∧
      e.executed = i ∧ f.executed = j)
    (perform cfg rates i s m) (perform cfg rates j t m)

theorem performAlike_push {persist : Bool} (h : s.length = t.length) (c d : Tree) :
    PerformAlike cfg rates (.push persist c) (.push persist d) s t
      fun s' t' => s' = c :: s ∧ t' = d :: t := by
  intro m
  refine (RunsAgree.ofExcept (Stack.push_agree h c d)).bind ?_
  rintro _ _ _ _ ⟨hst, rfl, rfl⟩
  exact ⟨rfl, hst, rfl, rfl, rfl, rfl⟩

theorem performAlike_idx {persist : Bool} {u v : Tree} {key : AlignedValue} (hu : u.orNewMap = u)
    (hv : v.orNewMap = v) (h : u.childOrNull key = v.childOrNull key) :
    PerformAlike cfg rates (.idx persist true [.literal key]) (.idx persist true [.literal key]) [u] [v]
      fun s' t' => ∃ c, s' = [c, .cell key, u] ∧ t' = [c, .cell key, v] := by
  intro m
  refine (RunsAgree.ofExcept (Stack.idx_agree hu hv h)).bind ?_
  rintro _ _ _ _ ⟨hst, rfl, rfl⟩
  exact ⟨rfl, hst, rfl, rfl, rfl, rfl⟩

theorem performAlike_addi (h : s.length = t.length) (n : Nat) (c : Tree) :
    PerformAlike cfg rates (.addi n) (.addi n) (c :: s) (c :: t)
      fun s' t' => ∃ d, s' = d :: s ∧ t' = d :: t := by
  intro m
  refine (RunsAgree.ofExcept (Stack.addi_agree h n c)).bind ?_
  rintro _ _ _ _ ⟨hst, rfl, rfl⟩
  exact ⟨rfl, hst, rfl, rfl, rfl, rfl⟩

/-- Putting back is charged for by what is put back, so that has to be of one size. -/
theorem performAlike_ins {persist : Bool} {R : Tree → Tree → Prop} {c d u v : Tree} {key : AlignedValue}
    (hsize : c.storageSize = d.storageSize) (h : Agree R (u.insert cfg key c) (v.insert cfg key d)) :
    PerformAlike cfg rates (.ins persist 1) (.ins persist 1) [c, .cell key, u] [d, .cell key, v]
      fun s' t' => ∃ x y, s' = [x] ∧ t' = [y] ∧ R x y := by
  intro m
  have hins : Agree (fun s' t' => ∃ x y, s' = [x] ∧ t' = [y] ∧ R x y)
      (Stack.ins cfg 1 c [.cell key, u]) (Stack.ins cfg 1 d [.cell key, v]) := by
    simp only [Stack.ins, Stack.rebuild, Stack.popCell, Stack.pop, Tree.asCell, ok_bind, pure_eq_ok,
      bind_assoc]
    refine h.bind fun x y hxy => ?_
    refine (Stack.push_agree (s := []) (t := []) rfl x y).imp ?_
    rintro _ _ ⟨rfl, rfl⟩
    exact ⟨x, y, rfl, rfl, hxy⟩
  have hoperands : ∀ x w, Stack.insOperands 1 [x, .cell key, w] = .ok (x, [.cell key, w]) := fun _ _ => rfl
  rw [perform, perform, hoperands, hoperands, bind_run_of_ok (ofExcept_ok _ _),
    bind_run_of_ok (ofExcept_ok _ _)]
  dsimp only
  rw [hsize]
  refine (RunsAgree.refl (R := fun _ m₁ _ m₂ => m₁ = m₂) _ fun _ _ _ => rfl).bind ?_
  rintro _ m₁ _ _ rfl
  refine (RunsAgree.ofExcept hins).bind ?_
  rintro _ _ _ _ ⟨hst, rfl, rfl⟩
  exact ⟨rfl, hst, rfl, rfl, rfl, rfl⟩

/-- Two programs do alike from these stacks on: what they use is the same, what they leave is related. -/
def StepsAlike (cfg : Config) (rates : Tariff) (is js : List Instr) (s t : Stack)
    (S : Stack → Stack → Prop) : Prop :=
  ∀ k m, RunsAgree (fun x m₁ y m₂ => m₁ = m₂ ∧ S x.1 y.1 ∧ x.2 = ([], is) ∧ y.2 = ([], js))
    (steps cfg rates k (.ofInstrs is) s m) (steps cfg rates k (.ofInstrs js) t m)

theorem StepsAlike.nil (h : S s t) : StepsAlike cfg rates [] [] s t S :=
  fun _ _ => ⟨rfl, h, rfl, rfl⟩

theorem StepsAlike.cons (hcost : rates.costOf i = rates.costOf j) (h : PerformAlike cfg rates i j s t S)
    (hs : ∀ s' t', S s' t' → StepsAlike cfg rates is js s' t' T) :
    StepsAlike cfg rates (i :: is) (j :: js) s t T := by
  intro k m
  have hstep : RunsAgree (fun e m₁ f m₂ => m₁ = m₂ ∧ S e.stack f.stack ∧ e.read = none ∧ f.read = none ∧
      e.executed = i ∧ f.executed = j) (step cfg rates k (.instr i) s m)
      (step cfg rates k (.instr j) t m) := by
    rw [step, step, hcost]
    refine (RunsAgree.refl (R := fun _ m₁ _ m₂ => m₁ = m₂) _ fun _ _ _ => rfl).bind ?_
    rintro _ m₁ _ _ rfl
    exact h m₁
  refine hstep.bind ?_
  rintro e m₁ f _ ⟨rfl, hst, he, hf, rfl, rfl⟩
  refine (hs _ _ hst (k + 1) m₁).bind ?_
  rintro ⟨s', _⟩ m₂ ⟨t', _⟩ _ ⟨rfl, hst, rfl, rfl⟩
  rw [he, hf]
  exact ⟨rfl, hst, rfl, rfl⟩

theorem StepsAlike.runs_agree {R : Tree → Tree → Prop} {u v : Tree}
    (h : StepsAlike cfg rates is js [u] [v] fun s' t' => ∃ x y, s' = [x] ∧ t' = [y] ∧ R x y) (m : Meter) :
    RunsAgree (fun o m₁ o' m₂ => m₁ = m₂ ∧ R o.tree o'.tree ∧ o.reads = o'.reads ∧ o.executed = is ∧
        o'.executed = js)
      (run cfg rates u (.ofInstrs is) m) (run cfg rates v (.ofInstrs js) m) := by
  rw [run, run, bind_run_of_ok (get_run m), bind_run_of_ok (get_run m)]
  refine (h 0 m).bind ?_
  rintro ⟨_, _⟩ m₁ ⟨_, _⟩ _ ⟨rfl, ⟨x, y, rfl, rfl, hxy⟩, rfl, rfl⟩
  dsimp only
  rw [bind_run_of_ok (get_run m₁), bind_run_of_ok (get_run m₁)]
  exact ⟨rfl, hxy, rfl, rfl, rfl⟩

end Machine

end AlignedLedger
