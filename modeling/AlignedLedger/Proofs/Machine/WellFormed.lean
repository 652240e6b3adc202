import AlignedLedger.Proofs.Machine.Replay
import AlignedLedger.Proofs.Machine.Safety
import AlignedLedger.Proofs.Tree.Layout
import AlignedLedger.Proofs.Tree.WellFormed

/-! Nothing that is not well formed comes into a run: not on the stack, not as the new root and not as a
value that is read, if there was nothing such in the root and in the program. -/

namespace AlignedLedger

section

variable [Memory]

namespace Step

/-- What the step brings along is well formed: a value to push, keys written in a path, the result that a
read has to give. What is no instruction brings nothing along that is used. -/
def WellFormed (cfg : Config) : Step → Prop
  | instr (.push _ t) => t.WellFormed cfg
  | instr (.idx _ _ path) => ∀ k, .literal k ∈ path → k.WellFormed
  | instr (.popeq _ result) => ∀ v ∈ result, v.WellFormed
  | instr _ => True
  | foreign _ => True
  | _ => False

theorem WellFormed.wellTyped {cfg : Config} {op : Step} (h : op.WellFormed cfg) : op.WellTyped cfg := by
  cases op with
  | instr i =>
    cases i with
    | push persist t => exact Tree.WellFormed.built h
    | _ => trivial
  | foreign d => trivial
  | _ => cases h

end Step

/-- Whatever rates there are, some fault is told. -/
theorem Tariff.stopsWithin_true (rates : Tariff) : rates.StopsWithin fun _ => True :=
  ⟨fun _ _ _ _ _ => trivial, fun _ _ _ _ _ => trivial⟩

namespace Machine

variable {cfg : Config} {rates : Tariff} {m m' : Meter} {s t : Stack} {position : Nat}

/-- What is read was in a cell on top of the stack. -/
theorem built_of_step {op : Step} {e : Effect} {v : AlignedValue} (hs : ∀ u ∈ s, u.Built cfg)
    (h : step cfg rates position op s m = .ok e m') (hv : e.read = some v) : (Tree.cell v).Built cfg := by
  obtain ⟨i, r, rfl, -, hi⟩ := step_eq_ok.mp h
  by_cases hread : ∃ persist result, i = .popeq persist result
  · obtain ⟨persist, result, rfl⟩ := hread
    obtain ⟨w, hw, hr, -, -⟩ := perform_popeq.mp hi
    obtain rfl : w = v := Option.some.inj (hr.symm.trans hv)
    have hpop := (Stack.popeq_eq_ok.mp hw).1
    rw [Stack.popCell_eq_ok.mp hpop] at hs
    exact (List.forall_mem_cons.mp hs).1
  · have hnone := (perform_executed (fun persist result hp => hread ⟨persist, result, hp⟩) hi).2
    simp [hnone] at hv

theorem built_of_steps {c : Course} {p : Program} {reads : List AlignedValue} {executed : List Instr}
    (hc : c.Sound cfg) (hroom : cfg.maxCellBytes ≤ Memory.available)
    (hp : ∀ op ∈ p, op.WellTyped cfg)
    (h : steps cfg rates position p c.stack c.meter = .ok (t, reads, executed) m') :
    ∀ v ∈ reads, (Tree.cell v).Built cfg := by
  induction p generalizing c position t reads executed m' with
  | nil =>
    cases h
    simp
  | cons op p ih =>
    obtain ⟨hop, hp⟩ := List.forall_mem_cons.mp hp
    obtain ⟨e, r, rs, es, hstep, hrest, rfl, rfl⟩ := steps_cons_eq_ok.mp h
    -- The step is sound, whatever may stop it, and the rest begins where it ends.
    have hfollows := Follows.step hc (fun _ _ => trivial) hroom rates.stopsWithin_true position hop
      fun _ _ _ _ _ _ _ => trivial
    unfold Follows at hfollows
    rw [hstep] at hfollows
    obtain ⟨c', -, hs, rfl, hc'⟩ := hfollows
    obtain hs : c'.stack = e.stack := hs
    have hbuilt : ∀ v ∈ rs, (Tree.cell v).Built cfg := ih hc' hp (hs ▸ hrest)
    intro v hv
    rcases List.mem_append.mp hv with hv | hv
    · exact built_of_step hc.built hstep (Option.mem_toList.mp hv)
    · exact hbuilt v hv

section Run

variable {root : Tree} {p : Program} (hdepth : 1 ≤ cfg.maxStackDepth)
  (hroom : cfg.maxCellBytes ≤ Memory.available) (hroot : root.Built cfg)
  (hp : ∀ op ∈ p, op.WellTyped cfg)

include hdepth hroom hroot hp

/-- A run is sound whatever the rates are, and whatever may stop it. -/
theorem run_follows_any (rates : Tariff) (m : Meter) :
    Follows cfg (fun _ => True) ⟨m, [root], []⟩ (Watched.run cfg rates p) (run cfg rates root p)
      fun o => (o, [o.tree]) := by
  have hc : Course.Sound cfg ⟨m, [root], []⟩ := by simpa [Course.Sound] using ⟨hdepth, hroot⟩
  exact .run hc (fun _ _ => trivial) hroom rates.stopsWithin_true rfl hp fun _ _ _ _ _ _ _ => trivial

theorem built_of_run {o : Outcome} (h : run cfg rates root p m = .ok o m') :
    o.tree.Built cfg ∧ ∀ v ∈ o.reads, (Tree.cell v).Built cfg := by
  have hc : Course.Sound cfg ⟨m, [root], []⟩ := by simpa [Course.Sound] using ⟨hdepth, hroot⟩
  constructor
  · have hfollows := run_follows_any hdepth hroom hroot hp rates m
    unfold Follows at hfollows
    simp only [h] at hfollows
    obtain ⟨c, -, hs, -, hsound⟩ := hfollows
    exact hsound.built o.tree (hs ▸ List.mem_singleton_self _)
  · obtain ⟨hsteps, -⟩ := run_eq_ok.mp h
    exact built_of_steps hc hroom hp hsteps

end Run

end Machine

theorem Tree.built_of_decode {cfg : Config} {b : Bytes} {t : Tree} (h : decode cfg b = .ok t) :
    t.Built cfg := by
  unfold decode at h
  split at h
  · exact (ofDatum_eq_ok.mp h).built
  · cases h

end

namespace Machine

/-- With a root and a program that are well formed, a run can be watched without its coming to another
end, and each entry of the stack that there is on the way is well formed; so are the new root and the cells
that hold what was read. What is taken out of a well-formed container, what comes of changing one, and what
is read back from its stored form are well formed too. -/
theorem trees_stay_wellFormed [Memory] (env : Environment) :
    let cfg := Config.ofEnvironment env
    (∀ (rates : Tariff) (root : Tree) (p : Program) (m : Meter), root.WellFormed cfg →
      (∀ op ∈ p, op.WellFormed cfg) →
      ∃ c : Course, (∀ s ∈ c.stack :: c.past, ∀ t ∈ s, t.WellFormed cfg) ∧
        ((∃ o, Watched.run cfg rates p ⟨m, [root], []⟩ = .ok o c ∧
            run cfg rates root p m = .ok o c.meter ∧ c.stack = [o.tree] ∧ o.tree.WellFormed cfg ∧
            ∀ v ∈ o.reads, (Tree.cell v).WellFormed cfg) ∨
          ∃ e, Watched.run cfg rates p ⟨m, [root], []⟩ = .error (.fault e) c ∧
            run cfg rates root p m = .error e c.meter)) ∧
    (∀ (t u v : Tree) (k : AlignedValue), t.WellFormed cfg →
      (t.index k = .ok u → u.WellFormed cfg) ∧
      (v.WellFormed cfg → t.insert cfg k v = .ok u → u.WellFormed cfg) ∧
      (t.remove k = .ok u → u.WellFormed cfg) ∧
      (v.WellFormed cfg → t.push cfg v = .ok u → u.WellFormed cfg)) ∧
    ∀ (b : Bytes) (t : Tree), Tree.decode cfg b = .ok t → t.WellFormed cfg := by
  intro cfg
  have hdepth : 1 ≤ cfg.maxStackDepth := Config.one_le_maxStackDepth env
  have hroom : cfg.maxCellBytes ≤ Memory.available := Config.maxCellBytes_le_available env
  refine ⟨fun rates root p m hroot hp => ?_, fun t u v k ht => ?_, fun b t h => ?_⟩
  · have htyped : ∀ op ∈ p, op.WellTyped cfg := fun op hop => (hp op hop).wellTyped
    have hfollows := run_follows_any hdepth hroom hroot.built htyped rates m
    unfold Follows at hfollows
    cases hrun : run cfg rates root p m with
    | ok o m' =>
      simp only [hrun] at hfollows
      obtain ⟨c, hwatched, hs, rfl, hsound⟩ := hfollows
      obtain ⟨htree, hreads⟩ := built_of_run hdepth hroom hroot.built htyped hrun
      refine ⟨c, fun s hs t ht => ((hsound s hs).2 t ht).wellFormed, .inl ⟨o, hwatched, rfl, hs, ?_⟩⟩
      exact ⟨htree.wellFormed, fun v hv => (hreads v hv).wellFormed⟩
    | error e m' =>
      simp only [hrun] at hfollows
      obtain ⟨c, hwatched, rfl, hsound, -⟩ := hfollows
      exact ⟨c, fun s hs t ht => ((hsound s hs).2 t ht).wellFormed, .inr ⟨e, hwatched, rfl⟩⟩
  · exact ⟨ht.index, ht.insert, ht.remove, ht.push⟩
  · exact (Tree.built_of_decode h).wellFormed

/-- A map is made on the way to a key and stays; a number is carried into its second byte and is read. -/
theorem wellFormed_of_new_map :
    let cfg := Config.ofEnvironment fun _ => none
    let key : AlignedValue := ⟨[⟨.bytes 2, [], by decide⟩, ⟨.field, [7], by decide⟩]⟩
    let zero : AlignedValue := ⟨[⟨.bytes 1, [], by decide⟩]⟩
    let one : AlignedValue := ⟨[⟨.bytes 1, [1], by decide⟩]⟩
    let low : AlignedValue := ⟨[⟨.bytes 2, [0xff], by decide⟩]⟩
    let high : AlignedValue := ⟨[⟨.bytes 2, [0, 1], by decide⟩]⟩
    let root : Tree := .array [.null, .cell low]
    let p : Program := [.instr (.idx true true [.literal zero, .literal key]), .instr (.ins true 2),
      .instr (.idx true true [.literal one]), .instr (.addi 1), .instr (.dup 0),
      .instr (.popeq true (some high)), .instr (.ins true 1)]
    (∃ o m, run cfg Tariff.standard root p (.start none) = .ok o m ∧
      o.tree = .array [.map [(key, .null)], .cell high] ∧ o.tree.WellFormed cfg ∧ o.reads = [high] ∧
      (Tree.cell high).WellFormed cfg) ∧
    (∃ u, root.insert cfg zero (.cell low) = .ok u ∧ u.WellFormed cfg) ∧
    ∃ t, Tree.decode cfg root.encode = .ok t ∧ t.WellFormed cfg := by
  intro cfg key zero one low high root p
  obtain ⟨hruns, hchanges, hread⟩ := trees_stay_wellFormed fun _ => none
  have hlow : (Tree.cell low).WellFormed cfg := .cell low.wellFormed (by decide +kernel)
  have hroot : root.WellFormed cfg := .array (by decide +kernel) (by simpa using ⟨.null, hlow⟩)
  have hdecode : Tree.decode cfg root.encode = .ok root :=
    Tree.decode_encode hroot.built (by decide +kernel)
  have hp : ∀ op ∈ p, op.WellFormed cfg := by
    simp [p, Step.WellFormed, AlignedValue.wellFormed]
  have hend : (EStateM.run' (run cfg Tariff.standard root p) (.start none)).any (fun o =>
      o.tree = .array [.map [(key, .null)], .cell high] ∧ o.reads = [high]) = true := by
    decide +kernel
  refine ⟨?_, ?_, ?_⟩
  · obtain ⟨c, -, ⟨o, -, ho, -, hwf, hcells⟩ | ⟨e, -, he⟩⟩ :=
      hruns Tariff.standard root p (.start none) hroot hp
    · rw [run'_of_ok ho] at hend
      obtain ⟨htree, hreads⟩ := of_decide_eq_true hend
      exact ⟨o, c.meter, ho, htree, hwf, hreads, hcells high (by simp [hreads])⟩
    · rw [run'_of_error he] at hend
      cases hend
  · exact ⟨_, rfl, (hchanges root _ (.cell low) zero hroot).2.1 hlow rfl⟩
  · exact ⟨root, hdecode, hread _ _ hdecode⟩

end Machine

end AlignedLedger
