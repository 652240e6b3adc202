import AlignedLedger.Proofs.Call.Query
import AlignedLedger.Proofs.Machine.Built
import AlignedLedger.Proofs.Machine.Caps
import AlignedLedger.Proofs.Machine.NestedUpdate
import AlignedLedger.Proofs.Tree.Storage

/-! What the state takes up in storage, through queries that work on a part of it. -/

namespace AlignedLedger

namespace Stack

variable {cfg : Config} {s t t' f saved : Stack} {is js : List Instr} {reads reads' : List AlignedValue}

section Above

variable [Memory] (hroom : cfg.maxCellBytes ≤ Memory.available)
include hroom

/-- What an instruction does alone it does above other entries, where it succeeds in both places. A stack
with room for both would let it succeed, and caps make no difference otherwise. -/
theorem eq_of_perform_above {i : Instr} {read read' : Option AlignedValue}
    (h : perform cfg i s = .ok (t, read)) (h' : perform cfg i (s ++ f) = .ok (t', read')) :
    t' = t ++ f ∧ read' = read := by
  let d : Config := { cfg with maxStackDepth := cfg.maxStackDepth + (t.length + f.length) }
  have hwithin : cfg.Within d := ⟨Nat.le_add_right _ _, Nat.le_refl _, Nat.le_refl _, Nat.le_refl _⟩
  have hwide : perform d i s = .ok (t, read) := (perform_guards hwithin hroom i s).eq_ok h
  have habove := perform_above f hwide (Nat.le_add_left _ _)
  cases habove.symm.trans ((perform_guards hwithin hroom i (s ++ f)).eq_ok h')
  exact ⟨rfl, rfl⟩

theorem eq_of_performAll_above (h : performAll cfg is s = .ok (t, reads))
    (h' : performAll cfg is (s ++ f) = .ok (t', reads')) : t' = t ++ f ∧ reads' = reads := by
  induction is generalizing s reads reads' with
  | nil =>
    cases h
    cases h'
    exact ⟨rfl, rfl⟩
  | cons i is ih =>
    obtain ⟨⟨r, read⟩, hi, h⟩ := bind_eq_ok.mp h
    obtain ⟨⟨_, _⟩, his, h⟩ := bind_eq_ok.mp h
    obtain ⟨⟨r', read'⟩, hi', h'⟩ := bind_eq_ok.mp h'
    obtain ⟨⟨_, _⟩, his', h'⟩ := bind_eq_ok.mp h'
    cases h
    cases h'
    obtain ⟨rfl, rfl⟩ := eq_of_perform_above hroom hi hi'
    obtain ⟨rfl, rfl⟩ := ih his his'
    exact ⟨rfl, rfl⟩

end Above

variable [Memory]

theorem exists_of_performAll_append (h : performAll cfg (is ++ js) s = .ok (t, reads)) :
    ∃ r xs ys, performAll cfg is s = .ok (r, xs) ∧ performAll cfg js r = .ok (t, ys) := by
  induction is generalizing s reads with
  | nil => exact ⟨s, [], reads, rfl, h⟩
  | cons i is ih =>
    obtain ⟨⟨q, read⟩, hi, h⟩ := bind_eq_ok.mp h
    obtain ⟨⟨_, _⟩, his, ⟨⟩⟩ := bind_eq_ok.mp h
    obtain ⟨r, xs, ys, hr, ht⟩ := ih his
    exact ⟨r, _, ys, bind_eq_ok.mpr ⟨_, hi, bind_eq_ok.mpr ⟨_, hr, rfl⟩⟩, ht⟩

/-- A value put back above what the walk has left comes to the end of the path. -/
theorem putAt_of_perform_ins {root sub w : Tree} {path : List AlignedValue} {persist : Bool}
    {read : Option AlignedValue} (hwalk : recordedWalk cfg path root [] = .ok (sub, saved))
    (h : perform cfg (.ins persist path.length) (w :: saved) = .ok (t, read)) :
    ∃ x, root.putAt cfg path w = .ok x ∧ t = [x] := by
  obtain ⟨⟨v, r⟩, hv, h⟩ := bind_eq_ok.mp h
  obtain ⟨q, hq, ⟨⟩⟩ := map_eq_ok.mp h
  obtain ⟨⟨x, q'⟩, hx, hpush⟩ := bind_eq_ok.mp hq
  obtain ⟨⟨⟩, -⟩ := insOperands_eq_ok.mp hv
  rw [Int.toNat_natCast, rebuild_recordedWalk hwalk] at hx
  obtain ⟨x, hput, ⟨⟩⟩ := map_eq_ok.mp hx
  exact ⟨x, hput, (push_eq_ok.mp hpush).2⟩

end Stack

namespace Machine

variable {cfg : Config} {rates rates' : Tariff} {m m' r r' : Meter} {root sub : Tree}
variable {path : List AlignedValue} {body : Program} {persist persist' : Bool} {o o' : Outcome}

variable [Memory]

/-- A program that works on a part of the root, which it makes alone into something else, puts just that in
the place of the part. -/
theorem putAt_of_run_nested (hroom : cfg.maxCellBytes ≤ Memory.available) (hsub : root.walk path = .ok sub)
    (hbody : run cfg rates sub body m = .ok o m')
    (h : run cfg rates' root
      (.instr (.idx persist true (path.map .literal)) :: body ++ [.instr (.ins persist' path.length)]) r =
        .ok o' r') :
    root.putAt cfg path o.tree = .ok o'.tree := by
  obtain ⟨hsteps, -⟩ := run_eq_ok.mp hbody
  obtain ⟨is, rfl⟩ := exists_instrs_of_steps hsteps
  have halone := performAll_of_steps hsteps
  have hprogram : (.instr (.idx persist true (path.map .literal)) :: Program.ofInstrs is ++
      [.instr (.ins persist' path.length)] : Program) =
      .ofInstrs (.idx persist true (path.map .literal) :: (is ++ [.ins persist' path.length])) := by
    simp [Program.ofInstrs]
  rw [hprogram] at h
  obtain ⟨⟨q, _⟩, hfirst, h⟩ := bind_eq_ok.mp (performAll_of_steps (run_eq_ok.mp h).1)
  obtain ⟨⟨t, ys⟩, hrest, hend⟩ := bind_eq_ok.mp h
  obtain rfl : t = [o'.tree] := (Prod.mk.inj (Except.ok.inj hend)).1
  obtain ⟨_, hidx, ⟨⟩⟩ := map_eq_ok.mp hfirst
  obtain ⟨-, _, _, _, x, saved, -, -, hpush⟩ := Stack.idx_eq_ok.mp hidx
  obtain ⟨-, rfl⟩ := Stack.push_eq_ok.mp hpush
  have hwalk := Stack.recordedWalk_of_idx hidx
  obtain rfl : x = sub := by
    cases (Stack.reach_of_recordedWalk hwalk).1.symm.trans (Tree.reach_of_walk hsub)
    rfl
  obtain ⟨u, xs, zs, habove, hlast⟩ := Stack.exists_of_performAll_append hrest
  obtain ⟨rfl, -⟩ := Stack.eq_of_performAll_above (f := saved) hroom halone habove
  obtain ⟨⟨v, _⟩, hins, hend⟩ := bind_eq_ok.mp hlast
  obtain rfl : v = [o'.tree] := (Prod.mk.inj (Except.ok.inj hend)).1
  obtain ⟨y, hput, hy⟩ := Stack.putAt_of_perform_ins hwalk hins
  rw [hput, (List.cons.inj hy).1]

end Machine

section

variable [Memory]

/-- Trees that are put into containers and taken out of them change what is charged for by just what they
take up themselves. So does a query that goes down to a part of the state, does there what its program does
alone, and puts back what comes of it; the state is then charged for by what it takes up. -/
theorem storage_exact_under_updates (env : Environment) :
    let cfg := Config.ofEnvironment env
    (∀ c : Tree, c.WellFormed cfg → c.StorageLaws cfg) ∧
    ∀ (s s' : CallState) (path : List AlignedValue) (sub : Tree) (body : Program) (persist persist' : Bool)
      (rates : Tariff) (m m' : Meter) (o : Outcome) (v : Option AlignedValue),
      s.context.tree.WellFormed cfg → s.context.tree.walk path = .ok sub →
      Machine.run cfg rates sub body m = .ok o m' →
      Call.query cfg
          (.instr (.idx persist true (path.map .literal)) :: body ++ [.instr (.ins persist' path.length)]) s =
        .ok v s' →
      (s'.context.tree.storageSize : Int) =
          s.context.tree.storageSize + (o.tree.storageSize - sub.storageSize) ∧
        s'.context.current.charged = s'.context.tree.storageSize := by
  intro cfg
  have hroom : cfg.maxCellBytes ≤ Memory.available := Config.maxCellBytes_le_available env
  refine ⟨fun c hc => Tree.storageLaws hc.built, ?_⟩
  intro s s' path sub body persist persist' rates m m' o v hroot hsub hbody hquery
  obtain ⟨o', gas, r, hrun, -, -, rfl⟩ := Call.query_eq_ok.mp hquery
  have hput := Machine.putAt_of_run_nested hroom hsub hbody hrun
  have hsize := hroot.built.storageSize_putAt hsub hput
  refine ⟨?_, rfl⟩
  change (o'.tree.storageSize : Int) = _
  omega

end

/-- A cell in an array in a map is read and gives way to a map, which takes up more; then the key of the array
goes, and the array with it. -/
theorem storage_exact_in_array :
    let cfg := Config.ofEnvironment fun _ => none
    let key : AlignedValue := ⟨[⟨.bytes 1, [0x6b], by decide⟩, ⟨.field, [], by decide⟩]⟩
    let zero : AlignedValue := ⟨[⟨.bytes 1, [], by decide⟩]⟩
    let root : Tree := .map [(key, .array [.cell zero])]
    let path := [key, zero]
    let entry : Tree := .map [(key, .null)]
    let body : Program := .ofInstrs [.popeq false none, .push true entry]
    let inside : Program :=
      .instr (.idx false true (path.map .literal)) :: body ++ [.instr (.ins true path.length)]
    let s : CallState := ⟨.detached root, .start .empty⟩
    ∃ v s', Call.query cfg inside s = .ok v s' ∧
      (s'.context.current.charged : Int) =
        root.storageSize + (entry.storageSize - (Tree.cell zero).storageSize) ∧
      ∃ t, root.remove key = .ok t ∧ (t.storageSize : Int) =
        root.storageSize - (key.binary.length + (Tree.array [.cell zero]).storageSize) := by
  intro cfg key zero root path entry body inside s
  have hcell : (Tree.cell zero).Built cfg := Tree.built_cell_iff.mpr (by decide +kernel)
  have harray : (Tree.array [.cell zero]).Built cfg :=
    Tree.built_array_iff.mpr ⟨by decide +kernel, List.forall_mem_singleton.mpr hcell⟩
  have hkey : key.requestBinary = .ok () := AlignedValue.requestBinary_eq_ok.mpr (by decide +kernel)
  have hroot : root.Built cfg :=
    Tree.built_map_iff.mpr ⟨List.pairwise_singleton _ _, List.forall_mem_singleton.mpr ⟨hkey, harray⟩⟩
  obtain ⟨hlaws, hupdate⟩ := storage_exact_under_updates fun _ => none
  obtain ⟨t, b, ht, hb, hsize⟩ := (hlaws root hroot.wellFormed).remove key (.array [.cell zero]) rfl
  obtain ⟨-, rfl⟩ := AlignedValue.layOut_eq_ok.mp hb
  obtain ⟨v, s', hquery⟩ : ∃ v s', Call.query cfg inside s = .ok v s' := ⟨_, _, rfl⟩
  obtain ⟨o, m, ho, htree⟩ : ∃ o m,
      Machine.run cfg Tariff.standard (.cell zero) body (.start none) = .ok o m ∧ o.tree = entry :=
    ⟨_, _, rfl, rfl⟩
  obtain ⟨hgrown, hcharged⟩ := hupdate s s' path (.cell zero) body false true Tariff.standard _ m o v
    hroot.wellFormed rfl ho hquery
  rw [← hcharged, htree] at hgrown
  exact ⟨v, s', hquery, hgrown, t, ht, hsize⟩

end AlignedLedger
