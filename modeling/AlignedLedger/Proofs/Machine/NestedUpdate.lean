import AlignedLedger.Proofs.Config
import AlignedLedger.Proofs.Machine.Frame
import AlignedLedger.Proofs.Tree.Paths

/-! Programs that work inside of a container. A walk that keeps its containers and keys, then a program
on what it has come to, then as many containers put back: the program does what it does alone, and its
result takes the place of what it began with. -/

namespace AlignedLedger

namespace Stack

variable {cfg : Config} {s s' : Stack} {t x : Tree} {ks : List AlignedValue}

theorem pathKeys_literal (ks : List AlignedValue) (s : Stack) :
    pathKeys (ks.map .literal) s = .ok (ks, s) := by
  induction ks with
  | nil => rfl
  | cons k ks ih =>
    rw [List.map_cons, pathKeys, ih]
    rfl

variable [Memory]

/-- Putting back more containers goes on from where the first ones have come to. -/
theorem rebuild_add (n m : Nat) (w : Tree) (s : Stack) :
    rebuild cfg (n + m) w s = rebuild cfg n w s >>= fun p => rebuild cfg m p.1 p.2 := by
  induction n generalizing w s with
  | zero =>
    rw [Nat.zero_add]
    rfl
  | succ n ih =>
    rw [Nat.add_right_comm, rebuild, rebuild]
    simp only [bind_assoc, ih]

theorem rebuild_one (k : AlignedValue) (c w : Tree) (s : Stack) :
    rebuild cfg 1 w (.cell k :: c :: s) = (c.insert cfg k w).map fun v => (v, s) := by
  simp only [rebuild, popCell, pop, Tree.asCell, ok_bind, pure_eq_ok]
  cases c.insert cfg k w <;> rfl

/-- What the walk leaves on the stack is what it takes to put a value at the end of the path. -/
theorem rebuild_recordedWalk (h : recordedWalk cfg ks t s = .ok (x, s')) (w : Tree) :
    rebuild cfg ks.length w s' = (t.putAt cfg ks w).map fun v => (v, s) := by
  induction ks generalizing t s with
  | nil =>
    cases h
    rfl
  | cons k ks ih =>
    obtain ⟨-, -, child, hc, h⟩ := recordedWalk_cons.mp h
    rw [List.length_cons, rebuild_add, ih h, Tree.putAt, hc, ok_bind]
    cases child.putAt cfg ks w with
    | error e => rfl
    | ok v => exact rebuild_one k t.orNewMap v s

theorem reach_of_recordedWalk (h : recordedWalk cfg ks t s = .ok (x, s')) :
    t.reach ks = .ok x ∧ ∀ k ∈ ks, k.binaryLength ≤ cfg.maxCellBytes := by
  induction ks generalizing t s with
  | nil => exact ⟨congrArg Except.ok (Prod.mk.inj (Except.ok.inj h)).1, by simp⟩
  | cons k ks ih =>
    obtain ⟨-, hk, child, hc, h⟩ := recordedWalk_cons.mp h
    obtain ⟨hr, hks⟩ := ih h
    exact ⟨bind_eq_ok.mpr ⟨child, hc, hr⟩, List.forall_mem_cons.mpr ⟨hk, hks⟩⟩

theorem recordedWalk_of_idx (h : idx cfg true (ks.map .literal) [t] = .ok (x :: s)) :
    recordedWalk cfg ks t [] = .ok (x, s) := by
  obtain ⟨-, _, _, _, y, r, hk, hw, hp⟩ := idx_eq_ok.mp h
  rw [pathKeys_literal] at hk
  cases hk
  obtain ⟨-, hr⟩ := push_eq_ok.mp hp
  cases hr
  exact hw

/-- The entries that the walk has left, one value put back through all of them. -/
theorem perform_ins_recordedWalk (h : recordedWalk cfg ks t [] = .ok (x, s)) {w t' : Tree}
    (ht : t.putAt cfg ks w = .ok t') (hd : 0 < cfg.maxStackDepth) (persist : Bool) :
    perform cfg (.ins persist ks.length) (w :: s) = .ok ([t'], none) := by
  have hl : s.length = 2 * ks.length := by
    rw [length_of_recordedWalk h, List.length_nil, Nat.zero_add]
  have hops : insOperands ks.length (w :: s) = .ok (w, s) := by
    refine bind_eq_ok.mpr ⟨(), if_neg ?_, rfl⟩
    rw [List.length_cons]
    omega
  have hins : ins cfg ks.length w s = .ok [t'] := by
    refine bind_eq_ok.mpr ⟨(t', []), ?_, if_pos hd⟩
    rw [rebuild_recordedWalk h, ht]
    rfl
  exact bind_eq_ok.mpr ⟨_, hops, map_eq_ok.mpr ⟨_, hins, rfl⟩⟩

end Stack

namespace Machine

variable {cfg : Config} {prices : CostModel}

section

variable [Memory]

/-- The whole program does to the root what putting the body's result at the end of the path does. -/
theorem exists_run_nested (hp : prices.Payable) {root sub root' : Tree} {path : List AlignedValue}
    {saved : Stack} (hidx : Stack.idx cfg true (path.map .literal) [root] = .ok (sub :: saved))
    {body : Program} {o : Outcome} {m m' : Meter}
    (hbody : run cfg prices.tariff sub body m = .ok o m')
    (hpeak : Stack.peak cfg body.instrs [sub] + 2 * path.length ≤ cfg.maxStackDepth)
    (hput : root.putAt cfg path o.tree = .ok root') (persist persist' : Bool) (u : Nat) :
    ∃ o' m'', run cfg prices.tariff root
        (.instr (.idx persist true (path.map .literal)) :: body ++ [.instr (.ins persist' path.length)])
        ⟨none, u⟩ = .ok o' m'' ∧ o'.reads = o.reads ∧ o'.tree = root' := by
  obtain ⟨hsteps, -⟩ := run_eq_ok.mp hbody
  obtain ⟨is, rfl⟩ := exists_instrs_of_steps hsteps
  rw [Program.instrs_ofInstrs] at hpeak
  have hwalk := Stack.recordedWalk_of_idx hidx
  have hl : saved.length = 2 * path.length := by
    rw [Stack.length_of_recordedWalk hwalk, List.length_nil, Nat.zero_add]
  have hfirst : Stack.perform cfg (.idx persist true (path.map .literal)) [root] =
      .ok (sub :: saved, none) := map_eq_ok.mpr ⟨_, hidx, rfl⟩
  have hmiddle := Stack.performAll_above saved (performAll_of_steps hsteps) (by omega)
  have hd : 0 < cfg.maxStackDepth := Nat.lt_of_lt_of_le
    (Nat.lt_of_lt_of_le Nat.zero_lt_one (Stack.length_le_peak cfg is [sub])) (by omega)
  have hlast : Stack.performAll cfg [.ins persist' path.length] (o.tree :: saved) =
      .ok ([root'], []) :=
    bind_eq_ok.mpr ⟨_, Stack.perform_ins_recordedWalk hwalk hput hd persist', rfl⟩
  have hall : Stack.performAll cfg
      (.idx persist true (path.map .literal) :: (is ++ [.ins persist' path.length])) [root] =
        .ok ([root'], o.reads) := by
    have hrest := Stack.performAll_append hmiddle [.ins persist' path.length]
    rw [List.singleton_append, List.singleton_append, hlast, ok_map, List.append_nil] at hrest
    exact bind_eq_ok.mpr ⟨_, hfirst, bind_eq_ok.mpr ⟨_, hrest, rfl⟩⟩
  obtain ⟨o', m'', ho⟩ := exists_run hp hall u
  refine ⟨o', m'', ?_, ?_⟩
  · rwa [Program.ofInstrs, List.map_cons, List.map_append] at ho
  · have hh := (performAll_of_steps (run_eq_ok.mp ho).1).symm.trans hall
    simp only [Except.ok.injEq, Prod.mk.injEq, List.cons.injEq, and_true] at hh
    exact ⟨hh.2, hh.1⟩

/-- Whatever a program does to a part of a tree when it runs alone, it does inside of the tree between
the walk to the part and the steps that put it back, if the stack has room for both. The path then leads
to what the program has made of the part, paths that leave it on the way lead where they did, and a part
that was there and has come out as it was leaves the tree as it was. -/
theorem nested_update (env : Environment) {prices : CostModel} (hp : prices.Payable) {root sub : Tree}
    (hroot : root.Built (.ofEnvironment env)) {path : List AlignedValue} {saved : Stack}
    (hidx : Stack.idx (.ofEnvironment env) true (path.map .literal) [root] = .ok (sub :: saved))
    {body : Program} {o : Outcome} {m m' : Meter}
    (hbody : run (.ofEnvironment env) prices.tariff sub body m = .ok o m')
    (hpeak : Stack.peak (.ofEnvironment env) body.instrs [sub] + 2 * path.length ≤
      (Config.ofEnvironment env).maxStackDepth) (persist persist' : Bool) (u : Nat) :
    ∃ o' m'', run (.ofEnvironment env) prices.tariff root
        (.instr (.idx persist true (path.map .literal)) :: body ++ [.instr (.ins persist' path.length)])
        ⟨none, u⟩ = .ok o' m'' ∧
      o'.reads = o.reads ∧
      o'.tree.walk path = .ok o.tree ∧
      (∀ other, root.Diverges path other →
        ∀ t, o'.tree.walk other = .ok t ↔ root.walk other = .ok t) ∧
      ((∃ t, root.walk path = .ok t) → o.tree = sub → o'.tree = root) := by
  obtain ⟨hreach, hkeys⟩ := Stack.reach_of_recordedWalk (Stack.recordedWalk_of_idx hidx)
  have hroom : ∀ k ∈ path, k.requestBinary = .ok () := fun k hk => Config.requestBinary_of_le (hkeys k hk)
  obtain ⟨root', hput⟩ := hroot.exists_putAt hroom hreach o.tree
  obtain ⟨o', m'', ho, hreads, rfl⟩ := exists_run_nested hp hidx hbody hpeak hput persist persist' u
  refine ⟨o', m'', ho, hreads, Tree.walk_putAt hput, fun other hd t => ?_, ?_⟩
  · exact Tree.walk_putAt_of_diverges hput hd
  · rintro ⟨t, ht⟩ hsame
    obtain rfl := Except.ok.inj ((Tree.reach_of_walk ht).symm.trans hreach)
    rw [hsame, hroot.putAt_walk hroom ht] at hput
    exact (Except.ok.inj hput).symm

end

/-- The walk goes through an empty place of an array to an entry that a new map does not have, and the
other path to another place of the array, by a key of a kind of its own. -/
theorem nested_update_makes_map :
    let cfg := Config.ofEnvironment fun _ => none
    let key : AlignedValue := ⟨[⟨.bytes 1, [0x6b], by decide⟩, ⟨.field, [], by decide⟩]⟩
    let one : AlignedValue := ⟨[⟨.bytes 1, [1], by decide⟩]⟩
    let zero : AlignedValue := ⟨[⟨.field, [], by decide⟩]⟩
    let root : Tree := .map [(key, .array [.cell one, .null])]
    let path := [key, one, key]
    let body : Program := .ofInstrs [.push false (.cell zero), .popeq false none]
    ∃ o m, run cfg Tariff.standard root
        (.instr (.idx false true (path.map .literal)) :: body ++ [.instr (.ins true path.length)])
        ⟨none, 0⟩ = .ok o m ∧
      o.reads = [zero] ∧ o.tree.walk path = .ok .null ∧ o.tree.walk [key, zero] = .ok (.cell one) := by
  intro cfg key one zero root path body
  have hone : (Tree.cell one).Built cfg := Tree.built_cell_iff.mpr (by decide +kernel)
  have harray : (Tree.array [.cell one, .null]).Built cfg :=
    Tree.built_array_iff.mpr ⟨by decide +kernel, by simpa using ⟨hone, .null⟩⟩
  have hkey : key.requestBinary = .ok () := AlignedValue.requestBinary_eq_ok.mpr (by decide +kernel)
  have hroot : root.Built cfg :=
    Tree.built_map_iff.mpr ⟨List.pairwise_singleton _ _, by simpa using ⟨hkey, harray⟩⟩
  have hidx : Stack.idx cfg true (path.map .literal) [root] =
      .ok [.null, .cell key, .map [], .cell one, .array [.cell one, .null], .cell key, root] := rfl
  have hbody : run cfg Tariff.standard .null body ⟨none, 0⟩ = .ok
      ⟨.null, [zero], [.push false (.cell zero), .popeq false (some zero)], 5⟩ ⟨none, 5⟩ := rfl
  have hdiverges : root.Diverges path [key, zero] :=
    .inr ⟨by decide +kernel, .array [.cell one, .null], rfl, .inl (by decide +kernel)⟩
  obtain ⟨o, m, ho, hreads, hwalk, hother, -⟩ := nested_update (fun _ => none)
    CostModel.payable_standard hroot hidx hbody (by decide +kernel) false true 0
  exact ⟨o, m, ho, hreads, hwalk, (hother _ hdiverges _).mpr rfl⟩

end Machine

end AlignedLedger
