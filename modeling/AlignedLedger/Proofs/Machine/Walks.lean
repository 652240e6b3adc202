import AlignedLedger.Proofs.Machine.Execution
import AlignedLedger.Proofs.Machine.NestedUpdate
import AlignedLedger.Proofs.Tree.Visits

/-! The two walks that an instruction can take down a path, held against looking up one key after the other.
The plain walk is just that. The one that keeps its containers and keys comes to the same, with all of them
in order below it, and goes on beyond the end of what is there only from an empty place. -/

namespace AlignedLedger

namespace Stack

variable {cfg : Config} {s : Stack} {t u : Tree} {k : AlignedValue} {ks ls : List AlignedValue}

/-- Containers and their keys as they come to lie on the stack one after another, the last on top. -/
def trail : List (Tree × AlignedValue) → Stack
  | [] => []
  | p :: ps => trail ps ++ [.cell p.2, p.1]

variable [Memory]

theorem recordedWalk_cons_of_room (hd : s.length + 1 < cfg.maxStackDepth)
    (hk : k.binaryLength ≤ cfg.maxCellBytes) (ks : List AlignedValue) (t : Tree) :
    recordedWalk cfg (k :: ks) t s =
      t.orNewMap.childOrNull k >>= fun u => recordedWalk cfg ks u (.cell k :: t.orNewMap :: s) := by
  have hcontainer : push cfg t.orNewMap s = .ok (t.orNewMap :: s) := push_eq_ok.mpr ⟨by omega, rfl⟩
  have hcell : Tree.makeCell cfg k = .ok (.cell k) := Tree.makeCell_eq_ok.mpr ⟨hk, rfl⟩
  have hkey : push cfg (.cell k) (t.orNewMap :: s) = .ok (.cell k :: t.orNewMap :: s) :=
    push_eq_ok.mpr ⟨hd, rfl⟩
  rw [recordedWalk, hcontainer, ok_bind, hcell, ok_bind, hkey, ok_bind]

/-- Where there is room for what it keeps, the walk goes just where keys lead if containers are made on the
way, and keeps the containers that it goes through. -/
theorem recordedWalk_eq_reach (hs : s.length + 2 * ks.length ≤ cfg.maxStackDepth)
    (hk : ∀ k ∈ ks, k.binaryLength ≤ cfg.maxCellBytes) (t : Tree) :
    recordedWalk cfg ks t s = (t.reach ks).map fun u => (u, trail (t.visited ks) ++ s) := by
  induction ks generalizing t s with
  | nil => rfl
  | cons k ks ih =>
    obtain ⟨hk, hks⟩ := List.forall_mem_cons.mp hk
    rw [List.length_cons] at hs
    have hfirst : s.length + 1 < cfg.maxStackDepth := by omega
    have hrest : (Tree.cell k :: t.orNewMap :: s).length + 2 * ks.length ≤ cfg.maxStackDepth := by
      simp only [List.length_cons]
      omega
    rw [recordedWalk_cons_of_room hfirst hk, Tree.reach]
    cases hc : t.orNewMap.childOrNull k with
    | error e => rfl
    | ok u =>
      rw [ok_bind, ok_bind, ih hrest hks, Tree.visited_cons hc, trail, List.append_assoc]
      rfl

/-- A walk of either kind. -/
def follow (cfg : Config) (pushPath : Bool) (ks : List AlignedValue) (t : Tree) (s : Stack) :
    Except Fault (Tree × Stack) :=
  if pushPath then recordedWalk cfg ks t s else (t.walk ks).map fun u => (u, s)

/-- Takes the top off, works on it and on what lies below, and puts on top what comes of it. -/
def atTop (cfg : Config) (use : StackUse) (f : Tree → Stack → Except Fault (Tree × Stack)) (s : Stack) :
    Except Fault Stack := do
  let (t, s) ← pop use s
  let (u, s) ← f t s
  push cfg u s

theorem idx_literal (hl : ks.length ≤ cfg.maxPathLength) (pushPath : Bool) (s : Stack) :
    idx cfg pushPath (ks.map .literal) s = atTop cfg .idx (follow cfg pushPath ks) s := by
  have hpath : ¬ cfg.maxPathLength < (ks.map PathKey.literal).length := by
    rw [List.length_map]
    omega
  simp only [idx, if_neg hpath, pathKeys_literal, ok_bind, atTop]
  cases pushPath <;> rfl

theorem idx_plain (hl : ks.length ≤ cfg.maxPathLength) (hs : s.length < cfg.maxStackDepth) (t : Tree) :
    idx cfg false (ks.map .literal) (t :: s) = (t.walk ks).map fun u => u :: s := by
  rw [idx_literal hl, atTop, pop, ok_bind]
  dsimp only [follow]
  cases t.walk ks with
  | error e => rfl
  | ok u => exact if_pos hs

theorem idx_recorded (hl : ks.length ≤ cfg.maxPathLength) (hs : s.length + 2 * ks.length < cfg.maxStackDepth)
    (hk : ∀ k ∈ ks, k.binaryLength ≤ cfg.maxCellBytes) (t : Tree) :
    idx cfg true (ks.map .literal) (t :: s) =
      (t.reach ks).map fun u => u :: (trail (t.visited ks) ++ s) := by
  have hw := recordedWalk_eq_reach (s := s) (by omega) hk t
  rw [idx_literal hl, atTop, pop, ok_bind]
  dsimp only [follow]
  rw [if_pos rfl, hw]
  cases hr : t.reach ks with
  | error e => rfl
  | ok u =>
    rw [hr, ok_map] at hw
    have hroom : (trail (t.visited ks) ++ s).length < cfg.maxStackDepth := by
      rw [length_of_recordedWalk hw]
      exact hs
    exact if_pos hroom

theorem performAll_readAt (hd : 1 < cfg.maxStackDepth) (hl : ks.length ≤ cfg.maxPathLength)
    (persist cached : Bool) (root : Tree) :
    performAll cfg [.dup 0, .idx persist false (ks.map .literal), .popeq cached none] [root] =
      (root.walk ks >>= Tree.asCell).map fun v => ([root], [v]) := by
  have hdup : perform cfg (.dup 0) [root] = .ok ([root, root], none) :=
    map_eq_ok.mpr ⟨_, if_pos hd, rfl⟩
  have hidx : perform cfg (.idx persist false (ks.map .literal)) [root, root] =
      ((root.walk ks).map fun u => [u, root]).map fun s => (s, none) :=
    congrArg (Except.map _) (idx_plain (s := [root]) hl hd root)
  rw [performAll_cons hdup, performAll_cons_of_quiet hidx]
  cases root.walk ks with
  | error e => rfl
  | ok u => cases u <;> rfl

end Stack

namespace Machine

section Unlimited

variable {cfg : Config} {prices : CostModel} (hp : prices.Payable) {path : List AlignedValue}
variable (hl : path.length ≤ cfg.maxPathLength)
include hp hl

variable [Memory]

theorem exists_run_readAt (hd : 1 < cfg.maxStackDepth) {root t : Tree} {reads : List AlignedValue}
    (persist cached : Bool) (used : Nat) :
    (∃ o m, run cfg prices.tariff root (.ofInstrs
        [.dup 0, .idx persist false (path.map .literal), .popeq cached none]) ⟨none, used⟩ = .ok o m ∧
      o.tree = t ∧ o.reads = reads) ↔
      ∃ v, root.walk path = .ok (.cell v) ∧ t = root ∧ reads = [v] := by
  rw [exists_run_iff hp, Stack.performAll_readAt hd hl, map_eq_ok]
  constructor
  · rintro ⟨v, hv, ⟨⟩⟩
    obtain ⟨u, hu, hv⟩ := bind_eq_ok.mp hv
    obtain rfl := Tree.asCell_eq_ok.mp hv
    exact ⟨v, hu, rfl, rfl⟩
  · rintro ⟨v, hv, rfl, rfl⟩
    exact ⟨v, bind_eq_ok.mpr ⟨.cell v, hv, rfl⟩, rfl⟩

theorem execute_recorded {rest : Stack}
    (hroom : rest.length + 2 * path.length < cfg.maxStackDepth)
    (hkeys : ∀ k ∈ path, k.binaryLength ≤ cfg.maxCellBytes) (root : Tree) (persist : Bool)
    (position used : Nat) :
    execute cfg prices.tariff position used [.idx persist true (path.map .literal)] (root :: rest) =
      (root.reach path).map fun u => (u :: (Stack.trail (root.visited path) ++ rest), []) := by
  rw [execute_eq_performAll hp, Stack.performAll_of_quiet rfl, Stack.idx_recorded hl hroom hkeys]
  cases root.reach path <;> rfl

end Unlimited

section

variable [Memory]

/-- Reading at the end of a path succeeds where looking up key after key comes to a cell, and then it gives
the value of that cell. Along keys that are all there, the walk that keeps its containers and keys comes to
the same place, with just those containers and keys below it. Where looking up fails, that walk fails in the
same way, unless it has come to an empty place: then it goes on through new maps and ends at null. -/
theorem recorded_walk_agrees (env : Environment) {prices : CostModel} (hp : prices.Payable) (root : Tree)
    (path : List AlignedValue) (hl : path.length ≤ (Config.ofEnvironment env).maxPathLength)
    (persist cached : Bool) (used : Nat) :
    let cfg := Config.ofEnvironment env
    let reading := Program.ofInstrs
      [.dup 0, .idx persist false (path.map .literal), .popeq cached none]
    ((∃ o m, run cfg prices.tariff root reading ⟨none, used⟩ = .ok o m) ↔
        ∃ v, root.walk path = .ok (.cell v)) ∧
      (∀ v, root.walk path = .ok (.cell v) →
        ∃ o m, run cfg prices.tariff root reading ⟨none, used⟩ = .ok o m ∧ o.tree = root ∧ o.reads = [v]) ∧
      ∀ (rest : Stack) (position : Nat), (∀ k ∈ path, k.binaryLength ≤ cfg.maxCellBytes) →
        rest.length + 2 * path.length < cfg.maxStackDepth →
        let left := execute cfg prices.tariff position used [.idx persist true (path.map .literal)]
          (root :: rest)
        (∀ sub, root.walk path = .ok sub →
          left = .ok (sub :: (Stack.trail (root.passed path) ++ rest), [])) ∧
        ∀ e, root.walk path = .error e →
          ∃ before key after c, path = before ++ key :: after ∧ root.walk before = .ok c ∧
            c.index key = .error e ∧
            (c.Vacant key → left = .ok (.null :: (Stack.trail (root.passed before ++
              (c.orNewMap, key) :: after.map fun k => (Tree.newMap, k)) ++ rest), [])) ∧
            (¬ c.Vacant key → left = .error e) := by
  intro cfg reading
  have hd : 1 < cfg.maxStackDepth := Nat.lt_of_lt_of_le (by decide) (Config.eight_le_maxStackDepth env)
  refine ⟨⟨?_, ?_⟩, fun v hv => ?_, ?_⟩
  · rintro ⟨o, m, ho⟩
    obtain ⟨v, hv, -⟩ := (exists_run_readAt hp hl hd persist cached used).mp ⟨o, m, ho, rfl, rfl⟩
    exact ⟨v, hv⟩
  · rintro ⟨v, hv⟩
    obtain ⟨o, m, ho, -⟩ := (exists_run_readAt hp hl hd persist cached used).mpr ⟨v, hv, rfl, rfl⟩
    exact ⟨o, m, ho⟩
  · exact (exists_run_readAt hp hl hd persist cached used).mpr ⟨v, hv, rfl, rfl⟩
  · intro rest position hkeys hroom left
    have hleft := execute_recorded hp hl hroom hkeys root persist position used
    constructor
    · intro sub hsub
      rw [Tree.reach_of_walk hsub, Tree.visited_of_walk hsub] at hleft
      exact hleft
    · intro e he
      obtain ⟨before, key, after, c, rfl, hc, hfail⟩ := Tree.walk_eq_error.mp he
      refine ⟨before, key, after, c, rfl, hc, hfail, fun hv => ?_, fun hv => ?_⟩
      · rw [Tree.reach_of_vacant hc hv, Tree.visited_of_vacant hc hv] at hleft
        exact hleft
      · rw [Tree.reach_of_not_vacant hc hv hfail] at hleft
        exact hleft

end

/-- An array in a map, with a cell in the first place of the array and nothing in the second. The walk to
the cell keeps the containers that there are; the one to the second place goes on from there. -/
theorem recorded_walk_in_array :
    let cfg := Config.ofEnvironment fun _ => none
    let key : AlignedValue := ⟨[⟨.bytes 1, [0x6b], by decide⟩, ⟨.field, [], by decide⟩]⟩
    let zero : AlignedValue := ⟨[⟨.field, [], by decide⟩]⟩
    let one : AlignedValue := ⟨[⟨.bytes 1, [1], by decide⟩]⟩
    let root : Tree := .map [(key, .array [.cell one, .null])]
    (∃ o m, run cfg Tariff.standard root (.ofInstrs
        [.dup 0, .idx true false [.literal key, .literal zero], .popeq false none]) ⟨none, 0⟩ = .ok o m ∧
      o.tree = root ∧ o.reads = [one]) ∧
    execute cfg Tariff.standard 0 0 [.idx true true [.literal key, .literal zero]] [root, .null] =
      .ok ([.cell one, .cell zero, .array [.cell one, .null], .cell key, root, .null], []) ∧
    execute cfg Tariff.standard 0 0 [.idx true true [.literal key, .literal one, .literal zero, .literal key]]
        [root, .null] =
      .ok ([.null, .cell key, .map [], .cell zero, .map [], .cell one, .array [.cell one, .null], .cell key,
        root, .null], []) := by
  intro cfg key zero one root
  obtain ⟨-, hread, hwalk⟩ := recorded_walk_agrees (fun _ => none) CostModel.payable_standard root
    [key, zero] (by decide) true false 0
  obtain ⟨-, -, hnew⟩ := recorded_walk_agrees (fun _ => none) CostModel.payable_standard root
    [key, one, zero, key] (by decide) true false 0
  refine ⟨hread one rfl, (hwalk [.null] 0 (by decide) (by decide)).1 (.cell one) rfl, ?_⟩
  obtain ⟨before, k, after, c, hpath, hc, he, hleft, -⟩ :=
    (hnew [.null] 0 (by decide) (by decide)).2 (.unsupported .index "null") rfl
  -- The walk finds the first two keys, and nothing below the third.
  rcases before with _ | ⟨_, _ | ⟨_, _ | ⟨_, before⟩⟩⟩
  · cases hpath
    cases hc
    cases he
  · cases hpath
    cases hc
    cases he
  · cases hpath
    cases hc
    exact hleft trivial
  · obtain ⟨rfl, rfl, rfl, -⟩ : key = _ ∧ one = _ ∧ zero = _ ∧ _ := by simpa using hpath
    cases hc

end Machine

end AlignedLedger
