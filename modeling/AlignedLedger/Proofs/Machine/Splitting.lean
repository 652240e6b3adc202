import AlignedLedger.Proofs.Machine.Built
import AlignedLedger.Proofs.Machine.Walks

/-! One long step in place of two. Going down a path and putting back have the same shape: the top comes off
the stack, it is worked on with what lies below it, and the result goes on top. Where the work falls into two
parts, so does the step, as long as there is room for what comes of the first part. -/

namespace AlignedLedger

namespace Stack

variable {cfg : Config} {use : StackUse} {s t : Stack} {n m : Nat}
variable {f g : Tree → Stack → Except Fault (Tree × Stack)}

theorem atTop_eq_ok :
    atTop cfg use f s = .ok t ↔
      ∃ x q y r, s = x :: q ∧ f x q = .ok (y, r) ∧ r.length < cfg.maxStackDepth ∧ t = y :: r := by
  unfold atTop
  simp only [bind_eq_ok, push_eq_ok, Prod.exists, pop_eq_ok, exists_and_left]

/-- The work in two parts, where the first leaves room whenever both together do. -/
theorem atTop_bind
    (hroom : ∀ x q y r z p, s = x :: q → f x q = .ok (y, r) → g y r = .ok (z, p) →
      p.length < cfg.maxStackDepth → r.length < cfg.maxStackDepth) :
    atTop cfg use (fun x q => f x q >>= fun p => g p.1 p.2) s = .ok t ↔
      ∃ r, atTop cfg use f s = .ok r ∧ atTop cfg use g r = .ok t := by
  simp only [atTop_eq_ok]
  constructor
  · rintro ⟨x, q, z, p, rfl, h, hp, rfl⟩
    obtain ⟨⟨y, r⟩, hf, hg⟩ := bind_eq_ok.mp h
    exact ⟨y :: r, ⟨x, q, y, r, rfl, hf, hroom x q y r z p rfl hf hg hp, rfl⟩, y, r, z, p, rfl, hg, hp, rfl⟩
  · rintro ⟨_, ⟨x, q, y, r, rfl, hf, -, rfl⟩, _, _, z, p, ⟨⟩, hg, hp, rfl⟩
    exact ⟨x, q, z, p, rfl, bind_eq_ok.mpr ⟨_, hf, hg⟩, hp, rfl⟩

section Paths

variable {pushPath : Bool} {ks ls : List AlignedValue}

variable [Memory]

theorem recordedWalk_append (ks ls : List AlignedValue) (x : Tree) (s : Stack) :
    recordedWalk cfg (ks ++ ls) x s =
      recordedWalk cfg ks x s >>= fun p => recordedWalk cfg ls p.1 p.2 := by
  induction ks generalizing x s with
  | nil => rfl
  | cons k ks ih =>
    rw [List.cons_append, recordedWalk, recordedWalk]
    simp only [bind_assoc, ih]

theorem follow_append (pushPath : Bool) (ks ls : List AlignedValue) (x : Tree) (s : Stack) :
    follow cfg pushPath (ks ++ ls) x s =
      follow cfg pushPath ks x s >>= fun p => follow cfg pushPath ls p.1 p.2 := by
  cases pushPath with
  | true => exact recordedWalk_append ks ls x s
  | false =>
    simp only [follow, Tree.walk_append]
    cases x.walk ks <;> rfl

theorem length_of_follow {x y : Tree} (h : follow cfg pushPath ks x s = .ok (y, t)) :
    s.length ≤ t.length := by
  cases pushPath with
  | true =>
    rw [length_of_recordedWalk h]
    exact Nat.le_add_right _ _
  | false =>
    obtain ⟨_, -, ⟨⟩⟩ := map_eq_ok.mp h
    exact Nat.le_refl _

theorem idx_append (hl : ks.length + ls.length ≤ cfg.maxPathLength) :
    idx cfg pushPath ((ks ++ ls).map .literal) s = .ok t ↔
      ∃ r, idx cfg pushPath (ks.map .literal) s = .ok r ∧
        idx cfg pushPath (ls.map .literal) r = .ok t := by
  have hboth : (ks ++ ls).length ≤ cfg.maxPathLength := by rwa [List.length_append]
  have hks : ks.length ≤ cfg.maxPathLength := by omega
  have hls : ls.length ≤ cfg.maxPathLength := by omega
  simp only [idx_literal hboth, idx_literal hks, idx_literal hls, funext₂ (follow_append pushPath ks ls)]
  refine atTop_bind fun x q y r z p _ _ hg hp => ?_
  -- The second walk takes nothing away, so what has room after it has room before.
  have hle := length_of_follow hg
  omega

end Paths

section PuttingBack

variable [Memory]

/-- Puts the top back through so many containers. -/
def putBack (cfg : Config) (n : Nat) (s : Stack) : Except Fault Stack :=
  insOperands n s >>= fun p => ins cfg n p.1 p.2

theorem length_of_rebuild {w x : Tree} (h : rebuild cfg n w s = .ok (x, t)) :
    s.length = t.length + 2 * n := by
  induction n generalizing w s with
  | zero =>
    cases h
    rfl
  | succ n ih =>
    obtain ⟨⟨k, r⟩, hk, h⟩ := bind_eq_ok.mp h
    obtain ⟨⟨c, q⟩, hc, h⟩ := bind_eq_ok.mp h
    obtain ⟨v, -, h⟩ := bind_eq_ok.mp h
    rw [popCell_eq_ok.mp hk, pop_eq_ok.mp hc]
    have hl := ih h
    simp only [List.length_cons]
    omega

theorem putBack_eq_ok : putBack cfg n s = .ok t ↔ atTop cfg .ins (rebuild cfg n) s = .ok t := by
  rw [putBack, bind_eq_ok, atTop_eq_ok]
  constructor
  · rintro ⟨⟨x, q⟩, ho, h⟩
    obtain ⟨rfl, -⟩ := insOperands_eq_ok.mp ho
    obtain ⟨⟨y, r⟩, hr, h⟩ := bind_eq_ok.mp h
    obtain ⟨hroom, rfl⟩ := push_eq_ok.mp h
    exact ⟨x, q, y, r, rfl, hr, hroom, rfl⟩
  · rintro ⟨x, q, y, r, rfl, hr, hroom, rfl⟩
    have hl := length_of_rebuild hr
    exact ⟨(x, q), insOperands_eq_ok.mpr ⟨rfl, by omega⟩,
      bind_eq_ok.mpr ⟨(y, r), hr, push_eq_ok.mpr ⟨hroom, rfl⟩⟩⟩

theorem putBack_add (hs : s.length ≤ cfg.maxStackDepth) :
    putBack cfg (n + m) s = .ok t ↔ ∃ r, putBack cfg n s = .ok r ∧ putBack cfg m r = .ok t := by
  simp only [putBack_eq_ok, funext₂ (rebuild_add n m)]
  refine atTop_bind fun x q y r z p hx hf _ _ => ?_
  -- The first part takes entries away, so there is room for what it has made.
  have hl := length_of_rebuild hf
  rw [hx, List.length_cons] at hs
  omega

theorem perform_ins (persist : Bool) (n : Nat) (s : Stack) :
    perform cfg (.ins persist n) s = (putBack cfg n s).map fun t => (t, none) := by
  rw [perform, putBack]
  cases insOperands n s <;> rfl

end PuttingBack

end Stack

namespace Machine

section

variable [Memory]

/-- A path that is written out can be gone down in two parts, with or without keeping the containers, and
values can be put back in two parts: the one instruction succeeds where the two do, and leaves the same stack.
Putting back goes through a smaller stack, so for that the stack must not be too deep to begin with, and none
that a program comes to is. -/
theorem idx_and_ins_split (env : Environment) {prices : CostModel} (hp : prices.Payable)
    (persist persist₁ persist₂ : Bool) (position used : Nat) :
    let cfg := Config.ofEnvironment env
    let left := execute cfg prices.tariff position used
    (∀ (pushPath : Bool) (path₁ path₂ : List AlignedValue) (s : Stack) x,
      path₁.length + path₂.length ≤ cfg.maxPathLength →
        (left [.idx persist pushPath ((path₁ ++ path₂).map .literal)] s = .ok x ↔
          left [.idx persist₁ pushPath (path₁.map .literal), .idx persist₂ pushPath (path₂.map .literal)] s =
            .ok x)) ∧
      (∀ (n m : Nat) (s : Stack) x, s.length ≤ cfg.maxStackDepth →
        (left [.ins persist (n + m : Nat)] s = .ok x ↔ left [.ins persist₁ n, .ins persist₂ m] s = .ok x)) ∧
      ∀ is root s reads, left is [root] = .ok (s, reads) → s.length ≤ cfg.maxStackDepth := by
  intro cfg left
  refine ⟨fun pushPath path₁ path₂ s ⟨t, reads⟩ hl => ?_, fun n m s ⟨t, reads⟩ hs => ?_, fun is root s reads h => ?_⟩
  · rw [execute_of_quiet hp rfl, execute_pair_of_quiet hp rfl fun _ => rfl, Stack.idx_append hl]
  · rw [execute_of_quiet hp (Stack.perform_ins persist _ s),
      execute_pair_of_quiet hp (Stack.perform_ins persist₁ n s) (Stack.perform_ins persist₂ m),
      Stack.putBack_add hs]
  · have hall := (execute_eq_performAll hp cfg position used is [root]).symm.trans h
    exact Stack.length_of_performAll (s := [root]) (Config.one_le_maxStackDepth env) hall

end

/-- The first part of the path ends in an array and the second at the key of a map that is not there yet;
null is put back under that key, and the map into the array. -/
theorem split_in_array :
    let cfg := Config.ofEnvironment fun _ => none
    let key : AlignedValue := ⟨[⟨.bytes 1, [0x6b], by decide⟩, ⟨.field, [], by decide⟩]⟩
    let one : AlignedValue := ⟨[⟨.bytes 1, [1], by decide⟩]⟩
    let root : Tree := .map [(key, .array [.cell one, .null])]
    let saved : Stack := [.null, .cell key, .map [], .cell one, .array [.cell one, .null], .cell key, root]
    let put : Tree := .map [(key, .array [.cell one, .map [(key, .null)]])]
    execute cfg Tariff.standard 0 0
        [.idx true true [.literal key], .idx false true [.literal one, .literal key]] [root] =
      .ok (saved, []) ∧
    execute cfg Tariff.standard 0 0 [.ins true 1, .ins false 2] saved = .ok ([put], []) := by
  intro cfg key one root saved put
  obtain ⟨hidx, hins, -⟩ := idx_and_ins_split (fun _ => none) CostModel.payable_standard false true false 0 0
  exact ⟨(hidx true [key] [one, key] [root] (saved, []) (by decide)).mp rfl,
    (hins 1 2 saved ([put], []) (by decide)).mp rfl⟩

end Machine

end AlignedLedger
