import AlignedLedger.Proofs.Machine.Execution

/-! Keys off the stack in place of keys that are written in the path. The first stack step takes the topmost
key, so keys that are pushed from the last to the first are those of the path in its order. -/

namespace AlignedLedger

namespace PathKey

/-- The path with keys written in the place of stack steps, in order, as far as there are keys. -/
def fill : List PathKey → List AlignedValue → List PathKey
  | [], _ => []
  | .literal k :: path, ks => .literal k :: fill path ks
  | .stack :: path, k :: ks => .literal k :: fill path ks
  | .stack :: path, [] => .stack :: path

theorem length_fill (path : List PathKey) (ks : List AlignedValue) : (fill path ks).length = path.length := by
  induction path generalizing ks with
  | nil => rfl
  | cons step path ih =>
    cases step with
    | literal k => exact congrArg (· + 1) (ih ks)
    | stack =>
      cases ks with
      | nil => rfl
      | cons k ks => exact congrArg (· + 1) (ih ks)

end PathKey

namespace Stack

variable {cfg : Config} {s : Stack}

theorem pathKeys_fill {path : List PathKey} {ks : List AlignedValue} (hk : ks.length ≤ path.count .stack)
    (s : Stack) : pathKeys path (ks.map .cell ++ s) = pathKeys (PathKey.fill path ks) s := by
  induction path generalizing ks with
  | nil =>
    -- There is no stack step, so there are no keys.
    rw [List.count_nil, Nat.le_zero, List.length_eq_zero_iff] at hk
    rw [hk]
    rfl
  | cons step path ih =>
    cases step with
    | literal k =>
      rw [List.count_cons_of_ne (by simp)] at hk
      rw [PathKey.fill, pathKeys, pathKeys, ih hk]
    | stack =>
      cases ks with
      | nil => rfl
      | cons k ks =>
        rw [List.count_cons_self, List.length_cons, Nat.succ_le_succ_iff] at hk
        rw [PathKey.fill, pathKeys, pathKeys, ← ih hk]
        rfl

variable [Memory]

theorem idx_fill {path : List PathKey} {ks : List AlignedValue} (hk : ks.length ≤ path.count .stack)
    (pushPath : Bool) (s : Stack) :
    idx cfg pushPath path (ks.map .cell ++ s) = idx cfg pushPath (PathKey.fill path ks) s := by
  rw [idx, idx, PathKey.length_fill, pathKeys_fill hk]

/-- Keys that are pushed from the last to the first lie on the stack in their order. -/
theorem performAll_pushes {ks : List (Bool × AlignedValue)} (hs : s.length + ks.length ≤ cfg.maxStackDepth) :
    performAll cfg (ks.reverse.map fun k => .push k.1 (.cell k.2)) s =
      .ok ((ks.map Prod.snd).map .cell ++ s, []) := by
  induction ks with
  | nil => rfl
  | cons k ks ih =>
    rw [List.length_cons] at hs
    have hroom : ((ks.map Prod.snd).map Tree.cell ++ s).length < cfg.maxStackDepth := by
      simp only [List.length_append, List.length_map]
      omega
    have hlast : performAll cfg [.push k.1 (.cell k.2)] ((ks.map Prod.snd).map .cell ++ s) =
        .ok (.cell k.2 :: ((ks.map Prod.snd).map .cell ++ s), []) := by
      rw [performAll_of_quiet rfl, push, if_pos hroom]
      rfl
    rw [List.reverse_cons, List.map_append, performAll_append (ih (by omega))]
    exact congrArg (Except.map _) hlast

end Stack

namespace Machine

section

variable [Memory]

/-- Keys taken off the stack do what keys written in the path do. Pushed from the last to the first, they
take the place of the stack steps in the order of the path, whatever lies below them: the walk leaves the same
stack, or ends in the same fault. -/
theorem stack_keys_as_literals (env : Environment) {prices : CostModel} (hp : prices.Payable)
    (path : List PathKey) (keys : List (Bool × AlignedValue)) (hk : keys.length ≤ path.count .stack)
    (s : Stack) (hs : s.length + keys.length ≤ (Config.ofEnvironment env).maxStackDepth)
    (persist persist' pushPath : Bool) (position used : Nat) :
    let left := execute (.ofEnvironment env) prices.tariff position used
    left ((keys.reverse.map fun k => .push k.1 (.cell k.2)) ++ [.idx persist pushPath path]) s =
      left [.idx persist' pushPath (PathKey.fill path (keys.map Prod.snd))] s := by
  have hkeys : (keys.map Prod.snd).length ≤ path.count .stack := by rwa [List.length_map]
  simp only [execute_eq_performAll hp]
  rw [Stack.performAll_append (Stack.performAll_pushes hs), Stack.performAll_of_quiet rfl,
    Stack.performAll_of_quiet rfl, Stack.idx_fill hkeys]
  cases Stack.idx _ pushPath (PathKey.fill path (keys.map Prod.snd)) s <;> rfl

end

/-- Between two keys from the stack there is one that is written in the path; the second of the two leads into
an array, and is pushed first. -/
theorem stack_keys_around_literal :
    let cfg := Config.ofEnvironment fun _ => none
    let key : AlignedValue := ⟨[⟨.bytes 1, [0x6b], by decide⟩, ⟨.field, [], by decide⟩]⟩
    let zero : AlignedValue := ⟨[⟨.field, [], by decide⟩]⟩
    let inner : Tree := .map [(zero, .array [.cell key, .null])]
    let root : Tree := .map [(key, inner)]
    execute cfg Tariff.standard 0 0
        [.push true (.cell zero), .push false (.cell key), .idx true true [.stack, .literal zero, .stack]]
        [root, .null] =
      .ok ([.cell key, .cell zero, .array [.cell key, .null], .cell zero, inner, .cell key, root, .null], []) := by
  intro cfg key zero inner root
  exact (stack_keys_as_literals (fun _ => none) CostModel.payable_standard
    [.stack, .literal zero, .stack] [(false, key), (true, zero)] (by decide)
    [root, .null] (by decide) true false true 0 0).trans rfl

end Machine

end AlignedLedger
