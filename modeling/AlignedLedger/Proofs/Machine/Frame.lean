import AlignedLedger.Proofs.Machine.Replay
import AlignedLedger.Proofs.Machine.Unmetered
import AlignedLedger.Proofs.Tree.Constructors

/-! A program that runs well on a stack runs just so on top of other entries: it never looks at them, and
all they take away from it is room. -/

namespace AlignedLedger.Stack

variable {cfg : Config} {s t : Stack} {u : Tree} {use : StackUse} {v : AlignedValue}

theorem push_eq_ok : push cfg u s = .ok t ↔ s.length < cfg.maxStackDepth ∧ t = u :: s := by
  unfold push
  by_cases h : s.length < cfg.maxStackDepth
  · simp [h, eq_comm]
  · simp [h]

theorem pop_eq_ok : pop use s = .ok (u, t) ↔ s = u :: t := by
  cases s <;> simp [pop]

theorem popCell_eq_ok : popCell use s = .ok (v, t) ↔ s = .cell v :: t := by
  unfold popCell
  rw [bind_eq_ok]
  constructor
  · rintro ⟨⟨x, r⟩, hp, h⟩
    obtain ⟨w, hw, h⟩ := bind_eq_ok.mp h
    cases h
    rw [pop_eq_ok.mp hp, Tree.asCell_eq_ok.mp hw]
  · rintro rfl
    exact ⟨_, rfl, rfl⟩

theorem idx_eq_ok [Memory] {pushPath : Bool} {path : List PathKey} :
    idx cfg pushPath path s = .ok t ↔
      path.length ≤ cfg.maxPathLength ∧ ∃ ks x r y r', pathKeys path s = .ok (ks, x :: r) ∧
        (if pushPath then recordedWalk cfg ks x r else (x.walk ks).map fun y => (y, r)) = .ok (y, r') ∧
        push cfg y r' = .ok t := by
  unfold idx
  by_cases hp : cfg.maxPathLength < path.length
  · have hn : ¬ path.length ≤ cfg.maxPathLength := by omega
    simp [hp, hn]
  · have hle : path.length ≤ cfg.maxPathLength := by omega
    simp only [if_neg hp, hle, true_and]
    cases hk : pathKeys path s with
    | error e => simp
    | ok ks =>
      obtain ⟨ks, r⟩ := ks
      cases r with
      | nil => simp [pop]
      | cons x r => cases pushPath <;> simp [pop, bind_eq_ok, and_assoc]

theorem recordedWalk_cons [Memory] {k : AlignedValue} {ks : List AlignedValue} {x : Tree} :
    recordedWalk cfg (k :: ks) u s = .ok (x, t) ↔
      s.length + 1 < cfg.maxStackDepth ∧ k.binaryLength ≤ cfg.maxCellBytes ∧
        ∃ child, u.orNewMap.childOrNull k = .ok child ∧
          recordedWalk cfg ks child (.cell k :: u.orNewMap :: s) = .ok (x, t) := by
  simp only [recordedWalk, bind_eq_ok, push_eq_ok, Tree.makeCell_eq_ok]
  constructor
  · rintro ⟨_, ⟨-, rfl⟩, _, ⟨hk, rfl⟩, _, ⟨hd, rfl⟩, child, hc, h⟩
    exact ⟨hd, hk, child, hc, h⟩
  · rintro ⟨hd, hk, child, hc, h⟩
    exact ⟨_, ⟨by omega, rfl⟩, _, ⟨hk, rfl⟩, _, ⟨hd, rfl⟩, child, hc, h⟩

theorem length_of_recordedWalk [Memory] {ks : List AlignedValue} {x : Tree}
    (h : recordedWalk cfg ks u s = .ok (x, t)) : t.length = s.length + 2 * ks.length := by
  induction ks generalizing u s with
  | nil =>
    cases h
    rfl
  | cons k ks ih =>
    obtain ⟨-, -, child, -, h⟩ := recordedWalk_cons.mp h
    have hl := ih h
    simp only [List.length_cons] at hl ⊢
    omega

section Above

variable (f : Stack)

theorem push_above (h : push cfg u s = .ok t) (hf : t.length + f.length ≤ cfg.maxStackDepth) :
    push cfg u (s ++ f) = .ok (t ++ f) := by
  obtain ⟨-, rfl⟩ := push_eq_ok.mp h
  refine push_eq_ok.mpr ⟨?_, rfl⟩
  simp only [List.length_append, List.length_cons] at hf ⊢
  omega

theorem dup_above {n : Int} (h : dup cfg n s = .ok t)
    (hf : t.length + f.length ≤ cfg.maxStackDepth) : dup cfg n (s ++ f) = .ok (t ++ f) := by
  cases n with
  | negSucc n => simp [dup] at h
  | ofNat i =>
    simp only [dup] at h ⊢
    cases hs : s[i]? with
    | none => simp [hs] at h
    | some u =>
      rw [hs] at h
      rw [List.getElem?_append_left (List.getElem?_eq_some_iff.mp hs).1, hs]
      exact push_above f h hf

theorem pathKeys_above {path : List PathKey} {ks : List AlignedValue}
    (h : pathKeys path s = .ok (ks, t)) : pathKeys path (s ++ f) = .ok (ks, t ++ f) := by
  induction path generalizing s ks with
  | nil =>
    cases h
    rfl
  | cons k path ih =>
    cases k with
    | literal k =>
      obtain ⟨⟨_, _⟩, hp, h⟩ := bind_eq_ok.mp h
      cases h
      exact bind_eq_ok.mpr ⟨_, ih hp, rfl⟩
    | stack =>
      obtain ⟨⟨k, r⟩, hk, h⟩ := bind_eq_ok.mp h
      obtain ⟨⟨_, _⟩, hp, h⟩ := bind_eq_ok.mp h
      cases h
      rw [popCell_eq_ok.mp hk]
      exact bind_eq_ok.mpr ⟨(k, r ++ f), rfl, bind_eq_ok.mpr ⟨_, ih hp, rfl⟩⟩

theorem recordedWalk_above [Memory] {ks : List AlignedValue} {x : Tree}
    (h : recordedWalk cfg ks u s = .ok (x, t)) (hf : t.length + f.length ≤ cfg.maxStackDepth) :
    recordedWalk cfg ks u (s ++ f) = .ok (x, t ++ f) := by
  induction ks generalizing u s with
  | nil =>
    cases h
    rfl
  | cons k ks ih =>
    obtain ⟨-, hk, child, hc, h⟩ := recordedWalk_cons.mp h
    have hl := length_of_recordedWalk h
    refine recordedWalk_cons.mpr ⟨?_, hk, child, hc, ih h⟩
    simp only [List.length_append, List.length_cons] at hl ⊢
    omega

theorem idx_above [Memory] {pushPath : Bool} {path : List PathKey} (h : idx cfg pushPath path s = .ok t)
    (hf : t.length + f.length ≤ cfg.maxStackDepth) : idx cfg pushPath path (s ++ f) = .ok (t ++ f) := by
  obtain ⟨hp, ks, x, r, y, r', hk, hw, h⟩ := idx_eq_ok.mp h
  refine idx_eq_ok.mpr ⟨hp, ks, x, r ++ f, y, r' ++ f, pathKeys_above f hk, ?_, push_above f h hf⟩
  obtain ⟨-, rfl⟩ := push_eq_ok.mp h
  rw [List.length_cons] at hf
  cases pushPath with
  | true => exact recordedWalk_above f hw (by omega)
  | false =>
    obtain ⟨z, hz, ⟨⟩⟩ := map_eq_ok.mp hw
    exact map_eq_ok.mpr ⟨y, hz, rfl⟩

theorem popeq_above {result : Option AlignedValue} (h : popeq result s = .ok (v, t)) :
    popeq result (s ++ f) = .ok (v, t ++ f) := by
  obtain ⟨hp, hr⟩ := popeq_eq_ok.mp h
  rw [popCell_eq_ok.mp hp]
  exact popeq_eq_ok.mpr ⟨rfl, hr⟩

theorem insOperands_above {n : Int} (h : insOperands n s = .ok (u, t)) :
    insOperands n (s ++ f) = .ok (u, t ++ f) := by
  cases n with
  | negSucc n => simp [insOperands] at h
  | ofNat n =>
    obtain ⟨_, hr, h⟩ := bind_eq_ok.mp h
    rw [pop_eq_ok.mp h] at hr ⊢
    refine bind_eq_ok.mpr ⟨(), ?_, rfl⟩
    unfold require at hr ⊢
    split at hr
    · simp at hr
    · next hl => exact if_neg (by simp only [List.length_append]; omega)

variable [Memory]

theorem rebuild_above {n : Nat} {w x : Tree} (h : rebuild cfg n w s = .ok (x, t)) :
    rebuild cfg n w (s ++ f) = .ok (x, t ++ f) := by
  induction n generalizing w s with
  | zero =>
    cases h
    rfl
  | succ n ih =>
    obtain ⟨⟨k, r⟩, hk, h⟩ := bind_eq_ok.mp h
    obtain ⟨⟨c, r'⟩, hc, h⟩ := bind_eq_ok.mp h
    obtain ⟨w', hw, h⟩ := bind_eq_ok.mp h
    rw [popCell_eq_ok.mp hk, pop_eq_ok.mp hc]
    exact bind_eq_ok.mpr ⟨(k, c :: r' ++ f), rfl, bind_eq_ok.mpr
      ⟨(c, r' ++ f), rfl, bind_eq_ok.mpr ⟨w', hw, ih h⟩⟩⟩

theorem ins_above {n : Nat} {w : Tree} (h : ins cfg n w s = .ok t)
    (hf : t.length + f.length ≤ cfg.maxStackDepth) : ins cfg n w (s ++ f) = .ok (t ++ f) := by
  obtain ⟨⟨x, r⟩, hr, h⟩ := bind_eq_ok.mp h
  exact bind_eq_ok.mpr ⟨(x, r ++ f), rebuild_above f hr, push_above f h hf⟩

theorem addi_above {n : Int} (h : addi cfg n s = .ok t)
    (hf : t.length + f.length ≤ cfg.maxStackDepth) : addi cfg n (s ++ f) = .ok (t ++ f) := by
  cases n with
  | negSucc n => simp [addi] at h
  | ofNat n =>
    obtain ⟨⟨w, r⟩, hp, h⟩ := bind_eq_ok.mp h
    rw [popCell_eq_ok.mp hp]
    refine bind_eq_ok.mpr ⟨(w, r ++ f), rfl, ?_⟩
    dsimp only at h ⊢
    cases hw : w.addNat n with
    | error e => simp [hw] at h
    | ok x =>
      simp only [hw] at h ⊢
      obtain ⟨c, hc, h⟩ := bind_eq_ok.mp h
      exact bind_eq_ok.mpr ⟨c, hc, push_above f h hf⟩

theorem perform_above {i : Instr} {read : Option AlignedValue}
    (h : perform cfg i s = .ok (t, read)) (hf : t.length + f.length ≤ cfg.maxStackDepth) :
    perform cfg i (s ++ f) = .ok (t ++ f, read) := by
  cases i with
  | push persist u =>
    obtain ⟨r, hr, ⟨⟩⟩ := map_eq_ok.mp h
    exact map_eq_ok.mpr ⟨_, push_above f hr hf, rfl⟩
  | dup n =>
    obtain ⟨r, hr, ⟨⟩⟩ := map_eq_ok.mp h
    exact map_eq_ok.mpr ⟨_, dup_above f hr hf, rfl⟩
  | idx persist pushPath path =>
    obtain ⟨r, hr, ⟨⟩⟩ := map_eq_ok.mp h
    exact map_eq_ok.mpr ⟨_, idx_above f hr hf, rfl⟩
  | popeq persist result =>
    obtain ⟨⟨v, r⟩, hr, ⟨⟩⟩ := map_eq_ok.mp h
    exact map_eq_ok.mpr ⟨_, popeq_above f hr, rfl⟩
  | ins persist n =>
    obtain ⟨⟨w, r⟩, hw, h⟩ := bind_eq_ok.mp h
    obtain ⟨r', hr, ⟨⟩⟩ := map_eq_ok.mp h
    exact bind_eq_ok.mpr ⟨_, insOperands_above f hw, map_eq_ok.mpr ⟨_, ins_above f hr hf, rfl⟩⟩
  | addi n =>
    obtain ⟨r, hr, ⟨⟩⟩ := map_eq_ok.mp h
    exact map_eq_ok.mpr ⟨_, addi_above f hr hf, rfl⟩

end Above

variable [Memory]

/-- The size of the stack where it is largest in the course of a program. -/
def peak (cfg : Config) : List Instr → Stack → Nat
  | [], s => s.length
  | i :: is, s => match perform cfg i s with
    | .ok (t, _) => max s.length (peak cfg is t)
    | .error _ => s.length

theorem length_le_peak (cfg : Config) (is : List Instr) (s : Stack) : s.length ≤ peak cfg is s := by
  cases is with
  | nil => exact Nat.le_refl _
  | cons i is =>
    rw [peak]
    split
    · exact Nat.le_max_left _ _
    · exact Nat.le_refl _

theorem performAll_above {is : List Instr} {reads : List AlignedValue} (f : Stack)
    (h : performAll cfg is s = .ok (t, reads)) (hf : peak cfg is s + f.length ≤ cfg.maxStackDepth) :
    performAll cfg is (s ++ f) = .ok (t ++ f, reads) := by
  induction is generalizing s reads with
  | nil =>
    cases h
    rfl
  | cons i is ih =>
    obtain ⟨⟨r, read⟩, hi, h⟩ := bind_eq_ok.mp h
    obtain ⟨⟨_, _⟩, his, h⟩ := bind_eq_ok.mp h
    cases h
    have hpeak : peak cfg (i :: is) s = max s.length (peak cfg is r) := by rw [peak, hi]
    have hlen := length_le_peak cfg is r
    have hroom : peak cfg is r + f.length ≤ cfg.maxStackDepth := by omega
    exact bind_eq_ok.mpr ⟨_, perform_above f hi (by omega), bind_eq_ok.mpr ⟨_, ih his hroom, rfl⟩⟩

/-- Instructions go on from what those before them have left. -/
theorem performAll_append {is : List Instr} {xs : List AlignedValue}
    (h : performAll cfg is s = .ok (t, xs)) (js : List Instr) :
    performAll cfg (is ++ js) s = (performAll cfg js t).map fun r => (r.1, xs ++ r.2) := by
  induction is generalizing s xs with
  | nil =>
    cases h
    rw [List.nil_append]
    cases performAll cfg js t <;> rfl
  | cons i is ih =>
    obtain ⟨⟨q, read⟩, hi, h⟩ := bind_eq_ok.mp h
    obtain ⟨⟨_, _⟩, his, h⟩ := bind_eq_ok.mp h
    cases h
    rw [List.cons_append, performAll_cons hi, ih his]
    cases performAll cfg js t with
    | error e => rfl
    | ok r => exact congrArg (fun ys => Except.ok (r.1, ys)) (List.append_assoc _ _ _).symm

end AlignedLedger.Stack
