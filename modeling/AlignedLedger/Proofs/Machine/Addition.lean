import AlignedLedger.Proofs.Machine.Execution
import AlignedLedger.Proofs.Machine.WellFormed
import AlignedLedger.Proofs.Tree.Corrupt
import Mathlib.Algebra.Ring.Int.Defs

/-! Adding to the number in a cell. A sum that the slot has room for takes the place of the number, and no
other sum is ever put there: there is no wrapping around. -/

namespace AlignedLedger

namespace AlignedValue

variable {v w : AlignedValue} {a : Atom} {width k n m : Nat}

/-- A slot of some width holds the numbers below a bound, each in one way. -/
theorem ofSegments_ofNat_eq_ok (ha : a.width? = some width) :
    ofSegments [LittleEndian.ofNat k] [a] = .ok w ↔
      k < 256 ^ width ∧ w.alignment = [a] ∧ w.toNat? = some k := by
  have hnormal : a.normalize (LittleEndian.ofNat k) = LittleEndian.ofNat k := by
    rw [Atom.normalize, ha]
    exact Bytes.stripZeros_of_trimmed (LittleEndian.trimmed_ofNat k)
  rw [ofSegments_eq_ok]
  constructor
  · rintro ⟨hsegments, halign⟩
    obtain ⟨segment, hholds, rfl⟩ := exists_of_alignment_singleton halign.symm
    have hsegment : segment = LittleEndian.ofNat k := by
      rw [← hnormal]
      exact (List.forall₂_cons.mp hsegments).1
    subst hsegment
    have hfits : LittleEndian.Fits width k := by
      rw [Atom.Holds, ha] at hholds
      exact hholds.1
    exact ⟨LittleEndian.fits_iff.mp hfits, rfl,
      toNat?_eq_some_iff.mpr ⟨_, width, rfl, ha, LittleEndian.toNat_ofNat k⟩⟩
  · rintro ⟨-, halign, hk⟩
    obtain ⟨s, width', rfl, hwidth, rfl⟩ := toNat?_eq_some_iff.mp hk
    obtain rfl : s.atom = a := List.singleton_inj.mp halign
    have htrimmed : s.segment.Trimmed := by
      have hholds := s.holds
      rw [Atom.Holds, hwidth] at hholds
      exact hholds.2
    refine ⟨List.forall₂_cons.mpr ⟨?_, .nil⟩, rfl⟩
    rw [hnormal, LittleEndian.ofNat_toNat htrimmed]

theorem exists_of_lt (ha : a.width? = some width) (hk : k < 256 ^ width) :
    ∃ w : AlignedValue, w.alignment = [a] ∧ w.toNat? = some k := by
  have hholds : a.Holds (LittleEndian.ofNat k) := by
    rw [Atom.Holds, ha]
    exact ⟨LittleEndian.fits_iff.mpr hk, LittleEndian.trimmed_ofNat k⟩
  exact ⟨⟨[⟨a, LittleEndian.ofNat k, hholds⟩]⟩, rfl,
    toNat?_eq_some_iff.mpr ⟨_, width, rfl, ha, LittleEndian.toNat_ofNat k⟩⟩

theorem addNat_eq_ok :
    v.addNat n = .ok w ↔ ∃ a width m, v.alignment = [a] ∧ a.width? = some width ∧ v.toNat? = some m ∧
      m + n < 256 ^ width ∧ w.alignment = [a] ∧ w.toNat? = some (m + n) := by
  rw [addNat, bind_eq_ok]
  constructor
  · rintro ⟨m, hm, hw⟩
    rw [toNat_eq_ok] at hm
    obtain ⟨s, width, rfl, hwidth, -⟩ := toNat?_eq_some_iff.mp hm
    exact ⟨s.atom, width, m, rfl, hwidth, hm, (ofSegments_ofNat_eq_ok hwidth).mp hw⟩
  · rintro ⟨a, width, m, halign, hwidth, hm, hw⟩
    refine ⟨m, toNat_eq_ok.mpr hm, ?_⟩
    rw [halign]
    exact (ofSegments_ofNat_eq_ok hwidth).mpr hw

theorem exists_addNat :
    (∃ w, v.addNat n = .ok w) ↔ ∃ a width m, v.alignment = [a] ∧ a.width? = some width ∧
      v.toNat? = some m ∧ m + n < 256 ^ width := by
  simp only [addNat_eq_ok]
  constructor
  · rintro ⟨w, a, width, m, halign, hwidth, hm, hlt, -⟩
    exact ⟨a, width, m, halign, hwidth, hm, hlt⟩
  · rintro ⟨a, width, m, halign, hwidth, hm, hlt⟩
    obtain ⟨w, hw, hn⟩ := exists_of_lt hwidth hlt
    exact ⟨w, a, width, m, halign, hwidth, hm, hlt, hw, hn⟩

/-- What fits in the end has fitted on the way. -/
theorem addNat_add :
    v.addNat (n + m) = .ok w ↔ ∃ u, v.addNat n = .ok u ∧ u.addNat m = .ok w := by
  simp only [addNat_eq_ok]
  constructor
  · rintro ⟨a, width, k, halign, hwidth, hk, hlt, hw, hsum⟩
    have hpart : k + n < 256 ^ width := by omega
    obtain ⟨u, hu, hn⟩ := exists_of_lt hwidth hpart
    rw [← Nat.add_assoc] at hlt hsum
    exact ⟨u, ⟨a, width, k, halign, hwidth, hk, hpart, hu, hn⟩, a, width, k + n, hu, hwidth, hn, hlt, hw, hsum⟩
  · rintro ⟨u, ⟨a, width, k, halign, hwidth, hk, -, hu, hn⟩, b, width', k', hu', hwidth', hn', hlt, hw, hsum⟩
    obtain rfl : b = a := List.singleton_inj.mp (hu'.symm.trans hu)
    obtain rfl : width' = width := Option.some.inj (hwidth'.symm.trans hwidth)
    obtain rfl : k' = k + n := Option.some.inj (hn'.symm.trans hn)
    rw [Nat.add_assoc] at hlt hsum
    exact ⟨_, width', k, halign, hwidth, hk, hlt, hw, hsum⟩

/-- What is told of a sum that is refused is an atom of the value, and cells have no such long ones that
there would be no message. -/
theorem not_unreported_addNat (hv : v.binaryLength < 2 ^ 64) : ¬ Unreported (v.addNat n) := by
  have hlength : ∀ a ∈ v.alignment, a.length < 2 ^ 64 := fun a ha =>
    Nat.lt_of_le_of_lt (length_le_binaryLength ha) hv
  rw [addNat, unreported_bind]
  rintro (h | ⟨m, -, h⟩)
  · rw [toNat] at h
    split at h
    · exact not_unreported_ok _ h
    · exact unreported_error.mp h (Fault.isReported_of_spelled_lengths rfl rfl hlength)
  · obtain ⟨-, before, b, a, after, hzip, -, -, hwritable⟩ := unreported_ofSegments.mp h
    have hmem : (b, a) ∈ [LittleEndian.ofNat (m + n)].zip v.alignment := by
      rw [hzip]
      simp
    have ha : (Datum.int a.length).isWritable = true :=
      Datum.isWritable_natCast (hlength a (List.of_mem_zip hmem).2)
    rw [ha] at hwritable
    cases hwritable

end AlignedValue

/-- The tree is a cell of a single slot of this width, and the number stands in it. -/
def Tree.Numeral (t : Tree) (a : Atom) (width n : Nat) : Prop :=
  ∃ v, t = .cell v ∧ v.alignment = [a] ∧ a.width? = some width ∧ v.toNat? = some n

theorem Tree.numeral_singleton_iff {slot : Slot} {a : Atom} {width n : Nat} :
    (Tree.cell ⟨[slot]⟩).Numeral a width n ↔
      slot.atom = a ∧ a.width? = some width ∧ LittleEndian.toNat slot.segment = n := by
  constructor
  · rintro ⟨_, ⟨⟩, halign, hwidth, hn⟩
    obtain ⟨_, _, ⟨⟩, -, hn⟩ := AlignedValue.toNat?_eq_some_iff.mp hn
    exact ⟨List.singleton_inj.mp halign, hwidth, hn⟩
  · rintro ⟨rfl, hwidth, hn⟩
    exact ⟨_, rfl, rfl, hwidth, AlignedValue.toNat?_eq_some_iff.mpr ⟨slot, width, rfl, hwidth, hn⟩⟩

namespace Stack

variable {cfg : Config} {s t : Stack} {n m : Nat}

theorem natCast_add_lt_pow {m n width : Nat} :
    (m : Int) + (n : Int) < 256 ^ width ↔ m + n < 256 ^ width := by
  have hpow : ((256 ^ width : Nat) : Int) = 256 ^ width := Int.natCast_pow 256 width
  rw [← hpow, ← Int.natCast_add, Int.ofNat_lt]

variable [Memory]

theorem addi_natCast (cfg : Config) (n : Nat) (s : Stack) :
    addi cfg n s = popCell .addi s >>= fun p => match p.1.addNat n with
      | .ok w => Tree.makeCell cfg w >>= fun t => push cfg t p.2
      | .error cause => .error (.addiRejected cause) := rfl

theorem addi_eq_ok :
    addi cfg n s = .ok t ↔ ∃ v w q, s = .cell v :: q ∧ v.addNat n = .ok w ∧
      w.binaryLength ≤ cfg.maxCellBytes ∧ q.length < cfg.maxStackDepth ∧ t = .cell w :: q := by
  rw [addi_natCast, bind_eq_ok]
  constructor
  · rintro ⟨⟨v, q⟩, hv, h⟩
    dsimp only at h
    split at h
    · next w hw =>
      obtain ⟨_, hcell, hpush⟩ := bind_eq_ok.mp h
      obtain ⟨hsize, rfl⟩ := Tree.makeCell_eq_ok.mp hcell
      obtain ⟨hroom, rfl⟩ := push_eq_ok.mp hpush
      exact ⟨v, w, q, popCell_eq_ok.mp hv, hw, hsize, hroom, rfl⟩
    · cases h
  · rintro ⟨v, w, q, rfl, hw, hsize, hroom, rfl⟩
    refine ⟨(v, q), popCell_eq_ok.mpr rfl, ?_⟩
    simp only [hw]
    exact bind_eq_ok.mpr ⟨_, Tree.makeCell_eq_ok.mpr ⟨hsize, rfl⟩, push_eq_ok.mpr ⟨hroom, rfl⟩⟩

/-- The room that a cell takes up does not change with the number in it, so one addition is refused where
two are. -/
theorem addi_add :
    addi cfg (n + m : Nat) s = .ok t ↔ ∃ r, addi cfg n s = .ok r ∧ addi cfg m r = .ok t := by
  simp only [addi_eq_ok]
  constructor
  · rintro ⟨v, w, q, rfl, hw, hsize, hroom, rfl⟩
    obtain ⟨u, hu, hrest⟩ := AlignedValue.addNat_add.mp hw
    have hu' : u.binaryLength ≤ cfg.maxCellBytes := by
      rwa [← AlignedValue.binaryLength_addNat hrest]
    exact ⟨_, ⟨v, u, q, rfl, hu, hu', hroom, rfl⟩, u, w, q, rfl, hrest, hsize, hroom, rfl⟩
  · rintro ⟨_, ⟨v, u, q, rfl, hu, -, hroom, rfl⟩, _, w, _, ⟨⟩, hrest, hsize, -, rfl⟩
    exact ⟨v, w, q, rfl, AlignedValue.addNat_add.mpr ⟨u, hu, hrest⟩, hsize, hroom, rfl⟩

variable {u : Tree} {i : Int}

/-- On a stack with no more entries than there may be, the slot alone decides. -/
theorem exists_addi_iff (hu : u.Built cfg) (hs : (u :: s).length ≤ cfg.maxStackDepth) :
    (∃ t, addi cfg i (u :: s) = .ok t) ↔
      0 ≤ i ∧ ∃ a width m, u.Numeral a width m ∧ (m : Int) + i < 256 ^ width := by
  cases i with
  | negSucc n => exact iff_of_false (by rintro ⟨t, ⟨⟩⟩) (by rintro ⟨hn, -⟩; omega)
  | ofNat n =>
    have hroom : s.length < cfg.maxStackDepth := hs
    constructor
    · rintro ⟨t, ht⟩
      obtain ⟨v, w, q, ⟨⟩, hw, -⟩ := addi_eq_ok.mp ht
      obtain ⟨a, width, m, halign, hwidth, hm, hlt, -⟩ := AlignedValue.addNat_eq_ok.mp hw
      exact ⟨Int.natCast_nonneg n, a, width, m, ⟨v, rfl, halign, hwidth, hm⟩,
        natCast_add_lt_pow.mpr hlt⟩
    · rintro ⟨-, a, width, m, ⟨v, rfl, halign, hwidth, hm⟩, hlt⟩
      have hsum : m + n < 256 ^ width := natCast_add_lt_pow.mp hlt
      obtain ⟨w, hw⟩ := AlignedValue.exists_addNat.mpr ⟨a, width, m, halign, hwidth, hm, hsum⟩
      have hsize : w.binaryLength ≤ cfg.maxCellBytes := by
        rw [AlignedValue.binaryLength_addNat hw]
        exact Tree.built_cell_iff.mp hu
      exact ⟨_, addi_eq_ok.mpr ⟨v, w, s, rfl, hw, hsize, hroom, rfl⟩⟩

theorem numeral_of_addi (h : addi cfg i (u :: s) = .ok t) :
    ∃ a width m, ∃ k : Nat, ∃ x, u.Numeral a width m ∧ x.Numeral a width k ∧ (k : Int) = m + i ∧ t = x :: s := by
  cases i with
  | negSucc n => cases h
  | ofNat n =>
    obtain ⟨v, w, q, ⟨⟩, hw, -, -, rfl⟩ := addi_eq_ok.mp h
    obtain ⟨a, width, m, halign, hwidth, hm, -, hw, hk⟩ := AlignedValue.addNat_eq_ok.mp hw
    exact ⟨a, width, m, m + n, .cell w, ⟨v, rfl, halign, hwidth, hm⟩, ⟨w, rfl, hw, hwidth, hk⟩, rfl, rfl⟩

/-- Whatever else is on top of the stack, a report is made of it. -/
theorem isReported_of_addi {e : Fault} (hu : u.Built cfg) (hcap : cfg.maxCellBytes < 2 ^ 64)
    (h : addi cfg i (u :: s) = .error e) : e.kind = .structural ∧ e.IsReported := by
  cases i with
  | negSucc n =>
    cases h
    exact ⟨rfl, Fault.isReported_of_spelled_nil rfl rfl⟩
  | ofNat n =>
    cases u with
    | cell v =>
      have hv : v.binaryLength ≤ cfg.maxCellBytes := Tree.built_cell_iff.mp hu
      have haddi := addi_natCast cfg n (.cell v :: s)
      rw [popCell_eq_ok.mpr rfl, ok_bind] at haddi
      dsimp only at haddi
      cases hw : v.addNat n with
      | ok w =>
        have hcell : Tree.makeCell cfg w = .ok (.cell w) :=
          Tree.makeCell_eq_ok.mpr ⟨(AlignedValue.binaryLength_addNat hw).le.trans hv, rfl⟩
        rw [hw] at haddi
        dsimp only at haddi
        rw [hcell, ok_bind, push] at haddi
        have hfull := haddi.symm.trans h
        split at hfull
        · cases hfull
        · cases hfull
          exact ⟨rfl, Fault.isReported_of_spelled_nil rfl rfl⟩
      | error cause =>
        have hcause : cause.IsReported := by
          by_contra hno
          exact AlignedValue.not_unreported_addNat (Nat.lt_of_le_of_lt hv hcap) ⟨cause, hw, hno⟩
        rw [hw] at haddi
        cases haddi.symm.trans h
        exact ⟨rfl, Fault.isReported_iff.mpr ⟨rfl, (Fault.isReported_iff.mp hcause).2⟩⟩
    | _ =>
      cases h
      exact ⟨rfl, Fault.isReported_of_spelled_nil rfl rfl⟩

end Stack

namespace Machine

variable {cfg : Config} {s : Stack} {reads : List AlignedValue}

section

variable [Memory]

/-- Every stack that instructions come to is within its bounds. -/
theorem sound_of_execute {rates : Tariff} {position used : Nat} {is : List Instr} {root : Tree}
    (hdepth : 1 ≤ cfg.maxStackDepth) (hroom : cfg.maxCellBytes ≤ Memory.available)
    (hroot : root.Built cfg) (his : ∀ i ∈ is, (Step.instr i).WellTyped cfg)
    (h : execute cfg rates position used is [root] = .ok (s, reads)) :
    s.length ≤ cfg.maxStackDepth ∧ ∀ t ∈ s, t.Built cfg := by
  obtain ⟨⟨⟨t, rs, executed⟩, m⟩, hsteps, ⟨⟩⟩ := map_eq_ok.mp h
  have hc : Course.Sound cfg ⟨⟨none, used⟩, [root], []⟩ := by simpa [Course.Sound] using ⟨hdepth, hroot⟩
  have htyped : ∀ op ∈ Program.ofInstrs is, op.WellTyped cfg := List.forall_mem_map.mpr his
  have hfollows := Follows.steps hc (fun _ _ => trivial) hroom rates.stopsWithin_true position htyped
    fun _ _ _ _ _ _ _ => trivial
  unfold Follows at hfollows
  rw [attempt_eq_ok.mp hsteps] at hfollows
  obtain ⟨c, -, hs, -, hsound⟩ := hfollows
  obtain hs : c.stack = t := hs
  rw [← hs]
  exact ⟨hsound.length_le, hsound.built⟩

theorem execute_addi {prices : CostModel} (hp : prices.Payable) (cfg : Config) (position used : Nat)
    (i : Int) (s : Stack) :
    execute cfg prices.tariff position used [.addi i] s = (s.addi cfg i).map fun t => (t, []) := by
  rw [execute_eq_performAll hp, Stack.performAll_of_quiet rfl]

/-- An immediate is added just where the top is a cell of a single slot of some width that has room for the
sum; the sum then stands in a slot of the same kind, and the rest of the stack is as it was. Anything else is
refused as an error of structure. The top has to be well formed and the stack no deeper than it may be, which
is so of all stacks that well-formed instructions come to. Adding in two parts is adding at once. -/
theorem addi_never_wraps (env : Environment) {prices : CostModel} (hp : prices.Payable)
    (position used : Nat) :
    let cfg := Config.ofEnvironment env
    let left := execute cfg prices.tariff position used
    (∀ (i : Int) (t : Tree) (s : Stack), t.WellFormed cfg → (t :: s).length ≤ cfg.maxStackDepth →
      ((∃ x, left [.addi i] (t :: s) = .ok x) ↔
        0 ≤ i ∧ ∃ a width m, t.Numeral a width m ∧ (m : Int) + i < 256 ^ width) ∧
      (∀ x, left [.addi i] (t :: s) = .ok x → ∃ a width m, ∃ k : Nat, ∃ u,
        t.Numeral a width m ∧ u.Numeral a width k ∧ (k : Int) = m + i ∧ x = (u :: s, [])) ∧
      ∀ e, left [.addi i] (t :: s) = .error e → e.told.kind = .structural) ∧
    (∀ (is : List Instr) (root : Tree) (s : Stack) reads, root.WellFormed cfg →
      (∀ i ∈ is, (Step.instr i).WellFormed cfg) → left is [root] = .ok (s, reads) →
        s.length ≤ cfg.maxStackDepth ∧ ∀ t ∈ s, t.WellFormed cfg) ∧
    ∀ (i j : Int) (s : Stack) x, 0 ≤ i → 0 ≤ j →
      (left [.addi i, .addi j] s = .ok x ↔ left [.addi (i + j)] s = .ok x) := by
  intro cfg left
  have hdepth : 1 ≤ cfg.maxStackDepth := Config.one_le_maxStackDepth env
  have hroom : cfg.maxCellBytes ≤ Memory.available := Config.maxCellBytes_le_available env
  have hcap : cfg.maxCellBytes < 2 ^ 64 := Config.maxCellBytes_lt_two_pow env
  have haddi : ∀ i s, left [.addi i] s = (s.addi cfg i).map fun t => (t, []) :=
    fun i s => execute_addi hp cfg position used i s
  refine ⟨fun i t s ht hs => ?_, fun is root s reads hroot his h => ?_, fun i j s x hi hj => ?_⟩
  · rw [haddi]
    refine ⟨?_, fun x hx => ?_, fun e he => ?_⟩
    · rw [exists_map]
      exact Stack.exists_addi_iff ht.built hs
    · obtain ⟨q, hq, rfl⟩ := map_eq_ok.mp hx
      obtain ⟨a, width, m, k, u, ht, hu, hk, rfl⟩ := Stack.numeral_of_addi hq
      exact ⟨a, width, m, k, u, ht, hu, hk, rfl⟩
    · obtain ⟨hkind, hreported⟩ := Stack.isReported_of_addi ht.built hcap (map_eq_error.mp he)
      rw [Fault.told_of_isReported hreported, hkind]
  · have htyped : ∀ i ∈ is, (Step.instr i).WellTyped cfg := fun i hi => (his i hi).wellTyped
    obtain ⟨hl, hb⟩ := sound_of_execute hdepth hroom hroot.built htyped h
    exact ⟨hl, fun t ht => (hb t ht).wellFormed⟩
  · obtain ⟨n, rfl⟩ := Int.eq_ofNat_of_zero_le hi
    obtain ⟨m, rfl⟩ := Int.eq_ofNat_of_zero_le hj
    obtain ⟨t, reads⟩ := x
    rw [execute_of_quiet hp rfl, execute_pair_of_quiet hp rfl fun _ => rfl, ← Int.natCast_add,
      Stack.addi_add]

end

/-- A byte is filled to its bound, at once and in two parts, and takes nothing more; a slot without room
takes only zero. -/
theorem addi_at_the_bound :
    let cfg := Config.ofEnvironment fun _ => none
    let left := execute cfg Tariff.standard 0 0
    let low : Tree := .cell ⟨[⟨.bytes 1, [250], by decide⟩]⟩
    let empty : Tree := .cell ⟨[⟨.bytes 0, [], by decide⟩]⟩
    low.WellFormed cfg ∧ empty.WellFormed cfg ∧
      (∃ x, left [.addi 2, .addi 3] [low, .null] = .ok x ∧ left [.addi (2 + 3)] [low, .null] = .ok x) ∧
      (∃ e, left [.addi 6] [low, .null] = .error e ∧ e.told.kind = .structural) ∧
      (∃ x, left [.addi 0] [empty] = .ok x) ∧ (¬ ∃ x, left [.addi 1] [empty] = .ok x) ∧
      left [.push false low] [.null] = .ok ([low, .null], []) ∧ [low, .null].length ≤ cfg.maxStackDepth := by
  intro cfg left low empty
  have hlow : low.WellFormed cfg := (Tree.built_cell_iff.mpr (by decide)).wellFormed
  have hempty : empty.WellFormed cfg := (Tree.built_cell_iff.mpr (by decide)).wellFormed
  obtain ⟨hadd, hreach, hpair⟩ := addi_never_wraps (fun _ => none) CostModel.payable_standard 0 0
  obtain ⟨x, hx⟩ := (hadd (2 + 3) low [.null] hlow (by decide)).1.mpr
    ⟨by decide, .bytes 1, 1, 250, Tree.numeral_singleton_iff.mpr ⟨rfl, rfl, rfl⟩, by decide⟩
  obtain ⟨hfits, -, hrefused⟩ := hadd 6 low [.null] hlow (by decide)
  have hpush : left [.push false low] [.null] = .ok ([low, .null], []) := rfl
  have hpushed : ∀ i ∈ [Instr.push false low], (Step.instr i).WellFormed cfg :=
    List.forall_mem_singleton.mpr hlow
  have hdepth := (hreach _ .null _ _ .null hpushed hpush).1
  refine ⟨hlow, hempty, ⟨x, (hpair 2 3 _ x (by decide) (by decide)).mpr hx, hx⟩, ?_, ?_, ?_, hpush, hdepth⟩
  · cases h : left [.addi 6] [low, .null] with
    | ok x =>
      obtain ⟨-, a, width, m, hm, hlt⟩ := hfits.mp ⟨x, h⟩
      obtain ⟨rfl, ⟨⟩, rfl⟩ := Tree.numeral_singleton_iff.mp hm
      exact absurd hlt (by decide)
    | error e => exact ⟨e, rfl, hrefused e h⟩
  · exact (hadd 0 empty [] hempty (by decide)).1.mpr
      ⟨by decide, .bytes 0, 0, 0, Tree.numeral_singleton_iff.mpr ⟨rfl, rfl, rfl⟩, by decide⟩
  · intro h
    obtain ⟨-, a, width, m, hm, hlt⟩ := (hadd 1 empty [] hempty (by decide)).1.mp h
    obtain ⟨rfl, ⟨⟩, rfl⟩ := Tree.numeral_singleton_iff.mp hm
    exact absurd hlt (by decide)

end Machine

end AlignedLedger
