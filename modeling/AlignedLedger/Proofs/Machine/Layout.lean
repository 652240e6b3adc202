import AlignedLedger.Proofs.Datum.Sameness
import AlignedLedger.Proofs.Transcript
import AlignedLedger.Proofs.Tree.Layout

/-! The layout of stored instructions, as a relation between data and the instructions that they spell. It
leaves open what counts as a truth value or a number and what may follow the operands, which is where reading
takes more than it is meant to. -/

namespace AlignedLedger

open Cbor (Item)

namespace Datum

variable {d : Datum}

theorem readsAsInt_of_same {i : Int} (h : d.same (.int i) = true) : ReadsAsInt d i := by
  have hnumber : (Datum.int i).number? = some (Binary.ofInt i) := number?_of_integer? rfl
  obtain ⟨x, hx, he⟩ := sameNumber_of_same hnumber h
  have hindex : ∀ j, d.index? = some j → d.number? = some (Binary.ofInt j) → ReadsAsInt d i := by
    intro j hj hd
    obtain rfl := Option.some.inj (hx.symm.trans hd)
    obtain rfl := Binary.equal_ofInt.mp he
    exact .number hj
  cases d with
  | bool b => exact hindex _ rfl rfl
  | int j => exact hindex _ rfl rfl
  | member c n j => exact hindex _ rfl rfl
  | float y =>
    obtain rfl : y = x := Option.some.inj hx
    -- A fraction that equals a whole number has nothing after the point to lose.
    cases y with
    | finite m c e =>
      have hvalue := Binary.equal_finite.mp he
      rw [Binary.value_ofInt] at hvalue
      rw [← Binary.truncate_of_value hvalue]
      exact .fraction m c e
    | infinite m => simp [Binary.equal, Binary.ofInt] at he
    | undefined => simp [Binary.equal] at he
  | _ => simp [number?, index?, integer?] at hx

theorem readsAsInt_unique {i j : Int} (hi : ReadsAsInt d i) (hj : ReadsAsInt d j) : i = j :=
  Except.ok.inj ((toInt_eq_ok.mpr hi).symm.trans (toInt_eq_ok.mpr hj))

end Datum

/-- A condition on the elements on one side, taken out of the relation between both. -/
theorem forall₂_iff_and {α β : Type} {p : α → Prop} {R S : α → β → Prop} {xs : List α} {ys : List β}
    (h : ∀ x y, R x y ↔ p x ∧ S x y) :
    List.Forall₂ R xs ys ↔ (∀ x ∈ xs, p x) ∧ List.Forall₂ S xs ys := by
  rw [← List.forall₂_and_left]
  exact ⟨fun hr => hr.imp fun x y => (h x y).mp, fun hs => hs.imp fun x y => (h x y).mpr⟩

theorem Tree.Built.spells_toItem [Memory] {cfg : Config} {t : Tree} (h : t.Built cfg) :
    Tree.Spells cfg .documented t.toItem.toDatum t :=
  (Tree.ofDatum_eq_ok.mp h.ofDatum_toItem).documented t.laidOut_toItem

theorem AlignedValue.spells_toItem [Memory] (v : AlignedValue) : v.Spells .documented v.toItem.toDatum :=
  spells_documented_iff.mpr ⟨v.laidOut_toItem, ofDatum_eq_ok.mp v.ofDatum_toItem⟩

namespace PathKey

variable [Memory]

variable {d : Datum} {k : PathKey}

/-- The datum spells the key. -/
inductive Spells (r : Reading) : Datum → PathKey → Prop
  | stack : Spells r (.list [.text "stack"]) stack
  | literal {d : Datum} {v : AlignedValue} (hv : v.Spells r d) :
      Spells r (.list [.text "value", d]) (literal v)

/-- A key of the stack, or a literal that is laid out as it should be. -/
def LaidOut : Datum → Prop
  | .list [.text "stack"] => True
  | .list [.text "value", d] => AlignedValue.LaidOut d
  | _ => False

theorem ofDatum_eq_ok : ofDatum d = .ok k ↔ Spells .lenient d k := by
  constructor
  · intro h
    unfold ofDatum at h
    split at h
    · cases h
      exact .stack
    · obtain ⟨v, hv, rfl⟩ := map_eq_ok.mp h
      exact .literal (AlignedValue.ofDatum_eq_ok.mp hv)
    · cases h
  · intro h
    cases h with
    | stack => rfl
    | literal hv => exact map_eq_ok.mpr ⟨_, AlignedValue.ofDatum_eq_ok.mpr hv, rfl⟩

theorem spells_documented_iff : Spells .documented d k ↔ LaidOut d ∧ Spells .lenient d k := by
  constructor
  · intro h
    cases h with
    | stack => exact ⟨trivial, .stack⟩
    | literal hv =>
      obtain ⟨hd, hv⟩ := AlignedValue.spells_documented_iff.mp hv
      exact ⟨hd, .literal hv⟩
  · rintro ⟨hd, h⟩
    cases h with
    | stack => exact .stack
    | literal hv => exact .literal (AlignedValue.spells_documented_iff.mpr ⟨hd, hv⟩)

theorem forall₂_spells_documented_iff {ds : List Datum} {ks : List PathKey} :
    List.Forall₂ (Spells .documented) ds ks ↔
      (∀ d ∈ ds, LaidOut d) ∧ List.Forall₂ (Spells .lenient) ds ks :=
  forall₂_iff_and fun _ _ => spells_documented_iff

theorem spells_toItem (k : PathKey) : Spells .documented k.toItem.toDatum k := by
  cases k with
  | stack => exact .stack
  | literal v => exact .literal v.spells_toItem

end PathKey

namespace Instr

/-- What may stand for a truth value and for a number, and what may follow the operands; below them, what
may stand in an aligned value. -/
structure Reading extends AlignedLedger.Reading where
  Flag : Datum → Bool → Prop
  Number : Datum → Int → Prop
  Excess : List Datum → Prop

namespace Reading

/-- What equals the truth value or the number, and nothing after the operands. -/
def documented : Reading where
  toReading := .documented
  Flag d b := d.same (.bool b) = true
  Number d i := d.same (.int i) = true
  Excess ds := ds = []

/-- All that has a truth value, all that can be made into an integer, and anything after the operands. -/
def lenient [Memory] : Reading where
  toReading := .lenient
  Flag d b := d.truth = b
  Number := Datum.ReadsAsInt
  Excess _ := True

end Reading

variable {cfg : Config} {r : Reading} {d : Datum} {i : Instr} {name : String} {args : List Datum}

/-- The datum spells the instruction: a list of the name and the operands. -/
inductive Spells [Memory] (cfg : Config) (r : Reading) : Datum → Instr → Prop
  | push {p d : Datum} {ds : List Datum} {persist : Bool} {t : Tree} (hp : r.Flag p persist)
      (ht : Tree.Spells cfg r.toReading d t) (he : r.Excess ds) :
      Spells cfg r (.list (.text "push" :: p :: d :: ds)) (push persist t)
  | dup {d : Datum} {ds : List Datum} {n : Int} (hn : r.Number d n) (he : r.Excess ds) :
      Spells cfg r (.list (.text "dup" :: d :: ds)) (dup n)
  | idx {p q path : Datum} {steps ds : List Datum} {persist pushPath : Bool} {keys : List PathKey}
      (hp : r.Flag p persist) (hq : r.Flag q pushPath) (hpath : r.Sequence path steps)
      (hkeys : List.Forall₂ (PathKey.Spells r.toReading) steps keys) (he : r.Excess ds) :
      Spells cfg r (.list (.text "idx" :: p :: q :: path :: ds)) (idx persist pushPath keys)
  | popeqNothing {p : Datum} {ds : List Datum} {persist : Bool} (hp : r.Flag p persist) (he : r.Excess ds) :
      Spells cfg r (.list (.text "popeq" :: p :: .null :: ds)) (popeq persist none)
  | popeq {p d : Datum} {ds : List Datum} {persist : Bool} {v : AlignedValue} (hp : r.Flag p persist)
      (hv : v.Spells r.toReading d) (he : r.Excess ds) :
      Spells cfg r (.list (.text "popeq" :: p :: d :: ds)) (popeq persist (some v))
  | ins {p d : Datum} {ds : List Datum} {persist : Bool} {n : Int} (hp : r.Flag p persist)
      (hn : r.Number d n) (he : r.Excess ds) :
      Spells cfg r (.list (.text "ins" :: p :: d :: ds)) (ins persist n)
  | addi {d : Datum} {ds : List Datum} {n : Int} (hn : r.Number d n) (he : r.Excess ds) :
      Spells cfg r (.list (.text "addi" :: d :: ds)) (addi n)

/-- The datum equals a truth value. -/
def IsFlag (d : Datum) : Prop := ∃ b, d.same (.bool b) = true

/-- The datum equals a whole number. -/
def IsWhole (d : Datum) : Prop := ∃ i, d.same (.int i) = true

/-- A name with all of its operands and no more, each of them laid out as it should be. -/
def LaidOut : Datum → Prop
  | .list [.text "push", p, d] => IsFlag p ∧ Tree.LaidOut d
  | .list [.text "dup", d] => IsWhole d
  | .list [.text "idx", p, q, path] => IsFlag p ∧ IsFlag q ∧
    ∃ steps, path.sequence? = some steps ∧ ∀ s ∈ steps, PathKey.LaidOut s
  | .list [.text "popeq", p, d] => IsFlag p ∧ (d = .null ∨ AlignedValue.LaidOut d)
  | .list [.text "ins", p, d] => IsFlag p ∧ IsWhole d
  | .list [.text "addi", d] => IsWhole d
  | _ => False

/-- The operands that an instruction of this name is read from, or why it is not read. -/
inductive Form [Memory] (cfg : Config) : String → List Datum → Prop
  | push (p d : Datum) (ds : List Datum) : Form cfg "push" (p :: d :: ds)
  | dup (d : Datum) (ds : List Datum) : Form cfg "dup" (d :: ds)
  | idx (p q path : Datum) (ds : List Datum) : Form cfg "idx" (p :: q :: path :: ds)
  | popeq (p d : Datum) (ds : List Datum) : Form cfg "popeq" (p :: d :: ds)
  | ins (p d : Datum) (ds : List Datum) : Form cfg "ins" (p :: d :: ds)
  | addi (d : Datum) (ds : List Datum) : Form cfg "addi" (d :: ds)
  | missing {name : String} {args : List Datum} (h : ofOperands cfg name args = .error .wrongType) :
      Form cfg name args
  | unknown {name : String} {args : List Datum}
      (h : ofOperands cfg name args = .error (.unknownInstructionName (.text name))) : Form cfg name args

theorem form [Memory] (cfg : Config) (name : String) (args : List Datum) : Form cfg name args := by
  by_cases hpush : name = "push"
  · subst hpush
    match args with
    | [] | [_] => exact .missing rfl
    | p :: d :: ds => exact .push p d ds
  by_cases hdup : name = "dup"
  · subst hdup
    match args with
    | [] => exact .missing rfl
    | d :: ds => exact .dup d ds
  by_cases hidx : name = "idx"
  · subst hidx
    match args with
    | [] | [_] | [_, _] => exact .missing rfl
    | p :: q :: path :: ds => exact .idx p q path ds
  by_cases hpopeq : name = "popeq"
  · subst hpopeq
    match args with
    | [] | [_] => exact .missing rfl
    | p :: d :: ds => exact .popeq p d ds
  by_cases hins : name = "ins"
  · subst hins
    match args with
    | [] | [_] => exact .missing rfl
    | p :: d :: ds => exact .ins p d ds
  by_cases haddi : name = "addi"
  · subst haddi
    match args with
    | [] => exact .missing rfl
    | d :: ds => exact .addi d ds
  · refine .unknown ?_
    unfold ofOperands
    split <;> first | contradiction | rfl

section Operands

variable [Memory]

variable {p q path : Datum} {ds : List Datum}

theorem ofOperands_push :
    ofOperands cfg "push" (p :: d :: ds) = (Tree.ofDatum cfg d).map (Instr.push p.truth) :=
  bind_pure_eq_map

theorem ofOperands_dup : ofOperands cfg "dup" (d :: ds) = d.toInt.map Instr.dup := bind_pure_eq_map

theorem ofOperands_idx : ofOperands cfg "idx" (p :: q :: path :: ds) =
    (path.elements >>= List.mapM PathKey.ofDatum).map (Instr.idx p.truth q.truth) := by
  rw [← bind_pure_eq_map, bind_assoc]
  rfl

theorem ofOperands_popeq : ofOperands cfg "popeq" (p :: d :: ds) =
    if d.isNull then .ok (.popeq p.truth none)
    else (AlignedValue.ofDatum d).map fun v => .popeq p.truth (some v) := by
  change (have next := fun r => pure (Instr.popeq p.truth r)
    if d.isNull then pure none >>= next else (AlignedValue.ofDatum d).map some >>= next) = _
  cases hd : d.isNull with
  | true => rfl
  | false => cases hv : AlignedValue.ofDatum d <;> rfl

theorem ofOperands_ins : ofOperands cfg "ins" (p :: d :: ds) = d.toInt.map (Instr.ins p.truth) :=
  bind_pure_eq_map

theorem ofOperands_addi : ofOperands cfg "addi" (d :: ds) = d.toInt.map Instr.addi := bind_pure_eq_map

end Operands

theorem IsFlag.same (h : IsFlag d) : d.same (.bool d.truth) = true := by
  obtain ⟨b, hb⟩ := h
  rwa [Datum.truth_of_same_bool hb]

theorem IsWhole.same {n : Int} (h : IsWhole d) (hn : Datum.ReadsAsInt d n) : d.same (.int n) = true := by
  obtain ⟨m, hm⟩ := h
  rwa [Datum.readsAsInt_unique hn (Datum.readsAsInt_of_same hm)]

variable [Memory]

theorem spells_of_ofOperands (h : ofOperands cfg name args = .ok i) :
    Spells cfg .lenient (.list (.text name :: args)) i := by
  cases form cfg name args with
  | push p d ds =>
    rw [ofOperands_push] at h
    obtain ⟨t, ht, rfl⟩ := map_eq_ok.mp h
    exact .push rfl (Tree.ofDatum_eq_ok.mp ht) trivial
  | dup d ds =>
    rw [ofOperands_dup] at h
    obtain ⟨n, hn, rfl⟩ := map_eq_ok.mp h
    exact .dup (Datum.toInt_eq_ok.mp hn) trivial
  | idx p q path ds =>
    rw [ofOperands_idx] at h
    obtain ⟨keys, hkeys, rfl⟩ := map_eq_ok.mp h
    obtain ⟨steps, hsteps, hkeys⟩ := bind_eq_ok.mp hkeys
    have hspelled := (mapM_eq_ok.mp hkeys).imp fun _ _ => PathKey.ofDatum_eq_ok.mp
    exact .idx rfl rfl (AlignedValue.elements_eq_ok.mp hsteps) hspelled trivial
  | popeq p d ds =>
    rw [ofOperands_popeq] at h
    split at h
    · next hd =>
      cases h
      obtain rfl : d = .null := by
        cases d <;> first | rfl | cases hd
      exact .popeqNothing rfl trivial
    · obtain ⟨v, hv, rfl⟩ := map_eq_ok.mp h
      exact .popeq rfl (AlignedValue.ofDatum_eq_ok.mp hv) trivial
  | ins p d ds =>
    rw [ofOperands_ins] at h
    obtain ⟨n, hn, rfl⟩ := map_eq_ok.mp h
    exact .ins rfl (Datum.toInt_eq_ok.mp hn) trivial
  | addi d ds =>
    rw [ofOperands_addi] at h
    obtain ⟨n, hn, rfl⟩ := map_eq_ok.mp h
    exact .addi (Datum.toInt_eq_ok.mp hn) trivial
  | missing hargs => cases hargs.symm.trans h
  | unknown hname => cases hname.symm.trans h

theorem ofDatum_of_spells (h : Spells cfg .lenient d i) : ofDatum cfg d = .ok i := by
  cases h with
  | push hp ht _ =>
    cases hp
    refine ofDatum_of_ofOperands ?_
    rw [ofOperands_push, Tree.ofDatum_eq_ok.mpr ht, ok_map]
  | dup hn _ =>
    refine ofDatum_of_ofOperands ?_
    rw [ofOperands_dup, Datum.toInt_eq_ok.mpr hn, ok_map]
  | idx hp hq hpath hkeys _ =>
    cases hp
    cases hq
    have hmapM := mapM_eq_ok.mpr (hkeys.imp fun _ _ => PathKey.ofDatum_eq_ok.mpr)
    refine ofDatum_of_ofOperands ?_
    rw [ofOperands_idx, AlignedValue.elements_eq_ok.mpr hpath, ok_bind, hmapM, ok_map]
  | popeqNothing hp _ =>
    cases hp
    exact ofDatum_of_ofOperands rfl
  | @popeq p d ds persist v hp hv _ =>
    cases hp
    have hd : ¬ d.isNull = true := by
      obtain ⟨_, _, _, _, hd, -⟩ := hv
      cases d <;> simp [Datum.isNull, Datum.sequence?] at hd ⊢
    refine ofDatum_of_ofOperands ?_
    rw [ofOperands_popeq, if_neg hd, AlignedValue.ofDatum_eq_ok.mpr hv, ok_map]
  | ins hp hn _ =>
    cases hp
    refine ofDatum_of_ofOperands ?_
    rw [ofOperands_ins, Datum.toInt_eq_ok.mpr hn, ok_map]
  | addi hn _ =>
    refine ofDatum_of_ofOperands ?_
    rw [ofOperands_addi, Datum.toInt_eq_ok.mpr hn, ok_map]

theorem ofDatum_eq_ok : ofDatum cfg d = .ok i ↔ Spells cfg .lenient d i := by
  refine ⟨fun h => ?_, ofDatum_of_spells⟩
  unfold ofDatum at h
  split at h
  · split at h
    · cases h
    · exact spells_of_ofOperands h
  · cases h
  · cases h

theorem Spells.laidOut (h : Spells cfg .documented d i) : LaidOut d := by
  cases h with
  | push hp ht he =>
    cases he
    exact ⟨⟨_, hp⟩, ht.laidOut⟩
  | dup hn he =>
    cases he
    exact ⟨_, hn⟩
  | idx hp hq hpath hkeys he =>
    cases he
    have hsteps := (PathKey.forall₂_spells_documented_iff.mp hkeys).1
    exact ⟨⟨_, hp⟩, ⟨_, hq⟩, _, hpath, hsteps⟩
  | popeqNothing hp he =>
    cases he
    exact ⟨⟨_, hp⟩, .inl rfl⟩
  | popeq hp hv he =>
    cases he
    exact ⟨⟨_, hp⟩, .inr (AlignedValue.spells_documented_iff.mp hv).1⟩
  | ins hp hn he =>
    cases he
    exact ⟨⟨_, hp⟩, _, hn⟩
  | addi hn he =>
    cases he
    exact ⟨_, hn⟩

theorem Spells.lenient (h : Spells cfg .documented d i) : Spells cfg .lenient d i := by
  cases h with
  | push hp ht _ => exact .push (Datum.truth_of_same_bool hp) ht.lenient trivial
  | dup hn _ => exact .dup (Datum.readsAsInt_of_same hn) trivial
  | idx hp hq hpath hkeys _ =>
    have hspelled := (PathKey.forall₂_spells_documented_iff.mp hkeys).2
    exact .idx (Datum.truth_of_same_bool hp) (Datum.truth_of_same_bool hq)
      (Datum.elements?_of_sequence? hpath) hspelled trivial
  | popeqNothing hp _ => exact .popeqNothing (Datum.truth_of_same_bool hp) trivial
  | popeq hp hv _ =>
    exact .popeq (Datum.truth_of_same_bool hp) (AlignedValue.spells_documented_iff.mp hv).2 trivial
  | ins hp hn _ => exact .ins (Datum.truth_of_same_bool hp) (Datum.readsAsInt_of_same hn) trivial
  | addi hn _ => exact .addi (Datum.readsAsInt_of_same hn) trivial

/-- Where anything may follow the operands, the layout says that nothing does. -/
theorem Spells.documented (h : Spells cfg .lenient d i) (hd : LaidOut d) : Spells cfg .documented d i := by
  cases h with
  | @push p d ds persist t hp ht _ =>
    cases hp
    cases ds with
    | nil => exact .push hd.1.same (ht.documented hd.2) rfl
    | cons => exact hd.elim
  | @dup d ds n hn _ =>
    cases ds with
    | nil => exact .dup (IsWhole.same hd hn) rfl
    | cons => exact hd.elim
  | @idx p q path steps ds persist pushPath keys hp hq hpath hkeys _ =>
    cases hp
    cases hq
    cases ds with
    | nil =>
      obtain ⟨hp, hq, steps', hpath', hsteps⟩ := hd
      obtain rfl := Option.some.inj (hpath.symm.trans (Datum.elements?_of_sequence? hpath'))
      have hspelled := PathKey.forall₂_spells_documented_iff.mpr ⟨hsteps, hkeys⟩
      exact .idx hp.same hq.same hpath' hspelled rfl
    | cons => exact hd.elim
  | @popeqNothing p ds persist hp _ =>
    cases hp
    cases ds with
    | nil => exact .popeqNothing hd.1.same rfl
    | cons => exact hd.elim
  | @popeq p d ds persist v hp hv _ =>
    cases hp
    cases ds with
    | nil =>
      obtain ⟨hp, rfl | hd⟩ := hd
      · obtain ⟨_, _, _, _, ⟨⟩, -⟩ := hv
      · exact .popeq hp.same (AlignedValue.spells_documented_iff.mpr ⟨hd, hv⟩) rfl
    | cons => exact hd.elim
  | @ins p d ds persist n hp hn _ =>
    cases hp
    cases ds with
    | nil => exact .ins hd.1.same (hd.2.same hn) rfl
    | cons => exact hd.elim
  | @addi d ds n hn _ =>
    cases ds with
    | nil => exact .addi (IsWhole.same hd hn) rfl
    | cons => exact hd.elim

theorem spells_documented_iff : Spells cfg .documented d i ↔ ofDatum cfg d = .ok i ∧ LaidOut d :=
  ⟨fun h => ⟨ofDatum_of_spells h.lenient, h.laidOut⟩, fun h => (ofDatum_eq_ok.mp h.1).documented h.2⟩

/-- What an instruction is read from matters for its tree only: that one keeps to the caps. -/
theorem Spells.wellTyped (h : Spells cfg r d i) : (Step.instr i).WellTyped cfg := by
  cases h with
  | push _ ht _ => exact ht.built
  | _ => trivial

theorem spells_toItem (hi : (Step.instr i).WellTyped cfg) : Spells cfg .documented i.toItem.toDatum i := by
  have hint : ∀ n : Int, (Datum.int n).same (.int n) = true := fun n => Datum.same_of_integer? rfl rfl
  cases i with
  | push persist t => exact .push (Datum.same_bool persist) (Tree.Built.spells_toItem hi) rfl
  | dup n => exact .dup (hint n) rfl
  | idx persist pushPath path =>
    rw [toItem]
    simp only [Item.toDatum_array, List.map_cons, List.map_nil, List.map_map]
    refine .idx (Datum.same_bool persist) (Datum.same_bool pushPath) rfl ?_ rfl
    rw [List.forall₂_map_left_iff, List.forall₂_same]
    exact fun k _ => k.spells_toItem
  | popeq persist result =>
    cases result with
    | none => exact .popeqNothing (Datum.same_bool persist) rfl
    | some v => exact .popeq (Datum.same_bool persist) v.spells_toItem rfl
  | ins persist n => exact .ins (Datum.same_bool persist) (hint n) rfl
  | addi n => exact .addi (hint n) rfl

end Instr

end AlignedLedger
