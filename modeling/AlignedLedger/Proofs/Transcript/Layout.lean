import AlignedLedger.Proofs.Machine.Corrupt

/-! How the stored records of calls are read. What keeps to the documented layout is read as it says, and two
transcripts that do are read as the same one only if they agree in all but the normal form of their values.
Reading takes more than that, and it stumbles over some of what it does not take. -/

namespace AlignedLedger

namespace AlignedValue

variable [Memory]

theorem forall₂_spells_documented_iff {ds : List Datum} {vs : List AlignedValue} :
    List.Forall₂ (Spells .documented) ds vs ↔
      (∀ d ∈ ds, LaidOut d) ∧ List.Forall₂ (Spells .lenient) ds vs :=
  forall₂_iff_and fun _ _ => spells_documented_iff

end AlignedValue

namespace Datum

variable {α : Type} {f : Datum → Except Fault α} {d : Datum}

theorem exists_elements_mapM : (∃ ys, d.elements >>= List.mapM f = .ok ys) ↔
    ∃ ds, d.elements? = some ds ∧ ∀ x ∈ ds, ∃ y, f x = .ok y := by
  simp only [bind_eq_ok, AlignedValue.elements_eq_ok, ← exists_mapM_ok]
  constructor
  · rintro ⟨ys, ds, hds, hys⟩
    exact ⟨ds, hds, ys, hys⟩
  · rintro ⟨ds, hds, ys, hys⟩
    exact ⟨ys, ds, hds, hys⟩

theorem unreported_elements_mapM : Unreported (d.elements >>= List.mapM f) ↔ d.elements? = none ∨
    ∃ before x after, d.elements? = some (before ++ x :: after) ∧ (∀ y ∈ before, ∃ z, f y = .ok z) ∧
      Unreported (f x) := by
  rw [unreported_bind, AlignedValue.unreported_elements]
  simp only [AlignedValue.elements_eq_ok, unreported_mapM, exists_mapM_ok]
  refine or_congr_right ⟨?_, ?_⟩
  · rintro ⟨_, hd, before, x, after, rfl, h⟩
    exact ⟨before, x, after, hd, h⟩
  · rintro ⟨before, x, after, hd, h⟩
    exact ⟨_, hd, before, x, after, rfl, h⟩

end Datum

namespace Instr

variable {cfg : Config} {d d' : Datum} {i : Instr}

/-- How many of the operands are truth values and numbers. They stand in front. -/
def scalars : String → Nat
  | "idx" | "ins" => 2
  | _ => 1

/-- The same name, as many operands, and equal truth values and numbers. -/
def SameOutline (d d' : Datum) : Prop :=
  ∃ name args args', d = .list (.text name :: args) ∧ d' = .list (.text name :: args') ∧
    args.length = args'.length ∧
    Datum.sameList (args.take (scalars name)) (args'.take (scalars name)) = true

variable [Memory]

theorem Spells.sameOutline (h : Spells cfg .documented d i) (h' : Spells cfg .documented d' i) :
    SameOutline d d' := by
  have hflag : ∀ {b : Bool} {x y : Datum}, x.same (.bool b) = true → y.same (.bool b) = true →
      x.same y = true := fun hx hy => Datum.same_of_same rfl hx hy
  have hnumber : ∀ {n : Int} {x y : Datum}, x.same (.int n) = true → y.same (.int n) = true →
      x.same y = true := fun hx hy => Datum.same_of_same rfl hx hy
  cases h with
  | push hp _ he =>
    cases h' with
    | push hp' _ he' =>
      cases he
      cases he'
      exact ⟨_, _, _, rfl, rfl, rfl, Datum.sameList_iff.mpr (.cons (hflag hp hp') .nil)⟩
  | dup hn he =>
    cases h' with
    | dup hn' he' =>
      cases he
      cases he'
      exact ⟨_, _, _, rfl, rfl, rfl, Datum.sameList_iff.mpr (.cons (hnumber hn hn') .nil)⟩
  | idx hp hq _ _ he =>
    cases h' with
    | idx hp' hq' _ _ he' =>
      cases he
      cases he'
      exact ⟨_, _, _, rfl, rfl, rfl,
        Datum.sameList_iff.mpr (.cons (hflag hp hp') (.cons (hflag hq hq') .nil))⟩
  | popeqNothing hp he =>
    cases h' with
    | popeqNothing hp' he' =>
      cases he
      cases he'
      exact ⟨_, _, _, rfl, rfl, rfl, Datum.sameList_iff.mpr (.cons (hflag hp hp') .nil)⟩
  | popeq hp _ he =>
    cases h' with
    | popeq hp' _ he' =>
      cases he
      cases he'
      exact ⟨_, _, _, rfl, rfl, rfl, Datum.sameList_iff.mpr (.cons (hflag hp hp') .nil)⟩
  | ins hp hn he =>
    cases h' with
    | ins hp' hn' he' =>
      cases he
      cases he'
      exact ⟨_, _, _, rfl, rfl, rfl,
        Datum.sameList_iff.mpr (.cons (hflag hp hp') (.cons (hnumber hn hn') .nil))⟩
  | addi hn he =>
    cases h' with
    | addi hn' he' =>
      cases he
      cases he'
      exact ⟨_, _, _, rfl, rfl, rfl, Datum.sameList_iff.mpr (.cons (hnumber hn hn') .nil)⟩

theorem forall₂_spells_documented_iff {ds : List Datum} {is : List Instr} :
    List.Forall₂ (Spells cfg .documented) ds is ↔
      (∀ d ∈ ds, LaidOut d) ∧ List.Forall₂ (Spells cfg .lenient) ds is := by
  refine forall₂_iff_and fun d i => ?_
  rw [spells_documented_iff, ofDatum_eq_ok, and_comm]

end Instr

namespace ProofRecord

variable {cfg : Config} {d d' : Datum} {p : ProofRecord}

section

variable [Memory]

/-- The datum spells the record: a list of the argument, the result, the instructions and what the witnesses
gave. -/
def Spells (cfg : Config) (r : Instr.Reading) (d : Datum) (p : ProofRecord) : Prop :=
  ∃ input output instrs outputs is vs, d = .list [input, output, instrs, outputs] ∧
    AlignedValue.Spells r.toReading input p.input ∧ AlignedValue.Spells r.toReading output p.output ∧
    r.Sequence instrs is ∧ List.Forall₂ (Instr.Spells cfg r) is p.publicTranscript ∧
    r.Sequence outputs vs ∧ List.Forall₂ (AlignedValue.Spells r.toReading) vs p.privateOutputs

/-- All of the parts are laid out as they should be. -/
def LaidOut : Datum → Prop
  | .list [input, output, instrs, outputs] => AlignedValue.LaidOut input ∧ AlignedValue.LaidOut output ∧
    (∃ is, instrs.sequence? = some is ∧ ∀ x ∈ is, Instr.LaidOut x) ∧
    ∃ vs, outputs.sequence? = some vs ∧ ∀ x ∈ vs, AlignedValue.LaidOut x
  | _ => False

/-- The stored instructions of a stored record. -/
def transcript? : Datum → Option (List Datum)
  | .list [_, _, instrs, _] => instrs.sequence?
  | _ => none

theorem ofDatum_eq_ok : ofDatum cfg d = .ok p ↔ Spells cfg .lenient d p := by
  unfold ofDatum
  split
  · next input output instrs outputs =>
    simp only [bind_eq_ok, pure_eq_ok, AlignedValue.ofDatum_eq_ok, AlignedValue.elements_eq_ok, mapM_eq_ok]
    constructor
    · rintro ⟨i, hi, o, ho, is, ⟨ds, hds, his⟩, vs, ⟨es, hes, hvs⟩, ⟨⟩⟩
      have hinstrs := his.imp fun _ _ => Instr.ofDatum_eq_ok.mp
      exact ⟨_, _, _, _, ds, es, rfl, hi, ho, hds, hinstrs, hes, hvs⟩
    · rintro ⟨_, _, _, _, ds, es, ⟨⟩, hi, ho, hds, his, hes, hvs⟩
      have hinstrs := his.imp fun _ _ => Instr.ofDatum_eq_ok.mpr
      exact ⟨_, hi, _, ho, _, ⟨ds, hds, hinstrs⟩, _, ⟨es, hes, hvs⟩, rfl⟩
  · next hd =>
    refine iff_of_false (by simp) ?_
    rintro ⟨_, _, _, _, _, _, rfl, -⟩
    exact hd _ _ _ _ rfl

theorem spells_documented_iff : Spells cfg .documented d p ↔ ofDatum cfg d = .ok p ∧ LaidOut d := by
  rw [ofDatum_eq_ok]
  constructor
  · rintro ⟨input, output, instrs, outputs, is, vs, rfl, hi, ho, his, hinstrs, hvs, houtputs⟩
    obtain ⟨hil, hi⟩ := AlignedValue.spells_documented_iff.mp hi
    obtain ⟨hol, ho⟩ := AlignedValue.spells_documented_iff.mp ho
    obtain ⟨hisl, hinstrs⟩ := Instr.forall₂_spells_documented_iff.mp hinstrs
    obtain ⟨hvsl, houtputs⟩ := AlignedValue.forall₂_spells_documented_iff.mp houtputs
    exact ⟨⟨_, _, _, _, is, vs, rfl, hi, ho, Datum.elements?_of_sequence? his, hinstrs,
      Datum.elements?_of_sequence? hvs, houtputs⟩, hil, hol, ⟨is, his, hisl⟩, vs, hvs, hvsl⟩
  · rintro ⟨⟨input, output, instrs, outputs, is, vs, rfl, hi, ho, his, hinstrs, hvs, houtputs⟩,
      hil, hol, ⟨is', his', hisl⟩, vs', hvs', hvsl⟩
    obtain rfl := Option.some.inj (his.symm.trans (Datum.elements?_of_sequence? his'))
    obtain rfl := Option.some.inj (hvs.symm.trans (Datum.elements?_of_sequence? hvs'))
    exact ⟨_, _, _, _, is, vs, rfl, AlignedValue.spells_documented_iff.mpr ⟨hil, hi⟩,
      AlignedValue.spells_documented_iff.mpr ⟨hol, ho⟩, his',
      Instr.forall₂_spells_documented_iff.mpr ⟨hisl, hinstrs⟩, hvs',
      AlignedValue.forall₂_spells_documented_iff.mpr ⟨hvsl, houtputs⟩⟩

/-- Transcripts that are laid out as they should be are read as the same one only if they agree in the
outlines of their instructions. -/
theorem Spells.sameOutlines (h : Spells cfg .documented d p) (h' : Spells cfg .documented d' p) :
    ∃ is js, transcript? d = some is ∧ transcript? d' = some js ∧
      List.Forall₂ Instr.SameOutline is js := by
  obtain ⟨_, _, _, _, is, _, rfl, -, -, his, hinstrs, -⟩ := h
  obtain ⟨_, _, _, _, js, _, rfl, -, -, hjs, hinstrs', -⟩ := h'
  refine ⟨is, js, his, hjs, ?_⟩
  -- The instructions that were read stand between the two lists of data.
  have hboth := forall₂_comp_iff.mpr ⟨_, hinstrs, hinstrs'.flip⟩
  refine hboth.imp ?_
  rintro x y ⟨i, hx, hy⟩
  exact hx.sameOutline hy

/-- Reading a record stumbles over the datum. What stands in front of the obstacle has been read. -/
inductive StumblesOver (cfg : Config) : Datum → Prop
  | input {input output instrs outputs : Datum} (h : AlignedValue.StumblesOver input) :
      StumblesOver cfg (.list [input, output, instrs, outputs])
  | output {input output instrs outputs : Datum} (hi : ∃ v, AlignedValue.ofDatum input = .ok v)
      (h : AlignedValue.StumblesOver output) : StumblesOver cfg (.list [input, output, instrs, outputs])
  | instrs {input output instrs outputs : Datum} (hi : ∃ v, AlignedValue.ofDatum input = .ok v)
      (ho : ∃ v, AlignedValue.ofDatum output = .ok v) (h : instrs.elements? = none) :
      StumblesOver cfg (.list [input, output, instrs, outputs])
  | instr {input output instrs outputs d : Datum} {before after : List Datum}
      (hi : ∃ v, AlignedValue.ofDatum input = .ok v) (ho : ∃ v, AlignedValue.ofDatum output = .ok v)
      (hd : instrs.elements? = some (before ++ d :: after))
      (hbefore : ∀ x ∈ before, ∃ i, Instr.ofDatum cfg x = .ok i) (h : Instr.StumblesOver cfg d) :
      StumblesOver cfg (.list [input, output, instrs, outputs])
  | outputs {input output instrs outputs : Datum} {is : List Datum}
      (hi : ∃ v, AlignedValue.ofDatum input = .ok v) (ho : ∃ v, AlignedValue.ofDatum output = .ok v)
      (his : instrs.elements? = some is) (hall : ∀ x ∈ is, ∃ i, Instr.ofDatum cfg x = .ok i)
      (h : outputs.elements? = none) : StumblesOver cfg (.list [input, output, instrs, outputs])
  | given {input output instrs outputs d : Datum} {is before after : List Datum}
      (hi : ∃ v, AlignedValue.ofDatum input = .ok v) (ho : ∃ v, AlignedValue.ofDatum output = .ok v)
      (his : instrs.elements? = some is) (hall : ∀ x ∈ is, ∃ i, Instr.ofDatum cfg x = .ok i)
      (hd : outputs.elements? = some (before ++ d :: after))
      (hbefore : ∀ x ∈ before, ∃ v, AlignedValue.ofDatum x = .ok v) (h : AlignedValue.StumblesOver d) :
      StumblesOver cfg (.list [input, output, instrs, outputs])

/-- Each part is read once the one in front of it has been. -/
theorem unreported_parts {input output instrs outputs : Datum} :
    Unreported (ofDatum cfg (.list [input, output, instrs, outputs])) ↔
      Unreported (AlignedValue.ofDatum input) ∨ (∃ v, AlignedValue.ofDatum input = .ok v) ∧
        (Unreported (AlignedValue.ofDatum output) ∨ (∃ v, AlignedValue.ofDatum output = .ok v) ∧
          (Unreported (instrs.elements >>= List.mapM (Instr.ofDatum cfg)) ∨
            (∃ is, instrs.elements >>= List.mapM (Instr.ofDatum cfg) = .ok is) ∧
              Unreported (outputs.elements >>= List.mapM AlignedValue.ofDatum))) := by
  refine unreported_bind_of_forall fun i => unreported_bind_of_forall fun o =>
    unreported_bind_of_forall fun is => ?_
  rw [bind_pure_eq_map, unreported_map]

theorem unreported_of_parts {input output instrs outputs : Datum} :
    Unreported (ofDatum cfg (.list [input, output, instrs, outputs])) ↔
      StumblesOver cfg (.list [input, output, instrs, outputs]) := by
  rw [unreported_parts]
  simp only [Datum.unreported_elements_mapM, Datum.exists_elements_mapM, AlignedValue.unreported_iff,
    Instr.unreported_iff]
  constructor
  · rintro (h | ⟨hi, h | ⟨ho, (h | ⟨_, _, _, hd, hbefore, h⟩) | ⟨⟨_, his, hall⟩, h⟩⟩⟩)
    · exact .input h
    · exact .output hi h
    · exact .instrs hi ho h
    · exact .instr hi ho hd hbefore h
    · rcases h with h | ⟨_, _, _, hd, hbefore, h⟩
      · exact .outputs hi ho his hall h
      · exact .given hi ho his hall hd hbefore h
  · intro h
    cases h with
    | input h => exact .inl h
    | output hi h => exact .inr ⟨hi, .inl h⟩
    | instrs hi ho h => exact .inr ⟨hi, .inr ⟨ho, .inl (.inl h)⟩⟩
    | instr hi ho hd hbefore h => exact .inr ⟨hi, .inr ⟨ho, .inl (.inr ⟨_, _, _, hd, hbefore, h⟩)⟩⟩
    | outputs hi ho his hall h => exact .inr ⟨hi, .inr ⟨ho, .inr ⟨⟨_, his, hall⟩, .inl h⟩⟩⟩
    | given hi ho his hall hd hbefore h =>
      exact .inr ⟨hi, .inr ⟨ho, .inr ⟨⟨_, his, hall⟩, .inr ⟨_, _, _, hd, hbefore, h⟩⟩⟩⟩

theorem unreported_iff : Unreported (ofDatum cfg d) ↔ StumblesOver cfg d := by
  by_cases hd : ∃ input output instrs outputs, d = .list [input, output, instrs, outputs]
  · obtain ⟨_, _, _, _, rfl⟩ := hd
    exact unreported_of_parts
  · have hshape : ofDatum cfg d = .error .proofShape := by
      unfold ofDatum
      split
      · exact absurd ⟨_, _, _, _, rfl⟩ hd
      · rfl
    rw [hshape]
    refine iff_of_false (not_unreported_error rfl rfl) fun h => hd ?_
    cases h <;> exact ⟨_, _, _, _, rfl⟩

theorem unreported_decode {b : Bytes} : Unreported (decode cfg b) ↔
    ∃ item, Cbor.decode? b = some item ∧ StumblesOver cfg item.toDatum := by
  unfold decode
  cases Cbor.decode? b with
  | some item => simp [unreported_iff]
  | none => exact iff_of_false (not_unreported_error rfl rfl) (by simp)

/-- Instructions are read from what spells them under the lenient reading, and from nothing else. What keeps to
the documented layout is read as it says, and what is written of an instruction that was read keeps to it. No
report is made exactly where reading stumbles, whatever the data are and so also for the bytes that the reader
makes data of. Records laid out as they should be are read as the same one only
if their instructions agree in their names, in how many operands they have and in the scalar ones. -/
theorem instructions_read_leniently (cfg : Config) :
    (∀ d i, (Instr.ofDatum cfg d = .ok i ↔ Instr.Spells cfg .lenient d i) ∧
      (Instr.Spells cfg .documented d i ↔ Instr.ofDatum cfg d = .ok i ∧ Instr.LaidOut d) ∧
      (Instr.ofDatum cfg d = .ok i → Instr.Spells cfg .documented i.toItem.toDatum i)) ∧
    (∀ d, (∃ e, Instr.ofDatum cfg d = .error e ∧ ¬ e.IsReported) ↔ Instr.StumblesOver cfg d) ∧
    (∀ d, (∃ e, ofDatum cfg d = .error e ∧ ¬ e.IsReported) ↔ StumblesOver cfg d) ∧
    (∀ b, (∃ e, decode cfg b = .error e ∧ ¬ e.IsReported) ↔
      ∃ item, Cbor.decode? b = some item ∧ StumblesOver cfg item.toDatum) ∧
    (∀ d p, (ofDatum cfg d = .ok p ↔ Spells cfg .lenient d p) ∧
      (Spells cfg .documented d p ↔ ofDatum cfg d = .ok p ∧ LaidOut d)) ∧
    ∀ d d' p, LaidOut d → LaidOut d' → ofDatum cfg d = .ok p → ofDatum cfg d' = .ok p →
      ∃ is js, transcript? d = some is ∧ transcript? d' = some js ∧
        List.Forall₂ Instr.SameOutline is js := by
  refine ⟨fun d i => ⟨Instr.ofDatum_eq_ok, Instr.spells_documented_iff, fun h => ?_⟩,
    fun d => Instr.unreported_iff, fun d => unreported_iff, fun b => unreported_decode,
    fun d p => ⟨ofDatum_eq_ok, spells_documented_iff⟩, fun d d' p hd hd' h h' => ?_⟩
  · have hi : (Step.instr i).WellTyped cfg := (Instr.ofDatum_eq_ok.mp h).wellTyped
    exact Instr.spells_toItem hi
  · have hspells := spells_documented_iff.mpr ⟨h, hd⟩
    have hspells' := spells_documented_iff.mpr ⟨h', hd'⟩
    exact hspells.sameOutlines hspells'

end

/-- A flag written as a number and as a truth value, before a key with a zero at its end, and a count that is
no number. -/
theorem flag_written_as_number :
    let cfg := Config.ofEnvironment fun _ => none
    let key : Datum := .list [.list [.bytes [7, 0]], .list [.list [.text "bytes", .int 2]]]
    let path : Datum := .list [.list [.text "value", key], .list [.text "stack"]]
    let instr (flag : Datum) : Datum := .list [.text "idx", flag, .bool false, path]
    let record (flag : Datum) : Datum :=
      .list [.list [.list [], .list []], key, .list [instr flag, .list [.text "dup", .int (-2)]], .list [key]]
    let stray : Datum := .list [.text "dup", .text "x"]
    ∃ p, ofDatum cfg (record (.int 1)) = .ok p ∧ ofDatum cfg (record (.bool true)) = .ok p ∧
      (∃ is js, transcript? (record (.int 1)) = some is ∧ transcript? (record (.bool true)) = some js ∧
        List.Forall₂ Instr.SameOutline is js) ∧
      ∃ e, Instr.ofDatum cfg stray = .error e ∧ ¬ e.IsReported := by
  intro cfg key path instr record stray
  obtain ⟨p, hp⟩ : ∃ p, ofDatum cfg (record (.int 1)) = .ok p := exists_ok_of_toBool (by decide +kernel)
  have hp' : ofDatum cfg (record (.bool true)) = .ok p := hp
  have hkey : AlignedValue.LaidOut key :=
    ⟨_, _, _, _, rfl, rfl, rfl, by simp [Datum.bytes?], by simpa using ⟨_, _, rfl, rfl⟩⟩
  have hempty : AlignedValue.LaidOut (.list [.list [], .list []]) :=
    ⟨_, _, _, _, rfl, rfl, rfl, by simp, by simp⟩
  have hinstr : ∀ flag, Instr.IsFlag flag → Instr.LaidOut (instr flag) := by
    intro flag hflag
    refine ⟨hflag, ⟨false, by decide⟩, _, rfl, ?_⟩
    simpa using ⟨hkey, trivial⟩
  have hdup : Instr.LaidOut (.list [.text "dup", .int (-2)]) := ⟨-2, by decide⟩
  have hrecord : ∀ flag, Instr.IsFlag flag → LaidOut (record flag) := by
    intro flag hflag
    refine ⟨hempty, hkey, ⟨_, rfl, ?_⟩, _, rfl, by simpa using hkey⟩
    simpa using ⟨hinstr flag hflag, hdup⟩
  obtain ⟨-, hstray, -, -, -, houtlines⟩ := instructions_read_leniently cfg
  refine ⟨p, hp, hp', ?_, ?_⟩
  · have hint := hrecord (.int 1) ⟨true, by decide⟩
    have hbool := hrecord (.bool true) ⟨true, by decide⟩
    exact houtlines _ _ p hint hbool hp hp'
  · have hnone : Text.integer? "x" = none := by decide
    refine (hstray stray).mpr (.inr ⟨.inl rfl, ?_⟩)
    rintro ⟨n, hn⟩
    cases hn with
    | number hn => cases hn
    | numeral hn => cases hnone.symm.trans hn
    | ascii hb _ => cases hb

/-- What follows the operands is dropped without a word. -/
theorem extra_operand_ignored :
    ¬ ∀ (cfg : Config) (d : Datum) (i : Instr), Instr.ofDatum cfg d = .ok i →
      Instr.Spells cfg .documented d i := by
  intro h
  have hread : Instr.ofDatum (Config.ofEnvironment fun _ => none)
      (.list [.text "dup", .int 1, .int 99]) = .ok (.dup 1) := rfl
  have hlaid := (h _ _ _ hread).laidOut
  exact hlaid

end ProofRecord

end AlignedLedger
