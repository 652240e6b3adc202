import AlignedLedger.Proofs.Board.History
import AlignedLedger.Proofs.Board.Kept
import AlignedLedger.Proofs.Machine.WellFormed
import AlignedLedger.Proofs.Tree.StoredLength

/-! Boards as they are stored. What a fresh board and the circuits leave is sound, and no larger than its
stored form can be, so it is read back as it was. -/

namespace AlignedLedger

variable [Memory]

/-- The tree is one that the constructors made, and what is charged for it is what it takes up. -/
structure ChargedState.Sound (cfg : Config) (s : ChargedState) : Prop where
  built : s.tree.Built cfg
  charged : s.charged = s.tree.storageSize

theorem ChargedState.sound_ofTree {cfg : Config} {t : Tree} (h : t.Built cfg) :
    (ChargedState.ofTree t).Sound cfg := ⟨h, rfl⟩

namespace Board

open Call

variable {env : Environment} {c : CallContext} {s : ChargedState} {t : Tree} {ws : Witnesses View}

section Sound

/-- The state that the call works on is sound. -/
abbrev OnSound (cfg : Config) (s : CallState) : Prop := s.context.current.Sound cfg

/-- A program leaves the tree that it ends with. -/
theorem query_sound {p : Program} (hp : ∀ op ∈ p, op.WellTyped (.ofEnvironment env)) :
    Keeps (OnSound (.ofEnvironment env)) (query (.ofEnvironment env) p) := by
  intro s v s' h hs
  obtain ⟨o, gas, r, hrun, -, -, rfl⟩ := query_eq_ok.mp h
  obtain ⟨htree, -⟩ := Machine.built_of_run (Config.one_le_maxStackDepth env)
    (Config.maxCellBytes_le_available env) hs.built hp hrun
  exact ChargedState.sound_ofTree htree

theorem wellTyped_writeProgram {cfg : Config} {slot : Slot} {value : Datum} {p : Program}
    (h : slot.writeProgram cfg value = .ok p) : ∀ op ∈ p, op.WellTyped cfg := by
  obtain ⟨key, hkey, h⟩ := bind_eq_ok.mp h
  obtain ⟨a, -, h⟩ := bind_eq_ok.mp h
  obtain ⟨cell, hcell, ⟨⟩⟩ := bind_eq_ok.mp h
  simpa [Program.ofInstrs, Step.WellTyped] using ⟨.cell hkey, .cell hcell⟩

theorem keptByParts_sound (env : Environment) (ws : Witnesses View) :
    KeptByParts (.ofEnvironment env) ws (OnSound (.ofEnvironment env)) where
  read slot cached := by
    have hquery : Keeps (OnSound (.ofEnvironment env))
        (query (.ofEnvironment env) (slot.readProgram cached)) :=
      query_sound (by simp [Slot.readProgram, Program.ofInstrs, Step.WellTyped])
    refine hquery.bind fun v => ?_
    cases v with
    | none => exact .throw _
    | some v => exact .ofExcept _
  write slot value := by
    intro s x s' h hs
    obtain ⟨p, hp, h⟩ := bind_ofExcept_run.mp h
    obtain ⟨v, r, hq, ⟨⟩⟩ := bind_run_eq_ok.mp h
    exact query_sound (wellTyped_writeProgram hp) hq hs
  add slot amount := by
    have hquery : Keeps (OnSound (.ofEnvironment env))
        (query (.ofEnvironment env) (slot.addProgram amount)) :=
      query_sound (by simp [Slot.addProgram, Program.ofInstrs, Step.WellTyped])
    exact hquery.bind fun _ => .pure ()
  witness name d view := by
    intro s x s' h hs
    obtain ⟨_, _, _, _, -, -, -, -, rfl⟩ := Witnesses.exists_of_call h
    exact hs

theorem post_sound {message : Datum} {res : CircuitResult} (hc : c.current.Sound (.ofEnvironment env))
    (h : post (.ofEnvironment env) ws c message = .ok res) :
    res.context.current.Sound (.ofEnvironment env) := by
  obtain ⟨input, -, h⟩ := bind_eq_ok.mp h
  obtain ⟨⟨_, s⟩, hx, hclose⟩ := bind_eq_ok.mp h
  obtain ⟨-, hcontext, -, -⟩ := close_eq_ok hclose
  rw [hcontext]
  exact (keptByParts_sound env ws).postBody message (runCircuit_eq_ok.mp hx) hc

theorem takeDown_sound {res : CircuitResult} (hc : c.current.Sound (.ofEnvironment env))
    (h : takeDown (.ofEnvironment env) ws c = .ok res) :
    res.context.current.Sound (.ofEnvironment env) := by
  obtain ⟨⟨former, s⟩, hx, h⟩ := bind_eq_ok.mp h
  obtain ⟨output, -, hclose⟩ := bind_eq_ok.mp h
  obtain ⟨-, hcontext, -, -⟩ := close_eq_ok hclose
  rw [hcontext]
  exact (keptByParts_sound env ws).takeDownBody (runCircuit_eq_ok.mp hx) hc

/-- Four empty places have room only where four entries have. -/
theorem built_of_emptyRoot {cfg : Config} (h : emptyRoot cfg = .ok t) :
    t.Built cfg ∧ 4 ≤ cfg.maxArrayLength := by
  obtain ⟨_, h₁, h⟩ := bind_eq_ok.mp h
  obtain ⟨-, rfl⟩ := Tree.makeArray_eq_ok.mp h₁
  obtain ⟨_, h₂, h⟩ := bind_eq_ok.mp h
  obtain ⟨-, rfl⟩ := Tree.makeArray_eq_ok.mp h₂
  obtain ⟨_, h₃, h⟩ := bind_eq_ok.mp h
  obtain ⟨-, rfl⟩ := Tree.makeArray_eq_ok.mp h₃
  obtain ⟨_, h₄, ⟨⟩⟩ := bind_eq_ok.mp h
  obtain ⟨hl, rfl⟩ := Tree.makeArray_eq_ok.mp h₄
  exact ⟨Tree.built_array_iff.mpr ⟨hl, by simpa using .null⟩, hl⟩

end Sound

/-- A sound state that shows a board. -/
structure Stored (cfg : Config) (s : ChargedState) : Prop where
  sound : s.Sound cfg
  shows : ∃ v, Shows v s.tree

theorem stored_of_initialState {address privateState : Datum}
    (h : initialState (.ofEnvironment env) address privateState = .ok c) :
    Stored (.ofEnvironment env) c.current ∧ Shows fresh c.tree := by
  obtain ⟨root, hroot, h'⟩ := bind_eq_ok.mp h
  obtain ⟨b, hb, hfill⟩ := bind_eq_ok.mp h'
  obtain ⟨hbuilt, hcap⟩ := built_of_emptyRoot hroot
  obtain ⟨c', hc', hfresh⟩ := exists_initialState (Config.holdsBoard_ofEnvironment hcap) hb privateState
  obtain rfl := Except.ok.inj (h.symm.trans hc')
  refine ⟨⟨?_, fresh, hfresh⟩, hfresh⟩
  dsimp only at hfill
  split at hfill
  · next s hs =>
    obtain rfl := Except.ok.inj hfill
    exact (keptByParts_sound env secretKeyWitnesses).fillBody hs (ChargedState.sound_ofTree hbuilt)
  · cases hfill

namespace Stored

/-- Where a board could be made, there is room for it. -/
theorem holdsBoard (hs : Stored (.ofEnvironment env) s) : (Config.ofEnvironment env).HoldsBoard := by
  obtain ⟨v, cells, ht, -⟩ := hs.shows
  have hbuilt := hs.sound.built
  rw [ht] at hbuilt
  exact Config.holdsBoard_ofEnvironment (Tree.built_array_iff.mp hbuilt).1

theorem exists_view (hs : Stored (.ofEnvironment env) s) :
    ∃ v, View.ofTree (.ofEnvironment env) s.tree = .ok v ∧ Shows v s.tree := by
  obtain ⟨v, hv⟩ := hs.shows
  exact ⟨v, hv.ofTree hs.holdsBoard, hv⟩

theorem post (hs : Stored (.ofEnvironment env) s) {rates : Tariff} {address key : Bytes} {message : String}
    {res : CircuitResult}
    (h : (Action.post key message).run (.ofEnvironment env) rates address s = .ok res) :
    Stored (.ofEnvironment env) res.context.current ∧
      ∃ v, View.ofTree (.ofEnvironment env) res.context.tree = .ok v ∧ v.message = some message := by
  obtain ⟨v, hv⟩ := hs.shows
  obtain ⟨-, -, hw⟩ := post_eq_ok hs.holdsBoard hv rfl h
  exact ⟨⟨post_sound hs.sound h, _, hw⟩, _, hw.ofTree hs.holdsBoard, rfl⟩

theorem takeDown (hs : Stored (.ofEnvironment env) s) {rates : Tariff} {address key : Bytes}
    {res : CircuitResult}
    (h : (Action.takeDown key).run (.ofEnvironment env) rates address s = .ok res) :
    Stored (.ofEnvironment env) res.context.current ∧
      ∃ v, View.ofTree (.ofEnvironment env) res.context.tree = .ok v ∧ v.message = none := by
  obtain ⟨v, hv⟩ := hs.shows
  obtain ⟨-, -, -, -, hw⟩ := takeDown_eq_ok hs.holdsBoard hv rfl h
  exact ⟨⟨takeDown_sound hs.sound h, _, hw⟩, _, hw.ofTree hs.holdsBoard, rfl⟩

section Length

/-- What a slot holds has at most two slots of its own and keeps to the cap of cells. -/
theorem length_encode_cell_le {slot : Slot} {value : Datum} {a : AlignedValue}
    (ha : slot.descriptor.aligned value = .ok a) (hl : a.binaryLength ≤ 16777216) :
    (Cbor.encode (Tree.toItem (.cell a))).length ≤ 16777349 := by
  obtain ⟨segments, -, hsegments⟩ := bind_eq_ok.mp ha
  have halignment := congrArg List.length (AlignedValue.ofSegments_eq_ok.mp hsegments).2
  have hslots : a.slots.length ≤ 2 := by
    rw [List.length_map] at halignment
    rw [← halignment]
    cases slot <;> decide
  have hvalue := a.length_encode_toItem_le (by omega)
  have htag : (Cbor.encode (.int 1)).length ≤ 9 := Cbor.length_encode_nat_le (n := 1) (by decide)
  refine (Cbor.length_encode_array_le _).trans ?_
  simp only [Cbor.encodeList, List.length_append, List.length_nil]
  omega

theorem length_encode_le (hs : Stored (.ofEnvironment env) s) :
    s.encode.length ≤ Memory.largestSize := by
  obtain ⟨v, cells, ht, haligned⟩ := hs.shows
  have hcap : (Config.ofEnvironment env).maxCellBytes ≤ 16777216 :=
    Setting.read_le_most (s := Setting.maxCellBytes) (by decide) (by decide) env
  have hbuilt := hs.sound.built
  rw [ht] at hbuilt
  have hl : ∀ slot, (cells slot).binaryLength ≤ 16777216 := fun slot => by
    have hcell := (Tree.built_array_iff.mp hbuilt).2 (.cell (cells slot)) (by cases slot <;> simp)
    exact (Tree.built_cell_iff.mp hcell).trans hcap
  have htree : (Cbor.encode s.tree.toItem).length ≤ 27 + 4 * 16777349 := by
    have hcell := fun slot => length_encode_cell_le (haligned slot) (hl slot)
    have hstate := hcell .state
    have hmessage := hcell .message
    have hsequence := hcell .sequence
    have howner := hcell .owner
    have hitems := Cbor.length_encode_array_le
      (Tree.toItemList [.cell (cells .state), .cell (cells .message), .cell (cells .sequence),
        .cell (cells .owner)])
    have htag : (Cbor.encode (.int 2)).length ≤ 9 := Cbor.length_encode_nat_le (n := 2) (by decide)
    rw [ht]
    refine (Cbor.length_encode_array_le _).trans ?_
    simp only [Tree.toItemList, Cbor.encodeList, List.length_append, List.length_nil] at hitems ⊢
    omega
  have hcharged : (Cbor.encode (.nat s.charged)).length ≤ 9 := by
    have hstate := hl .state
    have hmessage := hl .message
    have hsequence := hl .sequence
    have howner := hl .owner
    refine Cbor.length_encode_nat_le ?_
    rw [hs.sound.charged, ht]
    simp only [rootOf, Tree.storageSize, Tree.storageSizeList]
    omega
  have hmagic := Cbor.length_encode_bytes_le ChargedState.magic
  have hversion : (Cbor.encode (.nat ChargedState.formatVersion)).length ≤ 9 :=
    Cbor.length_encode_nat_le (by decide)
  refine (Cbor.length_encode_array_le _).trans ?_
  simp only [Cbor.encodeList, List.length_append, ChargedState.magic,
    List.length_cons, List.length_nil, Memory.largestSize] at hmagic ⊢
  omega

/-- A board in a state file is read as what was saved. -/
theorem decode_encode (hs : Stored (.ofEnvironment env) s) :
    ChargedState.decode (.ofEnvironment env) s.encode = .ok s :=
  ChargedState.decode_encode hs.sound.built hs.length_encode_le

end Length

end Stored

end Board

end AlignedLedger
