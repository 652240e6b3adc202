import AlignedLedger.Board.Contract
import AlignedLedger.Proofs.Call.Replay

/-! What reads and writes of slots and the calls of witnesses keep, the circuits of a board keep. -/

namespace AlignedLedger.Board

open Call

/-- The parts that circuits consist of keep the property. -/
structure KeptByParts [Memory] (cfg : Config) (ws : Witnesses View) (P : CallState → Prop) : Prop where
  read : ∀ (slot : Slot) (cached : Bool), Keeps P (slot.read cfg cached)
  write : ∀ (slot : Slot) (value : Datum), Keeps P (slot.write cfg value)
  add : ∀ (slot : Slot) (amount : Nat), Keeps P (slot.add cfg amount)
  witness : ∀ (name : String) (d : Descriptor) (view : View), Keeps P (ws.call name d view)

namespace KeptByParts

variable {cfg : Config} {ws : Witnesses View} {P : CallState → Prop} {α : Type}

theorem expect (x : Option α) : Keeps P (Board.expect x) := by
  cases x with
  | none => exact .throw _
  | some a => exact .pure a

variable [Memory]

variable (h : KeptByParts cfg ws P)
include h

theorem readField {slot : Slot} {cached : Bool} {ofDatum? : Datum → Option α} :
    Keeps P (slot.read cfg cached >>= fun d => Board.expect (ofDatum? d)) :=
  (h.read slot cached).bind fun _ => expect _

theorem secretKey : Keeps P (Board.secretKey cfg ws) := by
  refine .bind .get fun s => .bind (.ofExcept _) fun view => ?_
  exact (h.witness _ _ _).bind fun d => expect _

theorem postBody (message : Datum) : Keeps P (Board.postBody cfg ws message) := by
  refine h.readField.bind fun state => .bind (.ofExcept _) fun _ => ?_
  refine h.secretKey.bind fun sk => h.readField.bind fun sequence => .bind (.ofExcept _) fun owner => ?_
  refine (h.write _ _).bind fun _ => (h.write _ _).bind fun _ => ?_
  exact (h.write _ _).bind fun _ => h.add _ _

theorem takeDownBody : Keeps P (Board.takeDownBody cfg ws) := by
  refine h.readField.bind fun state => .bind (.ofExcept _) fun _ => ?_
  refine h.readField.bind fun owner => h.secretKey.bind fun sk => ?_
  refine h.readField.bind fun sequence => .bind (.ofExcept _) fun owns => .bind (.ofExcept _) fun _ => ?_
  refine h.readField.bind fun former => (h.write _ _).bind fun _ => ?_
  exact (h.add _ _).bind fun _ => (h.write _ _).bind fun _ => .pure _

theorem fillBody : Keeps P (Board.fillBody cfg) := by
  refine (h.write _ _).bind fun _ => (h.write _ _).bind fun _ => ?_
  exact (h.write _ _).bind fun _ => h.write _ _

end KeptByParts

end AlignedLedger.Board
