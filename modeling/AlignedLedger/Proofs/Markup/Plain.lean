import AlignedLedger.Bytes.Hex
import AlignedLedger.Markup.Render
import AlignedLedger.Proofs.Success
import Std.Data.String.ToNat

/-! Text without an opening bracket has no marks in it, and so a terminal can show it. -/

namespace AlignedLedger

namespace Markup

/-- A terminal can show the text: no mark in it closes what is not open, or is made of words that it
cannot be made of. -/
def Renders (s : String) : Prop := ∃ shown, render s = .ok shown

variable {s : String}

theorem exists_text_of_mem_piecesFrom {fuel : Nat} {before cs : List Char} {p : Piece}
    (hcs : '[' ∉ cs) (hp : p ∈ piecesFrom fuel before cs) : ∃ shown, p = .text shown := by
  have hlast : ∀ {before : List Char},
      p ∈ (if before.isEmpty then [] else [Piece.text before.reverse]) → ∃ shown, p = .text shown := by
    intro before h
    split at h
    · cases h
    · exact ⟨_, List.mem_singleton.mp h⟩
  induction fuel generalizing before cs with
  | zero =>
    rw [piecesFrom] at hp
    · exact hlast hp
    · simp
  | succ fuel ih =>
    cases cs with
    | nil => exact hlast hp
    | cons c cs =>
      rw [piecesFrom] at hp
      -- There is no bracket behind the backslashes, and so no mark is found there.
      have hrest : '[' ∉ (c :: cs).drop ((c :: cs).takeWhile (· = '\\')).length := fun h =>
        hcs (List.mem_of_mem_drop h)
      split at hp
      · next body rest hfound =>
        split at hfound
        · next h => simp [h] at hrest
        · cases hfound
      · split at hp
        · exact ih (fun h => hcs (List.mem_cons_of_mem _ h)) hp
        · exact ih hrest hp

/-- Nothing but text goes on the canvas, and nothing is left open. -/
theorem exists_foldlM_put {ps : List Piece} (hp : ∀ p ∈ ps, ∃ cs, p = .text cs) (shown : Array Char) :
    ∃ shown', ps.foldlM Canvas.put ⟨shown, [], []⟩ = .ok ⟨shown', [], []⟩ := by
  induction ps generalizing shown with
  | nil => exact ⟨shown, rfl⟩
  | cons p ps ih =>
    obtain ⟨⟨cs, rfl⟩, hps⟩ := List.forall_mem_cons.mp hp
    exact ih hps (shown ++ shownText cs)

theorem finish_of_no_marks (shown : Array Char) :
    Canvas.finish ⟨shown, [], []⟩ = .ok (String.ofList shown.toList) := by
  have hspans : Canvas.seenSpans ⟨shown, [], []⟩ = [] := by
    unfold Canvas.seenSpans
    split <;> rfl
  rw [Canvas.finish, hspans]
  rfl

theorem renders_of_not_mem (hs : '[' ∉ s.toList) : Renders s := by
  obtain ⟨shown, h⟩ := exists_foldlM_put (fun p => exists_text_of_mem_piecesFrom hs) #[]
  have hput : (pieces s.toList).foldlM Canvas.put .blank = .ok ⟨shown, [], []⟩ := h
  rw [Renders, render, hput, ok_bind]
  exact ⟨_, finish_of_no_marks shown⟩

end Markup

theorem Hex.bracket_not_mem_marked (b : Bytes) : '[' ∉ (marked b).toList := by
  have hdigit : ∀ n < 16, digit n ≠ '[' := by decide
  have hchars : '[' ∉ digitChars b := by
    intro h
    obtain ⟨x, -, hx⟩ := List.mem_flatMap.mp h
    have hlt := x.toNat_lt
    rcases List.mem_pair.mp hx with hx | hx
    · exact hdigit _ (by omega) hx.symm
    · exact hdigit _ (by omega) hx.symm
  simpa [marked, encode] using hchars

theorem bracket_not_mem_toString (n : Nat) : '[' ∉ (toString n).toList := by
  intro h
  have hmem : '[' ∈ Nat.toDigits 10 n := by simpa using h
  exact absurd (Nat.isDigit_of_mem_toDigits (by decide) (by decide) hmem) (by decide)

end AlignedLedger
