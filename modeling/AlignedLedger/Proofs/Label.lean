import AlignedLedger.Proofs.Fault

/-! Writing names out: it goes well exactly for the names whose numbers can be written, and nothing is
reported otherwise. -/

namespace AlignedLedger.Label

variable {name : Label}

theorem spell_eq_ok_iff {u : Unit} : name.spell = .ok u ↔ name.isWritable = true := by
  unfold spell
  cases name.isWritable <;> simp

theorem spell_of_isWritable (h : name.isWritable = true) : name.spell = .ok () := spell_eq_ok_iff.mpr h

theorem isWritable_of_lt (h : ∀ n ∈ name.numbers, n < 2 ^ 64) : name.isWritable = true :=
  List.all_eq_true.mpr fun n hn => Text.isWritable_of_lt (h n hn)

theorem spell_of_lt (h : ∀ n ∈ name.numbers, n < 2 ^ 64) : name.spell = .ok () :=
  spell_of_isWritable (isWritable_of_lt h)

theorem exists_spell : (∃ u, name.spell = .ok u) ↔ name.isWritable = true := by
  simp [spell_eq_ok_iff]

theorem not_isReported_of_spell {e : Fault} (h : name.spell = .error e) : ¬ e.IsReported := by
  unfold spell at h
  split at h
  · simp at h
  · cases h
    exact Fault.not_isReported_of_kind rfl

theorem unreported_spell : Unreported name.spell ↔ name.isWritable = false := by
  rw [unreported_iff_of_forall fun _ => not_isReported_of_spell, exists_spell, Bool.not_eq_true]

theorem reportsOnly_spell {k : FaultKind} : ReportsOnly k name.spell :=
  .of_not_isReported fun _ => not_isReported_of_spell

/-- A message that spells a name can be told as far as the name goes. -/
theorem all_isWritable_numbers : (Fault.numbers name).all Datum.isWritable = name.isWritable := by
  simp [Fault.numbers, isWritable, Datum.isWritable, Function.comp_def]

/-- Lengths of at most eight bytes do not stand in the way of a report any more than the name does. -/
theorem isReported_of_spelled_lengths {e : Fault} {a : Alignment} (hk : e.kind.isReported = true)
    (hs : e.spelled = Fault.numbers name ++ Fault.lengths a) (hname : name.isWritable = true)
    (ha : ∀ x ∈ a, x.length < 2 ^ 64) : e.IsReported := by
  refine Fault.isReported_iff.mpr ⟨hk, ?_⟩
  rw [hs, List.all_append, all_isWritable_numbers, hname, Bool.true_and, List.all_eq_true]
  intro d hd
  obtain ⟨x, hx, rfl⟩ := List.mem_map.mp hd
  exact Datum.isWritable_natCast (ha x hx)

theorem unreported_error {α : Type} {e : Fault} (hk : e.kind.isReported = true)
    (hs : e.spelled = Fault.numbers name) :
    Unreported (.error e : Except Fault α) ↔ name.isWritable = false := by
  rw [AlignedLedger.unreported_error, Fault.isReported_iff, hk, hs, all_isWritable_numbers]
  simp

/-- A message about a number and a name can be told if both of them can be written. -/
theorem unreported_error_of_cons {α : Type} {e : Fault} {i : Int} (hk : e.kind.isReported = true)
    (hs : e.spelled = .int i :: Fault.numbers name) :
    Unreported (.error e : Except Fault α) ↔ Text.isWritable i = false ∨ name.isWritable = false := by
  rw [AlignedLedger.unreported_error, Fault.isReported_iff, hk, hs, List.all_cons, all_isWritable_numbers]
  simp [Datum.isWritable, or_iff_not_imp_left]

end AlignedLedger.Label
