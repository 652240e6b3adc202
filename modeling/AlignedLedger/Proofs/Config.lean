import AlignedLedger.Config
import AlignedLedger.Proofs.Alignment.Segments

/-! Settings keep to their bounds, whatever the environment says. -/

namespace AlignedLedger

theorem Setting.least_le_read {s : Setting} (hf : s.least ≤ s.fallback) (hm : s.least ≤ s.most)
    (env : Environment) : s.least ≤ s.read env := by
  unfold read
  split
  · exact hf
  · split
    · exact Nat.le_refl _
    · split
      · exact hm
      · omega

theorem Setting.read_le_most {s : Setting} (hf : s.fallback ≤ s.most) (hm : s.least ≤ s.most)
    (env : Environment) : s.read env ≤ s.most := by
  unfold read
  split
  · exact hf
  · split
    · exact hm
    · split
      · exact Nat.le_refl _
      · omega

theorem Config.eight_le_maxStackDepth (env : Environment) : 8 ≤ (ofEnvironment env).maxStackDepth :=
  Setting.least_le_read (s := Setting.maxStackDepth) (by decide) (by decide) env

/-- There is room on the stack for the root. -/
theorem Config.one_le_maxStackDepth (env : Environment) : 1 ≤ (ofEnvironment env).maxStackDepth :=
  Nat.le_trans (by decide) (eight_le_maxStackDepth env)

theorem Config.maxCellBytes_le (env : Environment) : (ofEnvironment env).maxCellBytes ≤ 1 <<< 24 :=
  Setting.read_le_most (s := Setting.maxCellBytes) (by decide) (by decide) env

theorem Config.maxCellBytes_lt_two_pow (env : Environment) : (ofEnvironment env).maxCellBytes < 2 ^ 64 :=
  Nat.lt_of_le_of_lt (maxCellBytes_le env) (by decide)

variable [Memory]

/-- No cell is so large that there is no room for its binary form. -/
theorem Config.maxCellBytes_le_available (env : Environment) :
    (ofEnvironment env).maxCellBytes ≤ Memory.available :=
  (maxCellBytes_le env).trans Memory.roomy

theorem Config.requestBinary_of_le {env : Environment} {v : AlignedValue}
    (h : v.binaryLength ≤ (ofEnvironment env).maxCellBytes) : v.requestBinary = .ok () :=
  AlignedValue.requestBinary_eq_ok.mpr (h.trans (maxCellBytes_le_available env))

end AlignedLedger
