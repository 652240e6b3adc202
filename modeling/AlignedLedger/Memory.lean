import AlignedLedger.Fault

/-! What there is room for. A size has to be one that a machine can count to, and then there has to be
memory for it. -/

namespace AlignedLedger

namespace Memory

/-- Sizes have 63 bits. -/
def largestSize : Nat := 1 <<< 63 - 1

/-- What a byte string takes up besides its bytes. -/
def header : Nat := 33

end Memory

/-- The memory of a machine. -/
class Memory where
  /-- More than this is not to be had. -/
  available : Nat
  /-- All of it can be counted. -/
  countable : available + Memory.header ≤ Memory.largestSize
  /-- The largest cell that the settings allow finds room. -/
  roomy : 1 <<< 24 ≤ available

namespace Memory

variable [Memory]

def request (n : Nat) : Except Fault Unit :=
  if largestSize < n + header then .error .tooLarge
  else if available < n then .error .outOfMemory
  else .ok ()

theorem request_eq_ok_iff {n : Nat} : request n = .ok () ↔ n ≤ available := by
  have hcount := countable
  unfold request
  split
  · simp
    omega
  · split <;> simp <;> omega

theorem request_of_le {n : Nat} (h : n ≤ 1 <<< 24) : request n = .ok () :=
  request_eq_ok_iff.mpr (Nat.le_trans h roomy)

end Memory

/-- A machine with sixteen GiB. -/
instance : Memory where
  available := 1 <<< 34
  countable := by decide
  roomy := by decide

end AlignedLedger
