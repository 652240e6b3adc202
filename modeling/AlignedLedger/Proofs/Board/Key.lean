import AlignedLedger.Board.Contract
import AlignedLedger.Proofs.Bytes.Numbers
import AlignedLedger.Proofs.Descriptor.BinaryLayout
import AlignedLedger.Proofs.Descriptor.Refusal

/-! Owner keys in one piece: what the list of three byte strings hashes to is the hash of the strings one
after the other, so that nothing but the lengths decides whether there is a key. -/

namespace AlignedLedger.Board

variable {secretKey sequence owner : Bytes} {n : Nat}

/-- The hash of the domain, a sequence number and a secret key, one after the other. -/
def publicKey (secretKey sequence : Bytes) : Bytes := sha256 (keyDomain ++ sequence ++ secretKey)

theorem length_publicKey (secretKey sequence : Bytes) : (publicKey secretKey sequence).length = 32 := by
  simp [publicKey, sha256, Sha256.Working.toBytes]

theorem length_keyDomain : keyDomain.length = 32 := by
  decide

theorem length_sequenceBytes (hn : n < 2 ^ 64) : (sequenceBytes n).length = 32 :=
  LittleEndian.length_ofNatPadded (Nat.lt_of_lt_of_le hn (by decide))

variable [Memory]

theorem ownerKey_of_length (hk : secretKey.length = 32) (hs : sequence.length = 32) :
    ownerKey secretKey sequence = .ok (publicKey secretKey sequence) := by
  have hparts : ∀ b ∈ [keyDomain, sequence, secretKey], b.length = 32 := by
    simp [hk, hs, length_keyDomain]
  have hroom : 3 * 32 ≤ Memory.available := Nat.le_trans (by decide) Memory.roomy
  have hhash := (Descriptor.persistentHash_bytes (n := 3) (v := .tuple [.bytes keyDomain, .bytes sequence,
    .bytes secretKey]) rfl (.cons rfl (.cons rfl (.cons rfl .nil))) rfl hparts).1 hroom
  rw [List.flatten_cons, List.flatten_cons, List.flatten_cons, List.flatten_nil, List.append_nil,
    ← List.append_assoc] at hhash
  exact hhash

theorem ownerKey_eq_ok (h : ownerKey secretKey sequence = .ok owner) :
    secretKey.length = 32 ∧ sequence.length = 32 ∧ owner = publicKey secretKey sequence := by
  obtain ⟨a, ha, -⟩ := bind_eq_ok.mp h
  obtain ⟨segments, hencode, -⟩ := bind_eq_ok.mp ha
  obtain ⟨xs, hx, -, he⟩ := Descriptor.encode_vector_eq_ok hencode
  cases hx
  rw [Descriptor.encodeEach_eq_mapM] at he
  have hitems := exists_mapM_ok.mp (exists_map.mp ⟨_, he⟩)
  have hlength : ∀ b, Datum.bytes b ∈ [Datum.bytes keyDomain, .bytes sequence, .bytes secretKey] →
      b.length = 32 := by
    intro b hb
    obtain ⟨s, hs⟩ := hitems _ hb
    obtain ⟨c, hc, hl, -, -⟩ := Descriptor.encodeBytes_eq_ok hs
    cases hc
    exact hl
  have hk := hlength secretKey (by simp)
  have hs := hlength sequence (by simp)
  exact ⟨hk, hs, Except.ok.inj (h.symm.trans (ownerKey_of_length hk hs))⟩

/-- A key of the right length owns the post that it made one step of the sequence ago. -/
theorem isOwner_of_length (hk : secretKey.length = 32) (hn : n < 2 ^ 64) :
    isOwner secretKey owner n =
      .ok (1 ≤ n ∧ owner = publicKey secretKey (sequenceBytes (n - 1)) : Bool) := by
  unfold isOwner
  split
  · next hle =>
    rw [ownerKey_of_length hk (length_sequenceBytes (by omega))]
    simp [hle, Except.map, Bool.beq_eq_decide_eq]
  · next hle => simp [hle]

theorem of_isOwner_eq_true (h : isOwner secretKey owner n = .ok true) :
    1 ≤ n ∧ owner = publicKey secretKey (sequenceBytes (n - 1)) := by
  unfold isOwner at h
  split at h
  · next hle =>
    obtain ⟨key, hkey, heq⟩ := map_eq_ok.mp h
    obtain ⟨-, -, rfl⟩ := ownerKey_eq_ok hkey
    exact ⟨hle, by simpa using heq⟩
  · cases h

end AlignedLedger.Board
