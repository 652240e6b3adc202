import AlignedLedger.Machine.Stack
import AlignedLedger.Proofs.Tree.Container

/-! Values put in at the end of a path, each container on the way put back into the one it came out of.
The path then leads to the value, and paths that leave it at some container lead where they did. -/

namespace AlignedLedger.Tree

variable {cfg : Config} {t t' u w x : Tree} {k l : AlignedValue} {ks ls : List AlignedValue}

/-- Where a path leads if containers are made on its way where there is nothing yet. -/
def reach : Tree → List AlignedValue → Except Fault Tree
  | t, [] => .ok t
  | t, k :: ks => do
    let u ← t.orNewMap.childOrNull k
    u.reach ks

/-- Puts a value at the end of a path, from the inside to the outside. -/
def putAt [Memory] (cfg : Config) : Tree → List AlignedValue → Tree → Except Fault Tree
  | _, [], w => .ok w
  | t, k :: ks, w => do
    let u ← t.orNewMap.childOrNull k
    let v ← u.putAt cfg ks w
    t.orNewMap.insert cfg k v

/-- At some step the second path names another place than the first, in the container that both have
come to. The keys before that may differ too, as long as they name the same places. -/
def Diverges : Tree → List AlignedValue → List AlignedValue → Prop
  | t, k :: ks, l :: ls =>
    t.orNewMap.Apart k l ∨
      ¬ t.orNewMap.Apart k l ∧ ∃ u, t.orNewMap.childOrNull k = .ok u ∧ u.Diverges ks ls
  | _, _, _ => False

theorem walk_cons_eq_ok : t.walk (k :: ks) = .ok w ↔ ∃ u, t.index k = .ok u ∧ u.walk ks = .ok w :=
  bind_eq_ok

theorem orNewMap_index : t.orNewMap.index k = .ok u ↔ t.index k = .ok u := by
  cases t with
  | null => simp [orNewMap, newMap, index, Entries.get?]
  | _ => rfl

/-- Below a key is what is found there, or else an empty place. -/
theorem childOrNull_eq_ok (h : t.childOrNull k = .ok u) :
    t.index k = .ok u ∨ u = null ∧ ∀ x, t.index k ≠ .ok x := by
  cases t with
  | map es =>
    cases hg : Entries.get? k es with
    | some y =>
      simp only [childOrNull, hg, Option.getD_some] at h
      exact .inl (index_map_eq_ok.mpr (hg.trans (congrArg some (Except.ok.inj h))))
    | none =>
      simp only [childOrNull, hg, Option.getD_none] at h
      refine .inr ⟨(Except.ok.inj h).symm, fun x hx => ?_⟩
      simp [index_map_eq_ok, hg] at hx
  | _ => exact .inl h

theorem childOrNull_of_index (h : t.index k = .ok u) : t.orNewMap.childOrNull k = .ok u := by
  cases t with
  | map es => simp [orNewMap, childOrNull, index_map_eq_ok.mp h]
  | null => simp [index] at h
  | _ => exact h

theorem orNewMap_of_index (h : t.index k = .ok u) : t.orNewMap = t := by
  cases t with
  | null => simp [index] at h
  | _ => rfl

theorem not_ok_walk_null : ∀ {ks : List AlignedValue}, ks ≠ [] → null.walk ks ≠ .ok w
  | [], h => absurd rfl h
  | _ :: _, _ => by simp [walk, index]

theorem Built.orNewMap [Memory] (hb : Built cfg t) : Built cfg t.orNewMap := by
  cases t with
  | null => exact built_map_iff.mpr ⟨List.Pairwise.nil, by simp⟩
  | _ => exact hb

theorem Built.childOrNull [Memory] (hb : Built cfg t) (h : t.childOrNull k = .ok u) : Built cfg u := by
  rcases childOrNull_eq_ok h with hi | ⟨rfl, -⟩
  · exact hb.index hi
  · exact .null

theorem Built.walk [Memory] (hb : Built cfg t) (h : t.walk ks = .ok u) : Built cfg u := by
  induction ks generalizing t with
  | nil =>
    cases h
    exact hb
  | cons k ks ih =>
    obtain ⟨x, hx, h⟩ := bind_eq_ok.mp h
    exact ih (hb.index hx) h

theorem kind_of_walk {e : Fault} (h : t.walk ks = .error e) : e.kind = .structural := by
  induction ks generalizing t with
  | nil => cases h
  | cons k ks ih =>
    rcases bind_eq_error.mp h with h | ⟨u, -, h⟩
    · exact kind_of_index h
    · exact ih h

theorem kind_of_childOrNull {e : Fault} (h : t.childOrNull k = .error e) : e.kind = .structural := by
  unfold childOrNull at h
  split at h
  · cases h
  · exact kind_of_index h

/-- What is below a key can be put back under it, changed or not. -/
theorem Built.exists_insert_childOrNull [Memory] (hb : Built cfg t) (hk : k.requestBinary = .ok ())
    (h : t.childOrNull k = .ok u) (v : Tree) : ∃ t', t.insert cfg k v = .ok t' := by
  cases t with
  | map es => exact ⟨_, insert_map_eq_ok.mpr ⟨hk, rfl⟩⟩
  | _ => exact hb.exists_insert hk h v

theorem reach_of_walk (h : t.walk ks = .ok w) : t.reach ks = .ok w := by
  induction ks generalizing t with
  | nil => exact h
  | cons k ks ih =>
    obtain ⟨u, hu, h⟩ := walk_cons_eq_ok.mp h
    exact bind_eq_ok.mpr ⟨u, childOrNull_of_index hu, ih h⟩

variable [Memory]

theorem Built.exists_putAt (hb : Built cfg t) (hk : ∀ k ∈ ks, k.requestBinary = .ok ())
    (h : t.reach ks = .ok x) (w : Tree) : ∃ t', t.putAt cfg ks w = .ok t' := by
  induction ks generalizing t with
  | nil => exact ⟨w, rfl⟩
  | cons k ks ih =>
    obtain ⟨hk, hks⟩ := List.forall_mem_cons.mp hk
    obtain ⟨u, hu, h⟩ := bind_eq_ok.mp h
    obtain ⟨v, hv⟩ := ih (hb.orNewMap.childOrNull hu) hks h
    obtain ⟨t', ht⟩ := hb.orNewMap.exists_insert_childOrNull hk hu v
    exact ⟨t', bind_eq_ok.mpr ⟨u, hu, bind_eq_ok.mpr ⟨v, hv, ht⟩⟩⟩

theorem walk_putAt (h : t.putAt cfg ks w = .ok t') : t'.walk ks = .ok w := by
  induction ks generalizing t t' with
  | nil =>
    cases h
    rfl
  | cons k ks ih =>
    obtain ⟨u, -, h⟩ := bind_eq_ok.mp h
    obtain ⟨v, hv, h⟩ := bind_eq_ok.mp h
    exact walk_cons_eq_ok.mpr ⟨v, index_insert_self h, ih hv⟩

theorem walk_putAt_of_diverges (h : t.putAt cfg ks w = .ok t') (hd : t.Diverges ks ls) :
    t'.walk ls = .ok x ↔ t.walk ls = .ok x := by
  induction ks generalizing t t' ls with
  | nil => simp [Diverges] at hd
  | cons k ks ih =>
    cases ls with
    | nil => simp [Diverges] at hd
    | cons l ls =>
      obtain ⟨u, hu, h⟩ := bind_eq_ok.mp h
      obtain ⟨v, hv, h⟩ := bind_eq_ok.mp h
      rcases hd with hapart | ⟨hsame, u', hu', hd⟩
      · have hl : ∀ y, t'.index l = .ok y ↔ t.index l = .ok y := by
          intro y
          rw [index_insert_of_apart h hapart, orNewMap_index]
        simp only [walk_cons_eq_ok, hl]
      · cases hu.symm.trans hu'
        -- The second key names the place of the first, where there is now what the rest has made.
        have hnew : ∀ y, t'.index l = .ok y ↔ v = y := by
          intro y
          rw [← index_iff_of_not_apart (mt (apart_insert_iff h).mp hsame), index_insert_self h,
            Except.ok.injEq]
        have hold : ∀ y, t.index l = .ok y ↔ t.orNewMap.index k = .ok y := by
          intro y
          rw [index_iff_of_not_apart hsame, orNewMap_index]
        simp only [walk_cons_eq_ok, hnew, hold, exists_eq_left', ih hv hd]
        rcases childOrNull_eq_ok hu with hi | ⟨rfl, hi⟩
        · simp [hi]
        · have hne : ls ≠ [] := by
            rintro rfl
            cases ks <;> simp [Diverges] at hd
          simp [hi, not_ok_walk_null hne]

/-- A value put back where it was found changes nothing. -/
theorem Built.putAt_walk (hb : Built cfg t) (hk : ∀ k ∈ ks, k.requestBinary = .ok ())
    (h : t.walk ks = .ok w) : t.putAt cfg ks w = .ok t := by
  induction ks generalizing t with
  | nil => exact congrArg Except.ok (Except.ok.inj h).symm
  | cons k ks ih =>
    obtain ⟨hk, hks⟩ := List.forall_mem_cons.mp hk
    obtain ⟨u, hu, h⟩ := walk_cons_eq_ok.mp h
    refine bind_eq_ok.mpr ⟨u, childOrNull_of_index hu, bind_eq_ok.mpr ⟨u, ih (hb.index hu) hks h, ?_⟩⟩
    rw [orNewMap_of_index hu]
    exact hb.insert_index hk hu

end AlignedLedger.Tree
