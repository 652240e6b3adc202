import AlignedLedger.Proofs.Tree.Paths

/-! Which containers a walk goes through. One that looks for what is there stops at the first key without an
entry; one that makes its way stops only at what takes no such key, and goes on through new maps where there
is nothing yet. -/

namespace AlignedLedger.Tree

variable {t u c : Tree} {k : AlignedValue} {ks ls : List AlignedValue} {e : Fault}

/-- The containers of a walk along what is there, each with the key that is looked up in it. -/
def passed : Tree → List AlignedValue → List (Tree × AlignedValue)
  | _, [] => []
  | t, k :: ks => (t, k) :: match t.index k with
    | .ok u => u.passed ks
    | .error _ => []

/-- The containers of a walk that makes its way, each with the key that is looked up in it. -/
def visited : Tree → List AlignedValue → List (Tree × AlignedValue)
  | _, [] => []
  | t, k :: ks => (t.orNewMap, k) :: match t.orNewMap.childOrNull k with
    | .ok u => u.visited ks
    | .error _ => []

/-- A place where there is nothing below the key, but something can be: null, which gives way to a map, or a
map that does not have the key. -/
def Vacant : Tree → AlignedValue → Prop
  | null, _ => True
  | map entries, k => Entries.get? k entries = none
  | _, _ => False

theorem walk_append (t : Tree) (ks ls : List AlignedValue) :
    t.walk (ks ++ ls) = t.walk ks >>= fun u => u.walk ls := by
  induction ks generalizing t with
  | nil => rfl
  | cons k ks ih =>
    rw [List.cons_append, walk, walk]
    simp only [bind_assoc, ih]

theorem reach_append (t : Tree) (ks ls : List AlignedValue) :
    t.reach (ks ++ ls) = t.reach ks >>= fun u => u.reach ls := by
  induction ks generalizing t with
  | nil => rfl
  | cons k ks ih =>
    rw [List.cons_append, reach, reach]
    simp only [bind_assoc, ih]

/-- A walk that fails has come to some container, and fails there. -/
theorem walk_eq_error :
    t.walk ks = .error e ↔
      ∃ before key after c, ks = before ++ key :: after ∧ t.walk before = .ok c ∧ c.index key = .error e := by
  constructor
  · intro h
    induction ks generalizing t with
    | nil => cases h
    | cons k ks ih =>
      rcases bind_eq_error.mp h with h | ⟨u, hu, h⟩
      · exact ⟨[], k, ks, t, rfl, rfl, h⟩
      · obtain ⟨before, key, after, c, rfl, hc, h⟩ := ih h
        exact ⟨k :: before, key, after, c, rfl, walk_cons_eq_ok.mpr ⟨u, hu, hc⟩, h⟩
  · rintro ⟨before, key, after, c, rfl, hc, h⟩
    rw [walk_append, hc, ok_bind, walk, h, error_bind]

theorem passed_cons (h : t.index k = .ok u) (ks : List AlignedValue) :
    t.passed (k :: ks) = (t, k) :: u.passed ks := by
  rw [passed, h]

theorem visited_cons (h : t.orNewMap.childOrNull k = .ok u) (ks : List AlignedValue) :
    t.visited (k :: ks) = (t.orNewMap, k) :: u.visited ks := by
  rw [visited, h]

theorem visited_append (h : t.reach ks = .ok u) (ls : List AlignedValue) :
    t.visited (ks ++ ls) = t.visited ks ++ u.visited ls := by
  induction ks generalizing t with
  | nil =>
    cases h
    rfl
  | cons k ks ih =>
    obtain ⟨x, hx, h⟩ := bind_eq_ok.mp h
    rw [List.cons_append, visited_cons hx, visited_cons hx, ih h, List.cons_append]

/-- Along what is there, both walks go through the same containers. -/
theorem visited_of_walk (h : t.walk ks = .ok u) : t.visited ks = t.passed ks := by
  induction ks generalizing t with
  | nil => rfl
  | cons k ks ih =>
    obtain ⟨x, hx, h⟩ := walk_cons_eq_ok.mp h
    rw [visited_cons (childOrNull_of_index hx), passed_cons hx, orNewMap_of_index hx, ih h]

theorem reach_null (ks : List AlignedValue) : null.reach ks = .ok null := by
  induction ks with
  | nil => rfl
  | cons k ks ih => exact ih

theorem visited_null (ks : List AlignedValue) : null.visited ks = ks.map fun k => (newMap, k) := by
  induction ks with
  | nil => rfl
  | cons k ks ih => exact congrArg ((newMap, k) :: ·) ih

theorem Vacant.childOrNull (h : c.Vacant k) : c.orNewMap.childOrNull k = .ok null := by
  cases c with
  | null => rfl
  | map es => exact congrArg (fun x => Except.ok (x.getD null)) h
  | cell v => exact h.elim
  | array items => exact h.elim

theorem childOrNull_of_not_vacant (hv : ¬ c.Vacant k) (h : c.index k = .error e) :
    c.orNewMap.childOrNull k = .error e := by
  cases c with
  | null => exact absurd trivial hv
  | map es =>
    -- The map has the key, so it would have been found.
    obtain ⟨u, hu⟩ := Option.ne_none_iff_exists'.mp hv
    simp [index, hu] at h
  | cell v => exact h
  | array items => exact h

section Failing

variable {before after : List AlignedValue} (hc : t.walk before = .ok c)
include hc

theorem reach_of_vacant (hv : c.Vacant k) : t.reach (before ++ k :: after) = .ok null := by
  rw [reach_append, reach_of_walk hc, ok_bind, reach, hv.childOrNull, ok_bind, reach_null]

theorem visited_of_vacant (hv : c.Vacant k) :
    t.visited (before ++ k :: after) =
      t.passed before ++ (c.orNewMap, k) :: after.map fun l => (newMap, l) := by
  rw [visited_append (reach_of_walk hc), visited_of_walk hc, visited_cons hv.childOrNull, visited_null]

theorem reach_of_not_vacant (hv : ¬ c.Vacant k) (h : c.index k = .error e) :
    t.reach (before ++ k :: after) = .error e := by
  rw [reach_append, reach_of_walk hc, ok_bind, reach, childOrNull_of_not_vacant hv h, error_bind]

end Failing

end AlignedLedger.Tree
