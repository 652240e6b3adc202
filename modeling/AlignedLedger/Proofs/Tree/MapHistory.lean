import AlignedLedger.Proofs.Tree.Container
import AlignedLedger.Tree.Persistence
import Mathlib.Logic.Function.Basic

/-! Maps do not remember how they came about: a map that is made of a list of entries and edited again and
again is told by the mapping from keys to trees that it comes to. -/

namespace AlignedLedger

/-- What is to be found under each key. -/
abbrev Mapping := AlignedValue → Option Tree

namespace Mapping

def none : Mapping := fun _ => .none

/-- Of entries under one key the last counts. -/
def ofEntries (es : List (AlignedValue × Tree)) : Mapping :=
  es.foldl (fun m e => Function.update m e.1 (some e.2)) none

/-- The tree is a map with its keys in order, and under each key there is what the mapping says. -/
def ShownBy (m : Mapping) (t : Tree) : Prop :=
  ∃ es, t = .map es ∧ Entries.Sorted es ∧ ∀ k, Entries.get? k es = m k

variable {m : Mapping} {t u : Tree}

theorem ShownBy.unique (ht : m.ShownBy t) (hu : m.ShownBy u) : t = u := by
  obtain ⟨es, rfl, hes, hget⟩ := ht
  obtain ⟨fs, rfl, hfs, hget'⟩ := hu
  have hsame : ∀ k, Entries.get? k es = Entries.get? k fs := fun k => (hget k).trans (hget' k).symm
  rw [hes.ext hfs hsame]

theorem ofEntries_shownBy (es : List (AlignedValue × Tree)) :
    (ofEntries es).ShownBy (.map (Entries.ofList es)) := by
  refine ⟨_, rfl, Entries.sorted_ofList es, fun k => ?_⟩
  induction es using List.reverseRecOn with
  | nil => rfl
  | append_singleton es e ih =>
    rw [Entries.ofList, ofEntries, List.foldl_append, List.foldl_append]
    change Entries.get? k (Entries.insert e.1 e.2 (Entries.ofList es)) =
      Function.update (ofEntries es) e.1 (some e.2) k
    by_cases hk : k = e.1
    · subst hk
      rw [Entries.get?_insert_self, Function.update_self]
    · rw [Entries.get?_insert_of_ne hk, Function.update_of_ne hk, ih]

end Mapping

inductive Edit where
  | insert (key : AlignedValue) (value : Tree)
  | remove (key : AlignedValue)

namespace Edit

variable [Memory]

def apply (cfg : Config) (t : Tree) : Edit → Except Fault Tree
  | insert k v => t.insert cfg k v
  | remove k => t.remove k

def change (m : Mapping) : Edit → Mapping
  | insert k v => Function.update m k (some v)
  | remove k => Function.update m k none

/-- There is room for the binary form of a key that comes in, and a key that is to go is there. -/
def Admissible (m : Mapping) : Edit → Prop
  | insert k _ => k.requestBinary = .ok ()
  | remove k => (m k).isSome

variable {cfg : Config} {m : Mapping} {t u : Tree} {e : Edit}

theorem exists_apply_iff (cfg : Config) (ht : m.ShownBy t) : (∃ u, e.apply cfg t = .ok u) ↔ e.Admissible m := by
  obtain ⟨es, rfl, -, hget⟩ := ht
  cases e with
  | insert k v => simp only [apply, Admissible, Tree.insert_map_eq_ok, exists_and_left, exists_eq, and_true]
  | remove k =>
    simp only [apply, Admissible, Tree.remove_map_eq_ok, hget, exists_and_left, exists_eq, and_true]

theorem change_shownBy (ht : m.ShownBy t) (h : e.apply cfg t = .ok u) : (e.change m).ShownBy u := by
  obtain ⟨es, rfl, hes, hget⟩ := ht
  cases e with
  | insert k v =>
    change Tree.insert cfg (.map es) k v = .ok u at h
    obtain ⟨-, rfl⟩ := Tree.insert_map_eq_ok.mp h
    refine ⟨_, rfl, hes.insert k v, fun l => ?_⟩
    rw [change]
    by_cases hl : l = k
    · subst hl
      rw [Entries.get?_insert_self, Function.update_self]
    · rw [Entries.get?_insert_of_ne hl, Function.update_of_ne hl, hget]
  | remove k =>
    obtain ⟨-, rfl⟩ := Tree.remove_map_eq_ok.mp h
    refine ⟨_, rfl, hes.erase k, fun l => ?_⟩
    rw [change]
    by_cases hl : l = k
    · subst hl
      rw [hes.get?_erase_self, Function.update_self]
    · rw [Entries.get?_erase_of_ne hl, Function.update_of_ne hl, hget]

/-- One edit after the other, from a tree on. -/
def applyAll (cfg : Config) (edits : List Edit) (t : Tree) : Except Fault Tree :=
  edits.foldlM (apply cfg) t

def changeAll (edits : List Edit) (m : Mapping) : Mapping := edits.foldl change m

/-- Each edit is admissible where those before it lead to. -/
def AllAdmissible : List Edit → Mapping → Prop
  | [], _ => True
  | e :: edits, m => e.Admissible m ∧ AllAdmissible edits (e.change m)

variable {edits : List Edit}

theorem exists_applyAll_iff (cfg : Config) (ht : m.ShownBy t) :
    (∃ u, applyAll cfg edits t = .ok u) ↔ AllAdmissible edits m := by
  induction edits generalizing m t with
  | nil => exact iff_of_true ⟨t, rfl⟩ trivial
  | cons e edits ih =>
    rw [AllAdmissible, ← exists_apply_iff cfg ht]
    simp only [applyAll, List.foldlM_cons, bind_eq_ok]
    constructor
    · rintro ⟨w, u, hu, hw⟩
      exact ⟨⟨u, hu⟩, (ih (change_shownBy ht hu)).mp ⟨w, hw⟩⟩
    · rintro ⟨⟨u, hu⟩, hrest⟩
      obtain ⟨w, hw⟩ := (ih (change_shownBy ht hu)).mpr hrest
      exact ⟨w, u, hu, hw⟩

theorem changeAll_shownBy (ht : m.ShownBy t) (h : applyAll cfg edits t = .ok u) :
    (changeAll edits m).ShownBy u := by
  induction edits generalizing m t with
  | nil =>
    obtain rfl := Except.ok.inj h
    exact ht
  | cons e edits ih =>
    obtain ⟨w, hw, hrest⟩ := bind_eq_ok.mp h
    exact ih (change_shownBy ht hw) hrest

end Edit

/-- How a map comes about: the entries it is made of, in any order and with keys more than once, and what
is done to it then. -/
structure MapHistory where
  entries : List (AlignedValue × Tree)
  edits : List Edit

namespace MapHistory

variable [Memory]

def replay (cfg : Config) (h : MapHistory) : Except Fault Tree := do
  let t ← Tree.makeMap h.entries
  Edit.applyAll cfg h.edits t

/-- The mapping that the history comes to. -/
def mapping (h : MapHistory) : Mapping := Edit.changeAll h.edits (.ofEntries h.entries)

def Admissible (h : MapHistory) : Prop :=
  (∀ e ∈ h.entries, e.1.requestBinary = .ok ()) ∧ Edit.AllAdmissible h.edits (.ofEntries h.entries)

variable {cfg : Config} {g h : MapHistory} {t u : Tree}

theorem exists_replay_iff (cfg : Config) (h : MapHistory) : (∃ t, h.replay cfg = .ok t) ↔ h.Admissible := by
  have hmade := Mapping.ofEntries_shownBy h.entries
  rw [Admissible, ← Edit.exists_applyAll_iff cfg hmade]
  simp only [replay, bind_eq_ok, Tree.makeMap_eq_ok]
  constructor
  · rintro ⟨t, u, ⟨hkeys, rfl⟩, ht⟩
    exact ⟨hkeys, t, ht⟩
  · rintro ⟨hkeys, t, ht⟩
    exact ⟨t, _, ⟨hkeys, rfl⟩, ht⟩

theorem mapping_shownBy (ht : h.replay cfg = .ok t) : h.mapping.ShownBy t := by
  obtain ⟨u, hu, hrest⟩ := bind_eq_ok.mp ht
  obtain ⟨-, rfl⟩ := Tree.makeMap_eq_ok.mp hu
  exact Edit.changeAll_shownBy (Mapping.ofEntries_shownBy h.entries) hrest

/-- Two histories come to one map just if they come to one mapping. -/
theorem replay_eq_iff (ht : g.replay cfg = .ok t) (hu : h.replay cfg = .ok u) :
    t = u ↔ g.mapping = h.mapping := by
  have hg := mapping_shownBy ht
  have hh := mapping_shownBy hu
  constructor
  · rintro rfl
    obtain ⟨es, rfl, -, hget⟩ := hg
    obtain ⟨fs, ⟨⟩, -, hget'⟩ := hh
    exact funext fun k => (hget k).symm.trans (hget' k)
  · intro hm
    rw [hm] at hg
    exact hg.unique hh

end MapHistory

/-- The place of a key tells the key. -/
theorem AlignedValue.eq_of_binary_of_atomNames {k l : AlignedValue} (hb : k.binary = l.binary)
    (hn : k.atomNames = l.atomNames) : k = l :=
  ext_of_binary (Atom.name_injective.list_map hn) hb

namespace Tree

section

variable [Memory]

/-- No two keys have one place in the order, and a history of edits goes through just if there is room for
its keys and what it removes is there. Of two that go through, the maps are one if and only if the
mappings are; then the entries, the keys, the size, the view and the stored form are the same. -/
theorem maps_canonical (cfg : Config) :
    (∀ k l : AlignedValue, k.binary = l.binary → k.atomNames = l.atomNames → k = l) ∧
    (∀ h : MapHistory, (∃ t, h.replay cfg = .ok t) ↔ h.Admissible) ∧
    ∀ (g h : MapHistory) (t u : Tree), g.replay cfg = .ok t → h.replay cfg = .ok u →
      (t = u ↔ g.mapping = h.mapping) ∧
      (g.mapping = h.mapping → ∃ es, t = map es ∧ u = map es ∧ Entries.Sorted es ∧
        (∀ k, Entries.get? k es = g.mapping k) ∧ t.keys = .ok (es.map Prod.fst) ∧ t.keys = u.keys ∧
        t.storageSize = u.storageSize ∧ t.toJson = u.toJson ∧ t.encode = u.encode) := by
  refine ⟨fun k l => AlignedValue.eq_of_binary_of_atomNames, MapHistory.exists_replay_iff cfg, ?_⟩
  intro g h t u ht hu
  have hiff := MapHistory.replay_eq_iff ht hu
  refine ⟨hiff, fun hm => ?_⟩
  obtain rfl := hiff.mpr hm
  obtain ⟨es, rfl, hes, hget⟩ := MapHistory.mapping_shownBy ht
  exact ⟨es, rfl, rfl, hes, hget, rfl, rfl, rfl, rfl, rfl⟩

end

/-- Keys of one binary form, which only the names of their atoms tell apart. One of them is given twice, and
a third goes again. -/
theorem canonical_of_two_histories :
    let cfg := Config.ofEnvironment fun _ => none
    let j : AlignedValue := ⟨[⟨.bytes 1, [], by decide⟩, ⟨.bytes 1, [7], by decide⟩]⟩
    let k : AlignedValue := ⟨[⟨.bytes 2, [0, 7], by decide⟩]⟩
    let l : AlignedValue := ⟨[⟨.field, [], by decide⟩]⟩
    let g : MapHistory := ⟨[(k, .null), (l, .null), (k, newMap), (j, .null)], [.remove l]⟩
    let h : MapHistory := ⟨[(j, .null)], [.insert l newMap, .insert k newMap, .remove l]⟩
    j.binary = k.binary ∧ ∃ t, g.replay cfg = .ok t ∧ h.replay cfg = .ok t ∧
      ∃ es, t = map es ∧ Entries.get? k es = some newMap ∧ Entries.get? l es = none := by
  intro cfg j k l g h
  obtain ⟨-, -, hsame⟩ := maps_canonical cfg
  have hjk : j ≠ k := by decide
  have hjl : j ≠ l := by decide
  have hkl : k ≠ l := by decide
  have hm : g.mapping = h.mapping := by
    funext v
    simp only [g, h, MapHistory.mapping, Edit.changeAll, List.foldl, Edit.change, Mapping.ofEntries,
      Function.update_apply]
    by_cases hk : v = k
    · simp [hk, hkl, hjk.symm]
    · by_cases hl : v = l
      · simp [hl]
      · simp [hk, hl]
  obtain ⟨t, ht⟩ : ∃ t, g.replay cfg = .ok t := ⟨_, rfl⟩
  obtain ⟨u, hu⟩ : ∃ u, h.replay cfg = .ok u := ⟨_, rfl⟩
  obtain ⟨hiff, hall⟩ := hsame g h t u ht hu
  obtain rfl := hiff.mpr hm
  obtain ⟨es, rfl, -, -, hget, -⟩ := hall hm
  refine ⟨by decide +kernel, _, ht, hu, es, rfl, ?_, ?_⟩
  · rw [hget]
    rfl
  · rw [hget]
    rfl

end Tree

end AlignedLedger
