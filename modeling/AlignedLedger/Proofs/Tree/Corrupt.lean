import AlignedLedger.Proofs.Alignment.Segments
import AlignedLedger.Proofs.Datum.Coerce
import AlignedLedger.Tree.Persistence

/-! Corrupt data that reading stumbles over: it fails, and no report is made of that. All that it takes is
a value of the wrong kind in the place of a segment, of a list or of a number, a number that is too long
for the message about it, or a value that there is no room for. Which obstacle comes first decides. -/

namespace AlignedLedger

namespace Atom

variable {d kind length : Datum}

/-- Reading an atom stumbles over the datum. -/
inductive StumblesOver : Datum → Prop
  | form {d : Datum} (hd : ∀ kind length, d.sequence? ≠ some [kind, length]) (hw : d.isWritable = false) :
      StumblesOver d
  | kind {d kind length : Datum} (hd : d.sequence? = some [kind, length]) (hw : kind.isWritable = false) :
      StumblesOver d
  | length {d length : Datum} {name : String} (hd : d.sequence? = some [.text name, length])
      (hk : isKindName name = true) (hl : ¬ ∃ i, length.toInt = .ok i) : StumblesOver d

theorem not_unreported_make (name : String) (i : Int) : ¬ Unreported (make name i) := by
  unfold make
  split
  · split
    · exact not_unreported_ok _
    · exact not_unreported_error rfl rfl
  · split
    · exact not_unreported_error rfl rfl
    · split <;> exact not_unreported_ok _

theorem unreported_ofPair :
    Unreported (ofPair kind length) ↔ kind.isWritable = false ∨
      ∃ name, kind = .text name ∧ isKindName name = true ∧ ¬ ∃ i, length.toInt = .ok i := by
  have hkind : Unreported (.error (.unknownAtomKind kind) : Except Fault Atom) ↔
      kind.isWritable = false := unreported_error_of_spelled rfl rfl
  cases kind with
  | text name =>
    rw [ofPair]
    by_cases hk : isKindName name = true
    · have hint := unreported_iff_of_forall (x := length.toInt) fun e => Datum.not_isReported_of_toInt
      simp [hk, unreported_bind, not_unreported_make, hint, Datum.isWritable]
    · rw [if_neg hk, hkind]
      simp [hk]
  | _ => simpa [ofPair] using hkind

theorem unreported_iff : Unreported (ofDatum d) ↔ StumblesOver d := by
  unfold ofDatum
  split
  · next kind length hd =>
    rw [unreported_ofPair]
    constructor
    · rintro (hw | ⟨name, rfl, hk, hl⟩)
      · exact .kind hd hw
      · exact .length hd hk hl
    · rintro (⟨hd', -⟩ | ⟨hd', hw⟩ | ⟨hd', hk, hl⟩)
      · exact absurd hd (hd' kind length)
      · cases hd.symm.trans hd'
        exact .inl hw
      · cases hd.symm.trans hd'
        exact .inr ⟨_, rfl, hk, hl⟩
  · next hd =>
    rw [unreported_error_of_spelled rfl rfl]
    constructor
    · exact .form hd
    · rintro (⟨-, hw⟩ | ⟨hd', -⟩ | ⟨hd', -, -⟩)
      · exact hw
      · exact absurd hd' (hd _ _)
      · exact absurd hd' (hd _ _)

end Atom

namespace AlignedValue

variable {d : Datum} {v : AlignedValue}

/-- Reading an aligned value stumbles over the datum. All segments are read before the first atom. -/
inductive StumblesOver [Memory] : Datum → Prop
  | form {d : Datum} (hd : ∀ segments atoms, d.sequence? ≠ some [segments, atoms])
      (hw : d.isWritable = false) : StumblesOver d
  | segments {d segments atoms : Datum} (hd : d.sequence? = some [segments, atoms])
      (hs : segments.elements? = none) : StumblesOver d
  | segment {d segments atoms s : Datum} {ss : List Datum} (hd : d.sequence? = some [segments, atoms])
      (hs : segments.elements? = some ss) (h : s ∈ ss) (hb : ¬ s.Bytelike) : StumblesOver d
  | atoms {d segments atoms : Datum} {ss : List Datum} (hd : d.sequence? = some [segments, atoms])
      (hs : segments.elements? = some ss) (hall : ∀ s ∈ ss, s.Bytelike) (ha : atoms.elements? = none) :
      StumblesOver d
  | atom {d segments atoms a : Datum} {ss before after : List Datum}
      (hd : d.sequence? = some [segments, atoms]) (hs : segments.elements? = some ss)
      (hall : ∀ s ∈ ss, s.Bytelike) (ha : atoms.elements? = some (before ++ a :: after))
      (hbefore : ∀ x ∈ before, ∃ y, Atom.ofDatum x = .ok y) (h : Atom.StumblesOver a) : StumblesOver d
  | width {d segments atoms : Datum} {ss as : List Datum} {bs : List Bytes} {alignment : Alignment}
      {before after : List (Bytes × Atom)} {b : Bytes} {a : Atom}
      (hd : d.sequence? = some [segments, atoms]) (hs : segments.elements? = some ss)
      (ha : atoms.elements? = some as) (hbs : ss.mapM Datum.toBytes = .ok bs)
      (halign : as.mapM Atom.ofDatum = .ok alignment) (hl : bs.length = alignment.length)
      (hz : bs.zip alignment = before ++ (b, a) :: after)
      (hbefore : ∀ p ∈ before, p.2.Holds (p.2.normalize p.1)) (h : ¬ a.Holds (a.normalize b))
      (hw : (Datum.int a.length).isWritable = false) : StumblesOver d

theorem exists_ofSegment {a : Atom} {b : Bytes} :
    (∃ s, Slot.ofSegment a b = .ok s) ↔ a.Holds (a.normalize b) := by
  by_cases h : a.Holds (a.normalize b)
  · simp [Slot.ofSegment, h]
  · simp [Slot.ofSegment, h]

theorem unreported_ofSegment {a : Atom} {b : Bytes} :
    Unreported (Slot.ofSegment a b) ↔
      ¬ a.Holds (a.normalize b) ∧ (Datum.int a.length).isWritable = false := by
  by_cases h : a.Holds (a.normalize b)
  · simp [Slot.ofSegment, h, Unreported]
  · have hf : Slot.ofSegment a b = .error (.segmentTooWide (a.normalize b).length a) := dif_neg h
    rw [hf, unreported_error_of_spelled rfl rfl]
    simp [h]

theorem unreported_ofSegments {bs : List Bytes} {alignment : Alignment} :
    Unreported (ofSegments bs alignment) ↔ bs.length = alignment.length ∧
      ∃ before b a after, bs.zip alignment = before ++ (b, a) :: after ∧
        (∀ p ∈ before, p.2.Holds (p.2.normalize p.1)) ∧ ¬ a.Holds (a.normalize b) ∧
        (Datum.int a.length).isWritable = false := by
  unfold ofSegments
  by_cases hl : bs.length = alignment.length
  · rw [if_pos hl, unreported_map, unreported_mapM]
    simp only [exists_mapM_ok, exists_ofSegment, unreported_ofSegment, hl, true_and]
    constructor
    · rintro ⟨before, ⟨b, a⟩, after, hz, hbefore, h⟩
      exact ⟨before, b, a, after, hz, hbefore, h⟩
    · rintro ⟨before, b, a, after, hz, hbefore, h⟩
      exact ⟨before, (b, a), after, hz, hbefore, h⟩
  · rw [if_neg hl]
    simp only [hl, false_and, iff_false]
    exact not_unreported_error rfl rfl

theorem unreported_elements : Unreported d.elements ↔ d.elements? = none := by
  unfold Datum.elements
  cases hd : d.elements? with
  | none => simpa [unreported_error] using Fault.not_isReported_of_kind (f := .wrongType) rfl
  | some xs => simp [Unreported]

theorem elements_eq_ok {xs : List Datum} : d.elements = .ok xs ↔ d.elements? = some xs := by
  unfold Datum.elements
  cases d.elements? <;> simp

theorem exists_mapM_toBytes [Memory] {ss : List Datum} :
    (∃ bs, ss.mapM Datum.toBytes = .ok bs) ↔ ∀ s ∈ ss, s.Bytelike := by
  simp only [exists_mapM_ok, Datum.exists_toBytes]

/-- All that can go wrong with segments goes without a report, so the first one does not matter. -/
theorem unreported_mapM_toBytes [Memory] {ss : List Datum} :
    Unreported (ss.mapM Datum.toBytes) ↔ ∃ s ∈ ss, ¬ s.Bytelike := by
  have hall : ∀ e, ss.mapM Datum.toBytes = .error e → ¬ e.IsReported := by
    intro e h
    obtain ⟨s, -, hs⟩ := exists_of_mapM_error h
    exact Datum.not_isReported_of_toBytes hs
  rw [unreported_iff_of_forall hall, exists_mapM_toBytes]
  simp only [not_forall, exists_prop]

theorem unreported_mapM_atoms {as : List Datum} :
    Unreported (as.mapM Atom.ofDatum) ↔
      ∃ before a after, as = before ++ a :: after ∧ (∀ x ∈ before, ∃ y, Atom.ofDatum x = .ok y) ∧
        Atom.StumblesOver a := by
  simp only [unreported_mapM, exists_mapM_ok, Atom.unreported_iff]

variable [Memory]

theorem unreported_ofPair {segments atoms : Datum} :
    Unreported (ofPair segments atoms) ↔ segments.elements? = none ∨
      ∃ ss, segments.elements? = some ss ∧ (Unreported (ss.mapM Datum.toBytes) ∨
        ∃ bs, ss.mapM Datum.toBytes = .ok bs ∧ (atoms.elements? = none ∨
          ∃ as, atoms.elements? = some as ∧ (Unreported (as.mapM Atom.ofDatum) ∨
            ∃ alignment, as.mapM Atom.ofDatum = .ok alignment ∧
              Unreported (ofSegments bs alignment)))) := by
  unfold ofPair
  cases hs : segments.elements? with
  | none => simp [unreported_bind, unreported_elements, hs]
  | some ss =>
    cases ha : atoms.elements? with
    | none => simp [unreported_bind, unreported_elements, elements_eq_ok.mpr hs, ha]
    | some as =>
      simp only [unreported_bind, elements_eq_ok.mpr hs, elements_eq_ok.mpr ha, ok_bind]
      simp

theorem unreported_iff : Unreported (ofDatum d) ↔ StumblesOver d := by
  unfold ofDatum
  split
  · next segments atoms hd =>
    rw [unreported_ofPair]
    constructor
    · rintro (hs | ⟨ss, hs, h | ⟨bs, hbs, ha | ⟨as, ha, h | ⟨alignment, halign, h⟩⟩⟩⟩)
      · exact .segments hd hs
      · obtain ⟨s, hmem, hb⟩ := unreported_mapM_toBytes.mp h
        exact .segment hd hs hmem hb
      · exact .atoms hd hs (exists_mapM_toBytes.mp ⟨bs, hbs⟩) ha
      · obtain ⟨before, a, after, rfl, hbefore, h⟩ := unreported_mapM_atoms.mp h
        exact .atom hd hs (exists_mapM_toBytes.mp ⟨bs, hbs⟩) ha hbefore h
      · obtain ⟨hl, before, b, a, after, hz, hbefore, h, hw⟩ := unreported_ofSegments.mp h
        exact .width hd hs ha hbs halign hl hz hbefore h hw
    · intro h
      cases h with
      | form hd' => exact absurd hd (hd' _ _)
      | segments hd' hs =>
        cases hd.symm.trans hd'
        exact .inl hs
      | segment hd' hs hmem hb =>
        cases hd.symm.trans hd'
        exact .inr ⟨_, hs, .inl (unreported_mapM_toBytes.mpr ⟨_, hmem, hb⟩)⟩
      | atoms hd' hs hall ha =>
        cases hd.symm.trans hd'
        obtain ⟨bs, hbs⟩ := exists_mapM_toBytes.mpr hall
        exact .inr ⟨_, hs, .inr ⟨bs, hbs, .inl ha⟩⟩
      | atom hd' hs hall ha hbefore h =>
        cases hd.symm.trans hd'
        obtain ⟨bs, hbs⟩ := exists_mapM_toBytes.mpr hall
        refine .inr ⟨_, hs, .inr ⟨bs, hbs, .inr ⟨_, ha, .inl ?_⟩⟩⟩
        exact unreported_mapM_atoms.mpr ⟨_, _, _, rfl, hbefore, h⟩
      | width hd' hs ha hbs halign hl hz hbefore h hw =>
        cases hd.symm.trans hd'
        refine .inr ⟨_, hs, .inr ⟨_, hbs, .inr ⟨_, ha, .inr ⟨_, halign, ?_⟩⟩⟩⟩
        exact unreported_ofSegments.mpr ⟨hl, _, _, _, _, hz, hbefore, h, hw⟩
  · next hd =>
    rw [unreported_error_of_spelled rfl rfl]
    constructor
    · exact .form hd
    · intro h
      cases h with
      | form _ hw => exact hw
      | segments hd' | segment hd' | atoms hd' | atom hd' | width hd' => exact absurd hd' (hd _ _)

theorem not_isReported_of_requestBinary {e : Fault} (h : v.requestBinary = .error e) :
    ¬ e.IsReported := by
  rcases (kind_of_requestBinary h).1 with hk | hk
  · exact Fault.not_isReported_of_kind (by rw [hk]; rfl)
  · exact Fault.not_isReported_of_kind (by rw [hk]; rfl)

theorem unreported_requestBinary :
    Unreported v.requestBinary ↔ Memory.available < v.binaryLength := by
  rw [unreported_iff_of_forall fun e => not_isReported_of_requestBinary, ← Nat.not_le, not_iff_not,
    ← requestBinary_eq_ok]
  exact ⟨fun ⟨_, h⟩ => h, fun h => ⟨_, h⟩⟩

end AlignedValue

namespace Tree

variable {cfg : Config} {d tag : Datum}

/-- One entry of a map in its stored form. -/
def ofEntry [Memory] (cfg : Config) : Datum → Except Fault (AlignedValue × Tree)
  | .list [k, d] => do
    let key ← AlignedValue.ofDatum k
    let t ← ofDatum cfg d
    pure (key, t)
  | d => .error (.badMapEntry d)

/-- Reading a tree stumbles over the datum. -/
inductive StumblesOver [Memory] (cfg : Config) : Datum → Prop
  | form {d : Datum} (hd : ∀ tag rest, d = .list (tag :: rest) → tag.index? = none)
      (hw : d.isWritable = false) : StumblesOver cfg d
  | tag {tag : Datum} {rest : List Datum} (ht : tag.index?.isSome) (hw : tag.isWritable = false) :
      StumblesOver cfg (.list (tag :: rest))
  | cell {tag v : Datum} (ht : tag.index? = some 1) (h : AlignedValue.StumblesOver v) :
      StumblesOver cfg (.list [tag, v])
  | cellRoom {tag v : Datum} {a : AlignedValue} (ht : tag.index? = some 1)
      (ha : AlignedValue.ofDatum v = .ok a) (hcap : cfg.maxCellBytes < a.binaryLength)
      (hroom : Memory.available < a.binaryLength) : StumblesOver cfg (.list [tag, v])
  | item {tag d : Datum} {before after : List Datum} (ht : tag.index? = some 2)
      (hbefore : ∀ x ∈ before, ∃ t, ofDatum cfg x = .ok t) (h : StumblesOver cfg d) :
      StumblesOver cfg (.list [tag, .list (before ++ d :: after)])
  | entry {tag d : Datum} {before after : List Datum} (ht : tag.index? = some 3)
      (hbefore : ∀ x ∈ before, ∃ e, ofEntry cfg x = .ok e) (hd : ∀ k n, d ≠ .list [k, n])
      (hw : d.isWritable = false) : StumblesOver cfg (.list [tag, .list (before ++ d :: after)])
  | key {tag k n : Datum} {before after : List Datum} (ht : tag.index? = some 3)
      (hbefore : ∀ x ∈ before, ∃ e, ofEntry cfg x = .ok e) (h : AlignedValue.StumblesOver k) :
      StumblesOver cfg (.list [tag, .list (before ++ .list [k, n] :: after)])
  | node {tag k n : Datum} {before after : List Datum} (ht : tag.index? = some 3)
      (hbefore : ∀ x ∈ before, ∃ e, ofEntry cfg x = .ok e) (hk : ∃ key, AlignedValue.ofDatum k = .ok key)
      (h : StumblesOver cfg n) : StumblesOver cfg (.list [tag, .list (before ++ .list [k, n] :: after)])
  | keyRoom {tag : Datum} {entries : List Datum} {es : List (AlignedValue × Tree)}
      {e : AlignedValue × Tree} (ht : tag.index? = some 3) (hes : entries.mapM (ofEntry cfg) = .ok es)
      (he : e ∈ es) (hroom : Memory.available < e.1.binaryLength) :
      StumblesOver cfg (.list [tag, .list entries])

theorem not_unreported_makeArray (ts : List Tree) : ¬ Unreported (makeArray cfg ts) := by
  unfold makeArray
  split
  · exact not_unreported_ok _
  · exact not_unreported_error rfl rfl

variable [Memory]

theorem ofData_eq_mapM (ds : List Datum) : ofData cfg ds = ds.mapM (ofDatum cfg) := by
  induction ds with
  | nil => rfl
  | cons d ds ih => rw [ofData, ih, List.mapM_cons]

theorem ofEntry_of_ne (hd : ∀ k n, d ≠ .list [k, n]) : ofEntry cfg d = .error (.badMapEntry d) := by
  unfold ofEntry
  split
  · exact absurd rfl (hd _ _)
  · rfl

theorem ofEntryData_eq_mapM (ds : List Datum) : ofEntryData cfg ds = ds.mapM (ofEntry cfg) := by
  induction ds with
  | nil => rfl
  | cons d ds ih =>
    rw [List.mapM_cons, ← ih]
    by_cases hd : ∃ k n, d = .list [k, n]
    · obtain ⟨k, n, rfl⟩ := hd
      simp only [ofEntryData, ofEntry, bind_assoc, pure_bind]
    · have hne : ∀ k n, d ≠ .list [k, n] := fun k n h => hd ⟨k, n, h⟩
      rw [ofEntry_of_ne hne, error_bind]
      unfold ofEntryData
      split
      · next h => cases h
      · next h =>
        cases h
        exact absurd rfl (hne _ _)
      · next h =>
        cases h
        rfl

theorem unreported_makeCell {v : AlignedValue} :
    Unreported (makeCell cfg v) ↔
      cfg.maxCellBytes < v.binaryLength ∧ Memory.available < v.binaryLength := by
  unfold makeCell
  by_cases hl : v.binaryLength ≤ cfg.maxCellBytes
  · rw [if_pos hl]
    simp [Unreported, Nat.not_lt.mpr hl]
  · rw [if_neg hl, unreported_error, ← AlignedValue.unreported_requestBinary, cellRefusal]
    cases hr : v.requestBinary with
    | ok u =>
      have hreported : (Fault.cellTooLarge cfg.maxCellBytes).IsReported :=
        Fault.isReported_of_spelled_nil rfl rfl
      simp [Unreported, hreported]
    | error e => simp [Unreported, Nat.lt_of_not_le hl]

theorem unreported_makeMap {es : List (AlignedValue × Tree)} :
    Unreported (makeMap es) ↔ ∃ e ∈ es, Memory.available < e.1.binaryLength := by
  have hall : ∀ f, (es.forM fun e => e.1.requestBinary) = .error f → ¬ f.IsReported := by
    intro f h
    obtain ⟨e, -, he⟩ := exists_of_forM_error h
    exact AlignedValue.not_isReported_of_requestBinary he
  have hok : (∃ u, (es.forM fun e => e.1.requestBinary) = .ok u) ↔
      ∀ e ∈ es, e.1.binaryLength ≤ Memory.available := by
    simp only [← AlignedValue.requestBinary_eq_ok, ← forM_eq_ok]
    exact ⟨fun ⟨_, h⟩ => h, fun h => ⟨_, h⟩⟩
  unfold makeMap
  rw [unreported_bind, unreported_iff_of_forall hall, hok]
  simp [not_unreported_ok]

section Nodes

variable {k n : Datum} {rest : List Datum}

theorem ofDatum_null (ht : tag.index? = some 0) : ofDatum cfg (.list [tag]) = .ok null := by
  rw [ofDatum, ht]
  rfl

theorem ofDatum_cell (ht : tag.index? = some 1) (v : Datum) :
    ofDatum cfg (.list [tag, v]) = AlignedValue.ofDatum v >>= makeCell cfg := by
  rw [ofDatum, ht]
  rfl

theorem ofDatum_array (ht : tag.index? = some 2) (items : List Datum) :
    ofDatum cfg (.list [tag, .list items]) = items.mapM (ofDatum cfg) >>= makeArray cfg := by
  rw [ofDatum, ht, ← ofData_eq_mapM]
  rfl

theorem ofDatum_map (ht : tag.index? = some 3) (entries : List Datum) :
    ofDatum cfg (.list [tag, .list entries]) = entries.mapM (ofEntry cfg) >>= makeMap := by
  rw [ofDatum, ht, ← ofEntryData_eq_mapM]
  rfl

theorem ofDatum_unknown {i : Int} (ht : tag.index? = some i) (h₀ : i = 0 → rest = [] → False)
    (h₁ : ∀ v, i = 1 → rest = [v] → False) (h₂ : ∀ items, i = 2 → rest = [.list items] → False)
    (h₃ : ∀ entries, i = 3 → rest = [.list entries] → False) :
    ofDatum cfg (.list (tag :: rest)) = .error (.unknownNodeTag tag) := by
  rw [ofDatum, ht]
  dsimp only
  split
  · exact (h₀ rfl rfl).elim
  · exact (h₁ _ rfl rfl).elim
  · exact (h₂ _ rfl rfl).elim
  · exact (h₃ _ rfl rfl).elim
  · rfl

theorem ofDatum_form (hd : ∀ tag rest, d = .list (tag :: rest) → tag.index? = none) :
    ofDatum cfg d = .error (.badNode d) := by
  unfold ofDatum
  split
  · rfl
  · next tag rest =>
    rw [hd tag rest rfl]
  · rfl

theorem unreported_ofEntry :
    Unreported (ofEntry cfg (.list [k, n])) ↔ AlignedValue.StumblesOver k ∨
      (∃ key, AlignedValue.ofDatum k = .ok key) ∧ Unreported (ofDatum cfg n) := by
  simp only [ofEntry, unreported_bind, AlignedValue.unreported_iff, pure_eq_ok, not_unreported_ok,
    and_false, exists_false, or_false, ← exists_and_right]

/-- A tag that is too long to be written is none of those that there are. -/
theorem ofDatum_of_not_isWritable (ht : tag.index?.isSome) (hw : tag.isWritable = false)
    (rest : List Datum) : ofDatum cfg (.list (tag :: rest)) = .error (.unknownNodeTag tag) := by
  obtain ⟨i, ht⟩ := Option.isSome_iff_exists.mp ht
  have hne : ∀ j : Int, j.natAbs < 2 ^ 64 → i ≠ j := by
    rintro j hj rfl
    rw [Datum.isWritable_of_index ht (Text.isWritable_of_lt hj)] at hw
    cases hw
  refine ofDatum_unknown ht ?_ ?_ ?_ ?_
  · exact fun h _ => hne 0 (by decide) h
  · exact fun _ h _ => hne 1 (by decide) h
  · exact fun _ h _ => hne 2 (by decide) h
  · exact fun _ h _ => hne 3 (by decide) h

theorem unreported_of_stumblesOver (h : StumblesOver cfg d) : Unreported (ofDatum cfg d) := by
  induction h with
  | form hd hw =>
    rw [ofDatum_form hd]
    exact (unreported_error_of_spelled rfl rfl).mpr hw
  | tag ht hw =>
    rw [ofDatum_of_not_isWritable ht hw]
    exact (unreported_error_of_spelled rfl rfl).mpr hw
  | cell ht h =>
    rw [ofDatum_cell ht, unreported_bind]
    exact .inl (AlignedValue.unreported_iff.mpr h)
  | cellRoom ht ha hcap hroom =>
    rw [ofDatum_cell ht, unreported_bind]
    exact .inr ⟨_, ha, unreported_makeCell.mpr ⟨hcap, hroom⟩⟩
  | item ht hbefore _ ih =>
    rw [ofDatum_array ht, unreported_bind, unreported_mapM]
    exact .inl ⟨_, _, _, rfl, exists_mapM_ok.mpr hbefore, ih⟩
  | entry ht hbefore hd hw =>
    rw [ofDatum_map ht, unreported_bind, unreported_mapM]
    refine .inl ⟨_, _, _, rfl, exists_mapM_ok.mpr hbefore, ?_⟩
    rw [ofEntry_of_ne hd]
    exact (unreported_error_of_spelled rfl rfl).mpr hw
  | key ht hbefore h =>
    rw [ofDatum_map ht, unreported_bind, unreported_mapM]
    exact .inl ⟨_, _, _, rfl, exists_mapM_ok.mpr hbefore, unreported_ofEntry.mpr (.inl h)⟩
  | node ht hbefore hk _ ih =>
    rw [ofDatum_map ht, unreported_bind, unreported_mapM]
    exact .inl ⟨_, _, _, rfl, exists_mapM_ok.mpr hbefore, unreported_ofEntry.mpr (.inr ⟨hk, ih⟩)⟩
  | keyRoom ht hes he hroom =>
    rw [ofDatum_map ht, unreported_bind]
    exact .inr ⟨_, hes, unreported_makeMap.mpr ⟨_, he, hroom⟩⟩

/-- By induction along the way that reading takes through the data. -/
theorem stumblesOver_of_unreported (d : Datum) : Unreported (ofDatum cfg d) → StumblesOver cfg d := by
  have hform : ∀ {d : Datum}, (∀ tag rest, d = .list (tag :: rest) → tag.index? = none) →
      Unreported (ofDatum cfg d) → StumblesOver cfg d := by
    intro d hd h
    rw [ofDatum_form hd] at h
    exact .form hd ((unreported_error_of_spelled rfl rfl).mp h)
  -- Of entries, the recursion only reaches the nodes behind those that have been read.
  refine ofDatum.induct (fun d => Unreported (ofDatum cfg d) → StumblesOver cfg d)
    (fun es => ∀ before k n after, es = before ++ .list [k, n] :: after →
      (∀ x ∈ before, ∃ e, ofEntry cfg x = .ok e) → Unreported (ofDatum cfg n) → StumblesOver cfg n)
    (fun ds => ∀ d ∈ ds, Unreported (ofDatum cfg d) → StumblesOver cfg d)
    ?empty ?untagged ?null ?cell ?array ?map ?unknown ?other ?noEntries ?entry ?badEntry ?noItems ?item d
  case empty =>
    intro h
    exact hform (by simp) h
  case untagged =>
    intro tag rest ht h
    refine hform ?_ h
    rintro tag' rest' heq
    cases heq
    exact ht
  case null =>
    intro tag ht h
    rw [ofDatum_null ht] at h
    exact absurd h (not_unreported_ok _)
  case cell =>
    intro tag v ht h
    rw [ofDatum_cell ht, unreported_bind] at h
    rcases h with h | ⟨a, ha, h⟩
    · exact .cell ht (AlignedValue.unreported_iff.mp h)
    · obtain ⟨hcap, hroom⟩ := unreported_makeCell.mp h
      exact .cellRoom ht ha hcap hroom
  case array =>
    intro tag items ht ih h
    rw [ofDatum_array ht, unreported_bind, unreported_mapM] at h
    rcases h with ⟨before, x, after, rfl, hbefore, h⟩ | ⟨ts, -, h⟩
    · exact .item ht (exists_mapM_ok.mp hbefore) (ih x (by simp) h)
    · exact absurd h (not_unreported_makeArray ts)
  case map =>
    intro tag entries ht ih h
    rw [ofDatum_map ht, unreported_bind, unreported_mapM] at h
    rcases h with ⟨before, x, after, rfl, hbefore, h⟩ | ⟨es, hes, h⟩
    · rw [exists_mapM_ok] at hbefore
      by_cases hx : ∃ k n, x = .list [k, n]
      · obtain ⟨k, n, rfl⟩ := hx
        rcases unreported_ofEntry.mp h with hk | ⟨hk, hn⟩
        · exact .key ht hbefore hk
        · exact .node ht hbefore hk (ih before k n after rfl hbefore hn)
      · have hne : ∀ k n, x ≠ .list [k, n] := fun k n hkn => hx ⟨k, n, hkn⟩
        rw [ofEntry_of_ne hne] at h
        exact .entry ht hbefore hne ((unreported_error_of_spelled rfl rfl).mp h)
    · obtain ⟨e, he, hroom⟩ := unreported_makeMap.mp h
      exact .keyRoom ht hes he hroom
  case unknown =>
    intro tag rest i ht h₀ h₁ h₂ h₃ h
    rw [ofDatum_unknown ht h₀ h₁ h₂ h₃] at h
    exact .tag (Option.isSome_of_eq_some ht) ((unreported_error_of_spelled rfl rfl).mp h)
  case other =>
    intro d _ hne h
    exact hform (fun tag rest hd => (hne tag rest hd).elim) h
  case noEntries => simp
  case entry =>
    intro k n es hn ih before k' n' after hes hbefore
    cases before with
    | nil =>
      cases hes
      exact hn
    | cons x before =>
      obtain ⟨-, rfl⟩ := List.cons.inj hes
      exact ih before k' n' after rfl (List.forall_mem_cons.mp hbefore).2
  case badEntry =>
    intro d es hne before k n after hes hbefore
    cases before with
    | nil =>
      obtain ⟨rfl, -⟩ := List.cons.inj hes
      exact (hne k n rfl).elim
    | cons x before =>
      obtain ⟨rfl, -⟩ := List.cons.inj hes
      obtain ⟨e, he⟩ := (List.forall_mem_cons.mp hbefore).1
      rw [ofEntry_of_ne hne] at he
      simp at he
  case noItems => simp
  case item =>
    intro d ds hd hds
    exact List.forall_mem_cons.mpr ⟨hd, hds⟩

end Nodes

theorem unreported_iff : Unreported (ofDatum cfg d) ↔ StumblesOver cfg d :=
  ⟨stumblesOver_of_unreported d, unreported_of_stumblesOver⟩

/-- Bytes that make no item at all are always reported. -/
theorem unreported_decode {b : Bytes} :
    Unreported (decode cfg b) ↔
      ∃ item, Cbor.decode? b = some item ∧ StumblesOver cfg item.toDatum := by
  unfold decode
  cases Cbor.decode? b with
  | some item => simp [unreported_iff]
  | none => simp [not_unreported_error (e := .invalidCbor "state") rfl rfl]

end Tree

variable [Memory]

namespace ChargedState

variable {cfg : Config} {d : Datum}

/-- Reading a charged state stumbles over the datum. The charge is looked at last. -/
inductive StumblesOver (cfg : Config) : Datum → Prop
  | version {mark version node charged : Datum} (hm : mark.same (.bytes magic) = true)
      (hv : version.same (.int formatVersion) = false) (hw : version.isWritable = false) :
      StumblesOver cfg (.list [mark, version, node, charged])
  | node {mark version node charged : Datum} (hm : mark.same (.bytes magic) = true)
      (hv : version.same (.int formatVersion) = true) (h : Tree.StumblesOver cfg node) :
      StumblesOver cfg (.list [mark, version, node, charged])
  | charge {mark version node charged : Datum} (hm : mark.same (.bytes magic) = true)
      (hv : version.same (.int formatVersion) = true) (hn : ∃ t, Tree.ofDatum cfg node = .ok t)
      (hc : ¬ ∃ i, charged.toInt = .ok i) : StumblesOver cfg (.list [mark, version, node, charged])

theorem unreported_ofParts {node charged : Datum} :
    Unreported (do
      let t ← Tree.ofDatum cfg node
      let n ← charged.toInt
      pure (make t n)) ↔
      Tree.StumblesOver cfg node ∨
        (∃ t, Tree.ofDatum cfg node = .ok t) ∧ ¬ ∃ i, charged.toInt = .ok i := by
  have hint := unreported_iff_of_forall (x := charged.toInt) fun e => Datum.not_isReported_of_toInt
  simp only [unreported_bind, Tree.unreported_iff, hint, pure_eq_ok, not_unreported_ok, and_false,
    exists_false, or_false, ← exists_and_right]

theorem unreported_iff : Unreported (ofDatum cfg d) ↔ StumblesOver cfg d := by
  unfold ofDatum
  split
  · next mark version node charged =>
    cases hm : mark.same (.bytes magic) with
    | false =>
      constructor
      · intro h
        exact absurd h (not_unreported_error rfl rfl)
      · rintro (⟨hm', -, -⟩ | ⟨hm', -, -⟩ | ⟨hm', -, -, -⟩) <;> simp [hm] at hm'
    | true =>
      cases hv : version.same (.int formatVersion) with
      | false =>
        refine (unreported_error_of_spelled rfl rfl).trans ⟨.version hm hv, ?_⟩
        rintro (⟨-, -, hw⟩ | ⟨-, hv', -⟩ | ⟨-, hv', -, -⟩)
        · exact hw
        · simp [hv] at hv'
        · simp [hv] at hv'
      | true =>
        refine Iff.trans unreported_ofParts ?_
        constructor
        · rintro (h | ⟨hn, hc⟩)
          · exact .node hm hv h
          · exact .charge hm hv hn hc
        · rintro (⟨-, hv', -⟩ | ⟨-, -, h⟩ | ⟨-, -, hn, hc⟩)
          · simp [hv] at hv'
          · exact .inl h
          · exact .inr ⟨hn, hc⟩
  · next hd =>
    constructor
    · intro h
      exact absurd h (not_unreported_error rfl rfl)
    · intro h
      cases h with
      | version | node | charge => exact (hd _ _ _ _ rfl).elim

theorem unreported_decode {b : Bytes} :
    Unreported (decode cfg b) ↔
      ∃ item, Cbor.decode? b = some item ∧ StumblesOver cfg item.toDatum := by
  unfold decode
  cases Cbor.decode? b with
  | some item => simp [unreported_iff]
  | none => simp [not_unreported_error (e := .invalidCbor "charged state") rfl rfl]

end ChargedState

end AlignedLedger
