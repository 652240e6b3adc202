import AlignedLedger.Proofs.Datum.Coerce
import AlignedLedger.Proofs.Tree.Container
import AlignedLedger.Proofs.Tree.Corrupt
import AlignedLedger.Proofs.Tree.RoundTrip

/-! The layout of stored trees, as a relation between data and the trees that they spell. It leaves open
what counts as a list, a segment or a length, which is where reading takes more than it is meant to. -/

namespace AlignedLedger

/-- Two relations in a row, by the elements between them. -/
theorem forall₂_comp_iff {α β γ : Type} {R : α → β → Prop} {S : β → γ → Prop} {xs : List α}
    {zs : List γ} :
    List.Forall₂ (fun x z => ∃ y, R x y ∧ S y z) xs zs ↔
      ∃ ys, List.Forall₂ R xs ys ∧ List.Forall₂ S ys zs := by
  constructor
  · intro h
    induction h with
    | nil => exact ⟨[], .nil, .nil⟩
    | cons hx _ ih =>
      obtain ⟨y, hr, hs⟩ := hx
      obtain ⟨ys, hrs, hss⟩ := ih
      exact ⟨y :: ys, .cons hr hrs, .cons hs hss⟩
  · rintro ⟨ys, hr, hs⟩
    induction hr generalizing zs with
    | nil =>
      cases hs
      exact .nil
    | cons hr _ ih =>
      cases hs with
      | cons hs hss => exact .cons ⟨_, hr, hs⟩ (ih hss)

/-- What may stand for a list of slots, for a segment and for the length of an atom. -/
structure Reading where
  Sequence : Datum → List Datum → Prop
  Segment : Datum → Bytes → Prop
  Length : Datum → Int → Prop

namespace Reading

/-- Lists, byte strings and integers, with truth values as zero and one. -/
def documented : Reading where
  Sequence d xs := d.sequence? = some xs
  Segment d b := d.bytes? = some b
  Length d i := d.index? = some i

/-- All that can be gone through, and all that can be made into bytes and into an integer. -/
def lenient [Memory] : Reading where
  Sequence d xs := d.elements? = some xs
  Segment := Datum.ReadsAsBytes
  Length := Datum.ReadsAsInt

end Reading

namespace Datum

variable {d : Datum}

theorem elements?_of_sequence? {xs : List Datum} (h : d.sequence? = some xs) : d.elements? = some xs := by
  cases d with
  | list | tuple => exact h
  | _ => cases h

theorem readsAsInt_iff_of_index {i j : Int} (hi : d.index? = some i) : ReadsAsInt d j ↔ i = j := by
  constructor
  · intro h
    cases h with
    | number h => exact Option.some.inj (hi.symm.trans h)
    | fraction | numeral => cases hi
    | ascii hb => cases d <;> simp [bytes?, index?, integer?] at hb hi
  · rintro rfl
    exact .number hi

end Datum

namespace Atom

variable {d : Datum} {a : Atom} {r : Reading}

/-- A kind and a length. -/
def Spells (r : Reading) (d : Datum) (a : Atom) : Prop :=
  ∃ length, d.sequence? = some [.text a.kindName, length] ∧ r.Length length a.length

/-- A text and an integer, whatever they may say. -/
def LaidOut (d : Datum) : Prop :=
  ∃ name length, d.sequence? = some [.text name, length] ∧ length.index?.isSome

theorem isKindName_kindName (a : Atom) : isKindName a.kindName = true := by
  cases a <;> rfl

theorem make_eq_ok {name : String} {i : Int} (hk : isKindName name = true) :
    make name i = .ok a ↔ name = a.kindName ∧ i = a.length := by
  unfold make
  by_cases hb : name = "bytes"
  · rw [if_pos hb]
    subst hb
    cases i with
    | ofNat n =>
      cases a with
      | bytes m =>
        constructor
        · rintro ⟨⟩
          exact ⟨rfl, rfl⟩
        · rintro ⟨-, h⟩
          obtain rfl := Int.ofNat.inj h
          rfl
      | field | compress => simp [kindName]
    | negSucc n => cases a <;> simp [kindName, length]
  · rw [if_neg hb]
    by_cases hi : i = 0
    · by_cases hf : name = "field"
      · subst hf
        cases a <;> simp [hi, kindName, length]
      · have hc : name = "compress" := by simpa [isKindName, hb, hf] using hk
        subst hc
        cases a <;> simp [hi, kindName, length]
    · cases a <;> simp [hi, hb, kindName, length]

theorem ofDatum_eq_ok [Memory] : ofDatum d = .ok a ↔ Spells .lenient d a := by
  constructor
  · intro h
    unfold ofDatum at h
    split at h
    · next kind length hd =>
      unfold ofPair at h
      split at h
      · next name =>
        split at h
        · next hk =>
          obtain ⟨i, hi, hm⟩ := bind_eq_ok.mp h
          obtain ⟨rfl, rfl⟩ := (make_eq_ok hk).mp hm
          exact ⟨length, hd, Datum.toInt_eq_ok.mp hi⟩
        · cases h
      · cases h
    · cases h
  · rintro ⟨length, hd, hl⟩
    have hk := isKindName_kindName a
    rw [ofDatum, hd]
    change ofPair (.text a.kindName) length = .ok a
    rw [ofPair, if_pos hk, Datum.toInt_eq_ok.mpr hl, ok_bind]
    exact (make_eq_ok hk).mpr ⟨rfl, rfl⟩

theorem spells_documented_iff [Memory] : Spells .documented d a ↔ LaidOut d ∧ Spells .lenient d a := by
  constructor
  · rintro ⟨length, hd, hl⟩
    exact ⟨⟨_, length, hd, Option.isSome_of_eq_some hl⟩, length, hd, .number hl⟩
  · rintro ⟨⟨_, length', hd', hi⟩, length, hd, hl⟩
    cases hd.symm.trans hd'
    obtain ⟨i, hi⟩ := Option.isSome_iff_exists.mp hi
    obtain rfl := (Datum.readsAsInt_iff_of_index hi).mp hl
    exact ⟨_, hd, hi⟩

theorem laidOut_toItem (a : Atom) : LaidOut a.toItem.toDatum := ⟨a.kindName, _, rfl, rfl⟩

end Atom

namespace AlignedValue

variable {d : Datum} {v : AlignedValue} {r : Reading}

/-- The segments and the atoms, slot by slot. A slot for numbers drops the zeros at the end of its
segment. -/
def Spells (r : Reading) (d : Datum) (v : AlignedValue) : Prop :=
  ∃ segments atoms ss as, d.sequence? = some [segments, atoms] ∧
    r.Sequence segments ss ∧ r.Sequence atoms as ∧
    List.Forall₂ (fun s slot => ∃ b, r.Segment s b ∧ slot.segment = slot.atom.normalize b) ss v.slots ∧
    List.Forall₂ (fun a slot => Atom.Spells r a slot.atom) as v.slots

/-- Each segment is a byte string, and each atom has a kind and a length. -/
def LaidOut (d : Datum) : Prop :=
  ∃ segments atoms ss as, d.sequence? = some [segments, atoms] ∧
    segments.sequence? = some ss ∧ atoms.sequence? = some as ∧
    (∀ s ∈ ss, s.bytes?.isSome) ∧ ∀ a ∈ as, Atom.LaidOut a

theorem ofPair_eq_ok [Memory] {segments atoms : Datum} :
    ofPair segments atoms = .ok v ↔ ∃ ss as, segments.elements? = some ss ∧ atoms.elements? = some as ∧
      List.Forall₂ (fun s slot => ∃ b, s.ReadsAsBytes b ∧ slot.segment = slot.atom.normalize b) ss v.slots ∧
      List.Forall₂ (fun a slot => Atom.Spells .lenient a slot.atom) as v.slots := by
  simp only [ofPair, bind_eq_ok, elements_eq_ok, mapM_eq_ok, Datum.toBytes_eq_ok, Atom.ofDatum_eq_ok,
    ofSegments_eq_ok, forall₂_comp_iff]
  constructor
  · rintro ⟨bs, ⟨ss, hss, hbs⟩, _, ⟨as, has, ha⟩, hs, rfl⟩
    exact ⟨ss, as, hss, has, ⟨bs, hbs, hs⟩, List.forall₂_map_right_iff.mp ha⟩
  · rintro ⟨ss, as, hss, has, ⟨bs, hbs, hs⟩, ha⟩
    exact ⟨bs, ⟨ss, hss, hbs⟩, _, ⟨as, has, List.forall₂_map_right_iff.mpr ha⟩, hs, rfl⟩

theorem ofDatum_eq_ok [Memory] : ofDatum d = .ok v ↔ Spells .lenient d v := by
  constructor
  · intro h
    unfold ofDatum at h
    split at h
    · next segments atoms hd =>
      obtain ⟨ss, as, h⟩ := ofPair_eq_ok.mp h
      exact ⟨segments, atoms, ss, as, hd, h⟩
    · cases h
  · rintro ⟨segments, atoms, ss, as, hd, h⟩
    rw [ofDatum, hd]
    exact ofPair_eq_ok.mpr ⟨ss, as, h⟩

theorem segment_documented_iff [Memory] {s : Datum} {slot : Slot} :
    (∃ b, s.bytes? = some b ∧ slot.segment = slot.atom.normalize b) ↔
      s.bytes?.isSome ∧ ∃ b, s.ReadsAsBytes b ∧ slot.segment = slot.atom.normalize b := by
  constructor
  · rintro ⟨b, hb, hs⟩
    exact ⟨Option.isSome_of_eq_some hb, b, .content hb, hs⟩
  · rintro ⟨hb, b, hr, hs⟩
    obtain ⟨c, hc⟩ := Option.isSome_iff_exists.mp hb
    obtain rfl := (Datum.readsAsBytes_iff_of_bytes hc).mp hr
    exact ⟨c, hc, hs⟩

theorem spells_documented_iff [Memory] : Spells .documented d v ↔ LaidOut d ∧ Spells .lenient d v := by
  constructor
  · rintro ⟨segments, atoms, ss, as, hd, hss, has, hs, ha⟩
    simp only [Reading.documented, segment_documented_iff, List.forall₂_and_left] at hs
    simp only [Atom.spells_documented_iff, List.forall₂_and_left] at ha
    refine ⟨⟨segments, atoms, ss, as, hd, hss, has, hs.1, ha.1⟩, segments, atoms, ss, as, hd, ?_⟩
    have hss := Datum.elements?_of_sequence? hss
    have has := Datum.elements?_of_sequence? has
    exact ⟨hss, has, hs.2, ha.2⟩
  · rintro ⟨⟨_, _, ss', as', hd', hss', has', hs', ha'⟩, segments, atoms, ss, as, hd, hss, has, hs, ha⟩
    cases hd.symm.trans hd'
    obtain rfl := Option.some.inj (hss.symm.trans (Datum.elements?_of_sequence? hss'))
    obtain rfl := Option.some.inj (has.symm.trans (Datum.elements?_of_sequence? has'))
    refine ⟨_, _, ss, as, hd, hss', has', ?_, ?_⟩
    · simp only [Reading.documented, segment_documented_iff, List.forall₂_and_left]
      exact ⟨hs', hs⟩
    · simp only [Atom.spells_documented_iff, List.forall₂_and_left]
      exact ⟨ha', ha⟩

theorem laidOut_toItem (v : AlignedValue) : LaidOut v.toItem.toDatum := by
  rw [toItem, Cbor.Item.toDatum_array]
  simp only [List.map_cons, List.map_nil, Cbor.Item.toDatum_array, List.map_map]
  refine ⟨_, _, _, _, rfl, rfl, rfl, ?_, ?_⟩
  · simp [Datum.bytes?, Cbor.Item.toDatum]
  · simp only [List.mem_map]
    rintro _ ⟨a, -, rfl⟩
    exact a.laidOut_toItem

end AlignedValue

namespace Tree

variable {cfg : Config} {r : Reading} {d tag : Datum} {t : Tree}

/-- The datum spells the tree: a list that begins with the number of the node's kind. What it says keeps to
the caps, and of map entries under one key the last counts. -/
inductive Spells [Memory] (cfg : Config) (r : Reading) : Datum → Tree → Prop
  | null {tag : Datum} (ht : tag.index? = some 0) : Spells cfg r (.list [tag]) null
  | cell {tag d : Datum} {v : AlignedValue} (ht : tag.index? = some 1) (hv : v.Spells r d)
      (hcap : v.binaryLength ≤ cfg.maxCellBytes) : Spells cfg r (.list [tag, d]) (cell v)
  | array {tag : Datum} {rows : List (Datum × Tree)} (ht : tag.index? = some 2)
      (hrows : ∀ row ∈ rows, Spells cfg r row.1 row.2) (hcap : rows.length ≤ cfg.maxArrayLength) :
      Spells cfg r (.list [tag, .list (rows.map Prod.fst)]) (array (rows.map Prod.snd))
  | map {tag : Datum} {rows : List (Datum × Datum × AlignedValue × Tree)}
      {es : List (AlignedValue × Tree)} (ht : tag.index? = some 3)
      (hkeys : ∀ row ∈ rows, AlignedValue.Spells r row.1 row.2.2.1)
      (hroom : ∀ row ∈ rows, row.2.2.1.binaryLength ≤ Memory.available)
      (hrows : ∀ row ∈ rows, Spells cfg r row.2.1 row.2.2.2) (hs : Entries.Sorted es)
      (hlast : ∀ k, Entries.get? k es = Entries.get? k (rows.map fun row => row.2.2).reverse) :
      Spells cfg r (.list [tag, .list (rows.map fun row => .list [row.1, row.2.1])]) (map es)

/-- All cells and all keys of maps are laid out as they should be. -/
inductive LaidOut : Datum → Prop
  | null {tag : Datum} (ht : tag.index? = some 0) : LaidOut (.list [tag])
  | cell {tag d : Datum} (ht : tag.index? = some 1) (hd : AlignedValue.LaidOut d) :
      LaidOut (.list [tag, d])
  | array {tag : Datum} {ds : List Datum} (ht : tag.index? = some 2) (hds : ∀ d ∈ ds, LaidOut d) :
      LaidOut (.list [tag, .list ds])
  | map {tag : Datum} {ds : List Datum} (ht : tag.index? = some 3)
      (hkeys : ∀ k n, .list [k, n] ∈ ds → AlignedValue.LaidOut k)
      (hnodes : ∀ k n, .list [k, n] ∈ ds → LaidOut n) : LaidOut (.list [tag, .list ds])

theorem ofList_eq_iff {raw es : List (AlignedValue × Tree)} :
    Entries.ofList raw = es ↔
      Entries.Sorted es ∧ ∀ k, Entries.get? k es = Entries.get? k raw.reverse := by
  constructor
  · rintro rfl
    exact ⟨Entries.sorted_ofList raw, fun k => Entries.get?_ofList k raw⟩
  · rintro ⟨hs, hlast⟩
    refine (Entries.sorted_ofList raw).ext hs fun k => ?_
    rw [Entries.get?_ofList, hlast]

theorem ofDatum_of_spells [Memory] (h : Spells cfg .lenient d t) : ofDatum cfg d = .ok t := by
  induction h with
  | null ht => exact ofDatum_null ht
  | cell ht hv hcap =>
    rw [ofDatum_cell ht, AlignedValue.ofDatum_eq_ok.mpr hv, ok_bind]
    exact makeCell_eq_ok.mpr ⟨hcap, rfl⟩
  | array ht hrows hcap ih =>
    rw [ofDatum_array ht, mapM_map_eq_ok ih, ok_bind]
    exact makeArray_eq_ok.mpr ⟨by simpa using hcap, rfl⟩
  | @map tag rows es ht hkeys hroom hrows hs hlast ih =>
    have hentry : ∀ row ∈ rows, ofEntry cfg (.list [row.1, row.2.1]) = .ok row.2.2 := by
      intro row hrow
      rw [ofEntry, AlignedValue.ofDatum_eq_ok.mpr (hkeys row hrow), ok_bind, ih row hrow]
      rfl
    rw [ofDatum_map ht, mapM_map_eq_ok hentry, ok_bind]
    refine makeMap_eq_ok.mpr ⟨fun e he => ?_, congrArg map (ofList_eq_iff.mpr ⟨hs, hlast⟩).symm⟩
    obtain ⟨row, hrow, rfl⟩ := List.mem_map.mp he
    exact AlignedValue.requestBinary_eq_ok.mpr (hroom row hrow)

/-- By induction along the way that reading takes through the data. -/
theorem spells_of_ofDatum [Memory] (d : Datum) : ∀ t, ofDatum cfg d = .ok t → Spells cfg .lenient d t := by
  refine ofDatum.induct (fun d => ∀ t, ofDatum cfg d = .ok t → Spells cfg .lenient d t)
    (fun ds => ∀ es, ofEntryData cfg ds = .ok es →
      ∃ rows : List (Datum × Datum × AlignedValue × Tree),
        ds = rows.map (fun row => .list [row.1, row.2.1]) ∧ es = rows.map (fun row => row.2.2) ∧
        (∀ row ∈ rows, AlignedValue.Spells .lenient row.1 row.2.2.1) ∧
        ∀ row ∈ rows, Spells cfg .lenient row.2.1 row.2.2.2)
    (fun ds => ∀ ts, ofData cfg ds = .ok ts → ∃ rows : List (Datum × Tree),
      ds = rows.map Prod.fst ∧ ts = rows.map Prod.snd ∧ ∀ row ∈ rows, Spells cfg .lenient row.1 row.2)
    ?empty ?untagged ?null ?cell ?array ?map ?unknown ?other ?noEntries ?entry ?badEntry ?noItems ?item d
  case empty =>
    intro t h
    rw [ofDatum_form (by simp)] at h
    cases h
  case untagged =>
    intro tag rest ht t h
    rw [ofDatum_form (by simp [ht])] at h
    cases h
  case null =>
    intro tag ht t h
    rw [ofDatum_null ht] at h
    cases h
    exact .null ht
  case cell =>
    intro tag d ht t h
    rw [ofDatum_cell ht] at h
    obtain ⟨v, hv, h⟩ := bind_eq_ok.mp h
    obtain ⟨hcap, rfl⟩ := makeCell_eq_ok.mp h
    exact .cell ht (AlignedValue.ofDatum_eq_ok.mp hv) hcap
  case array =>
    intro tag items ht ih t h
    rw [ofDatum_array ht, ← ofData_eq_mapM] at h
    obtain ⟨ts, hts, h⟩ := bind_eq_ok.mp h
    obtain ⟨hcap, rfl⟩ := makeArray_eq_ok.mp h
    obtain ⟨rows, rfl, rfl, hrows⟩ := ih ts hts
    exact .array ht hrows (by simpa using hcap)
  case map =>
    intro tag entries ht ih t h
    rw [ofDatum_map ht, ← ofEntryData_eq_mapM] at h
    obtain ⟨es, hes, h⟩ := bind_eq_ok.mp h
    obtain ⟨hroom, rfl⟩ := makeMap_eq_ok.mp h
    obtain ⟨rows, rfl, rfl, hkeys, hrows⟩ := ih es hes
    obtain ⟨hs, hlast⟩ := ofList_eq_iff.mp (rfl : Entries.ofList (rows.map fun row => row.2.2) = _)
    refine .map ht hkeys (fun row hrow => ?_) hrows hs hlast
    exact AlignedValue.requestBinary_eq_ok.mp (hroom _ (List.mem_map_of_mem hrow))
  case unknown =>
    intro tag rest i ht h₀ h₁ h₂ h₃ t h
    rw [ofDatum_unknown ht h₀ h₁ h₂ h₃] at h
    cases h
  case other =>
    intro d _ hne t h
    rw [ofDatum_form fun tag rest hd => (hne tag rest hd).elim] at h
    cases h
  case noEntries =>
    rintro es ⟨⟩
    exact ⟨[], rfl, rfl, by simp, by simp⟩
  case entry =>
    intro k n ds hn ih es h
    simp only [ofEntryData, bind_eq_ok, pure_eq_ok] at h
    obtain ⟨key, hkey, t, ht, es, hes, ⟨⟩⟩ := h
    obtain ⟨rows, rfl, rfl, hkeys, hrows⟩ := ih es hes
    refine ⟨(k, n, key, t) :: rows, rfl, rfl, ?_, ?_⟩
    · exact List.forall_mem_cons.mpr ⟨AlignedValue.ofDatum_eq_ok.mp hkey, hkeys⟩
    · exact List.forall_mem_cons.mpr ⟨hn t ht, hrows⟩
  case badEntry =>
    intro d ds hne es h
    rw [ofEntryData_eq_mapM, List.mapM_cons, ofEntry_of_ne fun k n hd => hne k n hd] at h
    cases h
  case noItems =>
    rintro ts ⟨⟩
    exact ⟨[], rfl, rfl, by simp⟩
  case item =>
    intro d ds hd ih ts h
    simp only [ofData, bind_eq_ok, pure_eq_ok] at h
    obtain ⟨t, ht, ts, hts, ⟨⟩⟩ := h
    obtain ⟨rows, rfl, rfl, hrows⟩ := ih ts hts
    exact ⟨(d, t) :: rows, rfl, rfl, List.forall_mem_cons.mpr ⟨hd t ht, hrows⟩⟩

theorem ofDatum_eq_ok [Memory] : ofDatum cfg d = .ok t ↔ Spells cfg .lenient d t :=
  ⟨spells_of_ofDatum d t, ofDatum_of_spells⟩

theorem Spells.built [Memory] (h : Spells cfg r d t) : Built cfg t := by
  induction h with
  | null => exact .null
  | cell _ _ hcap => exact built_cell_iff.mpr hcap
  | array _ _ hcap ih =>
    refine built_array_iff.mpr ⟨by simpa using hcap, fun u hu => ?_⟩
    obtain ⟨row, hrow, rfl⟩ := List.mem_map.mp hu
    exact ih row hrow
  | @map tag rows es _ _ hroom _ hs hlast ih =>
    refine built_map_iff.mpr ⟨hs, fun e he => ?_⟩
    rw [← ofList_eq_iff.mpr ⟨hs, hlast⟩] at he
    obtain ⟨row, hrow, rfl⟩ := List.mem_map.mp (Entries.mem_of_mem_ofList he)
    exact ⟨AlignedValue.requestBinary_eq_ok.mpr (hroom row hrow), ih row hrow⟩

section LaidOut

variable {ds : List Datum}

theorem LaidOut.of_cell (h : LaidOut (.list [tag, d])) (ht : tag.index? = some 1) :
    AlignedValue.LaidOut d := by
  cases h with
  | cell _ hd => exact hd
  | array ht' | map ht' => simp [ht] at ht'

theorem LaidOut.of_array (h : LaidOut (.list [tag, .list ds])) (ht : tag.index? = some 2) :
    ∀ d ∈ ds, LaidOut d := by
  cases h with
  | array _ hds => exact hds
  | cell ht' | map ht' => simp [ht] at ht'

theorem LaidOut.of_map (h : LaidOut (.list [tag, .list ds])) (ht : tag.index? = some 3) :
    ∀ k n, .list [k, n] ∈ ds → AlignedValue.LaidOut k ∧ LaidOut n := by
  cases h with
  | map _ hkeys hnodes => exact fun k n hmem => ⟨hkeys k n hmem, hnodes k n hmem⟩
  | cell ht' | array ht' => simp [ht] at ht'

theorem laidOut_toItem (t : Tree) : LaidOut t.toItem.toDatum := by
  induction t with
  | null => exact .null rfl
  | cell v => exact .cell rfl v.laidOut_toItem
  | array items ih =>
    rw [toItem, toItemList_eq_map]
    simp only [Cbor.Item.toDatum_array, List.map_cons, List.map_nil, List.map_map]
    refine .array rfl fun d hd => ?_
    obtain ⟨u, hu, rfl⟩ := List.mem_map.mp hd
    exact ih u hu
  | map es ih =>
    have hentry : ∀ k n, .list [k, n] ∈ es.map (fun e => Datum.list [e.1.toItem.toDatum, e.2.toItem.toDatum]) →
        AlignedValue.LaidOut k ∧ LaidOut n := by
      intro k n h
      obtain ⟨e, he, heq⟩ := List.mem_map.mp h
      cases heq
      exact ⟨e.1.laidOut_toItem, ih e he⟩
    rw [toItem, toItemEntries_eq_map]
    simp only [Cbor.Item.toDatum_array, List.map_cons, List.map_nil, List.map_map]
    exact .map rfl (fun k n h => (hentry k n h).1) fun k n h => (hentry k n h).2

variable [Memory]

theorem Spells.laidOut (h : Spells cfg .documented d t) : LaidOut d := by
  induction h with
  | null ht => exact .null ht
  | cell ht hv => exact .cell ht (AlignedValue.spells_documented_iff.mp hv).1
  | array ht _ _ ih =>
    refine .array ht fun d hd => ?_
    obtain ⟨row, hrow, rfl⟩ := List.mem_map.mp hd
    exact ih row hrow
  | map ht hkeys _ _ _ _ ih =>
    refine .map ht (fun k n h => ?_) fun k n h => ?_
    · obtain ⟨row, hrow, ⟨⟩⟩ := List.mem_map.mp h
      exact (AlignedValue.spells_documented_iff.mp (hkeys row hrow)).1
    · obtain ⟨row, hrow, ⟨⟩⟩ := List.mem_map.mp h
      exact ih row hrow

theorem Spells.lenient (h : Spells cfg .documented d t) : Spells cfg .lenient d t := by
  induction h with
  | null ht => exact .null ht
  | cell ht hv hcap => exact .cell ht (AlignedValue.spells_documented_iff.mp hv).2 hcap
  | array ht _ hcap ih => exact .array ht ih hcap
  | map ht hkeys hroom _ hs hlast ih =>
    refine .map ht (fun row hrow => ?_) hroom ih hs hlast
    exact (AlignedValue.spells_documented_iff.mp (hkeys row hrow)).2

theorem Spells.documented (h : Spells cfg .lenient d t) (hd : LaidOut d) : Spells cfg .documented d t := by
  induction h with
  | null ht => exact .null ht
  | cell ht hv hcap => exact .cell ht (AlignedValue.spells_documented_iff.mpr ⟨hd.of_cell ht, hv⟩) hcap
  | array ht _ hcap ih =>
    refine .array ht (fun row hrow => ih row hrow ?_) hcap
    exact hd.of_array ht _ (List.mem_map_of_mem hrow)
  | @map tag rows es ht hkeys hroom _ hs hlast ih =>
    have hrows : ∀ row ∈ rows, AlignedValue.LaidOut row.1 ∧ LaidOut row.2.1 := by
      intro row hrow
      exact hd.of_map ht _ _ (List.mem_map.mpr ⟨row, hrow, rfl⟩)
    refine .map ht (fun row hrow => ?_) hroom (fun row hrow => ih row hrow (hrows row hrow).2) hs hlast
    exact AlignedValue.spells_documented_iff.mpr ⟨(hrows row hrow).1, hkeys row hrow⟩

end LaidOut

/-- Data are read as the tree that they spell under the lenient reading, and as none if they spell none.
What keeps to the documented layout is read as it says; what is read without keeping to it has a cell or a
key that is not laid out so. Writing the tree always gives the documented layout of it. -/
theorem ofDatum_iff_spells [Memory] (cfg : Config) (d : Datum) (t : Tree) :
    (ofDatum cfg d = .ok t ↔ Spells cfg .lenient d t) ∧
    (Spells cfg .documented d t ↔ ofDatum cfg d = .ok t ∧ LaidOut d) ∧
    (ofDatum cfg d = .ok t → Spells cfg .documented t.toItem.toDatum t) := by
  refine ⟨ofDatum_eq_ok, ?_, ?_⟩
  · constructor
    · exact fun h => ⟨ofDatum_eq_ok.mpr h.lenient, h.laidOut⟩
    · rintro ⟨h, hd⟩
      exact (ofDatum_eq_ok.mp h).documented hd
  · intro h
    -- What is written of a tree is read back, and it is laid out as it should be.
    have hb : Built cfg t := (ofDatum_eq_ok.mp h).built
    exact (ofDatum_eq_ok.mp hb.ofDatum_toItem).documented (laidOut_toItem t)

/-- A map whose keys are out of order, one of them twice and with a zero at its end. -/
theorem spells_map_out_of_order :
    let cfg := Config.ofEnvironment fun _ => none
    let key (b : Bytes) : Datum := .list [.list [.bytes b], .list [.list [.text "bytes", .int 2]]]
    let entry (b : Bytes) (node : Datum) : Datum := .list [key b, node]
    let d : Datum := .list [.int 3, .list [entry [7] (.list [.bool false]), entry [1, 1] (.list [.int 0]),
      entry [7, 0] (.list [.int 1, key [2]])]]
    ∃ t, ofDatum cfg d = .ok t ∧ Spells cfg .documented d t ∧ Spells cfg .documented t.toItem.toDatum t := by
  intro cfg key entry d
  obtain ⟨t, ht⟩ : ∃ t, ofDatum cfg d = .ok t := exists_ok_of_toBool (by decide +kernel)
  have hkey : ∀ b, AlignedValue.LaidOut (key b) := fun b =>
    ⟨_, _, _, _, rfl, rfl, rfl, by simp [Datum.bytes?], by simpa using ⟨_, _, rfl, rfl⟩⟩
  have hd : LaidOut d := by
    refine .map rfl ?_ ?_
    · simp only [entry, List.mem_cons, Datum.list.injEq, List.cons.injEq, and_true]
      rintro k n (⟨rfl, -⟩ | ⟨rfl, -⟩ | ⟨rfl, -⟩ | ⟨⟨⟩⟩) <;> exact hkey _
    · simp only [entry, List.mem_cons, Datum.list.injEq, List.cons.injEq, and_true]
      rintro k n (⟨-, rfl⟩ | ⟨-, rfl⟩ | ⟨-, rfl⟩ | ⟨⟨⟩⟩)
      · exact .null rfl
      · exact .null rfl
      · exact .cell rfl (hkey _)
  obtain ⟨-, hdocumented, hwritten⟩ := ofDatum_iff_spells cfg d t
  exact ⟨t, ht, hdocumented.mpr ⟨ht, hd⟩, hwritten ht⟩

/-- A number in the place of a segment is read as so many zeros. -/
theorem number_read_as_segment :
    ¬ ∀ (cfg : Config) (d : Datum) (t : Tree), ofDatum cfg d = .ok t →
      LaidOut d ∧ Spells cfg .documented d t := by
  intro h
  let segments : Datum := .list [.int 3]
  let atoms : Datum := .list [.list [.text "bytes", .int 3]]
  obtain ⟨t, ht⟩ : ∃ t, ofDatum (Config.ofEnvironment fun _ => none)
      (.list [.int 1, .list [segments, atoms]]) = .ok t := exists_ok_of_toBool (by decide +kernel)
  obtain ⟨_, _, ss, as, ⟨⟩, ⟨⟩, -, hs, -⟩ := (h _ _ t ht).1.of_cell rfl
  simp [Datum.bytes?] at hs

end Tree

end AlignedLedger
