import AlignedLedger.CommandLine.Files
import AlignedLedger.Proofs.Outcome

/-! What is found under a path once a file has been saved, under this path and under others. Saving makes
directories but takes none away, and writes at one place. -/

namespace AlignedLedger.CommandLine.Files

variable {fs fs' gs : Files} {p q : Path} {place : Place} {content : Bytes}

/-- The place that a path leads to if it leads anywhere. -/
def target (fs : Files) (p : Path) : Place := p.parts.foldl Place.next (fs.origin p)

theorem enter_eq_ok {part : String} {goal : Place} :
    fs.enter place part = .ok goal ↔ fs.entry? place = some .directory ∧
      (Utf8.encode part).length ≤ longestName ∧ goal = place.next part := by
  unfold enter
  split
  · next h => simp [h]
  · next h => simp [h]
  · next h =>
    split
    · next hl =>
      have hn : ¬ (Utf8.encode part).length ≤ longestName := Nat.not_le_of_lt hl
      simp [hn]
    · next hl =>
      have hn : (Utf8.encode part).length ≤ longestName := Nat.le_of_not_lt hl
      simp [h, hn, eq_comm]

theorem foldl_next_of_foldlM_enter {parts : List String} {start : Place}
    (h : parts.foldlM fs.enter start = .ok place) : place = parts.foldl Place.next start := by
  induction parts generalizing start with
  | nil => exact (Except.ok.inj h).symm
  | cons part parts ih =>
    obtain ⟨next, hnext, h⟩ := bind_eq_ok.mp h
    obtain ⟨-, -, rfl⟩ := enter_eq_ok.mp hnext
    exact ih h

theorem target_of_here (h : fs'.here = fs.here) (p : Path) : fs'.target p = fs.target p := by
  unfold target origin
  rw [h]

theorem target_of_resolve (h : fs.resolve p = .ok place) : place = fs.target p :=
  foldl_next_of_foldlM_enter h

section Put

variable {e : Entry} {other : Place}

theorem lookup_cons_eq (x : Place × Entry) (es : List (Place × Entry)) :
    (x :: es).lookup other = if other = x.1 then some x.2 else es.lookup other := by
  rw [List.lookup_cons]
  by_cases ho : other = x.1
  · rw [beq_iff_eq.mpr ho, if_pos ho]
  · rw [beq_eq_false_iff_ne.mpr ho, if_neg ho]

theorem lookup_filter_append (es : List (Place × Entry)) :
    ((es.filter fun x => x.1 ≠ place) ++ [(place, e)]).lookup other =
      if other = place then some e else es.lookup other := by
  induction es with
  | nil => exact lookup_cons_eq (place, e) []
  | cons x es ih =>
    rw [lookup_cons_eq]
    by_cases hx : x.1 = place
    · rw [List.filter_cons_of_neg (by simpa using hx), ih, hx]
      by_cases ho : other = place
      · rw [if_pos ho, if_pos ho]
      · rw [if_neg ho, if_neg ho, if_neg ho]
    · rw [List.filter_cons_of_pos (by simpa using hx), List.cons_append, lookup_cons_eq, ih]
      by_cases ho : other = x.1
      · have hne : other ≠ place := fun h => hx (ho.symm.trans h)
        rw [if_pos ho, if_neg hne, if_pos ho]
      · rw [if_neg ho, if_neg ho]

theorem entry?_put_self (hp : place ≠ []) : entry? (fs.put place e) place = some e := by
  unfold entry?
  rw [if_neg (by simpa using hp), put, lookup_filter_append, if_pos rfl]

theorem entry?_put_of_ne (hne : other ≠ place) : entry? (fs.put place e) other = fs.entry? other := by
  unfold entry?
  rw [put, lookup_filter_append, if_neg hne]

end Put

/-- All that there is stays, but that a file at one place may come to be another one. -/
structure KeptBut (place : Place) (fs fs' : Files) : Prop where
  here : fs'.here = fs.here
  entry : ∀ other e, fs.entry? other = some e → other ≠ place ∨ e = .directory →
    fs'.entry? other = some e

namespace KeptBut

theorem refl (place : Place) (fs : Files) : KeptBut place fs fs := ⟨rfl, fun _ _ h _ => h⟩

theorem trans (h : KeptBut place fs fs') (h' : KeptBut place fs' gs) : KeptBut place fs gs where
  here := h'.here.trans h.here
  entry other e he hne := h'.entry other e (h.entry other e he hne) hne

theorem put (content : Bytes) (h : fs.entry? place ≠ some .directory) :
    KeptBut place fs (fs.put place (.file content)) where
  here := rfl
  entry other e he hne := by
    have ho : other ≠ place := by
      rintro rfl
      rcases hne with hne | rfl
      · exact hne rfl
      · exact h he
    rwa [entry?_put_of_ne ho]

theorem target (h : KeptBut place fs fs') (p : Path) : fs'.target p = fs.target p := target_of_here h.here p

theorem foldlM_enter (h : KeptBut place fs fs') {parts : List String} {start goal : Place}
    (hr : parts.foldlM fs.enter start = .ok goal) : parts.foldlM fs'.enter start = .ok goal := by
  induction parts generalizing start with
  | nil => exact hr
  | cons part parts ih =>
    obtain ⟨next, hnext, hr⟩ := bind_eq_ok.mp hr
    obtain ⟨hdir, hl, rfl⟩ := enter_eq_ok.mp hnext
    have hnext' : fs'.enter start part = .ok (start.next part) :=
      enter_eq_ok.mpr ⟨h.entry start _ hdir (.inr rfl), hl, rfl⟩
    rw [List.foldlM_cons, hnext', ok_bind]
    exact ih hr

theorem resolve {goal : Place} (h : KeptBut place fs fs') (hr : fs.resolve p = .ok goal) :
    fs'.resolve p = .ok goal := by
  have ho : fs'.origin p = fs.origin p := by rw [origin, h.here, origin]
  rw [Files.resolve, ho]
  exact h.foldlM_enter hr

end KeptBut

theorem find?_eq_some {e : Entry} :
    fs.find? p = .ok (some e) ↔ ∃ goal, fs.resolve p = .ok goal ∧ fs.entry? goal = some e := by
  unfold find?
  split
  · next hr => simp [hr]
  · next hr => simp [hr]
  · next hr => simp [hr]

theorem KeptBut.find? {e : Entry} (h : KeptBut place fs fs') (hf : fs.find? p = .ok (some e))
    (hne : fs.target p ≠ place ∨ e = .directory) : fs'.find? p = .ok (some e) := by
  obtain ⟨goal, hr, he⟩ := find?_eq_some.mp hf
  obtain rfl := target_of_resolve hr
  exact find?_eq_some.mpr ⟨_, h.resolve hr, h.entry _ e he hne⟩

/-- The files in the end, be it that the work succeeds or that it fails. -/
def leaves {α : Type} : EStateM.Result Fault Files α → Files
  | .ok _ fs => fs
  | .error _ fs => fs

theorem settleDirectory_run (p : Path) (fs : Files) :
    settleDirectory p fs = match fs.makeDirectory p with
      | .ok gs => .ok () gs
      | .error e => match fs.find? p with
        | .ok (some .directory) => .ok () fs
        | _ => .error e fs := by
  rw [settleDirectory, bind_run_of_ok (get_run fs)]
  cases fs.makeDirectory p with
  | ok gs => rfl
  | error e => rcases fs.find? p with _ | _ | _ | _ <;> rfl

section SettleAll

variable {absolute : Bool} {part : String} {above : List String}

/-- What is missing above is made first. -/
theorem settleAll_of_missing (hr : fs.resolve ⟨absolute, (part :: above).reverse⟩ = .error .missingFile) :
    settleAll absolute (part :: above) fs =
      (settleAll absolute above >>= fun _ => settleDirectory ⟨absolute, (part :: above).reverse⟩) fs := by
  rw [settleAll, bind_run_of_ok (get_run fs), hr]

theorem settleAll_of_not_missing
    (hr : fs.resolve ⟨absolute, (part :: above).reverse⟩ ≠ .error .missingFile) :
    settleAll absolute (part :: above) fs = settleDirectory ⟨absolute, (part :: above).reverse⟩ fs := by
  rw [settleAll, bind_run_of_ok (get_run fs)]
  revert hr
  rcases fs.resolve ⟨absolute, (part :: above).reverse⟩ with e | goal
  · cases e with
    | missingFile => exact fun hr => absurd rfl hr
    | _ => exact fun _ => rfl
  · exact fun _ => rfl

end SettleAll

namespace KeptBut

theorem bind {α β : Type} {x : OnFiles α} {f : α → OnFiles β} (hx : KeptBut place fs (leaves (x fs)))
    (hf : ∀ a gs, KeptBut place fs gs → KeptBut place gs (leaves (f a gs))) :
    KeptBut place fs (leaves ((x >>= f) fs)) := by
  cases h : x fs with
  | error e gs =>
    rw [h] at hx
    rw [bind_run_of_error h]
    exact hx
  | ok a gs =>
    rw [h] at hx
    rw [bind_run_of_ok h]
    exact hx.trans (hf a gs hx)

theorem put_of_none {goal : Place} (e : Entry) (h : fs.entry? goal = none) :
    KeptBut place fs (fs.put goal e) where
  here := rfl
  entry other f hf _ := by
    have ho : other ≠ goal := by
      rintro rfl
      simp [h] at hf
    rwa [entry?_put_of_ne ho]

theorem makeDirectory (h : fs.makeDirectory p = .ok gs) : KeptBut place fs gs := by
  obtain ⟨goal, -, h⟩ := bind_eq_ok.mp h
  split at h
  · cases h
  · next he =>
    cases h
    exact put_of_none .directory (by simpa using he)

theorem settleDirectory (p : Path) (fs : Files) :
    KeptBut place fs (leaves (Files.settleDirectory p fs)) := by
  rw [settleDirectory_run]
  split
  · next h => exact makeDirectory h
  · split <;> exact refl place fs

theorem settleAll (absolute : Bool) (parts : List String) (fs : Files) :
    KeptBut place fs (leaves (Files.settleAll absolute parts fs)) := by
  induction parts generalizing fs with
  | nil => exact refl place fs
  | cons part above ih =>
    by_cases hr : fs.resolve ⟨absolute, (part :: above).reverse⟩ = .error .missingFile
    · rw [settleAll_of_missing hr]
      exact bind (ih fs) fun _ gs _ => settleDirectory _ gs
    · rw [settleAll_of_not_missing hr]
      exact settleDirectory _ fs

end KeptBut

/-- Nothing is made anew where the directory that a file lies in is there. -/
theorem settleAll_of_directory {absolute : Bool} {parts : List String} {goal : Place}
    (hr : fs.resolve ⟨absolute, parts.reverse⟩ = .ok goal) (hd : fs.entry? goal = some .directory) :
    settleAll absolute parts fs = .ok () fs := by
  cases parts with
  | nil => rfl
  | cons part above =>
    have hmake : fs.makeDirectory ⟨absolute, (part :: above).reverse⟩ = .error .fileExists := by
      rw [makeDirectory, hr, ok_bind, hd]
      rfl
    have hfind : fs.find? ⟨absolute, (part :: above).reverse⟩ = .ok (some .directory) :=
      find?_eq_some.mpr ⟨goal, hr, hd⟩
    have hne : fs.resolve ⟨absolute, (part :: above).reverse⟩ ≠ .error .missingFile := by
      rw [hr]
      simp
    rw [settleAll_of_not_missing hne, settleDirectory_run]
    simp only [hmake, hfind]

theorem KeptBut.save (p : Path) (content : Bytes) (fs : Files) :
    KeptBut (fs.target p) fs (leaves (Files.save p content fs)) := by
  refine bind (settleAll _ _ fs) fun _ gs hgs => ?_
  rw [bind_run_of_ok (get_run gs)]
  cases hr : gs.resolve p with
  | error e => exact refl _ gs
  | ok goal =>
    obtain rfl := target_of_resolve hr
    rw [bind_run_of_ok (ofExcept_ok _ gs), hgs.target]
    rcases he : gs.entry? (fs.target p) with _ | _ | _
    · exact put content (by simp [he])
    · exact put content (by simp [he])
    · exact refl _ gs

theorem KeptBut.of_save (h : Files.save p content fs = .ok () gs) : KeptBut (fs.target p) fs gs := by
  have hall := KeptBut.save p content fs
  rwa [h] at hall

/-- Directories are made first. What stands in the place of the file then may be no directory. -/
theorem save_eq_ok :
    save p content fs = .ok () fs' ↔
      ∃ gs, settleAll p.absolute p.parts.reverse.tail fs = .ok () gs ∧
        gs.resolve p = .ok (gs.target p) ∧ gs.entry? (gs.target p) ≠ some .directory ∧
        fs' = gs.put (gs.target p) (.file content) := by
  rw [save, bind_run_eq_ok]
  constructor
  · rintro ⟨_, gs, hmade, h⟩
    rw [bind_run_of_ok (get_run gs)] at h
    obtain ⟨goal, hr, h⟩ := bind_ofExcept_run.mp h
    obtain rfl := target_of_resolve hr
    refine ⟨gs, hmade, hr, ?_⟩
    rcases he : gs.entry? (gs.target p) with _ | _ | _
    · rw [he] at h
      cases h
      exact ⟨by simp, rfl⟩
    · rw [he] at h
      cases h
      exact ⟨by simp, rfl⟩
    · rw [he] at h
      cases h
  · rintro ⟨gs, hmade, hr, hd, rfl⟩
    refine ⟨(), gs, hmade, ?_⟩
    rw [bind_run_of_ok (get_run gs)]
    refine bind_ofExcept_run.mpr ⟨_, hr, ?_⟩
    rcases he : gs.entry? (gs.target p) with _ | _ | _
    · rfl
    · rfl
    · exact absurd he hd

theorem find?_save (h : save p content fs = .ok () fs') : fs'.find? p = .ok (some (.file content)) := by
  obtain ⟨gs, -, hr, hd, rfl⟩ := save_eq_ok.mp h
  have hroot : gs.target p ≠ [] := by
    intro he
    rw [he] at hd
    exact hd rfl
  exact find?_eq_some.mpr ⟨_, (KeptBut.put content hd).resolve hr, entry?_put_self hroot⟩

/-- A file can be written under the path. What is to stand in it does not matter. -/
def CanSave (fs : Files) (p : Path) : Prop := ∃ gs, save p [] fs = .ok () gs

theorem CanSave.save (h : fs.CanSave p) (content : Bytes) : ∃ gs, Files.save p content fs = .ok () gs := by
  obtain ⟨_, hs⟩ := h
  obtain ⟨gs, hmade, hr, hd, -⟩ := save_eq_ok.mp hs
  exact ⟨_, save_eq_ok.mpr ⟨gs, hmade, hr, hd, rfl⟩⟩

theorem canSave_of_save (h : save p content fs = .ok () fs') : fs.CanSave p := by
  obtain ⟨gs, hmade, hr, hd, -⟩ := save_eq_ok.mp h
  exact ⟨_, save_eq_ok.mpr ⟨gs, hmade, hr, hd, rfl⟩⟩

/-- The directory that a path lies in is there if the path leads anywhere. -/
theorem exists_directory {absolute : Bool} {above : List String} {part : String} {goal : Place}
    (h : fs.resolve ⟨absolute, above ++ [part]⟩ = .ok goal) :
    ∃ directory, fs.resolve ⟨absolute, above⟩ = .ok directory ∧
      fs.entry? directory = some .directory := by
  rw [resolve, List.foldlM_append] at h
  obtain ⟨directory, habove, h⟩ := bind_eq_ok.mp h
  obtain ⟨_, hlast, -⟩ := bind_eq_ok.mp h
  exact ⟨directory, habove, (enter_eq_ok.mp hlast).1⟩

theorem canSave_of_file (h : fs.find? p = .ok (some (.file content))) : fs.CanSave p := by
  obtain ⟨goal, hr, he⟩ := find?_eq_some.mp h
  obtain rfl := target_of_resolve hr
  have hmade : settleAll p.absolute p.parts.reverse.tail fs = .ok () fs := by
    obtain ⟨absolute, parts⟩ := p
    rcases List.eq_nil_or_concat parts with rfl | ⟨above, part, rfl⟩
    · rfl
    · rw [List.concat_eq_append] at hr
      obtain ⟨directory, habove, hd⟩ := exists_directory hr
      simp only [List.concat_eq_append, List.reverse_append, List.reverse_singleton,
        List.singleton_append, List.tail_cons]
      exact settleAll_of_directory (by rwa [List.reverse_reverse]) hd
  exact ⟨_, save_eq_ok.mpr ⟨fs, hmade, hr, by simp [he], rfl⟩⟩

end AlignedLedger.CommandLine.Files
