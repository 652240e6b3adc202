import AlignedLedger.Board.View
import AlignedLedger.CommandLine.Commands
import AlignedLedger.Proofs.CommandLine.Corrupt
import AlignedLedger.Proofs.CommandLine.Files
import AlignedLedger.Proofs.Markup.Plain

/-! What a command does after its circuit: it writes files and tells the user. Each part comes to its end
under a condition of its own and keeps the files that the parts before it wrote. -/

namespace AlignedLedger.CommandLine

/-- A fault has stopped the command, be it told or not. -/
def Halt.IsFault : Halt → Prop
  | .reported _ | .raised _ => True
  | .usage | .version | .help => False

theorem isFault_haltOver (e : Fault) : (haltOver e).IsFault := by
  unfold haltOver
  split <;> trivial

section Parts

variable {α β : Type} {files : Files} {kept : Files → Prop} {p q : Prop}

/-- Work comes to its end if all is fine, and else a fault stops it. Either way it keeps a property of the
files. -/
def Comes (r : EStateM.Result Halt Files α) (kept : Files → Prop) (fine : Prop) : Prop :=
  match r with
  | .ok _ fs => kept fs ∧ fine
  | .error h fs => kept fs ∧ ¬ fine ∧ h.IsFault

namespace Comes

theorem congr {r : EStateM.Result Halt Files α} (h : Comes r kept p) (hpq : p ↔ q) : Comes r kept q :=
  propext hpq ▸ h

theorem imp {r : EStateM.Result Halt Files α} {kept' : Files → Prop} (h : Comes r kept p)
    (hk : ∀ fs, kept fs → kept' fs) : Comes r kept' p := by
  cases r with
  | ok a fs => exact ⟨hk fs h.1, h.2⟩
  | error e fs => exact ⟨hk fs h.1, h.2⟩

theorem bind {x : Work α} {f : α → Work β} (hx : Comes (x files) kept p)
    (hf : ∀ a gs, kept gs → Comes (f a gs) kept q) : Comes ((x >>= f) files) kept (p ∧ q) := by
  cases h : x files with
  | error e gs =>
    rw [h] at hx
    rw [bind_run_of_error h]
    obtain ⟨hgs, hp, he⟩ := hx
    exact ⟨hgs, fun hpq => hp hpq.1, he⟩
  | ok a gs =>
    rw [h] at hx
    rw [bind_run_of_ok h]
    exact (hf a gs hx.1).congr (by simp [hx.2])

theorem unguarded (x : Except Fault α) (hk : kept files) :
    Comes (CommandLine.unguarded x files) kept (∃ a, x = .ok a) := by
  cases x with
  | ok a => exact ⟨hk, a, rfl⟩
  | error e => exact ⟨hk, by simp, trivial⟩

theorem save {path : String} {content : Bytes}
    (hkept : ∀ gs, Files.KeptBut (files.target (.ofText path)) files gs → kept gs) :
    Comes (CommandLine.save path content files) kept (files.CanSave (.ofText path)) := by
  have hall := Files.KeptBut.save (.ofText path) content files
  unfold CommandLine.save onFiles
  cases h : Files.save (.ofText path) content files with
  | ok u gs =>
    rw [h] at hall
    exact ⟨hkept gs hall, Files.canSave_of_save h⟩
  | error e gs =>
    rw [h] at hall
    refine ⟨hkept gs hall, fun hc => ?_, trivial⟩
    obtain ⟨gs, hs⟩ := hc.save content
    cases h.symm.trans hs

theorem pure (a : α) (hk : kept files) : Comes ((Pure.pure a : Work α) files) kept True := ⟨hk, trivial⟩

theorem mapM {f : α → Work β} {fine : α → Prop} {xs : List α}
    (hf : ∀ x ∈ xs, ∀ gs, kept gs → Comes (f x gs) kept (fine x)) (hk : kept files) :
    Comes (xs.mapM f files) kept (∀ x ∈ xs, fine x) := by
  induction xs generalizing files with
  | nil => exact (pure [] hk).congr (by simp)
  | cons x xs ih =>
    obtain ⟨hx, hxs⟩ := List.forall_mem_cons.mp hf
    rw [List.mapM_cons]
    have hrest : ∀ y gs, kept gs →
        Comes ((xs.mapM f >>= fun ys => Pure.pure (y :: ys)) gs) kept (∀ x ∈ xs, fine x) := by
      intro y gs hgs
      exact ((ih hxs hgs).bind fun ys hs hk => pure (y :: ys) hk).congr (and_iff_left trivial)
    exact ((hx files hk).bind hrest).congr List.forall_mem_cons.symm

/-- The fields of a board can be shown if its message and what is added to them can. -/
theorem summary (title : String) (v : Board.View) (more : List (String × String)) (hk : kept files) :
    Comes (CommandLine.summary title v more files) kept
      ((∀ m ∈ v.message, Markup.Renders m) ∧ ∀ r ∈ more, Markup.Renders r.2) := by
  have hstate : Markup.Renders v.state.name := by
    refine Markup.renders_of_not_mem ?_
    cases v.state <;> decide
  have hmessage : Markup.Renders (messageText v.message) ↔ ∀ m ∈ v.message, Markup.Renders m := by
    cases v.message with
    | none => simpa [messageText] using Markup.renders_of_not_mem (by decide)
    | some m => simp [messageText]
  have hsequence := Markup.renders_of_not_mem (bracket_not_mem_toString v.sequence)
  have howner := Markup.renders_of_not_mem (Hex.bracket_not_mem_marked v.owner)
  unfold CommandLine.summary
  have hrow : ∀ (r : String × String) gs, kept gs → Comes ((do
      let shown ← CommandLine.unguarded (Markup.render r.2)
      Pure.pure ("  " ++ r.1 ++ ": " ++ shown ++ "\n") : Work String) gs) kept (Markup.Renders r.2) := by
    intro r gs hgs
    exact ((unguarded _ hgs).bind fun shown hs hk => pure _ hk).congr (and_iff_left trivial)
  refine ((mapM (fun r _ => hrow r) hk).bind fun lines gs hgs => pure _ hgs).congr ?_
  simp only [List.cons_append, List.nil_append, List.forall_mem_cons, hstate, hmessage, hsequence, howner,
    true_and, and_true]

end Comes

/-- A transcript may be written next to the state file. -/
theorem Comes.writeTranscript {path : String} {content : Bytes} {transcript : Option String}
    {proof : ProofRecord} (hf : files.find? (.ofText path) = .ok (some (.file content)))
    (hq : ∀ q ∈ transcript, files.target (.ofText q) ≠ files.target (.ofText path)) :
    Comes (CommandLine.writeTranscript transcript proof files)
      (fun gs => gs.find? (.ofText path) = .ok (some (.file content)) ∧ gs.here = files.here)
      (∀ q ∈ transcript, files.CanSave (.ofText q)) := by
  cases transcript with
  | none => exact (pure () ⟨hf, rfl⟩).congr (by simp)
  | some q =>
    have hne := (hq q rfl).symm
    refine (save fun gs hgs => ?_).congr (by simp)
    exact ⟨hgs.find? hf (.inl hne), hgs.here⟩

variable [Memory]

/-- What a command does once the state is saved: it writes the transcript and shows the board. -/
theorem Comes.tell {cfg : Config} {path title : String} {content : Bytes} {transcript : Option String}
    {proof : ProofRecord} {t : Tree} {v : Board.View} {more : List (String × String)}
    (hf : files.find? (.ofText path) = .ok (some (.file content)))
    (hq : ∀ q ∈ transcript, files.target (.ofText q) ≠ files.target (.ofText path))
    (hv : Board.View.ofTree cfg t = .ok v) :
    Comes ((do
        CommandLine.writeTranscript transcript proof
        let v ← CommandLine.unguarded (Board.View.ofTree cfg t)
        CommandLine.summary title v more : Work String) files)
      (fun gs => gs.find? (.ofText path) = .ok (some (.file content)) ∧ gs.here = files.here)
      ((∀ q ∈ transcript, files.CanSave (.ofText q)) ∧
        (∀ m ∈ v.message, Markup.Renders m) ∧ ∀ r ∈ more, Markup.Renders r.2) := by
  refine (writeTranscript hf hq).bind fun _ gs hgs => ?_
  rw [hv, unguarded_ok, pure_bind]
  exact summary title v more hgs

end Parts

end AlignedLedger.CommandLine
