import CiWorkflow.Command
import CiWorkflow.Proofs.RoundTrip
import Mathlib.Logic.Function.Basic
/-!
# Formatting in Place

A command that formats a file in place either puts a text of the same meaning into it, or fails and
leaves all files alone. No command can tell the new contents from the old ones, since all that a
command uses of a file is the reading of its contents.

## Layers

- **Files after a command**: what was written takes the place of what was there.
- **Readings**: files that are read alike make no difference to any command.
- **Formatting**: the two outcomes, and the reading of the new contents.
-/

namespace CiWorkflow

open Yaml (Value)

/-! ## Files after a command -/

/-- The files once those that a command wrote have their new contents. -/
def Outcome.after (o : Outcome) (files : Files) : Files :=
  o.written.foldl (fun files e => Function.update files e.1 (.ok e.2)) files

/-- A command that writes nothing leaves all files as they are. -/
theorem Outcome.after_of_written_nil {o : Outcome} (h : o.written = []) (files : Files) :
    o.after files = files := by
  rw [after, h, List.foldl_nil]

theorem Outcome.after_of_written_singleton {o : Outcome} {file text : String}
    (h : o.written = [(file, text)]) (files : Files) :
    o.after files = Function.update files file (.ok text) := by
  rw [after, h, List.foldl_cons, List.foldl_nil]

/-! ## Readings -/

/-- What comes of the contents of a file. -/
def Files.reading (files : Files) (file : String) : Except String Reading :=
  (files file).map Workflow.ofText

theorem Files.reading_of_ok {files : Files} {file text : String} (h : files file = .ok text) :
    files.reading file = .ok (Workflow.ofText text) := by
  rw [reading, h]
  rfl

/-- New contents that are read as the old ones change no reading of any file. -/
theorem Files.reading_update {files : Files} {file old new : String} (h : files file = .ok old)
    (hread : Workflow.ofText new = Workflow.ofText old) :
    Files.reading (Function.update files file (.ok new)) = files.reading := by
  funext other
  by_cases hfile : other = file
  · subst hfile
    rw [reading_of_ok (Function.update_self ..), reading_of_ok h, hread]
  · rw [reading, reading, Function.update_of_ne hfile]

/-- Whichever text a value that survives is written as, it is read as that value. -/
theorem Workflow.SurvivesText.ofText_of_toText {w : Workflow} (h : w.SurvivesText) {text : String}
    (hwrite : w.toText = .ok text) : Value.ofText text = .ok w.toValue := by
  obtain ⟨written, hwritten, hread⟩ := h
  rwa [Except.ok.inj (hwrite.symm.trans hwritten)]

namespace Command

/-- What a command does with a file depends on its reading, and not on its text. -/
theorem withWorkflow_eq_reading (files : Files) (file : String) (act : Workflow → Outcome) :
    withWorkflow files file act =
      match files.reading file with
      | .error reason => .failure ("Failed to read workflow file '" ++ file ++ "': " ++ reason)
      | .ok r =>
        if r.isOk then act r.workflow
        else
          .failure ("'" ++ file ++ "' has " ++ toString r.problems.length ++ " parse error(s)") ""
            (String.join (r.messages.map fun m => "   " ++ m ++ "\n")) := by
  unfold withWorkflow Files.reading
  cases files file <;> rfl

/-- Files that are read alike make no difference to a command. -/
theorem run_congr {files files' : Files} (h : files.reading = files'.reading)
    (settings : Settings) (command : Command) :
    command.run settings files = command.run settings files' := by
  have hwith : ∀ file act, withWorkflow files file act = withWorkflow files' file act := by
    intro file act
    rw [withWorkflow_eq_reading, withWorkflow_eq_reading, h]
  cases command with
  | check file => simp only [run, runCheck, hwith]
  | lint file json => simp only [run, runLint, hwith]
  | format file inPlace => simp only [run, runFormat, hwith]
  | layout file => simp only [run, runLayout, hwith]
  | triggers file => simp only [run, runTriggers, hwith]
  | new sample => rfl

/-! ## Formatting -/

/-- What formatting in place comes to: new contents of one file, or a failure. -/
theorem run_format_cases (settings : Settings) {files : Files} {file c : String}
    (hfile : files file = .ok c) :
    ((Workflow.ofText c).problems = [] ∧ ∃ text, (Workflow.ofText c).workflow.toText = .ok text ∧
      (format file true).run settings files = { written := [(file, text)] }) ∨
    (((Workflow.ofText c).problems ≠ [] ∨
        ∃ fault, (Workflow.ofText c).workflow.toText = .error fault) ∧
      ((format file true).run settings files).failed = true ∧
      ((format file true).run settings files).written = []) := by
  show (_ ∧ ∃ text, _ ∧ runFormat files file true = _) ∨
    (_ ∧ (runFormat files file true).failed = true ∧ (runFormat files file true).written = [])
  rw [runFormat, withWorkflow, hfile]
  dsimp only
  by_cases hproblems : (Workflow.ofText c).problems = []
  · rw [if_pos (by rw [Reading.isOk, hproblems]; rfl)]
    cases hwrite : (Workflow.ofText c).workflow.toText with
    | ok text => exact .inl ⟨hproblems, text, rfl, rfl⟩
    | error fault => exact .inr ⟨.inr ⟨fault, rfl⟩, rfl, rfl⟩
  · rw [if_neg (by rwa [Reading.isOk, List.isEmpty_iff])]
    exact .inr ⟨.inl hproblems, rfl, rfl⟩

/-- The canonical text is read as the text it was made from. -/
theorem ofText_toText_ofText {c text : String} (hproblems : (Workflow.ofText c).problems = [])
    (hreads : Value.ofText text = .ok (Workflow.ofText c).workflow.toValue) :
    Workflow.ofText text = Workflow.ofText c := by
  obtain ⟨hforeign, hnormal⟩ := Workflow.canonical_ofText c
  calc Workflow.ofText text
      = Workflow.ofValue (Workflow.ofText c).workflow.toValue := Workflow.ofText_of_ok hreads
    _ = ⟨(Workflow.ofText c).workflow.normalize, []⟩ := Workflow.ofValue_toValue hforeign
    _ = ⟨(Workflow.ofText c).workflow, (Workflow.ofText c).problems⟩ := by rw [hnormal, hproblems]

/-- **Formatting in place** keeps the meaning of a file or changes nothing, if the text of a value
is read as that value. It succeeds exactly on the files that are read without problems and can be
written. Then the new contents are read as the old ones were, no other file changes, every command
does on the new files what it does on the old ones, and formatting again changes nothing. Otherwise
all files are as before. -/
theorem format_inPlace_preserves (settings : Settings) {files : Files} {file c : String}
    (hfile : files file = .ok c)
    (hreads : ∀ text, (Workflow.ofText c).workflow.toText = .ok text →
      Value.ofText text = .ok (Workflow.ofText c).workflow.toValue) :
    let outcome := (format file true).run settings files
    let after := outcome.after files
    (outcome.failed = false ↔
      (Workflow.ofText c).problems = [] ∧
        ∃ text, (Workflow.ofText c).workflow.toText = .ok text) ∧
    (outcome.failed = false → ∃ c',
      after = Function.update files file (.ok c') ∧
      Workflow.ofText c' = ⟨(Workflow.ofText c).workflow, []⟩ ∧
      (∀ settings' command, run settings' after command = run settings' files command) ∧
      ((format file true).run settings after).failed = false ∧
      ((format file true).run settings after).after after = after) ∧
    (outcome.failed = true → after = files) := by
  intro outcome after
  -- a failure writes nothing, so only a success has anything to show
  rcases run_format_cases settings hfile with
    ⟨hproblems, text, hwrite, hrun⟩ | ⟨hwhy, hfailed, hnothing⟩
  · have hsuccess : outcome.failed = false := congrArg Outcome.failed hrun
    have hread := ofText_toText_ofText hproblems (hreads text hwrite)
    have hafter : after = Function.update files file (.ok text) :=
      Outcome.after_of_written_singleton (congrArg Outcome.written hrun) files
    -- the new contents are read as the old ones, which is all that commands ask for
    have hsame : ∀ settings' command,
        run settings' after command = run settings' files command :=
      run_congr (hafter ▸ Files.reading_update hfile hread)
    refine ⟨⟨fun _ => ⟨hproblems, text, hwrite⟩, fun _ => hsuccess⟩, fun _ => ?_,
      fun h => absurd (hsuccess.symm.trans h) Bool.false_ne_true⟩
    refine ⟨text, hafter, by rw [hread, ← hproblems], hsame, ?_, ?_⟩
    · rw [hsame]
      exact hsuccess
    · -- the same text is written once more
      rw [hsame, Outcome.after_of_written_singleton (congrArg Outcome.written hrun), hafter,
        Function.update_idem]
  · refine ⟨⟨fun h => absurd (h.symm.trans hfailed) Bool.false_ne_true, ?_⟩,
      fun h => absurd (h.symm.trans hfailed) Bool.false_ne_true,
      fun _ => Outcome.after_of_written_nil hnothing files⟩
    rintro ⟨hproblems, text, hwrite⟩
    rcases hwhy with hproblem | ⟨fault, hfault⟩
    · exact absurd hproblems hproblem
    · rw [hwrite] at hfault
      cases hfault

/-- A file whose entries are not in their usual order. -/
def disorderedFile : String := "jobs: {build: {steps: [{run: make}]}}\non: push\n"

/-- Such a file gets other contents, so that the texts are different and the meaning is not. -/
theorem format_inPlace_preserves_disordered :
    let files : Files := fun _ => .ok disorderedFile
    let outcome := (format "ci.yml" true).run {} files
    let after := outcome.after files
    (Workflow.ofText disorderedFile).workflow.SurvivesText ∧
    outcome.failed = false ∧ after "ci.yml" ≠ files "ci.yml" ∧
    (∃ c', after = Function.update files "ci.yml" (.ok c') ∧
      Workflow.ofText c' = ⟨(Workflow.ofText disorderedFile).workflow, []⟩ ∧
      (∀ settings' command, run settings' after command = run settings' files command) ∧
      ((format "ci.yml" true).run {} after).failed = false ∧
      ((format "ci.yml" true).run {} after).after after = after) := by
  intro files outcome after
  have hsurvives : (Workflow.ofText disorderedFile).workflow.SurvivesText := by decide +kernel
  have hreads : ∀ text, (Workflow.ofText disorderedFile).workflow.toText = .ok text →
      Value.ofText text = .ok (Workflow.ofText disorderedFile).workflow.toValue :=
    fun _ => hsurvives.ofText_of_toText
  have hfile : files "ci.yml" = .ok disorderedFile := rfl
  have hkept := format_inPlace_preserves {} hfile hreads
  have hsuccess : outcome.failed = false := by decide +kernel
  exact ⟨hsurvives, hsuccess, by decide +kernel, hkept.2.1 hsuccess⟩

end Command

end CiWorkflow
