import DriverKit.Proofs.Bindings
import DriverKit.Proofs.Disk.Making

/-!
# How a generation of bindings ends

A generation gives its output exactly where the program can be started and ends with code zero. What
else can happen is reported as a failure to generate bindings, with four exceptions. The host cannot
be asked for a header with a path that is too long, it cannot make a directory for the output where
a file or a name is in the way, it cannot be told a command with a null character, and what the
program says may be no text.
-/

namespace DriverKit.Bindings

/-- The header is a file and the program is found. -/
structure IsReady (disk : Disk) (tool : Tool) (header : Path) : Prop where
  isFile : disk.isFile header = .ok true
  found : tool.found.isSome = true

/-- The program can be started: nothing keeps the directory of the output from being there. -/
structure Starts (disk : Disk) (tool : Tool) (header output : Path) : Prop where
  ready : IsReady disk tool header
  admits : disk.Admits output.parent

/-- The failures to generate bindings, each with the code and the report that it is told with. -/
inductive Reports (disk : Disk) (tool : Tool) (program : String) (header output : Path) :
    Option Int → String → Prop
  | noHeader (noFile : disk.isFile header = .ok false) :
      Reports disk tool program header output none ("Header not found: " ++ header.text)
  | noProgram (isFile : disk.isFile header = .ok true) (missing : tool.found = none) :
      Reports disk tool program header output none (notFound program)
  | vanished (starts : Starts disk tool header output) (ending : tool.ending = .vanished) :
      Reports disk tool program header output none (notFound program)
  | refused {text : String} (starts : Starts disk tool header output)
      (ending : tool.ending = .refused text) :
      Reports disk tool program header output none text
  | exited {code : Int} {report : String} (starts : Starts disk tool header output)
      (ending : tool.ending = .exit code report) (failed : code ≠ 0) :
      Reports disk tool program header output (some code) report

/-- The failures that are passed on as they are. -/
inductive Escapes (disk : Disk) (tool : Tool) (header output : Path) : Failure → Prop
  | header (overlong : disk.place header = .error .overlong) :
      Escapes disk tool header output (.host (.overlong header.text))
  | directory {cause : Failure} (ready : IsReady disk tool header)
      (blocked : ¬ disk.Admits output.parent)
      (noRoom : (disk.makeDirectories output.parent none).1 = .error cause) :
      Escapes disk tool header output cause
  | unpassable (starts : Starts disk tool header output) (ending : tool.ending = .unpassable) :
      Escapes disk tool header output (.misuse .unnameable)
  | undecodable (starts : Starts disk tool header output) (ending : tool.ending = .undecodable) :
      Escapes disk tool header output (.misuse .undecodable)

/-- A host can be told a command just if no word of it has a null character. -/
def Tool.IsTold (tool : Tool) (words : List String) : Prop :=
  tool.ending = .unpassable ↔ ∃ word ∈ words, '\x00' ∈ word.toList

variable {disk : Disk} {tool : Tool} {program : String} {header output : Path}
  {flags : List String}

/-! ## The steps of a generation -/

/-- A generation is a sequence of steps, of which each can end it. -/
theorem outcome_generate :
    (generate disk tool program header flags output).result.outcome =
      ((disk.isFile header).mapError .host >>= fun isThere =>
        if isThere then
          if tool.found.isSome then
            (disk.makeDirectories output.parent none).1 >>= fun _ =>
              tool.ending.result program header output
          else .error (failure header (notFound program))
        else .error (failure header ("Header not found: " ++ header.text))) := by
  unfold generate
  cases disk.isFile header with
  | error fault => rfl
  | ok isThere =>
      cases isThere with
      | false => rfl
      | true =>
          cases tool.found with
          | none => rfl
          | some place =>
              generalize disk.makeDirectories output.parent none = made
              obtain ⟨outcome, changed⟩ := made
              cases outcome with
              | error failure => rfl
              | ok _ => cases tool.ending.result program header output <;> rfl

theorem outcome_of_isReady (ready : IsReady disk tool header) :
    (generate disk tool program header flags output).result.outcome =
      ((disk.makeDirectories output.parent none).1 >>= fun _ =>
        tool.ending.result program header output) := by
  rw [outcome_generate, ready.isFile, ready.found]
  rfl

/-- A program that is started decides how the generation ends. -/
theorem outcome_of_starts (tree : disk.IsTree) (starts : Starts disk tool header output) :
    (generate disk tool program header flags output).result.outcome =
      tool.ending.result program header output := by
  have made := (Disk.makeDirectories_eq_ok_iff tree).mpr starts.admits
  rw [outcome_of_isReady starts.ready, made, ok_bind]

theorem result_eq_ok_iff {ending : Ending} {made : Path} :
    ending.result program header output = .ok made ↔
      made = output ∧ ∃ report, ending = .exit 0 report := by
  cases ending with
  | exit code report =>
      by_cases done : code = 0
      · simp [Ending.result, done, eq_comm]
      · simp [Ending.result, done]
  | vanished => simp [Ending.result]
  | refused text => simp [Ending.result]
  | unpassable => simp [Ending.result]
  | undecodable => simp [Ending.result]

theorem result_eq_error_iff {ending : Ending} {cause : Failure} :
    ending.result program header output = .error cause ↔
      (ending = .vanished ∧ cause = failure header (notFound program)) ∨
        (∃ text, ending = .refused text ∧ cause = failure header text) ∨
          (∃ code report, ending = .exit code report ∧ code ≠ 0 ∧
            cause = .bindings header (some code) report) ∨
          (ending = .unpassable ∧ cause = .misuse .unnameable) ∨
            ending = .undecodable ∧ cause = .misuse .undecodable := by
  cases ending with
  | exit code report =>
      by_cases done : code = 0
      · simp [Ending.result, done]
      · simp [Ending.result, done, @eq_comm _ cause]
  | vanished => simp [Ending.result, @eq_comm _ cause]
  | refused text => simp [Ending.result, @eq_comm _ cause]
  | unpassable => simp [Ending.result, @eq_comm _ cause]
  | undecodable => simp [Ending.result, @eq_comm _ cause]

/-! ## How it ends -/

theorem outcome_generate_eq_ok_iff (tree : disk.IsTree) {made : Path} :
    (generate disk tool program header flags output).result.outcome = .ok made ↔
      made = output ∧ Starts disk tool header output ∧ ∃ report, tool.ending = .exit 0 report := by
  constructor
  · intro ended
    rw [outcome_generate, bind_eq_ok_iff] at ended
    obtain ⟨isThere, asked, later⟩ := ended
    cases isThere with
    | false => cases later
    | true =>
        cases found : tool.found.isSome with
        | false =>
            rw [found] at later
            cases later
        | true =>
            rw [found, if_pos rfl, if_pos rfl, bind_eq_ok_iff] at later
            obtain ⟨_, room, done⟩ := later
            obtain ⟨same, exited⟩ := result_eq_ok_iff.mp done
            exact ⟨same, ⟨⟨mapError_eq_ok_iff.mp asked, found⟩,
              (Disk.makeDirectories_eq_ok_iff tree).mp room⟩, exited⟩
  · rintro ⟨same, starts, exited⟩
    rw [outcome_of_starts tree starts]
    exact result_eq_ok_iff.mpr ⟨same, exited⟩

theorem Reports.outcome_generate (tree : disk.IsTree) {code : Option Int} {report : String}
    (reports : Reports disk tool program header output code report) :
    (generate disk tool program header flags output).result.outcome =
      .error (.bindings header code report) := by
  cases reports with
  | noHeader noFile =>
      rw [Bindings.outcome_generate, noFile]
      rfl
  | noProgram isFile missing =>
      rw [Bindings.outcome_generate, isFile, missing]
      rfl
  | vanished starts ending =>
      rw [outcome_of_starts tree starts, ending]
      rfl
  | refused starts ending =>
      rw [outcome_of_starts tree starts, ending]
      rfl
  | exited starts ending failed =>
      rw [outcome_of_starts tree starts]
      exact result_eq_error_iff.mpr (Or.inr (Or.inr (Or.inl ⟨_, _, ending, failed, rfl⟩)))

theorem Escapes.outcome_generate (tree : disk.IsTree) {cause : Failure}
    (escapes : Escapes disk tool header output cause) :
    (generate disk tool program header flags output).result.outcome = .error cause := by
  cases escapes with
  | header overlong =>
      rw [Bindings.outcome_generate, Disk.isFile_eq_error_iff.mpr ⟨overlong, rfl⟩]
      rfl
  | directory ready _ noRoom =>
      rw [outcome_of_isReady ready, noRoom]
      rfl
  | unpassable starts ending =>
      rw [outcome_of_starts tree starts, ending]
      rfl
  | undecodable starts ending =>
      rw [outcome_of_starts tree starts, ending]
      rfl

/-- A generation fails with one of the failures to generate bindings, or with one that escapes. -/
theorem outcome_generate_eq_error_iff (tree : disk.IsTree) {cause : Failure} :
    (generate disk tool program header flags output).result.outcome = .error cause ↔
      (∃ code report, Reports disk tool program header output code report ∧
          cause = .bindings header code report) ∨
        Escapes disk tool header output cause := by
  constructor
  · intro ended
    rw [outcome_generate, bind_eq_error_iff] at ended
    rcases ended with refused | ⟨isThere, asked, later⟩
    · obtain ⟨fault, notAnswered, same⟩ := mapError_eq_error_iff.mp refused
      obtain ⟨overlong, rfl⟩ := Disk.isFile_eq_error_iff.mp notAnswered
      rw [← same]
      exact Or.inr (.header overlong)
    have asked := mapError_eq_ok_iff.mp asked
    cases isThere with
    | false =>
        cases later
        exact Or.inl ⟨_, _, .noHeader asked, rfl⟩
    | true =>
        cases found : tool.found with
        | none =>
            rw [found] at later
            cases later
            exact Or.inl ⟨_, _, .noProgram asked found, rfl⟩
        | some place =>
            have ready : IsReady disk tool header := ⟨asked, by rw [found]; rfl⟩
            rw [if_pos rfl, ready.found, if_pos rfl, bind_eq_error_iff] at later
            rcases later with noRoom | ⟨_, room, ended⟩
            · have notAdmits : ¬ disk.Admits output.parent := by
                rw [← Disk.makeDirectories_eq_ok_iff tree, noRoom]
                exact nofun
              exact Or.inr (.directory ready notAdmits noRoom)
            · have starts : Starts disk tool header output :=
                ⟨ready, (Disk.makeDirectories_eq_ok_iff tree).mp room⟩
              rcases result_eq_error_iff.mp ended with ⟨vanished, same⟩ | ⟨text, refused, same⟩ |
                ⟨code, report, exited, failed, same⟩ | ⟨unpassable, rfl⟩ | ⟨undecodable, rfl⟩
              · exact Or.inl ⟨_, _, .vanished starts vanished, same⟩
              · exact Or.inl ⟨_, _, .refused starts refused, same⟩
              · exact Or.inl ⟨_, _, .exited starts exited failed, same⟩
              · exact Or.inr (.unpassable starts unpassable)
              · exact Or.inr (.undecodable starts undecodable)
  · rintro (⟨code, report, reports, rfl⟩ | escapes)
    · exact reports.outcome_generate tree
    · exact escapes.outcome_generate tree

/-- Making directories fails with no failure of the build step's own. -/
theorem isReported_of_makeDirectories {path : Path} {cause : Failure}
    (failed : (disk.makeDirectories path none).1 = .error cause) : cause.isReported = false := by
  cases nameable : path.isNameable with
  | false =>
      rw [Disk.makeDirectories, nameable] at failed
      cases failed
      rfl
  | true =>
      obtain ⟨fault, rfl⟩ := Disk.failsByHost_makeDirectories disk nameable none cause failed
      rfl

theorem Escapes.isReported_eq_false {cause : Failure}
    (escapes : Escapes disk tool header output cause) : cause.isReported = false := by
  cases escapes with
  | header _ => rfl
  | directory _ _ noRoom => exact isReported_of_makeDirectories noRoom
  | unpassable _ _ => rfl
  | undecodable _ _ => rfl

theorem outcome_eq_unnameable_iff (tree : disk.IsTree) (starts : Starts disk tool header output) :
    (generate disk tool program header flags output).result.outcome
        = .error (.misuse .unnameable) ↔ tool.ending = .unpassable := by
  rw [outcome_of_starts tree starts, result_eq_error_iff]
  simp [failure]

theorem command_generate_iff_starts (tree : disk.IsTree) {words : List String} :
    (generate disk tool program header flags output).command = some words ↔
      words = command program header flags output ∧ Starts disk tool header output := by
  rw [command_generate_eq_some_iff, Disk.makeDirectories_eq_ok_iff tree]
  constructor
  · rintro ⟨same, isFile, found, admits⟩
    exact ⟨same, ⟨isFile, found⟩, admits⟩
  · rintro ⟨same, ⟨isFile, found⟩, admits⟩
    exact ⟨same, isFile, found, admits⟩

theorem disk_generate_of_isReady (ready : IsReady disk tool header) :
    (generate disk tool program header flags output).disk =
      (disk.makeDirectories output.parent none).2 := by
  have found : tool.found.isNone = false := by simpa using ready.found
  simp only [generate, ready.isFile, found, Bool.false_eq_true, if_false]
  split
  · rename_i made
    rw [made]
  · rename_i made
    rw [made]

theorem disk_generate_of_not_isReady (notReady : ¬ IsReady disk tool header) :
    (generate disk tool program header flags output).disk = disk := by
  unfold generate
  split
  · rfl
  · rfl
  · rename_i isFile
    cases found : tool.found with
    | none => rfl
    | some place => exact absurd ⟨isFile, by rw [found]; rfl⟩ notReady

/-- A generation gives its output exactly if the header is a file, the program is found, nothing
keeps the directory of the output from being there and the program ends with code zero. Otherwise it
fails to generate bindings and reports why, except where the host refuses to answer for a header
with a path that is too long or to make the directory of the output, where it cannot be told the
command, and where what the program says is no text. The host is asked to run this one command if
the program and the header are there and the directory of the output is, and else not; it cannot be
told the command if that has a null character. Without the program or the header nothing is made
either. -/
theorem generate_reports_unless_refused (tree : disk.IsTree) (tool : Tool) (program : String)
    (header output : Path) (flags : List String) :
    let generated := generate disk tool program header flags output
    (∀ made, generated.result.outcome = .ok made ↔
        made = output ∧ Starts disk tool header output ∧
          ∃ report, tool.ending = .exit 0 report) ∧
      (∀ cause, (generated.result.outcome = .error cause ∧ cause.isReported = true) ↔
        ∃ code report, Reports disk tool program header output code report ∧
          cause = .bindings header code report) ∧
      (∀ cause, (generated.result.outcome = .error cause ∧ cause.isReported = false) ↔
        Escapes disk tool header output cause) ∧
      (∀ words, generated.command = some words ↔
        words = command program header flags output ∧ Starts disk tool header output) ∧
      (Starts disk tool header output →
        generated.disk.isDirectory output.parent = .ok true ∧
          (tool.IsTold (command program header flags output) →
            (generated.result.outcome = .error (.misuse .unnameable) ↔
              ∃ word ∈ command program header flags output, '\x00' ∈ word.toList))) ∧
      (¬ IsReady disk tool header → generated.disk = disk) := by
  intro generated
  refine ⟨fun _ => outcome_generate_eq_ok_iff tree, fun cause => ?_, fun cause => ?_,
    fun _ => command_generate_iff_starts tree, fun starts => ?_, disk_generate_of_not_isReady⟩
  · rw [outcome_generate_eq_error_iff tree]
    constructor
    · rintro ⟨reports | escapes, isReported⟩
      · exact reports
      · rw [escapes.isReported_eq_false] at isReported
        cases isReported
    · rintro ⟨code, report, reports, rfl⟩
      exact ⟨Or.inl ⟨code, report, reports, rfl⟩, rfl⟩
  · rw [outcome_generate_eq_error_iff tree]
    constructor
    · rintro ⟨⟨code, report, _, rfl⟩ | escapes, notReported⟩
      · cases notReported
      · exact escapes
    · intro escapes
      exact ⟨Or.inr escapes, escapes.isReported_eq_false⟩
  · have made := (Disk.makeDirectories_eq_ok_iff tree).mpr starts.admits
    rw [disk_generate_of_isReady starts.ready]
    refine ⟨Disk.isDirectory_of_makeDirectories tree made, fun told => ?_⟩
    rw [outcome_eq_unnameable_iff tree starts]
    exact told

/-- A header and a program that are there, for an output in a directory that can be made and for one
in a file. -/
theorem generate_reports_unless_refused_below_file :
    let disk : Disk :=
      { Disk.empty with
        entries := [(⟨["h.h"]⟩, .file .empty), (⟨["out"]⟩, .file .empty)] }
    let tool : Tool := ⟨some (Path.ofText "/bin/bindgen"), .exit 0 ""⟩
    let header := Path.ofText "h.h"
    let made := generate disk tool "bindgen" header [] (Path.ofText "new/deep/b.rs")
    let refused := generate disk tool "bindgen" header [] (Path.ofText "out/b.rs")
    disk.IsTree ∧ Starts disk tool header (Path.ofText "new/deep/b.rs") ∧
      made.result.outcome = .ok (Path.ofText "new/deep/b.rs") ∧
      made.disk.isDirectory (Path.ofText "new/deep") = .ok true ∧
      ¬ disk.Admits (Path.ofText "out") ∧
      refused.result.outcome = .error (.host (.present "out")) ∧ refused.command = none := by
  intro disk tool header made refused
  have tree : disk.IsTree := Disk.isTree_of_entries (by decide)
  obtain ⟨madeOk, _, _, _, keepsRoom, _⟩ := generate_reports_unless_refused tree tool "bindgen"
    header (Path.ofText "new/deep/b.rs") []
  obtain ⟨_, _, escapes, starts, _⟩ := generate_reports_unless_refused tree tool "bindgen"
    header (Path.ofText "out/b.rs") []
  have ready : IsReady disk tool header := ⟨rfl, rfl⟩
  have room : disk.Admits (Path.ofText "new/deep") :=
    (Disk.makeDirectories_eq_ok_iff tree).mp rfl
  have noRoom :
      (disk.makeDirectories (Path.ofText "out") none).1 = .error (.host (.present "out")) := rfl
  have notAdmits : ¬ disk.Admits (Path.ofText "out") := by
    rw [← Disk.makeDirectories_eq_ok_iff tree, noRoom]
    exact nofun
  have canStart : Starts disk tool header (Path.ofText "new/deep/b.rs") := ⟨ready, room⟩
  refine ⟨tree, canStart, (madeOk _).mpr ⟨rfl, canStart, "", rfl⟩, (keepsRoom canStart).1,
    notAdmits, ((escapes _).mpr (.directory ready notAdmits noRoom)).1, ?_⟩
  rw [Option.eq_none_iff_forall_ne_some]
  exact fun words ran => notAdmits ((starts words).mp ran).2.admits

end DriverKit.Bindings
