/-
Module: CardCodex.Proofs.CommandLine
Purpose: The command line is all or nothing.  A run prints the whole of what its arguments
  ask for and ends with status 0, or it prints nothing on standard output, explains itself
  on standard error and ends with status 1.
Main exports: textOfLines, run_printLines, Asks, Command.ofArguments_eq_ok_iff, Prints,
  Command.settles, Succeeds, AllOrNothing, runCommandLine_allOrNothing
-/
import CardCodex.Command.Outcome
import CardCodex.Proofs.Reachable

namespace CardCodex

/-! ### What the console shows -/

/-- Lines as text, each with a line feed at its end. -/
def textOfLines (lines : List String) : String :=
  String.join (lines.map fun line => line ++ "\n")

theorem textOfLines_cons (line : String) (rest : List String) :
    textOfLines (line :: rest) = line ++ "\n" ++ textOfLines rest := by
  rw [textOfLines, List.map_cons, String.join_cons, textOfLines]

theorem textOfLines_append (first second : List String) :
    textOfLines (first ++ second) = textOfLines first ++ textOfLines second := by
  rw [textOfLines, List.map_append, String.join_append, textOfLines, textOfLines]

theorem textOfLines_ne_empty {lines : List String} (someLine : lines ≠ []) :
    textOfLines lines ≠ "" := by
  cases lines with
  | nil => exact absurd rfl someLine
  | cons line rest =>
      rw [textOfLines_cons]
      simp

theorem run_printLines (stream : OutputStream) (lines : List String) (printed : Printed) :
    (printLines stream lines).run printed = ((), printed.append stream (textOfLines lines)) := by
  induction lines generalizing printed with
  | nil => exact congrArg (Prod.mk ()) (printed.append_empty stream).symm
  | cons line rest inductionHypothesis =>
      have step : (printLines stream (line :: rest)).run printed =
          (printLines stream rest).run (printed.append stream (line ++ "\n")) := rfl
      rw [step, inductionHypothesis, Printed.append_append, textOfLines_cons]

theorem run_printLine (stream : OutputStream) (line : String) (printed : Printed) :
    (printLine stream line).run printed = ((), printed.append stream (textOfLines [line])) :=
  run_printLines stream [line] printed

/-! ### What the arguments ask for -/

/-- The options that name a format. -/
inductive FormatOption : String → ListingFormat → Prop where
  | json : FormatOption "--format=json" .json
  | typeScript : FormatOption "--format=ts" .typeScript
  | cSharp : FormatOption "--format=cs" .cSharp

/-- The arguments that ask for a command.  Of several formats the last one counts. -/
inductive Asks : List String → Command → Prop where
  | help {name : String} {others : List String} (asked : name ∈ ["help", "--help", "-h"]) :
      Asks (name :: others) .help
  | list {options : List String} {formats : List ListingFormat}
      (given : List.Forall₂ FormatOption options formats) :
      Asks ("enums" :: options) (.list (formats.getLast?.getD .json))
  | describe (tagName value : String) : Asks ["tag", tagName, value] (.describe tagName value)
  | check (path : String) : Asks ["cards", path] (.check path)

theorem formatFlag?_eq_some_iff {argument flag : String} :
    formatFlag? argument = some flag ↔ argument = "--format=" ++ flag := by
  have headEq : formatOptionHead = "--format=".toList := rfl
  rw [formatFlag?]
  constructor
  · intro found
    split at found
    · next isHead =>
        obtain ⟨rest, split⟩ := List.isPrefixOf_iff_prefix.mp isHead
        have flagEq := Option.some.inj found
        rw [← split, List.drop_left] at flagEq
        subst flagEq
        apply String.toList_injective
        rw [String.toList_append, ← headEq, ← split]
        exact congrArg (formatOptionHead ++ ·) String.toList_ofList.symm
    · cases found
  · rintro rfl
    rw [String.toList_append, ← headEq, if_pos (by simp), List.drop_left, String.ofList_toList]

/-- The options are the known flags behind the head of an option. -/
theorem formatOption_iff {argument : String} {format : ListingFormat} :
    FormatOption argument format ↔
      ∃ flag, argument = "--format=" ++ flag ∧ ListingFormat.ofFlag? flag = some format := by
  constructor
  · intro option
    cases option with
    | json => exact ⟨"json", rfl, rfl⟩
    | typeScript => exact ⟨"ts", rfl, rfl⟩
    | cSharp => exact ⟨"cs", rfl, rfl⟩
  · rintro ⟨flag, rfl, known⟩
    unfold ListingFormat.ofFlag? at known
    split at known
    · cases known
      exact .json
    · cases known
      exact .typeScript
    · cases known
      exact .cSharp
    · cases known

theorem formatOption_eq_ok_iff {argument : String} {format : ListingFormat} :
    formatOption argument = .ok format ↔ FormatOption argument format := by
  have asked : (formatFlag? argument).bind ListingFormat.ofFlag? = some format ↔
      FormatOption argument format := by
    rw [Option.bind_eq_some_iff, formatOption_iff]
    simp only [formatFlag?_eq_some_iff]
  rw [← asked, formatOption]
  cases (formatFlag? argument).bind ListingFormat.ofFlag? <;> simp

/-- The format of a list of options is the one that its last option names.  Generalised
over the format before the first of them, which each option replaces. -/
theorem foldlM_formatOption_eq_ok_iff {options : List String} {start format : ListingFormat} :
    options.foldlM (fun _ argument => formatOption argument) start = .ok format ↔
      ∃ formats, List.Forall₂ FormatOption options formats ∧
        format = formats.getLast?.getD start := by
  induction options generalizing start format with
  | nil =>
      constructor
      · intro parsed
        exact ⟨[], .nil, (Except.ok.inj parsed).symm⟩
      · rintro ⟨formats, given, rfl⟩
        cases given
        rfl
  | cons argument rest inductionHypothesis =>
      have last (next : ListingFormat) (formats : List ListingFormat) :
          (next :: formats).getLast?.getD start = formats.getLast?.getD next := by
        rw [List.getLast?_cons, Option.getD_some]
      rw [List.foldlM_cons]
      constructor
      · intro parsed
        cases first : formatOption argument with
        | error error => rw [first] at parsed; cases parsed
        | ok next =>
            rw [first] at parsed
            rcases inductionHypothesis.mp parsed with ⟨formats, given, rfl⟩
            exact ⟨next :: formats, .cons (formatOption_eq_ok_iff.mp first) given,
              (last next formats).symm⟩
      · rintro ⟨formats, given, rfl⟩
        cases given with
        | @cons _ next _ formats option given =>
            rw [formatOption_eq_ok_iff.mpr option, last]
            exact inductionHypothesis.mpr ⟨formats, given, rfl⟩

theorem lastFormat_eq_ok_iff {options : List String} {format : ListingFormat} :
    lastFormat options = .ok format ↔
      ∃ formats, List.Forall₂ FormatOption options formats ∧
        format = formats.getLast?.getD .json :=
  foldlM_formatOption_eq_ok_iff

/-- A command is read off exactly the arguments that ask for it. -/
theorem Command.ofArguments_eq_ok_iff {arguments : List String} {command : Command} :
    ofArguments arguments = .ok command ↔ Asks arguments command := by
  constructor
  · intro parsed
    unfold ofArguments at parsed
    split at parsed
    · cases parsed
    · next options =>
        cases last : lastFormat options with
        | error error => rw [last] at parsed; cases parsed
        | ok format =>
            rw [last] at parsed
            rcases lastFormat_eq_ok_iff.mp last with ⟨formats, given, rfl⟩
            cases parsed
            exact .list given
    · split at parsed
      · cases parsed
        exact .describe _ _
      · cases parsed
    · split at parsed
      · cases parsed
        exact .check _
      · cases parsed
    -- The three names of the help command.
    · cases parsed
      exact .help (by simp)
    · cases parsed
      exact .help (by simp)
    · cases parsed
      exact .help (by simp)
    · cases parsed
  · intro asks
    cases asks with
    | help asked =>
        simp only [List.mem_cons, List.not_mem_nil, or_false] at asked
        rcases asked with rfl | rfl | rfl <;> rfl
    | @list options formats given =>
        have last : lastFormat options = .ok (formats.getLast?.getD .json) :=
          lastFormat_eq_ok_iff.mpr ⟨formats, given, rfl⟩
        rw [ofArguments, last]
        rfl
    | describe tagName value => rfl
    | check path => rfl

theorem Asks.functional {arguments : List String} {first second : Command}
    (asksFirst : Asks arguments first) (asksSecond : Asks arguments second) : first = second := by
  rw [← Command.ofArguments_eq_ok_iff] at asksFirst asksSecond
  exact Except.ok.inj (asksFirst.symm.trans asksSecond)

/-! ### What a command prints -/

/-- What a command that succeeds leaves on the console.  A check sums up the cards of a
document in the order in which their ids first come. -/
inductive Prints (files : String → FileContent) : Command → Printed → Prop where
  | help : Prints files .help { stdout := "", stderr := textOfLines usage }
  | list (format : ListingFormat) :
      Prints files (.list format) { stdout := textOfLines [listing format], stderr := "" }
  | describe {tagName value line : String} (described : describe tagName value = .ok line) :
      Prints files (.describe tagName value) { stdout := textOfLines [line], stderr := "" }
  | check {path text : String} {bytes : ByteArray} {database : Database}
      (found : files path = .ok bytes) (decoded : String.fromUTF8? bytes = some text)
      (accepted : Database.parse text = .ok database) :
      Prints files (.check path)
        { stdout := textOfLines
            (((Database.documentIds text).eraseDups.filterMap database.find?).map Card.summary ++
              [writtenInteger (Database.documentIds text).toFinset.card ++ " cards OK"])
          stderr := "" }

/-- A command prints what it should and succeeds, or cannot succeed and leaves the console
blank. -/
inductive Settles (files : String → FileContent) (command : Command) :
    Except CommandError Unit × Printed → Prop where
  | success {printed : Printed} (prints : Prints files command printed) :
      Settles files command (.ok (), printed)
  | failure (error : CommandError) (prevented : ∀ printed, ¬ Prints files command printed) :
      Settles files command (.error error, .nothing)

section Steps

variable {α β : Type} (printed : Printed)

/-- A result is either handed on, or it ends the command with what is printed by then. -/
theorem run_ofExcept_bind (result : Except CommandError α) (next : α → CommandRun β) :
    ((liftM result : CommandRun α) >>= next).run.run printed =
      match result with
      | .ok a => (next a).run.run printed
      | .error error => (.error error, printed) := by
  cases result <;> rfl

theorem run_lift (action : StateM Printed α) :
    (liftM action : CommandRun α).run.run printed =
      (.ok (action.run printed).1, (action.run printed).2) := rfl

theorem run_lift_bind (action : StateM Printed α) (next : α → CommandRun β) :
    ((liftM action : CommandRun α) >>= next).run.run printed =
      (next (action.run printed).1).run.run (action.run printed).2 := rfl

end Steps

theorem FileContent.text_eq_ok_iff {content : FileContent} {text : String} :
    content.text = .ok text ↔
      ∃ bytes, content = .ok bytes ∧ String.fromUTF8? bytes = some text := by
  cases content with
  | error fault => simp [FileContent.text]
  | ok bytes => cases decoded : String.fromUTF8? bytes <;> simp [FileContent.text, decoded]

section Commands

variable (files : String → FileContent)

theorem settles_printDescription (tagName value : String) :
    Settles files (.describe tagName value)
      ((printDescription tagName value).run.run .nothing) := by
  rw [printDescription, run_ofExcept_bind]
  cases described : describe tagName value with
  | error error =>
      apply Settles.failure
      intro printed prints
      cases prints with
      | describe succeeded => rw [described] at succeeded; cases succeeded
  | ok line =>
      dsimp only [Except.mapError]
      rw [run_lift, run_printLine, Printed.nothing_append_stdout]
      exact .success (.describe described)

/-- A document that is accepted is summed up card by card. -/
theorem run_checkCards {path text : String} {content : FileContent} {database : Database}
    (readable : content.text = .ok text) (accepted : Database.parse text = .ok database) :
    (checkCards path content).run.run .nothing =
      (.ok (),
        { stdout := textOfLines (database.cards.toList.map Card.summary ++
            [writtenInteger database.size ++ " cards OK"])
          stderr := "" }) := by
  rw [checkCards, run_ofExcept_bind, readable]
  dsimp only [Except.mapError]
  rw [run_ofExcept_bind, accepted]
  dsimp only [Except.mapError]
  rw [run_lift_bind, run_lift, run_printLines, run_printLine, Printed.append_append,
    ← textOfLines_append, Printed.nothing_append_stdout]

/-- Nothing is printed before the whole document has been read. -/
theorem settles_checkCards (path : String) :
    Settles files (.check path) ((checkCards path (files path)).run.run .nothing) := by
  cases readable : (files path).text with
  | error fault =>
      rw [checkCards, run_ofExcept_bind, readable]
      apply Settles.failure
      intro printed prints
      cases prints with
      | check found decoded accepted =>
          have succeeded := FileContent.text_eq_ok_iff.mpr ⟨_, found, decoded⟩
          rw [readable] at succeeded
          cases succeeded
  | ok text =>
      cases accepted : Database.parse text with
      | error error =>
          rw [checkCards, run_ofExcept_bind, readable]
          dsimp only [Except.mapError]
          rw [run_ofExcept_bind, accepted]
          apply Settles.failure
          intro printed prints
          cases prints with
          | check found decoded succeeded =>
              have sameText := FileContent.text_eq_ok_iff.mpr ⟨_, found, decoded⟩
              obtain rfl := Except.ok.inj (readable.symm.trans sameText)
              rw [accepted] at succeeded
              cases succeeded
      | ok database =>
          rcases FileContent.text_eq_ok_iff.mp readable with ⟨bytes, found, decoded⟩
          have idsEq := Database.ids_of_parse accepted
          have indexed := (Database.WellFormed.of_parse accepted).indexed
          have prints := Prints.check found decoded accepted
          rw [← idsEq, indexed.filterMap_find?_ids, ← indexed.size_eq_card idsEq] at prints
          rw [run_checkCards readable accepted]
          exact .success prints

/-- Every command prints what it should, or fails before it prints. -/
theorem Command.settles (command : Command) :
    Settles files command ((command.run files).run.run .nothing) := by
  cases command with
  | help =>
      rw [run, run_lift, run_printLines, Printed.nothing_append_stderr]
      exact .success .help
  | list format =>
      rw [run, printListing, run_lift, run_printLine, Printed.nothing_append_stdout]
      exact .success (.list format)
  | describe tagName value => exact settles_printDescription files tagName value
  | check path => exact settles_checkCards files path

end Commands

/-! ### The whole run -/

/-- What the arguments ask for can be done, and leaves this on the console. -/
def Succeeds (files : String → FileContent) (arguments : List String)
    (printed : Printed) : Prop :=
  ∃ command, Asks arguments command ∧ Prints files command printed

/-- An outcome in which all of what the arguments ask for is done, or nothing of it. -/
structure AllOrNothing (files : String → FileContent) (arguments : List String)
    (outcome : Outcome) : Prop where
  status_eq_zero_iff : outcome.status = 0 ↔ ∃ printed, Succeeds files arguments printed
  success : outcome.status = 0 → Succeeds files arguments ⟨outcome.stdout, outcome.stderr⟩
  failure : outcome.status ≠ 0 →
    outcome.status = 1 ∧ outcome.stdout = "" ∧ outcome.stderr ≠ ""

section Endings

variable {files : String → FileContent} {arguments : List String}

theorem AllOrNothing.of_success {printed : Printed}
    (succeeds : Succeeds files arguments printed) :
    AllOrNothing files arguments ⟨0, printed.stdout, printed.stderr⟩ where
  status_eq_zero_iff := iff_of_true rfl ⟨printed, succeeds⟩
  success := fun _ => succeeds
  failure := fun nonzero => absurd rfl nonzero

theorem AllOrNothing.of_failure {lines : List String} (someLine : lines ≠ [])
    (prevented : ∀ printed, ¬ Succeeds files arguments printed) :
    AllOrNothing files arguments ⟨1, "", textOfLines lines⟩ := by
  have nonzero : (1 : UInt32) ≠ 0 := by decide
  constructor
  · refine iff_of_false nonzero ?_
    rintro ⟨printed, succeeds⟩
    exact prevented printed succeeds
  · exact fun zero => absurd zero nonzero
  · exact fun _ => ⟨rfl, rfl, textOfLines_ne_empty someLine⟩

/-- A program that reports lines and ends with status 1 leaves standard output empty. -/
theorem ofProgram_report (lines : List String) :
    Outcome.ofProgram (do printLines .stderr lines; return 1) = ⟨1, "", textOfLines lines⟩ := by
  have reported := run_printLines .stderr lines .nothing
  rw [Printed.nothing_append_stderr] at reported
  rw [Outcome.ofProgram, StateT.run_bind, reported]
  rfl

theorem runCommandLine_of_usageError {error : UsageError}
    (given : Command.ofArguments arguments = .error error) :
    runCommandLine files arguments = ⟨1, "", textOfLines error.lines⟩ := by
  rw [runCommandLine, program, given]
  exact ofProgram_report error.lines

theorem runCommandLine_of_command {command : Command} {printed : Printed}
    (given : Command.ofArguments arguments = .ok command)
    (ran : (command.run files).run.run .nothing = (.ok (), printed)) :
    runCommandLine files arguments = ⟨0, printed.stdout, printed.stderr⟩ := by
  rw [runCommandLine, program, given]
  dsimp only
  rw [Outcome.ofProgram, StateT.run_bind, ran]
  rfl

theorem runCommandLine_of_commandError {command : Command} {error : CommandError}
    (given : Command.ofArguments arguments = .ok command)
    (ran : (command.run files).run.run .nothing = (.error error, .nothing)) :
    runCommandLine files arguments = ⟨1, "", textOfLines error.lines⟩ := by
  rw [runCommandLine, program, given]
  dsimp only
  rw [Outcome.ofProgram, StateT.run_bind, ran]
  exact ofProgram_report error.lines

theorem UsageError.lines_ne_nil (error : UsageError) : error.lines ≠ [] := by
  cases error <;> simp [UsageError.lines, usage]

theorem CommandError.lines_ne_nil (error : CommandError) : error.lines ≠ [] :=
  List.cons_ne_nil _ _

end Endings

/-- A command line prints the whole of what it asks for and ends with status 0, or it
prints nothing on standard output, explains itself and ends with status 1. -/
theorem runCommandLine_allOrNothing (files : String → FileContent) (arguments : List String) :
    AllOrNothing files arguments (runCommandLine files arguments) := by
  cases given : Command.ofArguments arguments with
  | error error =>
      rw [runCommandLine_of_usageError given]
      apply AllOrNothing.of_failure error.lines_ne_nil
      rintro printed ⟨command, asks, _⟩
      rw [← Command.ofArguments_eq_ok_iff, given] at asks
      cases asks
  | ok command =>
      have asks := Command.ofArguments_eq_ok_iff.mp given
      have settles := command.settles files
      generalize ran : (command.run files).run.run .nothing = result at settles
      cases settles with
      | success prints =>
          rw [runCommandLine_of_command given ran]
          exact .of_success ⟨command, asks, prints⟩
      | failure error prevented =>
          rw [runCommandLine_of_commandError given ran]
          apply AllOrNothing.of_failure error.lines_ne_nil
          rintro printed ⟨other, otherAsks, prints⟩
          obtain rfl := asks.functional otherAsks
          exact prevented printed prints

end CardCodex
