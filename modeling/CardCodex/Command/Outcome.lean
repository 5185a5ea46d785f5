/-
Module: CardCodex.Command.Outcome
Purpose: What a run of the program prints and how it ends, as a function of its
  arguments and of what is found at each path.
Main exports: FileContent, CommandError, CommandRun, Command.run, program, Outcome,
  runCommandLine
-/
import CardCodex.Card.Document
import CardCodex.Card.Summary
import CardCodex.Command.Arguments
import CardCodex.Command.Console
import CardCodex.Command.Describe

namespace CardCodex

/-- Why a file has no text. -/
inductive ReadFault where
  | missing
  | directory
  | notADirectory
  | denied
  | notUtf8
  | other (reason : String)
deriving DecidableEq, Repr

/-- The fault in words. -/
def ReadFault.message : ReadFault → String
  | .missing => "No such file or directory (os error 2)"
  | .directory => "Is a directory (os error 21)"
  | .notADirectory => "Not a directory (os error 20)"
  | .denied => "Permission denied (os error 13)"
  | .notUtf8 => "stream did not contain valid UTF-8"
  | .other reason => reason

/-- What is found at a path: bytes, or the reason why they cannot be read. -/
abbrev FileContent :=
  Except ReadFault ByteArray

/-- The text of a file, which has to be UTF-8. -/
def FileContent.text (content : FileContent) : Except ReadFault String :=
  match content with
  | .error fault => .error fault
  | .ok bytes =>
      match String.fromUTF8? bytes with
      | some text => .ok text
      | none => .error .notUtf8

/-- Why a command fails. -/
inductive CommandError where
  | unreadable (path : String) (fault : ReadFault)
  | cards (error : CardError)
  | describe (error : DescribeError)
deriving DecidableEq, Repr

namespace CommandError

/-- The error in words. -/
def message : CommandError → String
  | .unreadable path _ => "cannot read `" ++ path ++ "`"
  | .cards error => error.message
  | .describe error => error.message

/-- The reason behind the error, where there is one.  For a text that is no JSON the program
prints the message of its JSON library, which says what is wrong and in which line and column.
That message is not modelled: the fixed text for `malformed` stands in its place and differs
from it. -/
def cause? : CommandError → Option String
  | .unreadable _ fault => some fault.message
  | .cards .malformed => some "the text is not valid JSON"
  | .cards error => error.cause?.map LookupError.message
  | .describe _ => none

/-- The lines that report the error. -/
def lines (error : CommandError) : List String :=
  ("error: " ++ error.message) :: (error.cause?.map ("  caused by: " ++ ·)).toList

end CommandError

/-- A command at work.  It prints as it goes and gives up at its first error; what it
has printed until then stays printed. -/
abbrev CommandRun :=
  ExceptT CommandError (StateM Printed)

/-- Prints every enumeration in one of the formats. -/
def printListing (format : ListingFormat) : CommandRun Unit :=
  printLine .stdout (listing format)

/-- Prints the description of a value as held by a tag. -/
def printDescription (tagName value : String) : CommandRun Unit := do
  let line ← (describe tagName value).mapError CommandError.describe
  printLine .stdout line

/-- Checks the cards of the file at `path`: prints the summary of each, and then how
many cards there are. -/
def checkCards (path : String) (content : FileContent) : CommandRun Unit := do
  let text ← content.text.mapError (CommandError.unreadable path)
  let database ← (Database.parse text).mapError CommandError.cards
  printLines .stdout (database.cards.toList.map Card.summary)
  printLine .stdout (writtenInteger database.size ++ " cards OK")

/-- Runs a command.  Help goes to standard error. -/
def Command.run (files : String → FileContent) : Command → CommandRun Unit
  | .help => printLines .stderr usage
  | .list format => printListing format
  | .describe tagName value => printDescription tagName value
  | .check path => checkCards path (files path)

/-- Runs the program with its arguments and gives its exit status.  What is wrong with
the arguments, or with the command that they give, is reported on standard error. -/
def program (files : String → FileContent) (arguments : List String) : StateM Printed UInt32 := do
  match Command.ofArguments arguments with
  | .error error =>
      printLines .stderr error.lines
      return 1
  | .ok command =>
      match ← (command.run files).run with
      | .ok _ => return 0
      | .error error =>
          printLines .stderr error.lines
          return 1

/-- What a run of the program leaves behind. -/
structure Outcome where
  status : UInt32
  stdout : String
  stderr : String
deriving DecidableEq, Repr

/-- What a program leaves behind that starts from a blank console and ends with a status. -/
def Outcome.ofProgram (program : StateM Printed UInt32) : Outcome :=
  let (status, printed) := program.run .nothing
  ⟨status, printed.stdout, printed.stderr⟩

/-- Runs the program from a blank console. -/
def runCommandLine (files : String → FileContent) (arguments : List String) : Outcome :=
  .ofProgram (program files arguments)

end CardCodex
