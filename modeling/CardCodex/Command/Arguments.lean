/-
Module: CardCodex.Command.Arguments
Purpose: What the arguments of the command line ask for.
Main exports: Command, UsageError, Command.ofArguments, usage, UsageError.lines
-/
import CardCodex.Command.Listing

namespace CardCodex

/-- What a command line asks for. -/
inductive Command where
  | help
  | list (format : ListingFormat)
  | describe (tagName value : String)
  | check (path : String)
deriving DecidableEq, Repr

/-- Why arguments make no command. -/
inductive UsageError where
  | noCommand
  | unknownCommand (name : String)
  | unknownOption (argument : String)
  | describeArity
  | checkArity
deriving DecidableEq, Repr

/-- What an option has before the name of a format. -/
def formatOptionHead : List Char :=
  "--format=".toList

/-- The name of a format that an argument gives. -/
def formatFlag? (argument : String) : Option String :=
  if formatOptionHead.isPrefixOf argument.toList then
    some (String.ofList (argument.toList.drop formatOptionHead.length))
  else
    none

/-- The format that an option asks for. -/
def formatOption (argument : String) : Except UsageError ListingFormat :=
  match (formatFlag? argument).bind ListingFormat.ofFlag? with
  | some format => .ok format
  | none => .error (.unknownOption argument)

/-- The format that options settle on: the last one given, and JSON when there
is none.  Every option has to be one of a format. -/
def lastFormat (options : List String) : Except UsageError ListingFormat :=
  options.foldlM (fun _ argument => formatOption argument) .json

/-- The command that arguments give. -/
def Command.ofArguments : List String → Except UsageError Command
  | [] => .error .noCommand
  | "enums" :: options => (lastFormat options).map .list
  | "tag" :: arguments =>
      match arguments with
      | [tagName, value] => .ok (.describe tagName value)
      | _ => .error .describeArity
  | "cards" :: arguments =>
      match arguments with
      | [path] => .ok (.check path)
      | _ => .error .checkArity
  | "help" :: _ => .ok .help
  | "--help" :: _ => .ok .help
  | "-h" :: _ => .ok .help
  | name :: _ => .error (.unknownCommand name)

/-- The lines that explain how to use the program. -/
def usage : List String :=
  [ "cgc - card-game enum tools",
    "",
    "Usage: cgc <command> [options]",
    "",
    "Commands:",
    "  enums [--format=json|ts|cs]  Print every registered enum",
    "  tag <TAG> <VALUE>            Describe a value held by a tag",
    "  cards <file>                 Check a card-details file",
    "  help                         Show this message",
    "",
    "Set RUST_LOG (e.g. RUST_LOG=cg_enums=debug) for diagnostics." ]

/-- The lines that explain what is wrong with the arguments. -/
def UsageError.lines : UsageError → List String
  | .noCommand => usage
  | .unknownCommand name => ("Unknown command: " ++ name) :: "" :: usage
  | .unknownOption argument =>
      [ "error: unknown option `" ++ argument ++ "`",
        "Usage: cgc enums [--format=json|ts|cs]" ]
  | .describeArity =>
      [ "Usage: cgc tag <TAG> <VALUE>",
        "",
        "Examples:",
        "  cgc tag ZONE 3",
        "  cgc tag card_type 5" ]
  | .checkArity => ["Usage: cgc cards <card_details.json>"]

end CardCodex
