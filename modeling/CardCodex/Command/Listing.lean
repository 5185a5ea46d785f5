/-
Module: CardCodex.Command.Listing
Purpose: All enumerations in one text, in one of three formats.
Main exports: ListingFormat, ListingFormat.ofFlag?, listing
-/
import CardCodex.Enumeration.Directory
import CardCodex.Json.Writer

namespace CardCodex

/-- The format of a listing: a JSON object, or the enumeration declarations of
another language. -/
inductive ListingFormat where
  | json
  | typeScript
  | cSharp
deriving DecidableEq, Repr

/-- The format that a flag asks for. -/
def ListingFormat.ofFlag? : String → Option ListingFormat
  | "json" => some .json
  | "ts" => some .typeScript
  | "cs" => some .cSharp
  | _ => none

/-- The directories of all enumerations, in the order of their names. -/
def sortedDirectories : List Directory :=
  allDirectories.mergeSort fun first second => first.enumName ≤ second.enumName

/-- A directory as JSON: an object of item names and values, in value order. -/
def Directory.toJson (directory : Directory) : Json :=
  .object (directory.entries.map fun entry => (entry.1, .integer entry.2.toInt))

/-- A directory as a declaration that opens with `header`, with one item to a
line in value order. -/
def Directory.declaration (header : String) (directory : Directory) : String :=
  let items := directory.entries.map fun entry =>
    "\t" ++ entry.1 ++ " = " ++ writtenInteger entry.2.toInt ++ ",\n"
  header ++ " " ++ directory.enumName ++ " \x7b\n" ++ "".intercalate items ++ "\x7d"

/-- The listing of all enumerations in the order of their names. -/
def listing : ListingFormat → String
  | .json =>
      Json.written .indented
        (.object (sortedDirectories.map fun directory => (directory.enumName, directory.toJson)))
  | .typeScript =>
      "\n\n".intercalate (sortedDirectories.map (Directory.declaration "export const enum"))
  | .cSharp =>
      "\n\n".intercalate (sortedDirectories.map (Directory.declaration "public enum"))

end CardCodex
