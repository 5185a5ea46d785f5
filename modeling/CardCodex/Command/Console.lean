/-
Module: CardCodex.Command.Console
Purpose: The two streams that the program prints on, one line at a time.
Main exports: OutputStream, Printed, Printed.append, printLine, printLines
-/

namespace CardCodex

/-- The stream that a line is printed on. -/
inductive OutputStream where
  | stdout
  | stderr
deriving DecidableEq, Repr

/-- What has been printed so far on each stream. -/
structure Printed where
  stdout : String
  stderr : String
deriving DecidableEq, Repr

namespace Printed

/-- Nothing printed yet. -/
def nothing : Printed :=
  ⟨"", ""⟩

/-- Text printed on one stream, after what is there. -/
def append (printed : Printed) : OutputStream → String → Printed
  | .stdout, text => { printed with stdout := printed.stdout ++ text }
  | .stderr, text => { printed with stderr := printed.stderr ++ text }

@[simp] theorem append_empty (printed : Printed) (stream : OutputStream) :
    printed.append stream "" = printed := by
  cases stream <;> simp [append]

@[simp] theorem append_append (printed : Printed) (stream : OutputStream)
    (first second : String) :
    (printed.append stream first).append stream second =
      printed.append stream (first ++ second) := by
  cases stream <;> simp [append, String.append_assoc]

@[simp] theorem nothing_append_stdout (text : String) :
    nothing.append .stdout text = ⟨text, ""⟩ := by
  simp [nothing, append]

@[simp] theorem nothing_append_stderr (text : String) :
    nothing.append .stderr text = ⟨"", text⟩ := by
  simp [nothing, append]

end Printed

/-- Prints a line on a stream. -/
def printLine (stream : OutputStream) (line : String) : StateM Printed Unit :=
  modify fun printed => printed.append stream (line ++ "\n")

/-- Prints lines on a stream, one after the other. -/
def printLines (stream : OutputStream) (lines : List String) : StateM Printed Unit :=
  lines.forM (printLine stream)

end CardCodex
