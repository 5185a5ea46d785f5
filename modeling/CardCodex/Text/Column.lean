/-
Module: CardCodex.Text.Column
Purpose: Left-aligned columns of a summary line.
Main exports: padRight
-/

namespace CardCodex

/-- `text` filled up with spaces to `width` code points.  A longer text is kept
whole. -/
def padRight (width : Nat) (text : String) : String :=
  text ++ String.ofList (List.replicate (width - text.length) ' ')

end CardCodex
