import CardCodex.Card.Written
import CardCodex.Command.Outcome
import CardCodex.Main
import CardCodex.Proofs.InsertionOrder
import CardCodex.Proofs.Slots
import CardCodex.Proofs.Casing
import CardCodex.Proofs.Lookup
import CardCodex.Proofs.Numerals
import CardCodex.Proofs.Decimal
import CardCodex.Proofs.DoubleLimit
import CardCodex.Proofs.Reading
import CardCodex.Proofs.Spellings
import CardCodex.Proofs.Typing
import CardCodex.Proofs.Fitting
import CardCodex.Proofs.JsonStrings
import CardCodex.Proofs.JsonTokens
import CardCodex.Proofs.JsonText
import CardCodex.Proofs.SpacedText
import CardCodex.Proofs.IntegerOffers
import CardCodex.Proofs.Writing
import CardCodex.Proofs.Reachable
import CardCodex.Proofs.Equality
import CardCodex.Proofs.Declarations
import CardCodex.Proofs.Agreement
import CardCodex.Proofs.CallLog
import CardCodex.Proofs.Describing
import CardCodex.Proofs.CommandLine
import CardCodex.Proofs.SummaryLines
import CardCodex.Proofs.SummaryColumns
import CardCodex.Proofs.Tables
import CardCodex.Proofs.Naming
import CardCodex.Proofs.Rendering
import CardCodex.Proofs.Reordering
