/-
Screening of the customers of a spreadsheet, and the report of it.
-/
import Screening.Main
import Screening.Proofs.Pieces
import Screening.Proofs.Assembly
import Screening.Proofs.Markers
import Screening.Proofs.Severity
import Screening.Proofs.Encoding
import Screening.Proofs.Json.Spelling
import Screening.Proofs.Json.Skipping
import Screening.Proofs.Json.Closed
import Screening.Proofs.Json.Grammar
import Screening.Proofs.Json.Agreement
import Screening.Proofs.Json.Objects
import Screening.Proofs.Files
import Screening.Proofs.Stored
import Screening.Proofs.Changes
import Screening.Proofs.Session
import Screening.Proofs.Delivery
import Screening.Proofs.Trimmed
import Screening.Proofs.Writing
import Screening.Proofs.Tables
import Screening.Proofs.Contents
import Screening.Proofs.ReadBack
import Screening.Proofs.Uppercase
import Screening.Proofs.CaseBlind
import Screening.Proofs.Division
import Screening.Proofs.Rounding
import Screening.Proofs.Conversion
import Screening.Proofs.Placement
import Screening.Proofs.Extent
import Screening.Proofs.FirstSheet
import Screening.Proofs.Rendering
import Screening.Proofs.Padding
import Screening.Proofs.Paths
import Screening.Proofs.Removal
import Screening.Proofs.Reset
import Screening.Proofs.Results
import Screening.Proofs.Torn
import Screening.Proofs.Handwritten
import Screening.Proofs.Additions
import Screening.Proofs.Lengths
import Screening.Proofs.Reading
import Screening.Proofs.WholeNumbers
import Screening.Proofs.Parents
import Screening.Proofs.Beside
import Screening.Proofs.Summary
import Screening.Proofs.Digits
import Screening.Proofs.Chronology
import Screening.Proofs.WrittenDates
import Screening.Proofs.Verbosity
import Screening.Proofs.Sayable
import Screening.Proofs.Invocations
import Screening.Proofs.Containment
