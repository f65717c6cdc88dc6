import SheetTables.Calendar.Gregorian
import SheetTables.Calendar.Layout
import SheetTables.Calendar.Timestamp
import SheetTables.Extraction.Header
import SheetTables.Extraction.Problem
import SheetTables.Extraction.Recognition
import SheetTables.Extraction.Record
import SheetTables.Extraction.Run
import SheetTables.Extraction.Sheet
import SheetTables.Extraction.Table
import SheetTables.Grid.Cell
import SheetTables.Grid.Direction
import SheetTables.Grid.Probe
import SheetTables.Grid.Range
import SheetTables.Grid.Reference
import SheetTables.Grid.Sheet
import SheetTables.Grid.Value
import SheetTables.Layout.ConfigError
import SheetTables.Layout.Criteria
import SheetTables.Layout.Field
import SheetTables.Layout.FieldTable
import SheetTables.Layout.Forest
import SheetTables.Layout.Report
import SheetTables.Layout.Sheet
import SheetTables.Layout.Table
import SheetTables.Matching.Builder
import SheetTables.Matching.CellSteps
import SheetTables.Matching.Conditions
import SheetTables.Matching.NodeTable
import SheetTables.Matching.Operator
import SheetTables.Matching.Script
import SheetTables.Matching.Validator
import SheetTables.Number.Decimal
import SheetTables.Number.Double
import SheetTables.Number.Numeral
import SheetTables.Pattern.Class
import SheetTables.Pattern.Compile
import SheetTables.Pattern.Engine
import SheetTables.Pattern.Glob
import SheetTables.Pattern.Machine
import SheetTables.Pattern.Normal
import SheetTables.Pattern.Reader
import SheetTables.Pattern.Regex
import SheetTables.Pattern.Syntax
import SheetTables.Proofs.Calendar.Gregorian
import SheetTables.Proofs.Calendar.Layouts
import SheetTables.Proofs.Calendar.Texts
import SheetTables.Proofs.Extraction.Advances
import SheetTables.Proofs.Extraction.Aggregation
import SheetTables.Proofs.Extraction.Agreement
import SheetTables.Proofs.Extraction.AreaBorders
import SheetTables.Proofs.Extraction.Assembly
import SheetTables.Proofs.Extraction.Binding
import SheetTables.Proofs.Extraction.Closest
import SheetTables.Proofs.Extraction.DataApart
import SheetTables.Proofs.Extraction.Diagnostics
import SheetTables.Proofs.Extraction.Emptiness
import SheetTables.Proofs.Extraction.FieldPaths
import SheetTables.Proofs.Extraction.FixedRun
import SheetTables.Proofs.Extraction.HeaderTrees
import SheetTables.Proofs.Extraction.Headers
import SheetTables.Proofs.Extraction.HeadersApart
import SheetTables.Proofs.Extraction.LogicalView
import SheetTables.Proofs.Extraction.Mirroring
import SheetTables.Proofs.Extraction.MovedResults
import SheetTables.Proofs.Extraction.Occurrences
import SheetTables.Proofs.Extraction.OpenRun
import SheetTables.Proofs.Extraction.Ownership
import SheetTables.Proofs.Extraction.Placement
import SheetTables.Proofs.Extraction.Relocation
import SheetTables.Proofs.Extraction.RootOrder
import SheetTables.Proofs.Extraction.RunLimits
import SheetTables.Proofs.Extraction.SearchedArea
import SheetTables.Proofs.Extraction.Stacking
import SheetTables.Proofs.Extraction.TableProblems
import SheetTables.Proofs.Extraction.ValueChecks
import SheetTables.Proofs.Extraction.Walks
import SheetTables.Proofs.Grid.Columns
import SheetTables.Proofs.Grid.Covers
import SheetTables.Proofs.Grid.Edits
import SheetTables.Proofs.Grid.Histories
import SheetTables.Proofs.Grid.Listing
import SheetTables.Proofs.Grid.LogicalCells
import SheetTables.Proofs.Grid.Moves
import SheetTables.Proofs.Grid.PositionSets
import SheetTables.Proofs.Grid.Positions
import SheetTables.Proofs.Grid.Probes
import SheetTables.Proofs.Grid.References
import SheetTables.Proofs.Grid.Reversals
import SheetTables.Proofs.Grid.Scan
import SheetTables.Proofs.Grid.Shifts
import SheetTables.Proofs.Grid.Steps
import SheetTables.Proofs.Grid.ValueOrder
import SheetTables.Proofs.Layout.FieldTables
import SheetTables.Proofs.Layout.Forests
import SheetTables.Proofs.Layout.Lineages
import SheetTables.Proofs.Layout.Refusals
import SheetTables.Proofs.Layout.RootOrder
import SheetTables.Proofs.Layout.Settling
import SheetTables.Proofs.Layout.ValueChecks
import SheetTables.Proofs.Matching.CellContents
import SheetTables.Proofs.Matching.Equality
import SheetTables.Proofs.Matching.Expressions
import SheetTables.Proofs.Matching.Mismatches
import SheetTables.Proofs.Matching.NodeTables
import SheetTables.Proofs.Matching.Reading
import SheetTables.Proofs.Matching.WholeMatches
import SheetTables.Proofs.Pattern.Alternatives
import SheetTables.Proofs.Pattern.Groups
import SheetTables.Proofs.Pattern.Language
import SheetTables.Proofs.Pattern.NormalForms
import SheetTables.Proofs.Pattern.SetTails
import SheetTables.Proofs.Pattern.Spans
import SheetTables.Proofs.Pattern.Tails
import SheetTables.Text.Blank
import SheetTables.Text.Quoted
import SheetTables.Text.Template
import SheetTables.Unicode.Age
import SheetTables.Unicode.CaseFolding
import SheetTables.Unicode.Category
import SheetTables.Unicode.CharSet
import SheetTables.Unicode.Edition17
import SheetTables.Unicode.Lowercase
import SheetTables.Unicode.Property
import SheetTables.Unicode.Runs
import SheetTables.Unicode.Script
import SheetTables.Unicode.Segmentation
import SheetTables.Unicode.Utf8
