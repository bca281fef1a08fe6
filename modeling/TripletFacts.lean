import TripletFacts.Number.Reading
import TripletFacts.Number.Layout
import TripletFacts.Unicode.Case
import TripletFacts.Unicode.Visible
import TripletFacts.Unicode.Word
import TripletFacts.Unicode.Numeric
import TripletFacts.Unicode.Blank
import TripletFacts.Unicode.CharSet
import TripletFacts.Unicode.Encoding
import TripletFacts.Unicode.Name
import TripletFacts.Regex.Search
import TripletFacts.Regex.Accept
import TripletFacts.Regex.Room
import TripletFacts.Regex.Reader
import TripletFacts.Expr.Eval
import TripletFacts.Expr.Dump
import TripletFacts.Facts.Pattern
import TripletFacts.Settings.Validate
import TripletFacts.Settings.Record
import TripletFacts.Triplet.Build
import TripletFacts.Triplet.Inspect
import TripletFacts.Facts.Lookup
import TripletFacts.Facts.Position
import TripletFacts.Facts.Compare
import TripletFacts.Facts.Reader
import TripletFacts.Formula.Compute
import TripletFacts.Condition.Evaluate
import TripletFacts.Settings.Document
import TripletFacts.Proofs.Unicode.Classes
import TripletFacts.Proofs.Unicode.Capitals
import TripletFacts.Proofs.Number.Bits
import TripletFacts.Proofs.Number.Characters
import TripletFacts.Proofs.Number.Rounding
import TripletFacts.Proofs.Number.Shortest
import TripletFacts.Proofs.Number.ReadBack
import TripletFacts.Proofs.Regex.Reach
import TripletFacts.Proofs.Regex.Ways
import TripletFacts.Proofs.Regex.Acceptance
import TripletFacts.Proofs.Regex.First
import TripletFacts.Proofs.Settings.Shape
import TripletFacts.Proofs.Triplet.Built
import TripletFacts.Proofs.Triplet.Made
import TripletFacts.Proofs.Expr.Derivation
import TripletFacts.Proofs.Expr.Reading
import TripletFacts.Proofs.Expr.Words
import TripletFacts.Proofs.Expr.Variation
import TripletFacts.Proofs.Expr.Scan
import TripletFacts.Proofs.Expr.Spelling
import TripletFacts.Proofs.Expr.UnknownNames
import TripletFacts.Proofs.Expr.TreeSize
import TripletFacts.Proofs.Expr.Operand
import TripletFacts.Proofs.Facts.References
import TripletFacts.Proofs.Facts.TripletWay
import TripletFacts.Proofs.Facts.Spread
import TripletFacts.Proofs.Facts.Rendering
import TripletFacts.Proofs.Facts.ReadBack
import TripletFacts.Proofs.Facts.RoundTrip
import TripletFacts.Proofs.Facts.WhatIsRead
import TripletFacts.Proofs.Facts.Reread
import TripletFacts.Proofs.Facts.WholeText
import TripletFacts.Proofs.Condition.Template
import TripletFacts.Proofs.Condition.Normalized
import TripletFacts.Proofs.Condition.Passes
import TripletFacts.Proofs.Condition.Splicing
import TripletFacts.Proofs.Condition.SignPasses
import TripletFacts.Proofs.Condition.Connectives
import TripletFacts.Proofs.Condition.LowerCalls
import TripletFacts.Proofs.Condition.PresenceCalls
import TripletFacts.Proofs.Condition.Extension
import TripletFacts.Proofs.Facts.TripletForm
import TripletFacts.Proofs.Facts.OwnKey
import TripletFacts.Proofs.Facts.Store
import TripletFacts.Proofs.Facts.Runs
import TripletFacts.Proofs.Facts.Sorted
import TripletFacts.Proofs.Condition.Parts
import TripletFacts.Proofs.Condition.Filling
import TripletFacts.Proofs.Condition.Phrases
import TripletFacts.Proofs.Condition.Operands
import TripletFacts.Proofs.Formula.Phrase
import TripletFacts.Proofs.Condition.Complete
import TripletFacts.Proofs.Expr.Prefix
import TripletFacts.Proofs.Condition.Borders
import TripletFacts.Proofs.Condition.Touching
import TripletFacts.Proofs.Condition.Splices
import TripletFacts.Proofs.Triplet.Setters
import TripletFacts.Proofs.Number.Finite
import TripletFacts.Proofs.Number.Order
import TripletFacts.Proofs.Expr.Finite
import TripletFacts.Proofs.Expr.Integers
import TripletFacts.Proofs.Expr.Extremes
import TripletFacts.Proofs.Expr.Comparison
import TripletFacts.Proofs.Expr.Arguments
import TripletFacts.Proofs.Condition.Rearranged
import TripletFacts.Proofs.Unicode.Folding
import TripletFacts.Proofs.Condition.WrittenCalls
import TripletFacts.Proofs.Condition.Parentheses
import TripletFacts.Proofs.Condition.PresenceFormula
import TripletFacts.Proofs.Condition.PresencePasses
import TripletFacts.Proofs.Condition.Literals
import TripletFacts.Proofs.Formula.Tokens
import TripletFacts.Proofs.Facts.Pointers
import TripletFacts.Proofs.Facts.QuotedTexts
import TripletFacts.Proofs.Facts.ByPfx
import TripletFacts.Proofs.Facts.NumberedPfx
import TripletFacts.Proofs.Facts.Merging
import TripletFacts.Proofs.Facts.Positions
import TripletFacts.Proofs.Facts.Numerals
import TripletFacts.Proofs.Expr.Stretches
import TripletFacts.Proofs.Expr.Growth
import TripletFacts.Proofs.Expr.Height
import TripletFacts.Proofs.Settings.Updates
import TripletFacts.Proofs.Regex.Classes
import TripletFacts.Proofs.Regex.ClosedClasses
import TripletFacts.Proofs.Regex.ClosedSteps
import TripletFacts.Proofs.Regex.Depth
import TripletFacts.Proofs.Regex.Whole
import TripletFacts.Proofs.Settings.WholePattern
import TripletFacts.Proofs.Settings.Document
import TripletFacts.Proofs.Expr.ReservedWords
import TripletFacts.Proofs.Json.ReadBack
import TripletFacts.Proofs.Expr.Dumped
