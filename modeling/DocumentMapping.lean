import DocumentMapping.CommandLine.Run
import DocumentMapping.Expression.Scanner
import DocumentMapping.Expression.Slots
import DocumentMapping.Main
import DocumentMapping.Rules.Printer
import DocumentMapping.Tree.Reader
import DocumentMapping.Proofs.Expression.KeyedStore
import DocumentMapping.Proofs.Expression.Reading
import DocumentMapping.Proofs.Mapping.Columns
import DocumentMapping.Proofs.Mapping.Courses
import DocumentMapping.Proofs.Mapping.FanOut
import DocumentMapping.Proofs.Mapping.Landing
import DocumentMapping.Proofs.Mapping.Layout
import DocumentMapping.Proofs.Mapping.Sharing
import DocumentMapping.Proofs.Mapping.Tables
import DocumentMapping.Proofs.Mapping.Texts
import DocumentMapping.Proofs.Path.Consistency
import DocumentMapping.Proofs.Path.RoundTrip
import DocumentMapping.Proofs.Tree.Atomicity
import DocumentMapping.Proofs.Tree.JsonForm
import DocumentMapping.Proofs.Tree.Location
import DocumentMapping.Proofs.Tree.Overwriting
import DocumentMapping.Proofs.Tree.Reading
import DocumentMapping.Proofs.Tree.Writing
import DocumentMapping.Proofs.Mapping.Straying
import DocumentMapping.Proofs.Tree.Concrete
import DocumentMapping.Proofs.Mapping.FixedPositions
import DocumentMapping.Proofs.Tree.LastWrite
import DocumentMapping.Proofs.Tree.Commuting
import DocumentMapping.Proofs.Mapping.Records
import DocumentMapping.Proofs.Mapping.Appending
import DocumentMapping.Proofs.Placement.EffectiveTags
import DocumentMapping.Proofs.Expression.Spellings
import DocumentMapping.Proofs.Expression.IntegerArithmetic
import DocumentMapping.Proofs.Expression.Summation
import DocumentMapping.Proofs.Expression.ContainerEquality
import DocumentMapping.Proofs.Format.Segments
import DocumentMapping.Proofs.Coercion.Integers
import DocumentMapping.Proofs.Coercion.Texts
import DocumentMapping.Proofs.Format.Moments
import DocumentMapping.Proofs.Format.Numbers
import DocumentMapping.Proofs.Expression.Printing
import DocumentMapping.Proofs.Expression.ByteScanning
import DocumentMapping.Proofs.Expression.SafeEvaluation
import DocumentMapping.Proofs.Mapping.PlannedExpressions
import DocumentMapping.Proofs.Path.SingleElements
import DocumentMapping.Proofs.Tree.WrittenForms
import DocumentMapping.Proofs.Placement.HintTexts
import DocumentMapping.Proofs.Rules.Saving
import DocumentMapping.Proofs.Mapping.Fingerprints
import DocumentMapping.Proofs.Mapping.Growth
