import GameConfig.Main
import GameConfig.Field.Color
import GameConfig.Field.Domain
import GameConfig.Field.Duration
import GameConfig.Proofs.Number.Steps
import GameConfig.Proofs.Number.Rational
import GameConfig.Proofs.Number.WideWord
import GameConfig.Proofs.Dictionary.Lookup
import GameConfig.Proofs.Dictionary.Ascending
import GameConfig.Proofs.Value.Inside
import GameConfig.Proofs.Value.Order
import GameConfig.Proofs.Value.Equality
import GameConfig.Proofs.Value.Laws
import GameConfig.Proofs.Value.Shape
import GameConfig.Proofs.Value.Text
import GameConfig.Proofs.Game.Transcript
import GameConfig.Proofs.Game.Answer
import GameConfig.Proofs.Game.Update
import GameConfig.Proofs.Slot.Operators
import GameConfig.Proofs.Slot.Agreement
import GameConfig.Proofs.Query.Descent
import GameConfig.Proofs.Query.Parts
import GameConfig.Proofs.Query.Provenance
import GameConfig.Proofs.Query.Skeleton
import GameConfig.Proofs.Query.Growth
import GameConfig.Proofs.Json.Scan
import GameConfig.Proofs.Json.Literal
import GameConfig.Proofs.Json.Numeral
import GameConfig.Proofs.Json.Quoted
import GameConfig.Proofs.Json.Spacing
import GameConfig.Proofs.Json.Document
import GameConfig.Proofs.Json.Written
import GameConfig.Proofs.Json.RoundTrip
import GameConfig.Proofs.Game.WellFormed
import GameConfig.Proofs.Slot.FlagTest
import GameConfig.Proofs.Game.ReadsAlike
import GameConfig.Proofs.Slot.Unset
import GameConfig.Proofs.Slot.Reading
import GameConfig.Proofs.Slot.Substitution
import GameConfig.Proofs.Json.Taken
import GameConfig.Proofs.Json.Mirror
import GameConfig.Proofs.Json.Passing
import GameConfig.Proofs.Game.Reader
import GameConfig.Proofs.Game.SaveFile
import GameConfig.Proofs.Slot.Gain
import GameConfig.Proofs.Game.History
import GameConfig.Proofs.Number.Bounds
import GameConfig.Proofs.Value.InRange
import GameConfig.Proofs.Json.InRange
import GameConfig.Proofs.Json.NumberText
import GameConfig.Proofs.Command.Outcome
import GameConfig.Proofs.Value.Same
import GameConfig.Proofs.Command.Arises
import GameConfig.Proofs.Json.Meaning
import GameConfig.Proofs.Json.Tree
import GameConfig.Proofs.Json.TreePassing
import GameConfig.Proofs.Game.PartMeaning
import GameConfig.Proofs.Game.Meaning
import GameConfig.Proofs.Json.Rearranged
import GameConfig.Proofs.Game.Rearranged
import GameConfig.Proofs.Dictionary.ByteOrder
import GameConfig.Proofs.Command.MemberOrder
import GameConfig.Proofs.Slot.Condition
import GameConfig.Proofs.Slot.Junction
import GameConfig.Proofs.Query.Notation
import GameConfig.Proofs.Slot.Comparison
import GameConfig.Proofs.Query.Dotted
import GameConfig.Proofs.Query.Index
import GameConfig.Proofs.Query.Fallback
import GameConfig.Proofs.Query.Trail
import GameConfig.Proofs.Dictionary.Keyword
import GameConfig.Proofs.Slot.Dispatch
import GameConfig.Proofs.Field.Whole
import GameConfig.Proofs.Field.Reader
import GameConfig.Proofs.Field.Color
import GameConfig.Proofs.Pattern.Places
import GameConfig.Proofs.Pattern.Language
import GameConfig.Proofs.Pattern.Form
import GameConfig.Proofs.Pieces
import GameConfig.Proofs.Number.Digits
import GameConfig.Proofs.Number.Word
import GameConfig.Proofs.Field.DurationParts
import GameConfig.Proofs.Field.Pattern
import GameConfig.Proofs.Field.Duration
import GameConfig.Proofs.Field.Shape
import GameConfig.Proofs.Field.Exact
import GameConfig.Proofs.Value.Identity
import GameConfig.Proofs.Number.Nearest
import GameConfig.Proofs.Number.Single
import GameConfig.Proofs.Field.Narrowing
import GameConfig.Proofs.Number.Shortest
import GameConfig.Proofs.Number.Decimal
import GameConfig.Proofs.Json.FloatText
import GameConfig.Proofs.Number.Ratio
import GameConfig.Proofs.Json.Scaling
import GameConfig.Proofs.Json.FloatReading
