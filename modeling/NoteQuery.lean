import NoteQuery.CommandLine.Run
import NoteQuery.Document.Evaluation
import NoteQuery.Document.Place
import NoteQuery.Document.Scrub
import NoteQuery.Json.Reader
import NoteQuery.Main
import NoteQuery.Number.Reading
import NoteQuery.Pattern.Reader
import NoteQuery.Pattern.Search
import NoteQuery.Proofs.Arrangement
import NoteQuery.Proofs.Reevaluation
import NoteQuery.Query.Answer
import NoteQuery.Settings.Load
import NoteQuery.Tables
import NoteQuery.Toml.Reader
import NoteQuery.Tree.Json
import NoteQuery.Value.Comparison
import NoteQuery.Value.Text
import NoteQuery.Workspace.Basic
import NoteQuery.Workspace.LineDiff
import NoteQuery.Proofs.Markers
import NoteQuery.Proofs.StaleBodies
import NoteQuery.Proofs.Derivation
import NoteQuery.Proofs.Recognition
import NoteQuery.Proofs.Normalization
import NoteQuery.Proofs.Numerals
import NoteQuery.Proofs.Delimiters
import NoteQuery.Proofs.Extraction
import NoteQuery.Proofs.Decoding
import NoteQuery.Proofs.Lossless
import NoteQuery.Proofs.StartScan
import NoteQuery.Proofs.Placement
import NoteQuery.Proofs.ReadingBack
import NoteQuery.Proofs.QueryText
import NoteQuery.Proofs.Spacing
import NoteQuery.Proofs.RoundTrip
import NoteQuery.Proofs.Pairing
import NoteQuery.Proofs.CommentEnds
import NoteQuery.Proofs.HostTrees
import NoteQuery.Proofs.InPlace
import NoteQuery.Proofs.Rescanning
import NoteQuery.Proofs.Preparation
import NoteQuery.Proofs.Boundaries
import NoteQuery.Proofs.Loosening
import NoteQuery.Proofs.LooseQueries
import NoteQuery.Proofs.EqualKeys
import NoteQuery.Proofs.WholeNumbers
import NoteQuery.Proofs.OrderedMaps
import NoteQuery.Proofs.JsonRoundTrip
import NoteQuery.Proofs.DroppedNodes
import NoteQuery.Proofs.Layouts
import NoteQuery.Proofs.DocumentRuns
import NoteQuery.Proofs.LooseEquality
import NoteQuery.Proofs.NestedLists
import NoteQuery.Proofs.RectangularTables
import NoteQuery.Proofs.Prediction
import NoteQuery.Proofs.ErrorPlaces
import NoteQuery.Proofs.PartialEquivalence
import NoteQuery.Proofs.ComparisonAgreement
import NoteQuery.Proofs.EqualityFilters
import NoteQuery.Proofs.OrderingFilters
import NoteQuery.Proofs.AnswerLaws
import NoteQuery.Proofs.WellFormedQueries
import NoteQuery.Proofs.InsertionOrder
import NoteQuery.Proofs.SelectedFields
import NoteQuery.Proofs.TableHistories
import NoteQuery.Proofs.TreeScrubbing
import NoteQuery.Proofs.TokenTiling
import NoteQuery.Proofs.TokenBorders
import NoteQuery.Proofs.TreeTraversal
import NoteQuery.Proofs.TreeVisits
