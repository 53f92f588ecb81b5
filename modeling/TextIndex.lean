import TextIndex.Document.Json
import TextIndex.Engine.Site
import TextIndex.Index.SharedRoot
import TextIndex.Query.Range
import TextIndex.Query.Term
import TextIndex.Version
import TextIndex.Proofs.KeyedFold
import TextIndex.Proofs.Snapshot.Evolution
import TextIndex.Proofs.Analysis.IdentityField
import TextIndex.Proofs.Snapshot.Visibility
import TextIndex.Proofs.Snapshot.VisibleIds
import TextIndex.Proofs.Snapshot.Counting
import TextIndex.Proofs.Analysis.Answers
import TextIndex.Proofs.Engine.Proposal
import TextIndex.Proofs.Publishing.AtRest
import TextIndex.Proofs.Engine.Commit
import TextIndex.Proofs.Engine.Catalog
import TextIndex.Proofs.Engine.Session
import TextIndex.Proofs.Engine.Stages
import TextIndex.Proofs.Engine.History
import TextIndex.Proofs.Engine.Chronicle
import TextIndex.Proofs.Engine.AllOrNothing
import TextIndex.Proofs.Publishing.Steps
import TextIndex.Proofs.Publishing.Transcript
import TextIndex.Proofs.Publishing.CleanCut
import TextIndex.Proofs.Publishing.Service
import TextIndex.Proofs.Publishing.Exchange
import TextIndex.Proofs.Publishing.Verdicts
import TextIndex.Proofs.Publishing.Linearization
import TextIndex.Proofs.Engine.Skipping
import TextIndex.Proofs.Segment.Table
import TextIndex.Proofs.Segment.Traversal
import TextIndex.Proofs.Analysis.Slots
import TextIndex.Proofs.Engine.Rows
import TextIndex.Proofs.Query.TermSearch
import TextIndex.Proofs.Engine.Edits
import TextIndex.Proofs.Engine.Gathering
import TextIndex.Proofs.Engine.Arrival
import TextIndex.Proofs.Query.RangeSearch
import TextIndex.Proofs.Publishing.Batches
import TextIndex.Proofs.Analysis.Tallies
import TextIndex.Proofs.Segment.Inversion
import TextIndex.Proofs.Engine.Accounts
import TextIndex.Proofs.Analysis.Workshop
import TextIndex.Proofs.Json.Reading
import TextIndex.Proofs.Json.Structures
import TextIndex.Proofs.Time.Stamp
import TextIndex.Proofs.Document.RoundTrip
import TextIndex.Proofs.Analysis.TermAlgebra
import TextIndex.Proofs.Text.Utf8
import TextIndex.Proofs.Text.Spans
import TextIndex.Proofs.Analysis.TokenGeometry
import TextIndex.Proofs.Analysis.Refusals
import TextIndex.Proofs.Analysis.Composites
import TextIndex.Proofs.Engine.Identification
import TextIndex.Proofs.Engine.Settings
import TextIndex.Proofs.Engine.RoundTrip
import TextIndex.Proofs.KeyedTotals
import TextIndex.Proofs.Segment.Size
import TextIndex.Proofs.Engine.DryRun
import TextIndex.Proofs.Number.Rounding
import TextIndex.Proofs.Number.ShortestDecimals
import TextIndex.Proofs.Json.Doubles
import TextIndex.Proofs.Number.Infinities
import TextIndex.Proofs.Query.RangeRoundTrip
