import PullReview.Clone.Basic
import PullReview.Clone.Diff
import PullReview.Clone.Update
import PullReview.Context.Build
import PullReview.Context.Dependency
import PullReview.Context.FilePart
import PullReview.Context.Header
import PullReview.Digest.Block
import PullReview.Digest.Sha1
import PullReview.Digest.Sha256
import PullReview.Double.Basic
import PullReview.Double.Digits
import PullReview.Fault
import PullReview.Files.Basic
import PullReview.Files.Make
import PullReview.Files.Path
import PullReview.Forge.Basic
import PullReview.Forge.History
import PullReview.Forge.Post
import PullReview.Forge.Timestamp
import PullReview.Graph.Basic
import PullReview.Graph.Build
import PullReview.Graph.CrossFile
import PullReview.Graph.Insight
import PullReview.Graph.Network
import PullReview.Issue.Basic
import PullReview.Issue.Grammar
import PullReview.Issue.Parse
import PullReview.Json.Access
import PullReview.Json.Basic
import PullReview.Json.Decode
import PullReview.Json.Display
import PullReview.Json.Encode
import PullReview.Keyed
import PullReview.Model
import PullReview.Review.Aggregate
import PullReview.Review.Board
import PullReview.Review.Draft
import PullReview.Review.Entry
import PullReview.Review.Opinion
import PullReview.Review.Pipeline
import PullReview.Review.Prompt
import PullReview.Review.Section
import PullReview.Review.Specialty
import PullReview.Review.Summary
import PullReview.Run
import PullReview.Service
import PullReview.Store.Basic
import PullReview.Store.Embedding
import PullReview.Store.Index
import PullReview.Store.Lookup
import PullReview.Store.Retrieve
import PullReview.Store.Setup
import PullReview.Text.Blank
import PullReview.Text.Decimal
import PullReview.Text.Lower
import PullReview.Text.Printable
import PullReview.Text.Quoted
import PullReview.Text.Search
import PullReview.Text.Utf8
import PullReview.Text.Word
import PullReview.Tree.Basic
import PullReview.Tree.Definition
import PullReview.Tree.Import
import PullReview.Tree.Language
import PullReview.Webhook.Gate
import PullReview.Webhook.Lesson
import PullReview.Webhook.Process
import PullReview.Webhook.Standing
import PullReview.Proofs.Keyed
import PullReview.Proofs.Issue.Grammar
import PullReview.Proofs.Issue.RoundTrip
import PullReview.Proofs.Review.Prompts
import PullReview.Proofs.Files.Walk
import PullReview.Proofs.Files.Keep
import PullReview.Proofs.Clone.Prepare
import PullReview.Proofs.Webhook.Frame
import PullReview.Proofs.Webhook.Closing
import PullReview.Proofs.Webhook.Posting
import PullReview.Proofs.Webhook.Gate
import PullReview.Proofs.Store.Points
import PullReview.Proofs.Store.Versions
import PullReview.Proofs.Review.Examine
import PullReview.Proofs.Review.Isolation
import PullReview.Proofs.Alike
import PullReview.Proofs.Store.View
import PullReview.Proofs.Webhook.Stored
import PullReview.Proofs.Webhook.Beside
import PullReview.Proofs.Webhook.Sharing
import PullReview.Proofs.Json
import PullReview.Proofs.Files.Beside
import PullReview.Proofs.Clone.Safety
import PullReview.Proofs.Review.Arrival
import PullReview.Proofs.Review.Clean
import PullReview.Proofs.Webhook.Upserts
import PullReview.Proofs.Webhook.LineEnds
import PullReview.Proofs.Review.Fixes
import PullReview.Proofs.Webhook.Readable
import PullReview.Proofs.Webhook.LatestCommit
import PullReview.Proofs.Graph.Definitions
import PullReview.Proofs.Review.Drafts
import PullReview.Proofs.Text.Lines
import PullReview.Proofs.Review.Fences
import PullReview.Proofs.Review.Verdict
import PullReview.Proofs.Review.Regrouping
import PullReview.Proofs.Timestamp
import PullReview.Proofs.Webhook.Pairing
import PullReview.Proofs.Clone.ChangedPaths
import PullReview.Proofs.Context.Dependencies
import PullReview.Proofs.Context.Confinement
import PullReview.Proofs.Graph.Network
import PullReview.Proofs.Tree.Preorder
import PullReview.Proofs.Tree.SourceOrder
import PullReview.Proofs.Graph.CrossFile
import PullReview.Proofs.Graph.Readers
