import FeedOperator.Text.Blank
import FeedOperator.Text.Pieces
import FeedOperator.Text.Quoted
import FeedOperator.Json.Basic
import FeedOperator.Json.Reading
import FeedOperator.Resource.Decode
import FeedOperator.Affected
import FeedOperator.Retry
import FeedOperator.Pass
import FeedOperator.Reconcile.Source
import FeedOperator.Reconcile.HotNews
import FeedOperator.Rehearsal
import FeedOperator.Url.Parse
import FeedOperator.Aggregator.Query
import FeedOperator.Json.Patch
import FeedOperator.Admission.Source
import FeedOperator.Admission.HotNews
import FeedOperator.Admission.FeedGroup
import FeedOperator.Admission.Handler
import FeedOperator.Aggregator.Client
import FeedOperator.Store.Server
import FeedOperator.Cluster
import FeedOperator.Definition
import FeedOperator.Probe
import FeedOperator.Main
import FeedOperator.Proofs.Run
import FeedOperator.Proofs.Store.Catalog
import FeedOperator.Proofs.Store.Sound
import FeedOperator.Proofs.Store.Write
import FeedOperator.Proofs.Reconcile.Owners
import FeedOperator.Proofs.Reconcile.HotNews
import FeedOperator.Proofs.Reconcile.Source
import FeedOperator.Proofs.Identity
import FeedOperator.Proofs.Ownership
import FeedOperator.Proofs.Admission.Apart
import FeedOperator.Proofs.Race
import FeedOperator.Proofs.Release
import FeedOperator.Proofs.Admission.Defaulting
import FeedOperator.Proofs.Frame
import FeedOperator.Proofs.Settling
import FeedOperator.Proofs.Commuting
import FeedOperator.Proofs.Editing
import FeedOperator.Proofs.Admission.Linking
import FeedOperator.Proofs.Admission.Dispatch
import FeedOperator.Proofs.Admission.Intake
import FeedOperator.Proofs.Store.Optimistic
import FeedOperator.Proofs.Marking
import FeedOperator.Proofs.Retention
import FeedOperator.Proofs.Admission.Removal
import FeedOperator.Proofs.Affected
import FeedOperator.Proofs.Reporting
import FeedOperator.Proofs.Retrying
import FeedOperator.Proofs.Recording
import FeedOperator.Proofs.Remembering
import FeedOperator.Proofs.Weather
import FeedOperator.Proofs.Reconcile.Parting
import FeedOperator.Proofs.Resuming
import FeedOperator.Proofs.Failing
import FeedOperator.Proofs.Registering
import FeedOperator.Proofs.Text.Utf8
import FeedOperator.Proofs.Text.Numeral
import FeedOperator.Proofs.Url.Form
import FeedOperator.Proofs.Url.Query
import FeedOperator.Proofs.Aggregator.Query
import FeedOperator.Proofs.Calendar.Date
import FeedOperator.Proofs.Admission.Dates
import FeedOperator.Proofs.Vanishing
import FeedOperator.Proofs.Summarizing
import FeedOperator.Proofs.Admission.Window
import FeedOperator.Proofs.Admission.Groups
import FeedOperator.Proofs.FeedGroup
import FeedOperator.Proofs.Resource.RoundTrip
import FeedOperator.Proofs.Classifying
import FeedOperator.Proofs.ShortNames
import FeedOperator.Proofs.Relinking
