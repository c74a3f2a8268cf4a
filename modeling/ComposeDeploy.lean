import ComposeDeploy.Capture.Filter
import ComposeDeploy.Capture.Query
import ComposeDeploy.Capture.Route
import ComposeDeploy.Capture.Server
import ComposeDeploy.Capture.Session
import ComposeDeploy.CommandLine.Arguments
import ComposeDeploy.CommandLine.Program
import ComposeDeploy.CommandLine.Report
import ComposeDeploy.Container.Configuration
import ComposeDeploy.Container.CreateRequest
import ComposeDeploy.Container.Schema
import ComposeDeploy.Container.Shape
import ComposeDeploy.Container.Template
import ComposeDeploy.Deployment.Actions
import ComposeDeploy.Deployment.Fleet
import ComposeDeploy.Deployment.Planning
import ComposeDeploy.Deployment.Rehearsal
import ComposeDeploy.Deployment.Steps
import ComposeDeploy.Dictionary
import ComposeDeploy.Engine.Address
import ComposeDeploy.Engine.Attempted
import ComposeDeploy.Engine.Basic
import ComposeDeploy.Engine.Client
import ComposeDeploy.Engine.Model
import ComposeDeploy.Engine.Transport
import ComposeDeploy.Engine.Version
import ComposeDeploy.Error
import ComposeDeploy.History.Basic
import ComposeDeploy.History.Label
import ComposeDeploy.History.Listing
import ComposeDeploy.History.Target
import ComposeDeploy.Http
import ComposeDeploy.ImageName
import ComposeDeploy.Json.Reader
import ComposeDeploy.Json.Value
import ComposeDeploy.Json.Writer
import ComposeDeploy.Main
import ComposeDeploy.Orchestrator
import ComposeDeploy.Settings
import ComposeDeploy.Table
import ComposeDeploy.Text.Blank
import ComposeDeploy.Text.Numeral
import ComposeDeploy.Text.Percent
import ComposeDeploy.Text.Utf8
import ComposeDeploy.Text.Width
import ComposeDeploy.Timestamp
import ComposeDeploy.Proofs.Text.Trimming
import ComposeDeploy.Proofs.Text.Numerals
import ComposeDeploy.Proofs.Json.Scan
import ComposeDeploy.Proofs.Container.Encoding
import ComposeDeploy.Proofs.History.RoundTrip
import ComposeDeploy.Proofs.History.Retention
import ComposeDeploy.Proofs.Engine.Exchange
import ComposeDeploy.Proofs.Engine.Containers
import ComposeDeploy.Proofs.Deployment.Planning
import ComposeDeploy.Proofs.Deployment.Conversation
import ComposeDeploy.Proofs.Deployment.Phases
import ComposeDeploy.Proofs.Deployment.Effects
import ComposeDeploy.Proofs.Deployment.Ledger
import ComposeDeploy.Proofs.Deployment.Provenance
import ComposeDeploy.Proofs.Deployment.Aftermath
import ComposeDeploy.Proofs.Deployment.Succession
import ComposeDeploy.Proofs.Deployment.Survival
import ComposeDeploy.Proofs.Engine.Images
import ComposeDeploy.Proofs.Deployment.Retry
import ComposeDeploy.Proofs.Text.Pieces
import ComposeDeploy.Proofs.Capture.Recording
import ComposeDeploy.Proofs.Capture.Refusals
import ComposeDeploy.Proofs.Deployment.Tenure
import ComposeDeploy.Proofs.Deployment.Teardown
import ComposeDeploy.Proofs.Deployment.Occupancy
import ComposeDeploy.Proofs.Container.Slots
import ComposeDeploy.Proofs.Json.Members
import ComposeDeploy.Proofs.Container.Modernised
import ComposeDeploy.Proofs.Container.OlderForms
import ComposeDeploy.Proofs.Deployment.Redeploy
import ComposeDeploy.Proofs.Deployment.Replay
import ComposeDeploy.Proofs.Deployment.Reach
import ComposeDeploy.Proofs.Capture.Forwarding
import ComposeDeploy.Proofs.Capture.Order
import ComposeDeploy.Proofs.Capture.Lifecycle
import ComposeDeploy.Proofs.Deployment.Reversal
import ComposeDeploy.Proofs.Deployment.Decision
import ComposeDeploy.Proofs.Deployment.Timing
import ComposeDeploy.Proofs.Deployment.Models
import ComposeDeploy.Proofs.Deployment.Independence
import ComposeDeploy.Proofs.Json.Endings
import ComposeDeploy.Proofs.Deployment.Damage
import ComposeDeploy.Proofs.Deployment.Nesting
import ComposeDeploy.Proofs.Container.Limits
import ComposeDeploy.Proofs.History.Numbering
import ComposeDeploy.Proofs.Engine.Blame
import ComposeDeploy.Proofs.History.Selection
import ComposeDeploy.Proofs.Deployment.Refusal
import ComposeDeploy.Proofs.Capture.Paths
import ComposeDeploy.Proofs.Deployment.Convergence
import ComposeDeploy.Proofs.Capture.Images
import ComposeDeploy.Proofs.Capture.Builds
import ComposeDeploy.Proofs.Deployment.Traffic
import ComposeDeploy.Proofs.Container.Stability
import ComposeDeploy.Proofs.Capture.Filters
import ComposeDeploy.Proofs.Capture.Listings
import ComposeDeploy.Proofs.Settings
import ComposeDeploy.Proofs.Deployment.Completion
import ComposeDeploy.Proofs.ImageName
import ComposeDeploy.Proofs.Engine.Versions
import ComposeDeploy.Proofs.Engine.Requests
import ComposeDeploy.Proofs.Engine.Resolution
import ComposeDeploy.Proofs.CommandLine.Report
import ComposeDeploy.Proofs.History.Edits
import ComposeDeploy.Proofs.Engine.Attempts
import ComposeDeploy.Proofs.Engine.Launch
import ComposeDeploy.Proofs.Engine.Hosts
