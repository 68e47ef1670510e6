import ControlTower.Foundation.Table
import ControlTower.Foundation.Procedure
import ControlTower.Foundation.Machine
import ControlTower.Foundation.Text
import ControlTower.Foundation.Document
import ControlTower.Foundation.Selection
import ControlTower.Foundation.Dialogue
import ControlTower.Runtime
import ControlTower.Models
import ControlTower.Run.Model
import ControlTower.Run.StateMachine
import ControlTower.Run.Transition
import ControlTower.Run.Verifier
import ControlTower.Run.Supervisor
import ControlTower.Trust.Model
import ControlTower.Trust.Policy
import ControlTower.Task.Event
import ControlTower.Store
import ControlTower.Trust.Service
import ControlTower.Trust.Authorization
import ControlTower.Trust.Quiet
import ControlTower.Trust.Issuance
import ControlTower.Trust.Verdict
import ControlTower.Trust.Effects
import ControlTower.Run.Trust
import ControlTower.Run.Routes
import ControlTower.Run.System
import ControlTower.Run.Course
import ControlTower.Run.Simulation
import ControlTower.Run.Onward
import ControlTower.Run.Picture
import ControlTower.Run.Attempt
import ControlTower.Run.Steady
import ControlTower.Run.Deed
import ControlTower.Run.Conduct
import ControlTower.Run.Governance
import ControlTower.Run.Creation
import ControlTower.Run.Serving
import ControlTower.Run.Execution
import ControlTower.Run.Requests
import ControlTower.Trust.Leases
import ControlTower.Trust.Accounts
import ControlTower.Run.Effects
import ControlTower.Run.Leases
import ControlTower.Run.Accounts
import ControlTower.Run.Sound
import ControlTower.Run.Frontier
import ControlTower.Run.Locks
import ControlTower.Foundation.Chain
import ControlTower.Foundation.Encoding
import ControlTower.Trust.FlightRecorder
import ControlTower.Durable.Restart
import ControlTower.Mcp.Model
import ControlTower.Mcp.Registry
import ControlTower.Mcp.Gateway
import ControlTower.Mcp.System
import ControlTower.Mcp.Effects
import ControlTower.Mcp.Delivery
import ControlTower.Mcp.Attempts
import ControlTower.Mcp.Polling
import ControlTower.Mcp.Child
import ControlTower.Mcp.Policing
import ControlTower.Mcp.Targets
import ControlTower.Foundation.Schema
import ControlTower.Durable.Schemas
import ControlTower.Durable.Store
import ControlTower.Durable.Connectors
import ControlTower.Durable.RoundTrip
import ControlTower.Task.Plans
import ControlTower.Approval.Lifecycle
import ControlTower.Task.World
import ControlTower.Task.Workers
import ControlTower.Task.Claims
import ControlTower.Task.Returns
import ControlTower.Access.Model
import ControlTower.Access.Policy
import ControlTower.Access.Routes
import ControlTower.Access.Effects
import ControlTower.Access.Owners
import ControlTower.Access.Invites
import ControlTower.Task.Paths
import ControlTower.Approval.Runner
import ControlTower.Approval.System
import ControlTower.Approval.Execution
import ControlTower.Connector.Model
import ControlTower.Connector.Mapper
import ControlTower.Connector.Webhook
import ControlTower.Connector.Routes
import ControlTower.Connector.Setup
import ControlTower.Connector.Validity
import ControlTower.Connector.Credentials
import ControlTower.Connector.Replay
import ControlTower.Connector.Simulator
import ControlTower.Connector.Agreement
import ControlTower.Connector.Signing
import ControlTower.Foundation.RateWindow
import ControlTower.Connector.Limits
import ControlTower.Foundation.Means
import ControlTower.Run.Metrics
import ControlTower.Approval.Risk
import ControlTower.Task.Branches
import ControlTower.Foundation.Redaction
import ControlTower.Audit.Export
import ControlTower.Trust.Reporting
import ControlTower.Task.Validation
import ControlTower.Run.Consumption
import ControlTower.Foundation.Exclusive
import ControlTower.Foundation.Tally
import ControlTower.Foundation.Growth
import ControlTower.Trust.Credentials
import ControlTower.Trust.Ledger
import ControlTower.Run.Credentials
import ControlTower.Run.Progress
import ControlTower.Run.Changes
import ControlTower.Run.Evolution
import ControlTower.Run.Rivals
import ControlTower.Run.Recovery
import ControlTower.Run.Alignment
import ControlTower.Run.Refusals
import ControlTower.Run.Budget
import ControlTower.Run.Gate
import ControlTower.Run.Ledger
import ControlTower.Foundation.Pieces
import ControlTower.Run.Sanctions
import ControlTower.Foundation.Edits
import ControlTower.Task.Retries
