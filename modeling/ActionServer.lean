import ActionServer.Client.Table
import ActionServer.Script.Native
import ActionServer.Script.Program
import ActionServer.Server.Loopback
import ActionServer.Server.Scripts
import ActionServer.Proofs.Action.View
import ActionServer.Proofs.Server.Dispatch
import ActionServer.Proofs.Store.Refinement
import ActionServer.Proofs.Json.Equality
import ActionServer.Proofs.Store.Writes
import ActionServer.Proofs.Server.Secret
import ActionServer.Proofs.Action.Registry
import ActionServer.Proofs.Server.Closure
import ActionServer.Proofs.Json.Parts
import ActionServer.Proofs.Json.Text
import ActionServer.Proofs.Json.RoundTrip
import ActionServer.Proofs.Server.Transparency
import ActionServer.Proofs.Action.Construction
import ActionServer.Proofs.Text.Affix
import ActionServer.Proofs.Script.Interleaving
import ActionServer.Proofs.Server.Reach
import ActionServer.Proofs.Store.Isolation
import ActionServer.Proofs.Domain.Behaviour
import ActionServer.Proofs.Script.Confinement
import ActionServer.Proofs.Server.Isolation
import ActionServer.Proofs.Server.Router
import ActionServer.Proofs.Script.Workplace
import ActionServer.Proofs.Server.Addition
import ActionServer.Proofs.Server.Refusals
import ActionServer.Proofs.Script.Framing
import ActionServer.Proofs.Script.Noninterference
import ActionServer.Proofs.Action.Loading
import ActionServer.Proofs.Action.Paths
import ActionServer.Proofs.Server.Layers
import ActionServer.Proofs.Server.Routing
import ActionServer.Proofs.Server.Spelling
import ActionServer.Proofs.Server.Methods
import ActionServer.Proofs.Server.ErrorFormat
import ActionServer.Proofs.Store.Readback
import ActionServer.Proofs.Action.Name
import ActionServer.Proofs.Action.Config
import ActionServer.Proofs.Action.Classification
import ActionServer.Proofs.Action.Scripts
import ActionServer.Proofs.Script.Frame
import ActionServer.Proofs.Script.Grammar
import ActionServer.Proofs.Store.Revisions
import ActionServer.Proofs.Store.Frame
import ActionServer.Proofs.Client.Destination
import ActionServer.Proofs.Action.Errors
