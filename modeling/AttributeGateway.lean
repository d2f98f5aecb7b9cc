import AttributeGateway.Agent.Basic
import AttributeGateway.Agent.Script
import AttributeGateway.CommandLine
import AttributeGateway.Config.Document
import AttributeGateway.Gateway.Schedule
import AttributeGateway.Json.Parser
import AttributeGateway.Main
import AttributeGateway.Path.Resolve
import AttributeGateway.Proofs.Agent.Reads
import AttributeGateway.Proofs.Config.Acceptance
import AttributeGateway.Proofs.Config.Loading
import AttributeGateway.Proofs.Gateway.Accounts
import AttributeGateway.Proofs.Gateway.Answers
import AttributeGateway.Proofs.Gateway.Batches
import AttributeGateway.Proofs.Gateway.Caching
import AttributeGateway.Proofs.Gateway.Closers
import AttributeGateway.Proofs.Gateway.Connecting
import AttributeGateway.Proofs.Gateway.Counting
import AttributeGateway.Proofs.Gateway.Failures
import AttributeGateway.Proofs.Gateway.GivingUp
import AttributeGateway.Proofs.Gateway.Isolation
import AttributeGateway.Proofs.Gateway.Progress
import AttributeGateway.Proofs.Gateway.Retrying
import AttributeGateway.Proofs.Gateway.Sessions
import AttributeGateway.Proofs.Gateway.Transparency
import AttributeGateway.Proofs.Path.Grammar
import AttributeGateway.Proofs.Path.Segments
import AttributeGateway.Proofs.Request.Filling
import AttributeGateway.Proofs.Request.Reprinting
import AttributeGateway.Proofs.Server.Capacity
import AttributeGateway.Proofs.Server.Pipelining
import AttributeGateway.Proofs.Server.Stalling
import AttributeGateway.Proofs.Server.Starting
import AttributeGateway.Proofs.Server.Stopping
import AttributeGateway.Proofs.Text.Integers
import AttributeGateway.Proofs.Value.Congruence
import AttributeGateway.Proofs.Value.Documents
import AttributeGateway.Proofs.Value.Locations
import AttributeGateway.Proofs.Value.Payload
import AttributeGateway.Proofs.Wire.Delivery
import AttributeGateway.Proofs.Wire.Framing
import AttributeGateway.Remote.Registry
import AttributeGateway.Request.Command
import AttributeGateway.Server.Exchange
import AttributeGateway.Server.Exporter
import AttributeGateway.Server.Launch
import AttributeGateway.Toml.Parser
import AttributeGateway.Url.Parser
import AttributeGateway.Value.Equality
import AttributeGateway.Value.Json
import AttributeGateway.Wire.LineReader
import AttributeGateway.Wire.Response
