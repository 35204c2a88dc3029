import GraphGateway.Assembly.RandomId
import GraphGateway.Datum.Display
import GraphGateway.Dialogue.Script
import GraphGateway.Gateway.Edges
import GraphGateway.Gateway.Graphs
import GraphGateway.Gateway.Nodes
import GraphGateway.Graph.Json
import GraphGateway.Json.Reader
import GraphGateway.Main
import GraphGateway.Proofs.Assembly.Counting
import GraphGateway.Proofs.Assembly.Order
import GraphGateway.Proofs.Assembly.Registry
import GraphGateway.Proofs.Assembly.Retry
import GraphGateway.Proofs.Assembly.Soundness
import GraphGateway.Proofs.CommandLine.Output
import GraphGateway.Proofs.Datum.RoundTrip
import GraphGateway.Proofs.Gateway.Absence
import GraphGateway.Proofs.Gateway.ProperStatements
import GraphGateway.Proofs.Gateway.PropertyNames
import GraphGateway.Proofs.Gateway.Refusals
import GraphGateway.Proofs.Graph.Adjacency
import GraphGateway.Proofs.Graph.FlatForm
import GraphGateway.Proofs.Neighborhood.Hops
import GraphGateway.Proofs.Neighborhood.Star
import GraphGateway.Proofs.Pattern.Acceptance
import GraphGateway.Proofs.Renaming.Graphs
import GraphGateway.Proofs.Schema.Drafting
import GraphGateway.Proofs.Search.Case
import GraphGateway.Proofs.Sharing.Uniqueness
import GraphGateway.Proofs.Statement.Splicing
import GraphGateway.Proofs.Store.Leaves
