import FleetDashboard.Access.Gate
import FleetDashboard.Access.PolicyStore
import FleetDashboard.Api.Error
import FleetDashboard.Api.ListParameters
import FleetDashboard.Api.Message
import FleetDashboard.Api.Overview
import FleetDashboard.Api.RegistryTargets
import FleetDashboard.Api.Route
import FleetDashboard.Api.Router
import FleetDashboard.Api.Service
import FleetDashboard.ApiServer.Client
import FleetDashboard.ApiServer.ManagerPods
import FleetDashboard.ApiServer.Objects
import FleetDashboard.ApiServer.Request
import FleetDashboard.ApiServer.SecretStore
import FleetDashboard.ApiServer.TokenReview
import FleetDashboard.Caller.Authentication
import FleetDashboard.Caller.Headers
import FleetDashboard.Caller.Identity
import FleetDashboard.Caller.UserSlot
import FleetDashboard.Cedar.Address
import FleetDashboard.Cedar.Entity
import FleetDashboard.Cedar.Expression
import FleetDashboard.Cedar.Extension
import FleetDashboard.Cedar.Policy
import FleetDashboard.Cedar.Reader
import FleetDashboard.Cedar.Token
import FleetDashboard.Cedar.Value
import FleetDashboard.ClientError
import FleetDashboard.Clients.ClusterName
import FleetDashboard.Clients.Registry
import FleetDashboard.Clients.Target
import FleetDashboard.Connection.Basic
import FleetDashboard.Connection.Bootstrap
import FleetDashboard.Connection.Kubeconfig
import FleetDashboard.Connection.Store
import FleetDashboard.Json.Basic
import FleetDashboard.Json.Place
import FleetDashboard.Json.Printer
import FleetDashboard.Json.Reader
import FleetDashboard.Kubernetes.Configuration
import FleetDashboard.Kubernetes.Decode
import FleetDashboard.Kubernetes.Document
import FleetDashboard.Kubernetes.Metadata
import FleetDashboard.Kubernetes.Object
import FleetDashboard.Kubernetes.Pod
import FleetDashboard.Kubernetes.PodShape
import FleetDashboard.Kubernetes.Shape
import FleetDashboard.Kubernetes.VolumeShape
import FleetDashboard.Kubernetes.Workload
import FleetDashboard.Listing.Aggregate
import FleetDashboard.Listing.Gather
import FleetDashboard.Listing.Lister
import FleetDashboard.Listing.Namespaces
import FleetDashboard.Number.Count
import FleetDashboard.Number.Double
import FleetDashboard.Number.Shortest
import FleetDashboard.Overview.Argo
import FleetDashboard.Overview.ClusterStatus
import FleetDashboard.Overview.ControllerManager
import FleetDashboard.Overview.Members
import FleetDashboard.Overview.Resources
import FleetDashboard.Overview.Version
import FleetDashboard.Proofs.Access.Gate
import FleetDashboard.Proofs.Access.PolicyCalls
import FleetDashboard.Proofs.Access.PolicyRace
import FleetDashboard.Proofs.Access.PolicyReplacement
import FleetDashboard.Proofs.Access.PolicyUpdates
import FleetDashboard.Proofs.Access.Selection
import FleetDashboard.Proofs.Api.Envelope
import FleetDashboard.Proofs.Api.HiddenClusters
import FleetDashboard.Proofs.Api.ManagementAccess
import FleetDashboard.Proofs.Api.ManagerIndependence
import FleetDashboard.Proofs.Api.NameLookup
import FleetDashboard.Proofs.Api.Overview
import FleetDashboard.Proofs.Api.OverviewOutcome
import FleetDashboard.Proofs.Api.Pages
import FleetDashboard.Proofs.Api.Refusal
import FleetDashboard.Proofs.Api.Retention
import FleetDashboard.Proofs.Api.Serving
import FleetDashboard.Proofs.Api.UserSlot
import FleetDashboard.Proofs.ApiServer.NamespacedListing
import FleetDashboard.Proofs.Caller.Authentication
import FleetDashboard.Proofs.Caller.Credential
import FleetDashboard.Proofs.Caller.HeaderNames
import FleetDashboard.Proofs.Clients.CacheInvariant
import FleetDashboard.Proofs.Clients.CacheTurn
import FleetDashboard.Proofs.Clients.ClusterName
import FleetDashboard.Proofs.Clients.Race
import FleetDashboard.Proofs.Clients.Rebuild
import FleetDashboard.Proofs.Clients.Registry
import FleetDashboard.Proofs.Connection.Forwarding
import FleetDashboard.Proofs.Connection.Rederiving
import FleetDashboard.Proofs.Connection.SetOnce
import FleetDashboard.Proofs.Kubernetes.Shape
import FleetDashboard.Proofs.Listing.Aggregate
import FleetDashboard.Proofs.Listing.Gather
import FleetDashboard.Proofs.Listing.Related
import FleetDashboard.Proofs.Number.Sum
import FleetDashboard.Proofs.Number.Whole
import FleetDashboard.Proofs.Overview.HiddenClusters
import FleetDashboard.Proofs.Overview.Overflow
import FleetDashboard.Proofs.Overview.Totals
import FleetDashboard.Proofs.Overview.Version
import FleetDashboard.Proofs.Overview.VersionPairs
import FleetDashboard.Proofs.Quantity.Grammar
import FleetDashboard.Proofs.Selection.Arrangement
import FleetDashboard.Proofs.Selection.Circles
import FleetDashboard.Proofs.Selection.Conjunction
import FleetDashboard.Proofs.Selection.QueryText
import FleetDashboard.Proofs.Text.Pieces
import FleetDashboard.Proofs.Time.Await
import FleetDashboard.Proofs.Time.ScopeTree
import FleetDashboard.Proofs.Uri
import FleetDashboard.Proofs.Views.HiddenContent
import FleetDashboard.Proofs.Views.Listing
import FleetDashboard.Proofs.Views.PodOwnership
import FleetDashboard.Proofs.Views.Reading
import FleetDashboard.Proofs.Views.ReplicaSetDetail
import FleetDashboard.Proofs.Views.Sorting
import FleetDashboard.Proofs.Views.StatusCounts
import FleetDashboard.Quantity
import FleetDashboard.ResourceError
import FleetDashboard.ResourceKind
import FleetDashboard.Selection.Property
import FleetDashboard.Selection.Query
import FleetDashboard.Selection.Select
import FleetDashboard.Selection.Value
import FleetDashboard.ServerFailure
import FleetDashboard.StableSort
import FleetDashboard.Telemetry
import FleetDashboard.Telemetry.Directive
import FleetDashboard.Telemetry.Pattern
import FleetDashboard.Text.Alphanumeric
import FleetDashboard.Text.Base64
import FleetDashboard.Text.Blank
import FleetDashboard.Text.Digits
import FleetDashboard.Text.Hidden
import FleetDashboard.Text.Percent
import FleetDashboard.Text.Pieces
import FleetDashboard.Text.Quoted
import FleetDashboard.Text.Utf8
import FleetDashboard.Time.Instant
import FleetDashboard.Time.Rfc3339
import FleetDashboard.Time.ScopeTree
import FleetDashboard.Time.Span
import FleetDashboard.Time.Wait
import FleetDashboard.Uri
import FleetDashboard.Views.Basic
import FleetDashboard.Views.Catalogue
import FleetDashboard.Views.Configuration
import FleetDashboard.Views.CronJobs
import FleetDashboard.Views.Deployments
import FleetDashboard.Views.Pods
import FleetDashboard.Views.ReplicaSets
