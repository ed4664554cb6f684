import Router.Main
import Router.Snapshot.Document
import Router.Proofs.Routing
import Router.Proofs.Nat.Takeover
import Router.Proofs.Nat.Expiry
import Router.Proofs.Nat.Reply
import Router.Proofs.Header.Verification
import Router.Proofs.Header.Agreement
import Router.Proofs.Plane.Outlet
import Router.Proofs.Plane.Ledger
import Router.Proofs.Plane.Tickets
import Router.Proofs.Shaping.Order
import Router.Proofs.Shaping.Life
import Router.Proofs.Detection.History
import Router.Proofs.Detection.Bursts
import Router.Proofs.Firewall.History
import Router.Proofs.Plane.Operations
import Router.Proofs.Snapshot
import Router.Proofs.Detection.Independence
import Router.Proofs.Detection.Spacing
import Router.Proofs.Plane.Sentry
import Router.Proofs.Plane.Reinstallation
import Router.Proofs.Plane.Interleaving
import Router.Proofs.Snapshot.Document
import Router.Proofs.Plane.Arrivals
import Router.Proofs.Config.Defaults
import Router.Proofs.Header.Exactness
import Router.Proofs.Header.Restoring
import Router.Proofs.Nat.Sides
import Router.Proofs.Header.Acceptance
import Router.Proofs.Header.Building
import Router.Proofs.Shaping.Service
import Router.Proofs.Shaping.Replacement
import Router.Proofs.Shaping.Swapping
import Router.Proofs.Shaping.Limits
import Router.Proofs.Detection.Ring
import Router.Proofs.Network.Members
import Router.Proofs.Network.Spelling
import Router.Proofs.Capture
import Router.Proofs.Firewall.Hits
import Router.Proofs.Plane.Unrouted
import Router.Proofs.Metrics.Export
import Router.Proofs.Config.Completeness
import Router.Proofs.Header.Folding
