import Router.Network
import Router.Ranking

/-!
# Routing

A routing table holds routes in the order they were entered, beside a copy in the order of preference: longer networks
first, then smaller metrics, then earlier entries. A lookup takes the first route of the copy that leads to the
address.
-/

namespace Router

/-- A way to a network. -/
structure Route where
  destination : Network
  /-- The next hop; none if the network is directly connected. -/
  gateway : Option Address
  interface : String
  /-- Less is preferred. -/
  metric : UInt32
  deriving DecidableEq, Repr

namespace Route

/-- The route to a directly connected network. -/
def connected (destination : Network) (interface : String) : Route :=
  ⟨destination, none, interface, 0⟩

/-- Whether a route is strictly preferred to another. -/
def preferred (a b : Route) : Bool :=
  b.destination.length < a.destination.length ||
    (a.destination.length = b.destination.length && a.metric < b.metric)

end Route

/-- Routes, as entered and by preference. -/
structure RoutingTable where
  routes : List Route
  ranked : List Route
  deriving DecidableEq, Repr

namespace RoutingTable

/-- The table of a list of routes. -/
def ofList (routes : List Route) : RoutingTable :=
  ⟨routes, Ranking.rank Route.preferred routes⟩

/-- The table without routes. -/
def empty : RoutingTable :=
  ofList []

/-- The table with one more route. -/
def add (t : RoutingTable) (route : Route) : RoutingTable :=
  ofList (t.routes ++ [route])

/-- The table without the first route equal to `route`, if there is one. -/
def remove? (t : RoutingTable) (route : Route) : Option RoutingTable :=
  if route ∈ t.routes then some (ofList (t.routes.erase route)) else none

/-- The most preferred route to an address. -/
def lookup (t : RoutingTable) (a : Address) : Option Route :=
  t.ranked.find? fun route => route.destination.contains a

end RoutingTable

end Router
