import Router.Proofs.Ranking
import Router.Routing

/-!
# The route to an address

A routing table is told to add, remove and replace routes (`RoutingTable.run`). Whatever it is told, it is the table of
the list of routes that results (`run_eq_ofList`), so its copy by preference keeps step with that list
(`agrees_ofList`): the same routes, better ones first, equally good ones in the order they were entered. Main statement:
after every history a look-up fails exactly when no route leads to the address, and otherwise finds the best of those
that do (`lookup_run`).
-/

namespace Router

/-! ## Better routes -/

namespace Route

/-- A route goes to a longer network, or to one as long at a smaller metric. -/
def Better (route other : Route) : Prop :=
  other.destination.length < route.destination.length ∨
    other.destination.length = route.destination.length ∧ route.metric < other.metric

/-- A route goes to a longer network, or to one as long at no greater metric. -/
def NoWorse (route other : Route) : Prop :=
  other.destination.length < route.destination.length ∨
    other.destination.length = route.destination.length ∧ route.metric ≤ other.metric

theorem preferred_eq_true_iff {route other : Route} : route.preferred other = true ↔ route.Better other := by
  simp only [preferred, Better, Bool.or_eq_true, Bool.and_eq_true, decide_eq_true_eq]
  rw [eq_comm (a := other.destination.length)]

theorem preferred_eq_false_iff {route other : Route} : other.preferred route = false ↔ route.NoWorse other := by
  rw [← Bool.not_eq_true, preferred_eq_true_iff]
  unfold Better NoWorse
  rw [UInt32.lt_iff_toNat_lt, UInt32.le_iff_toNat_le]
  omega

theorem isRanking_preferred : Ranking.IsRanking preferred where
  asymm a b h := by
    rw [preferred_eq_true_iff] at h
    rw [preferred_eq_false_iff]
    rcases h with h | ⟨h, hmetric⟩
    · exact .inl h
    · exact .inr ⟨h, UInt32.le_of_lt hmetric⟩
  between a b c h := by
    simp only [preferred_eq_true_iff, Better, UInt32.lt_iff_toNat_lt] at h ⊢
    omega

/-- Of the routes of a list that lead to an address one is chosen: it is better than each that was entered before it,
and no worse than each that was entered after it. -/
def Chosen (routes : List Route) (a : Address) (route : Route) : Prop :=
  ∃ earlier later, routes = earlier ++ route :: later ∧ route.destination.contains a = true ∧
    (∀ other ∈ earlier, other.destination.contains a = true → route.Better other) ∧
    ∀ other ∈ later, other.destination.contains a = true → route.NoWorse other

end Route

/-! ## Histories of a routing table -/

/-- What a routing table can be told. -/
inductive RoutingEvent
  | add (route : Route)
  | remove (route : Route)
  | replace (routes : List Route)

/-- A list of routes after an event: a route comes last, the first that is equal to one goes, or others take the place
of all. -/
def RoutingEvent.enter (routes : List Route) : RoutingEvent → List Route
  | .add route => routes ++ [route]
  | .remove route => routes.erase route
  | .replace routes => routes

namespace RoutingTable

/-- The table after an event. -/
def step (t : RoutingTable) : RoutingEvent → RoutingTable
  | .add route => t.add route
  | .remove route => (t.remove? route).getD t
  | .replace routes => ofList routes

/-- The table after events, from one without routes. -/
def run (events : List RoutingEvent) : RoutingTable :=
  events.foldl step empty

/-- The copy by preference has the routes as they were entered, each as often, better ones first and equally good ones
in the order of entry. -/
structure Agrees (t : RoutingTable) : Prop where
  perm : t.ranked.Perm t.routes
  sorted : t.ranked.Pairwise Route.NoWorse
  stable : ∀ (length : Nat) (metric : UInt32),
    t.ranked.filter (fun route => route.destination.length = length ∧ route.metric = metric) =
      t.routes.filter fun route => route.destination.length = length ∧ route.metric = metric

theorem agrees_ofList (routes : List Route) : (ofList routes).Agrees where
  perm := Ranking.rank_perm Route.preferred routes
  sorted := (Ranking.sorted_rank Route.isRanking_preferred routes).imp Route.preferred_eq_false_iff.1
  stable length metric := by
    refine Ranking.filter_rank Route.isRanking_preferred (fun a b ha hb => ?_) routes
    obtain ⟨ha, ha'⟩ := of_decide_eq_true ha
    obtain ⟨hb, hb'⟩ := of_decide_eq_true hb
    rw [Route.preferred_eq_false_iff]
    refine .inr ⟨ha.trans hb.symm, ?_⟩
    rw [ha', hb']
    exact UInt32.le_refl metric

/-- Whatever a table is told, it becomes the table of the list of routes that results. -/
theorem step_ofList (routes : List Route) (e : RoutingEvent) : (ofList routes).step e = ofList (e.enter routes) := by
  cases e with
  | add route => rfl
  | replace routes => rfl
  | remove route =>
    by_cases hmem : route ∈ routes
    · simp [step, remove?, ofList, RoutingEvent.enter, hmem]
    · simp [step, remove?, ofList, RoutingEvent.enter, hmem, List.erase_of_not_mem]

theorem run_eq_ofList (events : List RoutingEvent) : run events = ofList (events.foldl RoutingEvent.enter []) := by
  suffices h : ∀ routes, events.foldl step (ofList routes) = ofList (events.foldl RoutingEvent.enter routes) from h []
  induction events with
  | nil => exact fun routes => rfl
  | cons e rest ih =>
    intro routes
    rw [List.foldl_cons, List.foldl_cons, step_ofList]
    exact ih _

/-! ## Look-ups -/

theorem lookup_ofList_eq_none_iff (routes : List Route) (a : Address) :
    (ofList routes).lookup a = none ↔ ∀ route ∈ routes, route.destination.contains a = false := by
  have hperm := Ranking.rank_perm Route.preferred routes
  rw [lookup, List.find?_eq_none]
  constructor
  · intro h route hroute
    simpa using h route (hperm.mem_iff.2 hroute)
  · intro h route hroute
    simpa using h route (hperm.mem_iff.1 hroute)

theorem lookup_ofList_eq_some_iff (routes : List Route) (a : Address) (route : Route) :
    (ofList routes).lookup a = some route ↔ Route.Chosen routes a route := by
  rw [lookup, ofList, Ranking.find?_rank_eq_some_iff Route.isRanking_preferred]
  simp only [Ranking.Best, Route.Chosen, Route.preferred_eq_true_iff, Route.preferred_eq_false_iff]

/-- After every history the table has the routes that were entered and not removed since, in the order of entry, and its
copy by preference agrees with them. A look-up finds nothing exactly when no route leads to the address. Otherwise it
finds one of those with the longest network, of these one with the least metric, and of these the first that was
entered. -/
theorem lookup_run (events : List RoutingEvent) :
    (run events).routes = events.foldl RoutingEvent.enter [] ∧ (run events).Agrees ∧
      ∀ a, ((run events).lookup a = none ↔ ∀ route ∈ (run events).routes, route.destination.contains a = false) ∧
        ∀ route, (run events).lookup a = some route ↔ Route.Chosen (run events).routes a route := by
  rw [run_eq_ofList]
  exact ⟨rfl, agrees_ofList _, fun a => ⟨lookup_ofList_eq_none_iff _ a, lookup_ofList_eq_some_iff _ a⟩⟩

/-- Two ways to one network and one out of it, for both families. -/
def crossroads : List RoutingEvent :=
  [.add (.connected (.around (.v4 0) 0) "wan0"), .add (.connected (.around (.v6 0) 0) "wan6"),
    .add { Route.connected (.around (.v4 0x0A000000) 8) "slow0" with metric := 20 },
    .add { Route.connected (.around (.v4 0x0A000000) 8) "fast0" with metric := 5 },
    .add { Route.connected (.around (.v4 0x0A000000) 8) "late0" with metric := 5 }]

example : ((run crossroads).lookup (.v4 0x0A010203)).map Route.interface = some "fast0" := by decide

end RoutingTable

end Router
