import Mathlib.Data.List.Basic

/-! `AMQP_opened_handler` and `qd_router_connection_get_config` (router_node.c): the role, cost,
name, annotation stripping, link capacity and vhost a newly opened connection is announced to the
core with. The remote connection properties are read by a `pn_data_t` walk that steps through the
map's keys and values as one flat sequence; `scanCost` is that walk. -/

namespace DispatchRouter.OpenedHandler

/-- `QD_CONNECTION_PROPERTY_COST_KEY` (its header is not under src/; the spec names the key). -/
def qdConnectionPropertyCostKey : List Char := "qd.inter-router-cost".toList

def routerRole : List Char := "inter-router".toList
def onDemandRole : List Char := "on-demand".toList
def containerRole : List Char := "route-container".toList

/-- One item of a `pn_data_t` at the level the cost walk steps through, as far as the walk tells
items apart: a symbol, an int, or anything else (a compound value is one item, since
`pn_data_next` does not descend into it). -/
inductive PnAtom where
  | symbol (name : List Char)
  | int (value : Int)
  | other
  deriving DecidableEq, Repr

/-- The first value of the remote properties: a map, as the flat sequence of its children
(key, value, key, value, ...), or any other value. -/
inductive PnValue where
  | map (items : List PnAtom)
  | other
  deriving DecidableEq, Repr

/-- The children of the map with the given symbol-keyed entries, in the order `pn_data_next`
visits them. -/
def mapItems : List (List Char × PnAtom) → List PnAtom
  | [] => []
  | (key, value) :: entries => .symbol key :: value :: mapItems entries

/-- The `qd_server_config_t` fields `qd_router_connection_get_config` reads. -/
structure QdServerConfig where
  role : List Char
  interRouterCost : Int
  name : Option (List Char)
  multiTenant : Bool
  stripInboundAnnotations : Bool
  stripOutboundAnnotations : Bool
  linkCapacity : Int
  deriving DecidableEq, Repr

/-- `qdr_connection_role_t`. -/
inductive QdrConnectionRole where
  | normal
  | interRouter
  | routeContainer
  deriving DecidableEq, Repr

/-- The out-parameters of `qd_router_connection_get_config`. -/
structure ConnectionConfig where
  role : QdrConnectionRole
  cost : Int
  name : Option (List Char)
  multiTenant : Bool
  stripAnnotationsIn : Bool
  stripAnnotationsOut : Bool
  linkCapacity : Int
  deriving DecidableEq, Repr

/-- `qd_router_connection_get_config` on a connection with server config `cf`. The cost is written
only for an inter-router connection; otherwise the caller's `cost` stays. -/
def qdRouterConnectionGetConfig (cf : Option QdServerConfig) (cost : Int) : ConnectionConfig :=
  match cf with
  | none =>
    { role := .normal, cost, name := none, multiTenant := false, stripAnnotationsIn := false,
      stripAnnotationsOut := false, linkCapacity := 1 }
  | some cf =>
    let config : ConnectionConfig :=
      { role := .normal, cost,
        name := cf.name.filter fun name =>
          !("listener/".toList.isPrefixOf name || "connector/".toList.isPrefixOf name),
        multiTenant := cf.multiTenant, stripAnnotationsIn := cf.stripInboundAnnotations,
        stripAnnotationsOut := cf.stripOutboundAnnotations, linkCapacity := cf.linkCapacity }
    if cf.role = routerRole then
      { config with
        role := .interRouter
        cost := cf.interRouterCost
        stripAnnotationsIn := false
        stripAnnotationsOut := false }
    else if cf.role = containerRole ∨ cf.role = onDemandRole then { config with role := .routeContainer }
    else config

/-- The `while (pn_data_next (props))` loop over the map's children, from `remote_cost`: the
first symbol equal to the cost key, at a key or at a value position, ends the loop, and the item
after it is the cost if it is an int. The symbol test is `sym.size == strlen (key)` and
`strcmp`, i.e. equality. -/
def scanCost : List PnAtom → Int → Int
  | [], remoteCost => remoteCost
  | .symbol sym :: rest, remoteCost =>
    if sym = qdConnectionPropertyCostKey then
      match rest with
      | .int value :: _ => value
      | _ => remoteCost
    else scanCost rest remoteCost
  | _ :: rest, remoteCost => scanCost rest remoteCost

/-- The remote cost `AMQP_opened_handler` reads from the remote properties (`none`: no
`pn_connection_t`, or no value in them), starting from `remote_cost = 1`. -/
def remoteCostOf : Option PnValue → Int
  | some (.map items) => scanCost items 1
  | _ => 1

/-- What `AMQP_opened_handler` reads from its `qd_connection_t`. -/
structure QdConnectionView where
  config : Option QdServerConfig
  connectionId : Nat
  remoteProperties : Option PnValue
  remoteHostname : Option (List Char)
  remoteContainer : Option (List Char)
  deriving DecidableEq, Repr

/-- The arguments `AMQP_opened_handler` passes `qdr_connection_opened` (the `connection_info`
record apart). -/
structure QdrConnectionOpened where
  inbound : Bool
  role : QdrConnectionRole
  cost : Int
  connectionId : Nat
  name : Option (List Char)
  remoteContainer : Option (List Char)
  stripAnnotationsIn : Bool
  stripAnnotationsOut : Bool
  linkCapacity : Int
  vhost : Option (List Char)
  deriving DecidableEq, Repr

/-- `AMQP_opened_handler`: an inter-router connection takes the larger of its configured cost
and the cost the remote advertises. -/
def amqpOpenedHandler (conn : QdConnectionView) (inbound : Bool) : QdrConnectionOpened :=
  let cf := qdRouterConnectionGetConfig conn.config 1
  let remoteCost := remoteCostOf conn.remoteProperties
  let cost := if cf.role = .interRouter ∧ remoteCost > cf.cost then remoteCost else cf.cost
  { inbound, role := cf.role, cost, connectionId := conn.connectionId, name := cf.name,
    remoteContainer := conn.remoteContainer, stripAnnotationsIn := cf.stripAnnotationsIn,
    stripAnnotationsOut := cf.stripAnnotationsOut, linkCapacity := cf.linkCapacity,
    vhost := if cf.multiTenant then conn.remoteHostname else none }

/-- The cost the remote advertises, in the spec's words: the int bound to the cost key in a
symbol-keyed map, else 1. -/
def advertisedCost : List (List Char × PnAtom) → Int
  | [] => 1
  | (key, value) :: entries =>
    if key = qdConnectionPropertyCostKey then
      match value with
      | .int value => value
      | _ => 1
    else advertisedCost entries

theorem scanCost_cons_of_ne {atom : PnAtom} (other : atom ≠ .symbol qdConnectionPropertyCostKey)
    (rest : List PnAtom) (remoteCost : Int) : scanCost (atom :: rest) remoteCost = scanCost rest remoteCost := by
  cases atom with
  | symbol sym => exact if_neg fun same => other (congrArg PnAtom.symbol same)
  | int _ | other => rfl

theorem scanCost_mapItems (entries : List (List Char × PnAtom))
    (noValueKey : ∀ entry ∈ entries, entry.2 ≠ .symbol qdConnectionPropertyCostKey) :
    scanCost (mapItems entries) 1 = advertisedCost entries := by
  induction entries with
  | nil => rfl
  | cons entry entries ih =>
    obtain ⟨key, value⟩ := entry
    simp only [List.mem_cons, forall_eq_or_imp] at noValueKey
    simp only [mapItems, scanCost, advertisedCost]
    split_ifs
    · cases value <;> rfl
    · rw [scanCost_cons_of_ne noValueKey.1, ih noValueKey.2]

/-- A value equal to the cost key symbol, ahead of every cost key, ends the walk at the next key:
whatever cost a later entry binds, the walk returns 1. -/
theorem scanCost_hidden (entries : List (List Char × PnAtom)) (key : List Char)
    (rest : List (List Char × PnAtom))
    (ahead : ∀ entry ∈ entries ++ [(key, .symbol qdConnectionPropertyCostKey)],
      entry.1 ≠ qdConnectionPropertyCostKey)
    (noValueKey : ∀ entry ∈ entries, entry.2 ≠ .symbol qdConnectionPropertyCostKey) :
    scanCost (mapItems (entries ++ (key, .symbol qdConnectionPropertyCostKey) :: rest)) 1 = 1 := by
  induction entries with
  | nil =>
    have other : key ≠ qdConnectionPropertyCostKey := ahead _ (List.mem_singleton_self _)
    cases rest <;> simp only [List.nil_append, mapItems, scanCost, if_neg other, if_pos]
  | cons entry entries ih =>
    obtain ⟨key', value⟩ := entry
    simp only [List.cons_append, List.mem_cons, forall_eq_or_imp] at ahead noValueKey
    rw [List.cons_append, mapItems, scanCost_cons_of_ne fun same => ahead.1 (PnAtom.symbol.inj same),
      scanCost_cons_of_ne noValueKey.1, ih ahead.2 noValueKey.2]

theorem amqpOpenedHandler_cost (conn : QdConnectionView) (inbound : Bool) :
    (amqpOpenedHandler conn inbound).cost =
      match conn.config with
      | some cf => if cf.role = routerRole then max cf.interRouterCost (remoteCostOf conn.remoteProperties) else 1
      | none => 1 := by
  rcases conn with ⟨_ | cf, _, _, _, _⟩
  · rfl
  · by_cases router : cf.role = routerRole
    · simp only [amqpOpenedHandler, qdRouterConnectionGetConfig, if_pos router, true_and]
      split_ifs <;> omega
    · simp only [amqpOpenedHandler, qdRouterConnectionGetConfig, if_neg router]
      split_ifs <;> simp_all

section InterRouter
variable {conn : QdConnectionView} {cf : QdServerConfig} {entries : List (List Char × PnAtom)}
  (inbound : Bool) (configured : conn.config = some cf) (router : cf.role = routerRole)
include configured router

theorem amqpOpenedHandler_advertised (props : conn.remoteProperties = some (.map (mapItems entries)))
    (noValueKey : ∀ entry ∈ entries, entry.2 ≠ .symbol qdConnectionPropertyCostKey) :
    (amqpOpenedHandler conn inbound).cost = max cf.interRouterCost (advertisedCost entries) := by
  simp only [amqpOpenedHandler_cost, configured, if_pos router, props, remoteCostOf,
    scanCost_mapItems entries noValueKey]

theorem amqpOpenedHandler_hidden (key : List Char) (rest : List (List Char × PnAtom))
    (props : conn.remoteProperties =
      some (.map (mapItems (entries ++ (key, .symbol qdConnectionPropertyCostKey) :: rest))))
    (ahead : ∀ entry ∈ entries ++ [(key, .symbol qdConnectionPropertyCostKey)],
      entry.1 ≠ qdConnectionPropertyCostKey)
    (noValueKey : ∀ entry ∈ entries, entry.2 ≠ .symbol qdConnectionPropertyCostKey) :
    (amqpOpenedHandler conn inbound).cost = max cf.interRouterCost 1 := by
  simp only [amqpOpenedHandler_cost, configured, if_pos router, props, remoteCostOf,
    scanCost_hidden entries key rest ahead noValueKey]

end InterRouter

/-- A map whose first entry has the cost key symbol as its value, and whose second binds the cost
key to 5. -/
def hiddenCostEntries : List (List Char × PnAtom) :=
  [("a".toList, .symbol qdConnectionPropertyCostKey), (qdConnectionPropertyCostKey, .int 5)]

/-- An inter-router connection configured with cost 1 whose peer sends `hiddenCostEntries`. -/
def hiddenCostConnection : QdConnectionView where
  config := some ⟨routerRole, 1, none, false, false, false, 250⟩
  connectionId := 0
  remoteProperties := some (.map (mapItems hiddenCostEntries))
  remoteHostname := none
  remoteContainer := none

theorem amqpOpenedHandler_value_hides_cost :
    (hiddenCostEntries.map Prod.fst).Nodup ∧ (amqpOpenedHandler hiddenCostConnection true).cost = 1 ∧
      max 1 (advertisedCost hiddenCostEntries) = 5 := by
  decide

end DispatchRouter.OpenedHandler
