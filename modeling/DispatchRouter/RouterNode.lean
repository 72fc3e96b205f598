import DispatchRouter.RouterCore
import DispatchRouter.Connection
import DispatchRouter.Message

/-! The receive path of router_node.c: `router_annotate_message` rewrites the router's overlay
annotations from the inbound message-annotations map, and `AMQP_rx_handler` validates a complete
delivery, applies the user-id proxy check, resolves its destination and hands it to the router
core, or rejects it. The handler is modelled by the list of actions it performs. -/

namespace DispatchRouter.RouterNode
open RouterCore Connection Message

/-- The router state the receive path reads: this router's `node_id`, and `qd_tracemask_create`
(tracemask.c is not under src/) applied to the items of an inbound trace. -/
structure QdRouter where
  nodeId : List Char
  tracemask : List (List Char) → Bitmask

/-- The inbound annotations `router_annotate_message` picks out of the map. -/
structure FoundAnnotations where
  trace : Option QdParsedField
  ingress : Option QdParsedField
  toValue : Option QdParsedField
  phase : Option QdParsedField

/-- No annotation found yet. -/
def FoundAnnotations.empty : FoundAnnotations := ⟨none, none, none, none⟩

/-- The scan loop of `router_annotate_message`: each of the four keys overwrites its slot, and the
scan stops once all four are found. -/
def scanAnnotations (found : FoundAnnotations) : QdParsedMap → FoundAnnotations
  | [] => found
  | (none, _) :: rest => scanAnnotations found rest
  | (some key, value) :: rest =>
    let found :=
      if key = qdMaTrace then { found with trace := some value }
      else if key = qdMaIngress then { found with ingress := some value }
      else if key = qdMaTo then { found with toValue := some value }
      else if key = qdMaPhase then { found with phase := some value }
      else found
    if found.trace.isSome && found.ingress.isSome && found.toValue.isSome && found.phase.isSome then
      found
    else scanAnnotations found rest

/-- `router_annotate_message`: the ingress it returns (the inbound one if it kept it), the link
exclusions it sets, and the message with its trace, to-override, phase and ingress annotations
written. -/
def routerAnnotateMessage (router : QdRouter) (inMa : Option QdParsedMap) (msg : QdMessage)
    (stripInboundAnnotations : Bool) : Option (List Char) × Option Bitmask × QdMessage :=
  let found := match inMa, stripInboundAnnotations with
    | some map, false => scanAnnotations .empty map
    | _, _ => .empty
  let (linkExclusions, traceItems) : Option Bitmask × List (List Char) :=
    match found.trace with
    | some (.list _ items) => (some (router.tracemask items), items)
    | _ => (none, [])
  let msg := { msg with traceAnnotation := some (traceItems ++ [router.nodeId]) }
  let msg := match found.toValue with
    | some toValue => { msg with toOverrideAnnotation := some toValue.raw }
    | none => msg
  let msg := match found.phase with
    | some phase => { msg with phaseAnnotation := phase.asInt }
    | none => msg
  match found.ingress with
  | some (.scalar raw _) => (some raw, linkExclusions, { msg with ingressAnnotation := some raw })
  | _ => (none, linkExclusions, { msg with ingressAnnotation := some router.nodeId })

/-! ## The inbound delivery handler -/

/-- What router_node.c reads of a `qdr_link_t` through its accessors. -/
structure QdrLinkView where
  routed : Bool
  anonymous : Bool
  stripAnnotationsIn : Bool
  phase : Int

/-- A `qd_link_t`: its router link (`none` once the link is closing) and the addresses of its
remote target and local source. -/
structure QdLink where
  rlink : Option QdrLinkView
  remoteTarget : Option (List Char)
  source : Option (List Char)

/-- A `pn_delivery_t` as received: the complete message (`none` while partial) and whether the
sender settled it. -/
structure PnDelivery where
  message : Option QdMessage
  settled : Bool

/-- A hand-off of an inbound message to the router core, with its arguments. -/
inductive QdrCall where
  | deliverToRoutedLink (msg : QdMessage) (settled : Bool)
  | deliverTo (msg : QdMessage) (ingress : Option (List Char)) (addr : QdIterator) (settled : Bool)
      (linkExclusions : Option Bitmask)
  | deliver (msg : QdMessage) (ingress : Option (List Char)) (settled : Bool)
      (linkExclusions : Option Bitmask)

/-- An action of `AMQP_rx_handler`: `link` sets the contexts of the wire and router deliveries to
each other and takes a reference with `qdr_delivery_incref`. -/
inductive RxAction where
  | advance
  | core (call : QdrCall)
  | flow
  | reject
  | settle
  | free
  | link (dlv : Nat)

/-- After the core returned a delivery: settle a pre-settled wire delivery, else link the two. -/
def linkDelivery (settled : Bool) (dlv : Nat) : List RxAction :=
  if settled then [.settle] else [.link dlv]

/-- Rejecting without the core: one credit back, disposition `REJECTED`, settled, message freed. -/
def rejectDelivery : List RxAction := [.flow, .reject, .settle, .free]

/-- The user-id proxy check: a non-blank `user-id` other than the connection's user. -/
def userIdProxied (msg : QdMessage) (userId : List Char) : Bool :=
  match msg.userId with
  | some id => !id.isEmpty && id != userId
  | none => false

/-- The destination an anonymous link resolves, before its hash view and phase: the
`x-opt-qd.to` annotation of the inbound map with the message's phase annotation, else the
properties' `to`, space-annotated for a tenant connection, which also sets it as the message's
to-override. -/
def anonymousAddress (inMa : Option QdParsedMap) (msg : QdMessage)
    (tenantSpace : Option (List Char)) : Option QdIterator × Int × QdMessage :=
  match inMa.bind (qdParseValueByKey · qdMaTo) with
  | some maTo => (some (QdIterator.string maTo.raw .all), msg.phaseAnnotation, msg)
  | none =>
    match msg.propertiesTo, tenantSpace with
    | some propertiesTo, some space =>
      let addr := ((QdIterator.string propertiesTo .all).resetView .addressWithSpace).annotateSpace space
      (some addr, 0, { msg with toOverrideAnnotation := some addr.octets })
    | some propertiesTo, none => (some (QdIterator.string propertiesTo .all), 0, msg)
    | none, _ => (none, 0, msg)

/-- The phase character `'0' + phase`, stamped on the address when the phase is positive. -/
def stampPhase (addr : QdIterator) (phase : Int) : QdIterator :=
  if 0 < phase then addr.annotatePhase (Char.ofNat ((48 + phase) % 256).toNat) else addr

/-- A targeted link stamps its terminus address (space-prefixed for a tenant connection) as the
message's to-override, and a nonzero link phase as its phase. -/
def targetedAnnotations (link : QdLink) (rlink : QdrLinkView) (tenantSpace : Option (List Char))
    (msg : QdMessage) : QdMessage :=
  match link.remoteTarget <|> link.source with
  | some termAddr =>
    let toOverride := match tenantSpace with
      | some space => ((QdIterator.string termAddr .addressWithSpace).annotateSpace space).octets
      | none => termAddr
    let msg := { msg with toOverrideAnnotation := some toOverride }
    if rlink.phase ≠ 0 then { msg with phaseAnnotation := rlink.phase } else msg
  | none => msg

/-- `check_user`: the connection's policy forbids proxying the user-id. -/
def checkUser (conn : QdConnection) : Bool :=
  match conn.policySettings with
  | some settings => !settings.allowUserIdProxy
  | none => false

/-- `validation_depth`: anonymous links and connections checking the user-id need the
properties, the others only the message annotations. -/
def validationDepth (anonymousLink checkUser : Bool) : QdMessageDepth :=
  if anonymousLink || checkUser then .properties else .messageAnnotations

/-- The hand-off `AMQP_rx_handler` makes for a valid message on a link that is not link-routed,
after annotating it; `none` when an anonymous link resolves no address. -/
def rxCoreCall (router : QdRouter) (link : QdLink) (rlink : QdrLinkView)
    (tenantSpace : Option (List Char)) (msg : QdMessage) (settled : Bool) : Option QdrCall :=
  let inMa := msg.annotations
  let (ingress, linkExclusions, msg) := routerAnnotateMessage router inMa msg rlink.stripAnnotationsIn
  if rlink.anonymous then
    let (addr, phase, msg) := anonymousAddress inMa msg tenantSpace
    addr.map fun addr =>
      .deliverTo msg ingress (stampPhase (addr.resetView .addressHash) phase) settled linkExclusions
  else some (.deliver (targetedAnnotations link rlink tenantSpace msg) ingress settled linkExclusions)

/-- `AMQP_rx_handler` on a delivery of `link` on `conn`, where `tenantSpace` is the connection's
tenant space and `core` the delivery the router core returns for a hand-off. -/
def amqpRxHandler (router : QdRouter) (link : QdLink) (conn : QdConnection)
    (tenantSpace : Option (List Char)) (pnd : PnDelivery) (core : QdrCall → Option Nat) :
    List RxAction :=
  match pnd.message with
  | none => []
  | some msg =>
    .advance :: match link.rlink with
    | none => [.free]
    | some rlink =>
      if rlink.routed then
        let call := QdrCall.deliverToRoutedLink msg pnd.settled
        .core call :: ((core call).map (linkDelivery pnd.settled)).getD []
      else
        if !msg.check (validationDepth rlink.anonymous (checkUser conn)) then rejectDelivery
        else if checkUser conn && userIdProxied msg conn.userId then rejectDelivery
        else
          match rxCoreCall router link rlink tenantSpace msg pnd.settled with
          | some call => .core call :: ((core call).map (linkDelivery pnd.settled)).getD rejectDelivery
          | none => rejectDelivery

end DispatchRouter.RouterNode
