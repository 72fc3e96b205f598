import DispatchRouter.RouterCore

/-! The built-in forwarders of `forwarder.c`. Each returns the core and the address as it leaves
them, and the fanout. The loops follow the C loops: over `rlinks`, over the bits of `rnodes`,
over the link set until it is empty, over `subscriptions`. -/

namespace DispatchRouter.Forwarder
open RouterCore

/-- Link the peer back to the new delivery `dlv` when it has no peer yet. -/
def linkBack (dlv : Nat) (peer : QdrDelivery) : QdrDelivery :=
  if peer.peer = none then { peer with peer := some dlv } else peer

/-- `!peer || peer->settled`. -/
def peerSettled (core : QdrCore) (peer : Option Nat) : Bool :=
  match peer.bind (core.deliveries[·]?) with
  | some p => p.settled
  | none => true

/-- The zeroed record `qdr_forward_new_delivery_CT` fills in: settled unless its peer is
unsettled, and then pointing at the peer. -/
def newDelivery (core : QdrCore) (peer : Option Nat) (link msg : Nat) : QdrDelivery where
  link := link
  peer := if peerSettled core peer then none else peer
  msg := msg
  origin := none
  disposition := 0
  settled := peerSettled core peer
  tag := core.nextTag

/-- `qdr_forward_new_delivery_CT`: allocate the next delivery, link the peer back to it if the
peer has no peer yet, and step `next_tag` (a `uint64_t`, so it wraps). Returns its pointer. -/
def qdrForwardNewDeliveryCT (core : QdrCore) (peer : Option Nat) (link msg : Nat) : QdrCore × Nat :=
  let dlv := core.deliveries.length
  let deliveries := match peer, peerSettled core peer with
    | some p, false => core.deliveries.modify (linkBack dlv) p
    | _, _ => core.deliveries
  ({ core with
      deliveries := deliveries ++ [newDelivery core peer link msg]
      nextTag := (core.nextTag + 1) % 2 ^ 64 },
    dlv)

/-- `qdr_forward_deliver_CT`: queue the delivery on the link, put the link on its connection's
`links_with_deliveries` list and activate the connection. -/
def qdrForwardDeliverCT (core : QdrCore) (link dlv : Nat) : QdrCore :=
  let l := core.links link
  let c := core.conns l.conn
  qdrConnectionActivateCT
    { core with
      links := Function.update core.links link { l with undelivered := l.undelivered ++ [dlv] }
      conns := Function.update core.conns l.conn
        { c with linksWithDeliveries := qdrAddLinkRef c.linksWithDeliveries link } }
    l.conn

/-- `qdr_forward_on_message_CT`: post the message to an in-process subscriber, tagged with the
mask bit of the connection it arrived on. -/
def qdrForwardOnMessageCT (core : QdrCore) (sub : QdrSubscription) (link : Option Nat) (msg : Nat) :
    QdrCore :=
  qdrPostGeneralWorkCT core
    { onMessage := sub.onMessage, onMessageContext := sub.onMessageContext, msg,
      maskbit := match link with
        | some l => (core.conns (core.links l).conn).maskBit
        | none => 0 }

/-- `in_delivery ? in_delivery->link : 0`. -/
def inLink (core : QdrCore) (inDelivery : Option Nat) : Option Nat :=
  inDelivery.bind (linkOf core)

/-- The `rlinks` loop of `qdr_forward_multicast_CT`: a copy for the link of every node. -/
def multicastLocal (inDelivery : Option Nat) (msg : Nat) :
    List QdrLinkRef → QdrCore × QdrAddress × Nat → QdrCore × QdrAddress × Nat
  | [], state => state
  | linkRef :: rest, (core, addr, fanout) =>
    let outLink := linkRef.link
    let created := qdrForwardNewDeliveryCT core inDelivery outLink msg
    let core := qdrForwardDeliverCT created.1 outLink created.2
    let kind := (core.links outLink).linkType
    let addr := if kind ≠ .control ∧ kind ≠ .router then
      { addr with deliveriesEgress := addr.deliveriesEgress + 1 } else addr
    multicastLocal inDelivery msg rest (core, addr, fanout + 1)

/-- The ingress router's mask bit in `qdr_forward_multicast_CT`; `none` is the C value -1. -/
def multicastOrigin (core : QdrCore) (inDelivery : Option Nat) (bypass : Bool) : Option Nat :=
  match inDelivery.bind (fun d => (core.deliveries[d]?).bind (·.origin)), bypass with
  | some ingress, false =>
    match core.addrHash ingress with
    | some originAddr =>
      if originAddr.rnodes.cardinality = 1 then originAddr.rnodes.firstSet else none
    | none => none
  | _, _ => some 0

/-- The `QD_BITMASK_EACH(addr->rnodes, ...)` loop: the mask bits of the outgoing connections
towards destinations that accept this origin. -/
def multicastLinkSet (core : QdrCore) (control : Bool) (origin : Nat) : List Nat → Bitmask → Bitmask
  | [], linkSet => linkSet
  | destBit :: rest, linkSet =>
    match core.routersByMaskBit destBit with
    | none => multicastLinkSet core control origin rest linkSet
    | some rnode =>
      let node := core.nodes rnode
      let nextNode := core.nodes (node.nextHop.getD rnode)
      let destLink := if control then nextNode.peerControlLink else nextNode.peerDataLink
      let linkSet := match destLink with
        | some dest =>
          if node.validOrigins.value origin then
            linkSet.setBit (core.conns (core.links dest).conn).maskBit
          else linkSet
        | none => linkSet
      multicastLinkSet core control origin rest linkSet

/-- The `qd_bitmask_first_set` / `qd_bitmask_clear_bit` loop: one copy down each link of the
set whose bit is not excluded. `fuel` bounds the iterations by the number of set bits. -/
def multicastRemote (inDelivery : Option Nat) (msg : Nat) (control : Bool)
    (linkExclusion : Option Bitmask) :
    Nat → Bitmask → QdrCore × QdrAddress × Nat → QdrCore × QdrAddress × Nat
  | 0, _, state => state
  | fuel + 1, linkSet, (core, addr, fanout) =>
    match linkSet.firstSet with
    | none => (core, addr, fanout)
    | some linkBit =>
      let linkSet := linkSet.clearBit linkBit
      let destLink := if control then core.controlLinksByMaskBit linkBit
        else core.dataLinksByMaskBit linkBit
      match destLink with
      | some dest =>
        if (linkExclusion.map (·.value linkBit)).getD false then
          multicastRemote inDelivery msg control linkExclusion fuel linkSet (core, addr, fanout)
        else
          let created := qdrForwardNewDeliveryCT core inDelivery dest msg
          let core := qdrForwardDeliverCT created.1 dest created.2
          multicastRemote inDelivery msg control linkExclusion fuel linkSet
            (core, { addr with deliveriesTransit := addr.deliveriesTransit + 1 }, fanout + 1)
      | none => multicastRemote inDelivery msg control linkExclusion fuel linkSet (core, addr, fanout)

/-- The `subscriptions` loop of `qdr_forward_multicast_CT`. -/
def multicastInprocess (inDelivery : Option Nat) (msg : Nat) :
    List QdrSubscription → QdrCore × QdrAddress × Nat → QdrCore × QdrAddress × Nat
  | [], state => state
  | sub :: rest, (core, addr, fanout) =>
    let core := qdrForwardOnMessageCT core sub (inLink core inDelivery) msg
    multicastInprocess inDelivery msg rest
      (core, { addr with deliveriesToContainer := addr.deliveriesToContainer + 1 }, fanout + 1)

/-- The remote part of `qdr_forward_multicast_CT`: find the origin, build the link set from
`rnodes`, then send down each link of it. -/
def multicastRemotes (inDelivery : Option Nat) (msg : Nat) (control bypass : Bool)
    (linkExclusion : Option Bitmask) (rnodes : Bitmask) (state : QdrCore × QdrAddress × Nat) :
    QdrCore × QdrAddress × Nat :=
  match multicastOrigin state.1 inDelivery bypass with
  | some origin =>
    let linkSet := multicastLinkSet state.1 control origin rnodes.bits Bitmask.empty
    multicastRemote inDelivery msg control linkExclusion linkSet.bits.length linkSet state
  | none => state

/-- `qdr_forward_multicast_CT`, the message handler of the two multicast forwarders. It is
reached only through `addr->forwarder`, whose `bypass_valid_origins` it reads. -/
def qdrForwardMulticastCT (core : QdrCore) (addr : QdrAddress) (msg : Nat) (inDelivery : Option Nat)
    (excludeInprocess control : Bool) (linkExclusion : Option Bitmask) : QdrCore × QdrAddress × Nat :=
  let bypass := (addr.forwarder.map (·.bypassValidOrigins)).getD false
  let state := if !addr.isLocal || excludeInprocess then
      multicastLocal inDelivery msg addr.rlinks (core, addr, 0)
    else (core, addr, 0)
  let state := multicastRemotes inDelivery msg control bypass linkExclusion addr.rnodes state
  if excludeInprocess then state else multicastInprocess inDelivery msg addr.subscriptions state

/-- Proton's `PN_ACCEPTED`, the AMQP accepted outcome. -/
def pnAccepted : Nat := 0x24

/-- `in_delivery->disposition = PN_ACCEPTED; in_delivery->settled = true`. -/
def acceptDelivery (core : QdrCore) (dlv : Nat) : QdrCore :=
  { core with
    deliveries := core.deliveries.modify (fun d => { d with disposition := pnAccepted, settled := true }) dlv }

/-- `qdr_forward_closest_CT`: one copy, to the head subscription, else to the link of the head node
of `rlinks` (both then rotated to the tail), else the next hop towards the lowest router of
`rnodes`. -/
def qdrForwardClosestCT (core : QdrCore) (addr : QdrAddress) (msg : Nat) (inDelivery : Option Nat)
    (excludeInprocess control : Bool) (_linkExclusion : Option Bitmask) : QdrCore × QdrAddress × Nat :=
  match excludeInprocess, addr.subscriptions with
  | false, sub :: rest =>
    let core := qdrForwardOnMessageCT core sub (inLink core inDelivery) msg
    let core := match inDelivery with
      | some d =>
        if (core.deliveries[d]?).map (·.settled) = some false then
          qdrDeliveryPushCT (acceptDelivery core d) d
        else core
      | none => core
    let subscriptions := if addr.subscriptions.length > 1 then rest ++ [sub] else addr.subscriptions
    (core, { addr with subscriptions, deliveriesToContainer := addr.deliveriesToContainer + 1 }, 1)
  | _, _ =>
    match addr.rlinks with
    | linkRef :: rest =>
      let outLink := linkRef.link
      let created := qdrForwardNewDeliveryCT core inDelivery outLink msg
      let core := qdrForwardDeliverCT created.1 outLink created.2
      let rlinks := if addr.rlinks.length > 1 then rest ++ [linkRef] else addr.rlinks
      (core, { addr with rlinks, deliveriesEgress := addr.deliveriesEgress + 1 }, 1)
    | [] =>
      match addr.rnodes.firstSet.bind core.routersByMaskBit with
      | some rnode =>
        let node := core.nodes rnode
        let nextNode := core.nodes (node.nextHop.getD rnode)
        match (if control then nextNode.peerControlLink else nextNode.peerDataLink) with
        | some outLink =>
          let created := qdrForwardNewDeliveryCT core inDelivery outLink msg
          let core := qdrForwardDeliverCT created.1 outLink created.2
          (core, { addr with deliveriesTransit := addr.deliveriesTransit + 1 }, 1)
        | none => (core, addr, 0)
      | none => (core, addr, 0)

/-- `qdr_forward_balanced_CT`, a stub in the source. -/
def qdrForwardBalancedCT (core : QdrCore) (addr : QdrAddress) (_msg : Nat) (_inDelivery : Option Nat)
    (_excludeInprocess _control : Bool) (_linkExclusion : Option Bitmask) : QdrCore × QdrAddress × Nat :=
  (core, addr, 0)

/-- `qd_address_semantics_t`, the strategies of `qdr_forwarder_setup_CT`. -/
inductive QdAddressSemantics where
  | multicastFlood
  | multicastOnce
  | anycastClosest
  | anycastBalanced
  | linkBalanced
  deriving DecidableEq, Repr

/-- `qdr_forwarder_CT` over the table built by `qdr_forwarder_setup_CT`. -/
def qdrForwarderCT : QdAddressSemantics → QdrForwarder
  | .multicastFlood => ⟨some .multicast, true⟩
  | .multicastOnce => ⟨some .multicast, false⟩
  | .anycastClosest => ⟨some .closest, false⟩
  | .anycastBalanced => ⟨some .balanced, false⟩
  | .linkBalanced => ⟨none, false⟩

/-- `qdr_forward_message_CT`: dispatch to the address's forwarder. A forwarder without a message
handler is a call through a null pointer, which the model returns as `none`. -/
def qdrForwardMessageCT (core : QdrCore) (addr : QdrAddress) (msg : Nat) (inDelivery : Option Nat)
    (excludeInprocess control : Bool) (linkExclusion : Option Bitmask) :
    Option (QdrCore × QdrAddress × Nat) :=
  match addr.forwarder with
  | none => some (core, addr, 0)
  | some forwarder =>
    match forwarder.forwardMessage with
    | some .multicast =>
      some (qdrForwardMulticastCT core addr msg inDelivery excludeInprocess control linkExclusion)
    | some .closest =>
      some (qdrForwardClosestCT core addr msg inDelivery excludeInprocess control linkExclusion)
    | some .balanced =>
      some (qdrForwardBalancedCT core addr msg inDelivery excludeInprocess control linkExclusion)
    | none => none

end DispatchRouter.Forwarder
