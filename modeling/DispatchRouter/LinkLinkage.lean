import DispatchRouter.RouterNode

/-! The linkage between a link's `qd_link_t` (the container's link over a `pn_link_t`) and its
`qdr_link_t` in the router core, as router_node.c keeps it: each holds the other as its context.
The proton handlers run as the peer's frames arrive, and the core callbacks `CORE_link_*` whenever
the core acts on the link, in any interleaving. Each side's detach clears its own context, and the
`qd_link_t` is freed by whichever side detaches second. The container (container.c is not under
src/) calls a handler only on a `qd_link_t` that is not freed, and may drop the `pn_link_t` of a
live one, which the callbacks test for. -/

namespace DispatchRouter.LinkLinkage
open Connection RouterNode

/-- `qd_direction_t`. -/
inductive QdDirection where
  | incoming
  | outgoing
  deriving DecidableEq, Repr

/-- `qd_detach_type_t`. -/
inductive QdDetachType where
  | closed
  | detached
  | lost
  deriving DecidableEq, Repr

/-- A call the proton handlers make into the router core with the link's `qdr_link_t`. -/
inductive QdrLinkCall where
  | firstAttach (dir : QdDirection)
  | secondAttach
  | flow (credit : Int) (drain : Bool)
  | deliver (call : QdrCall)
  | detach (dt : QdDetachType)

/-- `qdr_link_detach`, after which the core may free its `qdr_link_t`. -/
def QdrLinkCall.isDetach : QdrLinkCall → Bool
  | .detach _ => true
  | _ => false

/-- A call the core callbacks make with the link: on its `pn_link_t` or `qd_link_t`, or
`qdr_link_process_deliveries` with its credit. `transfer` is `CORE_link_deliver`'s `pn_delivery`,
`qd_message_send` and `pn_link_advance`. -/
inductive PnLinkCall where
  | pnLinkOpen
  | qdLinkClose
  | qdLinkDetach
  | pnLinkFlow (credit : Int)
  | pnLinkOffered (deliveryCount : Int)
  | pnLinkDrained
  | pnLinkSetDrain (mode : Bool)
  | transfer
  | processDeliveries (linkCredit : Int)
  deriving DecidableEq, Repr

/-- `qd_link_close` or `qd_link_detach`, after which the `qd_link_t` may be freed. -/
def PnLinkCall.isDetach : PnLinkCall → Bool
  | .qdLinkClose | .qdLinkDetach => true
  | _ => false

/-- The two ends of a link's linkage, as the handlers and callbacks read and change them. -/
structure LinkPair where
  /-- `qd_link_get_context` holds the `qdr_link_t`. -/
  qdContext : Bool
  /-- `qdr_link_get_context` holds the `qd_link_t`. -/
  coreContext : Bool
  /-- The `qd_link_t` is not freed. -/
  allocated : Bool
  /-- `qd_link_pn` is not null. -/
  pnLink : Bool
  /-- `pn_link_is_receiver`. -/
  receiver : Bool
  /-- The calls the proton handlers made into the core, in order. -/
  coreCalls : List QdrLinkCall
  /-- The calls the core callbacks made with the link, in order. -/
  pnCalls : List PnLinkCall

/-! ## Attaching -/

/-- The linkage `AMQP_incoming_link_handler` and `AMQP_outgoing_link_handler` make for a link the
peer attached: `qdr_link_first_attach` in the link's direction, and each link the other's
context. -/
def peerFirstAttach (dir : QdDirection) : LinkPair :=
  ⟨true, true, true, true, dir == .incoming, [.firstAttach dir], []⟩

/-- `AMQP_incoming_link_handler`. -/
def amqpIncomingLinkHandler : LinkPair := peerFirstAttach .incoming

/-- `AMQP_outgoing_link_handler`. -/
def amqpOutgoingLinkHandler : LinkPair := peerFirstAttach .outgoing

/-- `CORE_link_first_attach`: a new `qd_link_t` in the core link's direction, each link the other's
context, and its `pn_link_t` opened. -/
def coreLinkFirstAttach (dir : QdDirection) : LinkPair :=
  ⟨true, true, true, true, dir == .incoming, [], [.pnLinkOpen]⟩

/-- A linkage as it starts: attached first by the peer or by the core. -/
def firstAttach (byPeer : Bool) (dir : QdDirection) : LinkPair :=
  if byPeer then peerFirstAttach dir else coreLinkFirstAttach dir

/-! ## The proton handlers -/

/-- `qd_link_free`; freeing a freed `qd_link_t` faults. -/
def qdLinkFree (s : LinkPair) : Option LinkPair :=
  if s.allocated then some { s with allocated := false } else none

/-- A proton handler on the link, which the container calls only while the `qd_link_t` lives. -/
def protonEvent (s : LinkPair) (handler : LinkPair → Option LinkPair) : Option LinkPair :=
  if s.allocated then handler s else some s

/-- `AMQP_link_attach_handler`: the peer's attach of a link the core opened, passed on with
`qd_link_get_context` unchecked; a null `qdr_link_t` faults. -/
def amqpLinkAttachHandler (s : LinkPair) : Option LinkPair :=
  if s.qdContext then some { s with coreCalls := s.coreCalls ++ [.secondAttach] } else none

/-- `AMQP_link_flow_handler`, with the remote credit and drain flag of the `pn_link_t`. -/
def amqpLinkFlowHandler (s : LinkPair) (credit : Int) (drain : Bool) : LinkPair :=
  if s.qdContext then { s with coreCalls := s.coreCalls ++ [.flow credit drain] } else s

/-- A delivery `AMQP_rx_handler` is called with, and what it reads besides the link's context:
the router, the `qdr_link_t`'s accessors, the link's termini, the connection and its tenant space,
and the delivery the core returns for a hand-off. -/
structure RxDelivery where
  router : QdRouter
  rlink : QdrLinkView
  remoteTarget : Option (List Char)
  source : Option (List Char)
  conn : QdConnection
  tenantSpace : Option (List Char)
  pnd : PnDelivery
  core : QdrCall → Option Nat

/-- The hand-offs to the core among the actions of `AMQP_rx_handler`. -/
def coreHandoffs : List RxAction → List QdrCall
  | [] => []
  | .core call :: actions => call :: coreHandoffs actions
  | _ :: actions => coreHandoffs actions

/-- `AMQP_rx_handler` on the link, whose `qd_link_t` holds the `qdr_link_t` while the context is
set. -/
def amqpRxHandlerOn (s : LinkPair) (rx : RxDelivery) : LinkPair :=
  let link : QdLink := ⟨if s.qdContext then some rx.rlink else none, rx.remoteTarget, rx.source⟩
  let handoffs := coreHandoffs (amqpRxHandler rx.router link rx.conn rx.tenantSpace rx.pnd rx.core)
  { s with coreCalls := s.coreCalls ++ handoffs.map .deliver }

/-- `AMQP_link_detach_handler`: the last call into the core, which ends the proton side's linkage;
the `qd_link_t` is freed here when the link was lost or the core side has already let go. -/
def amqpLinkDetachHandler (s : LinkPair) (dt : QdDetachType) : Option LinkPair :=
  if s.qdContext then
    let s := { s with coreCalls := s.coreCalls ++ [.detach dt], qdContext := false }
    if dt = .lost ∨ s.coreContext = false then qdLinkFree { s with coreContext := false } else some s
  else some s

/-! ## The core callbacks -/

/-- A core callback: nothing when `qdr_link_get_context` is null, a fault when the `qd_link_t` it
holds is freed (the callback reads its `pn_link_t`), else the callback. -/
def coreCallback (s : LinkPair) (callback : LinkPair → Option LinkPair) : Option LinkPair :=
  if s.coreContext then (if s.allocated then callback s else none) else some s

/-- `CORE_link_second_attach`: opens the `pn_link_t`, which it does not test for null. -/
def coreLinkSecondAttach (s : LinkPair) : Option LinkPair :=
  coreCallback s fun s => if s.pnLink then some { s with pnCalls := s.pnCalls ++ [.pnLinkOpen] } else none

/-- `CORE_link_detach`: closes or detaches the link, clears the core's context, and frees the
`qd_link_t` when this is the second detach. -/
def coreLinkDetach (s : LinkPair) (first close : Bool) : Option LinkPair :=
  coreCallback s fun s =>
    if s.pnLink then
      let s := { s with
        pnCalls := s.pnCalls ++ [if close then .qdLinkClose else .qdLinkDetach]
        coreContext := false }
      if first then some s else qdLinkFree s
    else some s

/-- The callbacks that make one call with a `pn_link_t` that is there. -/
def pnLinkCallback (s : LinkPair) (call : PnLinkCall) : Option LinkPair :=
  coreCallback s fun s => some (if s.pnLink then { s with pnCalls := s.pnCalls ++ [call] } else s)

/-- `CORE_link_flow`. -/
def coreLinkFlow (s : LinkPair) (credit : Int) : Option LinkPair :=
  pnLinkCallback s (.pnLinkFlow credit)

/-- `CORE_link_offer`. -/
def coreLinkOffer (s : LinkPair) (deliveryCount : Int) : Option LinkPair :=
  pnLinkCallback s (.pnLinkOffered deliveryCount)

/-- `CORE_link_drained`. -/
def coreLinkDrained (s : LinkPair) : Option LinkPair :=
  pnLinkCallback s .pnLinkDrained

/-- `CORE_link_push`, with the `pn_link_credit` it reads. -/
def coreLinkPush (s : LinkPair) (linkCredit : Int) : Option LinkPair :=
  pnLinkCallback s (.processDeliveries linkCredit)

/-- `CORE_link_deliver` on the link (the delivery's own linkage is `Settlement.coreLinkDeliver`). -/
def coreLinkDeliver (s : LinkPair) : Option LinkPair :=
  pnLinkCallback s .transfer

/-- `CORE_link_drain`: only a receiver's drain mode is set. -/
def coreLinkDrain (s : LinkPair) (mode : Bool) : Option LinkPair :=
  coreCallback s fun s =>
    some (if s.pnLink && s.receiver then { s with pnCalls := s.pnCalls ++ [.pnLinkSetDrain mode] } else s)

/-! ## Runs -/

/-- What can happen to a link: a frame from the peer through a proton handler, the container
dropping the `pn_link_t`, or a core callback. -/
inductive LinkEvent where
  | remoteAttach
  | remoteFlow (credit : Int) (drain : Bool)
  | transfer (rx : RxDelivery)
  | remoteDetach (dt : QdDetachType)
  | pnLinkGone
  | coreSecondAttach
  | coreDetach (first close : Bool)
  | coreFlow (credit : Int)
  | coreOffer (deliveryCount : Int)
  | coreDrained
  | coreDrain (mode : Bool)
  | corePush (linkCredit : Int)
  | coreDeliver

/-- One event; `none` is a fault: a `qd_link_t` freed twice or read after it was freed, or a null
link where the code dereferences it. -/
def linkStep (s : LinkPair) : LinkEvent → Option LinkPair
  | .remoteAttach => protonEvent s amqpLinkAttachHandler
  | .remoteFlow credit drain => protonEvent s fun s => some (amqpLinkFlowHandler s credit drain)
  | .transfer rx => protonEvent s fun s => some (amqpRxHandlerOn s rx)
  | .remoteDetach dt => protonEvent s (amqpLinkDetachHandler · dt)
  | .pnLinkGone => some { s with pnLink := false }
  | .coreSecondAttach => coreLinkSecondAttach s
  | .coreDetach first close => coreLinkDetach s first close
  | .coreFlow credit => coreLinkFlow s credit
  | .coreOffer deliveryCount => coreLinkOffer s deliveryCount
  | .coreDrained => coreLinkDrained s
  | .coreDrain mode => coreLinkDrain s mode
  | .corePush linkCredit => coreLinkPush s linkCredit
  | .coreDeliver => coreLinkDeliver s

/-- The events in turn; `none` once one faults. -/
def linkRun (s : LinkPair) : List LinkEvent → Option LinkPair
  | [] => some s
  | e :: events => (linkStep s e).bind (linkRun · events)

/-- Whether the peer has detached the link, after an event. -/
def detachedAfter (detached : Bool) : LinkEvent → Bool
  | .remoteDetach _ => true
  | _ => detached

/-- Whether the `pn_link_t` has been dropped, after an event. -/
def goneAfter (gone : Bool) : LinkEvent → Bool
  | .pnLinkGone => true
  | _ => gone

/-- The orders the peer and the core keep: the peer attaches a link before it detaches it, and
the core second-attaches a link only while its `pn_link_t` is there. -/
def orderOk (detached gone : Bool) : LinkEvent → Bool
  | .remoteAttach => !detached
  | .coreSecondAttach => !gone
  | _ => true

/-- Every event of the run keeps the orders. -/
def InOrder (detached gone : Bool) : List LinkEvent → Bool
  | [] => true
  | e :: events => orderOk detached gone e && InOrder (detachedAfter detached e) (goneAfter gone e) events

/-- `CORE_link_detach`'s `first` as its comment means it: the core's detach is the first exactly
when the peer has not detached the link. -/
def firstOk (detached : Bool) : LinkEvent → Bool
  | .coreDetach first _ => first == !detached
  | _ => true

/-- Every core detach of the run says rightly whether it is the first. -/
def DetachesInSync (detached : Bool) : List LinkEvent → Bool
  | [] => true
  | e :: events => firstOk detached e && DetachesInSync (detachedAfter detached e) events

/-! ## The linkage invariant -/

theorem dropLast_clean {α : Type} {isDetach : α → Bool} {calls : List α}
    (clean : ∀ c ∈ calls, isDetach c = false) : ∀ c ∈ calls.dropLast, isDetach c = false :=
  fun c mem => clean c (List.dropLast_subset calls mem)

theorem coreHandoffs_unlinked (router : QdRouter) (remoteTarget source : Option (List Char))
    (conn : QdConnection) (tenantSpace : Option (List Char)) (pnd : PnDelivery)
    (core : QdrCall → Option Nat) :
    coreHandoffs (amqpRxHandler router ⟨none, remoteTarget, source⟩ conn tenantSpace pnd core) = [] := by
  unfold amqpRxHandler
  split <;> rfl

theorem amqpRxHandlerOn_unlinked {s : LinkPair} (unlinked : s.qdContext = false) (rx : RxDelivery) :
    amqpRxHandlerOn s rx = s := by
  have noRlink : (if s.qdContext then some rx.rlink else none) = none := by rw [unlinked]; rfl
  simp only [amqpRxHandlerOn, noRlink, coreHandoffs_unlinked, List.map_nil, List.append_nil]

/-- What a linkage keeps along every run in order, given whether the peer has detached the link
and whether its `pn_link_t` is gone: the core never holds a freed `qd_link_t`, and each side's
detach, once made, is its last call. -/
structure Linked (detached gone : Bool) (s : LinkPair) : Prop where
  allocated_of_core : s.coreContext = true → s.allocated = true
  detached_of_unlinked : s.qdContext = false → detached = true
  gone_of_pn : s.pnLink = false → gone = true
  coreCalls_last : ∀ c ∈ s.coreCalls.dropLast, c.isDetach = false
  coreCalls_linked : s.qdContext = true → ∀ c ∈ s.coreCalls, c.isDetach = false
  pnCalls_last : ∀ c ∈ s.pnCalls.dropLast, c.isDetach = false
  pnCalls_linked : s.coreContext = true → ∀ c ∈ s.pnCalls, c.isDetach = false

theorem linked_firstAttach (byPeer : Bool) (dir : QdDirection) :
    Linked false false (firstAttach byPeer dir) := by
  cases byPeer <;> constructor <;>
    simp [firstAttach, peerFirstAttach, coreLinkFirstAttach, QdrLinkCall.isDetach, PnLinkCall.isDetach]

section Step
variable {d g : Bool} {s : LinkPair}

theorem Linked.qdContext_of_attached (inv : Linked false g s) : s.qdContext = true := by
  cases unlinked : s.qdContext
  · exact nomatch inv.detached_of_unlinked unlinked
  · rfl

theorem Linked.pnLink_of_present (inv : Linked d false s) : s.pnLink = true := by
  cases gone : s.pnLink
  · exact nomatch inv.gone_of_pn gone
  · rfl

theorem Linked.handoff (inv : Linked d g s) (linked : s.qdContext = true) {calls : List QdrLinkCall}
    (clean : ∀ c ∈ calls, c.isDetach = false) :
    Linked d g { s with coreCalls := s.coreCalls ++ calls } := by
  have all : ∀ c ∈ s.coreCalls ++ calls, c.isDetach = false := by
    simpa only [List.mem_append, or_imp, forall_and] using ⟨inv.coreCalls_linked linked, clean⟩
  exact { inv with coreCalls_last := dropLast_clean all, coreCalls_linked := fun _ => all }

theorem Linked.pnCall (inv : Linked d g s) (linked : s.coreContext = true) {call : PnLinkCall}
    (clean : call.isDetach = false) : Linked d g { s with pnCalls := s.pnCalls ++ [call] } := by
  have all : ∀ c ∈ s.pnCalls ++ [call], c.isDetach = false := by
    simpa only [List.mem_append, List.mem_singleton, or_imp, forall_and, forall_eq] using
      ⟨inv.pnCalls_linked linked, clean⟩
  exact { inv with pnCalls_last := dropLast_clean all, pnCalls_linked := fun _ => all }

theorem Linked.detachHandoff (inv : Linked d g s) (linked : s.qdContext = true) (dt : QdDetachType) :
    Linked true g { s with coreCalls := s.coreCalls ++ [.detach dt], qdContext := false } :=
  { inv with
    detached_of_unlinked := fun _ => rfl
    coreCalls_last := by rw [List.dropLast_concat]; exact inv.coreCalls_linked linked
    coreCalls_linked := nofun }

theorem Linked.detachCall (inv : Linked d g s) (linked : s.coreContext = true) (call : PnLinkCall) :
    Linked d g { s with pnCalls := s.pnCalls ++ [call], coreContext := false } :=
  { inv with
    allocated_of_core := nofun
    pnCalls_last := by rw [List.dropLast_concat]; exact inv.pnCalls_linked linked
    pnCalls_linked := nofun }

theorem Linked.release (inv : Linked d g s) :
    Linked d g { s with coreContext := false, allocated := false } :=
  { inv with allocated_of_core := nofun, pnCalls_linked := nofun }

theorem Linked.detach (inv : Linked d g s) : Linked true g s :=
  { inv with detached_of_unlinked := fun _ => rfl }

theorem linked_protonEvent {d' : Bool} (stay : Linked d' g s) {handler : LinkPair → Option LinkPair}
    (act : s.allocated = true → ∃ s', handler s = some s' ∧ Linked d' g s') :
    ∃ s', protonEvent s handler = some s' ∧ Linked d' g s' := by
  unfold protonEvent
  split
  next live => exact act live
  next => exact ⟨s, rfl, stay⟩

theorem Linked.callback (inv : Linked d g s) {callback : LinkPair → Option LinkPair}
    (act : s.coreContext = true → ∃ s', callback s = some s' ∧ Linked d g s') :
    ∃ s', coreCallback s callback = some s' ∧ Linked d g s' := by
  unfold coreCallback
  split
  next linked => rw [if_pos (inv.allocated_of_core linked)]; exact act linked
  next => exact ⟨s, rfl, inv⟩

theorem Linked.pnCallback (inv : Linked d g s) (call : PnLinkCall) (clean : call.isDetach = false) :
    ∃ s', pnLinkCallback s call = some s' ∧ Linked d g s' :=
  inv.callback fun linked => ⟨_, rfl, by
    split
    · exact inv.pnCall linked clean
    · exact inv⟩

/-- One event in order keeps the linkage, and does not fault. -/
theorem Linked.step (inv : Linked d g s) {e : LinkEvent} (ok : orderOk d g e = true) :
    ∃ s', linkStep s e = some s' ∧ Linked (detachedAfter d e) (goneAfter g e) s' := by
  unfold linkStep
  cases e with
  | remoteAttach =>
    cases d
    · have linked := inv.qdContext_of_attached
      refine linked_protonEvent inv fun _ => ?_
      exact ⟨_, if_pos linked, inv.handoff linked (List.forall_mem_singleton.2 rfl)⟩
    · cases ok
  | remoteFlow credit drain =>
    refine linked_protonEvent inv fun _ => ?_
    refine ⟨_, rfl, ?_⟩
    unfold amqpLinkFlowHandler
    split
    next linked => exact inv.handoff linked (List.forall_mem_singleton.2 rfl)
    next => exact inv
  | transfer rx =>
    refine linked_protonEvent inv fun _ => ?_
    refine ⟨_, rfl, ?_⟩
    cases linked : s.qdContext
    · rw [amqpRxHandlerOn_unlinked linked]; exact inv
    · exact inv.handoff linked (List.forall_mem_map.2 fun _ _ => rfl)
  | remoteDetach dt =>
    refine linked_protonEvent inv.detach fun live => ?_
    unfold amqpLinkDetachHandler
    split
    next linked =>
      have handed := inv.detachHandoff linked dt
      dsimp only
      split
      next => exact ⟨_, if_pos live, handed.release⟩
      next => exact ⟨_, rfl, handed⟩
    next => exact ⟨s, rfl, inv.detach⟩
  | pnLinkGone => exact ⟨_, rfl, { inv with gone_of_pn := fun _ => rfl }⟩
  | coreSecondAttach =>
    cases g
    · refine inv.callback fun linked => ?_
      exact ⟨_, if_pos inv.pnLink_of_present, inv.pnCall linked rfl⟩
    · cases ok
  | coreDetach first close =>
    refine inv.callback fun linked => ?_
    split
    next =>
      have closed := inv.detachCall linked (if close then .qdLinkClose else .qdLinkDetach)
      cases first
      · exact ⟨_, if_pos (inv.allocated_of_core linked), closed.release⟩
      · exact ⟨_, rfl, closed⟩
    next => exact ⟨s, rfl, inv⟩
  | coreFlow credit => exact inv.pnCallback _ rfl
  | coreOffer deliveryCount => exact inv.pnCallback _ rfl
  | coreDrained => exact inv.pnCallback _ rfl
  | coreDrain mode =>
    refine inv.callback fun linked => ?_
    refine ⟨_, rfl, ?_⟩
    split
    · exact inv.pnCall linked rfl
    · exact inv
  | corePush linkCredit => exact inv.pnCallback _ rfl
  | coreDeliver => exact inv.pnCallback _ rfl

end Step

/-- Every run in order from a linked state runs to its end and stays linked. -/
theorem Linked.run : ∀ (events : List LinkEvent) {d g : Bool} {s : LinkPair}, Linked d g s →
    InOrder d g events = true → ∃ final, linkRun s events = some final ∧ ∃ d' g', Linked d' g' final
  | [], _, _, s, inv, _ => ⟨s, rfl, _, _, inv⟩
  | e :: events, _, _, _, inv, ordered => by
    rw [InOrder, Bool.and_eq_true] at ordered
    obtain ⟨s', step, inv'⟩ := inv.step ordered.1
    obtain ⟨final, run, rest⟩ := inv'.run events ordered.2
    exact ⟨final, by rw [linkRun, step]; exact run, rest⟩

/-- A run that the peer and the core end together: both sides flow, the peer detaches, a flow
frame arrives late, and the core answers with the second detach. -/
def detachRun : List LinkEvent :=
  [.coreFlow 10, .remoteFlow 5 false, .remoteDetach .detached, .remoteFlow 1 false, .coreDetach false true]

/-- Every run in order from a first attach never faults: no `qd_link_t` is freed twice, no core
callback reads a freed one, and no null link is dereferenced; and the core is never left holding
a freed `qd_link_t`. -/
theorem linkRun_safe (byPeer : Bool) (dir : QdDirection) (events : List LinkEvent)
    (ordered : InOrder false false events = true) :
    ∃ final, linkRun (firstAttach byPeer dir) events = some final ∧
      (final.coreContext = true → final.allocated = true) := by
  obtain ⟨final, run, _, _, inv⟩ := (linked_firstAttach byPeer dir).run events ordered
  exact ⟨final, run, inv.allocated_of_core⟩

theorem detachRun_safe : InOrder false false detachRun = true ∧
    ∃ final, linkRun (firstAttach true .incoming) detachRun = some final ∧
      (final.coreContext = true → final.allocated = true) :=
  ⟨rfl, linkRun_safe true .incoming detachRun rfl⟩

/-- Each side's detach is its last call on the link, made at most once: no attach, flow or
delivery reaches the core after `qdr_link_detach`, and no callback acts on the link after
`CORE_link_detach` closed or detached it. -/
theorem linkRun_detach_last (byPeer : Bool) (dir : QdDirection) (events : List LinkEvent)
    (ordered : InOrder false false events = true) :
    ∃ final, linkRun (firstAttach byPeer dir) events = some final ∧
      (∀ c ∈ final.coreCalls.dropLast, c.isDetach = false) ∧
      (∀ c ∈ final.pnCalls.dropLast, c.isDetach = false) := by
  obtain ⟨final, run, _, _, inv⟩ := (linked_firstAttach byPeer dir).run events ordered
  exact ⟨final, run, inv.coreCalls_last, inv.pnCalls_last⟩

theorem detachRun_detach_last : InOrder false false detachRun = true ∧
    ∃ final, linkRun (firstAttach true .incoming) detachRun = some final ∧
      (∀ c ∈ final.coreCalls.dropLast, c.isDetach = false) ∧
      (∀ c ∈ final.pnCalls.dropLast, c.isDetach = false) :=
  ⟨rfl, linkRun_detach_last true .incoming detachRun rfl⟩

/-! ## Freeing the `qd_link_t` -/

/-- Whether an event is one of the two detaches. -/
def LinkEvent.detaches : LinkEvent → Bool
  | .remoteDetach _ | .coreDetach _ _ => true
  | _ => false

/-- The contexts and the allocation, which only the two detaches change. -/
def Framed (s s' : LinkPair) : Prop :=
  s'.qdContext = s.qdContext ∧ s'.coreContext = s.coreContext ∧ s'.allocated = s.allocated

theorem framed_refl (s : LinkPair) : Framed s s := ⟨rfl, rfl, rfl⟩

theorem framed_protonEvent {s s' : LinkPair} {handler : LinkPair → Option LinkPair}
    (keeps : ∀ s', handler s = some s' → Framed s s') (step : protonEvent s handler = some s') :
    Framed s s' := by
  unfold protonEvent at step
  split at step
  · exact keeps s' step
  · cases step; exact framed_refl s

theorem framed_coreCallback {s s' : LinkPair} {callback : LinkPair → Option LinkPair}
    (keeps : ∀ s', callback s = some s' → Framed s s') (step : coreCallback s callback = some s') :
    Framed s s' := by
  unfold coreCallback at step
  split at step
  · split at step
    · exact keeps s' step
    · cases step
  · cases step; exact framed_refl s

theorem framed_pnLinkCallback {s s' : LinkPair} {call : PnLinkCall}
    (step : pnLinkCallback s call = some s') : Framed s s' :=
  framed_coreCallback (fun _ called => by cases called; split <;> exact framed_refl s) step

theorem linkStep_frame {s s' : LinkPair} {e : LinkEvent} (step : linkStep s e = some s')
    (keeps : e.detaches = false) :
    s'.qdContext = s.qdContext ∧ s'.coreContext = s.coreContext ∧ s'.allocated = s.allocated := by
  cases e <;> (try cases keeps) <;> simp only [linkStep] at step
  case remoteAttach =>
    refine framed_protonEvent (fun _ attached => ?_) step
    unfold amqpLinkAttachHandler at attached
    split at attached <;> cases attached
    exact framed_refl s
  case remoteFlow =>
    exact framed_protonEvent (fun _ flowed => by
      cases flowed; unfold amqpLinkFlowHandler; split <;> exact framed_refl s) step
  case transfer => exact framed_protonEvent (fun _ received => by cases received; exact framed_refl s) step
  case pnLinkGone => cases step; exact framed_refl s
  case coreSecondAttach =>
    exact framed_coreCallback (fun _ opened => by split at opened <;> cases opened; exact framed_refl s) step
  case coreDrain =>
    exact framed_coreCallback (fun _ set => by cases set; split <;> exact framed_refl s) step
  all_goals exact framed_pnLinkCallback step

/-- What a linkage keeps when the core's `first` is right: the `qd_link_t` is freed exactly when
both contexts are cleared, and once the peer has detached, the proton side has let go or the link
is freed. -/
structure Synced (detached : Bool) (s : LinkPair) : Prop where
  freed_iff : s.allocated = false ↔ s.qdContext = false ∧ s.coreContext = false
  released_of_detached : detached = true → s.qdContext = false ∨ s.allocated = false

theorem synced_firstAttach (byPeer : Bool) (dir : QdDirection) : Synced false (firstAttach byPeer dir) := by
  cases byPeer <;> exact ⟨⟨nofun, fun both => nomatch both.1⟩, nofun⟩

section Step
variable {d g : Bool} {s : LinkPair}

theorem Synced.remoteDetach (sync : Synced d s) {dt : QdDetachType} {s' : LinkPair}
    (step : protonEvent s (amqpLinkDetachHandler · dt) = some s') : Synced true s' := by
  unfold protonEvent at step
  split at step
  next live =>
    dsimp only [amqpLinkDetachHandler] at step
    split at step
    next =>
      split at step
      next =>
        rw [qdLinkFree, if_pos live] at step
        cases step
        exact ⟨⟨fun _ => ⟨rfl, rfl⟩, fun _ => rfl⟩, fun _ => .inl rfl⟩
      next kept =>
        cases step
        have linked : s.coreContext = true := by simpa using (not_or.mp kept).2
        exact ⟨by simp [live, linked], fun _ => .inl rfl⟩
    next unlinked =>
      cases step
      exact ⟨sync.freed_iff, fun _ => .inl (by simpa using unlinked)⟩
  next freed =>
    cases step
    exact ⟨sync.freed_iff, fun _ => .inr (by simpa using freed)⟩

theorem Synced.coreDetach (inv : Linked d g s) (sync : Synced d s) {first close : Bool}
    (ok : firstOk d (.coreDetach first close) = true) {s' : LinkPair}
    (step : coreLinkDetach s first close = some s') : Synced d s' := by
  dsimp only [coreLinkDetach, coreCallback] at step
  by_cases linked : s.coreContext = true
  · have live := inv.allocated_of_core linked
    by_cases present : s.pnLink = true
    · rw [if_pos linked, if_pos live, if_pos present] at step
      cases first
      · rw [if_neg Bool.false_ne_true, qdLinkFree, if_pos live] at step
        cases step
        have detached : d = true := by simpa [firstOk] using ok
        have unlinked := (sync.released_of_detached detached).resolve_right (by simp [live])
        exact ⟨⟨fun _ => ⟨unlinked, rfl⟩, fun _ => rfl⟩, fun _ => .inr rfl⟩
      · rw [if_pos rfl] at step
        cases step
        have attached : d = false := by simpa [firstOk] using ok
        subst attached
        have kept := inv.qdContext_of_attached
        exact ⟨by simp [live, kept], nofun⟩
    · rw [if_pos linked, if_pos live, if_neg present] at step
      cases step; exact sync
  · rw [if_neg linked] at step
    cases step; exact sync

theorem Synced.step (inv : Linked d g s) (sync : Synced d s) {e : LinkEvent} (ok : firstOk d e = true)
    {s' : LinkPair} (step : linkStep s e = some s') : Synced (detachedAfter d e) s' := by
  cases e
  case remoteDetach dt => exact sync.remoteDetach step
  case coreDetach first close => exact sync.coreDetach inv ok step
  all_goals
    obtain ⟨qd, core, alloc⟩ := linkStep_frame step rfl
    exact ⟨by rw [qd, core, alloc]; exact sync.freed_iff,
      fun detached => by rw [qd, alloc]; exact sync.released_of_detached detached⟩

end Step

theorem Synced.run : ∀ (events : List LinkEvent) {d g : Bool} {s : LinkPair}, Linked d g s →
    Synced d s → InOrder d g events = true → DetachesInSync d events = true →
    ∃ final, linkRun s events = some final ∧ ∃ d', Synced d' final
  | [], d, _, s, _, sync, _, _ => ⟨s, rfl, d, sync⟩
  | e :: events, _, _, _, inv, sync, ordered, synced => by
    rw [InOrder, Bool.and_eq_true] at ordered
    rw [DetachesInSync, Bool.and_eq_true] at synced
    obtain ⟨s', step, inv'⟩ := inv.step ordered.1
    obtain ⟨final, run, rest⟩ := Synced.run events inv' (sync.step inv synced.1 step) ordered.2 synced.2
    exact ⟨final, by rw [linkRun, step]; exact run, rest⟩

/-- With `first` meaning what `CORE_link_detach`'s comment says, the `qd_link_t` is freed exactly
when both sides have let go of it: never while the core holds it or before the peer's detach has
reached the core, and never left behind once both have. -/
theorem linkRun_freed_iff_released (byPeer : Bool) (dir : QdDirection) (events : List LinkEvent)
    (ordered : InOrder false false events = true) (synced : DetachesInSync false events = true) :
    ∃ final, linkRun (firstAttach byPeer dir) events = some final ∧
      (final.allocated = false ↔ final.qdContext = false ∧ final.coreContext = false) := by
  obtain ⟨final, run, _, sync⟩ :=
    Synced.run events (linked_firstAttach byPeer dir) (synced_firstAttach byPeer dir) ordered synced
  exact ⟨final, run, sync.freed_iff⟩

theorem detachRun_freed_iff_released : InOrder false false detachRun = true ∧
    DetachesInSync false detachRun = true ∧
    ∃ final, linkRun (firstAttach true .incoming) detachRun = some final ∧
      (final.allocated = false ↔ final.qdContext = false ∧ final.coreContext = false) :=
  ⟨rfl, rfl, linkRun_freed_iff_released true .incoming detachRun rfl rfl⟩

/-- Detaches that cross: the core takes its detach for the first while the peer's is already
handled, and the `qd_link_t` is left behind with both contexts cleared. -/
example : (linkRun (firstAttach true .incoming) [.remoteDetach .detached, .coreDetach true false]).map
    (fun s => (s.qdContext, s.coreContext, s.allocated)) = some (false, false, true) := rfl

end DispatchRouter.LinkLinkage
