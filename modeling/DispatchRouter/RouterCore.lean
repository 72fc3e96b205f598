import Mathlib.Data.List.Sort
import Mathlib.Logic.Function.Basic
import Mathlib.Algebra.Group.Nat.Basic

/-! The router-core records of `router_core_private.h` that the forwarders read and write.
A pointer is an index: deliveries live in an arena list, links, connections and router nodes
in tables keyed by their pointer. -/

namespace DispatchRouter.RouterCore

/-- Insertion into an ascending list of bit positions, keeping it duplicate-free. -/
def insertBit (bit : Nat) : List Nat → List Nat
  | [] => [bit]
  | b :: bs => if bit < b then bit :: b :: bs else if bit = b then b :: bs else b :: insertBit bit bs

theorem mem_insertBit {bit x : Nat} {bits : List Nat} : x ∈ insertBit bit bits ↔ x = bit ∨ x ∈ bits := by
  induction bits with
  | nil => simp [insertBit]
  | cons b bs ih =>
    unfold insertBit
    split_ifs with below same
    · simp
    · subst same; simp
    · simp only [List.mem_cons, ih]
      exact or_left_comm

theorem sorted_insertBit {bit : Nat} {bits : List Nat} (ascending : bits.Sorted (· < ·)) :
    (insertBit bit bits).Sorted (· < ·) := by
  induction bits with
  | nil => simp [insertBit]
  | cons b bs ih =>
    obtain ⟨above, rest⟩ := List.sorted_cons.1 ascending
    unfold insertBit
    split_ifs with below same
    · exact List.sorted_cons.2 ⟨fun x mem => by
        rcases List.mem_cons.1 mem with rfl | later
        exacts [below, below.trans (above x later)], ascending⟩
    · exact ascending
    · refine List.sorted_cons.2 ⟨fun x mem => ?_, ih rest⟩
      rcases mem_insertBit.1 mem with rfl | later
      exacts [by omega, above x later]

/-- A `qd_bitmask_t`, as its set bits in ascending order. -/
structure Bitmask where
  bits : List Nat
  ascending : bits.Sorted (· < ·)

namespace Bitmask

/-- `qd_bitmask(0)`. -/
def empty : Bitmask := ⟨[], List.sorted_nil⟩

/-- `qd_bitmask_value`. -/
def value (mask : Bitmask) (bit : Nat) : Bool := decide (bit ∈ mask.bits)

/-- `qd_bitmask_first_set`: the lowest set bit. -/
def firstSet (mask : Bitmask) : Option Nat := mask.bits.head?

/-- `qd_bitmask_cardinality`. -/
def cardinality (mask : Bitmask) : Nat := mask.bits.length

/-- `qd_bitmask_set_bit`. -/
def setBit (mask : Bitmask) (bit : Nat) : Bitmask := ⟨insertBit bit mask.bits, sorted_insertBit mask.ascending⟩

/-- `qd_bitmask_clear_bit`. -/
def clearBit (mask : Bitmask) (bit : Nat) : Bitmask :=
  ⟨mask.bits.filter (· != bit), mask.ascending.filter _⟩

theorem clearBit_firstSet {mask : Bitmask} {bit : Nat} (first : mask.firstSet = some bit) :
    (mask.clearBit bit).bits = mask.bits.tail := by
  obtain ⟨_ | ⟨b, bs⟩, ascending⟩ := mask
  · cases first
  · obtain rfl : b = bit := Option.some.inj first
    have fresh : ∀ x ∈ bs, (x != b) = true := fun x mem =>
      bne_iff_ne.2 (ne_of_gt (List.rel_of_sorted_cons ascending x mem))
    simp [clearBit, List.filter_eq_self.2 fresh]

end Bitmask

/-- `qd_link_type_t`; the forwarders only test for the two inter-router kinds. -/
inductive QdLinkType where
  | endpoint
  | waypoint
  | control
  | router
  deriving DecidableEq, Repr

/-- The `qdr_delivery_t` fields the forwarders use. -/
structure QdrDelivery where
  link : Nat
  peer : Option Nat
  msg : Nat
  origin : Option (List Char)
  disposition : Nat
  settled : Bool
  tag : Nat
  deriving DecidableEq, Repr

/-- The `qdr_link_t` fields the forwarders use. `addressRef` is `ref[QDR_LINK_LIST_CLASS_ADDRESS]`,
the reference node that holds the link on its address's `rlinks`; the slots of the other three list
classes are left out. -/
structure QdrLink where
  conn : Nat
  linkType : QdLinkType
  addressRef : Option Nat
  undelivered : List Nat

/-- A `qdr_link_ref_t` node of a link-reference list: the node itself, and the link it refers to. -/
structure QdrLinkRef where
  node : Nat
  link : Nat
  deriving DecidableEq, Repr

/-- The `qdr_connection_t` fields the forwarders use. -/
structure QdrConnection where
  maskBit : Nat
  linksWithDeliveries : List Nat

/-- `qdr_node_t`: a router of the mesh. `nextHop` is absent for a neighbor. -/
structure QdrNode where
  maskBit : Nat
  nextHop : Option Nat
  peerControlLink : Option Nat
  peerDataLink : Option Nat
  validOrigins : Bitmask

/-- `qdr_subscription_t`: an in-process consumer, named by its callback and context. -/
structure QdrSubscription where
  onMessage : Nat
  onMessageContext : Nat
  deriving DecidableEq, Repr

/-- The built-in `forward_message` handlers of forwarder.c. -/
inductive QdrForwardMessage where
  | multicast
  | closest
  | balanced
  deriving DecidableEq, Repr

/-- `qdr_forwarder_t`; a link forwarder has no `forward_message` handler. -/
structure QdrForwarder where
  forwardMessage : Option QdrForwardMessage
  bypassValidOrigins : Bool
  deriving DecidableEq, Repr

/-- The `qdr_address_t` fields the forwarders use; `isLocal` is the C field `local`. -/
structure QdrAddress where
  subscriptions : List QdrSubscription
  rlinks : List QdrLinkRef
  rnodes : Bitmask
  forwarder : Option QdrForwarder
  isLocal : Bool
  deliveriesEgress : Nat
  deliveriesTransit : Nat
  deliveriesToContainer : Nat

/-- A `qdr_general_work_t` posted by `qdr_forward_on_message_CT`. -/
structure QdrGeneralWork where
  onMessage : Nat
  onMessageContext : Nat
  msg : Nat
  maskbit : Nat
  deriving DecidableEq, Repr

/-- The `qdr_core_t` state the forwarders read and write. `addrHash` is the address table
under the node-hash view of a key; `activated` and `pushed` log the connections activated and the
deliveries pushed, in order. -/
structure QdrCore where
  deliveries : List QdrDelivery
  links : Nat → QdrLink
  conns : Nat → QdrConnection
  nodes : Nat → QdrNode
  routersByMaskBit : Nat → Option Nat
  controlLinksByMaskBit : Nat → Option Nat
  dataLinksByMaskBit : Nat → Option Nat
  addrHash : List Char → Option QdrAddress
  workList : List QdrGeneralWork
  activated : List Nat
  pushed : List Nat
  nextTag : Nat

/-- Modelled from the spec: `qdr_add_link_ref` (router_core.c is not under src/) puts the link on
the reference list unless it is already there. The forwarders call it for the delivery class, whose
`ref[]` slot the model leaves out. -/
def qdrAddLinkRef (refList : List Nat) (link : Nat) : List Nat :=
  if link ∈ refList then refList else refList ++ [link]

/-- Modelled from the spec: `qdr_connection_activate_CT` signals the connection's I/O thread. -/
def qdrConnectionActivateCT (core : QdrCore) (conn : Nat) : QdrCore :=
  { core with activated := core.activated ++ [conn] }

/-- Modelled from the spec: `qdr_post_general_work_CT` appends to the FIFO general-work list. -/
def qdrPostGeneralWorkCT (core : QdrCore) (work : QdrGeneralWork) : QdrCore :=
  { core with workList := core.workList ++ [work] }

/-- Modelled from the spec: `qdr_delivery_push_CT` schedules the delivery's new disposition. -/
def qdrDeliveryPushCT (core : QdrCore) (dlv : Nat) : QdrCore :=
  { core with pushed := core.pushed ++ [dlv] }

/-- The peer pointer of delivery `dlv`, absent for a null peer or an unallocated delivery. -/
def peerOf (core : QdrCore) (dlv : Nat) : Option Nat := (core.deliveries[dlv]?).bind (·.peer)

/-- The link pointer of delivery `dlv`. -/
def linkOf (core : QdrCore) (dlv : Nat) : Option Nat := (core.deliveries[dlv]?).map (·.link)

/-- The tag of delivery `dlv`. -/
def tagOf (core : QdrCore) (dlv : Nat) : Option Nat := (core.deliveries[dlv]?).map (·.tag)

/-- Every node of the reference list `refs` is the one its link's `ref[QDR_LINK_LIST_CLASS_ADDRESS]`
points at. -/
def AddressRefs (core : QdrCore) (refs : List QdrLinkRef) : Prop :=
  ∀ ref ∈ refs, (core.links ref.link).addressRef = some ref.node

@[simp] theorem qdrConnectionActivateCT_deliveries (core : QdrCore) (conn : Nat) :
    (qdrConnectionActivateCT core conn).deliveries = core.deliveries := rfl

@[simp] theorem qdrConnectionActivateCT_links (core : QdrCore) (conn : Nat) :
    (qdrConnectionActivateCT core conn).links = core.links := rfl

@[simp] theorem qdrConnectionActivateCT_workList (core : QdrCore) (conn : Nat) :
    (qdrConnectionActivateCT core conn).workList = core.workList := rfl

@[simp] theorem qdrConnectionActivateCT_nextTag (core : QdrCore) (conn : Nat) :
    (qdrConnectionActivateCT core conn).nextTag = core.nextTag := rfl

@[simp] theorem qdrPostGeneralWorkCT_deliveries (core : QdrCore) (work : QdrGeneralWork) :
    (qdrPostGeneralWorkCT core work).deliveries = core.deliveries := rfl

@[simp] theorem qdrPostGeneralWorkCT_links (core : QdrCore) (work : QdrGeneralWork) :
    (qdrPostGeneralWorkCT core work).links = core.links := rfl

@[simp] theorem qdrPostGeneralWorkCT_workList (core : QdrCore) (work : QdrGeneralWork) :
    (qdrPostGeneralWorkCT core work).workList = core.workList ++ [work] := rfl

@[simp] theorem qdrPostGeneralWorkCT_nextTag (core : QdrCore) (work : QdrGeneralWork) :
    (qdrPostGeneralWorkCT core work).nextTag = core.nextTag := rfl

@[simp] theorem qdrDeliveryPushCT_deliveries (core : QdrCore) (dlv : Nat) :
    (qdrDeliveryPushCT core dlv).deliveries = core.deliveries := rfl

@[simp] theorem qdrDeliveryPushCT_links (core : QdrCore) (dlv : Nat) :
    (qdrDeliveryPushCT core dlv).links = core.links := rfl

@[simp] theorem qdrDeliveryPushCT_workList (core : QdrCore) (dlv : Nat) :
    (qdrDeliveryPushCT core dlv).workList = core.workList := rfl

@[simp] theorem qdrDeliveryPushCT_nextTag (core : QdrCore) (dlv : Nat) :
    (qdrDeliveryPushCT core dlv).nextTag = core.nextTag := rfl

end DispatchRouter.RouterCore
