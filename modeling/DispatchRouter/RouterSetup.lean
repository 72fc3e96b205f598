import DispatchRouter.LinkLinkage
import DispatchRouter.OpenedHandler
import DispatchRouter.Policy

/-! The router node of router_node.c as the container and the core see it. `qd_router` builds the
router's id `area/id` in a buffer it allocates; `router_node`, the node type it registers, links
each `qd_connection_t` to the `qdr_connection_t` the core opens for it: the opened handlers set the
connection's context, the writable and closed handlers read it, and the link handlers hand it to
`qdr_link_first_attach`. The core's connection API is not under src/: it is stated as the protocol
it expects of its callers. -/

namespace DispatchRouter.RouterSetup
open LinkLinkage OpenedHandler Policy

/-! ## The router id -/

/-- A block of `size` bytes from `malloc`, and the bytes written from its start; the rest is
uninitialised. -/
structure CBuffer where
  size : Nat
  bytes : List Char
  deriving DecidableEq, Repr

/-- Writing `s` and its NUL at `offset`; `none` when that runs past the block or leaves
uninitialised bytes before it. -/
def CBuffer.writeAt (buf : CBuffer) (offset : Nat) (s : List Char) : Option CBuffer :=
  if offset ≤ buf.bytes.length ∧ offset + s.length + 1 ≤ buf.size then
    some { buf with bytes := buf.bytes.take offset ++ s ++ '\x00' :: buf.bytes.drop (offset + s.length + 1) }
  else none

/-- `strcpy`. -/
def strcpy (dst : CBuffer) (src : List Char) : Option CBuffer := dst.writeAt 0 src

/-- `strcat`: the copy starts at the destination's NUL; `none` when no NUL has been written. -/
def strcat (dst : CBuffer) (src : List Char) : Option CBuffer :=
  (dst.bytes.findIdx? (· = '\x00')).bind fun len => dst.writeAt len src

/-- The `node_id` of `qd_router`, for the characters of the C strings `area` and `id`:
`malloc (9 + strlen (area) + strlen (id))`, `strcpy` of the area, `strcat` of `/` and of the id.
`qd_router_id` returns it. -/
def qdRouterNodeId (area id : List Char) : Option CBuffer := do
  let nodeId ← strcpy ⟨9 + area.length + id.length, []⟩ area
  let nodeId ← strcat nodeId "/".toList
  strcat nodeId id

theorem findIdx_nul_append {s : List Char} (noNul : '\x00' ∉ s) (rest : List Char) :
    (s ++ '\x00' :: rest).findIdx? (· = '\x00') = some s.length := by
  induction s with
  | nil => simp
  | cons c s ih =>
    simp only [List.mem_cons, not_or] at noNul
    simp [List.findIdx?_cons, Ne.symm noNul.1, ih noNul.2]

theorem cString_append_nul {s : List Char} (noNul : '\x00' ∉ s) (rest : List Char) :
    cString (s ++ '\x00' :: rest) = s := by
  induction s with
  | nil => simp [cString]
  | cons c s ih =>
    simp only [List.mem_cons, not_or] at noNul
    simp only [cString] at ih ⊢
    simp [List.takeWhile_cons, Ne.symm noNul.1, ih noNul.2]

/-- `qd_router` never writes past `node_id`, which holds `area/id` with seven bytes to spare, for
every area and router id. -/
theorem qdRouterNodeId_fits (area id : List Char) (areaString : '\x00' ∉ area)
    (idString : '\x00' ∉ id) :
    qdRouterNodeId area id = some ⟨(area ++ '/' :: id).length + 1 + 7, area ++ '/' :: id ++ ['\x00']⟩ ∧
      cString (area ++ '/' :: id ++ ['\x00']) = area ++ '/' :: id := by
  have slash : '\x00' ∉ area ++ ['/'] := by simp [areaString]
  have copied : strcpy ⟨9 + area.length + id.length, []⟩ area =
      some ⟨9 + area.length + id.length, area ++ ['\x00']⟩ := by
    simp [strcpy, CBuffer.writeAt]; omega
  have joined : strcat ⟨9 + area.length + id.length, area ++ ['\x00']⟩ "/".toList =
      some ⟨9 + area.length + id.length, area ++ ['/', '\x00']⟩ := by
    simp [strcat, findIdx_nul_append areaString, CBuffer.writeAt]; omega
  have named : strcat ⟨9 + area.length + id.length, area ++ ['/', '\x00']⟩ id =
      some ⟨9 + area.length + id.length, area ++ '/' :: id ++ ['\x00']⟩ := by
    have nul := findIdx_nul_append slash []
    simp only [List.append_assoc, List.singleton_append] at nul
    have front : (area ++ ['/', '\x00']).take (area.length + 1) = area ++ ['/'] := by
      simp [List.take_append_eq_append_take]
    have back : (area ++ ['/', '\x00']).drop (area.length + 1 + id.length + 1) = [] :=
      List.drop_eq_nil_of_le (by simp)
    simp [strcat, nul, CBuffer.writeAt, front, back]; omega
  refine ⟨?_, ?_⟩
  · simp only [qdRouterNodeId, copied, joined, named, Option.bind_eq_bind, Option.some_bind]
    congr 2
    simp; omega
  · have whole : '\x00' ∉ area ++ '/' :: id := by simp [areaString, idString]
    simpa using cString_append_nul whole []

theorem routerA_nodeId_fits :
    '\x00' ∉ "0".toList ∧ '\x00' ∉ "Router.A".toList ∧
      qdRouterNodeId "0".toList "Router.A".toList = some ⟨("0".toList ++ '/' :: "Router.A".toList).length + 1 + 7,
        "0".toList ++ '/' :: "Router.A".toList ++ ['\x00']⟩ ∧
      cString ("0".toList ++ '/' :: "Router.A".toList ++ ['\x00']) = "0".toList ++ '/' :: "Router.A".toList :=
  ⟨by decide, by decide, qdRouterNodeId_fits "0".toList "Router.A".toList (by decide) (by decide)⟩

/-! ## Connection contexts -/

/-- A call the connection handlers of `router_node` make into the core: `qdr_connection_opened`
with the `qdr_connection_t` it returns, `qdr_connection_process`, `qdr_connection_closed`, and
`qdr_link_first_attach` with the connection it is given (NULL when the context is unset). -/
inductive CoreConnCall where
  | connectionOpened (qdrc : Nat) (opened : QdrConnectionOpened)
  | connectionProcess (qdrc : Nat)
  | connectionClosed (qdrc : Nat)
  | linkFirstAttach (qdrc : Option Nat) (dir : QdDirection)

/-- One `qd_connection_t` as the router node sees it: its context (the `qdr_connection_t`, or
NULL), the number of connections the core has opened so far, which names the next one, and the
calls made. -/
structure ConnContext where
  context : Option Nat
  opened : Nat
  calls : List CoreConnCall

/-- The end of `AMQP_opened_handler`: `qdr_connection_opened` and `qd_connection_set_context`. -/
def amqpOpenedHandlerContext (s : ConnContext) (conn : QdConnectionView) (inbound : Bool) :
    ConnContext :=
  ⟨some s.opened, s.opened + 1, s.calls ++ [.connectionOpened s.opened (amqpOpenedHandler conn inbound)]⟩

/-- `AMQP_writable_conn_handler`. -/
def amqpWritableConnHandler (s : ConnContext) : ConnContext :=
  match s.context with
  | some qconn => { s with calls := s.calls ++ [.connectionProcess qconn] }
  | none => s

/-- `AMQP_closed_handler`. -/
def amqpClosedHandler (s : ConnContext) : ConnContext :=
  match s.context with
  | some qdrc => { s with context := none, calls := s.calls ++ [.connectionClosed qdrc] }
  | none => s

/-- The `qdr_link_first_attach` of `AMQP_incoming_link_handler` and
`AMQP_outgoing_link_handler`, with the context read unchecked. -/
def amqpLinkHandlerContext (s : ConnContext) (dir : QdDirection) : ConnContext :=
  { s with calls := s.calls ++ [.linkFirstAttach s.context dir] }

/-- An event the container delivers to `router_node` for one connection. -/
inductive ConnEvent where
  | inboundOpened (conn : QdConnectionView)
  | outboundOpened (conn : QdConnectionView)
  | writable
  | closed
  | incomingLink
  | outgoingLink

/-- The handler `router_node` names for each event. -/
def connStep (s : ConnContext) : ConnEvent → ConnContext
  | .inboundOpened conn => amqpOpenedHandlerContext s conn true
  | .outboundOpened conn => amqpOpenedHandlerContext s conn false
  | .writable => amqpWritableConnHandler s
  | .closed => amqpClosedHandler s
  | .incomingLink => amqpLinkHandlerContext s .incoming
  | .outgoingLink => amqpLinkHandlerContext s .outgoing

def connRun (s : ConnContext) (events : List ConnEvent) : ConnContext := events.foldl connStep s

/-- The container's order: a link is attached only between an opened and a closed event. -/
def LinksWhileOpen : Bool → List ConnEvent → Bool
  | _, [] => true
  | _, .inboundOpened _ :: events | _, .outboundOpened _ :: events => LinksWhileOpen true events
  | _, .closed :: events => LinksWhileOpen false events
  | isOpen, .writable :: events => LinksWhileOpen isOpen events
  | isOpen, .incomingLink :: events | isOpen, .outgoingLink :: events =>
    isOpen && LinksWhileOpen isOpen events

/-! ## The core's connection protocol -/

/-- Where a `qdr_connection_t` is in its life, as the core sees it. -/
inductive QdrConnStatus where
  | unopened
  | opened
  | closed
  deriving DecidableEq, Repr

/-- The calls the core accepts: a connection is opened once, and only an open connection is
processed, attached to or closed; a link attached to NULL is refused. -/
def coreAccepts (status : Nat → QdrConnStatus) : CoreConnCall → Option (Nat → QdrConnStatus)
  | .connectionOpened qdrc _ =>
    if status qdrc = .unopened then some (Function.update status qdrc .opened) else none
  | .connectionProcess qdrc | .linkFirstAttach (some qdrc) _ =>
    if status qdrc = .opened then some status else none
  | .connectionClosed qdrc =>
    if status qdrc = .opened then some (Function.update status qdrc .closed) else none
  | .linkFirstAttach none _ => none

/-- The calls in turn, from every connection unopened; `none` at the first one refused. -/
def coreProtocol (calls : List CoreConnCall) : Option (Nat → QdrConnStatus) :=
  calls.foldlM coreAccepts fun _ => .unopened

theorem coreProtocol_append_singleton (calls : List CoreConnCall) (call : CoreConnCall) :
    coreProtocol (calls ++ [call]) = (coreProtocol calls).bind (coreAccepts · call) := by
  simp [coreProtocol, List.foldlM_append]

/-- What every admissible run keeps: the core has accepted the calls so far, the connections not
yet opened are unopened, and the context is set, to an open connection, exactly while the
container has the connection open. -/
structure Conforms (isOpen : Bool) (s : ConnContext) (status : Nat → QdrConnStatus) : Prop where
  accepted : coreProtocol s.calls = some status
  fresh : ∀ qdrc, s.opened ≤ qdrc → status qdrc = .unopened
  context : ∀ qdrc, s.context = some qdrc → status qdrc = .opened
  contextSet : s.context.isSome = isOpen

section Conformance
variable {isOpen : Bool} {s : ConnContext} {status : Nat → QdrConnStatus}

theorem conforms_opened (inv : Conforms isOpen s status) (conn : QdConnectionView) (inbound : Bool) :
    Conforms true (amqpOpenedHandlerContext s conn inbound) (Function.update status s.opened .opened) where
  accepted := by
    simp [amqpOpenedHandlerContext, coreProtocol_append_singleton, inv.accepted, coreAccepts,
      inv.fresh s.opened le_rfl]
  fresh qdrc later := by
    rw [Function.update_noteq (by simp [amqpOpenedHandlerContext] at later; omega)]
    exact inv.fresh qdrc (by simp [amqpOpenedHandlerContext] at later; omega)
  context qdrc set := by
    simp only [amqpOpenedHandlerContext, Option.some.injEq] at set
    rw [← set, Function.update_same]
  contextSet := rfl

theorem conforms_writable (inv : Conforms isOpen s status) :
    Conforms isOpen (amqpWritableConnHandler s) status := by
  unfold amqpWritableConnHandler
  split
  next qdrc set =>
    refine ⟨?_, inv.fresh, inv.context, inv.contextSet⟩
    simp [coreProtocol_append_singleton, inv.accepted, coreAccepts, inv.context qdrc set]
  next => exact inv

theorem conforms_closed (inv : Conforms isOpen s status) :
    ∃ status', Conforms false (amqpClosedHandler s) status' := by
  unfold amqpClosedHandler
  split
  next qdrc set =>
    have opened := inv.context qdrc set
    refine ⟨Function.update status qdrc .closed, ?_, fun q later => ?_, nofun, rfl⟩
    · simp [coreProtocol_append_singleton, inv.accepted, coreAccepts, opened]
    · have apart : q ≠ qdrc := fun same => by
        have := inv.fresh q later
        rw [same, opened] at this
        cases this
      rw [Function.update_noteq apart]
      exact inv.fresh q later
  next unset =>
    exact ⟨status, inv.accepted, inv.fresh, inv.context, by rw [unset]; rfl⟩

theorem conforms_link (inv : Conforms true s status) (dir : QdDirection) :
    Conforms true (amqpLinkHandlerContext s dir) status := by
  obtain ⟨qdrc, set⟩ := Option.isSome_iff_exists.mp inv.contextSet
  refine ⟨?_, inv.fresh, inv.context, inv.contextSet⟩
  simp [amqpLinkHandlerContext, coreProtocol_append_singleton, inv.accepted, coreAccepts, set,
    inv.context qdrc set]

theorem conforms_run : ∀ (events : List ConnEvent) {isOpen : Bool} {s : ConnContext}
    {status : Nat → QdrConnStatus}, LinksWhileOpen isOpen events = true → Conforms isOpen s status →
    ∃ isOpen' status', Conforms isOpen' (connRun s events) status'
  | [], _, _, _, _, inv => ⟨_, _, inv⟩
  | e :: events, isOpen, s, status, ordered, inv => by
    cases e with
    | inboundOpened conn => exact conforms_run events ordered (conforms_opened inv conn true)
    | outboundOpened conn => exact conforms_run events ordered (conforms_opened inv conn false)
    | writable => exact conforms_run events ordered (conforms_writable inv)
    | closed =>
      obtain ⟨status', inv'⟩ := conforms_closed inv
      exact conforms_run events ordered inv'
    | incomingLink | outgoingLink =>
      simp only [LinksWhileOpen, Bool.and_eq_true] at ordered
      obtain ⟨rfl, ordered⟩ := ordered
      exact conforms_run events ordered (conforms_link inv _)

end Conformance

/-- For every order of container events in which links are attached only while the connection is
open, the calls `router_node` makes keep the core's connection protocol: each `qdr_connection_t`
is opened once, processed, attached to and closed only while open, and closed at most once. -/
theorem connRun_conforms (events : List ConnEvent) (ordered : LinksWhileOpen false events = true) :
    (coreProtocol (connRun ⟨none, 0, []⟩ events).calls).isSome := by
  obtain ⟨_, status, inv⟩ :=
    conforms_run events ordered (s := ⟨none, 0, []⟩) ⟨rfl, fun _ _ => rfl, nofun, rfl⟩
  simp [inv.accepted]

/-- A client connection accepted on a listener without a configuration. -/
def clientConnection : QdConnectionView := ⟨none, 1, none, none, none⟩

/-- A client connection's life: opened, a link attached, written, closed, written again. -/
def clientEvents : List ConnEvent :=
  [.inboundOpened clientConnection, .incomingLink, .writable, .closed, .writable]

theorem clientEvents_conform :
    LinksWhileOpen false clientEvents = true ∧
      (coreProtocol (connRun ⟨none, 0, []⟩ clientEvents).calls).isSome :=
  ⟨rfl, connRun_conforms clientEvents rfl⟩

/-- A link attached before the connection is opened reaches the core with a NULL connection. -/
example : (coreProtocol (connRun ⟨none, 0, []⟩ [.incomingLink]).calls).isNone := by decide

end DispatchRouter.RouterSetup
