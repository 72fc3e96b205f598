import DispatchRouter.Forwarder

/-! What a forwarding call can do to the core. Every built-in forwarder is a sequence of three
operations: copy the message to a link, post it to an in-process subscriber, accept the
in-delivery. `ForwardClosed` names a property closed under them, and
`qdrForwardMessageCT_closed` carries it through any call; the fanout counts the copies and posts. -/

namespace DispatchRouter.ForwarderSteps
open RouterCore Forwarder

/-- `qdr_forward_new_delivery_CT` followed by `qdr_forward_deliver_CT`, as every forwarder does. -/
def copyToLink (core : QdrCore) (inDelivery : Option Nat) (link msg : Nat) : QdrCore :=
  qdrForwardDeliverCT (qdrForwardNewDeliveryCT core inDelivery link msg).1 link
    (qdrForwardNewDeliveryCT core inDelivery link msg).2

@[simp] theorem copyToLink_links (core : QdrCore) (inDelivery : Option Nat) (link msg : Nat) :
    (copyToLink core inDelivery link msg).links = Function.update core.links link
      { core.links link with undelivered := (core.links link).undelivered ++ [core.deliveries.length] } :=
  rfl

@[simp] theorem copyToLink_workList (core : QdrCore) (inDelivery : Option Nat) (link msg : Nat) :
    (copyToLink core inDelivery link msg).workList = core.workList := rfl

@[simp] theorem copyToLink_nextTag (core : QdrCore) (inDelivery : Option Nat) (link msg : Nat) :
    (copyToLink core inDelivery link msg).nextTag = (core.nextTag + 1) % 2 ^ 64 := rfl

theorem copyToLink_deliveries (core : QdrCore) (inDelivery : Option Nat) (link msg : Nat) :
    (copyToLink core inDelivery link msg).deliveries =
      (match inDelivery, peerSettled core inDelivery with
        | some p, false => core.deliveries.modify (linkBack core.deliveries.length) p
        | _, _ => core.deliveries) ++
      [newDelivery core inDelivery link msg] := rfl

@[simp] theorem linkBack_link (dlv : Nat) (record : QdrDelivery) : (linkBack dlv record).link = record.link := by
  unfold linkBack; split <;> rfl

@[simp] theorem linkBack_tag (dlv : Nat) (record : QdrDelivery) : (linkBack dlv record).tag = record.tag := by
  unfold linkBack; split <;> rfl

@[simp] theorem linkBack_peer (dlv : Nat) (record : QdrDelivery) :
    (linkBack dlv record).peer = some (record.peer.getD dlv) := by
  unfold linkBack; split <;> rename_i unset
  · simp [unset]
  · obtain ⟨p, found⟩ := Option.ne_none_iff_exists'.1 unset
    simp [found]

@[simp] theorem copyToLink_length (core : QdrCore) (inDelivery : Option Nat) (link msg : Nat) :
    (copyToLink core inDelivery link msg).deliveries.length = core.deliveries.length + 1 := by
  rw [copyToLink_deliveries]
  split <;> simp

theorem copyToLink_field {α : Type} {core : QdrCore} (field : QdrDelivery → α)
    (kept : ∀ record, field (linkBack core.deliveries.length record) = field record)
    (inDelivery : Option Nat) (link msg dlv : Nat) :
    ((copyToLink core inDelivery link msg).deliveries[dlv]?).map field =
      if dlv < core.deliveries.length then (core.deliveries[dlv]?).map field
      else if dlv = core.deliveries.length then
        some (field (newDelivery core inDelivery link msg))
      else none := by
  have unchanged : ∀ p, ((core.deliveries.modify (linkBack core.deliveries.length) p)[dlv]?).map field =
      (core.deliveries[dlv]?).map field := by
    intro p
    rw [List.getElem?_modify]
    cases core.deliveries[dlv]? <;> simp only [Option.map_none', Option.map_some', Option.map_eq_map]
    split <;> simp [kept]
  rw [copyToLink_deliveries]
  split_ifs with old new
  · rw [List.getElem?_append_left (by split <;> simp [old])]
    split <;> simp [unchanged]
  · subst new
    rw [List.getElem?_append_right (by split <;> simp)]
    split <;> simp
  · rw [List.getElem?_eq_none (by split <;> simp <;> omega)]
    rfl

theorem linkOf_copyToLink (core : QdrCore) (inDelivery : Option Nat) (link msg dlv : Nat) :
    linkOf (copyToLink core inDelivery link msg) dlv =
      if dlv < core.deliveries.length then linkOf core dlv
      else if dlv = core.deliveries.length then some link else none :=
  copyToLink_field (·.link) (fun _ => linkBack_link _ _) inDelivery link msg dlv

theorem tagOf_copyToLink (core : QdrCore) (inDelivery : Option Nat) (link msg dlv : Nat) :
    tagOf (copyToLink core inDelivery link msg) dlv =
      if dlv < core.deliveries.length then tagOf core dlv
      else if dlv = core.deliveries.length then some core.nextTag else none :=
  copyToLink_field (·.tag) (fun _ => linkBack_tag _ _) inDelivery link msg dlv

@[simp] theorem acceptDelivery_length (core : QdrCore) (dlv : Nat) :
    (acceptDelivery core dlv).deliveries.length = core.deliveries.length := by
  simp [acceptDelivery]

@[simp] theorem acceptDelivery_links (core : QdrCore) (dlv : Nat) :
    (acceptDelivery core dlv).links = core.links := rfl

@[simp] theorem acceptDelivery_workList (core : QdrCore) (dlv : Nat) :
    (acceptDelivery core dlv).workList = core.workList := rfl

@[simp] theorem acceptDelivery_nextTag (core : QdrCore) (dlv : Nat) :
    (acceptDelivery core dlv).nextTag = core.nextTag := rfl

theorem acceptDelivery_field {α : Type} (field : QdrDelivery → α)
    (kept : ∀ record : QdrDelivery,
      field { record with disposition := pnAccepted, settled := true } = field record)
    (core : QdrCore) (dlv other : Nat) :
    ((acceptDelivery core dlv).deliveries[other]?).map field = (core.deliveries[other]?).map field := by
  simp only [acceptDelivery, List.getElem?_modify]
  cases core.deliveries[other]? <;> simp only [Option.map_none', Option.map_some', Option.map_eq_map]
  split <;> simp [kept]

theorem linkOf_acceptDelivery (core : QdrCore) (dlv other : Nat) :
    linkOf (acceptDelivery core dlv) other = linkOf core other :=
  acceptDelivery_field (·.link) (fun _ => rfl) core dlv other

theorem tagOf_acceptDelivery (core : QdrCore) (dlv other : Nat) :
    tagOf (acceptDelivery core dlv) other = tagOf core other :=
  acceptDelivery_field (·.tag) (fun _ => rfl) core dlv other

section Closure
variable (P : QdrCore → Nat → Prop) (inDelivery : Option Nat) (msg : Nat)

/-- `P core fanout` survives each operation of a forwarding call for this in-delivery and
message; copies and posts add one to the fanout. -/
structure ForwardClosed : Prop where
  copy : ∀ core link fanout, P core fanout → P (copyToLink core inDelivery link msg) (fanout + 1)
  post : ∀ core sub link fanout, P core fanout →
    P (qdrForwardOnMessageCT core sub link msg) (fanout + 1)
  accept : ∀ core dlv fanout, inDelivery = some dlv → P core fanout →
    P (qdrDeliveryPushCT (acceptDelivery core dlv) dlv) fanout

/-- `P` read on a forwarder's `(core, addr, fanout)` result. -/
def Holds (state : QdrCore × QdrAddress × Nat) : Prop := P state.1 state.2.2

variable {P inDelivery msg}

theorem multicastLocal_closed (closed : ForwardClosed P inDelivery msg) :
    ∀ (outLinks : List QdrLinkRef) (state : QdrCore × QdrAddress × Nat),
      Holds P state → Holds P (multicastLocal inDelivery msg outLinks state)
  | [], _, start => start
  | _ :: rest, (core, _, fanout), start =>
    multicastLocal_closed closed rest _ (closed.copy core _ fanout start)

theorem multicastRemote_closed (closed : ForwardClosed P inDelivery msg) (control : Bool)
    (linkExclusion : Option Bitmask) :
    ∀ (fuel : Nat) (linkSet : Bitmask) (state : QdrCore × QdrAddress × Nat),
      Holds P state → Holds P (multicastRemote inDelivery msg control linkExclusion fuel linkSet state)
  | 0, _, _, start => start
  | fuel + 1, linkSet, (core, addr, fanout), start => by
    simp only [multicastRemote]
    split
    · exact start
    · split
      · split
        · exact multicastRemote_closed closed control linkExclusion fuel _ _ start
        · exact multicastRemote_closed closed control linkExclusion fuel _ _
            (closed.copy core _ fanout start)
      · exact multicastRemote_closed closed control linkExclusion fuel _ _ start

theorem multicastInprocess_closed (closed : ForwardClosed P inDelivery msg) :
    ∀ (subs : List QdrSubscription) (state : QdrCore × QdrAddress × Nat),
      Holds P state → Holds P (multicastInprocess inDelivery msg subs state)
  | [], _, start => start
  | _ :: rest, (core, _, fanout), start =>
    multicastInprocess_closed closed rest _ (closed.post core _ _ fanout start)

theorem multicastRemotes_closed (closed : ForwardClosed P inDelivery msg) (control bypass : Bool)
    (linkExclusion : Option Bitmask) (rnodes : Bitmask) (state : QdrCore × QdrAddress × Nat)
    (start : Holds P state) :
    Holds P (multicastRemotes inDelivery msg control bypass linkExclusion rnodes state) := by
  unfold multicastRemotes
  split
  exacts [multicastRemote_closed closed control linkExclusion _ _ _ start, start]

theorem qdrForwardMulticastCT_closed (closed : ForwardClosed P inDelivery msg) {core : QdrCore}
    (addr : QdrAddress) (excludeInprocess control : Bool) (linkExclusion : Option Bitmask)
    (start : P core 0) :
    Holds P (qdrForwardMulticastCT core addr msg inDelivery excludeInprocess control linkExclusion) := by
  have locally : Holds P (if !addr.isLocal || excludeInprocess then
      multicastLocal inDelivery msg addr.rlinks (core, addr, 0) else (core, addr, 0)) := by
    split
    exacts [multicastLocal_closed closed _ _ start, start]
  have remote := multicastRemotes_closed closed control
    ((addr.forwarder.map (·.bypassValidOrigins)).getD false) linkExclusion addr.rnodes _ locally
  unfold qdrForwardMulticastCT
  dsimp only
  by_cases excluded : excludeInprocess = true
  · rw [if_pos excluded]
    exact remote
  · rw [if_neg excluded]
    exact multicastInprocess_closed closed _ _ remote

theorem qdrForwardClosestCT_closed (closed : ForwardClosed P inDelivery msg) {core : QdrCore}
    (addr : QdrAddress) (excludeInprocess control : Bool) (linkExclusion : Option Bitmask)
    (start : P core 0) :
    Holds P (qdrForwardClosestCT core addr msg inDelivery excludeInprocess control linkExclusion) := by
  unfold qdrForwardClosestCT
  dsimp only
  split
  next sub _ _ =>
    have posted := closed.post core sub (inLink core inDelivery) 0 start
    split
    · split
      · exact closed.accept _ _ 1 rfl posted
      · exact posted
    · exact posted
  next =>
    split
    · exact closed.copy core _ 0 start
    · split
      · split
        all_goals first | exact start | exact closed.copy core _ 0 start
      · exact start

/-- Any property closed under the operations of a forwarding call holds after the call. -/
theorem qdrForwardMessageCT_closed (closed : ForwardClosed P inDelivery msg) {core core' : QdrCore}
    {addr addr' : QdrAddress} {excludeInprocess control : Bool} {linkExclusion : Option Bitmask}
    {fanout : Nat} (start : P core 0)
    (forwarded : qdrForwardMessageCT core addr msg inDelivery excludeInprocess control linkExclusion =
      some (core', addr', fanout)) :
    P core' fanout := by
  have holds : ∀ state, qdrForwardMessageCT core addr msg inDelivery excludeInprocess control
      linkExclusion = some state → Holds P state := by
    unfold qdrForwardMessageCT
    split
    · rintro _ ⟨⟩
      exact start
    · split
      · rintro _ ⟨⟩
        exact qdrForwardMulticastCT_closed closed _ _ _ _ start
      · rintro _ ⟨⟩
        exact qdrForwardClosestCT_closed closed _ _ _ _ start
      · rintro _ ⟨⟩
        exact start
      · rintro _ ⟨⟩
  exact holds _ forwarded

/-- One `qdr_forward_message_CT` call of a run: any address, message, in-delivery and flags. -/
structure ForwardCall where
  addr : QdrAddress
  msg : Nat
  inDelivery : Option Nat
  excludeInprocess : Bool
  control : Bool
  linkExclusion : Option Bitmask

/-- A sequence of `qdr_forward_message_CT` calls on the core thread; `none` once a call goes
through a null message handler. -/
def qdrForwardRun (core : QdrCore) : List ForwardCall → Option QdrCore
  | [] => some core
  | call :: calls =>
    match qdrForwardMessageCT core call.addr call.msg call.inDelivery call.excludeInprocess call.control
        call.linkExclusion with
    | some (core', _, _) => qdrForwardRun core' calls
    | none => none

/-- A property closed under the operations of every forwarding call holds after any run. -/
theorem qdrForwardRun_closed {I : QdrCore → Prop}
    (closed : ∀ inDelivery msg, ForwardClosed (fun core _ => I core) inDelivery msg) :
    ∀ (calls : List ForwardCall) {core core' : QdrCore}, I core → qdrForwardRun core calls = some core' →
      I core'
  | [], _, _, start, run => by cases run; exact start
  | call :: calls, core, core', start, run => by
    unfold qdrForwardRun at run
    split at run
    · next after _ _ forwarded =>
      exact qdrForwardRun_closed closed calls
        (qdrForwardMessageCT_closed (closed call.inDelivery call.msg) start forwarded) run
    · cases run

end Closure

/-! ## The fanout counts the copies -/

/-- The undelivered lists of `after` are those of `before` with the `(link, delivery)` pairs of
`appended` queued in order, and its general-work list is that of `before` followed by `posted`. -/
def Appended (before after : QdrCore) (appended : List (Nat × Nat)) (posted : List QdrGeneralWork) :
    Prop :=
  (∀ link, (after.links link).undelivered =
      (before.links link).undelivered ++ (appended.filter (·.1 == link)).map (·.2)) ∧
    after.workList = before.workList ++ posted

/-- The subscription a posted work item hands the message to. -/
def handedTo (work : QdrGeneralWork) : QdrSubscription := ⟨work.onMessage, work.onMessageContext⟩

theorem appended_refl (core : QdrCore) : Appended core core [] [] := ⟨fun _ => by simp, by simp⟩

theorem Appended.trans {first second third : QdrCore} {appended appended' : List (Nat × Nat)}
    {posted posted' : List QdrGeneralWork} (before : Appended first second appended posted)
    (after : Appended second third appended' posted') :
    Appended first third (appended ++ appended') (posted ++ posted') :=
  ⟨fun link => by rw [after.1, before.1, List.filter_append, List.map_append, List.append_assoc],
    by rw [after.2, before.2, List.append_assoc]⟩

theorem appended_copyToLink (core : QdrCore) (inDelivery : Option Nat) (link msg : Nat) :
    Appended core (copyToLink core inDelivery link msg) [(link, core.deliveries.length)] [] := by
  refine ⟨fun other => ?_, by simp⟩
  by_cases same : link = other
  · subst same
    simp
  · simp [Function.update_noteq (Ne.symm same), same]

theorem appended_qdrForwardOnMessageCT (core : QdrCore) (sub : QdrSubscription) (link : Option Nat)
    (msg : Nat) :
    ∃ work, handedTo work = sub ∧ work.msg = msg ∧
      Appended core (qdrForwardOnMessageCT core sub link msg) [] [work] :=
  ⟨⟨sub.onMessage, sub.onMessageContext, msg, _⟩, rfl, rfl, fun _ => by simp [qdrForwardOnMessageCT], rfl⟩

/-- `fanout` is the number of deliveries queued plus the number of work items posted since `before`. -/
def Counted (before after : QdrCore) (fanout : Nat) : Prop :=
  ∃ appended posted, Appended before after appended posted ∧ fanout = appended.length + posted.length

theorem counted_closed (before : QdrCore) (inDelivery : Option Nat) (msg : Nat) :
    ForwardClosed (Counted before) inDelivery msg where
  copy core link fanout := by
    rintro ⟨appended, posted, appends, count⟩
    exact ⟨_, _, appends.trans (appended_copyToLink core inDelivery link msg), by simp [count]; omega⟩
  post core sub link fanout := by
    rintro ⟨appended, posted, appends, count⟩
    obtain ⟨work, -, -, posting⟩ := appended_qdrForwardOnMessageCT core sub link msg
    exact ⟨_, _, appends.trans posting, by simp [count]; omega⟩
  accept _ _ _ _ counted := counted

theorem counted_start (core : QdrCore) : Counted core core 0 := ⟨[], [], appended_refl core, rfl⟩

theorem appended_empty_iff {before after : QdrCore} {appended : List (Nat × Nat)}
    {posted : List QdrGeneralWork} (appends : Appended before after appended posted) :
    appended.length + posted.length = 0 ↔
      (∀ link, (after.links link).undelivered = (before.links link).undelivered) ∧
        after.workList = before.workList := by
  obtain ⟨queued, worked⟩ := appends
  constructor
  · intro empty
    obtain rfl : appended = [] := List.length_eq_zero.1 (by omega)
    obtain rfl : posted = [] := List.length_eq_zero.1 (by omega)
    simp [queued, worked]
  · rintro ⟨same, sameWork⟩
    have noPosts : posted.length = 0 := by
      simpa [worked] using congrArg List.length sameWork
    cases appended with
    | nil => simpa using noPosts
    | cons entry rest =>
      have lengths := congrArg List.length ((queued entry.1).symm.trans (same entry.1))
      simp at lengths

theorem qdrForwardMessageCT_isSome (core : QdrCore) (addr : QdrAddress) (msg : Nat)
    (inDelivery : Option Nat) (excludeInprocess control : Bool) (linkExclusion : Option Bitmask)
    (handled : ∀ forwarder, addr.forwarder = some forwarder → forwarder.forwardMessage.isSome) :
    (qdrForwardMessageCT core addr msg inDelivery excludeInprocess control linkExclusion).isSome := by
  unfold qdrForwardMessageCT
  split
  · rfl
  · next forwarder found =>
    have present := handled forwarder found
    split <;> simp_all

/-- For a null forwarder or one with a message handler, `qdr_forward_message_CT` returns the
number of deliveries it queues on links plus the number of in-process work items it posts; so it
returns 0 exactly when it makes no copy. -/
theorem qdrForwardMessageCT_fanout (core : QdrCore) (addr : QdrAddress) (msg : Nat)
    (inDelivery : Option Nat) (excludeInprocess control : Bool) (linkExclusion : Option Bitmask)
    (handled : ∀ forwarder, addr.forwarder = some forwarder → forwarder.forwardMessage.isSome) :
    ∃ core' addr' fanout appended posted,
      qdrForwardMessageCT core addr msg inDelivery excludeInprocess control linkExclusion =
        some (core', addr', fanout) ∧
      Appended core core' appended posted ∧ fanout = appended.length + posted.length ∧
      (fanout = 0 ↔ (∀ link, (core'.links link).undelivered = (core.links link).undelivered) ∧
        core'.workList = core.workList) := by
  obtain ⟨⟨core', addr', fanout⟩, forwarded⟩ := Option.isSome_iff_exists.1
    (qdrForwardMessageCT_isSome core addr msg inDelivery excludeInprocess control linkExclusion handled)
  obtain ⟨appended, posted, appends, count⟩ :=
    qdrForwardMessageCT_closed (counted_closed core inDelivery msg) (counted_start core) forwarded
  exact ⟨core', addr', fanout, appended, posted, forwarded, appends, count,
    count ▸ appended_empty_iff appends⟩

/-- One unsettled delivery on link 0, tagged 0; every link is an endpoint link of connection 0,
held on its address's `rlinks` by the reference node of its own number. -/
def exampleCore : QdrCore where
  deliveries := [⟨0, none, 7, none, 0, false, 0⟩]
  links link := ⟨0, .endpoint, some link, []⟩
  conns _ := ⟨0, []⟩
  nodes _ := ⟨0, none, none, none, Bitmask.empty⟩
  routersByMaskBit _ := none
  controlLinksByMaskBit _ := none
  dataLinksByMaskBit _ := none
  addrHash _ := none
  workList := []
  activated := []
  pushed := []
  nextTag := 1

/-- A multicast-once address with the two local consumer links 1 and 2, through nodes 1 and 2. -/
def exampleAddress : QdrAddress where
  subscriptions := []
  rlinks := [⟨1, 1⟩, ⟨2, 2⟩]
  rnodes := Bitmask.empty
  forwarder := some (qdrForwarderCT .multicastOnce)
  isLocal := false
  deliveriesEgress := 0
  deliveriesTransit := 0
  deliveriesToContainer := 0

theorem exampleAddress_fanout :
    (∀ forwarder, exampleAddress.forwarder = some forwarder → forwarder.forwardMessage.isSome) ∧
    ∃ core' addr' fanout appended posted,
      qdrForwardMessageCT exampleCore exampleAddress 7 (some 0) false false none =
        some (core', addr', fanout) ∧
      Appended exampleCore core' appended posted ∧ fanout = appended.length + posted.length ∧
      (fanout = 0 ↔ (∀ link, (core'.links link).undelivered = (exampleCore.links link).undelivered) ∧
        core'.workList = exampleCore.workList) :=
  have handled : ∀ forwarder, exampleAddress.forwarder = some forwarder →
      forwarder.forwardMessage.isSome := by
    simp [exampleAddress, qdrForwarderCT]
  ⟨handled, qdrForwardMessageCT_fanout exampleCore exampleAddress 7 (some 0) false false none handled⟩

end DispatchRouter.ForwarderSteps
