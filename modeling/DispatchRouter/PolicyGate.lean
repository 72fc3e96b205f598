import DispatchRouter.Policy

/-! The policy gate over whole runs. The socket layer calls `qd_policy_socket_accept` for every
connection and `qd_policy_socket_close` for every accepted one that closes; the container calls
the session and link approvals for every request and counts an approved endpoint as open until it
closes. Over any such run the global count is the number of open accepted connections, the
per-connection counts stay within their limits, and each denial is counted once. -/

namespace DispatchRouter.PolicyGate
open Connection Policy

/-! ## Socket accept and close -/

/-- The socket layer: the global statistics and the number of accepted connections still open. -/
structure SocketState where
  counters : QdPolicyCounters
  openAccepted : Nat

/-- A call from the socket layer. -/
inductive SocketEvent where
  | accept
  | close
  deriving DecidableEq, Repr

/-- One call: an accept reports its result with the number of open accepted connections it found;
a close closes an open accepted connection (there is none to close when none is open). `none` when
an assertion fails. -/
def socketStep (policy : QdPolicy) (s : SocketState) :
    SocketEvent → Option (SocketState × Option (Bool × Nat))
  | .accept =>
    let (result, counters) := qdPolicySocketAccept policy s.counters
    some (⟨counters, s.openAccepted + if result then 1 else 0⟩, some (result, s.openAccepted))
  | .close =>
    if s.openAccepted = 0 then some (s, none)
    else (qdPolicySocketClose s.counters).map fun counters => (⟨counters, s.openAccepted - 1⟩, none)

/-- A run of calls, with the reports of its accepts in order. -/
def socketRun (policy : QdPolicy) : SocketState → List SocketEvent →
    Option (SocketState × List (Bool × Nat))
  | s, [] => some (s, [])
  | s, e :: events => do
    let (s, report) ← socketStep policy s e
    let (s, reports) ← socketRun policy s events
    return (s, report.toList ++ reports)

/-- The global count is the number of open accepted connections, within the limit. -/
def SocketInvariant (policy : QdPolicy) (s : SocketState) : Prop :=
  s.counters.nConnections = s.openAccepted ∧ (s.openAccepted : Int) ≤ policy.maxConnectionLimit

/-- One call keeps the invariant, never fails its assertion, counts an accept as processed and a
refused one as denied, and an accept succeeds exactly below the limit. -/
theorem socketStep_spec (policy : QdPolicy) (s : SocketState) (e : SocketEvent)
    (inv : SocketInvariant policy s) :
    ∃ s' report, socketStep policy s e = some (s', report) ∧ SocketInvariant policy s' ∧
      s'.counters.nProcessed = s.counters.nProcessed + (if e = .accept then 1 else 0) ∧
      s'.counters.nDenied = s.counters.nDenied + (report.toList.filter (!·.1)).length ∧
      ∀ result opened, report = some (result, opened) →
        (result = true ↔ (opened : Int) < policy.maxConnectionLimit) := by
  obtain ⟨counted, bounded⟩ := inv
  cases e with
  | accept =>
    by_cases below : s.counters.nConnections < policy.maxConnectionLimit
    · simp only [socketStep, qdPolicySocketAccept_of_lt below, if_true]
      refine ⟨_, _, rfl, ⟨by simp [counted], by push_cast; omega⟩, by simp, by simp, ?_⟩
      rintro _ _ ⟨⟩
      simp only [true_iff]
      omega
    · simp only [socketStep, qdPolicySocketAccept_of_le (Int.not_lt.1 below)]
      refine ⟨_, _, rfl, ⟨by simp [counted], by simpa using bounded⟩, by simp, by simp, ?_⟩
      rintro _ _ ⟨⟩
      simp only [Bool.false_eq_true, false_iff]
      omega
  | close =>
    by_cases empty : s.openAccepted = 0
    · exact ⟨s, none, by simp [socketStep, empty], ⟨counted, bounded⟩, by simp, by simp, by simp⟩
    · have closing : qdPolicySocketClose s.counters =
          some { s.counters with nConnections := s.counters.nConnections - 1 } := by
        simp only [qdPolicySocketClose]
        rw [if_pos (by omega)]
      refine ⟨⟨{ s.counters with nConnections := s.counters.nConnections - 1 }, s.openAccepted - 1⟩,
        none, by simp [socketStep, empty, closing], ⟨by simp; omega, by dsimp only; omega⟩, by simp,
        by simp, by simp⟩

theorem socketRun_spec (policy : QdPolicy) : ∀ (events : List SocketEvent) (s : SocketState),
    SocketInvariant policy s →
    ∃ s' reports, socketRun policy s events = some (s', reports) ∧ SocketInvariant policy s' ∧
      s'.counters.nProcessed = s.counters.nProcessed + events.count .accept ∧
      s'.counters.nDenied = s.counters.nDenied + (reports.filter (!·.1)).length ∧
      ∀ result opened, (result, opened) ∈ reports →
        (result = true ↔ (opened : Int) < policy.maxConnectionLimit)
  | [], s, inv => ⟨s, [], rfl, inv, by simp, by simp, by simp⟩
  | e :: events, s, inv => by
    obtain ⟨s1, report, stepped, inv1, processed1, denied1, reported1⟩ :=
      socketStep_spec policy s e inv
    obtain ⟨s2, reports, ran, inv2, processed2, denied2, reported2⟩ :=
      socketRun_spec policy events s1 inv1
    refine ⟨s2, report.toList ++ reports, by simp [socketRun, stepped, ran], inv2, ?_, ?_, ?_⟩
    · rw [processed2, processed1, List.count_cons]
      cases e <;> simp
      omega
    · rw [denied2, denied1, List.filter_append, List.length_append]
      push_cast
      omega
    · intro result opened mem
      rcases List.mem_append.1 mem with here | later
      · exact reported1 result opened (by simpa using here)
      · exact reported2 result opened later

/-- From start-up, over any run of accepts and closes of open accepted connections with a limit
`L ≥ 0`: no assertion fails; an accept succeeds exactly when fewer than `L` accepted connections
are open; `n_connections` is the number of open accepted connections, within `[0, L]`; and
`n_processed` counts the accepts and `n_denied` the refused ones. -/
theorem socketRun_counts (policy : QdPolicy) (events : List SocketEvent)
    (nonneg : 0 ≤ policy.maxConnectionLimit) :
    ∃ s reports, socketRun policy ⟨.initial, 0⟩ events = some (s, reports) ∧
      (∀ result opened, (result, opened) ∈ reports →
        (result = true ↔ (opened : Int) < policy.maxConnectionLimit)) ∧
      s.counters.nConnections = s.openAccepted ∧ 0 ≤ s.counters.nConnections ∧
      s.counters.nConnections ≤ policy.maxConnectionLimit ∧
      s.counters.nProcessed = events.count .accept ∧
      s.counters.nDenied = (reports.filter (!·.1)).length := by
  obtain ⟨s, reports, ran, ⟨counted, bounded⟩, processed, denied, reported⟩ :=
    socketRun_spec policy events ⟨.initial, 0⟩ ⟨rfl, by simpa using nonneg⟩
  refine ⟨s, reports, ran, reported, counted, by omega, by omega, ?_, ?_⟩
  · simpa [QdPolicyCounters.initial] using processed
  · simpa [QdPolicyCounters.initial] using denied

/-- Two accepts under a limit of one, a close, and an accept. -/
theorem socketRun_counts_example :
    0 ≤ (⟨1⟩ : QdPolicy).maxConnectionLimit ∧
    ∃ s reports, socketRun ⟨1⟩ ⟨.initial, 0⟩ [.accept, .accept, .close, .accept] = some (s, reports) ∧
      (∀ result opened, (result, opened) ∈ reports →
        (result = true ↔ (opened : Int) < (⟨1⟩ : QdPolicy).maxConnectionLimit)) ∧
      s.counters.nConnections = s.openAccepted ∧ 0 ≤ s.counters.nConnections ∧
      s.counters.nConnections ≤ (⟨1⟩ : QdPolicy).maxConnectionLimit ∧
      s.counters.nProcessed = [SocketEvent.accept, .accept, .close, .accept].count .accept ∧
      s.counters.nDenied = (reports.filter (!·.1)).length :=
  ⟨by decide, socketRun_counts ⟨1⟩ [.accept, .accept, .close, .accept] (by decide)⟩

/-! ## Sessions and links -/

/-- A decision on a request whose count is `count` under `limit`: an approval passed the limit
check and leaves the connection as it was, a denial counts once with `bump`. -/
def Decides (conn : QdConnection) (settings : QdPolicySettings)
    (bump : QdPolicyDenialCounts → QdPolicyDenialCounts) (limit count : Int) (decision : Decision) :
    Prop :=
  (decision.1 = true ∧ decision.2.1 = conn ∧ ¬ (limit ≠ 0 ∧ count = limit)) ∨
    (decision.1 = false ∧ decision.2.1 = bumpDenials conn settings bump)

section Decisions
variable {retrieveMatch : QdParseTree → List Char → Bool} {conn : QdConnection}
  {settings : QdPolicySettings} {decision : Decision}

theorem qdPolicyApproveAmqpSession_decides (policy : conn.policySettings = some settings) :
    Decides conn settings sessionDenial settings.maxSessions conn.nSessions
      (qdPolicyApproveAmqpSession conn) := by
  simp only [qdPolicyApproveAmqpSession, policy]
  split_ifs with full
  · exact .inr ⟨rfl, rfl⟩
  · exact .inl ⟨rfl, rfl, full⟩

theorem Decides.of_link {bump : QdPolicyDenialCounts → QdPolicyDenialCounts} {limit count : Int}
    (passed : ¬ (limit ≠ 0 ∧ count = limit))
    (outcome : decision = (true, conn, none) ∨
      ∃ condition, decision = denyAmqpLink bump conn settings condition) :
    Decides conn settings bump limit count decision := by
  rcases outcome with rfl | ⟨_, rfl⟩
  · exact .inl ⟨rfl, rfl, passed⟩
  · exact .inr ⟨rfl, rfl⟩

theorem qdPolicyApproveAmqpSenderLink_decides (policy : conn.policySettings = some settings)
    {target : Option (List Char)}
    (decided : qdPolicyApproveAmqpSenderLink retrieveMatch conn target = some decision) :
    Decides conn settings senderDenial settings.maxSenders conn.nSenders decision := by
  simp only [qdPolicyApproveAmqpSenderLink, policy, Option.pure_def, Option.bind_eq_bind,
    Option.some_bind] at decided
  by_cases full : settings.maxSenders ≠ 0 ∧ conn.nSenders = settings.maxSenders
  · rw [if_pos full, Option.some.injEq] at decided
    subst decided
    exact .inr ⟨rfl, rfl⟩
  · rw [if_neg full] at decided
    refine .of_link full ?_
    split at decided
    · obtain ⟨_, -, decided⟩ := Option.bind_eq_some.1 decided
      split_ifs at decided <;> cases decided <;> first | exact .inl rfl | exact .inr ⟨_, rfl⟩
    · split_ifs at decided <;> cases decided <;> first | exact .inl rfl | exact .inr ⟨_, rfl⟩

theorem qdPolicyApproveAmqpReceiverLink_decides (policy : conn.policySettings = some settings)
    {dynamicSrc : Bool} {source : Option (List Char)}
    (decided : qdPolicyApproveAmqpReceiverLink retrieveMatch conn dynamicSrc source = some decision) :
    Decides conn settings receiverDenial settings.maxReceivers conn.nReceivers decision := by
  simp only [qdPolicyApproveAmqpReceiverLink, policy, Option.pure_def, Option.bind_eq_bind,
    Option.some_bind] at decided
  by_cases full : settings.maxReceivers ≠ 0 ∧ conn.nReceivers = settings.maxReceivers
  · rw [if_pos full, Option.some.injEq] at decided
    subst decided
    exact .inr ⟨rfl, rfl⟩
  · rw [if_neg full] at decided
    refine .of_link full ?_
    by_cases dynamic : dynamicSrc = true
    · rw [if_pos dynamic] at decided
      split_ifs at decided <;> cases decided <;> first | exact .inl rfl | exact .inr ⟨_, rfl⟩
    · rw [if_neg dynamic] at decided
      split at decided
      · obtain ⟨_, -, decided⟩ := Option.bind_eq_some.1 decided
        split_ifs at decided <;> cases decided <;> first | exact .inl rfl | exact .inr ⟨_, rfl⟩
      · cases decided
        exact .inr ⟨_, rfl⟩

end Decisions

/-- A request or a close from the container on one connection. -/
inductive PolicyEvent where
  | beginSession
  | attachSender (target : Option (List Char))
  | attachReceiver (dynamicSrc : Bool) (source : Option (List Char))
  | endSession
  | detachSender
  | detachReceiver

/-- What a request came to. -/
inductive PolicyOutcome where
  | session (approved : Bool)
  | sender (approved : Bool)
  | receiver (approved : Bool)
  deriving DecidableEq, Repr

section Requests
variable (retrieveMatch : QdParseTree → List Char → Bool)

/-- One request or close: an approved request opens an endpoint, counted in `n_sessions`,
`n_senders` or `n_receivers`, and a close closes an open approved one (none when none is open).
`none` when the policy code fails. -/
def policyStep (conn : QdConnection) : PolicyEvent → Option (QdConnection × Option PolicyOutcome)
  | .beginSession =>
    let decision := qdPolicyApproveAmqpSession conn
    let conn := decision.2.1
    some (if decision.1 then { conn with nSessions := conn.nSessions + 1 } else conn,
      some (.session decision.1))
  | .attachSender target => do
    let decision ← qdPolicyApproveAmqpSenderLink retrieveMatch conn target
    let conn := decision.2.1
    return (if decision.1 then { conn with nSenders := conn.nSenders + 1 } else conn,
      some (.sender decision.1))
  | .attachReceiver dynamicSrc source => do
    let decision ← qdPolicyApproveAmqpReceiverLink retrieveMatch conn dynamicSrc source
    let conn := decision.2.1
    return (if decision.1 then { conn with nReceivers := conn.nReceivers + 1 } else conn,
      some (.receiver decision.1))
  | .endSession =>
    some (if 0 < conn.nSessions then { conn with nSessions := conn.nSessions - 1 } else conn, none)
  | .detachSender =>
    some (if 0 < conn.nSenders then { conn with nSenders := conn.nSenders - 1 } else conn, none)
  | .detachReceiver =>
    some (if 0 < conn.nReceivers then { conn with nReceivers := conn.nReceivers - 1 } else conn,
      none)

/-- A run of requests and closes, with the outcomes of its requests in order. -/
def policyRun (conn : QdConnection) : List PolicyEvent → Option (QdConnection × List PolicyOutcome)
  | [] => some (conn, [])
  | e :: events => do
    let (conn, outcome) ← policyStep retrieveMatch conn e
    let (conn, outcomes) ← policyRun conn events
    return (conn, outcome.toList ++ outcomes)

end Requests

/-- No endpoint count below zero, and none above a positive limit. -/
def WithinLimit (limit count : Int) : Prop := 0 ≤ count ∧ (0 < limit → count ≤ limit)

theorem WithinLimit.approve {limit count : Int} (within : WithinLimit limit count)
    (passed : ¬ (limit ≠ 0 ∧ count = limit)) : WithinLimit limit (count + 1) := by
  obtain ⟨nonneg, bounded⟩ := within
  refine ⟨by omega, fun positive => ?_⟩
  have := bounded positive
  omega

theorem WithinLimit.close {limit count : Int} (within : WithinLimit limit count) :
    WithinLimit limit (if 0 < count then count - 1 else count) := by
  obtain ⟨nonneg, bounded⟩ := within
  split_ifs
  · exact ⟨by omega, fun positive => by have := bounded positive; omega⟩
  · exact ⟨nonneg, bounded⟩

/-- The connection keeps `settings` but for the denial counts `counts`, and its open sessions,
senders and receivers are within their limits. -/
structure GateInvariant (settings : QdPolicySettings) (counts : QdPolicyDenialCounts)
    (conn : QdConnection) : Prop where
  current : conn.policySettings = some { settings with denialCounts := counts }
  sessions : WithinLimit settings.maxSessions conn.nSessions
  senders : WithinLimit settings.maxSenders conn.nSenders
  receivers : WithinLimit settings.maxReceivers conn.nReceivers

/-- The denial counts after a request's outcome. -/
def tally (counts : QdPolicyDenialCounts) : PolicyOutcome → QdPolicyDenialCounts
  | .session false => sessionDenial counts
  | .sender false => senderDenial counts
  | .receiver false => receiverDenial counts
  | _ => counts

theorem foldl_tally (counts : QdPolicyDenialCounts) (outcomes : List PolicyOutcome) :
    outcomes.foldl tally counts =
      ⟨counts.sessionDenied + outcomes.count (.session false),
        counts.senderDenied + outcomes.count (.sender false),
        counts.receiverDenied + outcomes.count (.receiver false)⟩ := by
  induction outcomes generalizing counts with
  | nil => rfl
  | cons outcome outcomes ih =>
    rw [List.foldl_cons, ih]
    cases outcome with
    | session approved | sender approved | receiver approved =>
      cases approved <;> simp [tally, sessionDenial, senderDenial, receiverDenial]
      omega

theorem GateInvariant.deny {settings : QdPolicySettings} {counts : QdPolicyDenialCounts}
    {conn : QdConnection} (inv : GateInvariant settings counts conn)
    (bump : QdPolicyDenialCounts → QdPolicyDenialCounts) :
    GateInvariant settings (bump counts)
      (bumpDenials conn { settings with denialCounts := counts } bump) :=
  ⟨rfl, inv.sessions, inv.senders, inv.receivers⟩

/-- Every request or close keeps the invariant, with the denial counts tallied by its outcome. -/
theorem policyStep_invariant {retrieveMatch : QdParseTree → List Char → Bool}
    {settings : QdPolicySettings} {counts : QdPolicyDenialCounts} {conn conn' : QdConnection}
    {out : Option PolicyOutcome} {e : PolicyEvent} (inv : GateInvariant settings counts conn)
    (stepped : policyStep retrieveMatch conn e = some (conn', out)) :
    GateInvariant settings (out.toList.foldl tally counts) conn' := by
  cases e <;> simp only [policyStep, Option.pure_def, Option.bind_eq_bind, Option.bind_eq_some,
    Option.some.injEq, Prod.mk.injEq] at stepped
  case beginSession =>
    obtain ⟨rfl, rfl⟩ := stepped
    rcases qdPolicyApproveAmqpSession_decides inv.current with ⟨approved, same, passed⟩ |
      ⟨denied, bumped⟩
    · simp only [approved, same, if_true]
      exact ⟨inv.current, inv.sessions.approve passed, inv.senders, inv.receivers⟩
    · simp only [denied, bumped, if_false, Bool.false_eq_true]
      exact inv.deny sessionDenial
  case attachSender target =>
    obtain ⟨decision, decided, rfl, rfl⟩ := stepped
    rcases qdPolicyApproveAmqpSenderLink_decides inv.current decided with ⟨approved, same, passed⟩ |
      ⟨denied, bumped⟩
    · simp only [approved, same, if_true]
      exact ⟨inv.current, inv.sessions, inv.senders.approve passed, inv.receivers⟩
    · simp only [denied, bumped, if_false, Bool.false_eq_true]
      exact inv.deny senderDenial
  case attachReceiver dynamicSrc source =>
    obtain ⟨decision, decided, rfl, rfl⟩ := stepped
    rcases qdPolicyApproveAmqpReceiverLink_decides inv.current decided with
      ⟨approved, same, passed⟩ | ⟨denied, bumped⟩
    · simp only [approved, same, if_true]
      exact ⟨inv.current, inv.sessions, inv.senders, inv.receivers.approve passed⟩
    · simp only [denied, bumped, if_false, Bool.false_eq_true]
      exact inv.deny receiverDenial
  case endSession =>
    obtain ⟨rfl, rfl⟩ := stepped
    have closed := inv.sessions.close
    split_ifs at closed ⊢
    · exact ⟨inv.current, closed, inv.senders, inv.receivers⟩
    · exact inv
  case detachSender =>
    obtain ⟨rfl, rfl⟩ := stepped
    have closed := inv.senders.close
    split_ifs at closed ⊢
    · exact ⟨inv.current, inv.sessions, closed, inv.receivers⟩
    · exact inv
  case detachReceiver =>
    obtain ⟨rfl, rfl⟩ := stepped
    have closed := inv.receivers.close
    split_ifs at closed ⊢
    · exact ⟨inv.current, inv.sessions, inv.senders, closed⟩
    · exact inv

theorem policyRun_invariant {retrieveMatch : QdParseTree → List Char → Bool}
    {settings : QdPolicySettings} :
    ∀ (events : List PolicyEvent) {counts : QdPolicyDenialCounts} {conn conn' : QdConnection}
      {outcomes : List PolicyOutcome}, GateInvariant settings counts conn →
      policyRun retrieveMatch conn events = some (conn', outcomes) →
      GateInvariant settings (outcomes.foldl tally counts) conn'
  | [], _, _, _, _, inv, run => by
    simp only [policyRun, Option.some.injEq, Prod.mk.injEq] at run
    obtain ⟨rfl, rfl⟩ := run
    exact inv
  | e :: events, counts, conn, conn', outcomes, inv, run => by
    simp only [policyRun, Option.pure_def, Option.bind_eq_bind] at run
    obtain ⟨⟨conn1, out⟩, stepped, run⟩ := Option.bind_eq_some.1 run
    obtain ⟨⟨conn2, rest⟩, ran, run⟩ := Option.bind_eq_some.1 run
    simp only [Option.some.injEq, Prod.mk.injEq] at run
    obtain ⟨rfl, rfl⟩ := run
    rw [List.foldl_append]
    exact policyRun_invariant events (policyStep_invariant inv stepped) ran

/-- For a connection with policy settings and no endpoint open, over any run of session and link
requests and closes of open approved endpoints: the open sessions, senders and receivers never
exceed a positive limit, the settings stay as they were, and each denial counter grows by the
number of denied requests of its kind. -/
theorem policyRun_limits (retrieveMatch : QdParseTree → List Char → Bool) (conn conn' : QdConnection)
    (settings : QdPolicySettings) (events : List PolicyEvent) (outcomes : List PolicyOutcome)
    (policy : conn.policySettings = some settings)
    (fresh : conn.nSessions = 0 ∧ conn.nSenders = 0 ∧ conn.nReceivers = 0)
    (run : policyRun retrieveMatch conn events = some (conn', outcomes)) :
    (0 < settings.maxSessions → conn'.nSessions ≤ settings.maxSessions) ∧
    (0 < settings.maxSenders → conn'.nSenders ≤ settings.maxSenders) ∧
    (0 < settings.maxReceivers → conn'.nReceivers ≤ settings.maxReceivers) ∧
    conn'.policySettings = some { settings with denialCounts :=
      ⟨settings.denialCounts.sessionDenied + outcomes.count (.session false),
        settings.denialCounts.senderDenied + outcomes.count (.sender false),
        settings.denialCounts.receiverDenied + outcomes.count (.receiver false)⟩ } := by
  obtain ⟨noSessions, noSenders, noReceivers⟩ := fresh
  have start : GateInvariant settings settings.denialCounts conn :=
    ⟨by rw [policy], ⟨by omega, by omega⟩, ⟨by omega, by omega⟩, ⟨by omega, by omega⟩⟩
  have inv := policyRun_invariant events start run
  rw [foldl_tally] at inv
  exact ⟨inv.sessions.2, inv.senders.2, inv.receivers.2, inv.current⟩

/-- Settings allowing one session and one sender, from a fresh connection. -/
def limitedConnection : QdConnection :=
  ⟨some ⟨1, 1, 0, true, true, true, none, none, none, none, ⟨0, 0, 0⟩⟩, "alice".toList, 0, 0, 0⟩

/-- Two sessions begun, one ended, one begun again, two anonymous senders attached. -/
def limitedEvents : List PolicyEvent :=
  [.beginSession, .beginSession, .endSession, .beginSession, .attachSender none, .attachSender none]

theorem limitedEvents_limits :
    ∃ settings conn' outcomes, limitedConnection.policySettings = some settings ∧
      (limitedConnection.nSessions = 0 ∧ limitedConnection.nSenders = 0 ∧
        limitedConnection.nReceivers = 0) ∧
      policyRun (fun _ _ => false) limitedConnection limitedEvents = some (conn', outcomes) ∧
      (0 < settings.maxSessions → conn'.nSessions ≤ settings.maxSessions) ∧
      (0 < settings.maxSenders → conn'.nSenders ≤ settings.maxSenders) ∧
      (0 < settings.maxReceivers → conn'.nReceivers ≤ settings.maxReceivers) ∧
      conn'.policySettings = some { settings with denialCounts :=
        ⟨settings.denialCounts.sessionDenied + outcomes.count (.session false),
          settings.denialCounts.senderDenied + outcomes.count (.sender false),
          settings.denialCounts.receiverDenied + outcomes.count (.receiver false)⟩ } :=
  ⟨_, _, _, rfl, ⟨rfl, rfl, rfl⟩, rfl,
    policyRun_limits (fun _ _ => false) limitedConnection _ _ limitedEvents _ rfl ⟨rfl, rfl, rfl⟩ rfl⟩

end DispatchRouter.PolicyGate
