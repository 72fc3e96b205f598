import DispatchRouter.PolicyTrees
import Mathlib.Algebra.Group.Nat.Basic

/-! `qd_policy_amqp_open` (policy.c): the vhost policy's decision on an AMQP Open. A connection
the policy governs is looked up with the policy manager's `policy_lookup_user` and, for the
usergroup it names, `policy_lookup_settings`; it is admitted with that usergroup's settings and
transport limits, or closed with a condition. The manager is Python code outside src/: its
answers are parameters, and the calls made to it are recorded with their arguments. As in
`Policy`, each `Char` of a string stands for one byte, so the usergroup name's length is the
`strlen` that the 256-byte name buffer is checked against. -/

namespace DispatchRouter.PolicyOpen
open Connection Policy PolicyTrees

/-- `SETTINGS_NAME_SIZE`, the size of the usergroup-name buffer. -/
def settingsNameSize : Nat := 256

/-- `CONNECTION_DISALLOWED`. -/
def connectionDisallowed : List Char := "connection disallowed by local policy".toList

/-- A connection's `qd_policy_settings_t` as `qd_policy_open_lookup_user` fills it: the fields the
session and link gates read, and the limits only the open and the session setup read. The denial
counts are held as a value (the C holds a pointer to the vhost's counts). -/
structure QdPolicyOpenSettings extends QdPolicySettings where
  maxFrameSize : Int
  maxSessionWindow : Int
  sourcePattern : Option (List Char)
  targetPattern : Option (List Char)
  deriving DecidableEq, Repr

/-- `ZERO (qd_conn->policy_settings)`. -/
def zeroSettings : QdPolicyOpenSettings :=
  { maxSessions := 0, maxSenders := 0, maxReceivers := 0, allowAnonymousSender := false,
    allowDynamicSource := false, allowUserIdProxy := false, sources := none, targets := none,
    sourceParseTree := none, targetParseTree := none, denialCounts := ⟨0, 0, 0⟩,
    maxFrameSize := 0, maxSessionWindow := 0, sourcePattern := none, targetPattern := none }

/-- The `upolicy` dictionary `policy_lookup_settings` fills, by the keys
`qd_policy_open_lookup_user` reads; `none` is a key it lacks. -/
structure UPolicy where
  maxFrameSize : Option Int
  maxSessionWindow : Option Int
  maxSessions : Option Int
  maxSenders : Option Int
  maxReceivers : Option Int
  allowAnonymousSender : Option Bool
  allowDynamicSource : Option Bool
  allowUserIdProxy : Option Bool
  sources : Option (List Char)
  targets : Option (List Char)
  sourcePattern : Option (List Char)
  targetPattern : Option (List Char)
  denialCounts : QdPolicyDenialCounts
  deriving DecidableEq, Repr

/-- The settings read from `upolicy`: `qd_entity_opt_long` and `qd_entity_opt_bool` with their
defaults 0 and false, `qd_entity_get_string` (null when missing), and the link-name trees
`qd_policy_parse_tree` builds from the two patterns. -/
def readSettings (upolicy : UPolicy) : QdPolicyOpenSettings :=
  { maxFrameSize := upolicy.maxFrameSize.getD 0
    maxSessionWindow := upolicy.maxSessionWindow.getD 0
    maxSessions := upolicy.maxSessions.getD 0
    maxSenders := upolicy.maxSenders.getD 0
    maxReceivers := upolicy.maxReceivers.getD 0
    allowAnonymousSender := upolicy.allowAnonymousSender.getD false
    allowDynamicSource := upolicy.allowDynamicSource.getD false
    allowUserIdProxy := upolicy.allowUserIdProxy.getD false
    sources := upolicy.sources
    targets := upolicy.targets
    sourcePattern := upolicy.sourcePattern
    targetPattern := upolicy.targetPattern
    sourceParseTree := qdPolicyParseTree upolicy.sourcePattern
    targetParseTree := qdPolicyParseTree upolicy.targetPattern
    denialCounts := upolicy.denialCounts }

/-- A call into the policy manager, with its arguments. -/
inductive ManagerCall where
  | lookupUser (username hostip vhost connName : List Char) (connId : Nat)
  | lookupSettings (vhost name : List Char)
  deriving DecidableEq, Repr

/-- The policy manager's answers: the usergroup name `policy_lookup_user` returns, and the
dictionary `policy_lookup_settings` fills; `none` when the Python call fails. -/
structure PolicyManager where
  lookupUser : List Char → List Char → List Char → List Char → Nat → Option (List Char)
  lookupSettings : List Char → List Char → Option UPolicy

/-- `qd_policy_open_lookup_user`: whether named settings were found, the name buffer, the settings
after, and the calls made. A name that does not fit the buffer leaves it empty. -/
def qdPolicyOpenLookupUser (manager : PolicyManager) (username hostip vhost connName : List Char)
    (nameBufSize connId : Nat) (settings : QdPolicyOpenSettings) :
    Bool × List Char × QdPolicyOpenSettings × List ManagerCall :=
  let userCall := ManagerCall.lookupUser username hostip vhost connName connId
  match manager.lookupUser username hostip vhost connName connId with
  | none => (false, [], settings, [userCall])
  | some resString =>
    let nameBuf := if resString.length < nameBufSize then resString else []
    if nameBuf.isEmpty then (false, nameBuf, settings, [userCall])
    else
      let calls := [userCall, .lookupSettings vhost nameBuf]
      match manager.lookupSettings vhost nameBuf with
      | none => (false, nameBuf, settings, calls)
      | some upolicy => (true, nameBuf, readSettings upolicy, calls)

/-- What `qd_policy_amqp_open` does to the connection and its transport. -/
inductive OpenAction where
  | setMaxFrame (size : Int)
  | setChannelMax (channelMax : Int)
  | connectionOpen
  | notifyOpened
  | setCondition (condition : PnCondition)
  | connectionClose
  deriving DecidableEq, Repr

/-- `qd_policy_private_deny_amqp_connection`: the condition set, and the connection closed. -/
def qdPolicyPrivateDenyAmqpConnection (condName : QdAmqpCondition) (condDescr : List Char) :
    List OpenAction :=
  [.setCondition ⟨condName, condDescr⟩, .connectionClose]

/-- What `qd_policy_amqp_open` reads of the `qd_connection_t` and its `pn_connection_t`. -/
structure OpenConnection where
  role : Option (List Char)
  userId : List Char
  remoteIp : List Char
  remoteHostname : Option (List Char)
  name : List Char
  connectionId : Nat
  policySettings : Option QdPolicyOpenSettings
  localUninit : Bool
  deriving DecidableEq, Repr

/-- The connection's settings after `qd_policy_amqp_open`, the calls it made into the policy
manager, and what it did to the connection. -/
structure OpenOutcome where
  policySettings : Option QdPolicyOpenSettings
  managerCalls : List ManagerCall
  actions : List OpenAction
  deriving DecidableEq, Repr

/-- Whether the vhost policy governs the connection: it is enabled, and the connection's role is
not `inter-router`. -/
def governed (enableVhostPolicy : Bool) (role : Option (List Char)) : Bool :=
  enableVhostPolicy && match role with
    | none => true
    | some role => role != "inter-router".toList

/-- The transport limits of an admitted connection's settings: the max frame size when positive,
and `maxSessions - 1` as the channel-max when `maxSessions` is positive. -/
def transportActions (settings : QdPolicyOpenSettings) : List OpenAction :=
  (if 0 < settings.maxFrameSize then [.setMaxFrame settings.maxFrameSize] else []) ++
    (if 0 < settings.maxSessions then [.setChannelMax (settings.maxSessions - 1)] else [])

/-- An admitted connection: opened if it is not yet open locally, and the container notified. -/
def openedActions (localUninit : Bool) : List OpenAction :=
  (if localUninit then [.connectionOpen] else []) ++ [.notifyOpened]

/-- `qd_policy_amqp_open`; the connection id reaches `policy_lookup_user` through a `uint32_t`. -/
def qdPolicyAmqpOpen (enableVhostPolicy : Bool) (manager : PolicyManager) (conn : OpenConnection) :
    OpenOutcome :=
  if governed enableVhostPolicy conn.role then
    let vhost := conn.remoteHostname.getD []
    let settings := conn.policySettings.getD zeroSettings
    let (res, settingsName, settings, calls) :=
      qdPolicyOpenLookupUser manager conn.userId conn.remoteIp vhost conn.name settingsNameSize
        (conn.connectionId % 2 ^ 32) settings
    if res && !settingsName.isEmpty then
      ⟨some settings, calls, transportActions settings ++ openedActions conn.localUninit⟩
    else ⟨some settings, calls, qdPolicyPrivateDenyAmqpConnection .resourceLimitExceeded connectionDisallowed⟩
  else ⟨conn.policySettings, [], openedActions conn.localUninit⟩

/-- `qd_policy_apply_session_settings`: the session's incoming capacity, the usergroup's session
window when one is set, else the listener's `incoming_capacity`. -/
def qdPolicyApplySessionSettings (settings : Option QdPolicyOpenSettings) (incomingCapacity : Int) :
    Int :=
  match settings with
  | some settings => if settings.maxSessionWindow ≠ 0 then settings.maxSessionWindow else incomingCapacity
  | none => incomingCapacity

/-! ## The decision -/

section Lookup
variable (manager : PolicyManager) (username hostip vhost connName : List Char)
  (nameBufSize connId : Nat) (settings : QdPolicyOpenSettings)

/-- The manager names a usergroup that is not empty, fits the name buffer, and has settings. -/
def Named (name : List Char) (upolicy : UPolicy) : Prop :=
  manager.lookupUser username hostip vhost connName connId = some name ∧ name ≠ [] ∧
    name.length < nameBufSize ∧ manager.lookupSettings vhost name = some upolicy

theorem qdPolicyOpenLookupUser_of_named {name : List Char} {upolicy : UPolicy}
    (named : Named manager username hostip vhost connName nameBufSize connId name upolicy) :
    qdPolicyOpenLookupUser manager username hostip vhost connName nameBufSize connId settings =
      (true, name, readSettings upolicy,
        [.lookupUser username hostip vhost connName connId, .lookupSettings vhost name]) := by
  obtain ⟨user, nonempty, fits, found⟩ := named
  simp [qdPolicyOpenLookupUser, user, nonempty, fits, found]

theorem qdPolicyOpenLookupUser_of_not_named
    (unnamed : ∀ name upolicy, ¬ Named manager username hostip vhost connName nameBufSize connId name upolicy) :
    (qdPolicyOpenLookupUser manager username hostip vhost connName nameBufSize connId settings).1 = false := by
  unfold qdPolicyOpenLookupUser
  cases user : manager.lookupUser username hostip vhost connName connId with
  | none => rfl
  | some name =>
    dsimp only
    by_cases fits : name.length < nameBufSize
    · rw [if_pos fits]
      cases found : manager.lookupSettings vhost name with
      | none => split <;> rfl
      | some upolicy =>
        by_cases empty : name = []
        · subst empty; rfl
        · exact absurd ⟨user, empty, fits, found⟩ (unnamed name upolicy)
    · rw [if_neg fits]; rfl

end Lookup

/-! ## The open -/

section Open
variable (enableVhostPolicy : Bool) (manager : PolicyManager) (conn : OpenConnection)

theorem qdPolicyAmqpOpen_of_ungoverned (ungoverned : governed enableVhostPolicy conn.role = false) :
    qdPolicyAmqpOpen enableVhostPolicy manager conn =
      ⟨conn.policySettings, [], openedActions conn.localUninit⟩ := by
  rw [qdPolicyAmqpOpen, if_neg (by simp [ungoverned])]

theorem qdPolicyAmqpOpen_actions_of_named {name : List Char} {upolicy : UPolicy}
    (isGoverned : governed enableVhostPolicy conn.role = true)
    (named : Named manager conn.userId conn.remoteIp (conn.remoteHostname.getD []) conn.name
      settingsNameSize (conn.connectionId % 2 ^ 32) name upolicy) :
    (qdPolicyAmqpOpen enableVhostPolicy manager conn).actions =
      transportActions (readSettings upolicy) ++ openedActions conn.localUninit := by
  have nonempty : name.isEmpty = false := by
    cases name with
    | nil => exact absurd rfl named.2.1
    | cons => rfl
  simp only [qdPolicyAmqpOpen, isGoverned, if_true, qdPolicyOpenLookupUser_of_named _ _ _ _ _ _ _ _ named,
    nonempty, Bool.not_false, Bool.and_self]

theorem qdPolicyAmqpOpen_actions_of_unnamed (isGoverned : governed enableVhostPolicy conn.role = true)
    (unnamed : ∀ name upolicy, ¬ Named manager conn.userId conn.remoteIp (conn.remoteHostname.getD [])
      conn.name settingsNameSize (conn.connectionId % 2 ^ 32) name upolicy) :
    (qdPolicyAmqpOpen enableVhostPolicy manager conn).actions =
      qdPolicyPrivateDenyAmqpConnection .resourceLimitExceeded connectionDisallowed := by
  have found := qdPolicyOpenLookupUser_of_not_named manager conn.userId conn.remoteIp
    (conn.remoteHostname.getD []) conn.name settingsNameSize (conn.connectionId % 2 ^ 32)
    (conn.policySettings.getD zeroSettings) unnamed
  rw [qdPolicyAmqpOpen, if_pos isGoverned]
  dsimp only
  rcases lookup : qdPolicyOpenLookupUser manager conn.userId conn.remoteIp (conn.remoteHostname.getD [])
    conn.name settingsNameSize (conn.connectionId % 2 ^ 32) (conn.policySettings.getD zeroSettings)
    with ⟨res, settingsName, settings, calls⟩
  rw [lookup] at found
  subst found
  rfl

end Open

/-- `qd_policy_amqp_open` admits a connection, notifying the container, exactly when the policy does
not govern it or the manager names a usergroup that is not empty, fits the 256-byte name buffer and
has settings; it opens the connection exactly when it admits one that is not yet open locally.
Every other connection is only closed, with `amqp:resource-limit-exceeded` and `connection
disallowed by local policy`. -/
theorem qdPolicyAmqpOpen_admits (enableVhostPolicy : Bool) (manager : PolicyManager)
    (conn : OpenConnection) :
    (OpenAction.notifyOpened ∈ (qdPolicyAmqpOpen enableVhostPolicy manager conn).actions ↔
      (governed enableVhostPolicy conn.role = true →
        ∃ name upolicy, Named manager conn.userId conn.remoteIp (conn.remoteHostname.getD []) conn.name
          settingsNameSize (conn.connectionId % 2 ^ 32) name upolicy)) ∧
    (OpenAction.connectionOpen ∈ (qdPolicyAmqpOpen enableVhostPolicy manager conn).actions ↔
      OpenAction.notifyOpened ∈ (qdPolicyAmqpOpen enableVhostPolicy manager conn).actions ∧
        conn.localUninit = true) ∧
    (OpenAction.notifyOpened ∉ (qdPolicyAmqpOpen enableVhostPolicy manager conn).actions →
      (qdPolicyAmqpOpen enableVhostPolicy manager conn).actions =
        [.setCondition ⟨.resourceLimitExceeded, connectionDisallowed⟩, .connectionClose]) := by
  have notified (localUninit : Bool) (transport : List OpenAction) :
      OpenAction.notifyOpened ∈ transport ++ openedActions localUninit := by simp [openedActions]
  have opening (localUninit : Bool) (transport : List OpenAction)
      (plain : OpenAction.connectionOpen ∉ transport) :
      OpenAction.connectionOpen ∈ transport ++ openedActions localUninit ↔
        OpenAction.notifyOpened ∈ transport ++ openedActions localUninit ∧ localUninit = true := by
    cases localUninit <;> simp [openedActions, plain]
  by_cases isGoverned : governed enableVhostPolicy conn.role = true
  · by_cases named : ∃ name upolicy, Named manager conn.userId conn.remoteIp
        (conn.remoteHostname.getD []) conn.name settingsNameSize (conn.connectionId % 2 ^ 32) name upolicy
    · obtain ⟨name, upolicy, isNamed⟩ := named
      have plain : OpenAction.connectionOpen ∉ transportActions (readSettings upolicy) := by
        unfold transportActions
        split_ifs <;> simp
      rw [qdPolicyAmqpOpen_actions_of_named enableVhostPolicy manager conn isGoverned isNamed]
      exact ⟨iff_of_true (notified _ _) fun _ => ⟨name, upolicy, isNamed⟩, opening _ _ plain,
        fun notOpened => absurd (notified _ _) notOpened⟩
    · rw [qdPolicyAmqpOpen_actions_of_unnamed enableVhostPolicy manager conn isGoverned
        fun name upolicy isNamed => named ⟨name, upolicy, isNamed⟩]
      exact ⟨iff_of_false (by simp [qdPolicyPrivateDenyAmqpConnection]) fun admitted => named (admitted isGoverned),
        by simp [qdPolicyPrivateDenyAmqpConnection], fun _ => rfl⟩
  · rw [qdPolicyAmqpOpen_of_ungoverned enableVhostPolicy manager conn (by simpa using isGoverned)]
    exact ⟨iff_of_true (notified _ []) fun isTrue => absurd isTrue isGoverned, opening _ [] nofun,
      fun notOpened => absurd (notified _ []) notOpened⟩

end DispatchRouter.PolicyOpen
