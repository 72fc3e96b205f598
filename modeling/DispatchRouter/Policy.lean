import DispatchRouter.Connection

/-! The policy gate of policy.c: the global connection count at socket accept and close, the
session and link limits with their denial counters, and the link-name matcher with its
user-name substitution. C strings are `List Char`, each `Char` standing for one byte (a `Char`
above 255 has no C counterpart), so that a length is a `strlen` and an index a byte offset. A
buffer holds `'\x00'` for a NUL byte. -/

namespace DispatchRouter.Policy
open Connection

/-! ## Connection counting -/

/-- The `qd_policy_t` configuration the modelled functions read. -/
structure QdPolicy where
  maxConnectionLimit : Int

/-- The global statistics `n_connections`, `n_denied` and `n_processed`. -/
structure QdPolicyCounters where
  nConnections : Int
  nDenied : Int
  nProcessed : Int
  deriving DecidableEq, Repr

/-- The statistics at start-up. -/
def QdPolicyCounters.initial : QdPolicyCounters := ⟨0, 0, 0⟩

/-- `qd_policy_socket_accept`: whether the connection is allowed, and the statistics after. -/
def qdPolicySocketAccept (policy : QdPolicy) (counters : QdPolicyCounters) :
    Bool × QdPolicyCounters :=
  let (result, counters) :=
    if counters.nConnections < policy.maxConnectionLimit then
      (true, { counters with nConnections := counters.nConnections + 1 })
    else (false, { counters with nDenied := counters.nDenied + 1 })
  (result, { counters with nProcessed := counters.nProcessed + 1 })

theorem qdPolicySocketAccept_of_lt {policy : QdPolicy} {counters : QdPolicyCounters}
    (below : counters.nConnections < policy.maxConnectionLimit) :
    qdPolicySocketAccept policy counters = (true, { counters with
      nConnections := counters.nConnections + 1, nProcessed := counters.nProcessed + 1 }) := by
  simp [qdPolicySocketAccept, below]

theorem qdPolicySocketAccept_of_le {policy : QdPolicy} {counters : QdPolicyCounters}
    (full : policy.maxConnectionLimit ≤ counters.nConnections) :
    qdPolicySocketAccept policy counters = (false, { counters with
      nDenied := counters.nDenied + 1, nProcessed := counters.nProcessed + 1 }) := by
  simp [qdPolicySocketAccept, Int.not_lt.2 full]

/-- `qd_policy_socket_close`: the statistics after, `none` when `assert (n_connections >= 0)`
fails. -/
def qdPolicySocketClose (counters : QdPolicyCounters) : Option QdPolicyCounters :=
  let counters := { counters with nConnections := counters.nConnections - 1 }
  if 0 ≤ counters.nConnections then some counters else none

/-! ## Session and link limits -/

/-- The AMQP error conditions a denied endpoint is closed with. -/
inductive QdAmqpCondition where
  | resourceLimitExceeded
  | unauthorizedAccess
  deriving DecidableEq, Repr

/-- The condition set on a closed endpoint: its name and description. -/
structure PnCondition where
  name : QdAmqpCondition
  description : List Char
  deriving DecidableEq, Repr

/-- `SESSION_DISALLOWED`. -/
def sessionDisallowed : List Char := "session disallowed by local policy".toList

/-- `LINK_DISALLOWED`. -/
def linkDisallowed : List Char := "link disallowed by local policy".toList

/-- A policy decision: approved or not, the connection after it, and the condition a denied
endpoint is closed with. -/
abbrev Decision := Bool × QdConnection × Option PnCondition

/-- The denial counts of the connection's settings after `bump`. -/
def bumpDenials (conn : QdConnection) (settings : QdPolicySettings)
    (bump : QdPolicyDenialCounts → QdPolicyDenialCounts) : QdConnection :=
  { conn with policySettings := some { settings with denialCounts := bump settings.denialCounts } }

/-- `sessionDenied++`. -/
def sessionDenial (counts : QdPolicyDenialCounts) : QdPolicyDenialCounts :=
  { counts with sessionDenied := counts.sessionDenied + 1 }

/-- `senderDenied++`. -/
def senderDenial (counts : QdPolicyDenialCounts) : QdPolicyDenialCounts :=
  { counts with senderDenied := counts.senderDenied + 1 }

/-- `receiverDenied++`. -/
def receiverDenial (counts : QdPolicyDenialCounts) : QdPolicyDenialCounts :=
  { counts with receiverDenied := counts.receiverDenied + 1 }

/-- `qd_policy_deny_amqp_session`: the session closed for its limit, the denial counted. -/
def qdPolicyDenyAmqpSession (conn : QdConnection) (settings : QdPolicySettings) : Decision :=
  (false, bumpDenials conn settings sessionDenial, some ⟨.resourceLimitExceeded, sessionDisallowed⟩)

/-- `qd_policy_approve_amqp_session`. -/
def qdPolicyApproveAmqpSession (conn : QdConnection) : Decision :=
  match conn.policySettings with
  | some settings =>
    if settings.maxSessions ≠ 0 ∧ conn.nSessions = settings.maxSessions then
      qdPolicyDenyAmqpSession conn settings
    else (true, conn, none)
  | none => (true, conn, none)

/-- `_qd_policy_deny_amqp_link` followed by the count of the denial with `bump`. -/
def denyAmqpLink (bump : QdPolicyDenialCounts → QdPolicyDenialCounts) (conn : QdConnection)
    (settings : QdPolicySettings) (condition : QdAmqpCondition) : Decision :=
  (false, bumpDenials conn settings bump, some ⟨condition, linkDisallowed⟩)

/-- `_qd_policy_deny_amqp_sender_link`. -/
def qdPolicyDenyAmqpSenderLink : QdConnection → QdPolicySettings → QdAmqpCondition → Decision :=
  denyAmqpLink senderDenial

/-- `_qd_policy_deny_amqp_receiver_link`. -/
def qdPolicyDenyAmqpReceiverLink : QdConnection → QdPolicySettings → QdAmqpCondition → Decision :=
  denyAmqpLink receiverDenial

/-! ## Link names -/

/-- `QPALN_USERBUFSIZE`, the size of the substituted-name buffer. -/
def qpalnUserbufsize : Nat := 300

/-- `strstr`: the offset of the first occurrence of `needle` in `hay`. -/
def strstr (hay needle : List Char) : Option Nat :=
  if needle.isPrefixOf hay then some 0
  else match hay with
    | [] => none
    | _ :: rest => (strstr rest needle).map (· + 1)

/-- The `n` bytes `strncpy` writes from `src`: its characters, then NULs. -/
def strncpy (src : List Char) (n : Nat) : List Char :=
  src.take n ++ List.replicate (n - src.length) '\x00'

/-- `strncmp (a, b, n) == 0`. -/
def strncmpEq (a b : List Char) (n : Nat) : Bool := a.take n == b.take n

/-- The C string a buffer holds: its bytes up to the first NUL. -/
def cString (buf : List Char) : List Char := buf.takeWhile (· != '\x00')

/-- `_qd_policy_link_user_name_subst`: the `osize` bytes it writes to `obuf`, or `none` when it
returns NULL. -/
def qdPolicyLinkUserNameSubst (uname proposed : List Char) (osize : Nat) : Option (List Char) :=
  if uname.length = 0 then none
  else match strstr proposed uname with
    | none => none
    | some segsize =>
      let duser := "${user}".toList
      let copysize := min osize segsize
      let obuf := strncpy proposed copysize
      let wiptr := proposed.drop copysize
      let osize := osize - copysize
      let copysize := min osize duser.length
      let obuf := obuf ++ strncpy duser copysize
      let wiptr := wiptr.drop uname.length
      let osize := osize - copysize
      some (obuf ++ strncpy wiptr osize)

/-- The tokens `strtok_r (pa, ",", &toknext)` returns in turn: the maximal runs without a comma. -/
def strtokTokens (s : List Char) : List (List Char) := (s.splitOn ',').filter (· ≠ [])

/-- The token loop of `_qd_policy_approve_link_name`, with the substituted name `prop2`. -/
def approveTokens (proposed : List Char) (prop2 : Option (List Char)) : List (List Char) → Bool
  | [] => false
  | tok :: toks =>
    if tok.head? = some '*' then true
    else
      let matchlen := if tok.getLast? = some '*' then tok.length - 1 else proposed.length
      if strncmpEq tok proposed matchlen then true
      else if (prop2.map (strncmpEq tok · matchlen)).getD false then true
      else approveTokens proposed prop2 toks

/-- `_qd_policy_approve_link_name`, the CSV matcher; `none` when `assert (tok)` fails. -/
def qdPolicyApproveLinkNameCsv (username allowed proposed : List Char) : Option Bool :=
  if proposed.length = 0 then some false
  else if allowed.length = 0 then some false
  else
    let prop2 := (qdPolicyLinkUserNameSubst username proposed qpalnUserbufsize).map cString
    match strtokTokens allowed with
    | [] => none
    | toks => some (approveTokens proposed prop2 toks)

section Tree
variable (retrieveMatch : QdParseTree → List Char → Bool)

/-- `_qd_policy_approve_link_name_tree`, with `qd_parse_tree_retrieve_match_str` (parse_tree.c is
not under src/) as `retrieveMatch`. -/
def qdPolicyApproveLinkNameTree (username : List Char) (tree : QdParseTree) (proposed : List Char) :
    Bool :=
  if proposed.length = 0 then false
  else if retrieveMatch tree proposed then true
  else match (qdPolicyLinkUserNameSubst username proposed qpalnUserbufsize).map cString with
    | some prop2 => retrieveMatch tree prop2
    | none => false

/-- `qd_policy_approve_link_name`: the receiver's sources or the sender's targets, as a parse tree
if there is one, else as a CSV list. -/
def qdPolicyApproveLinkName (username : List Char) (settings : QdPolicySettings)
    (proposed : List Char) (isReceiver : Bool) : Option Bool :=
  let (tree, csv) :=
    if isReceiver then (settings.sourceParseTree, settings.sources)
    else (settings.targetParseTree, settings.targets)
  match tree, csv with
  | some tree, _ => some (qdPolicyApproveLinkNameTree retrieveMatch username tree proposed)
  | none, some csv => qdPolicyApproveLinkNameCsv username csv proposed
  | none, none => some false

/-- `qd_policy_approve_amqp_sender_link` on a link whose remote target has address `target`;
`none` when the connection has no settings (the C dereferences them) or the matcher fails an
assertion. -/
def qdPolicyApproveAmqpSenderLink (conn : QdConnection) (target : Option (List Char)) :
    Option Decision := do
  let settings ← conn.policySettings
  if settings.maxSenders ≠ 0 ∧ conn.nSenders = settings.maxSenders then
    return qdPolicyDenyAmqpSenderLink conn settings .resourceLimitExceeded
  match target with
  | some target@(_ :: _) =>
    let lookup ← qdPolicyApproveLinkName retrieveMatch conn.userId settings target false
    if lookup then return (true, conn, none)
    else return qdPolicyDenyAmqpSenderLink conn settings .unauthorizedAccess
  | _ =>
    if settings.allowAnonymousSender then return (true, conn, none)
    else return qdPolicyDenyAmqpSenderLink conn settings .unauthorizedAccess

/-- `qd_policy_approve_amqp_receiver_link` on a link whose remote source is dynamic or has address
`source`; `none` as for senders. -/
def qdPolicyApproveAmqpReceiverLink (conn : QdConnection) (dynamicSrc : Bool)
    (source : Option (List Char)) : Option Decision := do
  let settings ← conn.policySettings
  if settings.maxReceivers ≠ 0 ∧ conn.nReceivers = settings.maxReceivers then
    return qdPolicyDenyAmqpReceiverLink conn settings .resourceLimitExceeded
  if dynamicSrc then
    if settings.allowDynamicSource then return (true, conn, none)
    else return qdPolicyDenyAmqpReceiverLink conn settings .unauthorizedAccess
  match source with
  | some source@(_ :: _) =>
    let lookup ← qdPolicyApproveLinkName retrieveMatch conn.userId settings source true
    if lookup then return (true, conn, none)
    else return qdPolicyDenyAmqpReceiverLink conn settings .unauthorizedAccess
  | _ => return qdPolicyDenyAmqpReceiverLink conn settings .unauthorizedAccess

end Tree

end DispatchRouter.Policy
