import Mathlib.Data.List.Basic

/-! The `qd_connection_t` and `qd_policy_settings_t` fields that policy.c and router_node.c read
and write (their headers are not under src/). A C string is a `List Char`; a null string pointer is
`none`. -/

namespace DispatchRouter.Connection

/-- `qd_policy_denial_counts_t`: the denial statistics of the connection's vhost settings. -/
structure QdPolicyDenialCounts where
  sessionDenied : Nat
  senderDenied : Nat
  receiverDenied : Nat
  deriving DecidableEq, Repr

/-- A `qd_parse_tree_t` of link-name patterns, as the patterns added to it in order. -/
structure QdParseTree where
  patterns : List (List Char)
  deriving DecidableEq, Repr

/-- The `qd_policy_settings_t` fields the policy gate and the receive path read. -/
structure QdPolicySettings where
  maxSessions : Int
  maxSenders : Int
  maxReceivers : Int
  allowAnonymousSender : Bool
  allowDynamicSource : Bool
  allowUserIdProxy : Bool
  sources : Option (List Char)
  targets : Option (List Char)
  sourceParseTree : Option QdParseTree
  targetParseTree : Option QdParseTree
  denialCounts : QdPolicyDenialCounts
  deriving DecidableEq, Repr

/-- The `qd_connection_t` fields the policy gate and the receive path read and write. -/
structure QdConnection where
  policySettings : Option QdPolicySettings
  userId : List Char
  nSessions : Int
  nSenders : Int
  nReceivers : Int
  deriving DecidableEq, Repr

end DispatchRouter.Connection
