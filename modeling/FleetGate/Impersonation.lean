import FleetGate.Cluster.Error
import FleetGate.Identity.Basic
import FleetGate.Net.Header

/-!
# Impersonation

The user, groups and extra attributes that a client acts as, and how they are written into the
settings of a client. Extra attributes travel as headers, one per value, under a common start of
the name; applying an impersonation first drops all headers of that start, so nothing of an earlier
identity stays.
-/

namespace FleetGate

/-- Whom a client acts as. -/
structure Impersonation where
  user : String
  groups : List String
  extra : List (String × List String)
  deriving DecidableEq, Repr

/-- The settings of a client that impersonation touches. Header names are in lower case. -/
structure ClientSettings where
  user? : Option String := none
  groups? : Option (List String) := none
  headers : List (String × String) := []
  deriving DecidableEq, Repr

namespace Impersonation

/-- The extra attribute that names the agent behind the request. -/
def agentKey : String := "agent"

/-- The name of the agent in audit logs. -/
def agentName : String := "mcp-kubernetes"

/-- How the headers of extra attributes start. -/
def headerStart : String := "impersonate-extra-"

/-- The impersonation of a normalized identity. The agent's mark replaces what a caller may have
sent under its key. -/
def ofIdentity (id : Identity) : Impersonation :=
  { user := id.email
    groups := id.groups
    extra := Keyed.put agentKey [agentName] id.extra }

/-- The name of the header that carries an extra attribute. -/
def headerFor (key : String) : Option String :=
  Net.headerName? (headerStart ++ String.ofList (key.toList.map Text.lowerAscii))

/-- The header of one value. -/
def valueHeader (key name value : String) : Except ClusterError (String × String) :=
  if Net.isHeaderValue value then .ok (name, value)
  else .error (.invalidRequest ("invalid impersonation extra value for key: " ++ key))

/-- The headers of one extra attribute, one for each value. -/
def attributeHeaders (key : String) (values : List String) :
    Except ClusterError (List (String × String)) :=
  match headerFor key with
  | some name => values.mapM (valueHeader key name)
  | none => .error (.invalidRequest ("invalid impersonation extra key: " ++ key))

/-- The headers of all extra attributes, in order of their keys. -/
def extraHeaders (p : Impersonation) : Except ClusterError (List (String × String)) :=
  (p.extra.mapM fun a => attributeHeaders a.1 a.2).map List.flatten

/-- Whether a header carries an extra attribute. -/
def isExtraHeader (header : String × String) : Bool :=
  headerStart.toList.isPrefixOf header.1.toList

/-- Writes the impersonation into the settings of a client. -/
def apply (p : Impersonation) (settings : ClientSettings) :
    Except ClusterError ClientSettings := do
  let headers ← p.extraHeaders
  return {
    user? := some p.user
    groups? := if p.groups.isEmpty then none else some p.groups
    headers := settings.headers.filter (fun h => !isExtraHeader h) ++ headers }

end Impersonation

end FleetGate
