import FleetGate.Json.Value
import FleetGate.Text.Case

/-!
# Status labels

One word or two that say how an object is doing, by rules of its kind. The kind is compared in
lower case. A kind without a rule is labelled by its phase, if it states one.
-/

namespace FleetGate.Shaping

/-- The whole number at a path, zero if there is none. -/
def intAt (path : List String) (v : Json) : Int :=
  ((v.at? path).bind Json.signed64?).getD 0

/-- The status of the first condition of a type. -/
def conditionStatus? (type : String) (v : Json) : Option String := do
  let conditions ← (v.at? ["status", "conditions"]).bind Json.items?
  let condition ← conditions.find? fun c => c.stringAt? ["type"] = some type
  condition.stringAt? ["status"]

/-- The status member, if it is an object. -/
def statusObject? (v : Json) : Option Json :=
  (v.member? "status").filter Json.isObject

/-- The phase, if the status states one. -/
def phase? (v : Json) : Option String :=
  (statusObject? v).bind fun s => s.stringAt? ["phase"]

/-- The label of a workload with replicas. -/
def replicaStatus (v : Json) : String :=
  let replicas := intAt ["spec", "replicas"] v
  let ready := intAt ["status", "readyReplicas"] v
  let available := intAt ["status", "availableReplicas"] v
  if replicas = 0 then "Scaled to Zero"
  else if replicas ≤ ready ∧ replicas ≤ available then "Ready"
  else if 0 < ready then "Partially Ready"
  else "Not Ready"

/-- The label of a node. -/
def nodeStatus (v : Json) : String :=
  match conditionStatus? "Ready" v with
  | some "True" => "Ready"
  | some _ => "NotReady"
  | none => "Unknown"

/-- The label of a job: its conditions decide before its counts. -/
def jobStatus (v : Json) : String :=
  if conditionStatus? "Complete" v = some "True" then "Succeeded"
  else if conditionStatus? "Failed" v = some "True" then "Failed"
  else if 0 < intAt ["status", "succeeded"] v then "Succeeded"
  else if 0 < intAt ["status", "failed"] v then "Failed"
  else "Running"

/-- The label of an object. -/
def statusLabel (v : Json) : String :=
  let kind := Text.lowercase ((v.stringAt? ["kind"]).getD "")
  let hasStatus := (statusObject? v).isSome
  if kind = "pod" then ((phase? v).filter fun p => !p.isEmpty).getD "Unknown"
  else if kind ∈ ["deployment", "replicaset", "statefulset", "daemonset"] then
    if hasStatus then replicaStatus v else "Unknown"
  else if kind = "node" then nodeStatus v
  else if kind = "job" then if hasStatus then jobStatus v else "Unknown"
  else (phase? v).getD ""

end FleetGate.Shaping
