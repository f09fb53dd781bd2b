import FleetGate.Fleet.ClusterSummary
import FleetGate.Fleet.Error
import FleetGate.Labels.Selector

/-!
# Finding clusters

Narrowing a list of clusters by conditions, and finding the one that a part of its name means.
-/

namespace FleetGate

/-- Conditions on clusters. An empty text puts no condition. -/
structure ClusterFilter where
  ns : String := ""
  /-- Compared without regard to case. -/
  provider : String := ""
  status : String := ""
  readyOnly : Bool := false
  labelSelector : String := ""
  deriving DecidableEq, Repr, Inhabited

namespace ClusterFilter

/-- Whether the filter puts no condition. -/
def isEmpty (f : ClusterFilter) : Bool :=
  f.ns.isEmpty && f.provider.isEmpty && f.status.isEmpty && !f.readyOnly && f.labelSelector.isEmpty

/-- Whether a cluster meets the conditions, the selector already read. -/
def admits (f : ClusterFilter) (selector : Selector) (c : ClusterSummary) : Bool :=
  let provider := Text.lowercase f.provider
  (f.ns.isEmpty || c.ns = f.ns) &&
    (provider.isEmpty || Text.lowercase c.provider = provider) &&
    (f.status.isEmpty || c.status = f.status) &&
    (!f.readyOnly || c.ready) &&
    selector.matchesLabels c.labels

/-- The clusters that meet the conditions. A selector that cannot be read fails the whole call. -/
def apply (f : ClusterFilter) (clusters : List ClusterSummary) :
    FleetResult (List ClusterSummary) :=
  match Selector.parse f.labelSelector with
  | .ok selector => .ok (clusters.filter (f.admits selector))
  | .error e => .error (.invalidSelector e.message)

end ClusterFilter

/-- What a part of a name leads to: the cluster it means, if it means one, and all it could mean. -/
structure Resolution where
  resolved? : Option ClusterSummary
  candidates : List ClusterSummary
  deriving DecidableEq, Repr

/-- The cluster of a name or of a part of one. A cluster of exactly this name is meant alone;
otherwise every cluster whose name contains the text in any case could be, and is meant if it is the
only one. -/
def resolveName (clusters : List ClusterSummary) (pattern : String) : Resolution :=
  match clusters.find? fun c => c.name = pattern with
  | some exact => ⟨some exact, [exact]⟩
  | none =>
    let part := Text.lowercase pattern
    let candidates := clusters.filter fun c => Text.contains (Text.lowercase c.name) part
    match candidates with
    | [only] => ⟨some only, candidates⟩
    | _ => ⟨none, candidates⟩

end FleetGate
