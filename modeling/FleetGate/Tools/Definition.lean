import FleetGate.Json.Value

/-!
# The tools

The tools that a server offers, and what a caller is told about each: its name, what it is for and
which arguments it takes.
-/

namespace FleetGate

/-- A tool. -/
inductive Tool where
  | canI
  | clusterHealth
  | getCluster
  | listClusters
  | resolveCluster
  deriving DecidableEq, Repr

/-- What a caller is told about a tool. -/
structure ToolDefinition where
  name : String
  description : String
  /-- A JSON schema of the arguments. -/
  inputSchema : Json
  deriving DecidableEq

/-- Writes a definition. -/
def ToolDefinition.toJson (d : ToolDefinition) : Json :=
  .ofMembers [("name", .str d.name), ("description", .str d.description),
    ("inputSchema", d.inputSchema)]

namespace Tool

/-- The name by which a tool is called. -/
def name : Tool → String
  | .canI => "can_i"
  | .clusterHealth => "capi_cluster_health"
  | .getCluster => "capi_get_cluster"
  | .listClusters => "capi_list_clusters"
  | .resolveCluster => "capi_resolve_cluster"

/-- All tools, in order of their names. -/
def all : List Tool := [.canI, .clusterHealth, .getCluster, .listClusters, .resolveCluster]

/-- The tool of a name. -/
def ofName? (s : String) : Option Tool :=
  all.find? fun t => t.name = s

/-- What a tool is for. -/
def description : Tool → String
  | .canI =>
    "Check if you have permission to perform an action on a Kubernetes resource. The check runs " ++
      "with your own identity, so the answer matches what the cluster would decide for the real " ++
      "operation."
  | .clusterHealth =>
    "Check the health status of a CAPI cluster. Returns overall health, component status, and " ++
      "individual health checks."
  | .getCluster =>
    "Get detailed information about a specific CAPI cluster including metadata, status, labels, " ++
      "and annotations."
  | .listClusters =>
    "List all Workload Clusters managed by CAPI that you have access to. Returns cluster name, " ++
      "organization, provider, release version, status, and age. Results are limited by " ++
      "default; use filters or increase limit to see more."
  | .resolveCluster =>
    "Resolve a partial cluster name pattern to its full identifier. Useful when you only know " ++
      "part of a cluster name."

/-- An argument of a tool: its name, its type and what it is for. -/
structure Argument where
  name : String
  type : String := "string"
  description : String

/-- The arguments of a tool. -/
def arguments : Tool → List Argument
  | .canI => [
    ⟨"verb", "string",
      "The action to check (get, list, watch, create, update, patch, delete)"⟩,
    ⟨"resource", "string", "The resource type to check (pods, deployments, secrets, etc.)"⟩,
    ⟨"apiGroup", "string",
      "API group for the resource (empty for core resources, 'apps' for deployments)"⟩,
    ⟨"namespace", "string",
      "Namespace to check permissions in (empty for cluster-scoped resources)"⟩,
    ⟨"name", "string", "Specific resource name to check"⟩,
    ⟨"subresource", "string",
      "Subresource to check (e.g. 'log', 'exec', 'portforward' for pods)"⟩,
    ⟨"cluster", "string", "Target cluster name (empty for the management cluster)"⟩]
  | .clusterHealth => [
    ⟨"name", "string", "The name of the cluster to check health for"⟩]
  | .getCluster => [
    ⟨"name", "string", "The name of the cluster to get details for"⟩]
  | .listClusters => [
    ⟨"organization", "string", "Filter by organization namespace (e.g. 'org-acme')"⟩,
    ⟨"provider", "string", "Filter by infrastructure provider (aws, azure, gcp, vsphere)"⟩,
    ⟨"status", "string",
      "Filter by cluster status (Provisioned, Provisioning, Deleting, Failed)"⟩,
    ⟨"readyOnly", "boolean", "Only show clusters that are fully ready (default: false)"⟩,
    ⟨"labelSelector", "string",
      "Filter clusters by Kubernetes label selector (e.g. 'environment=production')"⟩,
    ⟨"limit", "number", "Maximum number of clusters to return (default: 100, max: 500)"⟩]
  | .resolveCluster => [
    ⟨"pattern", "string",
      "Partial cluster name to search for (e.g. 'prod' to find 'prod-wc-01')"⟩]

/-- The arguments that a tool cannot do without. -/
def requiredArguments : Tool → List String
  | .canI => ["verb", "resource"]
  | .clusterHealth | .getCluster => ["name"]
  | .listClusters => []
  | .resolveCluster => ["pattern"]

/-- The schema of the arguments of a tool. -/
def inputSchema (t : Tool) : Json :=
  let property (a : Argument) : String × Json :=
    (a.name, .ofMembers [("type", .str a.type), ("description", .str a.description)])
  let required :=
    if t.requiredArguments.isEmpty then []
    else [("required", Json.arr (t.requiredArguments.map .str))]
  .ofMembers ([("type", .str "object"),
    ("properties", .ofMembers (t.arguments.map property))] ++ required)

/-- What a caller is told about a tool. -/
def definition (t : Tool) : ToolDefinition :=
  ⟨t.name, t.description, t.inputSchema⟩

/-- What a caller is told about all tools. -/
def definitions : List ToolDefinition := all.map definition

end Tool

end FleetGate
