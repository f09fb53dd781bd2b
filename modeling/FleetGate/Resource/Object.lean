import FleetGate.Json.Decode
import FleetGate.Resource.Type
import FleetGate.Time.Timestamp

/-!
# Resource objects

An object of any type: an optional statement of its type, typed metadata, and the rest of its
content as data. `Object.ofJson` reads a manifest, `Object.toJson` writes one.

A manifest states its type by `apiVersion` and `kind` together. One of them alone states nothing:
the first of the two that fits is used up, and the object is untyped.
-/

namespace FleetGate

/-- The metadata of an object, as far as it is read here. -/
structure ObjectMeta where
  name? : Option String := none
  ns? : Option String := none
  labels? : Option (List (String × String)) := none
  annotations? : Option (List (String × String)) := none
  created? : Option Time.Timestamp := none
  deriving DecidableEq, Repr, Inhabited

/-- An object of some resource type. -/
structure Object where
  types? : Option TypeMeta := none
  metadata : ObjectMeta := {}
  data : Json := .null
  deriving DecidableEq, Inhabited

namespace ObjectMeta

/-- The labels, none counting as an empty map. -/
def labels (m : ObjectMeta) : List (String × String) := m.labels?.getD []

/-- The annotations, none counting as an empty map. -/
def annotations (m : ObjectMeta) : List (String × String) := m.annotations?.getD []

/-- Decodes a timestamp from its text. -/
def decodeTimestamp (v : Json) : Json.Decoded Time.Timestamp := do
  let s ← Json.decodeString v
  match Time.Timestamp.parse? s with
  | some t => .ok t
  | none => .error (.other "input contains invalid characters")

/-- Stores one member of the metadata. -/
def set (key : String) (v : Json) (m : ObjectMeta) : Json.Decoded ObjectMeta :=
  match key with
  | "name" => return { m with name? := ← Json.decodeOption Json.decodeString v }
  | "namespace" => return { m with ns? := ← Json.decodeOption Json.decodeString v }
  | "labels" =>
    return { m with labels? := ← Json.decodeOption (Json.decodeMap Json.decodeString) v }
  | "annotations" =>
    return { m with annotations? := ← Json.decodeOption (Json.decodeMap Json.decodeString) v }
  | "creationTimestamp" =>
    return { m with created? := ← Json.decodeOption decodeTimestamp v }
  | _ => .ok m

/-- Reads metadata from an object; members that are not known are dropped. -/
def ofJson : Json → Json.Decoded ObjectMeta
  | .obj ms => ms.foldlM (fun m p => set p.1 p.2 m) {}
  | v => .error (.wrongType v "ObjectMeta")

/-- Writes the metadata that is set. -/
def toJson (m : ObjectMeta) : Json :=
  .obj (Json.presentMembers [
    ("annotations", m.annotations?.map Json.ofTexts),
    ("creationTimestamp", m.created?.map fun t => .str t.text),
    ("labels", m.labels?.map Json.ofTexts),
    ("name", m.name?.map .str),
    ("namespace", m.ns?.map .str)])

end ObjectMeta

namespace Object

/-- Takes the statement of the type off the members of a manifest. -/
def takeTypes (members : List (String × Json)) : Option TypeMeta × List (String × Json) :=
  match Keyed.get? "apiVersion" members with
  | some (.str version) =>
    let rest := Keyed.erase "apiVersion" members
    match Keyed.get? "kind" rest with
    | some (.str kind) => (some ⟨version, kind⟩, Keyed.erase "kind" rest)
    | _ => (none, Keyed.erase "kind" rest)
  | some _ => (none, Keyed.erase "apiVersion" members)
  | none => (none, Keyed.erase "kind" members)

/-- Reads a manifest. -/
def ofJson : Json → Json.Decoded Object
  | .obj ms => do
    let metadata ← match Keyed.get? "metadata" ms with
      | some v => ObjectMeta.ofJson v
      | none => .ok {}
    let (types?, rest) := takeTypes (Keyed.erase "metadata" ms)
    return { types?, metadata, data := .obj rest }
  | v => .error (.wrongType v "struct DynamicObject")

/-- Writes an object. Members of the data are written last, so one named `metadata` takes the
place of the metadata; data that is no object adds nothing. -/
def toJson (o : Object) : Json :=
  let types := match o.types? with
    | some t => [("apiVersion", Json.str t.apiVersion), ("kind", .str t.kind)]
    | none => []
  let data := match o.data with
    | .obj ms => ms
    | _ => []
  .ofMembers (types ++ [("metadata", o.metadata.toJson)] ++ data)

/-- The name, none counting as empty. -/
def name (o : Object) : String := o.metadata.name?.getD ""

/-- The namespace, none counting as empty. -/
def namespaceName (o : Object) : String := o.metadata.ns?.getD ""

end Object

/-- Writes a statement of a type. -/
def TypeMeta.toJson (t : TypeMeta) : Json :=
  .ofMembers [("apiVersion", .str t.apiVersion), ("kind", .str t.kind)]

namespace ResourceType

/-- Writes a resource type. -/
def toJson (r : ResourceType) : Json :=
  .ofMembers [("group", .str r.group), ("version", .str r.version), ("kind", .str r.kind),
    ("plural", .str r.plural), ("namespaced", .bool r.namespaced)]

/-- States the type on an object that states none. -/
def stamp (r : ResourceType) (o : Object) : Object :=
  if o.types?.isNone then { o with types? := some r.typeMeta } else o

end ResourceType

end FleetGate
