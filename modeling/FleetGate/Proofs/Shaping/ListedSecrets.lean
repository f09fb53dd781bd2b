import FleetGate.Fleet.InMemory
import FleetGate.Proofs.Cluster.Listing
import FleetGate.Proofs.Shaping.Slimming

/-! # Secrets that are listed

From a cluster to a response a secret passes through three hands. A listing states the type of
whatever is kept as a secret, so that the kind is there for masking to see. Writing the object puts
the kind in its place unless its data has a member of that name. And masking knows a secret by its
kind, whatever the shape of its data, even without a `type`.

Slimming comes after masking and may remove what was masked, but it changes nothing that is text.
So of the values of a payload only the mask is left (`payloadRedacted_slim`), and cutting the list
takes nothing but whole items away.
-/

namespace FleetGate.Shaping

variable {v : Json} {ms values : List (String × Json)} {config : OutputConfig} {o : Object}

/-- Every value is the mask. -/
def AllRedacted (values : List (String × Json)) : Prop :=
  ∀ m ∈ values, m.2 = .str redacted

/-- Every value left in the payload of an object is the mask. -/
def PayloadRedacted (v : Json) : Prop :=
  ∀ ms field values, v = .obj ms → field ∈ payloadFields → (field, .obj values) ∈ ms →
    AllRedacted values

/-! ## Masking -/

/-- Masking a secret leaves nothing but the mask in its payload. -/
theorem payloadRedacted_maskSecrets (h : isSecret v = true) : PayloadRedacted (maskSecrets v) := by
  rw [maskSecrets_of_isSecret h]
  cases v with
  | obj ms =>
      rintro _ field values ⟨⟩ hfield hmem
      obtain ⟨m, -, heq⟩ := List.mem_map.mp hmem
      obtain ⟨rfl, hvalue⟩ := Prod.mk.inj heq
      rw [maskMember, if_pos hfield] at hvalue
      -- only an object has an object for its masked form
      obtain ⟨inner, hinner⟩ : ∃ inner, m.2 = .obj inner := by
        cases hm : m.2 with
        | obj inner => exact ⟨inner, rfl⟩
        | _ => rw [hm] at hvalue; cases hvalue
      rw [hinner] at hvalue
      obtain rfl := Json.obj.inj hvalue
      rintro n hn
      obtain ⟨_, -, rfl⟩ := List.mem_map.mp hn
      rfl
  | _ => rintro _ _ _ ⟨⟩

/-! ## Slimming -/

/-- Removing a path from an object whose values are masks leaves masks. -/
theorem removePath_allRedacted (segments : List String) (h : AllRedacted ms)
    (heq : removePath segments (.obj ms) = .obj values) : AllRedacted values := by
  cases segments with
  | nil =>
      rw [removePath_nil] at heq
      exact Json.obj.inj heq ▸ h
  | cons head rest =>
      rcases removePath_cases head rest ms with hstep | ⟨key, hstep⟩ | ⟨key, f, hf, hstep⟩
      · obtain rfl := Json.obj.inj (hstep.symm.trans heq)
        exact h
      · obtain rfl := Json.obj.inj (hstep.symm.trans heq)
        exact fun m hm => h m (List.mem_of_mem_filter hm)
      · obtain rfl := Json.obj.inj (hstep.symm.trans heq)
        have hkeep : f (.str redacted) = .str redacted := by
          rcases hf with rfl | rfl
          · exact removePath_of_not_isObject rest rfl
          · rfl
        rintro ⟨k, u⟩ hm
        rcases (Keyed.mem_modify key f ms).mp hm with ⟨-, hold⟩ | ⟨-, u, hold, rfl⟩
        · exact h _ hold
        · exact (congrArg f (h _ hold)).trans hkeep

/-- What a step of a path makes of a member is an object only if the member is one, and masks stay
masks in it. -/
theorem allRedacted_of_step {rest : List String} {f : Json → Json}
    (hf : f = removePath rest ∨ f = mapItems (removePath rest)) (hv : f v = .obj values)
    (h : ∀ ms, v = .obj ms → AllRedacted ms) : AllRedacted values := by
  cases v with
  | obj ms =>
      rcases hf with rfl | rfl
      · exact removePath_allRedacted rest (h ms rfl) hv
      · exact Json.obj.inj hv ▸ h ms rfl
  | _ =>
      -- a value that is no object is kept, or is an array and stays one
      rcases hf with rfl | rfl
      · rw [removePath_of_not_isObject] at hv
        · cases hv
        · rfl
      · cases hv

/-- Removing a path uncovers nothing in a payload. -/
theorem payloadRedacted_removePath (segments : List String) (h : PayloadRedacted v) :
    PayloadRedacted (removePath segments v) := by
  cases v with
  | obj ms =>
      cases segments with
      | nil => rwa [removePath_nil]
      | cons head rest =>
          rcases removePath_cases head rest ms with heq | ⟨key, heq⟩ | ⟨key, f, hf, heq⟩
          · rwa [heq]
          · rw [heq]
            rintro _ field values ⟨⟩ hfield hmem
            exact h ms field values rfl hfield (List.mem_of_mem_filter hmem)
          · rw [heq]
            rintro _ field values ⟨⟩ hfield hmem
            rcases (Keyed.mem_modify key f ms).mp hmem with ⟨-, hold⟩ | ⟨rfl, u, hold, hu⟩
            · exact h ms field values rfl hfield hold
            · refine allRedacted_of_step hf hu.symm fun inner hinner => ?_
              exact h ms field inner rfl hfield (hinner ▸ hold)
  | _ =>
      rw [removePath_of_not_isObject]
      · exact h
      · rfl

/-- Slimming uncovers nothing in a payload. -/
theorem payloadRedacted_slim (excluded : List String) (h : PayloadRedacted v) :
    PayloadRedacted (slim excluded v) := by
  rw [slim]
  induction excluded.filter fun path => !path.isEmpty generalizing v with
  | nil => exact h
  | cons path rest ih => exact ih (payloadRedacted_removePath _ h)

/-- The shaped form of a secret has nothing but the mask in its payload. -/
theorem payloadRedacted_shapeItem (hmask : config.maskSecrets = true) (h : isSecret v = true) :
    PayloadRedacted (shapeItem config v) := by
  have hmasked := payloadRedacted_maskSecrets h
  simp only [shapeItem, hmask, if_true]
  split
  · exact payloadRedacted_slim _ hmasked
  · exact hmasked

/-! ## Cutting the list -/

theorem keepFirst_sublist {α : Type*} (limit : ℕ) (warning : ℕ → ℕ → TruncationWarning)
    (items : List α) : (keepFirst limit warning items).1.Sublist items := by
  rw [keepFirst]
  split
  · exact List.Sublist.refl items
  · exact List.take_sublist limit items

theorem fitToBudget_sublist (budget total : ℕ) (items : List Json) :
    (fitToBudget budget total items).1.Sublist items := by
  simp only [fitToBudget]
  split
  · exact List.Sublist.refl items
  · exact List.take_sublist _ items

/-- Every item of a response is the shaped form of an item that went in. -/
theorem of_mem_processWithLimit {limit : ℤ} {items : List Json}
    (h : v ∈ (processWithLimit config limit items).items) :
    ∃ w ∈ items, v = shapeItem config.validated w := by
  have hcounted := (fitToBudget_sublist _ items.length _).subset h
  have hshaped := (keepFirst_sublist _ itemWarning _).subset hcounted
  obtain ⟨w, hw, rfl⟩ := List.mem_map.mp hshaped
  exact ⟨w, hw, rfl⟩

/-! ## The kind of a written object -/

/-- The kind that an object states is found in its written form, if its data has no such member. -/
theorem member?_kind_toJson {t : TypeMeta} (ht : o.types? = some t)
    (hdata : o.data.member? "kind" = none) : o.toJson.member? "kind" = some (.str t.kind) := by
  have hwritten (data : List (String × Json)) (h : Keyed.get? "kind" data = none) :
      (Json.ofMembers ([("apiVersion", .str t.apiVersion), ("kind", .str t.kind)] ++
        [("metadata", o.metadata.toJson)] ++ data)).member? "kind" = some (.str t.kind) := by
    have hlast : Keyed.get? "kind" data.reverse = none := by
      rw [Keyed.get?_eq_none_iff] at h ⊢
      simpa [Keyed.keys] using h
    rw [Json.ofMembers, Json.member?, Keyed.get?_ofPairs, List.reverse_append, Keyed.get?_append,
      hlast]
    rfl
  rw [Object.toJson, ht]
  cases hd : o.data with
  | obj ms => exact hwritten ms (by rwa [hd] at hdata)
  | _ => exact hwritten [] rfl

/-- An object of the kind `Secret`, in letters of any case, is a secret. -/
theorem isSecret_of_kind {kind : String} (h : v.member? "kind" = some (.str kind))
    (hkind : Text.eqIgnoringAsciiCase kind "Secret" = true) : isSecret v = true := by
  have htext : v.stringAt? ["kind"] = some kind := by
    simp [Json.stringAt?, Json.at?, h, Json.string?]
  have hfilled : kind.isEmpty = false := by
    rw [← Bool.not_eq_true, String.isEmpty_iff]
    rintro rfl
    revert hkind
    decide
  simp only [isSecret, htext, hfilled]
  exact hkind

/-! ## The listing -/

/-- Whatever a cluster keeps as a secret states no type or the kind `Secret`, in letters of any
case, and has no member `kind` in its data. -/
def SecretsOfKind (c : InMemoryCluster) : Prop :=
  ∀ key o, (key, o) ∈ c.objects → key.resource = ResourceType.secret.qualifiedName →
    (∀ t, o.types? = some t → Text.eqIgnoringAsciiCase t.kind "Secret" = true) ∧
      o.data.member? "kind" = none

variable {c : InMemoryCluster} {ns? : Option String} {options : ListOptions} {page : Page}

/-- What is kept as a secret is one in its written form once its type is stated. -/
theorem isSecret_stamp (htypes : ∀ t, o.types? = some t →
      Text.eqIgnoringAsciiCase t.kind "Secret" = true)
    (hdata : o.data.member? "kind" = none) : isSecret (ResourceType.secret.stamp o).toJson = true := by
  cases ht : o.types? with
  | none =>
      have hstamp : ResourceType.secret.stamp o =
          { o with types? := some ResourceType.secret.typeMeta } := by
        rw [ResourceType.stamp, ht]
        rfl
      rw [hstamp]
      exact isSecret_of_kind (member?_kind_toJson rfl hdata) (by decide)
  | some t =>
      have hstamp : ResourceType.secret.stamp o = o := by
        rw [ResourceType.stamp, ht]
        rfl
      rw [hstamp]
      exact isSecret_of_kind (member?_kind_toJson ht hdata) (htypes t ht)

/-- Every item of a listing of secrets is a secret in its written form. -/
theorem isSecret_of_listed (hc : SecretsOfKind c)
    (h : (InMemoryCluster.perform (.list .secret ns? options) c).1 = .ok page) (ho : o ∈ page.items) :
    isSecret o.toJson = true := by
  obtain ⟨key, stored, hmem, hresource, rfl⟩ := InMemoryCluster.of_listed h ho
  obtain ⟨htypes, hdata⟩ := hc key stored hmem hresource
  exact isSecret_stamp htypes hdata

/-- With masking on, whatever else is configured and whichever page of which listing of secrets is
asked for, of a cluster itself or through a client: nothing but the mask is left in the payload of
any item of the response. -/
theorem listed_secrets_redacted (config : OutputConfig) (hmask : config.maskSecrets = true)
    (ns? : Option String) (options : ListOptions) (limit : ℤ) :
    (∀ (c : InMemoryCluster) page, SecretsOfKind c →
      (InMemoryCluster.perform (.list .secret ns? options) c).1 = .ok page →
      ∀ v ∈ (processWithLimit config limit (page.items.map Object.toJson)).items,
        PayloadRedacted v) ∧
    ∀ (fleet : InMemoryFleet) (client : Client) page, SecretsOfKind (fleet.clusterOf client) →
      (InMemoryFleet.backend.call client (.list .secret ns? options) fleet).1 = .ok page →
      ∀ v ∈ (processWithLimit config limit (page.items.map Object.toJson)).items,
        PayloadRedacted v := by
  have hcluster (c : InMemoryCluster) (page : Page) (hc : SecretsOfKind c)
      (h : (InMemoryCluster.perform (.list .secret ns? options) c).1 = .ok page) :
      ∀ v ∈ (processWithLimit config limit (page.items.map Object.toJson)).items,
        PayloadRedacted v := by
    intro v hv
    obtain ⟨w, hw, rfl⟩ := of_mem_processWithLimit hv
    obtain ⟨o, ho, rfl⟩ := List.mem_map.mp hw
    exact payloadRedacted_shapeItem hmask (isSecret_of_listed hc h ho)
  exact ⟨hcluster, fun fleet client page => hcluster (fleet.clusterOf client) page⟩

/-- A secret as a listing returns it: without a kind, and here also without a `type`. -/
def untypedSecret : Object where
  metadata := { name? := some "db-creds", ns? := some "default" }
  data := .obj [("data", .obj [("password", .str "aHVudGVyMg==")])]

/-- A cluster that keeps that secret. -/
def untypedStore : InMemoryCluster where
  objects := [(⟨"secrets", "default", "db-creds"⟩, untypedSecret)]

/-- A client of the workload cluster `prod`. -/
def prodClient : Client :=
  .workload "prod" ⟨""⟩ { email := "jane@example.com", groups := [], extra := [] }

/-- The password of a secret without a `type` is masked in the listing of a workload cluster. -/
theorem untypedSecret_redacted :
    let fleet : InMemoryFleet := { workloads := [("prod", untypedStore)] }
    let page := InMemoryCluster.pageOf .secret {} [untypedSecret]
    let config := { OutputConfig.default with excludedFields := ["metadata.uid"] }
    let response := processWithLimit config 0 (page.items.map Object.toJson)
    config.maskSecrets = true ∧ SecretsOfKind (fleet.clusterOf prodClient) ∧
      (InMemoryFleet.backend.call prodClient (.list .secret (some "default") {}) fleet).1 =
        .ok page ∧
      response.items.map (Json.member? "data") = [some (.obj [("password", .str redacted)])] ∧
      ∀ v ∈ response.items, PayloadRedacted v := by
  have hkind : SecretsOfKind untypedStore := by
    rintro key o hmem -
    obtain ⟨-, rfl⟩ := Prod.mk.inj (List.mem_singleton.mp hmem)
    exact ⟨nofun, rfl⟩
  obtain ⟨-, hclient⟩ := listed_secrets_redacted
    { OutputConfig.default with excludedFields := ["metadata.uid"] } rfl (some "default") {} 0
  exact ⟨rfl, hkind, rfl, by decide +kernel,
    hclient { workloads := [("prod", untypedStore)] } prodClient _ hkind rfl⟩

end FleetGate.Shaping
