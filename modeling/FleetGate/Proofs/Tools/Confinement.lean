import FleetGate.Fleet.InMemory
import FleetGate.Proofs.Fleet.Detail
import FleetGate.Tools.Dispatch

/-! # No detail of a failure leaves the tools

What a cluster says of a failure ends in the logs. Of two servers that differ in nothing but such
details every tool gives the same result, whatever is asked of it, and they go on to differ in
nothing but details (`Tool.results_free_of_detail`).
-/

namespace FleetGate

variable {σ₁ σ₂ α α₁ α₂ β : Type} {R : σ₁ → σ₂ → Prop} {b₁ : Backend σ₁} {b₂ : Backend σ₂}

/-- Two servers that differ in details of failures only, over related states. -/
structure Server.Alike (R : σ₁ → σ₂ → Prop) (s₁ : Server σ₁) (s₂ : Server σ₂) : Prop where
  federations : Option.Rel (Federation.Alike R) s₁.federation? s₂.federation?
  sameOutput : s₁.output = s₂.output

/-! ## Words for the caller -/

theorem CanI.inWords_withoutDetail (e : FleetError) : inWords e.withoutDetail = inWords e := by
  rw [inWords, inWords, e.isValidation_withoutDetail, e.userFacing_withoutDetail]

theorem ClusterTool.inWords_withoutDetail (operation : String) (e : FleetError) :
    inWords operation e.withoutDetail = inWords operation e := by
  cases e <;> rfl

/-! ## Steps of a tool -/

namespace ToolM

/-- Two pieces of work of a tool that come to the same, in the same words if they fail. -/
abbrev Serves (R : σ₁ → σ₂ → Prop) (S : α₁ → α₂ → Prop) (x₁ : ToolM σ₁ α₁) (x₂ : ToolM σ₂ α₂) :
    Prop :=
  Parallel (Server.Alike R) Eq S x₁ x₂

theorem federation_serves (absent : ToolError) :
    Serves R (Federation.Alike R) (federation absent) (federation absent) := by
  rintro ⟨f₁?, output₁⟩ ⟨f₂?, output₂⟩ h
  cases h.federations with
  | none => exact ⟨.error rfl, h⟩
  | some hf => exact ⟨.ok hf, h⟩

theorem sender_serves (r : Request) (absent : ToolError) :
    Serves R Eq (sender r absent) (sender r absent) := by
  rw [sender, sender]
  cases r.identity? with
  | none => exact .throw rfl
  | some raw => exact .pure rfl

theorem arguments_serves (decode : Json → Json.Decoded α) (args : Json) :
    Serves R Eq (arguments decode args) (arguments decode args) := by
  rw [arguments, arguments]
  split
  · exact .pure rfl
  · exact .throw rfl

theorem required_serves (text? : Option String) (otherwise : String) :
    Serves R Eq (required text? otherwise) (required text? otherwise) := by
  rw [required, required]
  split
  · exact .pure rfl
  · exact .throw rfl

/-- Work on the federation gives its outcome in words for the caller, and leaves the federation as
the work does. -/
theorem onFederation_apply (inWords : FleetError → ToolError) (f : Federation σ₁)
    (work : FederationM σ₁ α) (s : Server σ₁) :
    onFederation inWords f work s
      = ((work f).1.mapError inWords, { s with federation? := some (work f).2 }) := by
  rcases h : work f with ⟨_ | a, f'⟩
  all_goals
    simp only [onFederation, ExceptT.run, h]
    rfl

/-- Work on alike federations ends in the same words if the words do without details. -/
theorem onFederation_serves {inWords : FleetError → ToolError}
    (hwords : ∀ e, inWords e.withoutDetail = inWords e) {S : α₁ → α₂ → Prop}
    {f₁ : Federation σ₁} {f₂ : Federation σ₂} (hf : f₁.Alike R f₂) {work₁ : FederationM σ₁ α₁}
    {work₂ : FederationM σ₂ α₂} (hwork : Federation.Works R S work₁ work₂) :
    Serves R S (onFederation inWords f₁ work₁) (onFederation inWords f₂ work₂) := by
  intro s₁ s₂ h
  obtain ⟨houtcome, hafter⟩ := hwork f₁ f₂ hf
  rw [onFederation_apply, onFederation_apply]
  refine ⟨?_, .some hafter, h.sameOutput⟩
  generalize (work₁ f₁).1 = o₁ at houtcome ⊢
  generalize (work₂ f₂).1 = o₂ at houtcome ⊢
  cases houtcome with
  | ok h => exact .ok h
  | @error e₁ e₂ h =>
      have hsame : inWords e₁ = inWords e₂ := by rw [← hwords e₁, h, hwords]
      exact .error hsame

/-- The state of a server is alike wherever it is read. -/
theorem get_serves :
    Serves R (Server.Alike R) (get : ToolM σ₁ (Server σ₁)) (get : ToolM σ₂ (Server σ₂)) :=
  fun _ _ h => ⟨.ok h, h⟩

end ToolM

open ToolM

/-! ## The tools -/

/-- A permission check comes to the same if checks of access give verdicts of which the same answer
is written. -/
theorem CanI.invoke_serves_of {S : AccessVerdict → AccessVerdict → Prop}
    (hcheck : ∀ cluster identity? check, Federation.Works R S
      (Federation.checkAccess b₁ cluster identity? check)
      (Federation.checkAccess b₂ cluster identity? check))
    (hanswer : ∀ v₁ v₂, S v₁ v₂ → ∀ user cluster check,
      answer user cluster check v₁ = answer user cluster check v₂) (r : Request) (args : Json) :
    Serves R Eq (invoke b₁ r args) (invoke b₂ r args) := by
  refine (arguments_serves Args.ofJson args).bind_eq fun args => ?_
  refine (required_serves args.verb? _).bind_eq fun verb => ?_
  refine (required_serves args.resource? _).bind_eq fun resource => ?_
  refine (federation_serves _).bind fun f₁ f₂ hf => ?_
  refine (sender_serves r _).bind_eq fun raw => ?_
  refine (onFederation_serves inWords_withoutDetail hf (hcheck _ _ _)).bind fun v₁ v₂ hv => ?_
  exact .pure (hanswer v₁ v₂ hv _ _ _)

section
variable (hb : b₁.Alike R b₂)
include hb

theorem CanI.invoke_serves (r : Request) (args : Json) :
    Serves R Eq (invoke b₁ r args) (invoke b₂ r args) := by
  refine invoke_serves_of (S := Eq) (Federation.checkAccess_works hb) ?_ r args
  rintro verdict _ rfl user cluster check
  rfl

namespace ClusterTool

omit hb in
theorem ready_serves (r : Request) :
    Serves R (fun p₁ p₂ => p₁.1.Alike R p₂.1 ∧ p₁.2 = p₂.2) (ready r) (ready r) := by
  refine (federation_serves _).bind fun f₁ f₂ hf => ?_
  refine (sender_serves r _).bind fun raw₁ raw₂ hraw => ?_
  exact .pure ⟨hf, hraw⟩

theorem list_serves (r : Request) (args : Json) :
    Serves R Eq (list b₁ r args) (list b₂ r args) := by
  refine (ready_serves r).bind fun ⟨f₁, raw⟩ ⟨f₂, _⟩ ⟨hf, hraw⟩ => ?_
  subst hraw
  refine (arguments_serves ListArgs.ofJson args).bind_eq fun args => ?_
  refine (onFederation_serves (inWords_withoutDetail _) hf
    (Federation.clusters_works hb.reads _ _)).bind_eq fun found => ?_
  exact .pure rfl

theorem get_serves (r : Request) (args : Json) :
    Serves R Eq (get b₁ r args) (get b₂ r args) := by
  refine (ready_serves r).bind fun ⟨f₁, raw⟩ ⟨f₂, _⟩ ⟨hf, hraw⟩ => ?_
  subst hraw
  refine (arguments_serves _ args).bind_eq fun name? => ?_
  refine (required_serves name? _).bind_eq fun name => ?_
  refine (onFederation_serves (inWords_withoutDetail _) hf
    (Federation.cluster_works hb.reads _ _)).bind_eq fun found => ?_
  refine ToolM.get_serves.bind fun s₁ s₂ h => ?_
  rw [h.sameOutput]
  exact .pure rfl

theorem resolve_serves (r : Request) (args : Json) :
    Serves R Eq (resolve b₁ r args) (resolve b₂ r args) := by
  refine (ready_serves r).bind fun ⟨f₁, raw⟩ ⟨f₂, _⟩ ⟨hf, hraw⟩ => ?_
  subst hraw
  refine (arguments_serves _ args).bind_eq fun pattern? => ?_
  refine (required_serves pattern? _).bind_eq fun pattern => ?_
  refine (onFederation_serves (inWords_withoutDetail _) hf
    (Federation.clusters_works hb.reads _ _)).bind_eq fun found => ?_
  exact .pure rfl

theorem health_serves (r : Request) (args : Json) :
    Serves R Eq (health b₁ r args) (health b₂ r args) := by
  refine (ready_serves r).bind fun ⟨f₁, raw⟩ ⟨f₂, _⟩ ⟨hf, hraw⟩ => ?_
  subst hraw
  refine (arguments_serves _ args).bind_eq fun name? => ?_
  refine (required_serves name? _).bind_eq fun name => ?_
  refine (onFederation_serves (inWords_withoutDetail _) hf
    (Federation.cluster_works hb.reads _ _)).bind_eq fun found => ?_
  exact .pure rfl

end ClusterTool

theorem Tool.invoke_serves (tool : Tool) (r : Request) (args : Json) :
    Serves R Eq (tool.invoke b₁ r args) (tool.invoke b₂ r args) := by
  cases tool with
  | canI => exact CanI.invoke_serves hb r args
  | clusterHealth => exact ClusterTool.health_serves hb r args
  | getCluster => exact ClusterTool.get_serves hb r args
  | listClusters => exact ClusterTool.list_serves hb r args
  | resolveCluster => exact ClusterTool.resolve_serves hb r args

end

/-! ## Calls of tools -/

/-- A backend whose failures are worded otherwise. -/
def Backend.reworded (b : Backend σ₁) (reword : ClusterError → ClusterError) : Backend σ₁ :=
  { b with
    endBuild := fun client s => ((b.endBuild client s).1.mapError reword, (b.endBuild client s).2)
    call := fun client c s => ((b.call client c s).1.mapError reword, (b.call client c s).2) }

/-- Other words make no difference but in details. -/
theorem Backend.alike_reworded (b : Backend σ₁) {reword : ClusterError → ClusterError}
    (h : ∀ e, (reword e).SameClass e) : b.Alike Eq (b.reworded reword) := by
  have houtcome {α : Type} (outcome : Except ClusterError α) :
      Agree ClusterError.SameClass Eq outcome (outcome.mapError reword) := by
    cases outcome with
    | error e => exact .error (h e).symm
    | ok a => exact .ok rfl
  constructor
  case startBuild => rintro client s _ rfl; exact ⟨rfl, rfl⟩
  case endBuild => rintro client s _ rfl; exact ⟨houtcome _, rfl⟩
  case hasService => rintro s _ rfl; rfl
  case call => rintro α client c s _ rfl; exact ⟨houtcome _, rfl⟩
  case pageBound => rintro client s _ rfl; rfl

namespace Tool

/-- Whatever tool is called, by whomever and with whatever arguments, and in whatever state the
server is: over two backends that do the same but for the details of their failures it gives the
same result, to the letter, and leaves the servers alike. -/
theorem results_free_of_detail (hb : b₁.Alike R b₂) {server₁ : Server σ₁} {server₂ : Server σ₂}
    (hs : Server.Alike R server₁ server₂) (name : String) (args : Json) (r : Request) :
    (dispatch b₁ name args r server₁).1 = (dispatch b₂ name args r server₂).1 ∧
      Server.Alike R (dispatch b₁ name args r server₁).2 (dispatch b₂ name args r server₂).2 := by
  rw [dispatch, dispatch]
  cases ofName? name with
  | none => exact ⟨rfl, hs⟩
  | some tool =>
      dsimp only
      split
      · exact ⟨rfl, hs⟩
      · obtain ⟨houtcome, hafter⟩ := tool.invoke_serves hb r args server₁ server₂ hs
        exact ⟨congrArg ToolResult.of houtcome.eq, hafter⟩

/-- A management cluster that turns its callers down with an address and a group in its words, and
one that says nothing. -/
theorem refusal_free_of_detail :
    let fleet : InMemoryFleet := {
      managementFailure? := some (.forbidden "10.0.0.7:6443: not in group platform-admins") }
    let server : Server InMemoryFleet := { federation? := some (.start .user {} fleet) }
    let silent := InMemoryFleet.backend.reworded ClusterError.withoutDetail
    let jane : Request := {
      identity? := some { email := "jane@example.com" }, now := ⟨0, 0⟩ }
    let result : ToolResult := ⟨true, "failed to list clusters: an unexpected error occurred"⟩
    Backend.Alike Eq InMemoryFleet.backend silent ∧ Server.Alike Eq server server ∧
      (dispatch InMemoryFleet.backend "capi_list_clusters" .null jane server).1 = result ∧
      (dispatch silent "capi_list_clusters" .null jane server).1 = result := by
  intro fleet server silent jane result
  have hb : Backend.Alike Eq InMemoryFleet.backend silent :=
    InMemoryFleet.backend.alike_reworded fun e => by cases e <;> rfl
  have hs : Server.Alike Eq server server := ⟨.some ⟨rfl, rfl, rfl⟩, rfl⟩
  have hresult : (dispatch InMemoryFleet.backend "capi_list_clusters" .null jane server).1
      = result := by decide +kernel
  exact ⟨hb, hs, hresult, (results_free_of_detail hb hs _ _ _).1.symm.trans hresult⟩

end Tool

end FleetGate
