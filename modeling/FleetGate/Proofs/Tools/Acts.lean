import FleetGate.Proofs.Fleet.Calls
import FleetGate.Proofs.Tools.Listing

/-! # What a tool does

A tool works on the federation of the server by one call at most (`Tool.dispatch_makes`), and only
the permission check makes one that checks access. So whatever is done with a server, by tools or
without them, is a run of its federation (`Server.after_run`).
-/

namespace FleetGate

variable {σ α β : Type}

/-! ## Steps of a tool -/

namespace ToolM

/-- Work of a tool that leaves the server as it is. -/
def Still (x : ToolM σ α) : Prop := ∀ server, (x server).2 = server

theorem Still.pure (a : α) : (pure a : ToolM σ α).Still := fun _ => rfl

theorem Still.throw (e : ToolError) : (throw e : ToolM σ α).Still := fun _ => rfl

/-- What comes after such work finds the server as it was. -/
theorem Still.bind {P : Server σ → Prop} {x : ToolM σ α} {g : α → ToolM σ β} {server : Server σ}
    (hx : x.Still) (h : P server)
    (hg : ∀ a, x server = (.ok a, server) → P (g a server).2) : P ((x >>= g) server).2 := by
  have hsame := hx server
  rw [bind_apply]
  rcases hrun : x server with ⟨e | a, server'⟩
  · rw [hrun] at hsame
    rwa [show server' = server from hsame]
  · rw [hrun] at hsame
    obtain rfl : server' = server := hsame
    exact hg a hrun

/-- Where more is answered after such work, the work succeeded. -/
theorem Still.of_bind_ok {x : ToolM σ α} {g : α → ToolM σ β} {server : Server σ} {answer : β}
    (hx : x.Still) (h : ((x >>= g) server).1 = .ok answer) :
    ∃ a, x server = (.ok a, server) ∧ (x >>= g) server = g a server := by
  have hsame := hx server
  rw [bind_apply] at h ⊢
  rcases hrun : x server with ⟨e | a, server'⟩
  · rw [hrun] at h
    cases h
  · rw [hrun] at hsame
    obtain rfl : server' = server := hsame
    exact ⟨a, rfl, rfl⟩

theorem Still.arguments (decode : Json → Json.Decoded α) (args : Json) :
    (arguments decode args : ToolM σ α).Still := by
  rw [ToolM.arguments]
  split
  · exact .pure _
  · exact .throw _

theorem Still.required (text? : Option String) (otherwise : String) :
    (required text? otherwise : ToolM σ String).Still := by
  rw [ToolM.required]
  split
  · exact .pure _
  · exact .throw _

theorem Still.sender (r : Request) (absent : ToolError) :
    (sender r absent : ToolM σ RawIdentity).Still := by
  rw [ToolM.sender]
  split
  · exact .pure _
  · exact .throw _

theorem Still.federation (absent : ToolError) :
    (federation absent : ToolM σ (Federation σ)).Still := by
  intro server
  rw [federation_eq]

theorem sender_eq_ok {server : Server σ} {r : Request} {absent : ToolError} {raw : RawIdentity}
    (h : (sender r absent : ToolM σ RawIdentity) server = (.ok raw, server)) :
    r.identity? = some raw := by
  rw [sender] at h
  cases hraw : r.identity? with
  | some other =>
      rw [hraw] at h
      cases h
      rfl
  | none =>
      rw [hraw] at h
      cases h

theorem federation_eq_ok {server : Server σ} {absent : ToolError} {f : Federation σ}
    (h : (federation absent : ToolM σ (Federation σ)) server = (.ok f, server)) :
    server.federation? = some f := by
  rw [federation_eq] at h
  cases hf : server.federation? with
  | some other =>
      rw [hf] at h
      cases h
      rfl
  | none =>
      rw [hf] at h
      cases h

/-- Work on the federation that is followed by nothing but words leaves the server with the
federation as the work leaves it. -/
theorem onFederation_bind_still {inWords : FleetError → ToolError} {f : Federation σ}
    {work : FederationM σ α} {g : α → ToolM σ β} (hg : ∀ a, (g a).Still) (server : Server σ) :
    ((onFederation inWords f work >>= g) server).2
      = { server with federation? := some (work f).2 } := by
  rw [bind_apply, onFederation_apply]
  cases (work f).1 with
  | error e => rfl
  | ok a => exact hg a _

/-- Where such work gives an answer, the work on the federation succeeded. -/
theorem onFederation_bind_ok {inWords : FleetError → ToolError} {f : Federation σ}
    {work : FederationM σ α} {g : α → β} {server : Server σ} {answer : β}
    (h : ((onFederation inWords f work >>= fun a => pure (g a)) server).1 = .ok answer) :
    ∃ a, (work f).1 = .ok a ∧ answer = g a := by
  rw [bind_apply, onFederation_apply] at h
  cases hwork : (work f).1 with
  | error e =>
      rw [hwork] at h
      cases h
  | ok a =>
      rw [hwork] at h
      cases h
      exact ⟨a, rfl, rfl⟩

end ToolM

/-! ## Tools -/

/-- The sender of a request makes a call of some kind through a server, or nothing is done. -/
inductive Server.Makes (b : Backend σ) (r : Request) (kind : Option AccessCheck → Prop)
    (server : Server σ) : Server σ → Prop
  | nothing : Server.Makes b r kind server server
  | call {f : Federation σ} {α : Type} (call : FederationCall α)
      (hserver : server.federation? = some f) (hkind : kind call.check?) :
      Server.Makes b r kind server
        { server with federation? := some (call.make b r.identity? f).2 }

section
variable {b : Backend σ} {r : Request} {kind kind' : Option AccessCheck → Prop}
  {server : Server σ}

open ToolM

theorem Server.Makes.imp {server' : Server σ} (h : server.Makes b r kind server')
    (hkind : ∀ check?, kind check? → kind' check?) : server.Makes b r kind' server' := by
  cases h with
  | nothing => exact .nothing
  | call call hserver h => exact .call call hserver (hkind _ h)

/-- A tool that has the federation and the sender makes a call. -/
theorem Server.Makes.of_onFederation {inWords : FleetError → ToolError} {raw : RawIdentity}
    {f : Federation σ} {work : FederationM σ α} {g : α → ToolM σ β} (call : FederationCall α)
    (hwork : work = call.make b (some raw)) (hserver : server.federation? = some f)
    (hraw : r.identity? = some raw) (hkind : kind call.check?) (hg : ∀ a, (g a).Still) :
    server.Makes b r kind ((onFederation inWords f work >>= g) server).2 := by
  rw [onFederation_bind_still hg, hwork, ← hraw]
  exact .call call hserver hkind

theorem CanI.invoke_makes (b : Backend σ) (r : Request) (args : Json) (server : Server σ) :
    server.Makes b r (fun _ => True) (invoke b r args server).2 := by
  refine (Still.arguments Args.ofJson args).bind .nothing fun args _ => ?_
  refine (Still.required args.verb? _).bind .nothing fun verb _ => ?_
  refine (Still.required args.resource? _).bind .nothing fun resource _ => ?_
  refine (Still.federation _).bind .nothing fun f hf => ?_
  refine (Still.sender r _).bind .nothing fun raw hraw => ?_
  let check : AccessCheck := {
    verb, resource
    apiGroup := args.apiGroup?.getD ""
    ns := args.ns?.getD ""
    name := args.name?.getD ""
    subresource := args.subresource?.getD "" }
  exact .of_onFederation (.checkAccess (args.cluster?.getD "") check) rfl (federation_eq_ok hf)
    (sender_eq_ok hraw) trivial fun verdict => .pure _

/-- The permission check answers with the verdict of a check of access that it made for the sender. -/
theorem CanI.invoke_of_ok {args : Json} {answered : Json}
    (h : (invoke b r args server).1 = .ok answered) :
    ∃ f raw cluster check verdict, server.federation? = some f ∧ r.identity? = some raw ∧
      (Federation.checkAccess b cluster (some raw) check f).1 = .ok verdict ∧
      (invoke b r args server).2
        = { server with federation? := some (Federation.checkAccess b cluster (some raw) check f).2 } ∧
      answered = answer raw.email cluster check verdict := by
  obtain ⟨args, -, heq⟩ := (Still.arguments Args.ofJson args).of_bind_ok h
  rw [invoke, heq] at h ⊢
  obtain ⟨verb, -, heq⟩ := (Still.required args.verb? _).of_bind_ok h
  rw [heq] at h ⊢
  obtain ⟨resource, -, heq⟩ := (Still.required args.resource? _).of_bind_ok h
  rw [heq] at h ⊢
  obtain ⟨f, hf, heq⟩ := (Still.federation _).of_bind_ok h
  rw [heq] at h ⊢
  obtain ⟨raw, hraw, heq⟩ := (Still.sender r _).of_bind_ok h
  rw [heq] at h ⊢
  obtain ⟨verdict, hverdict, rfl⟩ := onFederation_bind_ok h
  exact ⟨f, raw, _, _, verdict, federation_eq_ok hf, sender_eq_ok hraw, hverdict,
    onFederation_bind_still (fun _ => .pure _) server, rfl⟩

namespace ClusterTool

/-- What comes after the federation and the sender are there finds both, on the server as it was. -/
theorem ready_bind {P : Server σ → Prop} {g : Federation σ × RawIdentity → ToolM σ β} (h : P server)
    (hg : ∀ f raw, server.federation? = some f → r.identity? = some raw →
      P (g (f, raw) server).2) : P ((ready r >>= g) server).2 := by
  rw [ready, bind_assoc]
  refine (Still.federation notAvailable).bind h fun f hf => ?_
  rw [bind_assoc]
  refine (Still.sender r authenticationRequired).bind h fun raw hraw => ?_
  rw [pure_bind]
  exact hg f raw (federation_eq_ok hf) (sender_eq_ok hraw)

theorem list_makes (b : Backend σ) (r : Request) (args : Json) (server : Server σ) :
    server.Makes b r (· = none) (list b r args server).2 := by
  refine ready_bind .nothing fun f raw hf hraw => ?_
  refine (Still.arguments ListArgs.ofJson args).bind .nothing fun args _ => ?_
  exact .of_onFederation (.clusters args.filter) rfl hf hraw rfl fun found => .pure _

theorem resolve_makes (b : Backend σ) (r : Request) (args : Json) (server : Server σ) :
    server.Makes b r (· = none) (resolve b r args server).2 := by
  refine ready_bind .nothing fun f raw hf hraw => ?_
  refine (Still.arguments _ args).bind .nothing fun pattern? _ => ?_
  refine (Still.required pattern? _).bind .nothing fun pattern _ => ?_
  exact .of_onFederation (.clusters {}) rfl hf hraw rfl fun found => .pure _

theorem get_makes (b : Backend σ) (r : Request) (args : Json) (server : Server σ) :
    server.Makes b r (· = none) (get b r args server).2 := by
  refine ready_bind .nothing fun f raw hf hraw => ?_
  refine (Still.arguments _ args).bind .nothing fun name? _ => ?_
  refine (Still.required name? _).bind .nothing fun name _ => ?_
  exact .of_onFederation (.summary name) rfl hf hraw rfl fun found _ => rfl

theorem health_makes (b : Backend σ) (r : Request) (args : Json) (server : Server σ) :
    server.Makes b r (· = none) (health b r args server).2 := by
  refine ready_bind .nothing fun f raw hf hraw => ?_
  refine (Still.arguments _ args).bind .nothing fun name? _ => ?_
  refine (Still.required name? _).bind .nothing fun name _ => ?_
  exact .of_onFederation (.summary name) rfl hf hraw rfl fun found => .pure _

end ClusterTool

/-- Of the tools only the permission check makes a call that checks access. -/
theorem Tool.invoke_makes (b : Backend σ) (tool : Tool) (r : Request) (args : Json)
    (server : Server σ) :
    server.Makes b r (fun check? => tool ≠ .canI → check? = none)
      (tool.invoke b r args server).2 := by
  cases tool with
  | canI => exact (CanI.invoke_makes b r args server).imp fun _ _ hne => absurd rfl hne
  | clusterHealth => exact (ClusterTool.health_makes b r args server).imp fun _ h _ => h
  | getCluster => exact (ClusterTool.get_makes b r args server).imp fun _ h _ => h
  | listClusters => exact (ClusterTool.list_makes b r args server).imp fun _ h _ => h
  | resolveCluster => exact (ClusterTool.resolve_makes b r args server).imp fun _ h _ => h

/-- A request for a tool makes one call or none, and one that checks access only if the permission
check is asked for. -/
theorem Tool.dispatch_makes (b : Backend σ) (name : String) (args : Json) (r : Request)
    (server : Server σ) :
    server.Makes b r (fun check? => name ≠ "can_i" → check? = none)
      (Tool.dispatch b name args r server).2 := by
  rw [Tool.dispatch]
  cases htool : Tool.ofName? name with
  | none => exact .nothing
  | some tool =>
      dsimp only
      split
      · exact .nothing
      · refine (tool.invoke_makes b r args server).imp fun check? h hname => h ?_
        rintro rfl
        have hnamed : Tool.name .canI = name := by simpa using List.find?_some htool
        exact hname hnamed.symm

/-- The permission check as it is asked for by its name: an answer that is no error is written from
the verdict of a check of access that was made for the sender. -/
theorem Tool.canI_of_isError {args : Json}
    (h : (Tool.dispatch b "can_i" args r server).1.isError = false) :
    ∃ f raw cluster check verdict, server.federation? = some f ∧ r.identity? = some raw ∧
      (Federation.checkAccess b cluster (some raw) check f).1 = .ok verdict ∧
      (Tool.dispatch b "can_i" args r server).2
        = { server with federation? := some (Federation.checkAccess b cluster (some raw) check f).2 } ∧
      (Tool.dispatch b "can_i" args r server).1.text
        = (CanI.answer raw.email cluster check verdict).pretty := by
  have hname : Tool.ofName? "can_i" = some .canI := rfl
  rw [Tool.dispatch, hname] at h ⊢
  dsimp only at h ⊢
  split at h
  · cases h
  · rename_i halive
    rw [if_neg halive]
    change (ToolResult.of (CanI.invoke b r args server).1).isError = false at h
    cases hanswer : (CanI.invoke b r args server).1 with
    | error e =>
        rw [hanswer] at h
        cases h
    | ok answered =>
        obtain ⟨f, raw, cluster, check, verdict, hf, hraw, hverdict, hafter, rfl⟩ :=
          CanI.invoke_of_ok hanswer
        refine ⟨f, raw, cluster, check, verdict, hf, hraw, hverdict, hafter, ?_⟩
        change (ToolResult.of (CanI.invoke b r args server).1).text = _
        rw [hanswer]
        rfl

end

/-! ## Acts -/

/-- Something done with a server: a request for a tool, or something else done with the federation
that it works on. -/
inductive ServerAct (σ : Type) where
  | tool (name : String) (args : Json) (r : Request)
  | other (a : FederationAct σ)

namespace Server

/-- One act. -/
def act (b : Backend σ) (server : Server σ) : ServerAct σ → Server σ
  | .tool name args r => (Tool.dispatch b name args r server).2
  | .other a => { server with federation? := server.federation?.map fun f => f.act b a }

/-- The server after acts in order. -/
def after (b : Backend σ) (server : Server σ) (acts : List (ServerAct σ)) : Server σ :=
  acts.foldl (act b) server

/-- An act on a server does something to its federation, or nothing. -/
theorem act_federation {b : Backend σ} {server : Server σ} {f : Federation σ}
    (h : server.federation? = some f) (a : ServerAct σ) :
    ∃ events, (server.act b a).federation? = some (f.run b events) := by
  cases a with
  | tool name args r =>
      rw [act]
      generalize hmakes : (Tool.dispatch b name args r server).2 = server'
      have hcalled := Tool.dispatch_makes b name args r server
      rw [hmakes] at hcalled
      cases hcalled with
      | nothing => exact ⟨[], h⟩
      | call call hserver _ =>
          cases h.symm.trans hserver
          obtain ⟨events, hrun⟩ := Federation.act_run (b := b) f (.call call r.identity?)
          exact ⟨events, congrArg some hrun⟩
  | other a =>
      obtain ⟨events, hrun⟩ := Federation.act_run b f a
      exact ⟨events, by rw [act, h, Option.map_some, hrun]⟩

/-- Whatever is done with a server, it is a run of its federation. -/
theorem after_run {b : Backend σ} {server : Server σ} {f : Federation σ}
    (h : server.federation? = some f) (acts : List (ServerAct σ)) :
    ∃ events, (server.after b acts).federation? = some (f.run b events) := by
  induction acts generalizing server f with
  | nil => exact ⟨[], h⟩
  | cons a rest ih =>
      obtain ⟨first, hfirst⟩ := act_federation (b := b) h a
      obtain ⟨others, hothers⟩ := ih hfirst
      exact ⟨first ++ others, by rw [Federation.run_append]; exact hothers⟩

end Server

end FleetGate
