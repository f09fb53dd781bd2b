import FleetGate.Proofs.Cluster.Paging
import FleetGate.Proofs.Json.MergePatch

/-! # Patching an object that is kept

A patch changes the data of an object and nothing else of it. The data become what the patch is to
make of them where each `null` of the patch meets an object, and after the same patch once more
wherever the nulls stand (`patch_merges_iff`).
-/

namespace FleetGate

namespace InMemoryCluster

open Json

variable {c : InMemoryCluster} {resource : ResourceType} {ns? : Option String} {name : String}
  {o : Object} {body : Json}

theorem find?_store (c : InMemoryCluster) (key : ObjectKey) (o : Object) :
    (c.store key o).find? key = some o := by
  rw [find?_store_eq, if_pos rfl]

/-- A patch of an object that is kept gives the object with other data, and keeps it so. -/
theorem perform_patch (hnext : c.nextFailures = [])
    (hplanned : Keyed.get? "patch" c.failures = none)
    (hkept : c.find? (keyOf resource ns? name) = some o) (kind : PatchKind) (body : Json) :
    perform (.patch resource ns? name kind body) c =
      (.ok { o with data := o.data.mergePatch body },
        (c.counted "patch").store (keyOf resource ns? name)
          { o with data := o.data.mergePatch body }) := by
  have hrecord : c.record (ClusterCall.patch resource ns? name kind body).method
      = (none, c.counted "patch") := by
    simp only [record, hnext, hplanned, ClusterCall.method, InMemoryCluster.counted]
  have hfind : (c.counted "patch").find? (keyOf resource ns? name) = some o := hkept
  rw [perform, hrecord]
  simp only [answer, patchData, hfind]

/-- A patch of an object that is kept succeeds, and so does the same patch after it. The first makes
of the data what the patch is to make of them exactly if each `null` of the patch meets an object;
the second always does, and so it changes something exactly if some `null` met none. -/
theorem patch_merges_iff (hnext : c.nextFailures = [])
    (hplanned : Keyed.get? "patch" c.failures = none)
    (hkept : c.find? (keyOf resource ns? name) = some o) (hdata : o.data.MembersOrdered)
    (hbody : body.MembersOrdered) (kind : PatchKind) :
    ∃ once twice c₁ c₂,
      perform (.patch resource ns? name kind body) c = (.ok { o with data := once }, c₁) ∧
      c₁.find? (keyOf resource ns? name) = some { o with data := once } ∧
      perform (.patch resource ns? name kind body) c₁ = (.ok { o with data := twice }, c₂) ∧
      c₂.find? (keyOf resource ns? name) = some { o with data := twice } ∧
      once.MembersOrdered ∧
      (Merges o.data body once ↔ NullsMeetObjects o.data body) ∧
      Merges o.data body twice ∧
      (twice = once ↔ NullsMeetObjects o.data body) := by
  have hfirst := perform_patch hnext hplanned hkept kind body
  have hsecond := perform_patch (c := (c.counted "patch").store (keyOf resource ns? name)
    { o with data := o.data.mergePatch body }) hnext hplanned (find?_store _ _ _) kind body
  exact ⟨_, _, _, _, hfirst, find?_store _ _ _, hsecond, find?_store _ _ _,
    hdata.mergePatch hbody, merges_mergePatch_iff hdata hbody,
    merges_mergePatch_mergePatch hdata hbody, mergePatch_mergePatch_eq_iff hdata hbody⟩

/-! ### A template that is not there yet -/

/-- Deployments. -/
def deployments : ResourceType := ⟨"apps", "v1", "Deployment", "deployments", true⟩

/-- A deployment that states no template. -/
def bareDeployment : Object where
  types? := some deployments.typeMeta
  metadata := { name? := some "api", ns? := some "dev" }
  data := .obj [("spec", .obj [("replicas", .int 1)])]

/-- A patch that says how many replicas there are and takes the node out of the template. -/
def templatePatch : Json :=
  .obj [("spec", .obj [("replicas", .int 3), ("template", .obj [("nodeName", .null)])])]

/-- A cluster with one deployment. -/
def oneDeployment : InMemoryCluster := ({} : InMemoryCluster).insert deployments bareDeployment

theorem oneDeployment_keeps :
    oneDeployment.find? (keyOf deployments (some "dev") "api") = some bareDeployment := by
  decide

/-- The template has no object for the `null` of the patch to meet. -/
theorem templatePatch_meets_nothing : ¬ NullsMeetObjects bareDeployment.data templatePatch :=
  fun h => absurd (h ["spec", "template"] "nodeName" rfl) (by decide)

theorem membersOrdered_template :
    bareDeployment.data.MembersOrdered ∧ templatePatch.MembersOrdered := by
  have hleaf {v : Json} (h : v.isObject = false) : v.MembersOrdered :=
    membersOrdered_of_not_isObject h
  simp only [bareDeployment, templatePatch, membersOrdered_obj_iff, List.forall_mem_cons]
  exact ⟨⟨by decide, ⟨by decide, hleaf rfl, nofun⟩, nofun⟩,
    ⟨by decide, ⟨by decide, hleaf rfl, ⟨by decide, hleaf rfl, nofun⟩, nofun⟩, nofun⟩⟩

/-- A `null` of a patch is left in the member that the patch adds, and goes when the same patch is
made again: the first patch does not make of the data what it is to make of them, and the second
changes something. -/
theorem null_left_in_new_member :
    ∃ once c₁,
      perform (.patch deployments (some "dev") "api" .merge templatePatch) oneDeployment
        = (.ok once, c₁) ∧
      once.data.at? ["spec", "template", "nodeName"] = some .null ∧
      ¬ Merges bareDeployment.data templatePatch once.data ∧
      ∃ twice,
        (perform (.patch deployments (some "dev") "api" .merge templatePatch) c₁).1 = .ok twice ∧
        twice.data ≠ once.data := by
  obtain ⟨hdata, hbody⟩ := membersOrdered_template
  have hfirst := perform_patch rfl rfl oneDeployment_keeps .merge templatePatch
  refine ⟨_, _, hfirst, by decide, ?_, _, congrArg Prod.fst (perform_patch rfl rfl
    (find?_store _ _ _) .merge templatePatch), ?_⟩
  · exact mt (merges_mergePatch_iff hdata hbody).mp templatePatch_meets_nothing
  · exact mt (mergePatch_mergePatch_eq_iff hdata hbody).mp templatePatch_meets_nothing

/-- The same patch twice: what the first leaves undone the second does. -/
theorem template_patched_twice :
    ∃ once twice c₁ c₂,
      perform (.patch deployments (some "dev") "api" .merge templatePatch) oneDeployment
        = (.ok { bareDeployment with data := once }, c₁) ∧
      perform (.patch deployments (some "dev") "api" .merge templatePatch) c₁
        = (.ok { bareDeployment with data := twice }, c₂) ∧
      ¬ Merges bareDeployment.data templatePatch once ∧
      Merges bareDeployment.data templatePatch twice ∧ twice ≠ once := by
  obtain ⟨hdata, hbody⟩ := membersOrdered_template
  obtain ⟨once, twice, c₁, c₂, hfirst, -, hsecond, -, -, honce, htwice, hsame⟩ :=
    patch_merges_iff rfl rfl oneDeployment_keeps hdata hbody .merge
  exact ⟨once, twice, c₁, c₂, hfirst, hsecond, mt honce.mp templatePatch_meets_nothing, htwice,
    mt hsame.mp templatePatch_meets_nothing⟩

end InMemoryCluster

end FleetGate
