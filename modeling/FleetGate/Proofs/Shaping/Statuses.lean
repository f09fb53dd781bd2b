import FleetGate.Shaping.Status
import Mathlib.Logic.Basic
import Mathlib.Tactic.SplitIfs

/-! # How items are labelled

The label of a status says how an item is doing, by the rule of its kind (`Labelled`): a pod by its
phase, a workload by its replicas, a node by its condition of readiness, a job by its conditions
before its counts, and everything else by its phase. There is one label for every item, and the
label that is computed is this one (`statusLabel_eq_iff`).
-/

namespace FleetGate.Shaping

/-! ## The rules -/

/-- The kind of an item in lower case, empty if it states none. -/
def lowerKind (v : Json) : String := Text.lowercase ((v.stringAt? ["kind"]).getD "")

/-- The kinds of workloads with replicas. -/
def workloadKinds : List String := ["deployment", "replicaset", "statefulset", "daemonset"]

/-- The status of an item states a phase, and not the empty one. -/
def InPhase (phase : String) (v : Json) : Prop := phase? v = some phase ∧ phase ≠ ""

/-- The first condition of a type that an item reports is `True`. -/
def Affirms (type : String) (v : Json) : Prop := conditionStatus? type v = some "True"

/-- How a workload is doing that wants a number of replicas, by how many of them are ready and how
many available. -/
inductive ReplicaLabel (wanted ready available : Int) : String → Prop
  | scaledToZero (hwanted : wanted = 0) : ReplicaLabel wanted ready available "Scaled to Zero"
  | ready (hwanted : wanted ≠ 0) (full : wanted ≤ min ready available) :
      ReplicaLabel wanted ready available "Ready"
  | partiallyReady (hwanted : wanted ≠ 0) (short : min ready available < wanted)
      (hready : 0 < ready) : ReplicaLabel wanted ready available "Partially Ready"
  | notReady (hwanted : wanted ≠ 0) (short : min ready available < wanted)
      (hready : ready ≤ 0) : ReplicaLabel wanted ready available "Not Ready"

/-- How a node is doing, by the status of its condition of readiness. -/
inductive NodeLabel (v : Json) : String → Prop
  | ready (affirmed : Affirms "Ready" v) : NodeLabel v "Ready"
  | notReady (reported : (conditionStatus? "Ready" v).isSome = true)
      (denied : ¬ Affirms "Ready" v) : NodeLabel v "NotReady"
  | unknown (unreported : conditionStatus? "Ready" v = none) : NodeLabel v "Unknown"

/-- How a job is doing: by its conditions, and by its counts only where these affirm nothing. -/
inductive JobLabel (v : Json) : String → Prop
  | complete (affirmed : Affirms "Complete" v) : JobLabel v "Succeeded"
  | failed (incomplete : ¬ Affirms "Complete" v) (affirmed : Affirms "Failed" v) :
      JobLabel v "Failed"
  | succeeded (incomplete : ¬ Affirms "Complete" v) (unfailed : ¬ Affirms "Failed" v)
      (successes : 0 < intAt ["status", "succeeded"] v) : JobLabel v "Succeeded"
  | failing (incomplete : ¬ Affirms "Complete" v) (unfailed : ¬ Affirms "Failed" v)
      (successless : intAt ["status", "succeeded"] v ≤ 0)
      (failures : 0 < intAt ["status", "failed"] v) : JobLabel v "Failed"
  | running (incomplete : ¬ Affirms "Complete" v) (unfailed : ¬ Affirms "Failed" v)
      (successless : intAt ["status", "succeeded"] v ≤ 0)
      (failureless : intAt ["status", "failed"] v ≤ 0) : JobLabel v "Running"

/-- How an item is labelled, by the rule of its kind. An item of another kind than these is labelled
by its phase, or not at all. -/
inductive Labelled (v : Json) : String → Prop
  | pod {phase : String} (kind : lowerKind v = "pod") (stated : InPhase phase v) : Labelled v phase
  | silentPod (kind : lowerKind v = "pod") (silent : ∀ phase, ¬ InPhase phase v) :
      Labelled v "Unknown"
  | workload {label : String} (kind : lowerKind v ∈ workloadKinds)
      (reported : (statusObject? v).isSome = true)
      (rule : ReplicaLabel (intAt ["spec", "replicas"] v) (intAt ["status", "readyReplicas"] v)
        (intAt ["status", "availableReplicas"] v) label) : Labelled v label
  | job {label : String} (kind : lowerKind v = "job") (reported : (statusObject? v).isSome = true)
      (rule : JobLabel v label) : Labelled v label
  | unreported (kind : lowerKind v ∈ "job" :: workloadKinds) (silent : statusObject? v = none) :
      Labelled v "Unknown"
  | node {label : String} (kind : lowerKind v = "node") (rule : NodeLabel v label) :
      Labelled v label
  | other {phase : String} (kind : lowerKind v ∉ "pod" :: "node" :: "job" :: workloadKinds)
      (stated : InPhase phase v) : Labelled v phase
  | unlabelled (kind : lowerKind v ∉ "pod" :: "node" :: "job" :: workloadKinds)
      (silent : ∀ phase, ¬ InPhase phase v) : Labelled v ""

variable {v : Json} {label other : String}

/-! ## Every item follows its rule -/

theorem replicaLabel_replicaStatus (v : Json) :
    ReplicaLabel (intAt ["spec", "replicas"] v) (intAt ["status", "readyReplicas"] v)
      (intAt ["status", "availableReplicas"] v) (replicaStatus v) := by
  rw [replicaStatus]
  split_ifs with hwanted hall hsome
  · exact .scaledToZero hwanted
  · exact .ready hwanted (by omega)
  · exact .partiallyReady hwanted (by omega) hsome
  · exact .notReady hwanted (by omega) (by omega)

theorem nodeLabel_nodeStatus (v : Json) : NodeLabel v (nodeStatus v) := by
  rw [nodeStatus]
  split
  · exact .ready ‹_›
  · rename_i hne hreported
    refine .notReady (Option.isSome_of_eq_some hreported) fun haffirmed => hne ?_
    exact Option.some.inj (hreported.symm.trans haffirmed)
  · exact .unknown ‹_›

theorem jobLabel_jobStatus (v : Json) : JobLabel v (jobStatus v) := by
  rw [jobStatus]
  split_ifs with hcomplete hfailed hsuccesses hfailures
  · exact .complete hcomplete
  · exact .failed hcomplete hfailed
  · exact .succeeded hcomplete hfailed hsuccesses
  · exact .failing hcomplete hfailed (by omega) hfailures
  · exact .running hcomplete hfailed (by omega) (by omega)

theorem statusLabel_eq (v : Json) : statusLabel v =
    if lowerKind v = "pod" then ((phase? v).filter fun p => !p.isEmpty).getD "Unknown"
    else if lowerKind v ∈ workloadKinds then
      if (statusObject? v).isSome then replicaStatus v else "Unknown"
    else if lowerKind v = "node" then nodeStatus v
    else if lowerKind v = "job" then if (statusObject? v).isSome then jobStatus v else "Unknown"
    else (phase? v).getD "" := rfl

/-- Of a phase that is stated the text counts, unless it is empty. -/
theorem filter_phase_eq_some_iff {phase : String} :
    ((phase? v).filter fun p => !p.isEmpty) = some phase ↔ InPhase phase v := by
  rw [Option.filter_eq_some_iff, InPhase]
  simp

/-- Every item is labelled by the label of its status. -/
theorem labelled_statusLabel (v : Json) : Labelled v (statusLabel v) := by
  rw [statusLabel_eq]
  split_ifs with hpod hworkload hreported hnode hjob hreported
  · cases hphase : (phase? v).filter fun p => !p.isEmpty with
    | some phase => exact .pod hpod (filter_phase_eq_some_iff.mp hphase)
    | none =>
        refine .silentPod hpod fun phase hstated => ?_
        cases hphase.symm.trans (filter_phase_eq_some_iff.mpr hstated)
  · exact .workload hworkload hreported (replicaLabel_replicaStatus v)
  · exact .unreported (List.mem_cons_of_mem _ hworkload) (by simpa using hreported)
  · exact .node hnode (nodeLabel_nodeStatus v)
  · exact .job hjob hreported (jobLabel_jobStatus v)
  · exact .unreported (hjob ▸ List.mem_cons_self) (by simpa using hreported)
  · have hother : lowerKind v ∉ "pod" :: "node" :: "job" :: workloadKinds := by
      simp [hpod, hnode, hjob, hworkload]
    cases hphase : phase? v with
    | none => exact .unlabelled hother fun phase hstated => nomatch hphase.symm.trans hstated.1
    | some phase =>
        by_cases hempty : phase = ""
        · subst hempty
          refine .unlabelled hother fun phase hstated => hstated.2 ?_
          exact (Option.some.inj (hphase.symm.trans hstated.1)).symm
        · exact .other hother ⟨hphase, hempty⟩

/-! ## A rule gives one label -/

theorem ReplicaLabel.unique {wanted ready available : Int}
    (h : ReplicaLabel wanted ready available label)
    (h' : ReplicaLabel wanted ready available other) : label = other := by
  cases h <;> cases h' <;> first | rfl | omega

theorem NodeLabel.unique (h : NodeLabel v label) (h' : NodeLabel v other) :
    label = other := by
  cases h <;> cases h' <;> simp_all [Affirms]

theorem JobLabel.unique (h : JobLabel v label) (h' : JobLabel v other) :
    label = other := by
  cases h <;> cases h' <;> first | rfl | contradiction | omega

theorem ne_pod_of_workload (h : lowerKind v ∈ workloadKinds) : lowerKind v ≠ "pod" := by
  intro hpod
  rw [hpod] at h
  exact absurd h (by decide)

/-- The label of the status of an item is the one that the rule of its kind gives it. -/
theorem statusLabel_eq_iff : statusLabel v = label ↔ Labelled v label := by
  constructor
  · rintro rfl
    exact labelled_statusLabel v
  · intro h
    rw [statusLabel_eq]
    cases h with
    | pod kind stated =>
        rw [if_pos kind, filter_phase_eq_some_iff.mpr stated, Option.getD_some]
    | silentPod kind silent =>
        have hnone : ((phase? v).filter fun p => !p.isEmpty) = none :=
          Option.eq_none_iff_forall_ne_some.mpr fun phase hphase =>
            silent phase (filter_phase_eq_some_iff.mp hphase)
        rw [if_pos kind, hnone, Option.getD_none]
    | workload kind reported rule =>
        rw [if_neg (ne_pod_of_workload kind), if_pos kind, if_pos reported]
        exact (replicaLabel_replicaStatus v).unique rule
    | job kind reported rule =>
        simp only [kind, reported]
        exact (jobLabel_jobStatus v).unique rule
    | unreported kind silent =>
        rcases List.mem_cons.mp kind with kind | kind
        · simp only [kind, silent]
          rfl
        · rw [if_neg (ne_pod_of_workload kind), if_pos kind, silent]
          rfl
    | node kind rule =>
        simp only [kind]
        exact (nodeLabel_nodeStatus v).unique rule
    | other kind stated =>
        simp only [List.mem_cons, not_or] at kind
        rw [if_neg kind.1, if_neg kind.2.2.2, if_neg kind.2.1, if_neg kind.2.2.1, stated.1,
          Option.getD_some]
    | unlabelled kind silent =>
        simp only [List.mem_cons, not_or] at kind
        rw [if_neg kind.1, if_neg kind.2.2.2, if_neg kind.2.1, if_neg kind.2.2.1]
        cases hphase : phase? v with
        | none => rfl
        | some phase => exact Decidable.of_not_not fun hne => silent phase ⟨hphase, hne⟩

end FleetGate.Shaping
