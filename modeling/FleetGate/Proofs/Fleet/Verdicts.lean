import FleetGate.Fleet.Health
import FleetGate.Proofs.Keyed

/-! # Verdicts and checks

The verdict on a cluster and the checks that are shown with it are found apart from each other. The
verdict goes by a flag of the summary that says whether the cluster is ready, the checks go by what
this flag should be made of: the state of the two parts, and the phase. A summary could hold any
flag, and then the two could tell different stories. Unless the phase alone decides, they tell the
same one exactly if the flag is derived (`healthy_fits_checks_iff`).

The flag in the summary of an object always is, whatever the object holds
(`ClusterSummary.derived_ofObject`). So every verdict on an object fits its checks, and can be read
off them and the phase (`verdict_fits_checks`).
-/

namespace FleetGate

/-! ## Phases and readiness of an object -/

namespace ClusterPhase

theorem ofName?_name (p : ClusterPhase) : ofName? p.name = some p := by
  cases p <;> rfl

/-- A phase is known by its name. -/
theorem ofName?_eq_some_iff {s : String} {p : ClusterPhase} : ofName? s = some p ↔ s = p.name := by
  constructor
  · intro h
    rw [ofName?] at h
    have hname := List.find?_some h
    exact (of_decide_eq_true hname).symm
  · rintro rfl
    exact ofName?_name p

end ClusterPhase

namespace ClusterSummary

variable {c : ClusterSummary} {o : Object} {p : ClusterPhase}

/-- The phase does not decide the verdict alone. -/
def Settled (c : ClusterSummary) : Prop :=
  c.phase? ≠ some .deleting ∧ c.phase? ≠ some .provisioning

/-- The flag of readiness is set exactly if both parts are ready and the phase is reached. -/
def Derived (c : ClusterSummary) : Prop :=
  c.ready = true ↔
    c.controlPlaneReady = true ∧ c.infrastructureReady = true ∧ c.phase? = some .provisioned

/-- With a part down a derived flag is not set. -/
theorem Derived.ready_eq_false (hc : c.Derived)
    (hdown : c.controlPlaneReady = false ∨ c.infrastructureReady = false) : c.ready = false := by
  refine Bool.eq_false_iff.mpr fun hready => ?_
  obtain ⟨hplane, hinfra, -⟩ := hc.mp hready
  rcases hdown with hdown | hdown
  · exact Bool.noConfusion (hplane.symm.trans hdown)
  · exact Bool.noConfusion (hinfra.symm.trans hdown)

theorem Settled.of_provisioned (h : c.phase? = some .provisioned) : c.Settled := by
  rw [Settled, h]
  exact ⟨by decide, by decide⟩

/-- The phase of an object is the one that it reports. The unknown phase is also that of an object
that reports none. -/
theorem phase?_ofObject_iff (hp : p ≠ .unknown) :
    (ofObject o).phase? = some p ↔ o.data.stringAt? ["status", "phase"] = some p.name := by
  have hstatus : (ofObject o).status
      = (o.data.stringAt? ["status", "phase"]).getD ClusterPhase.unknown.name := rfl
  rw [phase?, ClusterPhase.ofName?_eq_some_iff, hstatus]
  cases o.data.stringAt? ["status", "phase"] with
  | some s => rw [Option.getD_some, Option.some.injEq]
  | none =>
      have hname : ClusterPhase.unknown.name ≠ p.name := by
        intro h
        rw [← ClusterPhase.ofName?_eq_some_iff, ClusterPhase.ofName?_name] at h
        exact hp (Option.some.inj h).symm
      simpa using hname

/-- The summary of an object has a derived flag. What is missing from the object, or is of another
type, counts as not ready for the flag and for the parts alike. -/
theorem derived_ofObject (o : Object) : (ofObject o).Derived := by
  have hready : (ofObject o).ready = ((ofObject o).controlPlaneReady &&
      (ofObject o).infrastructureReady &&
      decide ((ofObject o).status = ClusterPhase.provisioned.name)) := rfl
  rw [Derived, hready, phase?, ClusterPhase.ofName?_eq_some_iff, Bool.and_eq_true,
    Bool.and_eq_true, decide_eq_true_iff, and_assoc]

end ClusterSummary

/-- The outcome of the check with a name. -/
def ClusterHealth.outcome? (h : ClusterHealth) (name : String) : Option CheckStatus :=
  Keyed.get? name (h.checks.map fun check => (check.name, check.status))

namespace Health

open ClusterSummary

variable {c : ClusterSummary} {o : Object} {status : HealthStatus}

/-! ## The verdict -/

/-- The verdicts on a cluster and when they are given. -/
inductive Judged (c : ClusterSummary) : HealthStatus → Prop
  | deleting (h : c.phase? = some .deleting) : Judged c .unknown
  | provisioning (h : c.phase? = some .provisioning) : Judged c .degraded
  | ready (hsettled : c.Settled) (hready : c.ready = true) : Judged c .healthy
  | down (hsettled : c.Settled) (hready : c.ready = false) (hplane : c.controlPlaneReady = false)
      (hinfra : c.infrastructureReady = false) : Judged c .unhealthy
  | oneDown (hsettled : c.Settled) (hready : c.ready = false)
      (hdiffer : c.controlPlaneReady ≠ c.infrastructureReady) : Judged c .degraded
  | unexplained (hsettled : c.Settled) (hready : c.ready = false)
      (hplane : c.controlPlaneReady = true) (hinfra : c.infrastructureReady = true) :
      Judged c .unknown

theorem judged_status (c : ClusterSummary) : Judged c (assess c).status := by
  change Judged c (verdict c).1
  unfold verdict
  -- the phase comes first, then the flag, and the parts are looked at last
  split
  · next h => exact .deleting h
  · next h => exact .provisioning h
  · next hdeleting hprovisioning =>
      have hsettled : c.Settled := ⟨hdeleting, hprovisioning⟩
      cases hready : c.ready with
      | true => exact .ready hsettled hready
      | false =>
          match hplane : c.controlPlaneReady, hinfra : c.infrastructureReady with
          | false, false => exact .down hsettled hready hplane hinfra
          | true, true => exact .unexplained hsettled hready hplane hinfra
          | false, true | true, false =>
              exact .oneDown hsettled hready (by rw [hplane, hinfra]; decide)

/-- There is one verdict only. -/
theorem Judged.unique {other : HealthStatus} (h : Judged c status) (h' : Judged c other) :
    status = other := by
  cases h <;> cases h' <;> simp_all [Settled]

theorem status_eq_iff : (assess c).status = status ↔ Judged c status :=
  ⟨fun h => h ▸ judged_status c, fun h => (judged_status c).unique h⟩

theorem status_eq_healthy_iff : (assess c).status = .healthy ↔ c.Settled ∧ c.ready = true := by
  rw [status_eq_iff]
  constructor
  · intro h
    cases h with
    | ready hsettled hready => exact ⟨hsettled, hready⟩
  · rintro ⟨hsettled, hready⟩
    exact .ready hsettled hready

/-- With a derived flag the two parts decide, since it is not set where one of them is down. -/
theorem status_eq_unhealthy_iff (hc : c.Derived) : (assess c).status = .unhealthy ↔
    c.Settled ∧ c.controlPlaneReady = false ∧ c.infrastructureReady = false := by
  rw [status_eq_iff]
  constructor
  · intro h
    cases h with
    | down hsettled _ hplane hinfra => exact ⟨hsettled, hplane, hinfra⟩
  · rintro ⟨hsettled, hplane, hinfra⟩
    exact .down hsettled (hc.ready_eq_false (Or.inl hplane)) hplane hinfra

theorem status_eq_degraded_iff (hc : c.Derived) : (assess c).status = .degraded ↔
    c.phase? = some .provisioning ∨
      c.phase? ≠ some .deleting ∧ c.controlPlaneReady ≠ c.infrastructureReady := by
  rw [status_eq_iff]
  constructor
  · intro h
    cases h with
    | provisioning h => exact Or.inl h
    | oneDown hsettled _ hdiffer => exact Or.inr ⟨hsettled.1, hdiffer⟩
  · rintro (h | ⟨hdeleting, hdiffer⟩)
    · exact .provisioning h
    · by_cases hprovisioning : c.phase? = some .provisioning
      · exact .provisioning hprovisioning
      · have hdown : c.controlPlaneReady = false ∨ c.infrastructureReady = false := by
          revert hdiffer
          cases c.controlPlaneReady <;> simp
        exact .oneDown ⟨hdeleting, hprovisioning⟩ (hc.ready_eq_false hdown) hdiffer

/-! ## The checks -/

/-- The outcome of the check of a part that is ready or not. -/
def partStatus (ready : Bool) : CheckStatus :=
  if ready then .pass else .fail

theorem partStatus_eq_pass_iff {ready : Bool} : partStatus ready = .pass ↔ ready = true := by
  cases ready <;> decide

theorem partStatus_eq_fail_iff {ready : Bool} : partStatus ready = .fail ↔ ready = false := by
  cases ready <;> decide

theorem partStatus_inj {a b : Bool} : partStatus a = partStatus b ↔ a = b := by
  cases a <;> cases b <;> decide

theorem outcome?_controlPlane (c : ClusterSummary) :
    (assess c).outcome? "control-plane-ready" = some (partStatus c.controlPlaneReady) := rfl

theorem outcome?_infrastructure (c : ClusterSummary) :
    (assess c).outcome? "infrastructure-ready" = some (partStatus c.infrastructureReady) := rfl

theorem outcome?_phase (c : ClusterSummary) :
    (assess c).outcome? "cluster-phase" = some (phaseCheck c).status := rfl

theorem names_checks (c : ClusterSummary) : (assess c).checks.map (·.name)
    = ["control-plane-ready", "infrastructure-ready", "cluster-phase", "nodes"] := by
  have hnodes : (nodeCheck c.nodeCount).name = "nodes" := by
    unfold nodeCheck
    split <;> rfl
  rw [← hnodes]
  rfl

/-- No two checks have the same name, so the outcome with a name is that of every check with it. -/
theorem outcome?_eq_some_iff {name : String} {s : CheckStatus} :
    (assess c).outcome? name = some s ↔
      ∃ check ∈ (assess c).checks, check.name = name ∧ check.status = s := by
  let outcomes := (assess c).checks.map fun check => (check.name, check.status)
  have hkeys : Keyed.keys outcomes = (assess c).checks.map (·.name) := List.map_map
  have hnodup : (Keyed.keys outcomes).Nodup := by
    rw [hkeys, names_checks]
    decide
  have hmem : (name, s) ∈ outcomes ↔
      ∃ check ∈ (assess c).checks, check.name = name ∧ check.status = s := by
    simp [outcomes]
  rw [← hmem]
  exact ⟨Keyed.mem_of_get?, Keyed.get?_of_mem hnodup⟩

theorem phaseCheck_status_eq_pass_iff :
    (phaseCheck c).status = .pass ↔ c.phase? = some .provisioned := by
  cases h : c.phase? with
  | none => simp [phaseCheck, h]
  | some p => cases p <;> simp [phaseCheck, h]

/-! ## Both together -/

/-- The checks of both parts and of the phase have passed. -/
def Passed (h : ClusterHealth) : Prop :=
  h.outcome? "control-plane-ready" = some .pass ∧ h.outcome? "infrastructure-ready" = some .pass ∧
    h.outcome? "cluster-phase" = some .pass

theorem passed_iff : Passed (assess c) ↔
    c.controlPlaneReady = true ∧ c.infrastructureReady = true ∧ c.phase? = some .provisioned := by
  rw [Passed, outcome?_controlPlane, outcome?_infrastructure, outcome?_phase, Option.some.injEq,
    Option.some.injEq, Option.some.injEq, partStatus_eq_pass_iff, partStatus_eq_pass_iff,
    phaseCheck_status_eq_pass_iff]

theorem failed_iff : (assess c).outcome? "control-plane-ready" = some .fail ∧
    (assess c).outcome? "infrastructure-ready" = some .fail ↔
      c.controlPlaneReady = false ∧ c.infrastructureReady = false := by
  rw [outcome?_controlPlane, outcome?_infrastructure, Option.some.injEq, Option.some.injEq,
    partStatus_eq_fail_iff, partStatus_eq_fail_iff]

theorem differ_iff : (assess c).outcome? "control-plane-ready"
    ≠ (assess c).outcome? "infrastructure-ready" ↔
      c.controlPlaneReady ≠ c.infrastructureReady := by
  refine not_congr ?_
  rw [outcome?_controlPlane, outcome?_infrastructure, Option.some.injEq, partStatus_inj]

/-- Healthy clusters are those whose checks have passed exactly if the flag is derived, where the
phase does not decide alone. -/
theorem healthy_fits_checks_iff (c : ClusterSummary) :
    ((assess c).status = .healthy ↔ Passed (assess c)) ↔ (c.Settled → c.Derived) := by
  -- the check of the phase passes in neither of the two phases that decide alone
  have hphase : Passed (assess c) → c.Settled := fun h => .of_provisioned (passed_iff.mp h).2.2
  rw [status_eq_healthy_iff, Derived, ← passed_iff]
  constructor
  · intro h hsettled
    exact ⟨fun hready => h.mp ⟨hsettled, hready⟩, fun hpassed => (h.mpr hpassed).2⟩
  · intro h
    exact ⟨fun ⟨hsettled, hready⟩ => (h hsettled).mp hready,
      fun hpassed => ⟨hphase hpassed, (h (hphase hpassed)).mpr hpassed⟩⟩

/-- A flag that is set over parts that are down: a healthy cluster with failed checks. -/
example :
    let c := { ClusterSummary.ofObject {} with status := "Provisioned", ready := true }
    (assess c).status = .healthy ∧
      (assess c).checks.map (·.status) = [.fail, .fail, .pass, .warn] := by decide

/-- The check of the nodes has no part in the verdict: it is enough that the others pass. -/
theorem passed_of_forall
    (h : ∀ check ∈ (assess c).checks, check.name ≠ "nodes" → check.status = .pass) :
    Passed (assess c) := by
  have hpass (name : String) (hname : name ∈ (assess c).checks.map (·.name))
      (hnodes : name ≠ "nodes") : (assess c).outcome? name = some .pass := by
    obtain ⟨check, hcheck, rfl⟩ := List.mem_map.mp hname
    exact outcome?_eq_some_iff.mpr ⟨check, hcheck, rfl, h check hcheck hnodes⟩
  rw [names_checks] at hpass
  exact ⟨hpass _ (by simp) (by decide), hpass _ (by simp) (by decide),
    hpass _ (by simp) (by decide)⟩

theorem healthy_iff_passed (o : Object) :
    (assess (.ofObject o)).status = .healthy ↔ Passed (assess (.ofObject o)) :=
  (healthy_fits_checks_iff _).mpr fun _ => derived_ofObject o

/-- Whatever an object holds, the verdict on it fits the checks. It is healthy exactly if the checks
of both parts and of the phase have passed. It is unhealthy exactly if those of both parts have
failed, and degraded exactly if one of these two has, but for clusters that are being deleted, which
are neither, and those that are being provisioned, which are always degraded. A degraded cluster has
a check that has not passed, and not only that of the nodes. -/
theorem verdict_fits_checks (o : Object) :
    let h := assess (.ofObject o)
    let reported? := o.data.stringAt? ["status", "phase"]
    (h.status = .healthy ↔ h.outcome? "control-plane-ready" = some .pass ∧
      h.outcome? "infrastructure-ready" = some .pass ∧ h.outcome? "cluster-phase" = some .pass) ∧
    (h.status = .unhealthy ↔
      (reported? ≠ some "Deleting" ∧ reported? ≠ some "Provisioning") ∧
        h.outcome? "control-plane-ready" = some .fail ∧
        h.outcome? "infrastructure-ready" = some .fail) ∧
    (h.status = .degraded ↔ reported? = some "Provisioning" ∨ reported? ≠ some "Deleting" ∧
      h.outcome? "control-plane-ready" ≠ h.outcome? "infrastructure-ready") ∧
    (h.status = .degraded → ∃ check ∈ h.checks, check.name ≠ "nodes" ∧ check.status ≠ .pass) := by
  intro h reported?
  have hderived : (ofObject o).Derived := derived_ofObject o
  have hdeleting : (ofObject o).phase? = some .deleting ↔ reported? = some "Deleting" :=
    phase?_ofObject_iff (by decide)
  have hprovisioning : (ofObject o).phase? = some .provisioning ↔ reported? = some "Provisioning" :=
    phase?_ofObject_iff (by decide)
  refine ⟨healthy_iff_passed o, ?_, ?_, ?_⟩
  · exact (status_eq_unhealthy_iff hderived).trans
      (and_congr (and_congr (not_congr hdeleting) (not_congr hprovisioning)) failed_iff.symm)
  · exact (status_eq_degraded_iff hderived).trans
      (or_congr hprovisioning (and_congr (not_congr hdeleting) differ_iff.symm))
  · -- with no such check all three would have passed, and the cluster be healthy
    intro hdegraded
    by_contra hnone
    push Not at hnone
    have hhealthy : h.status = .healthy := (healthy_iff_passed o).mpr (passed_of_forall hnone)
    exact absurd (hdegraded.symm.trans hhealthy) (by decide)

/-- A text is no flag, even `true`: the infrastructure counts as not ready, and this is the only
check that shows it. -/
theorem verdict_fits_checks_despite_text :
    let o : Object := { data := .obj [("status", .obj [("controlPlaneReady", .bool true),
      ("infrastructureReady", .str "true"), ("phase", .str "Provisioned"),
      ("workerNodes", .int 3)])] }
    let h := assess (.ofObject o)
    h.status = .degraded ∧ (∃ check ∈ h.checks, check.name ≠ "nodes" ∧ check.status ≠ .pass) ∧
      h.outcome? "control-plane-ready" ≠ h.outcome? "infrastructure-ready" ∧
      h.checks.map (·.status) = [.pass, .fail, .pass, .pass] := by
  intro o h
  have hdegraded : h.status = .degraded := by decide
  obtain ⟨-, -, hdegraded_iff, hshown⟩ := verdict_fits_checks o
  refine ⟨hdegraded, hshown hdegraded, ?_, by decide⟩
  rcases hdegraded_iff.mp hdegraded with hphase | ⟨-, hdiffer⟩
  · exact absurd hphase (by decide)
  · exact hdiffer

end Health

end FleetGate
