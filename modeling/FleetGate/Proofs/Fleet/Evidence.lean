import FleetGate.Proofs.Fleet.Deeds

/-! # What was done for a flight

What the construction of a client rests on at each of its stages, in terms of what was done for its
flight before: which client it looks the cluster up through, which object it found, what it read in
the secret. Every labor adds what the next stage asks for (`ConstructionStage.Supported.labor`).
-/

namespace FleetGate

variable {σ : Type} {b : Backend σ} {mode : CredentialMode} {cluster : String}
  {caller : Identity} {kubeconfig : Kubeconfig} {via : Client} {fl : ℕ}
  {labors : List (Labor σ Construction)} {l : Labor σ Construction} {deed : Deed}

/-! ## Evidence -/

/-- Something was done for a flight. -/
def Did (b : Backend σ) (mode : CredentialMode) (labors : List (Labor σ Construction)) (fl : ℕ)
    (deed : Deed) : Prop :=
  ∃ l ∈ labors, l.flight = fl ∧ deed ∈ l.deeds b mode

/-- The client through which a flight looks a cluster up: the service's own if the mode says so and
there was one when the work on the flight began, and the caller's otherwise. -/
def LooksThrough (b : Backend σ) (mode : CredentialMode) (labors : List (Labor σ Construction))
    (fl : ℕ) (caller : Identity) (via : Client) : Prop :=
  ∃ first, labors.find? (fun l => l.flight = fl) = some first ∧
    via = if mode = .privileged ∧ b.hasService first.world then .service else .management caller

/-- For a flight, the first object of a cluster's name was found, through the client that is meant
for this. -/
def Found (b : Backend σ) (mode : CredentialMode) (labors : List (Labor σ Construction)) (fl : ℕ)
    (cluster : String) (caller : Identity) (via : Client) (o : Object) : Prop :=
  LooksThrough b mode labors fl caller via ∧ ∃ page,
    Did b mode labors fl (.lists via .cluster none (Construction.searchOptions cluster) (.ok page)) ∧
    page.items.find? (fun o => o.metadata.name? = some cluster) = some o

/-- For a flight, a kubeconfig was read in the secret of a cluster, in the namespace of the first
object of the cluster's name and through the client through which that was found. -/
def FromSecret (b : Backend σ) (mode : CredentialMode) (labors : List (Labor σ Construction))
    (fl : ℕ) (cluster : String) (kubeconfig : Kubeconfig) (caller : Identity) : Prop :=
  ∃ via o data bytes, Found b mode labors fl cluster caller via o ∧
    Did b mode labors fl
      (.reads via (o.metadata.ns?.getD "") (cluster ++ "-kubeconfig") (.ok data)) ∧
    Construction.FirstFilled data bytes ∧ Construction.Encodes bytes kubeconfig.text

/-- For a flight, nothing was done to build a client of a workload cluster. -/
def Barren (b : Backend σ) (mode : CredentialMode) (labors : List (Labor σ Construction)) (fl : ℕ) :
    Prop :=
  ∀ l ∈ labors, l.flight = fl → ∀ cluster kubeconfig caller,
    ¬ l.Builds b mode (.workload cluster kubeconfig caller)

/-! ## Evidence is not lost -/

theorem Did.mono (h : Did b mode labors fl deed) : Did b mode (labors ++ [l]) fl deed := by
  obtain ⟨l', hl', hflight, hdeed⟩ := h
  exact ⟨l', List.mem_append_left _ hl', hflight, hdeed⟩

theorem Did.last (hflight : l.flight = fl) (hdeed : deed ∈ l.deeds b mode) :
    Did b mode (labors ++ [l]) fl deed :=
  ⟨l, List.mem_append_right _ List.mem_cons_self, hflight, hdeed⟩

theorem LooksThrough.mono (h : LooksThrough b mode labors fl caller via) :
    LooksThrough b mode (labors ++ [l]) fl caller via := by
  obtain ⟨first, hfirst, hvia⟩ := h
  exact ⟨first, by rw [List.find?_append, hfirst, Option.some_or], hvia⟩

theorem Found.mono {o : Object} (h : Found b mode labors fl cluster caller via o) :
    Found b mode (labors ++ [l]) fl cluster caller via o := by
  obtain ⟨hlooks, page, hlists, hnamed⟩ := h
  exact ⟨hlooks.mono, page, hlists.mono, hnamed⟩

theorem FromSecret.mono (h : FromSecret b mode labors fl cluster kubeconfig caller) :
    FromSecret b mode (labors ++ [l]) fl cluster kubeconfig caller := by
  obtain ⟨via, o, data, bytes, hfound, hreads, hfilled, htext⟩ := h
  exact ⟨via, o, data, bytes, hfound.mono, hreads.mono, hfilled, htext⟩

/-- A labor that builds nothing on a workload cluster, or is for another flight, leaves a flight
barren. -/
theorem Barren.concat (h : Barren b mode labors fl)
    (hl : l.flight = fl → ∀ cluster kubeconfig caller,
      ¬ l.Builds b mode (.workload cluster kubeconfig caller)) :
    Barren b mode (labors ++ [l]) fl := by
  intro l' hl' hflight
  rcases List.mem_append.mp hl' with hl' | hl'
  · exact h l' hl' hflight
  · obtain rfl := List.mem_singleton.mp hl'
    exact hl hflight

/-! ## The stages of a construction -/

/-- What was done for a flight, by the stage that its construction has reached. -/
def ConstructionStage.Supported (b : Backend σ) (mode : CredentialMode)
    (labors : List (Labor σ Construction)) (fl : ℕ) (cluster : String) (caller : Identity) :
    ConstructionStage → Prop
  | .ordered => ∀ l ∈ labors, l.flight ≠ fl
  | .opening _ => Barren b mode labors fl ∧
      (cluster ≠ "" → LooksThrough b mode labors fl caller (.management caller))
  | .searching via => Barren b mode labors fl ∧ LooksThrough b mode labors fl caller via
  | .reading via ns => Barren b mode labors fl ∧
      ∃ o, Found b mode labors fl cluster caller via o ∧ o.namespaceName = ns
  | .configured kubeconfig =>
      Barren b mode labors fl ∧ FromSecret b mode labors fl cluster kubeconfig caller
  | .connecting kubeconfig _ => FromSecret b mode labors fl cluster kubeconfig caller

/-- What is done for other flights is no matter. -/
theorem ConstructionStage.Supported.mono {stage : ConstructionStage}
    (h : stage.Supported b mode labors fl cluster caller) (hother : l.flight ≠ fl) :
    stage.Supported b mode (labors ++ [l]) fl cluster caller := by
  have hbarren (h : Barren b mode labors fl) : Barren b mode (labors ++ [l]) fl :=
    h.concat fun hflight => absurd hflight hother
  cases stage with
  | ordered =>
      intro l' hl'
      rcases List.mem_append.mp hl' with hl' | hl'
      · exact h l' hl'
      · rwa [List.mem_singleton.mp hl']
  | opening ready => exact ⟨hbarren h.1, fun hne => (h.2 hne).mono⟩
  | searching via => exact ⟨hbarren h.1, h.2.mono⟩
  | reading via ns =>
      obtain ⟨h, o, hfound, hns⟩ := h
      exact ⟨hbarren h, o, hfound.mono, hns⟩
  | configured kubeconfig => exact ⟨hbarren h.1, h.2.mono⟩
  | connecting kubeconfig ready => exact FromSecret.mono h

/-- A flight for which a client of a workload cluster is built has its kubeconfig from the secret. -/
theorem ConstructionStage.Supported.fromSecret {name : String} {other : Identity}
    (h : l.job.stage.Supported b mode labors l.flight l.job.cluster l.job.caller)
    (hbuilds : l.Builds b mode (.workload name kubeconfig other)) :
    FromSecret b mode labors l.flight name kubeconfig other := by
  obtain ⟨hstage, rfl, rfl⟩ := l.builds_workload hbuilds
  rcases hstage with hstage | ⟨ready, hstage⟩
  · rw [hstage] at h
    exact h.2
  · rw [hstage] at h
    exact h

/-- A labor for a flight that has not come to building a client of a workload cluster leaves it
barren. -/
theorem Barren.labor (h : Barren b mode labors l.flight)
    (hstage : (∀ kubeconfig, l.job.stage ≠ .configured kubeconfig) ∧
      ∀ kubeconfig ready, l.job.stage ≠ .connecting kubeconfig ready) :
    Barren b mode (labors ++ [l]) l.flight := by
  refine h.concat fun _ cluster kubeconfig caller hbuilds => ?_
  obtain ⟨hbuilding | ⟨ready, hbuilding⟩, -⟩ := l.builds_workload hbuilds
  · exact hstage.1 _ hbuilding
  · exact hstage.2 _ _ hbuilding

/-- What is known of a flight whose construction goes on. -/
def Progress.Supported (b : Backend σ) (mode : CredentialMode)
    (labors : List (Labor σ Construction)) (fl : ℕ) (cluster : String) (caller : Identity) :
    Progress Construction Client → Prop
  | .working c | .waiting c _ => c.cluster = cluster ∧ c.caller = caller ∧
      c.stage.Supported b mode labors fl cluster caller
  | .finished _ => True

theorem supported_of_ordered (hstage : l.job.stage = .ordered)
    (h : ∀ l' ∈ labors, l'.flight ≠ l.flight) :
    (l.outcome b mode).Supported b mode (labors ++ [l]) l.flight l.job.cluster l.job.caller := by
  have hfirst : (labors ++ [l]).find? (fun l' => l'.flight = l.flight) = some l := by
    have hnone : labors.find? (fun l' => l'.flight = l.flight) = none :=
      List.find?_eq_none.mpr fun l' hl' => by simpa using h l' hl'
    rw [List.find?_append, hnone, Option.none_or]
    simp
  have hbarren : Barren b mode (labors ++ [l]) l.flight :=
    Barren.labor (fun l' hl' hflight => absurd hflight (h l' hl')) (by simp [hstage])
  simp only [Labor.outcome, Construction.advance, hstage]
  split
  · rename_i hservice
    exact ⟨rfl, rfl, hbarren, l, hfirst, (if_pos hservice.2).symm⟩
  · rename_i hservice
    exact ⟨rfl, rfl, hbarren, fun hne => ⟨l, hfirst, (if_neg fun h => hservice ⟨hne, h⟩).symm⟩⟩

theorem supported_of_opening {ready : ℕ} (hstage : l.job.stage = .opening ready)
    (h : l.job.stage.Supported b mode labors l.flight l.job.cluster l.job.caller) :
    (l.outcome b mode).Supported b mode (labors ++ [l]) l.flight l.job.cluster l.job.caller := by
  rw [hstage] at h
  have hbarren : Barren b mode (labors ++ [l]) l.flight := h.1.labor (by simp [hstage])
  simp only [Labor.outcome, Construction.advance, hstage]
  split
  · refine ⟨rfl, rfl, ?_⟩
    rw [hstage]
    exact ⟨hbarren, fun hne => (h.2 hne).mono⟩
  · rcases b.endBuild (.management l.job.caller) l.world with ⟨_ | _, s'⟩
    · trivial
    · dsimp only
      split
      · trivial
      · rename_i hne
        exact ⟨rfl, rfl, hbarren, (h.2 hne).mono⟩

theorem supported_of_searching {via : Client} (hstage : l.job.stage = .searching via)
    (h : l.job.stage.Supported b mode labors l.flight l.job.cluster l.job.caller) :
    (l.outcome b mode).Supported b mode (labors ++ [l]) l.flight l.job.cluster l.job.caller := by
  rw [hstage] at h
  have hbarren : Barren b mode (labors ++ [l]) l.flight := h.1.labor (by simp [hstage])
  simp only [Labor.outcome, Construction.advance, hstage]
  rcases hcall : b.call via (.list .cluster none (Construction.searchOptions l.job.cluster))
    l.world with ⟨_ | page, s'⟩
  · trivial
  · dsimp only
    cases hnamed : Construction.named? l.job.cluster page.items with
    | none => trivial
    | some o =>
        refine ⟨rfl, rfl, hbarren, o, ⟨h.2.mono, page, .last rfl ?_, hnamed⟩, rfl⟩
        rw [Labor.deeds, Construction.deeds_searching hstage, hcall]
        exact List.mem_cons_self

theorem supported_of_reading {via : Client} {ns : String} (hstage : l.job.stage = .reading via ns)
    (h : l.job.stage.Supported b mode labors l.flight l.job.cluster l.job.caller) :
    (l.outcome b mode).Supported b mode (labors ++ [l]) l.flight l.job.cluster l.job.caller := by
  rw [hstage] at h
  obtain ⟨hbefore, o, hfound, rfl⟩ := h
  have hbarren : Barren b mode (labors ++ [l]) l.flight := hbefore.labor (by simp [hstage])
  simp only [Labor.outcome, Construction.advance, hstage]
  rcases hcall : b.call via (.secretData o.namespaceName (Construction.secretName l.job.cluster))
    l.world with ⟨_ | data, s'⟩
  · trivial
  · dsimp only
    cases hread : Construction.kubeconfigOf l.job.cluster data with
    | error e => trivial
    | ok kubeconfig =>
        obtain ⟨bytes, hfilled, htext⟩ := Construction.kubeconfigOf_eq_ok_iff.mp hread
        refine ⟨rfl, rfl, hbarren, via, o, data, bytes, hfound.mono, .last rfl ?_, hfilled, htext⟩
        rw [Labor.deeds, Construction.deeds_reading hstage, hcall]
        exact List.mem_cons_self

theorem supported_of_connecting {kubeconfig : Kubeconfig} {ready : ℕ}
    (hstage : l.job.stage = .connecting kubeconfig ready)
    (h : l.job.stage.Supported b mode labors l.flight l.job.cluster l.job.caller) :
    (l.outcome b mode).Supported b mode (labors ++ [l]) l.flight l.job.cluster l.job.caller := by
  rw [hstage] at h
  simp only [Labor.outcome, Construction.advance, hstage]
  split
  · refine ⟨rfl, rfl, ?_⟩
    rw [hstage]
    exact FromSecret.mono h
  · rcases b.endBuild (.workload l.job.cluster kubeconfig l.job.caller) l.world with ⟨_ | _, s'⟩
    · trivial
    · trivial

/-- Every labor adds to what was done for its flight what the next stage asks for. -/
theorem ConstructionStage.Supported.labor
    (h : l.job.stage.Supported b mode labors l.flight l.job.cluster l.job.caller) :
    (l.outcome b mode).Supported b mode (labors ++ [l]) l.flight l.job.cluster l.job.caller := by
  cases hstage : l.job.stage with
  | ordered =>
      rw [hstage] at h
      exact supported_of_ordered hstage h
  | opening ready => exact supported_of_opening hstage h
  | searching via => exact supported_of_searching hstage h
  | reading via ns => exact supported_of_reading hstage h
  | configured kubeconfig =>
      rw [hstage] at h
      simp only [Labor.outcome, Construction.advance, hstage]
      exact ⟨rfl, rfl, h.2.mono⟩
  | connecting kubeconfig ready => exact supported_of_connecting hstage h

/-- A construction that goes on is supported at its stage. -/
theorem Progress.Supported.of_making {progress : Progress Construction Client} {c : Construction}
    {wake? : Option ℕ} (h : progress.Supported b mode labors fl cluster caller)
    (hphase : progress.phase = .making c wake?) :
    c.stage.Supported b mode labors fl c.cluster c.caller := by
  rcases progress with job | ⟨job, next?⟩ | ⟨error⟩ | ⟨client⟩
  · cases hphase
    obtain ⟨rfl, rfl, hstage⟩ := h
    exact hstage
  · cases hphase
    obtain ⟨rfl, rfl, hstage⟩ := h
    exact hstage
  · cases hphase
  · cases hphase

end FleetGate
