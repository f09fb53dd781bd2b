import FleetGate.Proofs.Cache.Labors
import FleetGate.Proofs.Fleet.Construction

/-! # What a construction does

The steps of a construction change the state of a backend, and that shows not how. What they do is
seen through a backend that passes everything on and notes what is done with it (`Backend.noting`).
So one can say of a labor which clients it built, what it listed and which secrets it read, and what
came of it.
-/

namespace FleetGate

/-- Something done with a backend, with its outcome. -/
inductive Deed where
  | starts (client : Client)
  | ends (client : Client) (outcome : Except ClusterError Unit)
  | lists (via : Client) (resource : ResourceType) (ns? : Option String) (options : ListOptions)
      (outcome : Except ClusterError Page)
  | reads (via : Client) (ns name : String) (outcome : Except ClusterError SecretData)
  /-- Any other call, by the name under which calls are counted. -/
  | calls (via : Client) (method : String)

/-- A call as a deed. -/
def Deed.ofCall {α : Type} (via : Client) : ClusterCall α → Except ClusterError α → Deed
  | .list resource ns? options, outcome => .lists via resource ns? options outcome
  | .secretData ns name, outcome => .reads via ns name outcome
  | c, _ => .calls via c.method

/-- The backend that also notes all that is done with it. -/
def Backend.noting {σ : Type} (b : Backend σ) : Backend (σ × List Deed) where
  startBuild client s :=
    ((b.startBuild client s.1).1, (b.startBuild client s.1).2, s.2 ++ [.starts client])
  endBuild client s :=
    let ended := b.endBuild client s.1
    (ended.1, ended.2, s.2 ++ [.ends client ended.1])
  hasService s := b.hasService s.1
  call via c s :=
    let called := b.call via c s.1
    (called.1, called.2, s.2 ++ [.ofCall via c called.1])
  pageBound client s := b.pageBound client s.1

namespace Construction

variable {σ : Type} {b : Backend σ} {mode : CredentialMode} {now : Nat} {c : Construction} {s : σ}

/-- What a construction does by a step. -/
def deeds (b : Backend σ) (mode : CredentialMode) (now : Nat) (c : Construction) (s : σ) :
    List Deed :=
  (advance b.noting mode now c (s, [])).2.2

/-! ## The deeds of a stage -/

theorem deeds_ordered (h : c.stage = .ordered) :
    deeds b mode now c s = if c.cluster ≠ "" ∧ mode = .privileged ∧ b.hasService s then []
      else [.starts (.management c.caller)] := by
  have hservice : b.noting.hasService (s, []) = b.hasService s := rfl
  by_cases hvia : c.cluster ≠ "" ∧ mode = .privileged ∧ b.hasService s
  · simp only [deeds, advance, h, hservice, if_pos hvia]
  · simp only [deeds, advance, h, hservice, if_neg hvia]
    rfl

theorem deeds_opening {ready : Nat} (h : c.stage = .opening ready) :
    deeds b mode now c s = if now < ready then []
      else [.ends (.management c.caller) (b.endBuild (.management c.caller) s).1] := by
  simp only [deeds, advance, h, Backend.noting]
  by_cases hready : now < ready
  · rw [if_pos hready, if_pos hready]
  · rw [if_neg hready, if_neg hready]
    rcases b.endBuild (.management c.caller) s with ⟨_ | _, s'⟩
    · rfl
    · by_cases hempty : c.cluster = ""
      · simp only [if_pos hempty, List.nil_append]
      · simp only [if_neg hempty, List.nil_append]

theorem deeds_searching {via : Client} (h : c.stage = .searching via) :
    deeds b mode now c s = [.lists via .cluster none (searchOptions c.cluster)
      (b.call via (.list .cluster none (searchOptions c.cluster)) s).1] := by
  simp only [deeds, advance, h, Backend.noting]
  rcases b.call via (.list .cluster none (searchOptions c.cluster)) s with ⟨_ | page, s'⟩
  · rfl
  · dsimp only
    cases named? c.cluster page.items with
    | none => rfl
    | some o => rfl

theorem deeds_reading {via : Client} {ns : String} (h : c.stage = .reading via ns) :
    deeds b mode now c s = [.reads via ns (secretName c.cluster)
      (b.call via (.secretData ns (secretName c.cluster)) s).1] := by
  simp only [deeds, advance, h, Backend.noting]
  rcases b.call via (.secretData ns (secretName c.cluster)) s with ⟨_ | data, s'⟩
  · rfl
  · dsimp only
    cases kubeconfigOf c.cluster data with
    | error e => rfl
    | ok kubeconfig => rfl

theorem deeds_configured {kubeconfig : Kubeconfig} (h : c.stage = .configured kubeconfig) :
    deeds b mode now c s = [.starts (.workload c.cluster kubeconfig c.caller)] := by
  simp only [deeds, advance, h, Backend.noting, List.nil_append]

theorem deeds_connecting {kubeconfig : Kubeconfig} {ready : Nat}
    (h : c.stage = .connecting kubeconfig ready) :
    deeds b mode now c s = if now < ready then []
      else [.ends (.workload c.cluster kubeconfig c.caller)
        (b.endBuild (.workload c.cluster kubeconfig c.caller) s).1] := by
  simp only [deeds, advance, h, Backend.noting]
  by_cases hready : now < ready
  · rw [if_pos hready, if_pos hready]
  · rw [if_neg hready, if_neg hready]
    rcases b.endBuild (.workload c.cluster kubeconfig c.caller) s with ⟨_ | _, s'⟩
    · rfl
    · rfl

/-- What a construction can do by a step, with what comes of it. -/
inductive Does (b : Backend σ) (c : Construction) (s : σ) : Deed → Prop
  | ordered (hstage : c.stage = .ordered) : Does b c s (.starts (.management c.caller))
  | opening {ready : Nat} (hstage : c.stage = .opening ready) :
      Does b c s (.ends (.management c.caller) (b.endBuild (.management c.caller) s).1)
  | searching {via : Client} (hstage : c.stage = .searching via) :
      Does b c s (.lists via .cluster none (searchOptions c.cluster)
        (b.call via (.list .cluster none (searchOptions c.cluster)) s).1)
  | reading {via : Client} {ns : String} (hstage : c.stage = .reading via ns) :
      Does b c s (.reads via ns (secretName c.cluster)
        (b.call via (.secretData ns (secretName c.cluster)) s).1)
  | configured {kubeconfig : Kubeconfig} (hstage : c.stage = .configured kubeconfig) :
      Does b c s (.starts (.workload c.cluster kubeconfig c.caller))
  | connecting {kubeconfig : Kubeconfig} {ready : Nat}
      (hstage : c.stage = .connecting kubeconfig ready) :
      Does b c s (.ends (.workload c.cluster kubeconfig c.caller)
        (b.endBuild (.workload c.cluster kubeconfig c.caller) s).1)

/-- A construction does nothing else. -/
theorem does_of_mem {deed : Deed} (h : deed ∈ deeds b mode now c s) : Does b c s deed := by
  cases hstage : c.stage with
  | ordered =>
      rw [deeds_ordered hstage] at h
      split at h
      · cases h
      · rw [List.mem_singleton.mp h]
        exact .ordered hstage
  | opening ready =>
      rw [deeds_opening hstage] at h
      split at h
      · cases h
      · rw [List.mem_singleton.mp h]
        exact .opening hstage
  | searching via =>
      rw [deeds_searching hstage] at h
      rw [List.mem_singleton.mp h]
      exact .searching hstage
  | reading via ns =>
      rw [deeds_reading hstage] at h
      rw [List.mem_singleton.mp h]
      exact .reading hstage
  | configured kubeconfig =>
      rw [deeds_configured hstage] at h
      rw [List.mem_singleton.mp h]
      exact .configured hstage
  | connecting kubeconfig ready =>
      rw [deeds_connecting hstage] at h
      split at h
      · cases h
      · rw [List.mem_singleton.mp h]
        exact .connecting hstage

end Construction

/-! ## The deeds of a labor -/

variable {σ : Type} {b : Backend σ} {mode : CredentialMode} {client : Client}
  {l : Labor σ Construction}

/-- Whether what was done comes to nothing in the construction of a client for a cluster: no object
of its name was listed, or no text was read that could be its kubeconfig. -/
def Deed.IsVain (cluster : String) : Deed → Prop
  | .lists _ _ _ _ outcome =>
    ∀ page, outcome = .ok page → ∀ o ∈ page.items, o.metadata.name? ≠ some cluster
  | .reads _ _ _ outcome =>
    ∀ data bytes text, outcome = .ok data → Construction.FirstFilled data bytes →
      ¬ Construction.Encodes bytes text
  | _ => False

namespace Labor

/-- What is done by a labor. -/
def deeds (b : Backend σ) (mode : CredentialMode) (l : Labor σ Construction) : List Deed :=
  l.job.deeds b mode l.now l.world

/-- What a labor comes to. -/
def outcome (b : Backend σ) (mode : CredentialMode) (l : Labor σ Construction) :
    Progress Construction Client :=
  (l.job.advance b mode l.now l.world).1

/-- Whether a labor starts or ends to build a client. -/
def Builds (b : Backend σ) (mode : CredentialMode) (l : Labor σ Construction) (client : Client) :
    Prop :=
  .starts client ∈ l.deeds b mode ∨ ∃ outcome, .ends client outcome ∈ l.deeds b mode

/-- Whether something that a labor does comes to nothing. -/
def IsVain (b : Backend σ) (mode : CredentialMode) (l : Labor σ Construction) : Prop :=
  ∃ deed ∈ l.deeds b mode, deed.IsVain l.job.cluster

/-- A client of a workload cluster is built at the last two stages only, with the kubeconfig that
was read and as whom it was ordered. -/
theorem builds_workload {name : String} {kubeconfig : Kubeconfig} {other : Identity}
    (h : l.Builds b mode (.workload name kubeconfig other)) :
    (l.job.stage = .configured kubeconfig ∨ ∃ ready, l.job.stage = .connecting kubeconfig ready) ∧
      name = l.job.cluster ∧ other = l.job.caller := by
  rcases h with h | ⟨outcome, h⟩
  · cases Construction.does_of_mem h with
    | configured hstage => exact ⟨Or.inl hstage, rfl, rfl⟩
  · cases Construction.does_of_mem h with
    | connecting hstage => exact ⟨Or.inr ⟨_, hstage⟩, rfl, rfl⟩

/-- What comes to nothing is a search or the reading of a secret, and it ends the construction. -/
theorem outcome_of_isVain (h : l.IsVain b mode) :
    ((∃ via, l.job.stage = .searching via) ∨ ∃ via ns, l.job.stage = .reading via ns) ∧
      ∃ e, l.outcome b mode = .finished (.error e) := by
  obtain ⟨deed, hdeed, hvain⟩ := h
  cases Construction.does_of_mem hdeed with
  | @searching via hstage =>
      refine ⟨Or.inl ⟨via, hstage⟩, ?_⟩
      simp only [outcome, Construction.advance, hstage]
      rcases hcall : b.call via (.list .cluster none (Construction.searchOptions l.job.cluster))
        l.world with ⟨e | page, s'⟩
      · exact ⟨_, rfl⟩
      · have hnamed : Construction.named? l.job.cluster page.items = none := by
          rw [Construction.named?, List.find?_eq_none]
          intro o ho
          simpa using hvain page (by rw [hcall]) o ho
        simp only [hnamed]
        exact ⟨_, rfl⟩
  | @reading via ns hstage =>
      refine ⟨Or.inr ⟨via, ns, hstage⟩, ?_⟩
      simp only [outcome, Construction.advance, hstage]
      rcases hcall : b.call via (.secretData ns (Construction.secretName l.job.cluster))
        l.world with ⟨e | data, s'⟩
      · exact ⟨_, rfl⟩
      · cases hread : Construction.kubeconfigOf l.job.cluster data with
        | error e => exact ⟨e, by simp only [hread]⟩
        | ok kubeconfig =>
            obtain ⟨bytes, hfilled, htext⟩ := Construction.kubeconfigOf_eq_ok_iff.mp hread
            exact absurd htext (hvain data bytes _ (by rw [hcall]) hfilled)
  | ordered _ | opening _ | configured _ | connecting _ => exact hvain.elim

/-- A client that a labor ends with is one that it built, and not the service's own. -/
theorem builds_of_outcome (h : l.outcome b mode = .finished (.ok client)) :
    l.Builds b mode client ∧ client ≠ .service := by
  rw [outcome] at h
  cases hstage : l.job.stage with
  | ordered =>
      simp only [Construction.advance, hstage] at h
      split at h <;> cases h
  | opening ready =>
      simp only [Construction.advance, hstage] at h
      split at h
      · cases h
      · rename_i hready
        rcases hend : b.endBuild (.management l.job.caller) l.world with ⟨_ | _, s'⟩
        · simp only [hend] at h
          cases h
        · simp only [hend] at h
          split at h
          · cases h
            refine ⟨Or.inr ⟨.ok (), ?_⟩, by simp⟩
            rw [deeds, Construction.deeds_opening hstage, if_neg hready, hend]
            exact List.mem_cons_self
          · cases h
  | searching via =>
      simp only [Construction.advance, hstage] at h
      repeat' split at h
      all_goals cases h
  | reading via ns =>
      simp only [Construction.advance, hstage] at h
      repeat' split at h
      all_goals cases h
  | configured kubeconfig =>
      simp only [Construction.advance, hstage] at h
      cases h
  | connecting kubeconfig ready =>
      simp only [Construction.advance, hstage] at h
      split at h
      · cases h
      · rename_i hready
        rcases hend : b.endBuild (.workload l.job.cluster kubeconfig l.job.caller) l.world
          with ⟨_ | _, s'⟩
        · simp only [hend] at h
          cases h
        · simp only [hend] at h
          cases h
          refine ⟨Or.inr ⟨.ok (), ?_⟩, by simp⟩
          rw [deeds, Construction.deeds_connecting hstage, if_neg hready, hend]
          exact List.mem_cons_self

end Labor

end FleetGate
