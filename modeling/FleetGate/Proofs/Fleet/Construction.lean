import FleetGate.Fleet.Construction
import FleetGate.Proofs.Cache.Provenance

/-! # What a construction comes to

The construction of a client keeps the cluster and the caller that it was ordered for, through all
its stages. If it ends with a client, that is one for this cluster and this caller, and the backend
has just built it.
-/

namespace FleetGate

/-- A client of a cluster, as a caller. -/
def Client.IsFor (cluster : String) (caller : Identity) : Client → Prop
  | .management other => cluster = "" ∧ other = caller
  | .workload name _ other => name = cluster ∧ cluster ≠ "" ∧ other = caller
  | .service => False

/-- Whether a stage belongs to clients of the management cluster as well. -/
def ConstructionStage.isLocal : ConstructionStage → Bool
  | .ordered | .opening _ => true
  | _ => false

namespace Construction

variable {σ : Type} {b : Backend σ} {mode : CredentialMode} {c c' : Construction}
  {cluster : String} {caller : Identity} {now : Nat} {s s' : σ} {client : Client}
  {wake? : Option Nat}

/-- The construction of a client of a cluster, as a caller, at a stage that it can be at. -/
structure IsOf (cluster : String) (caller : Identity) (c : Construction) : Prop where
  sameCluster : c.cluster = cluster
  sameCaller : c.caller = caller
  stage_local : cluster = "" → c.stage.isLocal = true

theorem isOf_ordered (cluster : String) (caller : Identity) :
    IsOf cluster caller ⟨cluster, caller, .ordered⟩ :=
  ⟨rfl, rfl, fun _ => rfl⟩

theorem IsOf.movedTo (hc : c.IsOf cluster caller) {stage : ConstructionStage}
    (h : cluster = "" → stage.isLocal = true) : (c.movedTo stage).IsOf cluster caller :=
  ⟨hc.sameCluster, hc.sameCaller, h⟩

/-- Past the stages of the management cluster, the cluster has a name. -/
theorem IsOf.named (hc : c.IsOf cluster caller) (h : c.stage.isLocal = false) : cluster ≠ "" := by
  intro hempty
  exact absurd (h.symm.trans (hc.stage_local hempty)) (by simp)

/-- What a construction may come to by a stage that changes the state of the backend. -/
def Keeps (b : Backend σ) (cluster : String) (caller : Identity) (s s' : σ) :
    Progress Construction Client → Prop
  | .working c | .waiting c _ => c.IsOf cluster caller
  | .finished (.ok client) => client.IsFor cluster caller ∧ b.endBuild client s = (.ok (), s')
  | .finished (.error _) => True

/-! ## The stages -/

section
variable (hc : c.IsOf cluster caller)
include hc

theorem ordered_keeps (hstage : c.stage = .ordered) :
    Keeps b cluster caller s (advance b mode now c s).2 (advance b mode now c s).1 := by
  simp only [advance, hstage]
  split
  · rename_i h
    exact hc.movedTo fun hempty => absurd (hc.sameCluster.trans hempty) h.1
  · exact hc.movedTo fun _ => rfl

theorem opening_keeps {ready : Nat} (hstage : c.stage = .opening ready) :
    Keeps b cluster caller s (advance b mode now c s).2 (advance b mode now c s).1 := by
  simp only [advance, hstage]
  split
  · exact hc
  · rcases hend : b.endBuild (.management c.caller) s with ⟨_ | _, s₁⟩
    · trivial
    · by_cases hempty : c.cluster = ""
      · simp only [if_pos hempty]
        exact ⟨⟨hc.sameCluster.symm.trans hempty, hc.sameCaller⟩, hend⟩
      · -- a named cluster is searched for through the client that was built
        simp only [if_neg hempty]
        exact hc.movedTo fun h => absurd (hc.sameCluster.trans h) hempty

theorem searching_keeps {via : Client} (hstage : c.stage = .searching via) :
    Keeps b cluster caller s (advance b mode now c s).2 (advance b mode now c s).1 := by
  have named : cluster ≠ "" := hc.named (by rw [hstage]; rfl)
  simp only [advance, hstage]
  split
  · trivial
  · split
    · trivial
    · exact hc.movedTo fun h => absurd h named

theorem reading_keeps {via : Client} {ns : String} (hstage : c.stage = .reading via ns) :
    Keeps b cluster caller s (advance b mode now c s).2 (advance b mode now c s).1 := by
  have named : cluster ≠ "" := hc.named (by rw [hstage]; rfl)
  simp only [advance, hstage]
  split
  · trivial
  · split
    · trivial
    · exact hc.movedTo fun h => absurd h named

theorem configured_keeps {kubeconfig : Kubeconfig} (hstage : c.stage = .configured kubeconfig) :
    Keeps b cluster caller s (advance b mode now c s).2 (advance b mode now c s).1 := by
  have named : cluster ≠ "" := hc.named (by rw [hstage]; rfl)
  simp only [advance, hstage]
  exact hc.movedTo fun h => absurd h named

theorem connecting_keeps {kubeconfig : Kubeconfig} {ready : Nat}
    (hstage : c.stage = .connecting kubeconfig ready) :
    Keeps b cluster caller s (advance b mode now c s).2 (advance b mode now c s).1 := by
  have named : cluster ≠ "" := hc.named (by rw [hstage]; rfl)
  simp only [advance, hstage]
  split
  · exact hc
  · rcases hend : b.endBuild (.workload c.cluster kubeconfig c.caller) s with ⟨_ | _, s₁⟩
    · trivial
    · exact ⟨⟨hc.sameCluster, named, hc.sameCaller⟩, hend⟩

/-- Every stage keeps the cluster and the caller. -/
theorem advance_keeps (b : Backend σ) (mode : CredentialMode) (now : Nat) (s : σ) :
    Keeps b cluster caller s (advance b mode now c s).2 (advance b mode now c s).1 := by
  cases hstage : c.stage with
  | ordered => exact ordered_keeps hc hstage
  | opening _ => exact opening_keeps hc hstage
  | searching _ => exact searching_keeps hc hstage
  | reading _ _ => exact reading_keeps hc hstage
  | configured _ => exact configured_keeps hc hstage
  | connecting _ _ => exact connecting_keeps hc hstage

/-- Whatever a construction becomes by being carried on, it stays one of its cluster and caller. -/
theorem leads_isOf (h : (workshop b mode).Leads c c') : c'.IsOf cluster caller := by
  induction h with
  | refl => exact hc
  | @work job job' now world world' _ hadvance ih =>
      have hkeeps := advance_keeps ih b mode now world
      simp only [workshop] at hadvance
      rw [hadvance] at hkeeps
      exact hkeeps
  | @wait job job' wake? now world world' _ hadvance ih =>
      have hkeeps := advance_keeps ih b mode now world
      simp only [workshop] at hadvance
      rw [hadvance] at hkeeps
      exact hkeeps

end

/-- A client that the construction of one for a cluster ends with is one for this cluster. -/
theorem yields_isFor
    (h : (workshop b mode).Yields ⟨cluster, caller, .ordered⟩ (.ok client)) :
    client.IsFor cluster caller := by
  obtain ⟨job, now, s, s', hleads, hadvance⟩ := h
  have hkeeps := advance_keeps (leads_isOf (isOf_ordered cluster caller) hleads) b mode now s
  simp only [workshop] at hadvance
  rw [hadvance] at hkeeps
  exact hkeeps.1

/-! ## The secret -/

section
variable {data : SecretData} {bytes : List UInt8} {kubeconfig : Kubeconfig}

/-- The entry of a secret that counts: the first of the two that is there and not empty. -/
def FirstFilled (data : SecretData) (bytes : List UInt8) : Prop :=
  bytes ≠ [] ∧ (Keyed.get? "value" data = some bytes ∨
    (∀ other, Keyed.get? "value" data = some other → other = []) ∧
      Keyed.get? "kubeconfig" data = some bytes)

/-- Whether bytes are the UTF-8 form of a text. -/
def Encodes (bytes : List UInt8) (text : String) : Prop :=
  text.toUTF8 = ⟨bytes.toArray⟩

/-- Bytes are read as the text that they encode, and others not at all. -/
theorem ofBytes?_eq_some_iff :
    Kubeconfig.ofBytes? bytes = some kubeconfig ↔ Encodes bytes kubeconfig.text := by
  rw [Kubeconfig.ofBytes?, Encodes, Option.map_eq_some_iff]
  constructor
  · rintro ⟨text, htext, rfl⟩
    rw [String.fromUTF8?] at htext
    split at htext
    · cases htext
      rfl
    · cases htext
  · intro hbytes
    refine ⟨kubeconfig.text, ?_, rfl⟩
    rw [← hbytes, String.fromUTF8?, String.toUTF8_eq_toByteArray,
      dif_pos kubeconfig.text.isValidUTF8]
    rfl

/-- What stands first among the entries that are not empty. -/
theorem head?_present :
    (secretKeys.filterMap fun key => (Keyed.get? key data).filter fun bytes => !bytes.isEmpty).head?
        = some bytes ↔ FirstFilled data bytes := by
  have hfilled (held? : Option (List UInt8)) (bytes : List UInt8) :
      (held?.filter fun bytes => !bytes.isEmpty) = some bytes ↔ bytes ≠ [] ∧ held? = some bytes := by
    rw [Option.filter_eq_some_iff, and_comm]
    simp
  have hempty (held? : Option (List UInt8)) : (held?.filter fun bytes => !bytes.isEmpty) = none ↔
      ∀ other, held? = some other → other = [] := by
    rw [Option.filter_eq_none_iff]
    simp
  rw [secretKeys, FirstFilled, List.filterMap_cons]
  cases hvalue : (Keyed.get? "value" data).filter fun bytes => !bytes.isEmpty with
  | some first =>
      obtain ⟨hne, hfirst⟩ := (hfilled _ _).mp hvalue
      constructor
      · intro h
        cases h
        exact ⟨hne, Or.inl hfirst⟩
      · rintro ⟨-, hsame | ⟨hnone, -⟩⟩
        · exact hfirst.symm.trans hsame
        · exact absurd (hnone first hfirst) hne
  | none =>
      have hnone := (hempty _).mp hvalue
      have hhead : (["kubeconfig"].filterMap fun key =>
          (Keyed.get? key data).filter fun bytes => !bytes.isEmpty).head?
            = (Keyed.get? "kubeconfig" data).filter fun bytes => !bytes.isEmpty := by
        rw [List.filterMap_cons]
        cases (Keyed.get? "kubeconfig" data).filter fun bytes => !bytes.isEmpty with
        | none => rfl
        | some bytes => rfl
      rw [hhead, hfilled]
      constructor
      · rintro ⟨hne, hbytes⟩
        exact ⟨hne, Or.inr ⟨hnone, hbytes⟩⟩
      · rintro ⟨hne, hsame | ⟨-, hbytes⟩⟩
        · exact absurd (hnone bytes hsame) hne
        · exact ⟨hne, hbytes⟩

/-- A secret gives the kubeconfig that the entry that counts encodes. -/
theorem kubeconfigOf_eq_ok_iff :
    kubeconfigOf cluster data = .ok kubeconfig ↔
      ∃ bytes, FirstFilled data bytes ∧ Encodes bytes kubeconfig.text := by
  rw [kubeconfigOf]
  simp only [← head?_present, ← ofBytes?_eq_some_iff]
  cases (secretKeys.filterMap fun key =>
      (Keyed.get? key data).filter fun bytes => !bytes.isEmpty).head? with
  | none => simp
  | some bytes =>
      cases hread : Kubeconfig.ofBytes? bytes with
      | none => simp [hread]
      | some other => simp [hread]

end

end Construction

end FleetGate
