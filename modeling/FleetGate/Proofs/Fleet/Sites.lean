import FleetGate.Fleet.InMemory
import FleetGate.Proofs.Fleet.Construction
import FleetGate.Proofs.Keyed

/-! # Which cluster a call reaches

A fleet in memory is a number of clusters, each at a site of its own. A call through a client
reaches the cluster at the client's site and leaves all others alone; reading leaves what that
cluster holds alone as well, and an access review is noted there and nowhere else.
-/

namespace FleetGate

/-- Where a cluster of a fleet stands. -/
inductive Site where
  | management
  /-- What the service's own client calls. -/
  | service
  | workload (name : String)
  deriving DecidableEq, Repr

/-- Where the cluster of a name stands, the management cluster having the empty one. -/
def Site.ofCluster (cluster : String) : Site :=
  if cluster = "" then .management else .workload cluster

/-- Where the cluster stands that a client calls. -/
def Client.site : Client → Site
  | .management _ => .management
  | .service => .service
  | .workload name _ _ => .workload name

/-- A client of a cluster calls this cluster. -/
theorem Client.IsFor.site_eq {cluster : String} {caller : Identity} {client : Client}
    (h : client.IsFor cluster caller) : client.site = .ofCluster cluster := by
  cases client with
  | management other => rw [Site.ofCluster, if_pos h.1, site]
  | service => exact h.elim
  | workload name kubeconfig other => rw [Site.ofCluster, if_neg h.2.1, site, h.1]

/-! ## Clusters -/

namespace InMemoryCluster

/-- A cluster holds the same and has the same to say on reviews, and has received some more of
them. -/
structure Receives (c c' : InMemoryCluster) (new : List AccessReview) : Prop where
  objects : c'.objects = c.objects
  secrets : c'.secrets = c.secrets
  verdict : c'.verdict = c.verdict
  reviews : c'.reviews = c.reviews ++ new

variable {c c' c'' : InMemoryCluster} {new more : List AccessReview}

theorem Receives.refl (c : InMemoryCluster) : c.Receives c [] :=
  ⟨rfl, rfl, rfl, (List.append_nil _).symm⟩

theorem Receives.append (h₁ : c.Receives c' new) (h₂ : c'.Receives c'' more) :
    c.Receives c'' (new ++ more) where
  objects := h₂.objects.trans h₁.objects
  secrets := h₂.secrets.trans h₁.secrets
  verdict := h₂.verdict.trans h₁.verdict
  reviews := by rw [h₂.reviews, h₁.reviews, List.append_assoc]

/-- Nothing that comes in first makes no difference. -/
theorem Receives.trans (h₁ : c.Receives c' []) (h₂ : c'.Receives c'' new) : c.Receives c'' new :=
  h₁.append h₂

/-- The failure that is planned for the next call if it is of a kind. -/
def failure? (c : InMemoryCluster) (method : String) : Option ClusterError :=
  (c.record method).1

theorem record_receives (c : InMemoryCluster) (method : String) :
    c.Receives (c.record method).2 [] := by
  rw [record]
  split <;> exact ⟨rfl, rfl, rfl, (List.append_nil _).symm⟩

/-- A call that would leave a cluster alone if it were answered does so if it fails as well. -/
theorem perform_receives {α : Type} {call : ClusterCall α}
    (h : ∀ c : InMemoryCluster, c.Receives (answer call c).2 []) (c : InMemoryCluster) :
    c.Receives (perform call c).2 [] := by
  have hrecord := record_receives c call.method
  rw [perform]
  generalize c.record call.method = recorded at hrecord ⊢
  obtain ⟨_ | e, c'⟩ := recorded
  · exact hrecord.trans (h c')
  · exact hrecord

/-- A listing is not noted as a review, and changes nothing that is held. -/
theorem perform_list_receives (resource : ResourceType) (ns? : Option String)
    (options : ListOptions) (c : InMemoryCluster) :
    c.Receives (perform (.list resource ns? options) c).2 [] := by
  refine perform_receives (fun c => ?_) c
  simp only [answer]
  split <;> exact .refl c

/-- Neither does reading a secret. -/
theorem perform_secretData_receives (ns name : String) (c : InMemoryCluster) :
    c.Receives (perform (.secretData ns name) c).2 [] := by
  refine perform_receives (fun c => ?_) c
  simp only [answer]
  split <;> exact .refl c

/-- A review for which a failure is planned is not noted; any other is answered as the cluster is
disposed at this moment, and noted. -/
theorem perform_review (c : InMemoryCluster) (question : AccessReview) :
    (∃ e c', c.failure? "self_subject_access_review" = some e ∧
        perform (.review question) c = (.error e, c') ∧ c.Receives c' []) ∨
      ∃ c', c.failure? "self_subject_access_review" = none ∧
        perform (.review question) c = (.ok c.verdict, c') ∧ c.Receives c' [question] := by
  have hrecord := record_receives c (ClusterCall.review question).method
  rw [perform]
  change (∃ e c', (c.record (ClusterCall.review question).method).1 = some e ∧ _) ∨
    ∃ c', (c.record (ClusterCall.review question).method).1 = none ∧ _
  generalize c.record (ClusterCall.review question).method = recorded at hrecord ⊢
  obtain ⟨_ | e, c'⟩ := recorded
  · have hnoted : c'.Receives { c' with reviews := c'.reviews ++ [question] } [question] :=
      ⟨rfl, rfl, rfl, rfl⟩
    refine Or.inr ⟨_, rfl, ?_, hrecord.trans hnoted⟩
    rw [← hrecord.verdict]
    rfl
  · exact Or.inl ⟨e, c', rfl, rfl, hrecord⟩

end InMemoryCluster

/-! ## Fleets -/

namespace InMemoryFleet

variable {s s' s'' : InMemoryFleet} {client : Client} {site : Site}
  {new more : Site → List AccessReview}

/-- The cluster at a site. -/
def clusterAt (s : InMemoryFleet) : Site → InMemoryCluster
  | .management => s.management
  | .service => s.service
  | .workload name => s.workload name

theorem clusterOf_eq (s : InMemoryFleet) (client : Client) :
    s.clusterOf client = s.clusterAt client.site := by
  cases client <;> rfl

theorem clusterAt_setCluster (s : InMemoryFleet) (client : Client) (c : InMemoryCluster)
    (site : Site) :
    (s.setCluster client c).clusterAt site = if site = client.site then c else s.clusterAt site := by
  cases client with
  | workload name kubeconfig caller =>
      cases site with
      | workload other =>
          simp only [setCluster, clusterAt, workload, Keyed.get?_put, Client.site,
            Site.workload.injEq]
          split <;> rfl
      | _ => simp [setCluster, clusterAt, Client.site]
  | _ => cases site <;> simp [setCluster, clusterAt, Client.site, workload]

theorem clusterAt_recordBuild (s : InMemoryFleet) (client : Client) (site : Site) :
    (s.recordBuild client).clusterAt site = s.clusterAt site := by
  cases client <;> cases site <;> rfl

/-- Every cluster holds the same and has the same to say on reviews, and has received some more of
them. -/
def Receives (s s' : InMemoryFleet) (new : Site → List AccessReview) : Prop :=
  ∀ site, (s.clusterAt site).Receives (s'.clusterAt site) (new site)

/-- No review anywhere. -/
def nothing : Site → List AccessReview := fun _ => []

/-- One review at a site, and none elsewhere. -/
def just (site : Site) (question : AccessReview) : Site → List AccessReview :=
  fun other => if other = site then [question] else []

theorem Receives.refl (s : InMemoryFleet) : s.Receives s nothing :=
  fun site => .refl (s.clusterAt site)

theorem Receives.append (h₁ : s.Receives s' new) (h₂ : s'.Receives s'' more) :
    s.Receives s'' (fun site => new site ++ more site) :=
  fun site => (h₁ site).append (h₂ site)

theorem Receives.trans (h₁ : s.Receives s' nothing) (h₂ : s'.Receives s'' new) :
    s.Receives s'' new :=
  fun site => (h₁ site).trans (h₂ site)

theorem recordBuild_receives (s : InMemoryFleet) (client : Client) :
    s.Receives (s.recordBuild client) nothing := by
  intro site
  rw [clusterAt_recordBuild]
  exact .refl _

/-- What reaches one cluster leaves the others alone. -/
theorem setCluster_receives {c : InMemoryCluster}
    (h : (s.clusterOf client).Receives c (new client.site))
    (hothers : ∀ site, site ≠ client.site → new site = []) :
    s.Receives (s.setCluster client c) new := by
  intro site
  rw [clusterAt_setCluster]
  by_cases hsite : site = client.site
  · rw [if_pos hsite, hsite, ← clusterOf_eq]
    exact h
  · rw [if_neg hsite, hothers site hsite]
    exact .refl _

/-- Every cluster holds the same and has the same to say on reviews, and keeps all reviews that it
received before in front of those that it received since. -/
def Keeps (s s' : InMemoryFleet) : Prop := ∃ new, s.Receives s' new

theorem Keeps.refl (s : InMemoryFleet) : s.Keeps s := ⟨nothing, .refl s⟩

theorem Keeps.trans (h₁ : s.Keeps s') (h₂ : s'.Keeps s'') : s.Keeps s'' := by
  obtain ⟨new, h₁⟩ := h₁
  obtain ⟨more, h₂⟩ := h₂
  exact ⟨_, h₁.append h₂⟩

/-- A review at a site: either it is answered as the cluster there is disposed at this moment, and
noted there and nowhere else, or it fails, and is noted nowhere. -/
inductive Inquiry {ε : Type} (s : InMemoryFleet) (site : Site) (question : AccessReview) :
    Except ε AccessVerdict → InMemoryFleet → Prop
  | answered {s' : InMemoryFleet} (h : s.Receives s' (just site question)) :
      Inquiry s site question (.ok (s.clusterAt site).verdict) s'
  | failed {e : ε} {s' : InMemoryFleet} (h : s.Receives s' nothing) :
      Inquiry s site question (.error e) s'

/-- A review that succeeds is answered as the cluster is disposed, and noted. -/
theorem Inquiry.of_ok {ε : Type} {question : AccessReview} {verdict : AccessVerdict}
    (h : s.Inquiry site question (.ok verdict : Except ε AccessVerdict) s') :
    verdict = (s.clusterAt site).verdict ∧ s.Receives s' (just site question) := by
  cases h with
  | answered h => exact ⟨rfl, h⟩

theorem Inquiry.keeps {ε : Type} {question : AccessReview} {outcome : Except ε AccessVerdict}
    (h : s.Inquiry site question outcome s') : s.Keeps s' := by
  cases h with
  | answered h => exact ⟨_, h⟩
  | failed h => exact ⟨_, h⟩

/-- What happened before a review makes no difference if it sent none. -/
theorem Inquiry.after {ε : Type} {question : AccessReview} {outcome : Except ε AccessVerdict}
    (h : s'.Inquiry site question outcome s'') (hbefore : s.Receives s' nothing) :
    s.Inquiry site question outcome s'' := by
  cases h with
  | answered h =>
      rw [(hbefore site).verdict]
      exact .answered (hbefore.trans h)
  | failed h => exact .failed (hbefore.trans h)

/-- What a failure is called makes no difference either. -/
theorem Inquiry.mapError {ε ε' : Type} {question : AccessReview} {outcome : Except ε AccessVerdict}
    (h : s.Inquiry site question outcome s') (rename : ε → ε') :
    s.Inquiry site question (outcome.mapError rename) s' := by
  cases h with
  | answered h => exact .answered h
  | failed h => exact .failed h

/-- A review through a client is one at the site of the client. -/
theorem call_review (s : InMemoryFleet) (client : Client) (question : AccessReview) :
    s.Inquiry client.site question (backend.call client (.review question) s).1
      (backend.call client (.review question) s).2 := by
  simp only [backend]
  rcases InMemoryCluster.perform_review (s.clusterOf client) question with
    ⟨e, c, -, hperform, hc⟩ | ⟨c, -, hperform, hc⟩
  · rw [hperform]
    exact .failed (setCluster_receives hc fun _ _ => rfl)
  · have hnoted : (s.clusterOf client).Receives c (just client.site question client.site) := by
      rwa [just, if_pos rfl]
    rw [hperform, clusterOf_eq]
    exact .answered (setCluster_receives hnoted fun site h => if_neg h)

/-- It is answered if no failure is planned for it. -/
theorem call_review_of_failure? (h : (s.clusterAt client.site).failure? "self_subject_access_review"
    = none) (question : AccessReview) :
    ∃ verdict, (backend.call client (.review question) s).1 = .ok verdict := by
  rw [← clusterOf_eq] at h
  simp only [backend]
  rcases InMemoryCluster.perform_review (s.clusterOf client) question with
    ⟨e, c, he, -⟩ | ⟨c, -, hperform, -⟩
  · cases he.symm.trans h
  · exact ⟨_, by rw [hperform]⟩

end InMemoryFleet

end FleetGate
