import FleetGate.Proofs.Fleet.Evaluation
import FleetGate.Proofs.Tools.Confinement

/-! # Evaluation errors in answers

The answer to a permission check tells an evaluation error by its class only. Two servers whose
clusters differ in the texts of such errors, class by class the same, give the same answers to the
letter (`CanI.shown_by_class`).
-/

namespace FleetGate

variable {σ σ₁ σ₂ : Type} {R : σ₁ → σ₂ → Prop} {b₁ : Backend σ₁} {b₂ : Backend σ₂}

/-- Two backends that build clients and read from clusters alike and answer access reviews alike,
but for details of failures and for the texts of evaluation errors within a class. -/
structure Backend.ReviewsAlike (R : σ₁ → σ₂ → Prop) (b₁ : Backend σ₁) (b₂ : Backend σ₂) : Prop
    extends Backend.ReadsAlike R b₁ b₂ where
  review : ∀ client question, Parallel R ClusterError.SameClass AccessVerdict.SameClass
    (b₁.call client (.review question)) (b₂.call client (.review question))

/-- A backend whose evaluation errors are worded otherwise. -/
def Backend.rephrased (b : Backend σ) (rephrase : String → String) : Backend σ :=
  { b with
    call := fun {α} client (c : ClusterCall α) => match α, c with
      | _, .review question => fun s =>
        ((b.call client (.review question) s).1.map fun v =>
          { v with evaluationError := rephrase v.evaluationError },
          (b.call client (.review question) s).2)
      | _, c => b.call client c }

/-- Other words within the class make no difference otherwise. -/
theorem Backend.reviewsAlike_rephrased (b : Backend σ) {rephrase : String → String}
    (h : ∀ raw c, EvaluationClass.Of raw c → EvaluationClass.Of (rephrase raw) c) :
    b.ReviewsAlike Eq (b.rephrased rephrase) where
  startBuild := by rintro client s _ rfl; exact ⟨rfl, rfl⟩
  endBuild := by
    rintro client s _ rfl
    exact ⟨.refl ClusterError.SameClass.refl (fun _ => rfl) _, rfl⟩
  hasService := by rintro s _ rfl; rfl
  list := by
    rintro client resource ns? options s _ rfl
    exact ⟨.refl ClusterError.SameClass.refl (fun _ => rfl) _, rfl⟩
  secretData := by
    rintro client ns name s _ rfl
    exact ⟨.refl ClusterError.SameClass.refl (fun _ => rfl) _, rfl⟩
  pageBound := by rintro client s _ rfl; rfl
  review := by
    rintro client question s _ rfl
    refine ⟨?_, rfl⟩
    change Agree _ _ (b.call client (.review question) s).1
      ((b.call client (.review question) s).1.map _)
    cases (b.call client (.review question) s).1 with
    | error e => exact .error rfl
    | ok v =>
        obtain ⟨c, hc, -⟩ := EvaluationClass.existsUnique_of v.evaluationError
        exact .ok ⟨rfl, rfl, rfl, c, hc, h _ c hc⟩

/-- A check of access over backends that answer reviews alike gives verdicts of the same class. -/
theorem Federation.checkAccess_sameClass (hb : b₁.ReviewsAlike R b₂) (cluster : String)
    (identity? : Option RawIdentity) (check : AccessCheck) :
    Federation.Works R AccessVerdict.SameClass (checkAccess b₁ cluster identity? check)
      (checkAccess b₂ cluster identity? check) := by
  refine checkAccess_parallel carries_sameClass Alike.screen_eq
    (clientFor_works hb.toReadsAlike cluster) ?_ identity?
  rintro client _ rfl
  exact attempt_parallel (alike_follows R) (hb.review client check.review)

namespace CanI

open ToolM

/-- Of verdicts that differ only within the class of the evaluation error the answer is the same. -/
theorem answer_eq {v₁ v₂ : AccessVerdict} (h : v₁.SameClass v₂) (user cluster : String)
    (check : AccessCheck) : answer user cluster check v₁ = answer user cluster check v₂ := by
  simp only [answer, h.displayReason, h.allowed, h.denied]

theorem invoke_alike (hb : b₁.ReviewsAlike R b₂) (r : Request) (args : Json) :
    Serves R Eq (invoke b₁ r args) (invoke b₂ r args) :=
  invoke_serves_of (Federation.checkAccess_sameClass hb) (fun _ _ hv => answer_eq hv) r args

/-- Every evaluation error is of one class, and all that is shown of it is the phrase for that class.
Whoever asks for whatever check, and in whatever state the server is: over two backends whose
evaluation errors are of the same classes the answer is the same, to the letter, and the servers are
left alike. -/
theorem shown_by_class (hb : b₁.ReviewsAlike R b₂) {server₁ : Server σ₁} {server₂ : Server σ₂}
    (hs : Server.Alike R server₁ server₂) (args : Json) (r : Request) :
    (∀ raw, ∃! c, EvaluationClass.Of raw c) ∧
    (∀ reason raw c, EvaluationClass.Of raw c →
      Access.displayReason reason raw = EvaluationClass.shown reason c) ∧
    (Tool.dispatch b₁ "can_i" args r server₁).1 = (Tool.dispatch b₂ "can_i" args r server₂).1 ∧
    Server.Alike R (Tool.dispatch b₁ "can_i" args r server₁).2
      (Tool.dispatch b₂ "can_i" args r server₂).2 := by
  refine ⟨EvaluationClass.existsUnique_of, fun reason raw c h =>
    EvaluationClass.displayReason_eq h reason, ?_⟩
  have hname : Tool.ofName? "can_i" = some .canI := rfl
  rw [Tool.dispatch, Tool.dispatch, hname]
  dsimp only
  split
  · exact ⟨rfl, hs⟩
  · obtain ⟨houtcome, hafter⟩ := invoke_alike hb r args server₁ server₂ hs
    exact ⟨congrArg ToolResult.of houtcome.eq, hafter⟩

/-- A cluster that gives away an address and one that does not, the one in capitals and with a word
of a later class as well. -/
theorem shown_by_first_class :
    let raw := "WEBHOOK at 10.0.0.7:6443 NOT FOUND"
    let rephrase (text : String) : String :=
      if text = raw then "no matches for kind Widget" else text
    let verdict : AccessVerdict := { denied := true, evaluationError := raw }
    let fleet : InMemoryFleet := { management := { verdict } }
    let server : Server InMemoryFleet := { federation? := some (.start .user {} fleet) }
    let plain := InMemoryFleet.backend.rephrased rephrase
    let args : Json := .obj [("verb", .str "get"), ("resource", .str "widgets")]
    let jane : Request := { identity? := some { email := "jane@example.com" }, now := ⟨0, 0⟩ }
    Backend.ReviewsAlike Eq InMemoryFleet.backend plain ∧ Server.Alike Eq server server ∧
      (Tool.dispatch plain "can_i" args jane server).1
        = (Tool.dispatch InMemoryFleet.backend "can_i" args jane server).1 ∧
      (Tool.dispatch InMemoryFleet.backend "can_i" args jane server).1.isError = false ∧
      EvaluationClass.Of raw .unknownResource ∧
      Access.displayReason "" raw = "evaluation error: resource type not recognized" := by
  intro raw rephrase verdict fleet server plain args jane
  have hraw : EvaluationClass.Of raw .unknownResource := EvaluationClass.of_iff.mpr (by decide +kernel)
  have hother : EvaluationClass.Of "no matches for kind Widget" .unknownResource :=
    EvaluationClass.of_iff.mpr (by decide +kernel)
  have hb : Backend.ReviewsAlike Eq InMemoryFleet.backend plain := by
    refine InMemoryFleet.backend.reviewsAlike_rephrased fun text c h => ?_
    by_cases htext : text = raw
    · obtain rfl : c = .unknownResource :=
        (EvaluationClass.existsUnique_of raw).unique (htext ▸ h) hraw
      simpa only [rephrase, if_pos htext] using hother
    · simpa only [rephrase, if_neg htext] using h
  have hs : Server.Alike Eq server server := ⟨.some ⟨rfl, rfl, rfl⟩, rfl⟩
  obtain ⟨-, hshown, hsame, -⟩ := shown_by_class hb hs args jane
  exact ⟨hb, hs, hsame.symm, by decide +kernel, hraw, hshown "" raw _ hraw⟩

end CanI

end FleetGate
