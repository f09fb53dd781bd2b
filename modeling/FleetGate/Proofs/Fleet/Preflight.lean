import FleetGate.Fleet.InMemory
import FleetGate.Proofs.Fleet.Calls

/-! # Calls that are turned away

Five things can stand in the way of a call, several of them at once (`Objection`). The call fails
with the first of them, in a fixed order, and leaves the whole federation as it was: the clients
that are kept, the flights, the counters, and the state of the backend with all that it counts
(`stopped_by_first_objection`).
-/

namespace FleetGate

namespace FederationCall

/-- Whether a call needs the name of a cluster, so that the empty one will not do. -/
def NeedsName {α : Type} : FederationCall α → Prop
  | .summary _ => True
  | _ => False

theorem NeedsName.check?_eq_none {α : Type} {call : FederationCall α} (h : call.NeedsName) :
    call.check? = none := by
  cases call with
  | summary name => rfl
  | _ => exact h.elim

end FederationCall

namespace Federation

variable {σ α : Type} {b : Backend σ} {f : Federation σ} {identity? : Option RawIdentity}
  {call : FederationCall α} {caller : Identity} {e : FleetError}

/-- The failure of a call that needs the name of a cluster and has none. -/
def unnamed : FleetError :=
  .identity (.invalidClusterName (.of "cluster name" "" "must not be empty"))

/-- What stands in the way of a call, by its place in the order of the checks. -/
inductive Objection (f : Federation σ) (identity? : Option RawIdentity) (call : FederationCall α) :
    Nat → FleetError → Prop
  | closed (h : f.isClosed = true) : Objection f identity? call 0 .closed
  | nobody (h : identity? = none) : Objection f identity? call 1 .userRequired
  | abnormal {raw : RawIdentity} {e : IdentityError} (h : identity? = some raw)
      (he : raw.normalize = .error e) : Objection f identity? call 2 (.identity e)
  | misnamed {e : IdentityError} (h : call.target ≠ "")
      (he : Validation.clusterName call.target = .error e) :
      Objection f identity? call 3 (.identity e)
  | unnamed (h : call.NeedsName) (he : call.target = "") :
      Objection f identity? call 3 Federation.unnamed
  | unsound {check : AccessCheck} {e : FleetError} (h : call.check? = some check)
      (he : check.validate = .error e) : Objection f identity? call 4 e

/-- No objection comes before the one at a place, and there is no other one at this place. -/
def IsFirst (f : Federation σ) (identity? : Option RawIdentity) (call : FederationCall α)
    (place : Nat) (e : FleetError) : Prop :=
  Objection f identity? call place e ∧
    ∀ other e', Objection f identity? call other e' → place ≤ other ∧ (other = place → e' = e)

/-! ## The checks of every call -/

/-- A call that fails the checks of every call fails with the first objection there is. -/
theorem isFirst_of_screen (h : f.screen call.target identity? = .error e) :
    ∃ place, IsFirst f identity? call place e := by
  simp only [screen, throw, throwThe, MonadExceptOf.throw, bind, Except.bind, pure,
    Except.pure] at h
  cases closed : f.isClosed with
  | true =>
      simp only [closed, if_true] at h
      cases h
      refine ⟨0, .closed closed, fun other e' ho => ?_⟩
      cases ho <;> simp
  | false =>
      simp only [closed] at h
      cases identity? with
      | none =>
          cases h
          refine ⟨1, .nobody rfl, fun other e' ho => ?_⟩
          cases ho <;> simp_all
      | some raw =>
          cases normal : raw.normalize with
          | error fault =>
              simp only [normal, checked] at h
              cases h
              refine ⟨2, .abnormal rfl normal, fun other e' ho => ?_⟩
              cases ho <;> simp_all
          | ok caller =>
              by_cases hempty : call.target.isEmpty = true
              · simp [normal, checked, hempty] at h
              · have hnamed : call.target ≠ "" := by simpa using hempty
                cases hname : Validation.clusterName call.target with
                | ok _ => simp [normal, checked, hempty, hname] at h
                | error fault =>
                    simp [normal, checked, hempty, hname] at h
                    subst h
                    refine ⟨3, .misnamed hnamed hname, fun other e' ho => ?_⟩
                    cases ho <;> simp_all

/-! ## The further checks -/

/-- What passes the checks of every call can be objected to for two reasons only. -/
theorem objection_of_screened (h : f.screen call.target identity? = .ok caller) {place : Nat}
    (ho : Objection f identity? call place e) :
    (place = 3 ∧ call.NeedsName ∧ call.target = "" ∧ e = unnamed) ∨
      place = 4 ∧ ∃ check, call.check? = some check ∧ check.validate = .error e := by
  obtain ⟨opened, raw, rfl, normal, hname⟩ := screen_eq_ok_iff.mp h
  cases ho with
  | closed closed => exact absurd (opened.symm.trans closed) (by simp)
  | nobody hnone => cases hnone
  | abnormal hraw he =>
      cases hraw
      cases normal.symm.trans he
  | misnamed hnamed he =>
      rcases hname with hempty | hok
      · exact absurd (String.isEmpty_iff.mp hempty) hnamed
      · cases hok.symm.trans he
  | unnamed hneeds hempty => exact Or.inl ⟨rfl, hneeds, hempty, rfl⟩
  | unsound hcheck he => exact Or.inr ⟨rfl, _, hcheck, he⟩

/-- A call that passes the checks of every call meets one objection at most. -/
theorem isFirst_of_screened (h : f.screen call.target identity? = .ok caller) {place : Nat}
    (ho : Objection f identity? call place e) : IsFirst f identity? call place e := by
  refine ⟨ho, fun other e' ho' => ?_⟩
  rcases objection_of_screened h ho with ⟨rfl, hneeds, -, rfl⟩ | ⟨rfl, check, hcheck, he⟩ <;>
    rcases objection_of_screened h ho' with ⟨rfl, hneeds', -, rfl⟩ | ⟨rfl, check', hcheck', he'⟩
  · exact ⟨Nat.le_refl 3, fun _ => rfl⟩
  · exact absurd (hneeds.check?_eq_none.symm.trans hcheck') (by simp)
  · exact absurd (hneeds'.check?_eq_none.symm.trans hcheck) (by simp)
  · cases hcheck.symm.trans hcheck'
    cases he.symm.trans he'
    exact ⟨Nat.le_refl 4, fun _ => rfl⟩

/-! ## The calls -/

/-- What fails at its first step fails. -/
theorem bind_of_error {x : FederationM σ α} {β : Type} (g : α → FederationM σ β)
    (h : x f = (.error e, f)) : (x >>= g) f = (.error e, f) := by
  rw [bind_apply, h]

/-- Every call starts with the checks of every call. -/
theorem make_of_screen (h : f.screen call.target identity? = .error e) :
    call.make b identity? f = (.error e, f) := by
  cases call with
  | resolve name | order name | clusters filter | summary name | checkAccess name check =>
      exact screened_bind_of_error _ h
  | requireAccess name check => exact bind_of_error _ (screened_bind_of_error _ h)

/-- A call that needs a name and has none is turned away. -/
theorem make_of_unnamed (h : f.screen call.target identity? = .ok caller) (hneeds : call.NeedsName)
    (hempty : call.target = "") :
    call.make b identity? f = (.error unnamed, f) := by
  cases call with
  | summary name =>
      obtain rfl : name = "" := hempty
      refine (screened_bind _ _ _ f).trans ?_
      rw [show f.screen "" identity? = .ok caller from h]
      rfl
  | _ => exact hneeds.elim

/-- A call with a check that makes no sense is turned away. -/
theorem make_of_unsound (h : f.screen call.target identity? = .ok caller) {check : AccessCheck}
    (hcheck : call.check? = some check) (he : check.validate = .error e) :
    call.make b identity? f = (.error e, f) := by
  have hcheckAccess {name : String} (h : f.screen name identity? = .ok caller) :
      checkAccess b name identity? check f = (.error e, f) := by
    refine (screened_bind _ _ _ f).trans ?_
    rw [h]
    refine bind_of_error _ ?_
    rw [he]
    rfl
  cases call with
  | checkAccess name check =>
      cases hcheck
      exact hcheckAccess h
  | requireAccess name check =>
      cases hcheck
      exact bind_of_error _ (hcheckAccess h)
  | _ => cases hcheck

/-- Whatever call is made of a federation in whatever state: if something stands in its way, it
fails with the first thing that does, and the federation stays as it was. -/
theorem stopped_by_first_objection (b : Backend σ) (f : Federation σ)
    (identity? : Option RawIdentity) (call : FederationCall α) {place : Nat}
    (h : Objection f identity? call place e) :
    ∃ first error, IsFirst f identity? call first error ∧
      call.make b identity? f = (.error error, f) := by
  cases hscreen : f.screen call.target identity? with
  | error error =>
      obtain ⟨first, hfirst⟩ := isFirst_of_screen hscreen
      exact ⟨first, error, hfirst, make_of_screen hscreen⟩
  | ok caller =>
      have hfirst : IsFirst f identity? call place e := isFirst_of_screened hscreen h
      rcases objection_of_screened hscreen h with
        ⟨-, hneeds, hempty, rfl⟩ | ⟨-, check, hcheck, he⟩
      · exact ⟨place, unnamed, hfirst, make_of_unnamed hscreen hneeds hempty⟩
      · exact ⟨place, e, hfirst, make_of_unsound hscreen hcheck he⟩

/-- A check with an unknown verb on a cluster that cannot be named so: the name is objected to
first. The client that is kept for the caller stays, and no other is built. -/
theorem stopped_by_name :
    let jane : RawIdentity := { email := "jane@example.com" }
    let b := InMemoryFleet.backend
    let f := (start .user {} ({} : InMemoryFleet)).after b [.call (.resolve "") (some jane)]
    let call : FederationCall AccessVerdict :=
      .checkAccess "Fleet_7" { verb := "frobnicate", resource := "pods" }
    f.clients.world.managementBuilds = 1 ∧ f.clients.store.entries.length = 1 ∧
      Objection f (some jane) call 4 (.invalidAccessCheck "unknown verb \"frobnicate\"") ∧
      ∃ first error, IsFirst f (some jane) call first error ∧ first ≤ 3 ∧
        call.make b (some jane) f = (.error error, f) := by
  intro jane b f call
  have hverb : Objection f (some jane) call 4 (.invalidAccessCheck "unknown verb \"frobnicate\"") :=
    .unsound rfl (by decide +kernel)
  obtain ⟨e, hname⟩ : ∃ e, Validation.clusterName "Fleet_7" = .error e := ⟨_, rfl⟩
  have hnamed : Objection f (some jane) call 3 (.identity e) := .misnamed (by decide) hname
  obtain ⟨first, error, hfirst, hmake⟩ := stopped_by_first_objection b f (some jane) call hverb
  exact ⟨by decide +kernel, by decide +kernel, hverb, first, error, hfirst,
    (hfirst.2 3 _ hnamed).1, hmake⟩

end Federation

end FleetGate
