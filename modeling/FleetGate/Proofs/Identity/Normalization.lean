import FleetGate.Identity.Basic
import FleetGate.Proofs.Identity.Validation
import FleetGate.Proofs.Text.Trim

/-! # What normalizing gives

`RawIdentity.normalize_eq_ok_iff` says what an identity becomes and when it is accepted. An accepted
identity is well formed (`Identity.WellFormed`): every part of it is within its limits, and nothing
of it can end a header or start another one.
-/

namespace FleetGate

/-- No control character stands in the text, so no line break either. -/
def Text.ControlFree (s : String) : Prop :=
  ∀ c ∈ s.toList, isControl c = false

instance (s : String) : Decidable (Text.ControlFree s) :=
  List.decidableBAll (fun c => Text.isControl c = false) s.toList

/-- An identity within the limits of what may be impersonated. -/
structure Identity.WellFormed (id : Identity) : Prop where
  email_trimmed : Text.trim id.email = id.email
  email_nonempty : id.email ≠ ""
  email_size : id.email.utf8ByteSize ≤ 254
  email_free : Text.ControlFree id.email ∧ ∀ c ∈ id.email.toList, Text.isSpace c = false
  groups_count : id.groups.length ≤ 100
  groups_distinct : id.groups.Nodup
  groups_free : ∀ g ∈ id.groups,
    Text.trim g = g ∧ g ≠ "" ∧ g.utf8ByteSize ≤ 256 ∧ Text.ControlFree g
  claims_count : id.extra.length ≤ 50
  keys_free : ∀ claim ∈ id.extra, claim.1 ≠ "" ∧ claim.1.utf8ByteSize ≤ 256 ∧
    ∀ c ∈ claim.1.toList, c.isAlphanum = true ∨ c = '-' ∨ c = '_'
  values_free : ∀ claim ∈ id.extra, ∀ v ∈ claim.2, v.utf8ByteSize ≤ 1024 ∧ Text.ControlFree v

namespace RawIdentity

variable {raw : RawIdentity} {id : Identity} {claims : List (String × List String)}

/-! ## Groups -/

/-- What remains of a list are its elements that were not seen before. -/
theorem mem_distinctFrom {g : String} {seen gs : List String} :
    g ∈ distinctFrom seen gs ↔ g ∈ gs ∧ g ∉ seen := by
  induction gs generalizing seen with
  | nil => simp [distinctFrom]
  | cons first rest ih =>
      rw [distinctFrom]
      split
      · rename_i hseen
        rw [ih, List.mem_cons]
        constructor
        · rintro ⟨hrest, hg⟩
          exact ⟨Or.inr hrest, hg⟩
        · rintro ⟨rfl | hrest, hg⟩
          · exact absurd hseen hg
          · exact ⟨hrest, hg⟩
      · rename_i hnew
        by_cases hfirst : g = first
        · simp [hfirst, hnew]
        · simp [ih, hfirst]

/-- Each element remains once. -/
theorem nodup_distinctFrom (seen gs : List String) : (distinctFrom seen gs).Nodup := by
  induction gs generalizing seen with
  | nil => simp [distinctFrom]
  | cons first rest ih =>
      rw [distinctFrom]
      split
      · exact ih seen
      · refine List.nodup_cons.mpr ⟨?_, ih _⟩
        rw [mem_distinctFrom]
        simp

/-- The groups of an identity are those that came in, trimmed. -/
theorem mem_distinctGroups {g : String} {gs : List String} :
    g ∈ distinctGroups gs ↔ ∃ h ∈ gs, Text.trim h = g := by
  simp [distinctGroups, mem_distinctFrom]

/-! ## Acceptance -/

/-- The claims of an identity: those that came in, with the subject if there is one. -/
theorem claims_eq_ok_iff : raw.claims = .ok claims ↔
    (Text.trim raw.subjectId = "" ∧ raw.extra = claims) ∨
      (Text.trim raw.subjectId ≠ "" ∧
        Validation.extraValue (Text.trim raw.subjectId) = .ok () ∧
        Keyed.put Identity.subjectKey [Text.trim raw.subjectId] raw.extra = claims) := by
  rw [Validation.extraValue_eq_ok_iff]
  by_cases hempty : Text.trim raw.subjectId = ""
  · simp [RawIdentity.claims, hempty]
  · simp only [RawIdentity.claims, String.isEmpty_iff, hempty, if_false, refuse_eq_ok_iff]
    simp [hempty, and_assoc]

/-- What is accepted, and what it becomes. -/
theorem normalize_eq_ok_iff : raw.normalize = .ok id ↔
    Validation.email (Text.trim raw.email) = .ok () ∧
    ((distinctGroups raw.groups).length < raw.groups.length →
      Validation.groups raw.groups = .ok ()) ∧
    Validation.groups (distinctGroups raw.groups) = .ok () ∧
    ∃ claims, raw.claims = .ok claims ∧ Validation.extra claims = .ok () ∧
      ⟨Text.trim raw.email, distinctGroups raw.groups, claims⟩ = id := by
  have hchecked (e : Except IdentityError Unit) (outcome : Except IdentityError Identity) :
      (e >>= fun _ => outcome) = .ok id ↔ e = .ok () ∧ outcome = .ok id := check_bind_eq_ok_iff
  by_cases hrepeated : (distinctGroups raw.groups).length < raw.groups.length
  · simp only [normalize, gt_iff_lt, hrepeated, if_true, true_implies, hchecked]
    rw [bind_eq_ok_iff]
    simp only [hchecked, pure, Except.pure, Except.ok.injEq]
  · simp only [normalize, gt_iff_lt, hrepeated, if_false, false_implies, hchecked]
    rw [bind_eq_ok_iff]
    simp only [hchecked, pure, Except.pure, Except.ok.injEq, true_and]

/-- Every accepted identity is well formed, whatever came in. -/
theorem wellFormed_of_normalize (h : raw.normalize = .ok id) : id.WellFormed := by
  obtain ⟨hemail, -, hgroups, claims, -, hclaims, rfl⟩ := normalize_eq_ok_iff.mp h
  rw [Validation.email_eq_ok_iff, Validation.hasControl_eq_false_iff] at hemail
  rw [Validation.groups_eq_ok_iff] at hgroups
  rw [Validation.extra_eq_ok_iff] at hclaims
  obtain ⟨hnonempty, hsize, hcontrol, hform⟩ := hemail
  constructor
  case email_trimmed => exact Text.trim_trim raw.email
  case email_nonempty => exact hnonempty
  case email_size => exact hsize
  case email_free => exact ⟨hcontrol, Validation.isSpace_eq_false_of_isEmailForm hform⟩
  case groups_count => exact hgroups.1
  case groups_distinct => exact nodup_distinctFrom _ _
  case groups_free =>
    intro g hg
    obtain ⟨original, -, rfl⟩ := mem_distinctGroups.mp hg
    obtain ⟨hnonempty, hsize, hcontrol⟩ := Validation.group_eq_ok_iff.mp (hgroups.2 _ hg)
    exact ⟨Text.trim_trim original, hnonempty, hsize,
      Validation.hasControl_eq_false_iff.mp hcontrol⟩
  case claims_count => exact hclaims.1
  case keys_free =>
    intro claim hclaim
    obtain ⟨hnonempty, hsize, hchars⟩ := Validation.extraKey_eq_ok_iff.mp (hclaims.2 claim hclaim).1
    refine ⟨hnonempty, hsize, fun c hc => ?_⟩
    simpa [Validation.isExtraKeyChar, or_assoc] using hchars c hc
  case values_free =>
    intro claim hclaim v hv
    obtain ⟨hsize, hcontrol⟩ := Validation.extraValue_eq_ok_iff.mp ((hclaims.2 claim hclaim).2 v hv)
    exact ⟨hsize, Validation.hasControl_eq_false_iff.mp hcontrol⟩

end RawIdentity

end FleetGate
