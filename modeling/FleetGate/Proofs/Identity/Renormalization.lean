import FleetGate.Proofs.Identity.Normalization
import FleetGate.Proofs.Keyed

/-! # Normalizing again

Two questions about what normalizing looks at. Is an identity that came out of it accepted again as
it is? It is (`normalize_toRaw`): trimming, dropping repetitions and recording the subject each
change nothing the second time, and the checks see the same values.

Is an identity judged by its normalized values alone? Not quite (`normalize_eq_ok_iff_distinct`). If
a group was repeated the names are checked as they arrived too, so that white space around a name,
which trimming would remove, counts against its length and may count as a control character.
-/

namespace FleetGate.RawIdentity

variable {raw : RawIdentity} {id : Identity} {gs seen : List String}

/-! ## Dropping repetitions -/

/-- What remains are the first occurrences of what was not seen before. -/
theorem distinctFrom_eq_eraseDups :
    distinctFrom seen gs = (gs.filter fun g => g ∉ seen).eraseDups := by
  induction gs generalizing seen with
  | nil => rfl
  | cons first rest ih =>
      rw [distinctFrom]
      split
      · rename_i hseen
        rw [ih, List.filter_cons_of_neg (by simpa using hseen)]
      · rename_i hnew
        rw [ih, List.filter_cons_of_pos (by simpa using hnew), List.eraseDups_cons,
          List.filter_filter]
        refine congrArg (first :: List.eraseDups ·) (List.filter_congr fun g _ => ?_)
        rw [Bool.eq_iff_iff]
        simp [not_or]

/-- The groups of an identity are the trimmed names, each where it occurs first. -/
theorem distinctGroups_eq_eraseDups : distinctGroups gs = (gs.map Text.trim).eraseDups := by
  rw [distinctGroups, distinctFrom_eq_eraseDups, List.filter_eq_self.mpr (by simp)]

theorem distinctFrom_sublist : (distinctFrom seen gs).Sublist gs := by
  induction gs generalizing seen with
  | nil => exact List.Sublist.refl []
  | cons first rest ih =>
      rw [distinctFrom]
      split
      · exact ih.cons first
      · exact ih.cons_cons first

/-- Nothing is dropped if nothing is repeated or was seen before. -/
theorem distinctFrom_eq_self (hgs : gs.Nodup) (hseen : ∀ g ∈ gs, g ∉ seen) :
    distinctFrom seen gs = gs := by
  induction gs generalizing seen with
  | nil => rfl
  | cons first rest ih =>
      obtain ⟨hfirst, hrest⟩ := List.nodup_cons.mp hgs
      obtain ⟨hnew, hseen⟩ := List.forall_mem_cons.mp hseen
      rw [distinctFrom, if_neg hnew, ih hrest fun g hg => ?_]
      exact List.not_mem_cons_of_ne_of_not_mem (ne_of_mem_of_not_mem hg hfirst) (hseen g hg)

/-- Trimmed names of which none is repeated stay as they are. -/
theorem distinctGroups_eq_self (hgs : gs.Nodup) (htrim : ∀ g ∈ gs, Text.trim g = g) :
    distinctGroups gs = gs := by
  rw [distinctGroups, List.map_congr_left htrim, List.map_id']
  exact distinctFrom_eq_self hgs fun g _ => List.not_mem_nil

/-- Dropping repetitions again changes nothing. -/
theorem distinctGroups_distinctGroups (gs : List String) :
    distinctGroups (distinctGroups gs) = distinctGroups gs := by
  refine distinctGroups_eq_self (nodup_distinctFrom _ _) fun g hg => ?_
  obtain ⟨original, -, rfl⟩ := mem_distinctGroups.mp hg
  exact Text.trim_trim original

/-- Names are lost exactly if two of them are the same once trimmed. -/
theorem length_distinctGroups_lt_iff :
    (distinctGroups gs).length < gs.length ↔ ¬ (gs.map Text.trim).Nodup := by
  have hsublist : (distinctGroups gs).Sublist (gs.map Text.trim) := distinctFrom_sublist
  have hlength : (gs.map Text.trim).length = gs.length := List.length_map _
  rw [← hlength, hsublist.length_le.lt_iff_ne, ne_eq, not_iff_not]
  constructor
  · intro heq
    rw [← hsublist.eq_of_length heq]
    exact nodup_distinctFrom _ _
  · intro hgs
    rw [distinctGroups, distinctFrom_eq_self hgs fun g _ => List.not_mem_nil]

/-! ## Judging the normalized groups -/

/-- The identity with the trimmed names for its groups, each where it occurs first. -/
def withDistinctGroups (raw : RawIdentity) : RawIdentity :=
  { raw with groups := (raw.groups.map Text.trim).eraseDups }

/-- No group is repeated, or the groups are within the limits as they arrived. -/
def WithinLimitsAsArrived (raw : RawIdentity) : Prop :=
  (raw.groups.map Text.trim).Nodup ∨
    raw.groups.length ≤ 100 ∧ ∀ g ∈ raw.groups, g.utf8ByteSize ≤ 256 ∧ Text.ControlFree g

/-- If the normalized groups pass, the check of the groups as they arrived asks for no more than
their limits: none of them is empty. -/
theorem groups_as_arrived_iff (h : Validation.groups (distinctGroups raw.groups) = .ok ()) :
    ((distinctGroups raw.groups).length < raw.groups.length →
      Validation.groups raw.groups = .ok ()) ↔ raw.WithinLimitsAsArrived := by
  rw [length_distinctGroups_lt_iff, Validation.groups_eq_ok_iff, WithinLimitsAsArrived,
    or_iff_not_imp_left]
  refine imp_congr_right fun _ => and_congr_right fun _ => forall₂_congr fun g hg => ?_
  have hne : g ≠ "" := by
    rintro rfl
    have htrimmed : Text.trim "" ∈ distinctGroups raw.groups := mem_distinctGroups.mpr ⟨"", hg, rfl⟩
    have hchecked := (Validation.groups_eq_ok_iff.mp h).2 _ htrimmed
    exact (Validation.group_eq_ok_iff.mp hchecked).1 rfl
  rw [Validation.group_eq_ok_iff, Validation.hasControl_eq_false_iff]
  exact and_iff_right hne

/-- What is accepted is accepted with its normalized groups in place of those that arrived. The
converse needs the limits for the groups that arrived. -/
theorem normalize_eq_ok_iff_distinct : raw.normalize = .ok id ↔
    raw.withDistinctGroups.normalize = .ok id ∧ raw.WithinLimitsAsArrived := by
  have hgroups : raw.withDistinctGroups.groups = distinctGroups raw.groups :=
    distinctGroups_eq_eraseDups.symm
  have hclaims : raw.withDistinctGroups.claims = raw.claims := rfl
  have hemail : raw.withDistinctGroups.email = raw.email := rfl
  rw [normalize_eq_ok_iff, normalize_eq_ok_iff, hgroups, distinctGroups_distinctGroups, hclaims,
    hemail]
  simp only [lt_irrefl, false_implies, true_and]
  constructor
  · rintro ⟨hemail, harrived, hgroups, hclaims⟩
    exact ⟨⟨hemail, hgroups, hclaims⟩, (groups_as_arrived_iff hgroups).mp harrived⟩
  · rintro ⟨⟨hemail, hgroups, hclaims⟩, hlimits⟩
    exact ⟨hemail, (groups_as_arrived_iff hgroups).mpr hlimits, hgroups, hclaims⟩

/-- An identity has the outcome of its normalized groups exactly if these are rejected, no group is
repeated, or all groups are within the limits as they arrived. Where it has not, it is rejected. -/
theorem judged_by_distinct_groups_iff (raw : RawIdentity) :
    (raw.normalize.toOption = raw.withDistinctGroups.normalize.toOption ↔
      raw.withDistinctGroups.normalize.toOption = none ∨ raw.WithinLimitsAsArrived) ∧
    ∀ id, raw.normalize = .ok id ↔
      raw.withDistinctGroups.normalize = .ok id ∧ raw.WithinLimitsAsArrived := by
  have houtcome (id : Identity) : raw.normalize.toOption = some id ↔
      raw.withDistinctGroups.normalize.toOption = some id ∧ raw.WithinLimitsAsArrived := by
    rw [toOption_eq_some_iff, toOption_eq_some_iff, normalize_eq_ok_iff_distinct]
  refine ⟨⟨fun hsame => ?_, ?_⟩, fun id => normalize_eq_ok_iff_distinct⟩
  · cases hdistinct : raw.withDistinctGroups.normalize.toOption with
    | none => exact Or.inl rfl
    | some id => exact Or.inr ((houtcome id).mp (hsame.trans hdistinct)).2
  · rintro (hnone | hlimits)
    · rw [hnone, Option.eq_none_iff_forall_ne_some]
      intro id haccepted
      exact Option.some_ne_none id (((houtcome id).mp haccepted).1.symm.trans hnone)
    · exact Option.ext fun id => (houtcome id).trans (and_iff_left hlimits)

/-- A group that is repeated with a line break behind it is rejected, although the line break would
be trimmed away and the repetition dropped: either of them alone is accepted. -/
theorem repeated_group_judged_as_arrived :
    let raw (groups : List String) : RawIdentity := { email := "jane@example.com", groups }
    let dev : Identity := ⟨"jane@example.com", ["dev"], []⟩
    (raw ["dev", "dev\n"]).groups.length ≤ 100 ∧
      (raw ["dev", "dev\n"]).normalize =
        .error (.invalidGroupName (.of "group" "" Validation.controlReason)) ∧
      (raw ["dev", "dev\n"]).withDistinctGroups.normalize = .ok dev ∧
      (raw ["dev\n"]).normalize = .ok dev ∧ (raw ["dev", "dev"]).normalize = .ok dev := by
  decide +kernel

/-! ## Normalizing a normalized identity -/

/-- An identity that was accepted is accepted as it is, within every limit with the subject that was
recorded. -/
theorem normalize_toRaw (h : raw.normalize = .ok id) :
    id.toRaw.normalize = .ok id ∧ id.WellFormed ∧
      (Text.trim raw.subjectId ≠ "" → id.subjectId? = some (Text.trim raw.subjectId)) := by
  have hwell := wellFormed_of_normalize h
  obtain ⟨hemail, -, hgroups, claims, hclaims, hextra, rfl⟩ := normalize_eq_ok_iff.mp h
  refine ⟨normalize_eq_ok_iff.mpr ?_, hwell, fun hsubject => ?_⟩
  · simp only [Identity.toRaw, Text.trim_trim, distinctGroups_distinctGroups, lt_irrefl,
      false_implies, true_and]
    -- there is no subject left to record
    exact ⟨hemail, hgroups, claims, claims_eq_ok_iff.mpr (Or.inl ⟨rfl, rfl⟩), hextra, rfl⟩
  · rcases claims_eq_ok_iff.mp hclaims with ⟨hnone, -⟩ | ⟨-, -, rfl⟩
    · exact absurd hnone hsubject
    · simp [Identity.subjectId?, Keyed.get?_put]

/-- Padded and repeated groups, and a subject in place of a claim that came with the identity. -/
theorem normalize_toRaw_padded :
    let raw : RawIdentity := {
      subjectId := " abc-123\n"
      email := " jane@example.com "
      groups := [" dev", "ops ", "dev"]
      extra := [("scopes", []), ("sub", ["root"]), ("team", ["Büro", "platform"])] }
    let id : Identity := {
      email := "jane@example.com"
      groups := ["dev", "ops"]
      extra := [("scopes", []), ("sub", ["abc-123"]), ("team", ["Büro", "platform"])] }
    raw.normalize = .ok id ∧ id.toRaw.normalize = .ok id ∧ id.WellFormed ∧
      id.subjectId? = some "abc-123" := by
  intro raw id
  have haccepted : raw.normalize = .ok id := by decide +kernel
  obtain ⟨hagain, hwell, hsubject⟩ := normalize_toRaw haccepted
  exact ⟨haccepted, hagain, hwell, (hsubject (by decide +kernel)).trans (by decide +kernel)⟩

end FleetGate.RawIdentity
