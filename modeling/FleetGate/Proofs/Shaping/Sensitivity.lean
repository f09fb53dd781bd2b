import FleetGate.Proofs.Text.Case
import FleetGate.Proofs.Text.Search
import FleetGate.Shaping.Pipeline

/-! # Where masking and warning part

Two functions tell objects that carry credentials: `isSecret`, which decides what is masked, and
`isSensitive`, which also knows service accounts and config maps. On objects with a kind the second
covers the first. The one compares ASCII letters in any case and the other lower-cases by the whole
of Unicode, but no letter beyond ASCII becomes one of `secret`.

An object without a kind may be a secret by its shape, and is nothing to `isSensitive`. The secrets
that it misses are just those (`classifiers_differ_iff`), which is how the items of a list look.
-/

namespace FleetGate.Shaping

variable {v : Json} {kind : String}

/-- The kind of an object, empty if there is none or it is no text. -/
def kindOf (v : Json) : String := (v.stringAt? ["kind"]).getD ""

/-- A text as `type` next to an object as payload. -/
structure ShapedLikeSecret (v : Json) : Prop where
  type : ∃ text, v.member? "type" = some (.str text)
  payload : ∃ field ∈ payloadFields, ∃ values, v.member? field = some (.obj values)

/-- The name of the object suggests credentials. -/
def NameTells (v : Json) : Prop :=
  ∃ name, v.stringAt? ["metadata", "name"] = some name ∧
    ∃ word ∈ sensitiveWords, word.toList <:+: (Text.lowercase name).toList

theorem hasSecretShape_iff : hasSecretShape v = true ↔ ShapedLikeSecret v := by
  have htext : ((v.member? "type").bind Json.string?).isSome = true ↔
      ∃ text, v.member? "type" = some (.str text) := by
    cases v.member? "type" with
    | none => simp
    | some w => cases w <;> simp [Json.string?]
  have hobject (field : String) : (v.member? field).any Json.isObject = true ↔
      ∃ values, v.member? field = some (.obj values) := by
    cases v.member? field with
    | none => simp
    | some w => cases w <;> simp [Json.isObject]
  rw [hasSecretShape, Bool.and_eq_true, htext, List.any_eq_true]
  simp only [hobject]
  exact ⟨fun ⟨htype, hpayload⟩ => ⟨htype, hpayload⟩, fun h => ⟨h.type, h.payload⟩⟩

/-- A kind is that of secrets in one function's reading exactly if it is in the other's. -/
theorem eqIgnoringAsciiCase_secret_iff :
    Text.eqIgnoringAsciiCase kind "Secret" = true ↔ Text.lowercase kind = "secret" := by
  have hsmall : Text.lowerText "Secret" = "secret" := by decide
  have hplain : ∀ c ∈ "secret".toList, c.toNat < 0x80 ∧ c ≠ 'k' := by simp
  rw [Text.eqIgnoringAsciiCase_iff, hsmall, Text.lowercase_eq_iff_lowerText_eq hplain]

/-- The secrets, by kind or by shape. -/
theorem isSecret_iff : isSecret v = true ↔
    Text.lowercase (kindOf v) = "secret" ∨ kindOf v = "" ∧ ShapedLikeSecret v := by
  have hnone : Text.lowercase "" ≠ "secret" := by decide
  rw [isSecret, kindOf]
  split
  · rename_i kind hkind
    rw [hkind, Option.getD_some]
    by_cases hempty : kind = ""
    · simp [hempty, hnone, hasSecretShape_iff]
    · simp [hempty, eqIgnoringAsciiCase_secret_iff]
  · rename_i hkind
    rw [hkind, Option.getD_none]
    simp [hnone, hasSecretShape_iff]

/-- The objects that are likely to carry credentials. -/
theorem isSensitive_iff : isSensitive v = true ↔
    Text.lowercase (kindOf v) = "secret" ∨ Text.lowercase (kindOf v) = "serviceaccount" ∨
      Text.lowercase (kindOf v) = "configmap" ∧ NameTells v := by
  rw [isSensitive, ← kindOf]
  simp only [← or_assoc]
  by_cases hknown :
      Text.lowercase (kindOf v) = "secret" ∨ Text.lowercase (kindOf v) = "serviceaccount"
  · simp [hknown]
  · by_cases hmap : Text.lowercase (kindOf v) = "configmap"
    · rw [if_neg hknown, if_pos hmap, or_iff_right hknown, and_iff_right hmap, NameTells]
      split
      · rename_i name hname
        simp [hname, Text.contains_iff]
      · rename_i hname
        simp [hname]
    · simp [hknown, hmap]

/-- The secrets that are not taken for sensitive are those without a kind, known by their shape.
What is taken for sensitive beyond secrets are service accounts and config maps with a telling
name. -/
theorem classifiers_differ_iff (v : Json) :
    (isSecret v = true ∧ isSensitive v = false ↔ kindOf v = "" ∧ ShapedLikeSecret v) ∧
    (isSecret v = false ∧ isSensitive v = true ↔
      Text.lowercase (kindOf v) = "serviceaccount" ∨
        Text.lowercase (kindOf v) = "configmap" ∧ NameTells v) := by
  rw [← Bool.not_eq_true, ← Bool.not_eq_true, isSecret_iff, isSensitive_iff]
  by_cases hkind : kindOf v = ""
  · -- without a kind nothing but the shape is left to decide
    have hlower : Text.lowercase "" = "" := by decide
    simp [hkind, hlower]
  · by_cases hsecret : Text.lowercase (kindOf v) = "secret"
    · simp [hkind, hsecret]
    · simp [hkind, hsecret]

/-- An item of a list is a secret by its shape: its password is masked, and it is not taken for
sensitive. -/
theorem listed_secret_unnoticed :
    let item := Json.obj [("data", .obj [("password", .str "aHVudGVyMg==")]),
      ("metadata", .obj [("name", .str "db-creds")]), ("type", .str "Opaque")]
    isSecret item = true ∧
      (processSingle .default item).stringAt? ["data", "password"] = some redacted ∧
      isSensitive item = false := by
  decide +kernel

end FleetGate.Shaping
