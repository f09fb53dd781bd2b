import FleetGate.Impersonation
import FleetGate.Proofs.Identity.Normalization
import FleetGate.Proofs.Keyed
import FleetGate.Proofs.Text.Ascii

/-! # The headers of an impersonation

Each value of an extra attribute travels in a header of its own. Writing the headers fails if a key
is no token or a value holds a character that no header may hold. The checks that an identity passes
exclude both, so for an accepted identity the headers are written whatever it says, and none of its
values can end a header or start another one.
-/

namespace FleetGate

open Text (lowerAscii lowerText)

/-- In lower case, a character of a claim's key is one of a header name, which stays as it is. -/
theorem Validation.isTokenChar_lowerAscii {c : Char} (h : isExtraKeyChar c = true) :
    Net.isTokenChar (lowerAscii c) = true ∧ lowerAscii (lowerAscii c) = lowerAscii c := by
  have hlt : c.toNat < 128 := by
    simp only [isExtraKeyChar, Bool.or_eq_true, decide_eq_true_eq] at h
    rcases h with (h | rfl) | rfl
    · exact Text.toNat_lt_of_isAlphanum h
    · decide
    · decide
  exact Text.ascii_forall (P := fun c => isExtraKeyChar c = true →
    Net.isTokenChar (lowerAscii c) = true ∧ lowerAscii (lowerAscii c) = lowerAscii c)
    (by decide +kernel) hlt h

/-- A text without control characters may be the value of a header. -/
theorem Text.ControlFree.isHeaderValue {s : String} (h : Text.ControlFree s) :
    Net.isHeaderValue s = true := by
  rw [Net.isHeaderValue, List.all_eq_true]
  intro c hc
  have hcontrol : Text.isControl c = false := h c hc
  simp only [Text.isControl, Bool.or_eq_false_iff, decide_eq_false_iff_not, Bool.and_eq_false_iff]
    at hcontrol
  simp only [Net.isValueChar, Bool.or_eq_true, Bool.and_eq_true, decide_eq_true_eq, bne_iff_ne]
  omega

namespace Impersonation

variable {p : Impersonation} {raw : RawIdentity} {id : Identity} {key : String}

/-- The headers of an impersonation, one for each value of an extra attribute. -/
def allHeaders (p : Impersonation) : List (String × String) :=
  p.extra.flatMap fun a => a.2.map fun value => (headerStart ++ lowerText a.1, value)

/-- Keys and values as they are let through by the checks of an identity. -/
structure Sendable (p : Impersonation) : Prop where
  keys : ∀ a ∈ p.extra, ∀ c ∈ a.1.toList, Validation.isExtraKeyChar c = true
  values : ∀ a ∈ p.extra, ∀ v ∈ a.2, Text.ControlFree v

/-- The name of a header that carries an attribute is a token in lower case. -/
theorem headerName?_of_key (h : ∀ c ∈ key.toList, Validation.isExtraKeyChar c = true) :
    Net.headerName? (headerStart ++ lowerText key) = some (headerStart ++ lowerText key) := by
  have htoken : (headerStart ++ lowerText key).toList.all Net.isTokenChar = true := by
    rw [String.toList_append, List.all_append, lowerText, String.toList_ofList, List.all_map,
      Bool.and_eq_true]
    exact ⟨by decide,
      List.all_eq_true.mpr fun c hc => (Validation.isTokenChar_lowerAscii (h c hc)).1⟩
  have hlower : (headerStart ++ lowerText key).toList.map lowerAscii
      = (headerStart ++ lowerText key).toList := by
    rw [String.toList_append, List.map_append, lowerText, String.toList_ofList, List.map_map]
    congr 1
    exact List.map_congr_left fun c hc => (Validation.isTokenChar_lowerAscii (h c hc)).2
  have hnonempty : (headerStart ++ lowerText key).isEmpty = false := by
    simp [headerStart]
  rw [Net.headerName?, htoken, hlower, hnonempty, String.ofList_toList]
  rfl

theorem attributeHeaders_eq {values : List String}
    (hkey : ∀ c ∈ key.toList, Validation.isExtraKeyChar c = true)
    (hvalues : ∀ v ∈ values, Text.ControlFree v) :
    attributeHeaders key values
      = .ok (values.map fun value => (headerStart ++ lowerText key, value)) := by
  have hname : headerFor key = some (headerStart ++ lowerText key) := headerName?_of_key hkey
  simp only [attributeHeaders, hname]
  refine mapM_eq_ok fun v hv => ?_
  rw [valueHeader, if_pos (hvalues v hv).isHeaderValue]

/-- What may be sent is sent, in one header for each value. -/
theorem extraHeaders_eq (h : p.Sendable) : p.extraHeaders = .ok p.allHeaders := by
  rw [extraHeaders, mapM_eq_ok fun a ha => attributeHeaders_eq (h.keys a ha) (h.values a ha)]
  rfl

/-- What is sent are legal headers for extra attributes. -/
theorem legal_of_mem_allHeaders (h : p.Sendable) {header : String × String}
    (hmem : header ∈ p.allHeaders) :
    Net.headerName? header.1 = some header.1 ∧ isExtraHeader header = true ∧
      Text.ControlFree header.2 := by
  simp only [allHeaders, List.mem_flatMap, List.mem_map] at hmem
  obtain ⟨a, ha, v, hv, rfl⟩ := hmem
  refine ⟨headerName?_of_key (h.keys a ha), ?_, h.values a ha v hv⟩
  rw [isExtraHeader, String.toList_append, List.isPrefixOf_iff_prefix]
  exact List.prefix_append _ _

/-- The impersonation of a well-formed identity may be sent; so may the mark of the agent. -/
theorem sendable_ofIdentity (h : id.WellFormed) : (ofIdentity id).Sendable := by
  have hkeys : ∀ a ∈ id.extra, ∀ c ∈ a.1.toList, Validation.isExtraKeyChar c = true := by
    intro a ha c hc
    simpa [Validation.isExtraKeyChar, or_assoc] using (h.keys_free a ha).2.2 c hc
  constructor
  · intro a ha
    rcases Keyed.mem_of_mem_put ha with rfl | ha
    · exact List.all_eq_true.mp (by decide)
    · exact hkeys a ha
  · intro a ha v hv
    rcases Keyed.mem_of_mem_put ha with rfl | ha
    · obtain rfl := List.mem_singleton.mp hv
      decide
    · exact (h.values_free a ha v hv).2

/-- Whatever identity is accepted: it is within all limits, and the headers of its impersonation are
written, one for each value, each with a legal name under the common start and a value without
control characters. Applying it to the settings of a client always succeeds. -/
theorem accepted_identity_is_sendable (h : raw.normalize = .ok id) :
    id.WellFormed ∧
    let p := ofIdentity id
    let headers := p.extra.flatMap fun a =>
      a.2.map fun value => (headerStart ++ lowerText a.1, value)
    p.extraHeaders = .ok headers ∧
      (∀ header ∈ headers, Net.headerName? header.1 = some header.1 ∧
        isExtraHeader header = true ∧ Net.isHeaderValue header.2 = true ∧
        Text.ControlFree header.2) ∧
      ∀ settings : ClientSettings, p.apply settings = .ok {
        user? := some id.email
        groups? := if id.groups.isEmpty then none else some id.groups
        headers := settings.headers.filter (fun header => !isExtraHeader header) ++ headers } := by
  have hid : id.WellFormed := RawIdentity.wellFormed_of_normalize h
  have hp : (ofIdentity id).Sendable := sendable_ofIdentity hid
  refine ⟨hid, extraHeaders_eq hp, fun header hmem => ?_, fun settings => ?_⟩
  · obtain ⟨hname, hextra, hfree⟩ := legal_of_mem_allHeaders hp hmem
    exact ⟨hname, hextra, hfree.isHeaderValue, hfree⟩
  · rw [apply, extraHeaders_eq hp]
    rfl

/-- Padded and repeated groups, a subject, a key in capitals and values beyond ASCII. -/
theorem padded_identity_is_sendable :
    let raw : RawIdentity := {
      subjectId := " abc-123\n"
      email := " jane@example.com "
      groups := [" dev", "dev", "ops "]
      extra := [("Team", ["Büro", "platform"]), ("scopes", [])] }
    let id : Identity := {
      email := "jane@example.com"
      groups := ["dev", "ops"]
      extra := [("Team", ["Büro", "platform"]), ("scopes", []), ("sub", ["abc-123"])] }
    raw.normalize = .ok id ∧ id.WellFormed ∧
      (ofIdentity id).apply { headers := [("impersonate-extra-stale", "old"), ("accept", "*")] } =
        .ok {
          user? := some "jane@example.com"
          groups? := some ["dev", "ops"]
          headers := [("accept", "*"), ("impersonate-extra-team", "Büro"),
            ("impersonate-extra-team", "platform"), ("impersonate-extra-agent", "mcp-kubernetes"),
            ("impersonate-extra-sub", "abc-123")] } := by
  intro raw id
  have haccepted : raw.normalize = .ok id := by decide +kernel
  obtain ⟨hid, -, -, happlied⟩ := accepted_identity_is_sendable haccepted
  refine ⟨haccepted, hid, (happlied _).trans ?_⟩
  decide +kernel

end Impersonation

end FleetGate
