import FleetGate.Proofs.Impersonation.Headers

/-! # The marks that an impersonation carries

The agent and the subject are recorded under keys of their own, in place of what a caller sent
under exactly these keys. Header names know no capitals, so a caller's key that spells the same in
capitals goes out under the same name, in front of the mark. `marks_follow_other_spellings` says
what is sent under the name of each mark: the caller's values under other spellings of the key, and
then the mark. So the mark stands alone exactly if there is no such value.
-/

namespace FleetGate.Impersonation

open Text (lowerText)

variable {raw : RawIdentity} {id : Identity} {key mark : String}
  {m : List (String × List String)}

/-- The values under spellings of a key that differ from it. -/
def otherSpellings (key : String) (m : List (String × List String)) : List String :=
  (m.filter fun a => lowerText a.1 = key && a.1 ≠ key).flatMap (·.2)

/-- The headers with the name of a key carry the values under all its spellings. -/
theorem filter_allHeaders (p : Impersonation) (key : String) :
    p.allHeaders.filter (·.1 = headerStart ++ key)
      = ((p.extra.filter (lowerText ·.1 = key)).flatMap (·.2)).map
          fun value => (headerStart ++ key, value) := by
  rw [allHeaders]
  induction p.extra with
  | nil => rfl
  | cons a rest ih =>
      rw [List.flatMap_cons, List.filter_append, ih, List.filter_cons, List.filter_map]
      by_cases hkey : lowerText a.1 = key
      · simp [hkey, Function.comp_def]
      · simp [hkey, Function.comp_def, String.append_right_inj]

/-- Setting a key in small letters puts its values behind those under other spellings, since
capitals come first. -/
theorem spellings_put (hm : Keyed.Ordered m) (hkey : lowerText key = key) (values : List String) :
    ((Keyed.put key values m).filter (lowerText ·.1 = key)).flatMap (·.2)
      = otherSpellings key m ++ values := by
  have hsmaller : (m.filter (·.1 < key)).filter (lowerText ·.1 = key)
      = m.filter fun a => lowerText a.1 = key && a.1 ≠ key := by
    rw [List.filter_filter]
    refine List.filter_congr fun a _ => ?_
    by_cases hspelling : lowerText a.1 = key
    · simp only [hspelling, decide_true, Bool.true_and, decide_eq_decide]
      exact ⟨ne_of_lt, Text.lt_of_lowerText_eq hspelling⟩
    · simp only [hspelling, decide_false, Bool.false_and]
  have hgreater : (m.filter (key < ·.1)).filter (lowerText ·.1 = key) = [] := by
    rw [List.filter_filter, List.filter_eq_nil_iff]
    intro a _
    rw [Bool.and_eq_true, decide_eq_true_eq, decide_eq_true_eq]
    rintro ⟨hspelling, hlt⟩
    exact (Text.lt_of_lowerText_eq hspelling hlt.ne').not_gt hlt
  rw [Keyed.put_eq_of_ordered hm, List.filter_append, hsmaller, List.filter_cons_of_pos, hgreater]
  · simp [otherSpellings]
  · simpa using hkey

/-- Setting a key does not touch the other spellings of a key that is spelled otherwise. -/
theorem otherSpellings_put {other : String} (hother : lowerText other ≠ key)
    (values : List String) :
    otherSpellings key (Keyed.put other values m) = otherSpellings key m := by
  rw [otherSpellings, Keyed.filter_put (by simp [hother]), otherSpellings]

/-- The claims of an accepted identity are those that came in, with the subject set if there is
one. -/
theorem extra_of_normalize (h : raw.normalize = .ok id) :
    (Text.trim raw.subjectId = "" ∧ id.extra = raw.extra) ∨
      (Text.trim raw.subjectId ≠ "" ∧
        id.extra = Keyed.put "sub" [Text.trim raw.subjectId] raw.extra) := by
  obtain ⟨-, -, -, claims, hclaims, -, rfl⟩ := RawIdentity.normalize_eq_ok_iff.mp h
  rcases RawIdentity.claims_eq_ok_iff.mp hclaims with ⟨hnone, rfl⟩ | ⟨hsome, -, rfl⟩
  · exact Or.inl ⟨hnone, rfl⟩
  · exact Or.inr ⟨hsome, rfl⟩

/-- What an accepted identity sends under the names of the two marks. The values of a caller under
other spellings of the key are sent, and the mark behind them; a caller's values under exactly the
key are not. The subject's mark is set only if there is a subject. -/
theorem marks_follow_other_spellings (h : raw.normalize = .ok id)
    (hraw : Keyed.Ordered raw.extra) :
    ∃ headers, (ofIdentity id).extraHeaders = .ok headers ∧
      headers.filter (·.1 = "impersonate-extra-agent")
        = (otherSpellings "agent" raw.extra ++ ["mcp-kubernetes"]).map
            (("impersonate-extra-agent", ·)) ∧
      (Text.trim raw.subjectId ≠ "" →
        headers.filter (·.1 = "impersonate-extra-sub")
          = (otherSpellings "sub" raw.extra ++ [Text.trim raw.subjectId]).map
              (("impersonate-extra-sub", ·))) := by
  have hagent : lowerText "agent" = "agent" := by decide
  have hsub : lowerText "sub" = "sub" := by decide
  refine ⟨_, extraHeaders_eq (sendable_ofIdentity (RawIdentity.wellFormed_of_normalize h)), ?_, ?_⟩
  · have hclaims : Keyed.Ordered id.extra ∧
        otherSpellings "agent" id.extra = otherSpellings "agent" raw.extra := by
      rcases extra_of_normalize h with ⟨-, hextra⟩ | ⟨-, hextra⟩ <;> rw [hextra]
      · exact ⟨hraw, rfl⟩
      · exact ⟨hraw.put, otherSpellings_put (by decide) _⟩
    rw [← hclaims.2, ← spellings_put hclaims.1 hagent]
    exact filter_allHeaders (ofIdentity id) "agent"
  · have hother : lowerText agentKey ≠ "sub" := by decide
    intro hsubject
    rcases extra_of_normalize h with ⟨hnone, -⟩ | ⟨-, hextra⟩
    · exact absurd hnone hsubject
    · rw [← spellings_put hraw hsub, ← hextra,
        ← Keyed.filter_put fun values : List String => decide_eq_false hother]
      exact filter_allHeaders (ofIdentity id) "sub"

/-- Values under exactly the two keys are replaced, and each mark stands alone. -/
theorem exact_spellings_replaced :
    let raw : RawIdentity := {
      subjectId := " abc-123 "
      email := "jane@example.com"
      extra := [("agent", ["something-else"]), ("sub", ["root"]), ("team", ["platform"])] }
    let id : Identity := {
      email := "jane@example.com"
      groups := []
      extra := [("agent", ["something-else"]), ("sub", ["abc-123"]), ("team", ["platform"])] }
    raw.normalize = .ok id ∧ ∃ headers, (ofIdentity id).extraHeaders = .ok headers ∧
      headers.filter (·.1 = "impersonate-extra-agent")
        = [("impersonate-extra-agent", "mcp-kubernetes")] ∧
      headers.filter (·.1 = "impersonate-extra-sub") = [("impersonate-extra-sub", "abc-123")] := by
  intro raw id
  have haccepted : raw.normalize = .ok id := by decide +kernel
  obtain ⟨headers, hheaders, hagent, hsub⟩ :=
    marks_follow_other_spellings haccepted (by decide +kernel)
  refine ⟨haccepted, headers, hheaders, hagent.trans ?_, (hsub (by decide +kernel)).trans ?_⟩
  · decide +kernel
  · decide +kernel

/-- A caller who writes the two keys with capitals is accepted, and sends values of their own under
the names of both marks. -/
theorem capital_spellings_sent :
    let raw : RawIdentity := {
      subjectId := "abc-123"
      email := "jane@example.com"
      extra := [("Agent", ["something-else"]), ("Sub", ["root"])] }
    ∃ id headers, raw.normalize = .ok id ∧ (ofIdentity id).extraHeaders = .ok headers ∧
      headers.filter (·.1 = "impersonate-extra-agent")
        = [("impersonate-extra-agent", "something-else"),
          ("impersonate-extra-agent", "mcp-kubernetes")] ∧
      headers.filter (·.1 = "impersonate-extra-sub")
        = [("impersonate-extra-sub", "root"), ("impersonate-extra-sub", "abc-123")] := by
  refine ⟨⟨"jane@example.com", [],
      [("Agent", ["something-else"]), ("Sub", ["root"]), ("sub", ["abc-123"])]⟩,
    [("impersonate-extra-agent", "something-else"), ("impersonate-extra-sub", "root"),
      ("impersonate-extra-agent", "mcp-kubernetes"), ("impersonate-extra-sub", "abc-123")], ?_⟩
  decide +kernel

end FleetGate.Impersonation
