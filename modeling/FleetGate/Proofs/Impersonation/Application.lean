import FleetGate.Impersonation
import FleetGate.Proofs.Except
import Mathlib.Order.Basic

/-! # Settings under an impersonation

The settings of a client may have been those of somebody else before. An application replaces all
that an impersonation says: the user, the groups, also by none, and every header for an extra
attribute. Of what stood there it keeps the other headers and looks at nothing else
(`apply_eq_of_others_eq`). So an impersonation that was applied before leaves no trace
(`apply_leaves_nothing_stale`).
-/

namespace FleetGate.Impersonation

variable {p q : Impersonation} {header : String × String} {headers : List (String × String)}
  {key name : String} {before after : ClientSettings}

/-! ## Headers for extra attributes -/

/-- The name of a header says that it carries an extra attribute. -/
abbrev CarriesExtra (header : String × String) : Prop :=
  "impersonate-extra-".toList <+: header.1.toList

theorem isExtraHeader_iff : isExtraHeader header = true ↔ CarriesExtra header :=
  List.isPrefixOf_iff_prefix

/-- The start of the name is in small letters already, so it is still there when the name is. -/
theorem carriesExtra_of_headerFor (h : headerFor key = some name) (value : String) :
    CarriesExtra (name, value) := by
  have hlower : headerStart.toList.map Text.lowerAscii = headerStart.toList := by decide
  rw [headerFor, Net.headerName?] at h
  split at h
  · obtain rfl := Option.some.inj h
    change headerStart.toList <+: _
    rw [String.toList_ofList, String.toList_append, List.map_append, hlower]
    exact List.prefix_append _ _
  · cases h

/-- Whatever an impersonation sends for its extra attributes says so. -/
theorem carriesExtra_of_mem_extraHeaders (h : p.extraHeaders = .ok headers)
    (hmem : header ∈ headers) : CarriesExtra header := by
  obtain ⟨lists, hlists, rfl⟩ := map_eq_ok_iff.mp h
  obtain ⟨list, hlist, hheader⟩ := List.mem_flatten.mp hmem
  obtain ⟨a, -, ha⟩ := exists_of_mem_mapM hlists hlist
  rw [attributeHeaders] at ha
  split at ha
  · rename_i name hname
    obtain ⟨value, -, hvalue⟩ := exists_of_mem_mapM ha hheader
    rw [valueHeader] at hvalue
    split at hvalue
    · cases hvalue
      exact carriesExtra_of_headerFor hname value
    · cases hvalue
  · cases ha

/-! ## What is kept -/

/-- The headers of settings that carry no extra attribute. -/
def otherHeaders (settings : ClientSettings) : List (String × String) :=
  settings.headers.filter fun header => ¬ CarriesExtra header

/-- Where its headers may be sent, an impersonation replaces everything but the other headers. -/
theorem apply_eq (h : p.extraHeaders = .ok headers) (before : ClientSettings) :
    p.apply before = .ok {
      user? := some p.user
      groups? := if p.groups = [] then none else some p.groups
      headers := otherHeaders before ++ headers } := by
  have hothers : before.headers.filter (fun header => !isExtraHeader header)
      = otherHeaders before :=
    List.filter_congr fun header _ => by
      rw [Bool.eq_iff_iff, Bool.not_eq_true', ← Bool.not_eq_true, isExtraHeader_iff,
        decide_eq_true_iff]
  simp only [apply, h, hothers, List.isEmpty_iff]
  rfl

/-- Settings with the same other headers become the same, or fail in the same way. -/
theorem apply_eq_of_others_eq (h : otherHeaders before = otherHeaders after) :
    p.apply before = p.apply after := by
  cases hp : p.extraHeaders with
  | ok headers => rw [apply_eq hp, apply_eq hp, h]
  | error e => rw [apply, apply, hp]; rfl

/-- An application keeps the other headers. -/
theorem otherHeaders_apply (h : p.apply before = .ok after) :
    otherHeaders after = otherHeaders before := by
  obtain ⟨headers, hheaders, -⟩ := bind_eq_ok_iff.mp h
  obtain rfl := Except.ok.inj ((apply_eq hheaders before).symm.trans h)
  have hextra : headers.filter (fun header => ¬ CarriesExtra header) = [] := by
    refine List.filter_eq_nil_iff.mpr fun header hmem => ?_
    simpa using carriesExtra_of_mem_extraHeaders hheaders hmem
  rw [otherHeaders, List.filter_append, hextra, List.append_nil, otherHeaders, List.filter_filter]
  simp only [Bool.and_self]

/-- Whoever the settings were for before, those of an impersonation whose headers are legal say
what it says and nothing else: its user, its groups or none, and of headers for extra attributes
exactly its own, in order; all other headers are kept in order. What comes out depends on these
other headers alone. So it makes no difference whether another impersonation was applied before, and
to apply one twice is to apply it once. -/
theorem apply_leaves_nothing_stale (h : p.extraHeaders = .ok headers) :
    (∀ before, ∃ after, p.apply before = .ok after ∧
      after.user? = some p.user ∧
      after.groups? = (if p.groups = [] then none else some p.groups) ∧
      after.headers.filter (fun header => CarriesExtra header) = headers ∧
      after.headers.filter (fun header => ¬ CarriesExtra header)
        = before.headers.filter (fun header => ¬ CarriesExtra header)) ∧
      (∀ before others : ClientSettings,
        before.headers.filter (fun header => ¬ CarriesExtra header)
          = others.headers.filter (fun header => ¬ CarriesExtra header) →
        p.apply before = p.apply others) ∧
      (∀ q headers, extraHeaders q = .ok headers → ∀ before,
        (q.apply before >>= p.apply) = p.apply before) ∧
      ∀ before, (p.apply before >>= p.apply) = p.apply before := by
  have after_applied {q : Impersonation} {headers : List (String × String)}
      (hq : q.extraHeaders = .ok headers) (before : ClientSettings) :
      (q.apply before >>= p.apply) = p.apply before := by
    have happlied := apply_eq hq before
    rw [happlied]
    exact apply_eq_of_others_eq (otherHeaders_apply happlied)
  refine ⟨fun before => ?_, fun before others => apply_eq_of_others_eq,
    fun q headers hq => after_applied hq, after_applied h⟩
  have happlied := apply_eq h before
  refine ⟨_, happlied, rfl, rfl, ?_, otherHeaders_apply happlied⟩
  have hothers : (otherHeaders before).filter (fun header => CarriesExtra header) = [] := by
    simp [otherHeaders, List.filter_filter]
  have hextra : headers.filter (fun header => CarriesExtra header) = headers :=
    List.filter_eq_self.mpr fun header hmem =>
      decide_eq_true (carriesExtra_of_mem_extraHeaders h hmem)
  rw [List.filter_append, hothers, hextra, List.nil_append]

/-- An administrator with groups before a user without any. -/
theorem user_applied_after_administrator :
    let admin : Impersonation :=
      ⟨"root@example.com", ["system:masters"], [("Sub", ["root"]), ("scopes", ["all"])]⟩
    let p : Impersonation := ⟨"jane@example.com", [], [("agent", ["mcp-kubernetes"])]⟩
    let base : ClientSettings := {
      user? := some "stale"
      headers := [("impersonate-extra-stale", "old"), ("accept", "*"), ("user-agent", "kmcp")] }
    let applied : ClientSettings := {
      user? := some "jane@example.com"
      headers := [("accept", "*"), ("user-agent", "kmcp"),
        ("impersonate-extra-agent", "mcp-kubernetes")] }
    (admin.apply base >>= p.apply) = .ok applied ∧ p.apply applied = .ok applied := by
  intro admin p base applied
  have hlegal : p.extraHeaders = .ok [("impersonate-extra-agent", "mcp-kubernetes")] := by
    decide +kernel
  have hadmin : admin.extraHeaders
      = .ok [("impersonate-extra-sub", "root"), ("impersonate-extra-scopes", "all")] := by
    decide +kernel
  obtain ⟨-, -, hafter, htwice⟩ := apply_leaves_nothing_stale hlegal
  have happlied : p.apply base = .ok applied := by decide +kernel
  refine ⟨(hafter admin _ hadmin base).trans happlied, ?_⟩
  have htwice : (p.apply base >>= p.apply) = p.apply base := htwice base
  rwa [happlied] at htwice

end FleetGate.Impersonation
