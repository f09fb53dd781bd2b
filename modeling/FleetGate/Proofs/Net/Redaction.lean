import FleetGate.Proofs.Net.Written

/-! # What redaction replaces

Redaction replaces a literal wherever a host is cut as it was written: by the placeholder, with
everything around it as it was (`WrittenHost.redactChars_literal`). Names stay, and a second
redaction finds nothing to replace. Where the mark of a scheme is misread the text in front of it
is kept and the literal with it, which happens to a host without user information and query in one
case only: the literal ends in a colon, as `fd00::` does, and two slashes follow.
-/

namespace FleetGate.Net

open Text

/-- The placeholder is in brackets. -/
theorem redactedAddress_eq : redactedAddress = '[' :: "redacted-ip".toList ++ [']'] := by decide

namespace WrittenHost

variable {u : WrittenHost} {out : List Char}

/-! ## What is shown -/

/-- The address is shown in its place: what was in front of it still is, or what was behind it. -/
def Shows (u : WrittenHost) (out : List Char) : Prop :=
  ∃ front back, out = front ++ u.address ++ back ∧ (front = u.before ∨ back = u.behind)

theorem shows_text (u : WrittenHost) : u.Shows u.text := ⟨u.before, u.behind, rfl, Or.inl rfl⟩

theorem shows_of_prefix (h : u.before ++ u.address <+: out) : u.Shows out := by
  obtain ⟨back, rfl⟩ := h
  exact ⟨u.before, back, rfl, Or.inl rfl⟩

/-- The placeholder does not look like the address in its place. -/
theorem not_shows_redacted (hliteral : u.HasLiteral) (huser : u.user? = none) :
    ¬ u.Shows u.redacted := by
  have huserText : u.userText = [] := by rw [userText, huser]
  rintro ⟨front, back, hout, rfl | rfl⟩
  · -- the placeholder starts with a bracket, and a letter that no address has follows it
    rw [redacted, before, huserText] at hout
    simp only [List.append_assoc, List.append_nil] at hout
    have hrest := List.append_cancel_left hout
    rw [opening] at hrest
    split at hrest
    · have hfirst := congrArg List.head? (List.cons.inj hrest).2
      exact hliteral.head?_append_ne (show ¬ IsAddressChar 'r' by decide) back hfirst.symm
    · have hfirst := congrArg List.head? hrest
      exact hliteral.head?_append_ne (show ¬ IsAddressChar '[' by decide) back hfirst.symm
  · -- it ends with a bracket, and a letter that no address has is in front of it
    rw [redacted, behind] at hout
    simp only [← List.append_assoc] at hout
    have hrest := List.append_cancel_right (List.append_cancel_right hout)
    rw [closing, redactedAddress_eq, ← List.append_assoc] at hrest
    split at hrest
    · have hlast := congrArg List.getLast? (List.append_cancel_right hrest)
      refine hliteral.getLast?_append_ne (show ¬ IsAddressChar 'p' by decide) front ?_
      rw [← hlast]
      simp
    · have hlast := congrArg List.getLast? hrest
      refine hliteral.getLast?_append_ne (show ¬ IsAddressChar ']' by decide) front ?_
      rw [List.append_nil] at hlast
      rw [← hlast]
      simp

/-! ## Hosts that are cut as they were written -/

/-- A literal that is told from what stands around it is replaced. -/
theorem redactChars_literal (hu : u.WellFormed) (hliteral : u.HasLiteral) (huser : u.user? = none)
    (hmisread : ¬ u.Misread) (hjoined : ¬ u.Joined) : redactChars u.text = u.redacted := by
  have hslash : '/' ∉ u.address := hliteral.notMem (by decide)
  have huserText : u.userText = [] := by rw [userText, huser]
  have hport : splitPort u.authority = (u.literal, u.portText ++ u.query) := by
    rw [authority, huserText, List.nil_append]
    exact splitPort_literal hu hliteral hjoined
  have hinside : withoutBrackets u.literal = u.address :=
    withoutBrackets_literal (hliteral.notMem (by decide)) (hliteral.notMem (by decide))
  rw [hu.redactChars_text hliteral.ne_nil hmisread hslash hport, hinside, if_pos hliteral.isAddress,
    redacted_eq, huserText]
  simp only [List.append_assoc, List.nil_append]

/-- The literal is shown where the mark of a scheme is misread. -/
theorem shows_of_misread (hu : u.WellFormed) (hliteral : u.HasLiteral) (hmisread : u.Misread) :
    u.Shows (redactChars u.text) := by
  have hslash : '/' ∉ u.before ++ u.address := by
    have hscheme : u.schemeText = [] := by rw [schemeText, hmisread.1]
    have haddress : '/' ∉ u.address := hliteral.notMem (by decide)
    rw [before, hscheme, opening]
    split <;> simp [hu.slash_notMem_userText, haddress]
  exact shows_of_prefix (hu.prefix_redactChars hliteral.ne_nil hmisread.2 ⟨u.behind, rfl⟩ hslash)

/-! ## Hosts without user information and query -/

/-- An address is written with a scheme, a port and a path at most, and if there is no scheme there
is no mark of one in the path. -/
structure Plain (u : WrittenHost) : Prop where
  user : u.user? = none
  rest : ∀ c ∈ u.rest.head?, c = '/'
  mark : u.scheme? = none → ¬ schemeMark <:+: u.rest

/-- The address is a name: letters of any script, digits, hyphens, points, whatever does not divide
the parts of a host, and no literal. -/
structure HasName (u : WrittenHost) : Prop where
  bracketed : u.bracketed = false
  ne_nil : u.address ≠ []
  notMem : ∀ c ∈ u.address, c ≠ ':' ∧ c ≠ '/' ∧ c ≠ '[' ∧ c ≠ ']'
  isIPv4 : isIPv4 u.address = false

/-- The address ends in a colon that is taken for one of the mark of a scheme, with the slashes
that follow it. -/
def Straddles (u : WrittenHost) : Prop :=
  u.scheme? = none ∧ u.bracketed = false ∧ [':'] <:+ u.address ∧ ['/', '/'] <+: u.rest

namespace Plain

variable (hplain : u.Plain)
include hplain

theorem query_eq : u.query = [] := by
  rw [query, cutBefore]
  cases hrest : u.rest with
  | nil => rfl
  | cons c tail =>
      have hc : c = '/' := hplain.rest c (by rw [hrest]; rfl)
      simp [hc]

theorem userText_eq : u.userText = [] := by rw [userText, hplain.user]

theorem not_joined : ¬ u.Joined := fun h => h.2.1 hplain.query_eq

/-- The mark of a scheme is misread only where the address ends in a colon and no port follows. -/
theorem misread_iff (hu : u.WellFormed) (hslash : '/' ∉ u.address) :
    u.Misread ↔ u.port? = none ∧ u.Straddles := by
  rw [Misread, Straddles, and_left_comm]
  refine and_congr_right fun hscheme => ?_
  have hschemeText : u.schemeText = [] := by rw [schemeText, hscheme]
  have htext : u.text = u.literal ++ u.portText ++ u.rest := by
    simp [text, before, behind, literal, hschemeText, hplain.userText_eq]
  have hfront : '/' ∉ u.literal ++ u.portText := by
    have hport := hu.notMem_portText (show '/' ≠ ':' by decide) (by decide)
    simp [slash_notMem_literal hslash, hport]
  rw [htext, schemeMark_infix_append_iff hfront, or_iff_left (hplain.mark hscheme),
    List.singleton_suffix_iff_getLast?_eq_some, List.singleton_suffix_iff_getLast?_eq_some,
    ← and_assoc, ← and_assoc]
  refine and_congr_left fun _ => ?_
  rw [portText, literal, opening, closing]
  cases hport : u.port? with
  | some port =>
      -- a port ends in a digit
      obtain ⟨hne, -⟩ := hu.port port hport
      have hdigit : port.getLast? ≠ some ':' := fun hlast =>
        hu.colon_notMem_port hport (List.mem_of_getLast? hlast)
      simp [List.getLast?_cons_of_ne_nil, hne, hdigit]
  | none =>
      cases u.bracketed with
      | true =>
          have hlast : ('[' :: (u.address ++ [']'])).getLast? = some ']' :=
            List.getLast?_concat (l := '[' :: u.address)
          simp [hlast]
      | false => simp

theorem misread_of_literal (hu : u.WellFormed) (hliteral : u.HasLiteral) :
    u.Misread ↔ u.Straddles := by
  rw [hplain.misread_iff hu (hliteral.notMem (by decide)), and_iff_right_iff_imp]
  rintro ⟨-, hbracketed, hcolon, -⟩
  rcases hliteral with ⟨hIPv4, -⟩ | ⟨-, hopen | hport⟩
  · exact absurd (hcolon.subset List.mem_cons_self) (colon_notMem_of_isIPv4 hIPv4)
  · rw [hbracketed] at hopen
    cases hopen
  · exact hport

/-- The placeholder stands for a literal, unless the literal straddles the mark of a scheme. -/
theorem redactChars_literal_iff (hu : u.WellFormed) (hliteral : u.HasLiteral) :
    redactChars u.text = u.redacted ↔ ¬ u.Straddles := by
  rw [← hplain.misread_of_literal hu hliteral]
  constructor
  · intro heq hmisread
    have hshown := shows_of_misread hu hliteral hmisread
    rw [heq] at hshown
    exact not_shows_redacted hliteral hplain.user hshown
  · intro hmisread
    exact redactChars_literal hu hliteral hplain.user hmisread hplain.not_joined

end Plain

namespace HasName

variable (hname : u.HasName) {c : Char}
include hname

theorem notMem_address (hc : ¬ (c ≠ ':' ∧ c ≠ '/' ∧ c ≠ '[' ∧ c ≠ ']')) : c ∉ u.address :=
  fun hmem => hc (hname.notMem c hmem)

theorem isAddress_eq_false : isAddress (withoutBrackets u.address) = false := by
  rw [withoutBrackets_of_notMem (hname.notMem_address (by decide))
    (hname.notMem_address (by decide))]
  exact Net.isAddress_eq_false (hname.notMem_address (by decide)) hname.isIPv4

/-- A name is told from the port. -/
theorem splitPort_authority (hu : u.WellFormed) (hplain : u.Plain) :
    splitPort u.authority = (u.address, u.portText) := by
  have hcolon : ':' ∉ u.address := hname.notMem_address (by decide)
  have hhead := head?_append_ne hname.ne_nil (hname.notMem_address (c := '[') (by decide))
  have hauthority : u.authority = u.address ++ u.portText := by
    simp [authority, literal, opening, closing, hname.bracketed, hplain.userText_eq,
      hplain.query_eq]
  rw [hauthority, portText]
  cases hport : u.port? with
  | some port => exact splitPort_colon (hhead _) rfl hcolon (hu.colon_notMem_port hport)
  | none =>
      rw [List.append_nil]
      refine splitPort_whole (by simpa using hhead []) ?_
      rw [List.count_eq_zero.mpr hcolon]
      decide

/-- A name is left as it is. -/
theorem redactChars_text (hu : u.WellFormed) (hplain : u.Plain) : redactChars u.text = u.text := by
  have hslash : '/' ∉ u.address := hname.notMem_address (by decide)
  have hmisread : ¬ u.Misread := by
    rw [hplain.misread_iff hu hslash]
    rintro ⟨-, -, -, hsuffix, -⟩
    exact hname.notMem_address (c := ':') (by decide) (hsuffix.subset List.mem_cons_self)
  rw [hu.redactChars_text hname.ne_nil hmisread hslash (hname.splitPort_authority hu hplain),
    hname.isAddress_eq_false]
  simp

end HasName

end WrittenHost

/-! ## Redaction of what was redacted -/

/-- A host with the placeholder in the place of its address has the same parts around it. -/
theorem HostParts.IsCut.redacted {parts : HostParts} {host : List Char} (h : parts.IsCut host) :
    HostParts.IsCut { parts with address := redactedAddress }
      (parts.scheme ++ (redactedAddress ++ parts.port ++ parts.path)) := by
  refine ⟨rfl, ?_, ?_, h.path, ?_⟩
  · refine h.scheme.imp (fun ⟨hnone, hmark⟩ => ⟨hnone, fun hwithin => hmark ?_⟩) id
    -- a mark of a scheme does not reach over the closing bracket
    rw [hnone, List.nil_append, redactedAddress_eq, List.append_assoc, List.append_assoc,
      List.singleton_append, infix_append_cons_iff (by decide) (by decide)] at hwithin
    have hplain : ':' ∉ '[' :: "redacted-ip".toList := by decide
    have hbehind : schemeMark <:+: parts.port ++ parts.path :=
      hwithin.resolve_left fun hfront => hplain (hfront.subset List.mem_cons_self)
    refine hbehind.trans ⟨parts.scheme ++ parts.address, [], ?_⟩
    rw [h.whole]
    simp
  · have hport : '/' ∉ parts.port := fun hc => h.authority (List.mem_append_right _ hc)
    have hslash : '/' ∉ redactedAddress := by decide
    simp [hport, hslash]
  · rw [redactedAddress_eq, List.append_assoc, List.singleton_append]
    exact splitPort_bracketed (by decide) parts.port

/-- A host with the placeholder is as free of white space around it as it was. -/
theorem HostParts.IsCut.trimChars_redacted {parts : HostParts} {host : List Char}
    (h : parts.IsCut host) (hspace : trimChars host = host) :
    trimChars (parts.scheme ++ (redactedAddress ++ parts.port ++ parts.path))
      = parts.scheme ++ (redactedAddress ++ parts.port ++ parts.path) := by
  apply trimChars_eq_self
  · intro c hc
    by_cases hscheme : parts.scheme = []
    · rw [hscheme, redactedAddress_eq] at hc
      cases hc
      decide
    · rw [List.head?_append_of_ne_nil _ hscheme] at hc
      refine not_isSpace_of_trimChars hspace (Or.inl ?_)
      rwa [h.whole, List.head?_append_of_ne_nil _ hscheme]
  · intro c hc
    rw [List.append_assoc, ← List.append_assoc] at hc
    by_cases hbehind : parts.port ++ parts.path = []
    · rw [hbehind, List.append_nil, redactedAddress_eq, ← List.append_assoc,
        List.getLast?_concat] at hc
      cases hc
      decide
    · rw [List.getLast?_append_of_ne_nil _ hbehind] at hc
      refine not_isSpace_of_trimChars hspace (Or.inr ?_)
      rwa [h.whole, List.append_assoc, ← List.append_assoc,
        List.getLast?_append_of_ne_nil _ hbehind]

/-- Nothing is left to replace. -/
theorem redactChars_redactChars (host : List Char) :
    redactChars (redactChars host) = redactChars host := by
  rw [← redactChars_trimChars host]
  have hspace := trimChars_trimChars host
  generalize trimChars host = host at hspace
  by_cases hne : host = []
  · subst hne
    decide
  · have hcut := HostParts.of_isCut host
    by_cases haddress : isAddress (withoutBrackets (HostParts.of host).address) = true
    · have hplaceholder : isAddress (withoutBrackets redactedAddress) = false := by decide
      have hne' : (HostParts.of host).scheme
          ++ (redactedAddress ++ (HostParts.of host).port ++ (HostParts.of host).path) ≠ [] := by
        simp [redactedAddress_eq]
      rw [redactChars_of_isCut hspace hne hcut, if_pos haddress,
        redactChars_of_isCut (hcut.trimChars_redacted hspace) hne' hcut.redacted, hplaceholder]
      rfl
    · have hsame : redactChars host = host := by
        rw [redactChars_of_isCut hspace hne hcut, if_neg haddress]
      rw [hsame, hsame]

theorem redactHost_ofList (host : List Char) :
    redactHost (.ofList host) = .ofList (redactChars host) := by
  rw [redactHost, String.toList_ofList]

/-! ## The theorem -/

/-- For a host of a scheme, an address, a port and a path, of which only the address must be there:
a literal is replaced and nothing else, unless it straddles the mark of a scheme; a name stays; and
whatever the host is, a second redaction changes nothing. -/
theorem redaction_exact_iff (u : WrittenHost) (host : String) :
    (u.WellFormed → u.Plain → u.HasLiteral →
      (redactHost (.ofList u.text) = .ofList u.redacted ↔ ¬ u.Straddles)) ∧
    (u.WellFormed → u.Plain → u.HasName → redactHost (.ofList u.text) = .ofList u.text) ∧
    redactHost (redactHost host) = redactHost host := by
  refine ⟨fun hu hplain hliteral => ?_, fun hu hplain hname => ?_, ?_⟩
  · rw [redactHost_ofList, String.ofList_inj]
    exact hplain.redactChars_literal_iff hu hliteral
  · rw [redactHost_ofList, hname.redactChars_text hu hplain]
  · rw [redactHost, redactHost, String.toList_ofList, redactChars_redactChars]

/-- A literal in brackets behind a scheme, and a name with a port. -/
theorem endpoints_redacted :
    redactHost "https://[fd00::1]:6443/healthz" = "https://[redacted-ip]:6443/healthz" ∧
      redactHost "api.example.com:6443" = "api.example.com:6443" := by
  constructor
  · let u : WrittenHost := ⟨some "https".toList, none, true, "fd00::1".toList,
      some "6443".toList, "/healthz".toList⟩
    have hu : u.WellFormed := by decide
    have hplain : u.Plain := ⟨rfl, fun c hc => by cases hc; rfl, nofun⟩
    exact ((redaction_exact_iff u "").1 hu hplain (Or.inr (by decide))).mpr nofun
  · let u : WrittenHost := ⟨none, none, false, "api.example.com".toList, some "6443".toList, []⟩
    have hu : u.WellFormed := by decide
    have hplain : u.Plain := ⟨rfl, nofun, fun _ => by decide⟩
    have hname : u.address.all (fun c => c ≠ ':' ∧ c ≠ '/' ∧ c ≠ '[' ∧ c ≠ ']') = true := by decide
    exact (redaction_exact_iff u "").2.1 hu hplain
      ⟨rfl, by decide, fun c hc => by simpa using List.all_eq_true.mp hname c hc, by decide⟩

/-- The first `://` of this host is half address and half path, so that the address stays. -/
theorem straddling_literal_kept :
    ∃ u : WrittenHost, u.WellFormed ∧ u.Plain ∧ u.HasLiteral ∧
      u.text = "fd00:://healthz".toList ∧ u.redacted = "[redacted-ip]//healthz".toList ∧
      redactHost (.ofList u.text) = "fd00:://healthz" ∧
      redactHost (.ofList u.text) ≠ .ofList u.redacted := by
  refine ⟨⟨none, none, false, "fd00::".toList, none, "//healthz".toList⟩,
    by decide, ⟨rfl, fun c hc => by cases hc; rfl, fun _ hmark => ?_⟩,
    Or.inr (by decide), rfl, rfl, by decide, by decide⟩
  exact absurd (hmark.subset List.mem_cons_self) (by decide)

end FleetGate.Net
