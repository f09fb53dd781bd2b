import FleetGate.Proofs.Net.Redaction

/-! # What redaction shows

A literal is only replaced where nothing else is counted as part of the address. User information
and a query in front of the first slash are, unless brackets or a port tell them from it, and behind
a misread mark of a scheme something else is taken for the address: in these three cases the literal
is shown in its place, and in all others it is not (`WrittenHost.literal_shown_iff`).
-/

namespace FleetGate.Net

open Text

namespace WrittenHost

variable {u : WrittenHost} {out : List Char}

theorem shows_of_suffix (h : u.address ++ u.behind <:+ out) : u.Shows out := by
  obtain ⟨front, rfl⟩ := h
  exact ⟨front, u.behind, (List.append_assoc _ _ _).symm, Or.inr rfl⟩

/-- What is replaced behind user information is a part of the user information. -/
theorem shows_of_user (hu : u.WellFormed) (hliteral : u.HasLiteral) (hmisread : ¬ u.Misread)
    (huser : u.user? ≠ none) : u.Shows (redactChars u.text) := by
  obtain ⟨user, huser⟩ := Option.ne_none_iff_exists'.mp huser
  have huserText : u.userText = user ++ ['@'] := by rw [userText, huser]
  obtain ⟨address', port', hport⟩ : ∃ address' port', splitPort u.authority = (address', port') :=
    ⟨_, _, rfl⟩
  have hwhole : address' ++ port' = u.authority := by
    rw [← splitPort_append u.authority, hport]
  rw [hu.redactChars_text hliteral.ne_nil hmisread (hliteral.notMem (by decide)) hport]
  split
  · rename_i haddress
    have hat : '@' ∉ address' := fun hc =>
      absurd (isAddressChar_of_withoutBrackets haddress hc (by decide) (by decide)) (by decide)
    have hwithin : address' <+: u.userText := by
      have hfront : u.userText <+: u.authority := ⟨_, (List.append_assoc _ _ _).symm⟩
      rcases List.prefix_or_prefix_of_prefix ⟨port', hwhole⟩ hfront with hshort | hlong
      · exact hshort
      · exact absurd (hlong.subset (by simp [huserText])) hat
    obtain ⟨left, hleft⟩ := hwithin
    have hport' : port' = left ++ u.literal ++ (u.portText ++ u.query) := by
      rw [authority, ← hleft, List.append_assoc, List.append_assoc] at hwhole
      rw [List.append_cancel_left hwhole, List.append_assoc]
    refine shows_of_suffix ⟨u.schemeText ++ redactedAddress ++ left ++ u.opening, ?_⟩
    have hrest := u.query_append_path
    simp only [hport', literal, behind, List.append_assoc, hrest]
  · exact u.shows_text

/-- A query that is joined to the address starts within what is cut out as the address. -/
theorem mem_splitPort_of_joined (hliteral : u.HasLiteral) (hjoined : u.Joined) {c : Char}
    {tail : List Char} (hquery : u.query = c :: tail) (hc : c ≠ ':') :
    c ∈ (splitPort (u.address ++ (u.portText ++ u.query))).1 := by
  have hhead := hliteral.head?_append_ne (show ¬ IsAddressChar '[' by decide)
    (u.portText ++ u.query)
  by_cases hcount : (u.address ++ (u.portText ++ u.query)).count ':' = 1
  · -- the one colon is neither part of the address nor that of a port
    have hnone : ':' ∉ u.address ∧ u.portText = [] := by
      rw [List.count_append, List.count_append] at hcount
      rcases hjoined.2.2 with hport | hcolon
      · refine ⟨?_, by rw [portText, hport]⟩
        rcases hliteral with ⟨hIPv4, -⟩ | ⟨hIPv6, -⟩
        · exact colon_notMem_of_isIPv4 hIPv4
        · have htwo := two_le_count_of_isIPv6 hIPv6
          omega
      · have hone := List.count_pos_iff.mpr hcolon
        refine ⟨List.count_eq_zero.mp (by omega), ?_⟩
        cases hport : u.port? with
        | none => rw [portText, hport]
        | some port =>
            rw [portText, hport, List.count_cons_self] at hcount
            omega
    have hfront : u.address ++ [c] <+: u.address ++ (u.portText ++ u.query) :=
      ⟨tail, by simp [hnone.2, hquery]⟩
    have hcolon : ':' ∉ u.address ++ [c] := by simp [hnone.1, Ne.symm hc]
    exact (prefix_splitPort hhead hfront hcolon).subset (by simp)
  · rw [splitPort_whole hhead hcount, hquery]
    simp

/-- What a query is joined to is no address. -/
theorem redactChars_joined (hu : u.WellFormed) (hliteral : u.HasLiteral) (hmisread : ¬ u.Misread)
    (huser : u.user? = none) (hjoined : u.Joined) : redactChars u.text = u.text := by
  obtain ⟨c, tail, hquery, hmark⟩ := hu.exists_query_eq hjoined.2.1
  have hauthority : u.authority = u.address ++ (u.portText ++ u.query) := by
    simp [authority, userText, literal, opening, closing, hjoined.1, huser]
  have hplace : ¬ IsAddressChar c ∧ c ≠ ':' ∧ c ≠ '[' ∧ c ≠ ']' := by
    rcases hmark with rfl | rfl <;> decide
  obtain ⟨hchar, hcolon, hopen, hclose⟩ := hplace
  have hmem := mem_splitPort_of_joined hliteral hjoined hquery hcolon
  have hnone : ¬ isAddress (withoutBrackets (splitPort u.authority).1) = true := by
    intro haddress
    rw [hauthority] at haddress
    exact hchar (isAddressChar_of_withoutBrackets haddress hmem hopen hclose)
  have hcut : splitPort u.authority = ((splitPort u.authority).1, (splitPort u.authority).2) := rfl
  rw [hu.redactChars_text hliteral.ne_nil hmisread (hliteral.notMem (by decide)) hcut, if_neg hnone]

/-- A literal is shown in its place exactly if user information is in front of it, or the mark of a
scheme is misread, or a query is joined to it. -/
theorem literal_shown_iff (hu : u.WellFormed) (hliteral : u.HasLiteral) :
    u.Shows (redactHost (.ofList u.text)).toList ↔ u.user? ≠ none ∨ u.Misread ∨ u.Joined := by
  rw [redactHost_ofList, String.toList_ofList]
  by_cases hmisread : u.Misread
  · exact iff_of_true (shows_of_misread hu hliteral hmisread) (Or.inr (Or.inl hmisread))
  by_cases huser : u.user? = none
  · by_cases hjoined : u.Joined
    · rw [redactChars_joined hu hliteral hmisread huser hjoined]
      exact iff_of_true u.shows_text (Or.inr (Or.inr hjoined))
    · rw [redactChars_literal hu hliteral huser hmisread hjoined]
      refine iff_of_false (not_shows_redacted hliteral huser) ?_
      rintro (hsome | hscheme | hquery)
      · exact hsome huser
      · exact hmisread hscheme
      · exact hjoined hquery
  · exact iff_of_true (shows_of_user hu hliteral hmisread huser) (Or.inl huser)

/-- Brackets and a port tell a literal from the query. -/
theorem literal_hidden_before_query :
    ∃ u : WrittenHost, u.text = "https://[fd00::1]:6443?timeout=5s".toList ∧
      ¬ u.Shows (redactHost (.ofList u.text)).toList := by
  let u : WrittenHost := ⟨some "https".toList, none, true, "fd00::1".toList, some "6443".toList,
    "?timeout=5s".toList⟩
  have hu : u.WellFormed := by decide
  refine ⟨u, rfl, fun hshown => ?_⟩
  rcases (literal_shown_iff hu (Or.inr (by decide))).mp hshown with huser | hmisread | hjoined
  · exact huser rfl
  · cases hmisread.1
  · cases hjoined.1

/-- User information, a query and a mark of a scheme in the path each leave the address shown. -/
theorem literal_shown_beside_other_parts :
    ∃ u v w : WrittenHost,
      (u.WellFormed ∧ u.HasLiteral ∧ u.text = "https://admin@10.0.1.5:6443".toList ∧
        u.user? = some "admin".toList ∧ u.Shows (redactHost (.ofList u.text)).toList) ∧
      (v.WellFormed ∧ v.HasLiteral ∧ v.text = "https://10.0.1.5?timeout=5s".toList ∧
        v.rest = "?timeout=5s".toList ∧ v.Shows (redactHost (.ofList v.text)).toList) ∧
      (w.WellFormed ∧ w.HasLiteral ∧ w.text = "10.0.1.5/proxy/http://example.com".toList ∧
        w.rest = "/proxy/http://example.com".toList ∧
        w.Shows (redactHost (.ofList w.text)).toList) := by
  let u : WrittenHost := ⟨some "https".toList, some "admin".toList, false, "10.0.1.5".toList,
    some "6443".toList, []⟩
  let v : WrittenHost := ⟨some "https".toList, none, false, "10.0.1.5".toList, none,
    "?timeout=5s".toList⟩
  let w : WrittenHost := ⟨none, none, false, "10.0.1.5".toList, none,
    "/proxy/http://example.com".toList⟩
  refine ⟨u, v, w, ⟨by decide, Or.inl (by decide), rfl, rfl, ?_⟩,
    ⟨by decide, Or.inl (by decide), rfl, rfl, ?_⟩, by decide, Or.inl (by decide), rfl, rfl, ?_⟩
  · exact ⟨u.before, u.behind, by decide, Or.inl rfl⟩
  · exact ⟨v.before, v.behind, by decide, Or.inl rfl⟩
  · exact ⟨w.before, w.behind, by decide, Or.inl rfl⟩

end WrittenHost

end FleetGate.Net
