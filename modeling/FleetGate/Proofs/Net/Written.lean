import FleetGate.Proofs.Net.HostParts

/-! # Hosts as they are written

A host is written with an address and, around it, a scheme, user information, brackets, a port and
what follows. It is cut where it was put together, with two exceptions. A host without a scheme is
cut behind a `://` that stands further on (`WrittenHost.Misread`), and whatever stands in front of
the first slash counts as part of the address or the port, user information and a query too.
-/

namespace FleetGate.Net

open Text

/-- An address with what may be written around it. -/
structure WrittenHost where
  scheme? : Option (List Char)
  user? : Option (List Char)
  bracketed : Bool
  address : List Char
  port? : Option (List Char)
  rest : List Char

namespace WrittenHost

variable {u : WrittenHost} {front back address' port' : List Char} {c : Char}

/-! ## The text -/

section
variable (u : WrittenHost)

def schemeText : List Char :=
  match u.scheme? with
  | some scheme => scheme ++ schemeMark
  | none => []

def userText : List Char :=
  match u.user? with
  | some user => user ++ ['@']
  | none => []

def opening : List Char := if u.bracketed then ['['] else []

def closing : List Char := if u.bracketed then [']'] else []

def portText : List Char :=
  match u.port? with
  | some port => ':' :: port
  | none => []

/-- What stands in front of the address. -/
def before : List Char := u.schemeText ++ u.userText ++ u.opening

/-- What stands behind the address. -/
def behind : List Char := u.closing ++ u.portText ++ u.rest

/-- The host. -/
def text : List Char := u.before ++ u.address ++ u.behind

/-- The host with a placeholder for the address and its brackets. -/
def redacted : List Char :=
  u.schemeText ++ u.userText ++ redactedAddress ++ u.portText ++ u.rest

/-- The address in its brackets. -/
def literal : List Char := u.opening ++ u.address ++ u.closing

/-- What follows in front of the first slash: a query or a fragment. -/
def query : List Char := (cutBefore '/' u.rest).1

/-- What follows from the first slash on. -/
def path : List Char := (cutBefore '/' u.rest).2

/-- What stands between the scheme and the path. -/
def authority : List Char := u.userText ++ u.literal ++ (u.portText ++ u.query)

/-- The parts of a host are as an address has them, and no white space is around it. -/
structure WellFormed : Prop where
  scheme : ∀ scheme ∈ u.scheme?, ':' ∉ scheme
  user : ∀ user ∈ u.user?, '/' ∉ user
  port : ∀ port ∈ u.port?, port ≠ [] ∧ ∀ d ∈ port, '0' ≤ d ∧ d ≤ '9'
  rest : ∀ c ∈ u.rest.head?, c = '/' ∨ c = '?' ∨ c = '#'
  trimmed : trimChars u.text = u.text

instance : Decidable u.WellFormed :=
  decidable_of_iff
    ((u.scheme?.all (!·.contains ':') && u.user?.all (!·.contains '/') &&
      u.port?.all (fun port => !port.isEmpty && port.all fun d => '0' ≤ d && d ≤ '9') &&
      u.rest.head?.all (fun c => c = '/' || c = '?' || c = '#') &&
      trimChars u.text == u.text) = true) <| by
    simp only [Bool.and_eq_true, Option.all_eq_true, List.all_eq_true, Bool.or_eq_true,
      decide_eq_true_eq, Bool.not_eq_true', List.isEmpty_eq_false_iff, List.contains_eq_mem,
      decide_eq_false_iff_not, beq_iff_eq, or_assoc]
    exact ⟨fun ⟨⟨⟨⟨hscheme, huser⟩, hport⟩, hrest⟩, htrimmed⟩ =>
        ⟨hscheme, huser, hport, hrest, htrimmed⟩,
      fun h => ⟨⟨⟨⟨h.scheme, h.user⟩, h.port⟩, h.rest⟩, h.trimmed⟩⟩

/-- The address is a literal: one of IPv4, or one of IPv6, in brackets if a port follows. -/
def HasLiteral : Prop :=
  (isIPv4 u.address = true ∧ u.bracketed = false) ∨
    (isIPv6 u.address = true ∧ (u.bracketed = true ∨ u.port? = none))

/-- There is no scheme, and yet a mark of one. -/
def Misread : Prop := u.scheme? = none ∧ schemeMark <:+: u.text

/-- The query is not told from the address: no bracket and no port is between them, or there is a
colon in the query. -/
def Joined : Prop := u.bracketed = false ∧ u.query ≠ [] ∧ (u.port? = none ∨ ':' ∈ u.query)

theorem query_append_path : u.query ++ u.path = u.rest := cutBefore_append_cutBefore '/' u.rest

theorem text_eq : u.text = u.schemeText ++ (u.authority ++ u.path) := by
  have hrest := u.query_append_path
  simp only [text, before, behind, authority, literal, List.append_assoc, hrest]

theorem redacted_eq :
    u.redacted
      = u.schemeText ++ u.userText ++ redactedAddress ++ (u.portText ++ u.query) ++ u.path := by
  have hrest := u.query_append_path
  simp only [redacted, List.append_assoc, hrest]

end

/-! ## Which characters stand where -/

theorem HasLiteral.isAddress (h : u.HasLiteral) : isAddress u.address = true := by
  rcases h with ⟨hIPv4, -⟩ | ⟨hIPv6, -⟩
  · exact Bool.or_eq_true_iff.mpr (Or.inl hIPv4)
  · exact Bool.or_eq_true_iff.mpr (Or.inr hIPv6)

theorem HasLiteral.ne_nil (h : u.HasLiteral) : u.address ≠ [] := by
  rcases h with ⟨hIPv4, -⟩ | ⟨hIPv6, -⟩
  · exact ne_nil_of_isIPv4 hIPv4
  · exact ne_nil_of_isIPv6 hIPv6

theorem HasLiteral.notMem (h : u.HasLiteral) (hc : ¬ IsAddressChar c) : c ∉ u.address :=
  notMem_of_isAddress h.isAddress hc

/-- What starts with an address starts with one of its characters. -/
theorem head?_append_ne (hne : u.address ≠ []) (hc : c ∉ u.address) (tail : List Char) :
    (u.address ++ tail).head? ≠ some c := by
  intro hhead
  rw [List.head?_append_of_ne_nil _ hne] at hhead
  exact hc (List.mem_of_mem_head? hhead)

theorem HasLiteral.head?_append_ne (h : u.HasLiteral) (hc : ¬ IsAddressChar c) (tail : List Char) :
    (u.address ++ tail).head? ≠ some c :=
  WrittenHost.head?_append_ne h.ne_nil (h.notMem hc) tail

theorem HasLiteral.getLast?_append_ne (h : u.HasLiteral) (hc : ¬ IsAddressChar c)
    (lead : List Char) : (lead ++ u.address).getLast? ≠ some c := by
  intro hlast
  rw [List.getLast?_append_of_ne_nil _ h.ne_nil] at hlast
  exact h.notMem hc (List.mem_of_getLast? hlast)

theorem slash_notMem_literal (h : '/' ∉ u.address) : '/' ∉ u.literal := by
  rw [literal, opening, closing]
  split <;> simp [h]

theorem withoutBrackets_literal (hopen : '[' ∉ u.address) (hclose : ']' ∉ u.address) :
    withoutBrackets u.literal = u.address := by
  rw [literal, opening, closing]
  cases u.bracketed with
  | true => exact withoutBrackets_bracketed hopen hclose
  | false => simpa using withoutBrackets_of_notMem hopen hclose

namespace WellFormed

variable (hu : u.WellFormed)
include hu

theorem notMem_portText (hcolon : c ≠ ':') (hdigit : ¬ ('0' ≤ c ∧ c ≤ '9')) : c ∉ u.portText := by
  rw [portText]
  split
  · rename_i port hport
    exact List.not_mem_cons_of_ne_of_not_mem hcolon fun hc => hdigit ((hu.port port hport).2 c hc)
  · exact List.not_mem_nil

theorem colon_notMem_port {port : List Char} (hport : u.port? = some port) : ':' ∉ port :=
  fun hc => absurd ((hu.port port hport).2 ':' hc) (by decide)

theorem slash_notMem_userText : '/' ∉ u.userText := by
  rw [userText]
  split
  · rename_i user huser
    simp [hu.user user huser]
  · exact List.not_mem_nil

theorem slash_notMem_authority (haddress : '/' ∉ u.address) : '/' ∉ u.authority := by
  have hquery : '/' ∉ u.query := fun hc => absurd (List.mem_takeWhile_imp hc) (by simp)
  have hport := hu.notMem_portText (show '/' ≠ ':' by decide) (by decide)
  simp [authority, hu.slash_notMem_userText, slash_notMem_literal haddress, hport, hquery]

/-- A query starts with a character that no address has. -/
theorem exists_query_eq (hquery : u.query ≠ []) :
    ∃ c tail, u.query = c :: tail ∧ (c = '?' ∨ c = '#') := by
  obtain ⟨c, tail, hc⟩ := List.exists_cons_of_ne_nil hquery
  refine ⟨c, tail, hc, (hu.rest c ?_).resolve_left ?_⟩
  · rw [← u.query_append_path, hc]
    rfl
  · have hmem : c ∈ u.query := hc ▸ List.mem_cons_self
    simpa using List.mem_takeWhile_imp hmem

/-! ## Where it is cut -/

/-- A host whose scheme is not misread is cut behind its scheme, and in front of its path. -/
theorem isCut (hmisread : ¬ u.Misread) (haddress : '/' ∉ u.address)
    (hport : splitPort u.authority = (address', port')) :
    HostParts.IsCut ⟨u.schemeText, address', port', u.path⟩ u.text := by
  have hauthority : address' ++ port' = u.authority := by
    rw [← splitPort_append u.authority, hport]
  refine ⟨?_, ?_, ?_, ?_, ?_⟩
  · rw [hauthority]
    exact u.text_eq
  · cases hscheme : u.scheme? with
    | none => exact Or.inl ⟨by rw [schemeText, hscheme], fun hmark => hmisread ⟨hscheme, hmark⟩⟩
    | some scheme =>
        have htext : u.schemeText = scheme ++ schemeMark := by rw [schemeText, hscheme]
        refine Or.inr ⟨scheme, htext, fun other => ?_⟩
        rw [htext]
        exact cutScheme_append (hu.scheme scheme hscheme) other
  · rw [hauthority]
    exact hu.slash_notMem_authority haddress
  · intro c hc
    have hhead := List.head?_dropWhile_not (· != '/') u.rest
    have hpath : (u.rest.dropWhile (· != '/')).head? = some c := hc
    rw [hpath] at hhead
    simpa using hhead
  · rw [hauthority]
    exact hport

theorem redactChars_text (hne : u.address ≠ []) (hmisread : ¬ u.Misread)
    (haddress : '/' ∉ u.address) (hport : splitPort u.authority = (address', port')) :
    redactChars u.text
      = if isAddress (withoutBrackets address') = true
        then u.schemeText ++ (redactedAddress ++ port' ++ u.path) else u.text :=
  redactChars_of_isCut hu.trimmed (by simp [text, hne]) (hu.isCut hmisread haddress hport)

/-- What is in front of a slash is kept if the mark of a scheme is found behind it. -/
theorem prefix_redactChars (hne : u.address ≠ []) (hmark : schemeMark <:+: u.text)
    (hfront : front <+: u.text) (hslash : '/' ∉ front) : front <+: redactChars u.text := by
  have hcut := HostParts.of_isCut u.text
  have hscheme : front <+: (HostParts.of u.text).scheme := by
    rcases hcut.scheme with ⟨-, hnone⟩ | ⟨scheme, hscheme, -⟩
    · exact absurd hmark hnone
    · have hwhole : (HostParts.of u.text).scheme <+: u.text := ⟨_, hcut.whole.symm⟩
      refine (List.prefix_or_prefix_of_prefix hfront hwhole).resolve_right fun hlong => hslash ?_
      exact hlong.subset (by simp [hscheme])
  rw [redactChars_of_isCut hu.trimmed (by simp [text, hne]) hcut]
  split
  · exact hscheme.trans (List.prefix_append _ _)
  · exact hfront

end WellFormed

/-! ## The port -/

/-- A literal is told from the port, and from a query that is not joined to it. -/
theorem splitPort_literal (hu : u.WellFormed) (hliteral : u.HasLiteral) (hjoined : ¬ u.Joined) :
    splitPort (u.literal ++ (u.portText ++ u.query)) = (u.literal, u.portText ++ u.query) := by
  cases hbracketed : u.bracketed with
  | true =>
      have hclose : ']' ∉ u.address := hliteral.notMem (by decide)
      have hwhole : u.literal = '[' :: u.address ++ [']'] := by
        simp [literal, opening, closing, hbracketed]
      rw [hwhole, List.append_assoc]
      exact splitPort_bracketed hclose _
  | false =>
      have hwhole : u.literal = u.address := by simp [literal, opening, closing, hbracketed]
      have hhead := hliteral.head?_append_ne (show ¬ IsAddressChar '[' by decide)
      rw [hwhole]
      cases hport : u.port? with
      | some port =>
          have hIPv4 : isIPv4 u.address = true := by
            simpa [HasLiteral, hport, hbracketed] using hliteral
          have hquery : ':' ∉ u.query := fun hc =>
            hjoined ⟨hbracketed, List.ne_nil_of_mem hc, Or.inr hc⟩
          have htail : u.portText ++ u.query = ':' :: (port ++ u.query) := by simp [portText, hport]
          rw [htail]
          exact splitPort_colon (hhead _) rfl (colon_notMem_of_isIPv4 hIPv4)
            (by simp [hu.colon_notMem_port hport, hquery])
      | none =>
          have hquery : u.query = [] := by
            by_contra hquery
            exact hjoined ⟨hbracketed, hquery, Or.inl hport⟩
          have htail : u.portText ++ u.query = [] := by simp [portText, hport, hquery]
          rw [htail]
          refine (List.append_nil u.address).symm ▸ splitPort_whole ?_ ?_
          · simpa using hhead []
          · rcases hliteral with ⟨hIPv4, -⟩ | ⟨hIPv6, -⟩
            · rw [List.count_eq_zero.mpr (colon_notMem_of_isIPv4 hIPv4)]
              decide
            · have hcount := two_le_count_of_isIPv6 hIPv6
              omega

/-! ## The mark of a scheme -/

/-- Text without a slash has a mark of a scheme in common with what follows only where it ends in a
colon and two slashes follow. -/
theorem schemeMark_infix_append_iff (h : '/' ∉ front) :
    schemeMark <:+: front ++ back ↔
      ([':'] <:+ front ∧ ['/', '/'] <+: back) ∨ schemeMark <:+: back := by
  induction front with
  | nil => simp
  | cons d tail ih =>
      rw [List.mem_cons, not_or] at h
      rw [List.cons_append, List.infix_cons_iff, ih h.2, List.cons_prefix_cons]
      cases tail with
      | nil => simp [List.suffix_cons_iff, eq_comm]
      | cons e tail =>
          rw [List.mem_cons, not_or] at h
          simp [List.suffix_cons_iff, h.2.1]

end WrittenHost

end FleetGate.Net
