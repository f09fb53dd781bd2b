import FleetGate.Net.Host
import FleetGate.Proofs.Net.Address
import FleetGate.Proofs.Text.Trim

/-! # How a host is cut

A host is cut behind the first `://`, in front of the first slash after that, and at the port. Each
cut has a lemma that says where it falls in a text that is put together from its sides, and together
they say what the parts of any host are (`HostParts.of_isCut`). What redaction does then depends on
one of the parts alone: where that is an address it is replaced, and everything else stays
(`redactChars_of_isCut`).
-/

namespace FleetGate.Net

open Text

variable {host scheme rest authority path address port front back inside s : List Char} {c : Char}

/-! ## The scheme -/

/-- What stands between a scheme and what it is the scheme of. -/
abbrev schemeMark : List Char := [':', '/', '/']

/-- A host cut behind its first mark of a scheme. -/
def cutScheme (host : List Char) : List Char × List Char :=
  match splitOnce? schemeMark host with
  | some (scheme, rest) => (scheme ++ schemeMark, rest)
  | none => ([], host)

/-- A scheme has no colon, so that the mark behind it is the first. -/
theorem cutScheme_append (h : ':' ∉ scheme) (rest : List Char) :
    cutScheme (scheme ++ schemeMark ++ rest) = (scheme ++ schemeMark, rest) := by
  rw [cutScheme, splitOnce?_append h]

theorem cutScheme_of_no_mark (h : ¬ schemeMark <:+: host) : cutScheme host = ([], host) := by
  rw [cutScheme, splitOnce?_eq_none_iff.mpr h]

/-- A host has no mark of a scheme, or is cut behind one, whatever follows there. -/
theorem cutScheme_cases (host : List Char) :
    (¬ schemeMark <:+: host ∧ cutScheme host = ([], host)) ∨
      ∃ scheme rest, host = scheme ++ schemeMark ++ rest ∧
        ∀ other, cutScheme (scheme ++ schemeMark ++ other) = (scheme ++ schemeMark, other) := by
  cases hsplit : splitOnce? schemeMark host with
  | none =>
      have hmark := splitOnce?_eq_none_iff.mp hsplit
      exact Or.inl ⟨hmark, cutScheme_of_no_mark hmark⟩
  | some sides =>
      refine Or.inr ⟨sides.1, sides.2, eq_of_splitOnce? hsplit, fun other => ?_⟩
      rw [cutScheme, splitOnce?_of_splitOnce? hsplit]

/-! ## The path -/

theorem cutBefore_append (hfront : c ∉ front) (hback : ∀ d ∈ back.head?, d = c) :
    cutBefore c (front ++ back) = (front, back) := by
  have hpass : ∀ d ∈ front, (d != c) = true := fun d hd =>
    bne_iff_ne.mpr (ne_of_mem_of_not_mem hd hfront)
  have hstop : back.takeWhile (· != c) = [] ∧ back.dropWhile (· != c) = back := by
    cases back with
    | nil => exact ⟨rfl, rfl⟩
    | cons d rest =>
        obtain rfl := hback d rfl
        simp
  rw [cutBefore, List.takeWhile_append_of_pos hpass, List.dropWhile_append_of_pos hpass, hstop.1,
    hstop.2, List.append_nil]

/-- Every text is what stands before a character and what starts with it. -/
theorem exists_cutBefore (c : Char) (s : List Char) :
    ∃ front back, s = front ++ back ∧ c ∉ front ∧ ∀ d ∈ back.head?, d = c := by
  refine ⟨s.takeWhile (· != c), s.dropWhile (· != c), List.takeWhile_append_dropWhile.symm,
    fun hc => absurd (List.mem_takeWhile_imp hc) (by simp), fun d hd => ?_⟩
  have hhead := List.head?_dropWhile_not (· != c) s
  rw [Option.mem_def.mp hd] at hhead
  simpa using hhead

/-! ## The port -/

/-- Brackets end before the port. -/
theorem splitPort_bracketed (h : ']' ∉ inside) (port : List Char) :
    splitPort ('[' :: inside ++ ']' :: port) = ('[' :: inside ++ [']'], port) := by
  have hcut : cutBefore ']' ('[' :: inside ++ ']' :: port) = ('[' :: inside, ']' :: port) :=
    cutBefore_append (by simp [h]) (by simp)
  rw [List.cons_append] at hcut ⊢
  simp only [splitPort, hcut]

section
variable (hopen : authority.head? ≠ some '[')
include hopen

/-- Without brackets a port is cut off where there is one colon. -/
theorem splitPort_of_head :
    splitPort authority
      = if authority.count ':' = 1 then cutBefore ':' authority else (authority, []) := by
  rw [splitPort]
  rintro tail rfl
  exact hopen rfl

theorem splitPort_whole (hcount : authority.count ':' ≠ 1) :
    splitPort authority = (authority, []) := by
  rw [splitPort_of_head hopen, if_neg hcount]

theorem splitPort_colon (hsides : authority = address ++ ':' :: port) (haddress : ':' ∉ address)
    (hport : ':' ∉ port) : splitPort authority = (address, ':' :: port) := by
  have hcount : authority.count ':' = 1 := by
    simp [hsides, List.count_eq_zero.mpr haddress, List.count_eq_zero.mpr hport]
  rw [splitPort_of_head hopen, if_pos hcount, hsides]
  exact cutBefore_append haddress (by simp)

/-- What has no colon stays in front of the port. -/
theorem prefix_splitPort (hfront : front <+: authority) (hcolon : ':' ∉ front) :
    front <+: (splitPort authority).1 := by
  rw [splitPort_of_head hopen]
  split
  · obtain ⟨tail, rfl⟩ := hfront
    have hpass : ∀ d ∈ front, (d != ':') = true := fun d hd =>
      bne_iff_ne.mpr (ne_of_mem_of_not_mem hd hcolon)
    rw [cutBefore, List.takeWhile_append_of_pos hpass]
    exact List.prefix_append _ _
  · exact hfront

end

/-- Cutting a text in two loses nothing. -/
theorem cutBefore_append_cutBefore (c : Char) (s : List Char) :
    (cutBefore c s).1 ++ (cutBefore c s).2 = s :=
  List.takeWhile_append_dropWhile

/-- Cutting the port off loses nothing. -/
theorem splitPort_append (authority : List Char) :
    (splitPort authority).1 ++ (splitPort authority).2 = authority := by
  by_cases hopen : authority.head? = some '['
  · obtain ⟨rest, rfl⟩ : ∃ rest, authority = '[' :: rest := by
      cases authority with
      | nil => cases hopen
      | cons c rest => exact ⟨rest, by rw [Option.some.inj hopen]⟩
    rw [splitPort]
    split
    · rename_i inside port hparts
      have hwhole := cutBefore_append_cutBefore ']' ('[' :: rest)
      rw [hparts] at hwhole
      simpa using hwhole
    · exact List.append_nil _
  · rw [splitPort_of_head hopen]
    split
    · exact cutBefore_append_cutBefore ':' authority
    · exact List.append_nil _

/-! ## The brackets -/

theorem withoutBrackets_of_notMem (hopen : '[' ∉ s) (hclose : ']' ∉ s) : withoutBrackets s = s := by
  have hstart : s.dropWhile (· == '[') = s :=
    List.dropWhile_eq_self_iff.mpr fun hpos => by
      simpa using ne_of_mem_of_not_mem (List.getElem_mem hpos) hopen
  have hend : s.reverse.dropWhile (· == ']') = s.reverse :=
    List.dropWhile_eq_self_iff.mpr fun hpos => by
      simpa using ne_of_mem_of_not_mem (List.mem_reverse.mp (List.getElem_mem hpos)) hclose
  rw [withoutBrackets, hstart, hend, List.reverse_reverse]

theorem withoutBrackets_bracketed (hopen : '[' ∉ s) (hclose : ']' ∉ s) :
    withoutBrackets ('[' :: s ++ [']']) = s := by
  have hstart : (s ++ [']']).dropWhile (· == '[') = s ++ [']'] := by
    cases s with
    | nil => rfl
    | cons d rest =>
        rw [List.mem_cons, not_or] at hopen
        simp [Ne.symm hopen.1]
  have hend : s.reverse.dropWhile (· == ']') = s.reverse :=
    List.dropWhile_eq_self_iff.mpr fun hpos => by
      simpa using ne_of_mem_of_not_mem (List.mem_reverse.mp (List.getElem_mem hpos)) hclose
  simp [withoutBrackets, hstart, hend]

/-- Only brackets are taken off. -/
theorem mem_withoutBrackets (hc : c ∈ s) (hopen : c ≠ '[') (hclose : c ≠ ']') :
    c ∈ withoutBrackets s := by
  have hdrop {d : Char} {l : List Char} (hcd : c ≠ d) (hl : c ∈ l) : c ∈ l.dropWhile (· == d) := by
    rw [← List.takeWhile_append_dropWhile (p := (· == d)) (l := l), List.mem_append] at hl
    exact hl.resolve_left fun hmem => hcd (by simpa using List.mem_takeWhile_imp hmem)
  exact List.mem_reverse.mpr (hdrop hclose (List.mem_reverse.mpr (hdrop hopen hc)))

/-- An address in brackets or without them has no other characters than addresses and brackets. -/
theorem isAddressChar_of_withoutBrackets (h : isAddress (withoutBrackets s) = true) (hc : c ∈ s)
    (hopen : c ≠ '[') (hclose : c ≠ ']') : IsAddressChar c :=
  isAddressChar_of_mem h (mem_withoutBrackets hc hopen hclose)

/-! ## The parts -/

/-- The parts of a host make it up, and each ends where the next is cut off. -/
structure HostParts.IsCut (parts : HostParts) (host : List Char) : Prop where
  whole : host = parts.scheme ++ (parts.address ++ parts.port ++ parts.path)
  scheme : (parts.scheme = [] ∧ ¬ schemeMark <:+: host) ∨
    ∃ scheme, parts.scheme = scheme ++ schemeMark ∧
      ∀ other, cutScheme (parts.scheme ++ other) = (parts.scheme, other)
  authority : '/' ∉ parts.address ++ parts.port
  path : ∀ c ∈ parts.path.head?, c = '/'
  port : splitPort (parts.address ++ parts.port) = (parts.address, parts.port)

/-- Where the cuts fall is what the parts are. -/
theorem HostParts.of_eq (hscheme : cutScheme host = (scheme, rest))
    (hpath : cutBefore '/' rest = (authority, path))
    (hport : splitPort authority = (address, port)) :
    HostParts.of host = ⟨scheme, address, port, path⟩ := by
  have hof : HostParts.of host = ⟨(cutScheme host).1,
      (splitPort (cutBefore '/' (cutScheme host).2).1).1,
      (splitPort (cutBefore '/' (cutScheme host).2).1).2,
      (cutBefore '/' (cutScheme host).2).2⟩ := rfl
  rw [hof, hscheme, hpath, hport]

theorem HostParts.IsCut.of_eq {parts : HostParts} (h : parts.IsCut host) :
    HostParts.of host = parts := by
  have hpath : cutBefore '/' (parts.address ++ parts.port ++ parts.path)
      = (parts.address ++ parts.port, parts.path) := cutBefore_append h.authority h.path
  refine HostParts.of_eq ?_ hpath h.port
  rcases h.scheme with ⟨hnone, hmark⟩ | ⟨scheme, -, hcut⟩
  · rw [cutScheme_of_no_mark hmark, hnone]
    exact congrArg _ (h.whole.trans (by rw [hnone, List.nil_append]))
  · rw [h.whole, hcut]

/-- Every host has parts. -/
theorem HostParts.of_isCut (host : List Char) : (HostParts.of host).IsCut host := by
  have hcut (scheme rest : List Char) (hwhole : host = scheme ++ rest)
      (hscheme : (scheme = [] ∧ ¬ schemeMark <:+: host) ∨
        ∃ front, scheme = front ++ schemeMark ∧
          ∀ other, cutScheme (scheme ++ other) = (scheme, other)) :
      ∃ parts : HostParts, parts.IsCut host := by
    obtain ⟨authority, path, rfl, hauthority, hpath⟩ := exists_cutBefore '/' rest
    have happend := splitPort_append authority
    refine ⟨⟨scheme, (splitPort authority).1, (splitPort authority).2, path⟩, ?_, hscheme, ?_,
      hpath, ?_⟩
    · rw [happend]
      exact hwhole
    · rw [happend]
      exact hauthority
    · rw [happend]
  obtain ⟨parts, hparts⟩ : ∃ parts : HostParts, parts.IsCut host := by
    rcases cutScheme_cases host with ⟨hmark, -⟩ | ⟨scheme, rest, hwhole, hother⟩
    · exact hcut [] host rfl (Or.inl ⟨rfl, hmark⟩)
    · exact hcut (scheme ++ schemeMark) rest hwhole (Or.inr ⟨scheme, rfl, hother⟩)
  rw [hparts.of_eq]
  exact hparts

/-! ## Redaction -/

theorem redactChars_trimChars (s : List Char) : redactChars (trimChars s) = redactChars s := by
  rw [redactChars, redactChars, trimChars_trimChars]

/-- An address is replaced where it is cut out of a host, and nothing else is. -/
theorem redactChars_of_isCut {parts : HostParts} (hspace : trimChars host = host)
    (hne : host ≠ []) (hcut : parts.IsCut host) :
    redactChars host
      = if isAddress (withoutBrackets parts.address) = true
        then parts.scheme ++ (redactedAddress ++ parts.port ++ parts.path) else host := by
  have hempty : host.isEmpty = false := by simpa using hne
  rw [redactChars, hspace]
  simp only [hempty, hcut.of_eq, Bool.false_eq_true, if_false, List.append_assoc]

end FleetGate.Net
