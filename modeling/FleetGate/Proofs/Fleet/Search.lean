import FleetGate.Cluster.Matching
import FleetGate.Fleet.Construction
import FleetGate.Proofs.Cluster.Paging
import FleetGate.Proofs.Identity.Validation
import FleetGate.Proofs.Labels.Names
import FleetGate.Proofs.Text.Ascii
import FleetGate.Proofs.Text.Search
import FleetGate.Proofs.Text.Trim

/-! # The search for a cluster

A cluster is searched for by a field selector that its name is put into as it is. What keeps a name
from changing the question is the check that it passes before: a name that passes is a label of at
most 253 characters (`clusterName_eq_ok_iff_isClusterName`), and such a label has no character at
which a selector is cut, and no white space (`Object.matchesFields_name`). So the search is about the
objects of exactly this name, whatever else is kept (`search_exact`).
-/

namespace FleetGate

open Selector (ProperLabel)

variable {name : String}

namespace Validation

/-! ## Names of clusters -/

/-- What the name of a workload cluster is: one to 253 small letters, digits and hyphens, no hyphen
being first or last. -/
structure IsClusterName (name : String) : Prop where
  short : name.length ≤ 253
  label : ProperLabel name

/-- The letters and digits of cluster names are those of the labels of a domain. -/
theorem isNameChar_eq : isNameChar = Selector.isSmallAlphanum := by
  funext c
  have hdigit : c.isDigit = decide ('0' ≤ c ∧ c ≤ '9') :=
    (Bool.decide_and ('0' ≤ c) (c ≤ '9')).symm
  have hletter : c.isLower = decide ('a' ≤ c ∧ c ≤ 'z') :=
    (Bool.decide_and ('a' ≤ c) (c ≤ 'z')).symm
  rw [isNameChar, Selector.isSmallAlphanum, hdigit, hletter, Bool.or_comm]

/-- The form of a cluster name is that of one label of a domain. -/
theorem isLabelForm_iff : isLabelForm name.toList = true ↔ ProperLabel name := by
  rw [← Selector.isDomainLabel_iff, isLabelForm, Selector.isDomainLabel, isNameChar_eq]

/-- The names of workload clusters that pass the check. They are ASCII, so that it makes no
difference whether bytes are counted or characters. -/
theorem clusterName_eq_ok_iff_isClusterName : clusterName name = .ok () ↔ IsClusterName name := by
  have hsize (h : ProperLabel name) : name.utf8ByteSize = name.length := by
    have hascii : ∀ c ∈ name.toList, c.toNat < 128 := fun c hc =>
      Selector.toNat_lt_of_isNameChar (Selector.isNameChar_of_label (h.chars c hc))
    rw [← String.length_toList, ← Selector.utf8ByteSize_of_ascii hascii, String.ofList_toList]
  rw [clusterName_eq_ok_iff, isLabelForm_iff]
  constructor
  · rintro ⟨-, hshort, hlabel⟩
    exact ⟨(hsize hlabel).symm.trans_le hshort, hlabel⟩
  · rintro ⟨hshort, hlabel⟩
    exact ⟨hlabel.nonempty, (hsize hlabel).trans_le hshort, hlabel⟩

end Validation

/-! ## Names in a selector -/

namespace Object

open Text

variable {c : Char}

/-- The characters of a name that passes the checks are ASCII. -/
theorem toNat_lt_of_nameChar (h : Validation.isNameChar c = true ∨ c = '-') : c.toNat < 128 := by
  rcases h with h | rfl
  · simp only [Validation.isNameChar, Bool.or_eq_true, decide_eq_true_eq] at h
    rcases h with ⟨-, h⟩ | ⟨-, h⟩
    · exact Nat.lt_of_le_of_lt (Char.le_def.mp h) (by decide)
    · exact Nat.lt_of_le_of_lt (Char.le_def.mp h) (by decide)
  · decide

/-- They separate nothing, and are no white space. -/
theorem nameChar_plain (h : Validation.isNameChar c = true ∨ c = '-') :
    c ∉ [',', '!', '='] ∧ isSpace c = false :=
  ascii_forall (P := fun c => Validation.isNameChar c = true ∨ c = '-' →
    c ∉ [',', '!', '='] ∧ isSpace c = false) (by decide +kernel) (toNat_lt_of_nameChar h) h

/-- Asking for the objects of a name selects those of exactly this name. -/
theorem matchesFields_name (h : Validation.clusterName name = .ok ()) (o : Object) :
    o.matchesFields ("metadata.name=" ++ name) = decide (o.metadata.name? = some name) := by
  obtain ⟨-, hchars⟩ := Validation.chars_of_clusterName h
  have hplain {d : Char} (hd : d ∈ [',', '!', '=']) : d ∉ name.toList :=
    fun hmem => (nameChar_plain (hchars d hmem)).1 hd
  have hfield {d : Char} (hd : d ∈ [',', '!', '=']) : d ∉ "metadata.name".toList := by
    simp only [List.mem_cons, List.not_mem_nil, or_false] at hd
    rcases hd with rfl | rfl | rfl <;> decide
  have htrim : trimmed name.toList = name := by
    rw [trimmed, trimChars_of_forall fun c hc => (nameChar_plain (hchars c hc)).2,
      String.ofList_toList]
  have htext : ("metadata.name=" ++ name).toList = "metadata.name".toList ++ ['='] ++ name.toList :=
    String.toList_append
  have hcomma : ',' ∉ "metadata.name".toList ++ ['='] ++ name.toList := by
    simp [hplain (d := ',') (by decide)]
  have hmark : '!' ∉ "metadata.name".toList ++ ['='] ++ name.toList := by
    simp [hplain (d := '!') (by decide)]
  have hterms : selectorTerms ("metadata.name=" ++ name)
      = ["metadata.name".toList ++ ['='] ++ name.toList] := by
    rw [selectorTerms, htext, splitOn_of_notMem hcomma]
    rfl
  rw [matchesFields, hterms, List.all_cons, List.all_nil, Bool.and_true, meetsFieldTerm,
    splitOnce?_of_notMem hmark, splitOnce?_twice (hfield (by decide)) (hplain (by decide)),
    splitOnce?_append (hfield (by decide)) name.toList, Option.none_or]
  have hname : trimmed "metadata.name".toList = "metadata.name" := by decide
  simp only [fieldCompares, htrim, hname, field?, beq_true]

end Object

/-! ## What is found -/

/-- A search by name is about the objects of exactly this name, in the order in which they are
kept. -/
theorem InMemoryCluster.selected_searchOptions (h : Validation.clusterName name = .ok ())
    (c : InMemoryCluster) :
    c.selected .cluster none (Construction.searchOptions name)
      = (c.kept .cluster).filter fun o => o.metadata.name? = some name := by
  simp [selected, kept, Construction.searchOptions, Object.matchesFields_name h]

namespace Construction

/-- The check of names accepts the names of clusters and nothing else. A selector that an accepted
name is put into selects an object exactly if this is its name, which no object without a name has;
so what the search for a cluster is about are the clusters of this name, and all of them. -/
theorem search_exact (name : String) :
    (Validation.clusterName name = .ok () ↔ Validation.IsClusterName name) ∧
      (Validation.clusterName name = .ok () →
        (∀ o : Object, o.matchesFields ("metadata.name=" ++ name) = true ↔
          o.metadata.name? = some name) ∧
        ∀ c : InMemoryCluster, c.selected .cluster none (searchOptions name)
          = (c.kept .cluster).filter fun o => o.metadata.name? = some name) := by
  refine ⟨Validation.clusterName_eq_ok_iff_isClusterName, fun h => ⟨fun o => ?_, fun c => ?_⟩⟩
  · rw [Object.matchesFields_name h, decide_eq_true_iff]
  · exact c.selected_searchOptions h

/-- Beside clusters of other names, one that this name starts, and one without a name. -/
theorem search_exact_beside_others :
    let c := ((((({} : InMemoryCluster).add .cluster "org-acme" "prod" (.obj [])).add .cluster
      "org-acme" "prod-1" (.obj [])).add .cluster "org-zeta" "prod" (.obj [])).insert .cluster {})
    Validation.IsClusterName "prod" ∧
      (∀ o : Object, o.matchesFields "metadata.name=prod" = true ↔
        o.metadata.name? = some "prod") ∧
      (c.kept .cluster).length = 4 ∧
      (c.selected .cluster none (searchOptions "prod")).map (·.metadata.ns?)
        = [some "org-acme", some "org-zeta"] := by
  intro c
  have haccepted : Validation.clusterName "prod" = .ok () := by decide
  obtain ⟨haccepts, hselects⟩ := search_exact "prod"
  obtain ⟨hfields, hfound⟩ := hselects haccepted
  refine ⟨haccepts.mp haccepted, hfields, by decide, ?_⟩
  rw [hfound]
  decide

/-- Names that do not pass could ask for another name than their own. -/
example : ∀ name ∈ [" prod", "=prod"],
    ({ metadata := { name? := some "prod" } } : Object).matchesFields ("metadata.name=" ++ name)
      = true ∧ Validation.clusterName name ≠ .ok () := by decide

end Construction

end FleetGate
