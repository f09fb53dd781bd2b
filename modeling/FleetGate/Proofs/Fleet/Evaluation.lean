import FleetGate.Fleet.Access
import FleetGate.Proofs.Text.Search
import Mathlib.Logic.ExistsUnique

/-! # What an evaluation error is about

An evaluation error is a text of a cluster that no caller may see. What it is about is decided by
the words in it, in any case: the classes are told apart in a fixed order, and the first one that is
mentioned counts (`EvaluationClass.Of`). Every text is of exactly one class, and a caller is shown
the phrase for this class and nothing else of the text.
-/

namespace FleetGate

/-- What an evaluation error is about. -/
inductive EvaluationClass where
  /-- There was no error. -/
  | none
  | unknownResource
  | policy
  | timeout
  | internal
  | other
  deriving DecidableEq, Repr

namespace EvaluationClass

/-- The words by which a class is told. -/
def words : EvaluationClass → List String
  | .unknownResource => ["unable to find", "not found", "no matches for kind"]
  | .policy => ["webhook", "admission controller"]
  | .timeout => ["timeout", "deadline exceeded"]
  | .internal => ["internal error", "server error"]
  | .none | .other => []

/-- What a caller is told of an error of a class. -/
def phrase : EvaluationClass → String
  | .none => ""
  | .unknownResource => "resource type not recognized"
  | .policy => "policy evaluation failed"
  | .timeout => "permission check timed out"
  | .internal => "internal evaluation error"
  | .other => "unable to evaluate permissions"

/-- The classes that are told by words, in the order in which they count. -/
def told : List EvaluationClass := [.unknownResource, .policy, .timeout, .internal]

/-- Whether a text mentions a class: a word of it occurs in the text in lower case. -/
def Mentions (raw : String) (c : EvaluationClass) : Prop :=
  ∃ word ∈ c.words, word.toList <:+: (Text.lowercase raw).toList

/-- The class of a text: the first that is mentioned. -/
inductive Of (raw : String) : EvaluationClass → Prop
  | none (h : raw = "") : Of raw .none
  | mentioned {before after : List EvaluationClass} {c : EvaluationClass} (h : raw ≠ "")
      (hc : told = before ++ c :: after) (hmentions : Mentions raw c)
      (hbefore : ∀ earlier ∈ before, ¬ Mentions raw earlier) : Of raw c
  | other (h : raw ≠ "") (hnone : ∀ c ∈ told, ¬ Mentions raw c) : Of raw .other

/-- A reason with what a caller is told of an error of a class. -/
def shown (reason : String) (c : EvaluationClass) : String :=
  if c = .none then reason
  else if reason = "" then "evaluation error: " ++ c.phrase
  else reason ++ " (evaluation error: " ++ c.phrase ++ ")"

variable {raw : String} {c : EvaluationClass}

/-- Whether a text mentions a class, decided. -/
def mentions (raw : String) (c : EvaluationClass) : Bool :=
  c.words.any fun word => Text.contains (Text.lowercase raw) word

theorem mentions_iff : mentions raw c = true ↔ Mentions raw c := by
  simp [mentions, Mentions, Text.contains_iff]

/-- The class of a text, computed. -/
def ofText (raw : String) : EvaluationClass :=
  if raw = "" then .none else (told.find? (mentions raw)).getD .other

/-- A text is of one class, which is computed. -/
theorem of_iff : Of raw c ↔ ofText raw = c := by
  rw [ofText]
  constructor
  · intro h
    cases h with
    | none h => rw [if_pos h]
    | @mentioned before after _ h hc hmentions hbefore =>
        have hfound : told.find? (mentions raw) = some c := by
          refine List.find?_eq_some_iff_append.mpr ⟨mentions_iff.mpr hmentions, before, after, hc, ?_⟩
          intro earlier hearlier
          simpa [← mentions_iff] using hbefore earlier hearlier
        rw [if_neg h, hfound, Option.getD_some]
    | other h hnone =>
        have hfound : told.find? (mentions raw) = Option.none := by
          refine List.find?_eq_none.mpr fun c hc => ?_
          simpa [← mentions_iff] using hnone c hc
        rw [if_neg h, hfound, Option.getD_none]
  · rintro rfl
    by_cases h : raw = ""
    · rw [if_pos h]
      exact .none h
    · rw [if_neg h]
      cases hfound : told.find? (mentions raw) with
      | none =>
          refine .other h fun c hc => ?_
          simpa [← mentions_iff] using List.find?_eq_none.mp hfound c hc
      | some c =>
          obtain ⟨hmentions, before, after, hc, hbefore⟩ := List.find?_eq_some_iff_append.mp hfound
          refine .mentioned h hc (mentions_iff.mp hmentions) fun earlier hearlier => ?_
          simpa [← mentions_iff] using hbefore earlier hearlier

theorem existsUnique_of (raw : String) : ∃! c, Of raw c :=
  ⟨ofText raw, of_iff.mpr rfl, fun _ h => (of_iff.mp h).symm⟩

/-! ## What is shown -/

/-- The table of classes says of each class that is told by words which words and which phrase. -/
theorem classes_eq : Access.classes = told.map fun c => (c.words, c.phrase) := rfl

/-- So the first entry of which a word occurs is that of the first class that is mentioned. -/
theorem find?_classes (raw : String) :
    (Access.classes.find? fun c => c.1.any fun word => Text.contains (Text.lowercase raw) word)
      = (told.find? (mentions raw)).map fun c => (c.words, c.phrase) := by
  rw [classes_eq, List.find?_map]
  rfl

/-- An evaluation error is classified by the phrase for its class. -/
theorem classify_eq (h : Of raw c) : Access.classify raw = c.phrase := by
  obtain rfl := of_iff.mp h
  simp only [Access.classify, ofText, String.isEmpty_iff, find?_classes]
  split
  · rfl
  · cases told.find? (mentions raw) with
    | none => rfl
    | some c => rfl

/-- There is no error exactly if its text is empty. -/
theorem eq_none_iff (h : Of raw c) : c = .none ↔ raw = "" := by
  cases h with
  | none h => simp [h]
  | other h _ => simp [h]
  | @mentioned before after _ h hc _ _ =>
      have htold : c ∈ told := hc ▸ List.mem_append_right before List.mem_cons_self
      simp only [h, iff_false]
      rintro rfl
      simp [told] at htold

/-- A caller is shown the reason and the phrase for the class. -/
theorem displayReason_eq (h : Of raw c) (reason : String) :
    Access.displayReason reason raw = c.shown reason := by
  simp only [Access.displayReason, shown, String.isEmpty_iff, classify_eq h, eq_none_iff h]

end EvaluationClass

/-- Two verdicts that differ in nothing but the text of an evaluation error, of the same class. -/
structure AccessVerdict.SameClass (v₁ v₂ : AccessVerdict) : Prop where
  allowed : v₁.allowed = v₂.allowed
  denied : v₁.denied = v₂.denied
  reason : v₁.reason = v₂.reason
  evaluation : ∃ c, EvaluationClass.Of v₁.evaluationError c ∧
    EvaluationClass.Of v₂.evaluationError c

/-- Callers are shown the same of them. -/
theorem AccessVerdict.SameClass.displayReason {v₁ v₂ : AccessVerdict} (h : v₁.SameClass v₂) :
    v₁.displayReason = v₂.displayReason := by
  obtain ⟨c, h₁, h₂⟩ := h.evaluation
  rw [AccessVerdict.displayReason, AccessVerdict.displayReason, h.reason,
    EvaluationClass.displayReason_eq h₁, EvaluationClass.displayReason_eq h₂]

end FleetGate
