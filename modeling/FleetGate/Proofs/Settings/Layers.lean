import FleetGate.Settings.Source
import Mathlib.Data.List.Induction

/-!
# Layers of settings

Laying layers over each other is associative, and a layer that says nothing changes nothing. Read
at any one setting it is `Option.or`, so that of layers laid over each other the last one decides
that says something there (`IsSetting.said_stack`). Each of the fourteen settings is read that way
(`resolve_stack`).
-/

namespace FleetGate

/-! ## Layers laid over each other -/

instance : Std.Associative FederationLayer.onto :=
  ⟨fun a b c => by simp [FederationLayer.onto, Option.or_assoc]⟩

instance : Std.LawfulIdentity FederationLayer.onto {} where
  left_id _ := rfl
  right_id a := by simp [FederationLayer.onto]

instance : Std.Associative OutputLayer.onto :=
  ⟨fun a b c => by simp [OutputLayer.onto, Option.or_assoc]⟩

instance : Std.LawfulIdentity OutputLayer.onto {} where
  left_id _ := rfl
  right_id a := by simp [OutputLayer.onto]

instance : Std.Associative LoggingLayer.onto :=
  ⟨fun a b c => by simp [LoggingLayer.onto, Option.or_assoc]⟩

instance : Std.LawfulIdentity LoggingLayer.onto {} where
  left_id _ := rfl
  right_id a := by simp [LoggingLayer.onto]

section

variable {σ α : Type} {lay : σ → σ → σ} {nothing : σ}

/-- Sections are laid over each other associatively if what is in them is. -/
instance [Std.Associative lay] : Std.Associative (layOver lay) where
  assoc
    | none, none, c? => by cases c? <;> rfl
    | none, some _, c? => by cases c? <;> rfl
    | some _, none, c? => by cases c? <;> rfl
    | some _, some _, none => rfl
    | some a, some b, some c => congrArg some (Std.Associative.assoc a b c)

instance : Std.LawfulIdentity (layOver lay) none where
  left_id
    | none => rfl
    | some _ => rfl
  right_id
    | none => rfl
    | some _ => rfl

/-- What is in sections laid over each other, where nothing is in a missing one. -/
theorem getD_layOver [Std.LawfulIdentity lay nothing] (upper lower : Option σ) :
    (layOver lay upper lower).getD nothing = lay (upper.getD nothing) (lower.getD nothing) := by
  rcases upper with _ | u
  · have hsection : layOver lay none lower = lower := Std.LawfulLeftIdentity.left_id lower
    rw [hsection]
    exact (Std.LawfulLeftIdentity.left_id (lower.getD nothing)).symm
  · rcases lower with _ | l
    · exact (Std.LawfulRightIdentity.right_id u).symm
    · rfl

/-- A field of a section, read through sections laid over each other. -/
theorem bind_layOver {field? : σ → Option α}
    (h : ∀ upper lower, field? (lay upper lower) = (field? upper).or (field? lower))
    (upper lower : Option σ) :
    (layOver lay upper lower).bind field? = (upper.bind field?).or (lower.bind field?) := by
  rcases upper with _ | u
  · simp [layOver]
  · rcases lower with _ | l
    · simp [layOver]
    · exact h u l

end

namespace Layer

instance : Std.Associative Layer.onto :=
  ⟨fun a b c => by simp only [onto, Std.Associative.assoc]⟩

instance : Std.LawfulIdentity Layer.onto {} where
  left_id _ := by simp only [onto, Std.LawfulLeftIdentity.left_id]
  right_id _ := by simp only [onto, Std.LawfulRightIdentity.right_id]

/-- A layer whose sections, if they are there, say nothing. -/
structure IsSilent (l : Layer) : Prop where
  federation : l.federation?.getD {} = {}
  output : l.output?.getD {} = {}
  logging : l.logging?.getD {} = {}

/-- What a layer leads to depends on what its sections say, not on which are there. -/
theorem resolve_congr {l m : Layer} (hfederation : l.federation?.getD {} = m.federation?.getD {})
    (houtput : l.output?.getD {} = m.output?.getD {})
    (hlogging : l.logging?.getD {} = m.logging?.getD {}) : l.resolve = m.resolve := by
  rw [resolve, resolve, hfederation, houtput, hlogging]

/-- A silent layer between others changes nothing in what they lead to. -/
theorem IsSilent.resolve_between {l : Layer} (h : l.IsSilent) (above below : Layer) :
    (above.onto (l.onto below)).resolve = (above.onto below).resolve := by
  apply resolve_congr
  · simp only [onto, getD_layOver, h.federation, Std.LawfulLeftIdentity.left_id]
  · simp only [onto, getD_layOver, h.output, Std.LawfulLeftIdentity.left_id]
  · simp only [onto, getD_layOver, h.logging, Std.LawfulLeftIdentity.left_id]

/-! ## Settings read through layers -/

/-- Layers laid over each other, the last one on top. -/
def stack (layers : List Layer) : Layer :=
  layers.foldl (fun lower upper => upper.onto lower) {}

variable {σ α : Type} {section? : Layer → Option σ} {field? : σ → Option α}

/-- What a layer says in a field of a section. -/
def said (section? : Layer → Option σ) (field? : σ → Option α) (l : Layer) : Option α :=
  (section? l).bind field?

/-- What the last of the layers that says something in a field of a section says there. -/
def lastSaid (section? : Layer → Option σ) (field? : σ → Option α) (layers : List Layer) :
    Option α :=
  layers.reverse.findSome? (said section? field?)

/-- A layer on top decides if it says something, and those below it otherwise. -/
theorem lastSaid_concat (layers : List Layer) (l : Layer) :
    lastSaid section? field? (layers ++ [l]) =
      (said section? field? l).or (lastSaid section? field? layers) := by
  rw [lastSaid, lastSaid, List.reverse_append, List.reverse_singleton, List.singleton_append,
    List.findSome?_cons]
  cases said section? field? l <;> rfl

/-- A field that an upper layer decides if it says something there. -/
structure IsSetting (section? : Layer → Option σ) (field? : σ → Option α) : Prop where
  nothing : said section? field? {} = none
  onto : ∀ upper lower : Layer, said section? field? (upper.onto lower) =
    (said section? field? upper).or (said section? field? lower)

/-- Read at one setting, a stack of layers says what the last of them says. -/
theorem IsSetting.said_stack (h : IsSetting section? field?) (layers : List Layer) :
    said section? field? (stack layers) = lastSaid section? field? layers := by
  induction layers using List.reverseRecOn with
  | nil => exact h.nothing
  | append_singleton layers l ih =>
      have hstack : stack (layers ++ [l]) = l.onto (stack layers) := by
        simp [stack]
      rw [hstack, h.onto, ih, lastSaid_concat]

/-- A field of the federation section, read through a stack of layers. -/
theorem bind_federation_stack (field? : FederationLayer → Option α)
    (h : ∀ upper lower, field? (upper.onto lower) = (field? upper).or (field? lower))
    (layers : List Layer) :
    (stack layers).federation?.bind field? = lastSaid (·.federation?) field? layers := by
  have hsetting : IsSetting (·.federation?) field? :=
    ⟨rfl, fun upper lower => bind_layOver h upper.federation? lower.federation?⟩
  exact hsetting.said_stack layers

/-- A field of the output section, read through a stack of layers. -/
theorem bind_output_stack (field? : OutputLayer → Option α)
    (h : ∀ upper lower, field? (upper.onto lower) = (field? upper).or (field? lower))
    (layers : List Layer) :
    (stack layers).output?.bind field? = lastSaid (·.output?) field? layers := by
  have hsetting : IsSetting (·.output?) field? :=
    ⟨rfl, fun upper lower => bind_layOver h upper.output? lower.output?⟩
  exact hsetting.said_stack layers

/-- A field of the logging section, read through a stack of layers. -/
theorem bind_logging_stack (field? : LoggingLayer → Option α)
    (h : ∀ upper lower, field? (upper.onto lower) = (field? upper).or (field? lower))
    (layers : List Layer) :
    (stack layers).logging?.bind field? = lastSaid (·.logging?) field? layers := by
  have hsetting : IsSetting (·.logging?) field? :=
    ⟨rfl, fun upper lower => bind_layOver h upper.logging? lower.logging?⟩
  exact hsetting.said_stack layers

end Layer

/-! ## Settings as the last layers have them -/

namespace Settings

/-- The settings that layers lead to, setting by setting: what the last layer says that says
something about it, and the default where none does. The output limits are brought into range. -/
def settled (layers : List Layer) : Settings where
  federation :=
    let d : FederationSettings := {}
    { enabled := (Layer.lastSaid (·.federation?) (·.enabled?) layers).getD d.enabled
      cacheTtlSeconds :=
        (Layer.lastSaid (·.federation?) (·.cacheTtlSeconds?) layers).getD d.cacheTtlSeconds
      cacheMaxEntries :=
        (Layer.lastSaid (·.federation?) (·.cacheMaxEntries?) layers).getD d.cacheMaxEntries
      cacheSweepSeconds :=
        (Layer.lastSaid (·.federation?) (·.cacheSweepSeconds?) layers).getD d.cacheSweepSeconds
      credentialMode :=
        (Layer.lastSaid (·.federation?) (·.credentialMode?) layers).getD d.credentialMode }
  output :=
    let d := OutputConfig.default
    OutputConfig.validated {
      maxItems := (Layer.lastSaid (·.output?) (·.maxItems?) layers).getD d.maxItems
      maxClusters := (Layer.lastSaid (·.output?) (·.maxClusters?) layers).getD d.maxClusters
      maxResponseBytes :=
        (Layer.lastSaid (·.output?) (·.maxResponseBytes?) layers).getD d.maxResponseBytes
      slimOutput := (Layer.lastSaid (·.output?) (·.slimOutput?) layers).getD d.slimOutput
      maskSecrets := (Layer.lastSaid (·.output?) (·.maskSecrets?) layers).getD d.maskSecrets
      summaryThreshold :=
        (Layer.lastSaid (·.output?) (·.summaryThreshold?) layers).getD d.summaryThreshold
      excludedFields :=
        (Layer.lastSaid (·.output?) (·.excludedFields?) layers).getD d.excludedFields }
  logging :=
    let d : LoggingSettings := {}
    { level := (Layer.lastSaid (·.logging?) (·.level?) layers).getD d.level
      json := (Layer.lastSaid (·.logging?) (·.json?) layers).getD d.json }

theorem settled_federation (layers : List Layer) :
    ((Layer.stack layers).federation?.getD {}).resolve = (settled layers).federation := by
  simp only [settled]
  rw [← Layer.bind_federation_stack (·.enabled?) fun _ _ => rfl,
    ← Layer.bind_federation_stack (·.cacheTtlSeconds?) fun _ _ => rfl,
    ← Layer.bind_federation_stack (·.cacheMaxEntries?) fun _ _ => rfl,
    ← Layer.bind_federation_stack (·.cacheSweepSeconds?) fun _ _ => rfl,
    ← Layer.bind_federation_stack (·.credentialMode?) fun _ _ => rfl]
  cases (Layer.stack layers).federation? <;> rfl

theorem settled_output (layers : List Layer) :
    ((Layer.stack layers).output?.getD {}).resolve = (settled layers).output := by
  simp only [settled]
  rw [← Layer.bind_output_stack (·.maxItems?) fun _ _ => rfl,
    ← Layer.bind_output_stack (·.maxClusters?) fun _ _ => rfl,
    ← Layer.bind_output_stack (·.maxResponseBytes?) fun _ _ => rfl,
    ← Layer.bind_output_stack (·.slimOutput?) fun _ _ => rfl,
    ← Layer.bind_output_stack (·.maskSecrets?) fun _ _ => rfl,
    ← Layer.bind_output_stack (·.summaryThreshold?) fun _ _ => rfl,
    ← Layer.bind_output_stack (·.excludedFields?) fun _ _ => rfl]
  cases (Layer.stack layers).output? <;> rfl

theorem settled_logging (layers : List Layer) :
    ((Layer.stack layers).logging?.getD {}).resolve = (settled layers).logging := by
  simp only [settled]
  rw [← Layer.bind_logging_stack (·.level?) fun _ _ => rfl,
    ← Layer.bind_logging_stack (·.json?) fun _ _ => rfl]
  cases (Layer.stack layers).logging? <;> rfl

/-- A stack of layers leads to the settings that the last layers have, if these pass the check. -/
theorem resolve_stack (layers : List Layer) :
    (Layer.stack layers).resolve =
      (settled layers).federation.check >>= fun _ => .ok (settled layers) := by
  simp only [Layer.resolve, settled_federation, settled_output, settled_logging]
  rfl

end Settings

end FleetGate
