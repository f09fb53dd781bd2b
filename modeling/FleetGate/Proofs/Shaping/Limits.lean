import FleetGate.Shaping.Config

/-!
# Output limits in range

Whatever the limits of the output are configured to, what is worked with lies in range: between one
and the ceiling, and with paths to remove where slimming is on. Bringing limits into range that lie
there already changes nothing.
-/

namespace FleetGate

namespace OutputConfig

/-- Every limit lies in its range, and slimming has paths to remove. -/
structure InRange (c : OutputConfig) : Prop where
  items : 0 < c.maxItems ∧ c.maxItems ≤ ceilingItems
  clusters : 0 < c.maxClusters ∧ c.maxClusters ≤ ceilingClusters
  responseBytes : 0 < c.maxResponseBytes ∧ c.maxResponseBytes ≤ ceilingResponseBytes
  threshold : 0 < c.summaryThreshold
  paths : c.slimOutput = true → c.excludedFields ≠ []

variable {value fallback ceiling : Int}

/-- A limit in range stays as it is. -/
theorem clamp_of_inRange (hpos : 0 < value) (hle : value ≤ ceiling) :
    clamp value fallback ceiling = value := by
  rw [clamp, if_neg (by omega), Int.min_eq_left hle]

/-- Clamping brings a limit into range if the fallback lies there. -/
theorem clamp_inRange (hpos : 0 < fallback) (hle : fallback ≤ ceiling) :
    0 < clamp value fallback ceiling ∧ clamp value fallback ceiling ≤ ceiling := by
  unfold clamp
  split
  · exact ⟨hpos, hle⟩
  · omega

/-- What is brought into range lies there. -/
theorem validated_inRange (c : OutputConfig) : c.validated.InRange where
  items := clamp_inRange (by decide) (by decide)
  clusters := clamp_inRange (by decide) (by decide)
  responseBytes := clamp_inRange (by decide) (by decide)
  threshold := by
    change 0 < if c.summaryThreshold ≤ 0 then defaultSummaryThreshold else c.summaryThreshold
    split
    · decide
    · omega
  paths := by
    intro hslim
    change (if (c.slimOutput && c.excludedFields.isEmpty) = true then defaultExcludedFields
      else c.excludedFields) ≠ []
    split
    · decide
    · rename_i hpaths
      have hslim : c.slimOutput = true := hslim
      simpa [hslim] using hpaths

/-- What lies in range stays as it is. -/
theorem InRange.validated_eq {c : OutputConfig} (h : c.InRange) : c.validated = c := by
  have hpaths : ¬ (c.slimOutput && c.excludedFields.isEmpty) = true := by
    simpa using h.paths
  have hthreshold : ¬ c.summaryThreshold ≤ 0 := Int.not_le.mpr h.threshold
  rw [validated, clamp_of_inRange h.items.1 h.items.2, clamp_of_inRange h.clusters.1 h.clusters.2,
    clamp_of_inRange h.responseBytes.1 h.responseBytes.2, if_neg hthreshold, if_neg hpaths]

/-- A configuration is in range exactly if bringing it into range changes nothing. -/
theorem validated_eq_self_iff {c : OutputConfig} : c.validated = c ↔ c.InRange :=
  ⟨fun h => h ▸ validated_inRange c, InRange.validated_eq⟩

end OutputConfig

end FleetGate
