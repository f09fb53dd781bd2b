import FleetGate.Proofs.Except
import FleetGate.Proofs.Settings.Layers
import FleetGate.Proofs.Shaping.Limits
import Mathlib.Data.List.Nodup
import Mathlib.Data.List.Perm.Basic

/-!
# Settings from sources

Sources are put in order and read one after another, each laid over those before it. The first that
cannot be read decides the error. If all can be read, the last one that says something about a
setting decides it, and what no source mentions is as by default.

## Main results

* `Source.isOrderOf_iff`: the order sources are read in is the only one that ascends and is stable.
* `Settings.load_layered`: what loading sources leads to, setting by setting, and that laying layers
  over each other, by which it is done, is associative and undisturbed by layers that say nothing.
-/

namespace FleetGate

/-! ## The order of sources -/

namespace Source

/-- The sources by ascending precedence, those of equal precedence as they were given. -/
structure IsOrderOf (sources ordered : List Source) : Prop where
  ascending : ordered.Pairwise fun a b => a.precedence ≤ b.precedence
  stable : ∀ p, (ordered.filter fun s => s.precedence = p) =
    sources.filter fun s => s.precedence = p

variable {sources others ordered : List Source}

/-- The head of an ascending list is not above the head of another that agrees with it at every
precedence. -/
theorem precedence_head_le {x y : Source} {xs ys : List Source}
    (hxs : (x :: xs).Pairwise fun a b => a.precedence ≤ b.precedence)
    (h : ∀ p, ((x :: xs).filter fun s => s.precedence = p) =
      (y :: ys).filter fun s => s.precedence = p) :
    x.precedence ≤ y.precedence := by
  have hy : y ∈ (x :: xs).filter fun s => s.precedence = y.precedence := by
    rw [h]
    simp
  rcases List.mem_cons.mp (List.mem_of_mem_filter hy) with rfl | hy
  · exact Nat.le_refl _
  · exact List.rel_of_pairwise_cons hxs hy

/-- Ascending lists that agree at every precedence are the same. -/
theorem eq_of_filter_eq {xs ys : List Source}
    (hxs : xs.Pairwise fun a b => a.precedence ≤ b.precedence)
    (hys : ys.Pairwise fun a b => a.precedence ≤ b.precedence)
    (h : ∀ p, (xs.filter fun s => s.precedence = p) = ys.filter fun s => s.precedence = p) :
    xs = ys := by
  induction xs generalizing ys with
  | nil =>
      cases ys with
      | nil => rfl
      | cons y ys => simpa using h y.precedence
  | cons x xs ih =>
      cases ys with
      | nil => simpa using h x.precedence
      | cons y ys =>
          have hlevel : x.precedence = y.precedence :=
            Nat.le_antisymm (precedence_head_le hxs h) (precedence_head_le hys fun p => (h p).symm)
          -- at their precedence the lists start with their heads, at any other with what follows
          have hat : x = y ∧ (xs.filter fun s => s.precedence = y.precedence) =
              ys.filter fun s => s.precedence = y.precedence := by
            simpa [hlevel] using h y.precedence
          obtain ⟨rfl, hat⟩ := hat
          have hrest : ∀ p, (xs.filter fun s => s.precedence = p) =
              ys.filter fun s => s.precedence = p := by
            intro p
            by_cases hp : x.precedence = p
            · exact hp ▸ hat
            · simpa [hp] using h p
          rw [ih hxs.of_cons hys.of_cons hrest]

/-- The comparison that sources are sorted by is transitive. -/
theorem precedence_trans (a b c : Source) (hab : decide (a.precedence ≤ b.precedence) = true)
    (hbc : decide (b.precedence ≤ c.precedence) = true) :
    decide (a.precedence ≤ c.precedence) = true := by
  simp only [decide_eq_true_eq] at *
  omega

/-- The comparison that sources are sorted by is total. -/
theorem precedence_total (a b : Source) :
    (decide (a.precedence ≤ b.precedence) || decide (b.precedence ≤ a.precedence)) = true := by
  simp only [Bool.or_eq_true, decide_eq_true_eq]
  omega

/-- Sources put in order ascend. -/
theorem inOrder_ascending (sources : List Source) :
    (inOrder sources).Pairwise fun a b => a.precedence ≤ b.precedence := by
  rw [inOrder]
  simpa only [decide_eq_true_eq] using
    List.pairwise_mergeSort precedence_trans precedence_total sources

/-- Putting sources in order loses and adds none. -/
theorem inOrder_perm (sources : List Source) : (inOrder sources).Perm sources :=
  List.mergeSort_perm sources _

/-- Sources put in order keep the order given among those of one precedence. -/
theorem inOrder_stable (sources : List Source) (p : Nat) :
    ((inOrder sources).filter fun s => s.precedence = p) =
      sources.filter fun s => s.precedence = p := by
  have hlevel : (sources.filter fun s => s.precedence = p).Pairwise fun a b =>
      decide (a.precedence ≤ b.precedence) = true := by
    refine List.pairwise_of_forall_mem_list fun a ha b hb => ?_
    simp only [List.mem_filter, decide_eq_true_eq] at ha hb ⊢
    omega
  have hsub : (sources.filter fun s => s.precedence = p).Sublist (inOrder sources) :=
    List.sublist_mergeSort precedence_trans precedence_total hlevel List.filter_sublist
  have hfiltered := hsub.filter fun s => decide (s.precedence = p)
  rw [List.filter_filter] at hfiltered
  simp only [Bool.and_self] at hfiltered
  exact (hfiltered.eq_of_length ((inOrder_perm sources).filter _).length_eq.symm).symm

/-- The order that sources are read in is the only one that ascends and is stable. -/
theorem isOrderOf_iff : IsOrderOf sources ordered ↔ ordered = inOrder sources := by
  constructor
  · intro h
    refine eq_of_filter_eq h.ascending (inOrder_ascending sources) fun p => ?_
    rw [h.stable p, inOrder_stable sources p]
  · rintro rfl
    exact ⟨inOrder_ascending sources, inOrder_stable sources⟩

/-- Sources of pairwise distinct precedence come into the same order however they are given. -/
theorem inOrder_of_perm (hperm : sources.Perm others) (hnodup : (sources.map precedence).Nodup) :
    inOrder others = inOrder sources := by
  have hboth : (inOrder others).Perm (inOrder sources) :=
    (inOrder_perm others).trans (hperm.symm.trans (inOrder_perm sources).symm)
  refine hboth.eq_of_pairwise ?_ (inOrder_ascending others) (inOrder_ascending sources)
  intro a b ha hb hab hba
  have ha : a ∈ sources := hperm.mem_iff.mpr ((inOrder_perm others).mem_iff.mp ha)
  have hb : b ∈ sources := (inOrder_perm sources).mem_iff.mp hb
  exact List.inj_on_of_nodup_map hnodup ha hb (Nat.le_antisymm hab hba)

/-! ## Reading sources -/

/-- The first of the sources that cannot be read fails with `e`. -/
def FirstFailure (ordered : List Source) (e : SettingsError) : Prop :=
  ∃ before s after, ordered = before ++ s :: after ∧
    (∀ t ∈ before, ∃ l, t.layer = .ok l) ∧ s.layer = .error e

/-- All sources can be read, and say `layers`. -/
def ReadAs (ordered : List Source) (layers : List Layer) : Prop :=
  ordered.map Source.layer = layers.map .ok

/-- Sources can all be read, or one of them is the first that cannot. -/
theorem firstFailure_or_readAs (ordered : List Source) :
    (∃ e, FirstFailure ordered e) ∨ ∃ layers, ReadAs ordered layers := by
  induction ordered with
  | nil => exact .inr ⟨[], rfl⟩
  | cons s rest ih =>
      cases hs : s.layer with
      | error e => exact .inl ⟨e, [], s, rest, rfl, by simp, hs⟩
      | ok l =>
          rcases ih with ⟨e, before, t, after, rfl, hbefore, ht⟩ | ⟨layers, hrest⟩
          · refine .inl ⟨e, s :: before, t, after, rfl, ?_, ht⟩
            exact List.forall_mem_cons.mpr ⟨⟨l, hs⟩, hbefore⟩
          · exact .inr ⟨l :: layers, congrArg₂ List.cons hs hrest⟩

/-- Sources each of which can be read can all be read. -/
theorem exists_readAs (h : ∀ s ∈ ordered, ∃ l, s.layer = .ok l) :
    ∃ layers, ReadAs ordered layers := by
  rcases firstFailure_or_readAs ordered with ⟨e, before, s, after, rfl, -, hs⟩ | h
  · obtain ⟨l, hl⟩ := h s (by simp)
    exact absurd (hs.symm.trans hl) (by simp)
  · exact h

/-- Reading sources over a layer lays what they say over it. -/
theorem foldlM_of_readAs {layers : List Layer} (h : ReadAs ordered layers) (base : Layer) :
    ordered.foldlM (fun lower s => s.layer.map fun upper => upper.onto lower) base =
      .ok (layers.foldl (fun lower upper => upper.onto lower) base) := by
  induction ordered generalizing layers base with
  | nil =>
      cases layers with
      | nil => rfl
      | cons l layers => simp [ReadAs] at h
  | cons s rest ih =>
      cases layers with
      | nil => simp [ReadAs] at h
      | cons l layers =>
          simp only [ReadAs, List.map_cons, List.cons.injEq] at h
          rw [List.foldlM_cons, h.1]
          exact ih h.2 (l.onto base)

/-- Sources that can all be read stack up to what they say. -/
theorem stacked_of_readAs {layers : List Layer} (h : ReadAs ordered layers) :
    stacked ordered = .ok (Layer.stack layers) :=
  foldlM_of_readAs h {}

/-- The first source that cannot be read decides the error of them all. -/
theorem stacked_of_firstFailure {e : SettingsError} (h : FirstFailure ordered e) :
    stacked ordered = .error e := by
  obtain ⟨before, s, after, rfl, hbefore, hs⟩ := h
  obtain ⟨layers, hlayers⟩ := exists_readAs hbefore
  have hfail (base : Layer) : (s :: after).foldlM
      (fun lower s => s.layer.map fun upper => upper.onto lower) base = .error e := by
    rw [List.foldlM_cons, hs]
    rfl
  rw [stacked, List.foldlM_append, foldlM_of_readAs hlayers]
  exact hfail _

end Source

/-! ## Loading -/

/-- Some limit of the cache of clients is zero. -/
def FederationSettings.HasZero (s : FederationSettings) : Prop :=
  s.cacheTtlSeconds = 0 ∨ s.cacheMaxEntries = 0 ∨ s.cacheSweepSeconds = 0

/-- The check passes the settings that have no zero, and fails on the others with a zero. -/
theorem FederationSettings.check_cases (s : FederationSettings) :
    (¬ s.HasZero ∧ s.check = .ok ()) ∨ s.HasZero ∧ ∃ name, s.check = .error (.zero name) := by
  by_cases httl : s.cacheTtlSeconds = 0
  · exact .inr ⟨.inl httl, _, if_pos httl⟩
  · by_cases hmax : s.cacheMaxEntries = 0
    · exact .inr ⟨.inr (.inl hmax), _, by rw [check, if_neg httl, if_pos hmax]⟩
    · by_cases hsweep : s.cacheSweepSeconds = 0
      · exact .inr ⟨.inr (.inr hsweep), _, by rw [check, if_neg httl, if_neg hmax, if_pos hsweep]⟩
      · refine .inl ⟨?_, by rw [check, if_neg httl, if_neg hmax, if_neg hsweep]⟩
        rintro (h | h | h)
        exacts [httl h, hmax h, hsweep h]

namespace Settings

open Source

variable {sources : List Source}

/-- The first source that cannot be read decides the error. -/
theorem load_of_firstFailure {e : SettingsError} (h : FirstFailure (inOrder sources) e) :
    load sources = .error e := by
  rw [load, stacked_of_firstFailure h]
  rfl

/-- Sources that can all be read lead to the settings as the last of them have it, if these pass the
check. -/
theorem load_of_readAs {layers : List Layer} (h : ReadAs (inOrder sources) layers) :
    load sources = (settled layers).federation.check >>= fun _ => .ok (settled layers) := by
  rw [load, stacked_of_readAs h]
  exact resolve_stack layers

/-- Sources that can all be read lead to the settings as the last of them have it, and fail exactly
if there is a zero among the limits of the cache. -/
theorem load_iff_of_readAs {layers : List Layer} (h : ReadAs (inOrder sources) layers) :
    (load sources = .ok (settled layers) ↔ ¬ (settled layers).federation.HasZero) ∧
      ((∃ name, load sources = .error (.zero name)) ↔ (settled layers).federation.HasZero) := by
  have hload := load_of_readAs h
  rcases (settled layers).federation.check_cases with ⟨hzero, hcheck⟩ | ⟨hzero, name, hcheck⟩
  · replace hload : load sources = .ok (settled layers) := by rw [hload, hcheck]; rfl
    exact ⟨iff_of_true hload hzero, iff_of_false (by simp [hload]) hzero⟩
  · replace hload : load sources = .error (.zero name) := by rw [hload, hcheck]; rfl
    exact ⟨iff_of_false (by simp [hload]) (not_not_intro hzero), iff_of_true ⟨name, hload⟩ hzero⟩

/-- However sources are given, they are read in the one order that ascends by precedence and keeps
those of equal precedence as given. If one cannot be read, the first of these decides the error.
Otherwise every setting is as the last source has it that says something about it, as by default if
none does, with the output limits in range; and this fails, with a zero as the reason, exactly if a
limit of the cache comes out as zero. Sources of pairwise distinct precedence can be given in any
order. Laying layers over each other is associative, with the empty layer as identity, and a layer
whose sections say nothing has no effect wherever it lies. -/
theorem load_layered (sources : List Source) :
    ∃ ordered,
      (∀ other, IsOrderOf sources other ↔ other = ordered) ∧
      ((∃ e, FirstFailure ordered e ∧ load sources = .error e) ∨
        ∃ layers, ReadAs ordered layers ∧
          (load sources = .ok (settled layers) ↔ ¬ (settled layers).federation.HasZero) ∧
          ((∃ name, load sources = .error (.zero name)) ↔ (settled layers).federation.HasZero) ∧
          (settled layers).output.InRange ∧
          (settled layers).output.validated = (settled layers).output) ∧
      (∀ others : List Source, sources.Perm others → (sources.map precedence).Nodup →
        load others = load sources) ∧
      (∀ a b c : Layer, (a.onto b).onto c = a.onto (b.onto c)) ∧
      (∀ l : Layer, l.onto {} = l ∧ Layer.onto {} l = l) ∧
      (∀ l : FederationLayer, l.onto {} = l ∧ FederationLayer.onto {} l = l) ∧
      (∀ l : OutputLayer, l.onto {} = l ∧ OutputLayer.onto {} l = l) ∧
      (∀ l : LoggingLayer, l.onto {} = l ∧ LoggingLayer.onto {} l = l) ∧
      ∀ l : Layer, l.IsSilent → ∀ above below : Layer,
        (above.onto (l.onto below)).resolve = (above.onto below).resolve := by
  refine ⟨inOrder sources, fun other => isOrderOf_iff, ?_, ?_, Std.Associative.assoc, ?_, ?_, ?_,
    ?_, fun l h => h.resolve_between⟩
  · rcases firstFailure_or_readAs (inOrder sources) with ⟨e, he⟩ | ⟨layers, hlayers⟩
    · exact .inl ⟨e, he, load_of_firstFailure he⟩
    · obtain ⟨hload, hzero⟩ := load_iff_of_readAs hlayers
      have hrange : (settled layers).output.InRange := OutputConfig.validated_inRange _
      exact .inr ⟨layers, hlayers, hload, hzero, hrange,
        OutputConfig.validated_eq_self_iff.mpr hrange⟩
  · intro others hperm hnodup
    rw [load, load, inOrder_of_perm hperm hnodup]
  all_goals exact fun l => ⟨Std.LawfulRightIdentity.right_id l, Std.LawfulLeftIdentity.left_id l⟩

end Settings

end FleetGate
