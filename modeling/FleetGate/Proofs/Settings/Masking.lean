import FleetGate.Proofs.Json.Records
import FleetGate.Proofs.Settings.Layering
import FleetGate.Proofs.Text.Ascii

/-!
# When secrets are left unmasked

Secrets are masked unless a source says otherwise. A file says so by the boolean `false` in the
right place, and anything else that is no boolean there is an error (`Layer.said_maskSecrets`). The
environment says so by any text that does not switch masking on, also by one that is neither a way to
say yes nor a way to say no. Such a text is the only way in which masking is lost without having been
switched off (`Settings.masking_fails_closed_iff`).
-/

namespace FleetGate

/-! ## What a file says -/

namespace Layer

open Json (Decoded)

variable {rules : FormatRules} {l : Layer} {o : OutputLayer} {v document : Json}

/-- The sections of a document. -/
def sectionNames : List String := ["federation", "output", "logging"]

/-- The fields of the output section. -/
def outputNames : List String :=
  ["max_items", "max_clusters", "max_response_bytes", "slim_output", "mask_secrets",
    "summary_threshold", "excluded_fields"]

/-- What stands for the switch of masking in an output section, the last one counting if there are
several. -/
def maskSecretsIn (v : Json) : Option Json :=
  Keyed.get? "mask_secrets" (v.named outputNames).reverse

/-- What stands for the switch of masking in a document. -/
def maskSecretsOf (document : Json) : Option Json :=
  (Keyed.get? "output" (document.named sectionNames).reverse).bind maskSecretsIn

/-- A part of a record that only the members of one field change is as the last of them sets it,
whether or not surplus items are ignored and a short record is allowed. -/
theorem decodeFields_last {α β : Type} {shortAllowed : Bool} {expected name : String}
    {fields : List String} {set : String → Json → α → Decoded α} {start a : α} {part : α → β}
    (h : decodeFields rules shortAllowed expected fields set start v = .ok a)
    (hname : name ∈ fields)
    (hkeep : ∀ key ∈ fields, key ≠ name → ∀ v a b, set key v a = .ok b → part b = part a) :
    match Keyed.get? name (v.named fields).reverse with
    | some v => ∃ before after, set name v before = .ok after ∧ part a = part after
    | none => part a = part start := by
  cases v with
  | arr items =>
      obtain ⟨-, h⟩ := refuse_eq_ok_iff.mp h
      have hlast := Json.decodeRecord_last hname hkeep h
      have hnamed : (Json.arr (if rules.surplusIgnored then items.take fields.length
          else items)).named fields = (Json.arr items).named fields := by
        split
        · calc fields.zip (items.take fields.length)
              = (fields.take fields.length).zip (items.take fields.length) := by
                rw [List.take_length]
            _ = (fields.zip items).take fields.length := List.take_zipWith.symm
            _ = fields.zip items := by
                rw [List.take_of_length_le]
                rw [List.length_zip]
                exact Nat.min_le_left _ _
        · rfl
      rwa [hnamed] at hlast
  | obj members =>
      rw [decodeFields] at h
      · exact Json.decodeRecord_last hname hkeep h
      · exact nofun
  | null | bool | int | float | str => cases h

/-- An output section switches masking by the boolean that stands there for it. -/
theorem maskSecrets_of_decodeOutput (h : decodeOutput rules v = .ok o) :
    o.maskSecrets? = (maskSecretsIn v).bind Json.bool? := by
  have hfields : decodeFields rules false _ outputNames setOutput {} v = .ok o := h
  have hkeep : ∀ key ∈ outputNames, key ≠ "mask_secrets" → ∀ v a b, setOutput key v a = .ok b →
      b.maskSecrets? = a.maskSecrets? := by
    intro key hkey hne v a b hb
    simp only [outputNames, List.mem_cons, List.not_mem_nil, or_false] at hkey
    rcases hkey with rfl | rfl | rfl | rfl | rfl | rfl | rfl
    case inr.inr.inr.inr.inl => exact absurd rfl hne
    all_goals
      obtain ⟨x, -, hx⟩ := bind_eq_ok_iff.mp hb
      cases hx
      rfl
  have hlast := decodeFields_last hfields (by decide) hkeep
  rw [maskSecretsIn]
  cases hvalue : Keyed.get? "mask_secrets" (v.named outputNames).reverse with
  | none =>
      rw [hvalue] at hlast
      exact hlast
  | some value =>
      rw [hvalue] at hlast
      obtain ⟨a, b, hb, hpart⟩ := hlast
      obtain ⟨x, hx, hset⟩ := bind_eq_ok_iff.mp hb
      cases hset
      rw [hpart, Option.bind_some]
      cases value <;> cases hx <;> rfl

/-- A document switches masking by the boolean that stands there for it, and says nothing about it
if there is none. -/
theorem said_maskSecrets (h : ofJson rules document = .ok l) :
    said (·.output?) (·.maskSecrets?) l = (maskSecretsOf document).bind Json.bool? := by
  have hfields : decodeFields rules true _ sectionNames (setSection rules) {} document = .ok l := h
  have hkeep : ∀ key ∈ sectionNames, key ≠ "output" → ∀ v a b, setSection rules key v a = .ok b →
      b.output? = a.output? := by
    intro key hkey hne v a b hb
    simp only [sectionNames, List.mem_cons, List.not_mem_nil, or_false] at hkey
    rcases hkey with rfl | rfl | rfl
    case inr.inl => exact absurd rfl hne
    all_goals
      obtain ⟨x, -, hx⟩ := bind_eq_ok_iff.mp hb
      cases hx
      rfl
  have hlast := decodeFields_last hfields (by decide) hkeep
  rw [said, maskSecretsOf]
  cases hvalue : Keyed.get? "output" (document.named sectionNames).reverse with
  | none =>
      rw [hvalue] at hlast
      rw [show l.output? = none from hlast]
      rfl
  | some value =>
      rw [hvalue] at hlast
      obtain ⟨a, b, hb, hpart⟩ := hlast
      obtain ⟨x, hx, hset⟩ := bind_eq_ok_iff.mp hb
      cases hset
      rw [show l.output? = x from hpart, Option.bind_some]
      -- `null` leaves the section out
      by_cases hnull : value = .null
      · subst hnull
        cases hx
        rfl
      · have hsection : (decodeOutput rules value).map some = .ok x := by
          cases value <;> first | exact absurd rfl hnull | exact hx
        obtain ⟨o, ho, rfl⟩ := map_eq_ok_iff.mp hsection
        exact maskSecrets_of_decodeOutput ho

end Layer

/-- A file states `b` for the switch of masking: it is a document, and the boolean `b` stands there
in the place of the switch. -/
def FileContent.StatesMasking (content : FileContent) (b : Bool) : Prop :=
  ∃ bytes text document, content = .bytes bytes ∧ String.fromUTF8? ⟨bytes.toArray⟩ = some text ∧
    Toml.parse? text = some document ∧ Layer.maskSecretsOf document = some (.bool b)

/-- A file that can be read switches masking as it states. -/
theorem Source.said_fileLayer {content : FileContent} {l : Layer} (h : fileLayer content = .ok l)
    (b : Bool) : Layer.said (·.output?) (·.maskSecrets?) l = some b ↔ content.StatesMasking b := by
  cases content with
  | missing =>
      cases h
      exact iff_of_false (by simp [Layer.said]) (by simp [FileContent.StatesMasking])
  | unreadable => cases h
  | bytes bytes =>
      simp only [fileLayer] at h
      split at h
      · cases h
      · rename_i text htext
        split at h
        · cases h
        · rename_i document hdocument
          have hbool (v : Json) : v.bool? = some b ↔ v = .bool b := by
            cases v <;> simp [Json.bool?]
          rw [Layer.said_maskSecrets (mapError_eq_ok_iff.mp h), Option.bind_eq_some_iff]
          constructor
          · rintro ⟨v, hv, hb⟩
            exact ⟨bytes, text, document, rfl, htext, hdocument, (hbool v).mp hb ▸ hv⟩
          · rintro ⟨_, _, _, ⟨⟩, htext', hdocument', hv⟩
            obtain rfl := Option.some.inj (htext.symm.trans htext')
            obtain rfl := Option.some.inj (hdocument.symm.trans hdocument')
            exact ⟨_, hv, rfl⟩

/-! ## What the environment says -/

namespace Environment

variable {env : Environment} {l : Layer} {s : String}

/-- The variable that switches masking. -/
def maskingVariable : String := "KMCP_SERVER_OUTPUT_MASK_SECRETS"

/-- A text that says yes: `true` in any case, or `1`. -/
def SaysYes (s : String) : Prop := Text.lowerText s = "true" ∨ s = "1"

/-- A text that says no: `false` in any case, or `0`. -/
def SaysNo (s : String) : Prop := Text.lowerText s = "false" ∨ s = "0"

instance : DecidablePred SaysYes := fun s =>
  inferInstanceAs (Decidable (Text.lowerText s = "true" ∨ s = "1"))

instance : DecidablePred SaysNo := fun s =>
  inferInstanceAs (Decidable (Text.lowerText s = "false" ∨ s = "0"))

/-- A switch is turned on by the texts that say yes. -/
theorem isOn_iff : isOn s = true ↔ SaysYes s := by
  have hword : Text.lowerText s = "true"
      ↔ s.toList.map Text.lowerAscii = "true".toList.map Text.lowerAscii := by
    rw [← String.toList_inj, Text.lowerText, String.toList_ofList]
    rfl
  rw [isOn, Text.eqIgnoringAsciiCase, Bool.or_eq_true, decide_eq_true_iff, decide_eq_true_iff,
    SaysYes, hword]

/-- A text that says no does not say yes. -/
theorem SaysNo.isOn_eq_false (h : SaysNo s) : isOn s = false := by
  rw [← Bool.not_eq_true, isOn_iff]
  rintro (hyes | rfl)
  · rcases h with hno | rfl
    · exact absurd (hyes.symm.trans hno) (by decide)
    · exact absurd hyes (by decide)
  · exact absurd h (by decide)

/-- The environment switches masking as its variable does. -/
theorem said_layer (h : env.layer = .ok l) :
    Layer.said (·.output?) (·.maskSecrets?) l = (env.text? maskingVariable).map isOn := by
  obtain ⟨federation, -, h⟩ := bind_eq_ok_iff.mp h
  obtain ⟨output, houtput, h⟩ := bind_eq_ok_iff.mp h
  cases h
  obtain ⟨maxItems?, -, houtput⟩ := bind_eq_ok_iff.mp houtput
  obtain ⟨maxClusters?, -, houtput⟩ := bind_eq_ok_iff.mp houtput
  obtain ⟨maxResponseBytes?, -, houtput⟩ := bind_eq_ok_iff.mp houtput
  obtain ⟨summaryThreshold?, -, houtput⟩ := bind_eq_ok_iff.mp houtput
  cases houtput
  rfl

end Environment

/-! ## What comes of both -/

namespace Settings

open Source Environment

variable {sources : List Source} {content : FileContent} {env : Environment} {settings : Settings}

/-- The sources of a process are read in one order, however they are given. -/
theorem inOrder_process (h : sources.Perm [.defaults, .file content, .environment env]) :
    inOrder sources = [.defaults, .file content, .environment env] := by
  have hlevels : ([Source.defaults, .file content, .environment env].map precedence).Nodup := by
    change [10, 20, 50].Nodup
    decide
  have hordered : IsOrderOf [.defaults, .file content, .environment env]
      [.defaults, .file content, .environment env] := by
    refine ⟨?_, fun _ => rfl⟩
    simp [precedence, Source.defaults, Source.file, Source.environment]
  rw [inOrder_of_perm h.symm hlevels]
  exact (isOrderOf_iff.mp hordered).symm

/-- However they are given, the file is laid over the defaults and the environment over both. -/
theorem load_process (h : sources.Perm [.defaults, .file content, .environment env]) :
    load sources
      = (stacked [.defaults, .file content, .environment env] >>= fun l => l.resolve) := by
  rw [load, inOrder_process h]

/-- The environment decides about masking, else the file; where neither does secrets are masked. -/
theorem maskSecrets_of_load (h : sources.Perm [.defaults, .file content, .environment env])
    (hload : load sources = .ok settings) :
    ∃ l, fileLayer content = .ok l ∧
      settings.output.maskSecrets = (((env.text? maskingVariable).map isOn).or
        (Layer.said (·.output?) (·.maskSecrets?) l)).getD true := by
  rcases firstFailure_or_readAs (inOrder sources) with ⟨e, he⟩ | ⟨layers, hlayers⟩
  · rw [load_of_firstFailure he] at hload
    cases hload
  · have hsettled := load_of_readAs hlayers
    rw [hload] at hsettled
    obtain ⟨-, hsettings⟩ := check_bind_eq_ok_iff.mp hsettled.symm
    obtain rfl := Except.ok.inj hsettings
    rw [ReadAs, inOrder_process h] at hlayers
    obtain ⟨below, _, rfl, hbelow, hlayers⟩ := List.map_eq_cons_iff.mp hlayers.symm
    obtain ⟨l, _, rfl, hl, hlayers⟩ := List.map_eq_cons_iff.mp hlayers
    obtain ⟨above, _, rfl, habove, hlayers⟩ := List.map_eq_cons_iff.mp hlayers
    obtain rfl := List.map_eq_nil_iff.mp hlayers
    obtain rfl := Except.ok.inj hbelow
    refine ⟨l, hl.symm, ?_⟩
    have hlast : Layer.lastSaid (·.output?) (·.maskSecrets?) [{}, l, above]
        = (Layer.said (·.output?) (·.maskSecrets?) above).or
            (Layer.said (·.output?) (·.maskSecrets?) l) := by
      rw [show [{}, l, above] = ([{}] ++ [l]) ++ [above] from rfl, Layer.lastSaid_concat,
        Layer.lastSaid_concat]
      exact congrArg _ (Option.or_none)
    rw [← said_layer habove.symm, ← hlast]
    rfl

/-- Masking was switched off by the source that decides about it: by a text that says no in the
environment, or by the file where the variable is unset or empty. -/
def SwitchedOff (content : FileContent) (env : Environment) : Prop :=
  (∃ s, env.text? maskingVariable = some s ∧ SaysNo s) ∨
    (env.text? maskingVariable = none ∧ content.StatesMasking false)

/-- The variable that switches masking holds a text that says neither yes nor no. -/
def Misspelled (env : Environment) : Prop :=
  ∃ s, env.text? maskingVariable = some s ∧ ¬ SaysYes s ∧ ¬ SaysNo s

/-- Who misspells it did not switch masking off. -/
theorem Misspelled.not_switchedOff (h : Misspelled env) : ¬ SwitchedOff content env := by
  obtain ⟨s, hs, -, hnot⟩ := h
  rintro (⟨t, ht, hno⟩ | ⟨hnone, -⟩)
  · obtain rfl := Option.some.inj (hs.symm.trans ht)
    exact hnot hno
  · rw [hs] at hnone
    cases hnone

/-- Settings that could be loaded, from sources given in any order, leave secrets unmasked exactly
if masking was switched off or the variable for it is misspelled, and never is it both. So masking is
lost only by being switched off, exactly if the variable is not misspelled. -/
theorem masking_fails_closed_iff
    (h : sources.Perm [.defaults, .file content, .environment env])
    (hload : load sources = .ok settings) :
    (settings.output.maskSecrets = false ↔ SwitchedOff content env ∨ Misspelled env) ∧
      ¬ (SwitchedOff content env ∧ Misspelled env) ∧
      ((settings.output.maskSecrets = false → SwitchedOff content env) ↔ ¬ Misspelled env) := by
  obtain ⟨l, hl, hmask⟩ := maskSecrets_of_load h hload
  have hoff : settings.output.maskSecrets = false ↔ SwitchedOff content env ∨ Misspelled env := by
    rw [hmask, SwitchedOff, Misspelled, ← said_fileLayer hl false]
    cases htext : env.text? maskingVariable with
    | none => cases Layer.said (·.output?) (·.maskSecrets?) l <;> simp
    | some s =>
        simp only [Option.map_some, Option.some_or, Option.getD_some, Option.some.injEq,
          exists_eq_left', reduceCtorEq, false_and, or_false]
        rw [← Bool.not_eq_true, isOn_iff]
        constructor
        · intro hyes
          exact or_iff_not_imp_left.mpr fun hno => ⟨hyes, hno⟩
        · rintro (hno | ⟨hyes, -⟩)
          · rw [← isOn_iff, hno.isOn_eq_false]
            exact Bool.false_ne_true
          · exact hyes
  refine ⟨hoff, fun ⟨hswitched, hmisspelled⟩ => hmisspelled.not_switchedOff hswitched, ?_⟩
  constructor
  · intro hclosed hmisspelled
    exact hmisspelled.not_switchedOff (hclosed (hoff.mpr (Or.inr hmisspelled)))
  · intro hspelled hmask
    exact (hoff.mp hmask).resolve_right hspelled

/-- Sources in descending order, of which the file switches masking off and the environment has the
variable, but empty. -/
theorem masking_switched_off_by_file :
    let content : FileContent := .bytes "[output]\nmask_secrets = false\n".toUTF8.toList
    let env : Environment := [(maskingVariable, "")]
    ∃ settings, load [.environment env, .file content, .defaults] = .ok settings ∧
      settings.output.maskSecrets = false ∧ SwitchedOff content env := by
  intro content env
  have hperm : List.Perm [Source.environment env, .file content, .defaults]
      [.defaults, .file content, .environment env] :=
    List.reverse_perm [Source.defaults, .file content, .environment env]
  have hmask : (load [.environment env, .file content, .defaults]).map (·.output.maskSecrets)
      = .ok false := by
    rw [load_process hperm]
    decide +kernel
  obtain ⟨settings, hload, hoff⟩ := map_eq_ok_iff.mp hmask
  have hunset : env.text? maskingVariable = none := by decide
  have hspelled : ¬ Misspelled env := by
    rintro ⟨s, hs, -⟩
    rw [hunset] at hs
    cases hs
  obtain ⟨-, -, hclosed⟩ := masking_fails_closed_iff hperm hload
  exact ⟨settings, hload, hoff, hclosed.mpr hspelled hoff⟩

/-- Without a file, `yes` leaves secrets unmasked, which nobody asked for. -/
theorem masking_lost_by_misspelling :
    let env : Environment := [(maskingVariable, "yes")]
    ∃ settings, load [.defaults, .file .missing, .environment env] = .ok settings ∧
      settings.output.maskSecrets = false ∧ ¬ SwitchedOff .missing env := by
  intro env
  have hmask : (load [.defaults, .file .missing, .environment env]).map (·.output.maskSecrets)
      = .ok false := by
    rw [load_process (List.Perm.refl _)]
    decide +kernel
  have hmisspelled : Misspelled env := ⟨"yes", by decide +kernel⟩
  obtain ⟨settings, hload, hoff⟩ := map_eq_ok_iff.mp hmask
  exact ⟨settings, hload, hoff, hmisspelled.not_switchedOff⟩

end Settings

end FleetGate
