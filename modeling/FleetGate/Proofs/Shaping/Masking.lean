import FleetGate.Proofs.Json.Agreement
import FleetGate.Shaping.Pipeline

/-! # What a response tells of secrets

Two runs of the pipeline are compared, on items that differ in what their secrets hold and in
nothing else. Masking writes over just those places, whatever stands there, and it finds the same
objects to be secrets in both runs. So the masked items are equal, and with them all that comes
after: slimming by any paths, the count limit, and the byte budget, which only sees the masked form.
-/

namespace FleetGate.Shaping

open Json (AlikeBut MembersAlikeBut Places)

/-- A place where a secret keeps what is masked: a value of its payload, or an annotation that names
a service account. -/
inductive IsSecretPlace : List String → Prop
  | payload {field key : String} (hfield : field ∈ payloadFields) : IsSecretPlace [field, key]
  | account {key : String} (hkey : key ∈ sensitiveAnnotations) :
      IsSecretPlace ["metadata", "annotations", key]

/-- The places where a secret keeps what is masked. -/
def secretPlaces : Places := {path | IsSecretPlace path}

/-- The items are equal, or both are secrets and differ in what is masked alone. -/
def SameButSecrets (v w : Json) : Prop :=
  v = w ∨ isSecret v = true ∧ AlikeBut secretPlaces v w

variable {S T : Places} {v w : Json} {config : OutputConfig}

theorem secretPlaces_deep : secretPlaces.Deep 2 := by
  rintro _ (⟨-⟩ | ⟨-⟩)
  · exact Nat.le_refl 2
  · exact Nat.le_succ 2

/-! ## Masking as a change of members -/

/-- What masking makes of a member of a secret. -/
def maskMember (name : String) (v : Json) : Json :=
  if name ∈ payloadFields then maskValues v
  else if name = "metadata" then maskMetadata v
  else v

/-- What masking makes of an annotation. -/
def maskAccount (name : String) (v : Json) : Json :=
  if name ∈ sensitiveAnnotations then .str redacted else v

theorem maskValues_eq (v : Json) : maskValues v = v.mapMembers fun _ _ => .str redacted := by
  cases v <;> rfl

theorem maskAnnotations_eq (v : Json) : maskAnnotations v = v.mapMembers maskAccount := by
  cases v with
  | obj ms =>
      refine congrArg Json.obj (List.map_congr_left fun m _ => ?_)
      simp only [maskAccount]
      split <;> rfl
  | _ => rfl

theorem maskMetadata_eq (v : Json) :
    maskMetadata v =
      v.mapMembers fun k u => if k = "annotations" then maskAnnotations u else u := by
  cases v with
  | obj ms => exact Json.obj_modify "annotations" maskAnnotations ms
  | _ => rfl

/-- The three changes that mask a secret are to members of different names, so they are one. -/
theorem maskSecrets_of_isSecret (h : isSecret v = true) :
    maskSecrets v = v.mapMembers maskMember := by
  cases v with
  | obj ms =>
      simp only [maskSecrets, h, if_true, Keyed.modify, List.map_map, Json.mapMembers,
        Json.obj.injEq]
      -- a member has one of the three names or none, so at most one change touches it
      refine List.map_congr_left fun m _ => ?_
      by_cases hdata : m.1 = "data"
      · simp [maskMember, payloadFields, hdata]
      · by_cases hstring : m.1 = "stringData"
        · simp [maskMember, payloadFields, hstring]
        · by_cases hmeta : m.1 = "metadata" <;>
            simp [maskMember, payloadFields, hdata, hstring, hmeta]
  | _ => simp [maskSecrets, h, Json.mapMembers]

/-- Any object but a secret is kept by masking. -/
theorem maskSecrets_of_not_isSecret (h : isSecret v = false) : maskSecrets v = v := by
  simp [maskSecrets, h]

/-! ## What masking keeps -/

theorem alike_maskAccount (k : String) (v : Json) :
    AlikeBut (((secretPlaces.below "metadata").below "annotations").below k) v
      (maskAccount k v) := by
  rw [maskAccount]
  split
  · rename_i hk
    exact .hidden (.account hk)
  · exact .same

/-- A member of a secret is kept but where secrets keep what is masked. -/
theorem alike_maskMember (k : String) (v : Json) :
    AlikeBut (secretPlaces.below k) v (maskMember k v) := by
  rw [maskMember]
  split
  · rename_i hk
    rw [maskValues_eq]
    exact Json.alikeBut_mapMembers (fun _ _ => .hidden (.payload hk)) v
  split
  · rename_i hk
    subst hk
    rw [maskMetadata_eq]
    refine Json.alikeBut_mapMembers (fun k u => ?_) v
    split
    · rename_i hk
      subst hk
      rw [maskAnnotations_eq]
      exact Json.alikeBut_mapMembers alike_maskAccount u
    · exact .same
  · exact .same

/-- Masking keeps every key, and every value but at the places where secrets keep what is masked. -/
theorem alike_maskSecrets (v : Json) : AlikeBut secretPlaces v (maskSecrets v) := by
  cases h : isSecret v with
  | true =>
      rw [maskSecrets_of_isSecret h]
      exact Json.alikeBut_mapMembers alike_maskMember v
  | false =>
      rw [maskSecrets_of_not_isSecret h]
      exact .same

/-! ## What masking hides -/

/-- Values that differ inside their members alone are secrets both or neither. -/
theorem isSecret_eq (hS : S.Deep 2) (h : AlikeBut S v w) : isSecret v = isSecret w := by
  have htext (name : String) :
      (v.member? name).bind Json.string? = (w.member? name).bind Json.string? := by
    rcases h.member? hS.root name with ⟨hv, hw⟩ | ⟨a, b, hv, hw, hab⟩
    · rw [hv, hw]
    · rw [hv, hw]
      exact hab.string?_eq (hS.below name).root
  have hobject (name : String) :
      (v.member? name).any Json.isObject = (w.member? name).any Json.isObject := by
    rcases h.member? hS.root name with ⟨hv, hw⟩ | ⟨a, b, hv, hw, hab⟩
    · rw [hv, hw]
    · rw [hv, hw]
      exact hab.isObject_eq (hS.below name).root
  have hshape : hasSecretShape v = hasSecretShape w := by
    simp only [hasSecretShape, htext, hobject]
  have hkind : v.stringAt? ["kind"] = w.stringAt? ["kind"] := by
    simpa [Json.stringAt?, Json.at?] using htext "kind"
  rw [isSecret, isSecret, hshape, hkind]

theorem annotations_not_secretPlace : ["metadata", "annotations"] ∉ secretPlaces := by
  rintro ⟨hfield⟩
  exact absurd hfield (by decide)

/-- A name that is neither a payload field nor `metadata` has no secret place below it. -/
theorem not_secretPlace_below {k : String} {path : List String} (hfield : k ∉ payloadFields)
    (hmeta : k ≠ "metadata") : k :: path ∉ secretPlaces := by
  rintro (⟨hmem⟩ | ⟨-⟩)
  · exact hfield hmem
  · exact hmeta rfl

theorem alike_maskAccount_both {k : String}
    (h : AlikeBut (Places.below (((secretPlaces ∪ T).below "metadata").below "annotations") k) v w) :
    AlikeBut (((T.below "metadata").below "annotations").below k) (maskAccount k v)
      (maskAccount k w) := by
  rw [maskAccount, maskAccount]
  split
  · exact .same
  · rename_i hk
    refine h.mono fun path hpath => hpath.resolve_left ?_
    rintro (⟨-⟩ | ⟨hmem⟩)
    exact hk hmem

theorem alike_maskMetadata_both (h : AlikeBut ((secretPlaces ∪ T).below "metadata") v w) :
    AlikeBut (T.below "metadata") (maskMetadata v) (maskMetadata w) := by
  rw [maskMetadata_eq, maskMetadata_eq]
  refine h.mapMembers (Or.resolve_left · (secretPlaces_deep.below _).root) fun k a b hab => ?_
  split
  · rename_i hk
    subst hk
    rw [maskAnnotations_eq, maskAnnotations_eq]
    exact hab.mapMembers (Or.resolve_left · annotations_not_secretPlace)
      fun _ _ _ => alike_maskAccount_both
  · rename_i hk
    refine hab.mono fun path hpath => hpath.resolve_left ?_
    rintro (⟨hmem⟩ | ⟨-⟩)
    · exact absurd hmem (by decide)
    · exact hk rfl

/-- Members of a secret that differ at secret places and at others differ at those others alone once
they are masked. -/
theorem alike_maskMember_both {k : String} (h : AlikeBut ((secretPlaces ∪ T).below k) v w) :
    AlikeBut (T.below k) (maskMember k v) (maskMember k w) := by
  rw [maskMember, maskMember]
  split
  · rw [maskValues_eq, maskValues_eq]
    exact h.mapMembers (Or.resolve_left · (secretPlaces_deep.below k).root) fun _ _ _ _ => .same
  · rename_i hfield
    split
    · rename_i hk
      subst hk
      exact alike_maskMetadata_both h
    · rename_i hmeta
      exact h.mono fun path hpath => hpath.resolve_left (not_secretPlace_below hfield hmeta)

/-- Secrets that differ at secret places and at others differ at those others alone once they are
masked. -/
theorem alike_maskSecrets_both (hT : T.Deep 2) (hv : isSecret v = true)
    (h : AlikeBut (secretPlaces ∪ T) v w) : AlikeBut T (maskSecrets v) (maskSecrets w) := by
  have hw : isSecret w = true := isSecret_eq (secretPlaces_deep.union hT) h ▸ hv
  rw [maskSecrets_of_isSecret hv, maskSecrets_of_isSecret hw]
  exact h.mapMembers (fun root => absurd root (secretPlaces_deep.union hT).root)
    fun _ _ _ => alike_maskMember_both

/-- Items that differ in what is masked alone have one masked form. -/
theorem SameButSecrets.maskSecrets_eq (h : SameButSecrets v w) : maskSecrets v = maskSecrets w := by
  rcases h with rfl | ⟨hv, h⟩
  · rfl
  · have hnone (path : List String) : path ∉ (∅ : Places) := Set.notMem_empty path
    have hdeep : Places.Deep 2 ∅ := fun path hpath => absurd hpath (hnone path)
    rw [← Set.union_empty secretPlaces] at h
    exact (alike_maskSecrets_both hdeep hv h).eq_of_empty hnone

theorem SameButSecrets.isSecret_eq (h : SameButSecrets v w) : isSecret v = isSecret w := by
  rcases h with rfl | ⟨-, h⟩
  · rfl
  · exact Shaping.isSecret_eq secretPlaces_deep h

/-! ## The pipeline -/

theorem SameButSecrets.shapeItem_eq (hmask : config.maskSecrets = true) (h : SameButSecrets v w) :
    shapeItem config v = shapeItem config w := by
  simp only [shapeItem, hmask, if_true, h.maskSecrets_eq]

/-- Of its items the pipeline reads the shaped form, and whether one of them is a secret. -/
theorem processWithLimit_congr {R : Json → Json → Prop} {limit : Int} {items others : List Json}
    (hshaped : ∀ v w, R v w → shapeItem config.validated v = shapeItem config.validated w)
    (hsecret : ∀ v w, R v w → isSecret v = isSecret w) (h : List.Forall₂ R items others) :
    processWithLimit config limit items = processWithLimit config limit others := by
  have hread : items.map (shapeItem config.validated) = others.map (shapeItem config.validated) ∧
      items.any isSecret = others.any isSecret := by
    induction h with
    | nil => exact ⟨rfl, rfl⟩
    | cons head _ ih =>
        rw [List.map_cons, List.map_cons, List.any_cons, List.any_cons, hshaped _ _ head,
          hsecret _ _ head, ih.1, ih.2]
        exact ⟨rfl, rfl⟩
  simp only [processWithLimit, hread.1, hread.2, h.length_eq]

/-- With masking on, a response does not depend on what secrets hold: lists of items that differ
there alone give one result under every limit, and single items one value. Of a secret masking
changes nothing else, and it changes nothing of any other object. -/
theorem response_independent_of_secrets (config : OutputConfig) (hmask : config.maskSecrets = true) :
    (∀ limit items others, List.Forall₂ SameButSecrets items others →
      processWithLimit config limit items = processWithLimit config limit others) ∧
    (∀ v w, SameButSecrets v w → processSingle config v = processSingle config w) ∧
    (∀ v, AlikeBut secretPlaces v (maskSecrets v)) ∧
    ∀ v, isSecret v = false → maskSecrets v = v := by
  have hvalid : config.validated.maskSecrets = true := hmask
  refine ⟨fun limit items others h => ?_, fun v w h => ?_, alike_maskSecrets, fun v => ?_⟩
  · exact processWithLimit_congr (fun _ _ h => h.shapeItem_eq hvalid) (fun _ _ h => h.isSecret_eq) h
  · exact h.shapeItem_eq hvalid
  · exact maskSecrets_of_not_isSecret

/-- A secret that holds a password in its payload, and a text in one of the annotations that name a
service account. -/
def passwordSecret (password account : String) : Json :=
  .obj [("data", .obj [("password", .str password)]), ("kind", .str "secret"),
    ("metadata", .obj [("annotations", .obj [("kubernetes.io/service-account.name", .str account)]),
      ("name", .str "db-creds")])]

theorem passwordSecret_alike (password account password' account' : String) :
    SameButSecrets (passwordSecret password account) (passwordSecret password' account') := by
  have hdata : AlikeBut (secretPlaces.below "data") (.obj [("password", .str password)])
      (.obj [("password", .str password')]) :=
    (MembersAlikeBut.cons (.hidden (.payload (by decide))) (.refl _ [])).alike
  have hannotations : AlikeBut ((secretPlaces.below "metadata").below "annotations")
      (.obj [("kubernetes.io/service-account.name", .str account)])
      (.obj [("kubernetes.io/service-account.name", .str account')]) :=
    (MembersAlikeBut.cons (.hidden (.account (by decide))) (.refl _ [])).alike
  have hmetadata := (MembersAlikeBut.cons hannotations (.refl _ [("name", .str "db-creds")])).alike
  refine Or.inr ⟨rfl, MembersAlikeBut.alike ?_⟩
  exact .cons hdata (.cons .same (.cons hmetadata (.refl _ [])))

/-- Two passwords and two account names give one response. -/
theorem response_independent_of_password :
    let v := passwordSecret "aHVudGVyMg==" "builder"
    let w := passwordSecret "c2VzYW1l" "deployer"
    OutputConfig.default.maskSecrets = true ∧ List.Forall₂ SameButSecrets [.null, v] [.null, w] ∧
      v ≠ w ∧
      processWithLimit .default 1 [.null, v] = processWithLimit .default 1 [.null, w] ∧
      processSingle .default v = processSingle .default w := by
  have hsame := passwordSecret_alike "aHVudGVyMg==" "builder" "c2VzYW1l" "deployer"
  have hlists : List.Forall₂ SameButSecrets
      [.null, passwordSecret "aHVudGVyMg==" "builder"]
      [.null, passwordSecret "c2VzYW1l" "deployer"] := .cons (Or.inl rfl) (.cons hsame .nil)
  obtain ⟨hlist, hsingle, -⟩ := response_independent_of_secrets .default rfl
  exact ⟨rfl, hlists, by decide, hlist 1 _ _ hlists, hsingle _ _ hsame⟩

end FleetGate.Shaping
