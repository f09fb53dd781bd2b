import FleetGate.Proofs.Text.Search
import FleetGate.Proofs.Tools.Listing

/-! # What the tool that finds a cluster by a part of its name answers

A pattern means a cluster of exactly that name, and of several the first. Otherwise it means a
cluster whose name contains it in any case, if there is only one (`Means`). The answer is made of
the cluster that is meant and of how many could be, and the two have to fit each other
(`answers_resolveAnswer`). `resolve_shows` follows the answer from the arguments of a call to its
text.
-/

namespace FleetGate

/-! ## What a pattern means -/

section

variable {all : List ClusterSummary} {pattern : String} {c : ClusterSummary}

/-- The name of a cluster contains a pattern in any case. -/
def ClusterSummary.Matches (pattern : String) (c : ClusterSummary) : Prop :=
  (Text.lowercase pattern).toList <:+: (Text.lowercase c.name).toList

instance (pattern : String) : DecidablePred (ClusterSummary.Matches pattern) :=
  fun _ => decidable_of_iff _ Text.contains_iff

/-- Of the clusters in a list, in their order, those that a pattern could mean. -/
def candidates (all : List ClusterSummary) (pattern : String) : List ClusterSummary :=
  all.filter (ClusterSummary.Matches pattern)

/-- A pattern means the first cluster in a list that has exactly this name. If none has it, it means
the only one whose name contains it in any case. -/
inductive Means (all : List ClusterSummary) (pattern : String) (c : ClusterSummary) : Prop where
  | exact (before after : List ClusterSummary) (first : all = before ++ c :: after)
      (named : c.name = pattern) (others : ∀ d ∈ before, d.name ≠ pattern)
  | only (unnamed : ∀ d ∈ all, d.name ≠ pattern) (alone : candidates all pattern = [c])

/-- A cluster of exactly the name of a pattern is one that the pattern could mean. -/
theorem mem_candidates_of_name (h : c ∈ all) (hname : c.name = pattern) :
    c ∈ candidates all pattern := by
  rw [candidates, List.mem_filter, decide_eq_true_iff, ClusterSummary.Matches, hname]
  exact ⟨h, List.infix_rfl⟩

/-- What a pattern means is one of the clusters it could mean. -/
theorem Means.mem_candidates (h : Means all pattern c) : c ∈ candidates all pattern := by
  cases h with
  | exact before after first named others =>
      exact mem_candidates_of_name (first ▸ List.mem_append_cons_self) named
  | only unnamed alone => simp [alone]

/-- A name that no cluster has exactly is looked for in all of them. -/
theorem resolveName_of_unnamed (h : ∀ d ∈ all, d.name ≠ pattern) :
    resolveName all pattern = match candidates all pattern with
      | [only] => ⟨some only, [only]⟩
      | several => ⟨none, several⟩ := by
  have hfind : (all.find? fun c => c.name = pattern) = none := by
    simpa [List.find?_eq_none] using h
  have hmatches : (all.filter fun c => Text.contains (Text.lowercase c.name)
      (Text.lowercase pattern)) = candidates all pattern := by
    refine List.filter_congr fun c _ => ?_
    rw [Bool.eq_iff_iff, decide_eq_true_iff]
    exact Text.contains_iff
  rw [resolveName, hfind]
  simp only [hmatches]
  rcases candidates all pattern with _ | ⟨c, _ | ⟨d, rest⟩⟩ <;> rfl

/-- A pattern leads to what it means, as the only candidate. -/
theorem resolveName_of_means (h : Means all pattern c) :
    resolveName all pattern = ⟨some c, [c]⟩ := by
  cases h with
  | exact before after first named others =>
      have hfind : (all.find? fun c => c.name = pattern) = some c :=
        List.find?_eq_some_iff_append.mpr
          ⟨by simpa using named, before, after, first, by simpa using others⟩
      rw [resolveName, hfind]
  | only unnamed alone => rw [resolveName_of_unnamed unnamed, alone]

/-- A pattern that means nothing leads to all the clusters it could mean, none or several. -/
theorem resolveName_of_not_means (h : ∀ c, ¬ Means all pattern c) :
    resolveName all pattern = ⟨none, candidates all pattern⟩ ∧
      (candidates all pattern).length ≠ 1 := by
  have hunnamed : ∀ d ∈ all, d.name ≠ pattern := by
    intro d hd hname
    obtain ⟨c, hc⟩ := Option.isSome_iff_exists.mp
      ((List.find?_isSome (p := fun c => c.name = pattern)).mpr ⟨d, hd, decide_eq_true hname⟩)
    obtain ⟨hnamed, before, after, hfirst, hothers⟩ := List.find?_eq_some_iff_append.mp hc
    exact h c (.exact before after hfirst (by simpa using hnamed) (by simpa using hothers))
  have hseveral : (candidates all pattern).length ≠ 1 := by
    intro hone
    obtain ⟨c, hc⟩ := List.length_eq_one_iff.mp hone
    exact h c (.only hunnamed hc)
  refine ⟨?_, hseveral⟩
  rw [resolveName_of_unnamed hunnamed]
  rcases hcandidates : candidates all pattern with _ | ⟨c, _ | ⟨d, rest⟩⟩
  · rfl
  · simp [hcandidates] at hseveral
  · rfl

end

namespace ClusterTool

/-! ## The answer -/

section

variable {now : Time.Timestamp} {all : List ClusterSummary} {pattern : String} {c : ClusterSummary}

/-- What is said when no cluster could be meant. -/
def noMatch (pattern : String) : String :=
  "No clusters match pattern " ++ ("'" ++ pattern ++ "'") ++
    ". Use capi_list_clusters to see available clusters."

/-- What is said when several clusters could be meant. -/
def ambiguous (pattern : String) : String :=
  "Multiple clusters match pattern " ++ ("'" ++ pattern ++ "'") ++
    ". Please use a more specific name."

/-- What is said of the cluster that is meant. -/
def resolvedTo (pattern : String) (c : ClusterSummary) : String :=
  "Pattern " ++ ("'" ++ pattern ++ "'") ++ " resolved to cluster '" ++ c.name ++
    "' in namespace '" ++ c.ns ++ "'."

/-- A text starts as its first part does. -/
theorem head?_append {s t : String} {first : Char} (h : s.toList.head? = some first) :
    (s ++ t).toList.head? = some first := by
  rw [String.toList_append, List.head?_append, h]
  rfl

/-- Texts that start differently are different. -/
theorem ne_of_head? {s t : String} {first other : Char} (hs : s.toList.head? = some first)
    (ht : t.toList.head? = some other) (hne : first ≠ other) : s ≠ t := by
  rintro rfl
  exact hne (Option.some.inj (hs.symm.trans ht))

theorem head?_noMatch (pattern : String) : (noMatch pattern).toList.head? = some 'N' :=
  head?_append (head?_append (by decide))

theorem head?_ambiguous (pattern : String) : (ambiguous pattern).toList.head? = some 'M' :=
  head?_append (head?_append (by decide))

theorem head?_resolvedTo (pattern : String) (c : ClusterSummary) :
    (resolvedTo pattern c).toList.head? = some 'P' := by
  rw [resolvedTo]
  iterate 6 apply head?_append
  decide

/-- An answer that resolves a pattern to a cluster. -/
structure ResolvesTo (now : Time.Timestamp) (pattern : String) (c : ClusterSummary)
    (answer : Json) : Prop where
  resolved : answer.member? "resolved" = some (.bool true)
  cluster : ∃ row, answer.member? "cluster" = some row ∧ c.IsRow now row
  candidates : answer.member? "matches" = none
  message : answer.member? "message" = some (.str (resolvedTo pattern c))

/-- An answer that leaves a pattern open between the clusters it could mean. It shows each of them
in a row of its own, in their order. -/
structure LeavesOpen (now : Time.Timestamp) (pattern : String) (several : List ClusterSummary)
    (answer : Json) : Prop where
  resolved : answer.member? "resolved" = some (.bool false)
  cluster : answer.member? "cluster" = none
  unmatched : several = [] → answer.member? "matches" = none
  candidates : several ≠ [] → ∃ rows, answer.member? "matches" = some (.arr rows) ∧
    List.Forall₂ (ClusterSummary.IsRow now) several rows
  message : answer.member? "message"
    = some (.str (if several = [] then noMatch pattern else ambiguous pattern))

/-- An answer that says of a pattern what it means among all the clusters. -/
structure Answers (now : Time.Timestamp) (all : List ClusterSummary) (pattern : String)
    (answer : Json) : Prop where
  resolves : ∀ c, Means all pattern c → ResolvesTo now pattern c answer
  leaves : (∀ c, ¬ Means all pattern c) → LeavesOpen now pattern (candidates all pattern) answer

/-- With the one candidate that is meant the answer resolves the pattern. -/
theorem resolveAnswer_of_one (now : Time.Timestamp) (pattern : String) (c : ClusterSummary) :
    ResolvesTo now pattern c (resolveAnswer now pattern ⟨some c, [c]⟩) := by
  have hcluster : (resolveAnswer now pattern ⟨some c, [c]⟩).member? "cluster"
      = some (c.rowJson now) := by
    simp only [resolveAnswer, Json.ofMembers, Json.member?, Keyed.get?_ofPairs]
    rfl
  refine ⟨?_, ⟨_, hcluster, c.isRow_rowJson now⟩, ?_, ?_⟩
  all_goals
    simp only [resolveAnswer, Json.ofMembers, Json.member?, Keyed.get?_ofPairs]
    rfl

/-- Without a candidate, or with several, the answer leaves the pattern open. -/
theorem resolveAnswer_of_not_one (now : Time.Timestamp) (pattern : String)
    {several : List ClusterSummary} (h : several.length ≠ 1) :
    LeavesOpen now pattern several (resolveAnswer now pattern ⟨none, several⟩) := by
  rcases several with _ | ⟨c, _ | ⟨d, rest⟩⟩
  · refine ⟨?_, ?_, fun _ => ?_, fun hne => absurd rfl hne, ?_⟩
    all_goals
      simp only [resolveAnswer, Json.ofMembers, Json.member?, Keyed.get?_ofPairs]
      rfl
  · exact absurd List.length_singleton h
  · have hne := List.cons_ne_nil c (d :: rest)
    have hrows := ClusterSummary.forall₂_isRow now (c :: d :: rest)
    refine ⟨?_, ?_, fun hnone => absurd hnone hne, fun _ => ⟨_, ?_, hrows⟩, ?_⟩
    all_goals
      simp only [resolveAnswer, Json.ofMembers, Json.member?, Keyed.get?_ofPairs, if_neg hne]
      rfl

/-- The two layers fit each other: the answer made of what a pattern leads to says what it means. -/
theorem answers_resolveAnswer (now : Time.Timestamp) (all : List ClusterSummary)
    (pattern : String) :
    Answers now all pattern (resolveAnswer now pattern (resolveName all pattern)) where
  resolves c hc := by
    rw [resolveName_of_means hc]
    exact resolveAnswer_of_one now pattern c
  leaves hnone := by
    obtain ⟨hname, hlength⟩ := resolveName_of_not_means hnone
    rw [hname]
    exact resolveAnswer_of_not_one now pattern hlength

variable {answer : Json}

/-- The answer tells that a pattern is resolved exactly if it means something. -/
theorem Answers.resolved_iff (h : Answers now all pattern answer) :
    answer.member? "resolved" = some (.bool true) ↔ ∃ c, Means all pattern c := by
  by_cases hmeans : ∃ c, Means all pattern c
  · obtain ⟨c, hc⟩ := hmeans
    exact iff_of_true (h.resolves c hc).resolved ⟨c, hc⟩
  · have hleft := h.leaves (not_exists.mp hmeans)
    exact iff_of_false (by simp [hleft.resolved]) hmeans

/-- The answer tells that there is no match exactly if there is no candidate. -/
theorem Answers.noMatch_iff (h : Answers now all pattern answer) :
    answer.member? "message" = some (.str (noMatch pattern)) ↔ candidates all pattern = [] := by
  by_cases hmeans : ∃ c, Means all pattern c
  · obtain ⟨c, hc⟩ := hmeans
    have hne : resolvedTo pattern c ≠ noMatch pattern :=
      ne_of_head? (head?_resolvedTo pattern c) (head?_noMatch pattern) (by decide)
    exact iff_of_false (by simpa [(h.resolves c hc).message] using hne)
      (List.ne_nil_of_mem hc.mem_candidates)
  · have hne : ambiguous pattern ≠ noMatch pattern :=
      ne_of_head? (head?_ambiguous pattern) (head?_noMatch pattern) (by decide)
    rw [(h.leaves (not_exists.mp hmeans)).message]
    by_cases hnone : candidates all pattern = []
    · simp [hnone]
    · simp [hnone, hne]

/-- The answer asks for a more specific name exactly if several clusters could be meant and none of
them is. -/
theorem Answers.ambiguous_iff (h : Answers now all pattern answer) :
    answer.member? "message" = some (.str (ambiguous pattern)) ↔
      (∀ c, ¬ Means all pattern c) ∧ 2 ≤ (candidates all pattern).length := by
  by_cases hmeans : ∃ c, Means all pattern c
  · obtain ⟨c, hc⟩ := hmeans
    have hne : resolvedTo pattern c ≠ ambiguous pattern :=
      ne_of_head? (head?_resolvedTo pattern c) (head?_ambiguous pattern) (by decide)
    exact iff_of_false (by simpa [(h.resolves c hc).message] using hne) fun hnone => hnone.1 c hc
  · have hnone := not_exists.mp hmeans
    have hne : noMatch pattern ≠ ambiguous pattern :=
      ne_of_head? (head?_noMatch pattern) (head?_ambiguous pattern) (by decide)
    obtain ⟨-, hlength⟩ := resolveName_of_not_means hnone
    rw [(h.leaves hnone).message, and_iff_right hnone]
    generalize candidates all pattern = several at hlength
    rcases several with _ | ⟨c, rest⟩
    · simp [hne]
    · rw [List.length_cons] at hlength ⊢
      rw [if_neg (List.cons_ne_nil c rest)]
      exact iff_of_true rfl (by omega)

end

/-! ## The call -/

section

variable {f : Federation InMemoryFleet} {caller : Identity} {raw : RawIdentity} {r : Request}
  {args : Json} {field value : String}

/-- The one argument of a tool is read as its value. -/
theorem decodeText_eq {expected : String} (hrecord : args.IsRecord [field])
    (hvalue : Keyed.get? field (args.named [field]) = some (.str value)) :
    decodeText expected field args = .ok (some value) := by
  have hfields : [field].Nodup := List.nodup_singleton field
  have htotal : ∃ a, decodeText expected field args = .ok a := by
    refine Json.decodeRecord_total hrecord fun m hm hname _ => ⟨some value, ?_⟩
    obtain ⟨key, v⟩ := m
    obtain rfl : key = field := List.mem_singleton.mp hname
    rw [Keyed.get?_of_mem (hrecord.nodup hfields) hm] at hvalue
    rw [Option.some.inj hvalue]
    rfl
  have hset : ∀ key ∈ [field], ∀ (v : Json) (a b : Option String),
      Json.decodeOption Json.decodeString v = .ok b →
      id b = if key = field then v.string? else id a := by
    intro key hkey v a b hset
    rw [if_pos (List.mem_singleton.mp hkey)]
    cases v <;> cases hset <;> rfl
  obtain ⟨a, ha⟩ := htotal
  have hpart := Json.decodeRecord_part (List.mem_singleton_self field) hset hfields hrecord ha
  rw [hvalue] at hpart
  rw [ha, show a = some value from hpart]

/-- What the tool answers to a pattern is made of all the clusters that the federation found. -/
theorem resolve_apply {σ : Type} {b : Backend σ} {f : Federation σ} {server : Server σ}
    {pattern : String} (hserver : server.federation? = some f) (hsender : r.identity? = some raw)
    (hrecord : args.IsRecord ["pattern"])
    (hpattern : Keyed.get? "pattern" (args.named ["pattern"]) = some (.str pattern))
    (hne : pattern ≠ "") :
    (resolve b r args server).1
      = ((Federation.clusters b (some raw) {} f).1.mapError (inWords "resolve cluster")).map
          fun all => resolveAnswer r.now pattern (resolveName all pattern) := by
  have hready := ready_apply hserver hsender
  have hnull : args.isNull = false := by
    cases args with
    | null => exact hrecord.elim
    | bool | int | float | str | arr | obj => rfl
  have harguments : (ToolM.arguments (decodeText "struct ResolveClusterArgs" "pattern") args :
      ToolM σ _) server = (.ok (some pattern), server) := by
    rw [ToolM.arguments, hnull, if_neg Bool.false_ne_true, decodeText_eq hrecord hpattern]
    rfl
  have hrequired : (ToolM.required (some pattern) "pattern parameter is required" :
      ToolM σ _) server = (.ok pattern, server) := by
    have hkept : (some pattern).filter (fun s => !s.isEmpty) = some pattern := by
      simp [hne]
    rw [ToolM.required, hkept]
    rfl
  simp only [resolve, ToolM.bind_apply, hready, harguments, hrequired, ToolM.onFederation_apply]
  cases (Federation.clusters b (some raw) {} f).1 with
  | error e => rfl
  | ok found => rfl

/-- A call of a known caller for the cluster that a pattern means, on a management cluster on which
nothing fails. If the pattern means a cluster of those listed, wherever on however many pages, the
answer resolves it to that cluster. Otherwise the answer leaves it open and shows every cluster it
could mean, in the order in which they are listed. It tells that there is no match only if there is
none, and asks for a more specific name only if there are several. -/
theorem resolve_shows {server : Server InMemoryFleet} {pattern : String} (h : f.Serves caller)
    (hserver : server.federation? = some f) (hsender : r.identity? = some raw)
    (normal : raw.normalize = .ok caller) (alive : r.cancelled = false)
    (hrecord : args.IsRecord ["pattern"])
    (hpattern : Keyed.get? "pattern" (args.named ["pattern"]) = some (.str pattern))
    (hne : pattern ≠ "") :
    let all := Federation.clustersOf f.clients.world.management
    ∃ answer : Json,
      (Tool.dispatch InMemoryFleet.backend "capi_resolve_cluster" args r server).1
        = ⟨false, answer.pretty⟩ ∧
      (answer.member? "resolved" = some (.bool true) ↔ ∃ c, Means all pattern c) ∧
      (∀ c, Means all pattern c → ResolvesTo r.now pattern c answer) ∧
      ((∀ c, ¬ Means all pattern c) →
        LeavesOpen r.now pattern (candidates all pattern) answer) ∧
      (answer.member? "message" = some (.str (noMatch pattern)) ↔
        candidates all pattern = []) ∧
      (answer.member? "message" = some (.str (ambiguous pattern)) ↔
        (∀ c, ¬ Means all pattern c) ∧ 2 ≤ (candidates all pattern).length) := by
  intro all
  have hscreen : f.screen "" (some raw) = .ok caller :=
    Federation.screen_eq_ok_iff.mpr ⟨h.idle.opened, raw, rfl, normal, Or.inl rfl⟩
  have hresolve := resolve_apply (b := InMemoryFleet.backend) hserver hsender hrecord hpattern hne
  rw [h.clusters_eq hscreen, Federation.apply_empty] at hresolve
  have htool : Tool.ofName? "capi_resolve_cluster" = some .resolveCluster := by decide
  have hresult : (Tool.dispatch InMemoryFleet.backend "capi_resolve_cluster" args r server).1
      = .of (resolve InMemoryFleet.backend r args server).1 := Tool.dispatch_eq htool alive
  have hanswers := answers_resolveAnswer r.now all pattern
  refine ⟨resolveAnswer r.now pattern (resolveName all pattern), ?_, hanswers.resolved_iff,
    hanswers.resolves, hanswers.leaves, hanswers.noMatch_iff, hanswers.ambiguous_iff⟩
  rw [hresult, hresolve]
  rfl

/-- Of two clusters of one name the first is meant by this name, and neither by a part of it. -/
theorem resolve_shows_same_names :
    let f := Federation.start .user {} ({ management := Federation.sameNames } : InMemoryFleet)
    let r : Request := { identity? := some { email := "jane@example.com" }, now := ⟨0, 0⟩ }
    let call (pattern : String) := (Tool.dispatch InMemoryFleet.backend "capi_resolve_cluster"
      (.obj [("pattern", .str pattern)]) r { federation? := some f }).1
    (∃ answer row : Json, call "prod" = ⟨false, answer.pretty⟩ ∧
      answer.member? "resolved" = some (.bool true) ∧
      answer.member? "cluster" = some row ∧
      row.member? "name" = some (.str "prod") ∧
      row.member? "namespace" = some (.str "org-acme")) ∧
    ∃ answer first second : Json, call "PRO" = ⟨false, answer.pretty⟩ ∧
      answer.member? "resolved" = some (.bool false) ∧
      answer.member? "matches" = some (.arr [first, second]) ∧
      first.member? "namespace" = some (.str "org-acme") ∧
      second.member? "namespace" = some (.str "org-zeta") ∧
      answer.member? "message" = some (.str (ambiguous "PRO")) := by
  intro f r call
  let all := Federation.clustersOf f.clients.world.management
  let server : Server InMemoryFleet := { federation? := some f }
  have hserver : server.federation? = some f := rfl
  have hsender : r.identity? = some { email := "jane@example.com" } := rfl
  have hserves : f.Serves ⟨"jane@example.com", [], []⟩ := Federation.serves_sameNames _
  have hrecord (pattern : String) :
      (Json.obj [("pattern", .str pattern)]).IsRecord ["pattern"] := List.nodup_singleton "pattern"
  have hboth : ∃ c d, all = [c, d] ∧ c.name = "prod" ∧ c.ns = "org-acme" ∧ d.ns = "org-zeta" :=
    ⟨_, _, rfl, by decide +kernel⟩
  obtain ⟨c, d, hall, hname, hc, hd⟩ := hboth
  constructor
  · obtain ⟨answer, hanswer, -, hresolves, -⟩ :=
      resolve_shows hserves hserver hsender rfl rfl (hrecord "prod") rfl (by decide)
    have h := hresolves c (.exact [] [d] hall hname nofun)
    obtain ⟨row, hcluster, hrow⟩ := h.cluster
    exact ⟨answer, row, hanswer, h.resolved, hcluster, hname ▸ hrow.name, hc ▸ hrow.ns⟩
  · obtain ⟨answer, hanswer, -, -, hopen, -, hambiguous⟩ :=
      resolve_shows hserves hserver hsender rfl rfl (hrecord "PRO") rfl (by decide)
    have hcandidates : candidates all "PRO" = [c, d] := by
      rw [← hall]
      decide +kernel
    have hunnamed : ∀ d ∈ all, d.name ≠ "PRO" := by decide +kernel
    have hnone : ∀ c, ¬ Means all "PRO" c := by
      rintro c (⟨before, after, hfirst, hname, -⟩ | ⟨-, halone⟩)
      · exact hunnamed c (hfirst ▸ List.mem_append_cons_self) hname
      · cases hcandidates.symm.trans halone
    have h := hopen hnone
    have hlength : (candidates all "PRO").length = 2 := congrArg List.length hcandidates
    obtain ⟨rows, hmatches, hrows⟩ := h.candidates (hcandidates ▸ List.cons_ne_nil _ _)
    rw [hcandidates] at hrows
    cases hrows with
    | cons hfirst hrest =>
        cases hrest with
        | cons hsecond hnil =>
            cases hnil
            exact ⟨answer, _, _, hanswer, h.resolved, hmatches, hc ▸ hfirst.ns, hd ▸ hsecond.ns,
              hambiguous.mpr ⟨hnone, hlength.ge⟩⟩

end

end ClusterTool

end FleetGate
