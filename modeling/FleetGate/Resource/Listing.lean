import FleetGate.Resource.Object

/-!
# Listing in pages

What a list call asks for and what a page of its answer holds. The continue token of a page is
opaque and is passed back as received; a page without one, or with an empty one, is the last.
-/

namespace FleetGate

/-- What a list call asks for. -/
structure ListOptions where
  labelSelector? : Option String := none
  fieldSelector? : Option String := none
  allNamespaces : Bool := false
  limit? : Option Int := none
  continue? : Option String := none
  deriving DecidableEq, Repr, Inhabited

namespace ListOptions

/-- The page size when none is asked for. -/
def defaultLimit : Nat := 100

/-- The largest page size that is sent to a cluster. -/
def maxLimit : Nat := 500

/-- The page size that is sent: the wish as far as the cap allows, the default for a missing one
or one that is not positive. -/
def effectiveLimit (o : ListOptions) : Nat :=
  match o.limit? with
  | some n => if 0 < n then min n.toNat maxLimit else defaultLimit
  | none => defaultLimit

/-- A text that is sent: an empty one is left out. -/
def sent (text : Option String) : Option String :=
  text.filter fun s => !s.isEmpty

end ListOptions

/-- A page of a listing. -/
structure Page where
  items : List Object := []
  continue? : Option String := none
  resourceVersion? : Option String := none
  remaining? : Option Int := none
  deriving DecidableEq, Inhabited

namespace Page

/-- Whether another page follows. -/
def hasMore (p : Page) : Bool :=
  p.continue?.any fun t => !t.isEmpty

/-- The number of items on this page and after it, if the server said how many are left or
nothing follows. -/
def total? (p : Page) : Option Nat :=
  match p.remaining? with
  | some r => if 0 ≤ r then some (p.items.length + r.toNat) else fromToken
  | none => fromToken
where
  /-- Without a count only the last page tells. -/
  fromToken := if p.hasMore then none else some p.items.length

end Page

end FleetGate
