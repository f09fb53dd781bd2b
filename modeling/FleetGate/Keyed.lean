/-!
# Ordered maps

A finite map as a list of pairs. Writers keep it in ascending order of the keys with each key once,
so equal maps are equal lists; readers take the first pair of a key and do not rely on the order.
Texts compare by code point, which is also the order of their UTF-8 bytes.
-/

namespace FleetGate

namespace Keyed

variable {κ : Type u} {α : Type v} {β : Type w} [DecidableEq κ]

/-- The value of the first pair with the key. -/
def get? (key : κ) : List (κ × α) → Option α
  | [] => none
  | (k, v) :: rest => if k = key then some v else get? key rest

/-- Whether some pair has the key. -/
def has (key : κ) (m : List (κ × α)) : Bool :=
  (get? key m).isSome

/-- Sets the value of a key, in place if the key is there, else before the first greater key. -/
def put [LT κ] [DecidableLT κ] (key : κ) (value : α) : List (κ × α) → List (κ × α)
  | [] => [(key, value)]
  | (k, v) :: rest =>
    if k = key then (key, value) :: rest
    else if key < k then (key, value) :: (k, v) :: rest
    else (k, v) :: put key value rest

/-- The map without a key. -/
def erase (key : κ) (m : List (κ × α)) : List (κ × α) :=
  m.filter fun p => p.1 ≠ key

/-- Changes the value of a key, if the key is there. -/
def modify (key : κ) (f : α → α) (m : List (κ × α)) : List (κ × α) :=
  m.map fun p => if p.1 = key then (p.1, f p.2) else p

/-- Counts one more for a key. -/
def count [LT κ] [DecidableLT κ] (key : κ) (m : List (κ × Nat)) : List (κ × Nat) :=
  put key ((get? key m).getD 0 + 1) m

/-- The map of a list of pairs, the last pair of a key winning. -/
def ofPairs [LT κ] [DecidableLT κ] (pairs : List (κ × α)) : List (κ × α) :=
  pairs.foldl (fun m p => put p.1 p.2 m) []

/-- The keys in order. -/
def keys (m : List (κ × α)) : List κ :=
  m.map (·.1)

/-- Applies a function to every value. -/
def mapValues (f : α → β) (m : List (κ × α)) : List (κ × β) :=
  m.map fun p => (p.1, f p.2)

/-- Each key once, in ascending order. -/
def Ordered [LT κ] (m : List (κ × α)) : Prop :=
  m.Pairwise fun p q => p.1 < q.1

end Keyed

end FleetGate
