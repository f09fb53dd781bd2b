import FleetGate.Cluster.InMemory
import FleetGate.Proofs.Keyed

/-! # What a listing hands out

A page of a listing holds objects that are kept under the resource that is listed, and nothing else.
Each is handed out as it is kept, but for a statement of its type where it has none.
-/

namespace FleetGate.InMemoryCluster

variable {c : InMemoryCluster} {resource : ResourceType} {ns? : Option String}
  {options : ListOptions} {all : List Object} {page : Page} {o : Object}

/-- Counting a call leaves the objects alone. -/
theorem record_objects (c : InMemoryCluster) (method : String) :
    (c.record method).2.objects = c.objects := by
  rw [record]
  split <;> rfl

/-- An object is found under the key under which it was put, and the others where they were. -/
theorem find?_store_eq (c : InMemoryCluster) (key other : ObjectKey) (o : Object) :
    (c.store key o).find? other = if other = key then some o else c.find? other :=
  Keyed.get?_put key other o c.objects

/-- A listing is about objects of its resource. -/
theorem of_mem_selected (h : o ∈ c.selected resource ns? options) :
    ∃ key, (key, o) ∈ c.objects ∧ key.resource = resource.qualifiedName := by
  simp only [selected, List.mem_filter, List.mem_map, Bool.and_eq_true, decide_eq_true_eq] at h
  obtain ⟨⟨⟨key, stored⟩, ⟨hstored, hresource, -⟩, rfl⟩, -⟩ := h
  exact ⟨key, hstored, hresource⟩

/-- A page holds what the listing is about, with its type stated. -/
theorem of_mem_pageOf (h : o ∈ (pageOf resource options all).items) :
    ∃ stored ∈ all, o = resource.stamp stored := by
  obtain ⟨stored, hstored, rfl⟩ := List.mem_map.mp h
  exact ⟨stored, List.mem_of_mem_take (List.mem_of_mem_drop hstored), rfl⟩

/-- A call that succeeds is answered with the objects there were. -/
theorem exists_answer_eq {α : Type} {call : ClusterCall α} {a : α}
    (h : (perform call c).1 = .ok a) :
    ∃ c' : InMemoryCluster, c'.objects = c.objects ∧ perform call c = answer call c' := by
  have hobjects := record_objects c call.method
  rw [perform] at h ⊢
  generalize c.record call.method = recorded at h hobjects
  obtain ⟨_ | e, c'⟩ := recorded
  · exact ⟨c', hobjects, rfl⟩
  · cases h

/-- A listing that succeeds hands out a page of the objects that it is about. -/
theorem perform_list (h : (perform (.list resource ns? options) c).1 = .ok page) :
    ∃ c' : InMemoryCluster, c'.objects = c.objects ∧
      page = pageOf resource options (c'.selected resource ns? options) := by
  obtain ⟨c', hobjects, hanswer⟩ := exists_answer_eq h
  rw [hanswer] at h
  simp only [answer] at h
  split at h
  · cases h
  · exact ⟨c', hobjects, (Except.ok.inj h).symm⟩

/-- Whatever is asked for, an item of a page is an object kept under the resource, with its type
stated. -/
theorem of_listed (h : (perform (.list resource ns? options) c).1 = .ok page)
    (ho : o ∈ page.items) :
    ∃ key stored, (key, stored) ∈ c.objects ∧ key.resource = resource.qualifiedName ∧
      o = resource.stamp stored := by
  obtain ⟨c', hobjects, rfl⟩ := perform_list h
  obtain ⟨stored, hselected, rfl⟩ := of_mem_pageOf ho
  obtain ⟨key, hmem, hresource⟩ := of_mem_selected hselected
  exact ⟨key, stored, hobjects ▸ hmem, hresource, rfl⟩

end FleetGate.InMemoryCluster
