import Std.Data.ExtTreeMap
import DiscoveryGraph.Entity.Id

/-! Secondary indexes: a set of identifiers under each key, the empty set under a key that
was never filed. A key whose set ran empty is dropped, so two indexes with the same sets
are equal (`Index.ext_find`). -/
namespace DiscoveryGraph

/-- Sets of identifiers filed under keys. -/
structure Index (κ : Type) [Ord κ] [Std.TransOrd κ] where
  sets : Std.ExtTreeMap κ IdSet
  ne_empty : ∀ key : κ, sets[key]? ≠ some ∅

namespace Index
variable {κ : Type} [Ord κ] [Std.TransOrd κ]

instance : EmptyCollection (Index κ) := ⟨⟨∅, by simp⟩⟩

instance : Inhabited (Index κ) := ⟨∅⟩

theorem ext_sets {i j : Index κ} (same : i.sets = j.sets) : i = j := by
  cases i
  cases j
  subst same
  rfl

instance [Std.LawfulEqOrd κ] : DecidableEq (Index κ) := fun i j =>
  decidable_of_iff (i.sets = j.sets) ⟨ext_sets, congrArg sets⟩

/-- The identifiers filed under a key. -/
def find (index : Index κ) (key : κ) : IdSet := index.sets[key]?.getD ∅

/-- Nothing is kept in place of an empty set. -/
def keep (ids : IdSet) : Option IdSet := if ids.isEmpty then none else some ids

theorem keep_ne_empty (ids : IdSet) : keep ids ≠ some ∅ := by
  unfold keep
  split
  · simp
  · rename_i h
    intro e
    cases e
    simp at h

@[simp] theorem getD_keep (ids : IdSet) : (keep ids).getD ∅ = ids := by
  unfold keep
  split
  · rename_i h
    simpa using (Std.ExtTreeSet.isEmpty_iff.mp h).symm
  · rfl

/-- Replaces the set under one key by its image. -/
def modify (index : Index κ) (key : κ) (f : IdSet → IdSet) : Index κ where
  sets := index.sets.alter key fun ids? => keep (f (ids?.getD ∅))
  ne_empty other := by
    rw [Std.ExtTreeMap.getElem?_alter]
    split
    · exact keep_ne_empty _
    · exact index.ne_empty other

def insert (index : Index κ) (key : κ) (id : EntityId) : Index κ :=
  index.modify key fun ids => ids.insert id

def erase (index : Index κ) (key : κ) (id : EntityId) : Index κ :=
  index.modify key fun ids => ids.erase id

/-- Drops everything filed under one key. -/
def drop (index : Index κ) (key : κ) : Index κ :=
  index.modify key fun _ => ∅

@[simp] theorem find_empty (key : κ) : (∅ : Index κ).find key = ∅ := by
  show ((∅ : Std.ExtTreeMap κ IdSet)[key]?).getD ∅ = ∅
  simp

theorem find_modify [Std.LawfulEqOrd κ] [DecidableEq κ] (index : Index κ) (key other : κ) (f : IdSet → IdSet) :
    (index.modify key f).find other = if key = other then f (index.find key) else index.find other := by
  simp only [find, modify, Std.ExtTreeMap.getElem?_alter, Std.LawfulEqOrd.compare_eq_iff_eq]
  split <;> simp

theorem mem_find_insert [Std.LawfulEqOrd κ] [DecidableEq κ] (index : Index κ) (key other : κ) (id x : EntityId) :
    x ∈ (index.insert key id).find other ↔ (key = other ∧ x = id) ∨ x ∈ index.find other := by
  rw [insert, find_modify]
  split
  · rename_i h
    subst h
    simp [Std.ExtTreeSet.mem_insert, @eq_comm _ x id]
  · simp [*]

theorem mem_find_erase [Std.LawfulEqOrd κ] [DecidableEq κ] (index : Index κ) (key other : κ) (id x : EntityId) :
    x ∈ (index.erase key id).find other ↔ ¬(key = other ∧ x = id) ∧ x ∈ index.find other := by
  rw [erase, find_modify]
  split
  · rename_i h
    subst h
    simp [Std.ExtTreeSet.mem_erase, @eq_comm _ x id]
  · simp [*]

theorem mem_find_drop [Std.LawfulEqOrd κ] [DecidableEq κ] (index : Index κ) (key other : κ) (x : EntityId) :
    x ∈ (index.drop key).find other ↔ key ≠ other ∧ x ∈ index.find other := by
  rw [drop, find_modify]
  split <;> simp [*]

/-- An index is determined by what each key finds. -/
theorem ext_find [Std.LawfulEqOrd κ] {i j : Index κ} (h : ∀ key, i.find key = j.find key) :
    i = j := by
  have same : i.sets = j.sets := by
    apply Std.ExtTreeMap.ext_getElem?
    intro key
    have hk := h key
    have hi := i.ne_empty key
    have hj := j.ne_empty key
    simp only [find] at hk
    cases ei : i.sets[key]? <;> cases ej : j.sets[key]? <;> simp_all
  exact ext_sets same

/-- An index under whose keys nothing is filed is empty. -/
theorem eq_empty [Std.LawfulEqOrd κ] {index : Index κ} (none : ∀ key x, x ∉ index.find key) : index = ∅ :=
  ext_find fun key => Std.ExtTreeSet.ext_mem fun x => by simp [none key x]

/-- Filing anew what is filed already changes nothing. -/
theorem insert_of_mem [Std.LawfulEqOrd κ] [DecidableEq κ] {index : Index κ} {key : κ} {id : EntityId}
    (mem : id ∈ index.find key) : index.insert key id = index := by
  refine ext_find fun other => Std.ExtTreeSet.ext_mem fun x => ?_
  rw [mem_find_insert]
  constructor
  · intro filed
    obtain ⟨rfl, rfl⟩ | filed := filed
    · exact mem
    · exact filed
  · exact .inr

/-- It makes no difference which of two identifiers is taken off first. -/
theorem erase_comm [Std.LawfulEqOrd κ] [DecidableEq κ] (index : Index κ) (key other : κ) (id x : EntityId) :
    (index.erase key id).erase other x = (index.erase other x).erase key id := by
  refine ext_find fun k => Std.ExtTreeSet.ext_mem fun y => ?_
  simp only [mem_find_erase]
  exact and_left_comm

end Index
end DiscoveryGraph
