import DiscoveryGraph.Proofs.Discovery.Operation

/-! What clearing a domain takes out of a graph that operations built, said by queries of that graph: the
domain goes with what it owns, and an entity that domains share goes exactly if nothing below it stays. -/
namespace DiscoveryGraph.Graph
open Update
variable {g h : Graph} {d x : EntityId} {k : EntityKind}

/-- A query for a kind finds the entity from an origin. -/
def Queried (g : Graph) (origin : EntityId) (kind : EntityKind) (x : EntityId) : Prop :=
  ∃ found, g.related kind origin = .ok found ∧ x ∈ found

/-- The kinds of which a domain owns what it finds. -/
def ownedKinds : List EntityKind := [.participant, .topic, .dataWriter, .dataReader]

/-- The kinds that domains share, each with the kinds of what holds an entity of it in place. -/
def sharedKinds : List (EntityKind × List EntityKind) :=
  [(.locator, [.dataWriter, .dataReader]), (.process, [.participant]), (.user, [.process]), (.host, [.user])]

/-- Clearing a domain returns what it owned and then what that left without a child, and leaves the rest
of the graph as it was. -/
structure Clearance (g : Graph) (d : EntityId) (owned orphans : List Entity) (h : Graph) : Prop where
  /-- The domain and what it finds of the kinds that it owns. -/
  mem_owned : ∀ x, x ∈ owned.map (·.id) ↔ x = d ∨ ∃ k ∈ ownedKinds, g.Queried d k x
  /-- What it finds of a shared kind and whose children are all removed. -/
  mem_orphans : ∀ x, x ∈ orphans.map (·.id) ↔ ∃ shared ∈ sharedKinds, g.Queried d shared.1 x ∧
    ∀ k ∈ shared.2, ∀ y ∈ g.neighbors x k, y ∈ (owned ++ orphans).map (·.id)
  ascending : owned.Pairwise (·.id.value < ·.id.value) ∧ orphans.Pairwise (·.id.value < ·.id.value)
  once : ((owned ++ orphans).map (·.id)).Nodup
  asFound : ∀ entity ∈ owned ++ orphans, g.entity? entity.id = some entity
  gone : ∀ x ∈ (owned ++ orphans).map (·.id), h.entity? x = none
  kept : ∀ x ∉ (owned ++ orphans).map (·.id), h.entity? x = g.entity? x
  edges : ∀ x k y, y ∈ h.neighbors x k ↔ x ∉ (owned ++ orphans).map (·.id) ∧
    y ∉ (owned ++ orphans).map (·.id) ∧ y ∈ g.neighbors x k

theorem queried_iff (wf : g.WellFormed) (known : g.kind? d = some .domain) (valid : k ≠ .invalid) :
    g.Queried d k x ↔ g.Finds .domain k d x := by
  obtain ⟨found, eq, iff⟩ := related_eq_ok wf known valid
  simp only [Queried, eq, Except.ok.injEq, exists_eq_left', iff]

theorem exists_queried_iff (wf : g.WellFormed) (known : g.kind? d = some .domain) :
    (∃ k ∈ ownedKinds, g.Queried d k x) ↔ ∃ k ∈ ownedKinds, g.Finds .domain k d x := by
  refine exists_congr fun k => and_congr_right fun mem => queried_iff wf known ?_
  rintro rfl
  exact absurd mem (by decide)

theorem mem_sharedKinds : (∃ shared ∈ sharedKinds, shared = (k, k.derivedFrom)) ↔
    k ∈ [EntityKind.locator, .process, .user, .host] := by
  cases k <;> decide

theorem eq_derivedFrom : ∀ shared ∈ sharedKinds, shared.2 = shared.1.derivedFrom := by decide

theorem exists_shared_iff {s : EntityId → Prop} (wf : g.WellFormed) (known : g.kind? d = some .domain) :
    (∃ shared ∈ sharedKinds, g.Queried d shared.1 x ∧ ∀ k ∈ shared.2, ∀ y ∈ g.neighbors x k, s y) ↔
      ∃ k ∈ [EntityKind.locator, .process, .user, .host],
        g.Finds .domain k d x ∧ ∀ y ∈ g.children x k, s y := by
  have below : ∀ k, (∀ y ∈ g.children x k, s y) ↔ ∀ k' ∈ k.derivedFrom, ∀ y ∈ g.neighbors x k', s y := by
    intro k
    simp only [mem_children]
    exact ⟨fun all k' derived y near => all y ⟨k', derived, near⟩,
      fun all y ⟨k', derived, near⟩ => all k' derived y near⟩
  have valid : ∀ k ∈ [EntityKind.locator, .process, .user, .host], k ≠ .invalid := by decide
  constructor
  · intro held
    obtain ⟨shared, mem, queried, all⟩ := held
    rw [eq_derivedFrom shared mem] at all
    have among := mem_sharedKinds.mp ⟨shared, mem, Prod.ext rfl (eq_derivedFrom shared mem)⟩
    exact ⟨shared.1, among, (queried_iff wf known (valid _ among)).mp queried, (below _).mpr all⟩
  · intro fact
    obtain ⟨k, among, finds, all⟩ := fact
    obtain ⟨_, mem, rfl⟩ := mem_sharedKinds.mpr among
    exact ⟨_, mem, (queried_iff wf known (valid k among)).mpr finds, (below k).mp all⟩

/-- What is removed besides what the domain owns is what the domain shares and leaves without a child. -/
theorem Cleared.mem_orphans {owned orphans : IdSet} (cleared : g.Cleared d (owned ∪ orphans)) (wf : g.WellFormed)
    (known : g.kind? d = some .domain)
    (split : ∀ x, x ∈ owned ↔ x = d ∨ ∃ k ∈ ownedKinds, g.Finds .domain k d x)
    (apart : ∀ x ∈ orphans, x ∉ owned) :
    x ∈ orphans ↔ ∃ k ∈ [EntityKind.locator, .process, .user, .host],
      g.Finds .domain k d x ∧ ∀ y ∈ g.children x k, y ∈ owned ∪ orphans := by
  constructor
  · intro mem
    obtain same | finds | orphan := cleared.only x (Std.ExtTreeSet.mem_union_iff.mpr (.inr mem))
    · exact absurd ((split x).mpr (.inl same)) (apart x mem)
    · exact absurd ((split x).mpr (.inr finds)) (apart x mem)
    · exact orphan
  · intro fact
    obtain ⟨k, among, finds, all⟩ := fact
    refine (Std.ExtTreeSet.mem_union_iff.mp (cleared.orphans k among x finds all)).resolve_left fun mem => ?_
    exact owned_apart wf known ⟨k, among, finds.kind? wf known⟩ ((split x).mp mem)

theorem clearance_of_returns {removed : List Entity} {owned orphans : IdSet} (wf : g.WellFormed)
    (known : g.kind? d = some .domain)
    (split : ∀ x, x ∈ owned ↔ x = d ∨ ∃ k ∈ ownedKinds, g.Finds .domain k d x)
    (apart : ∀ x ∈ orphans, x ∉ owned) (cleared : g.Cleared d (owned ∪ orphans))
    (listed : removed.map (·.id) = owned.toList ++ orphans.toList)
    (read : ∀ entity ∈ removed, g.entity? entity.id = some entity) (without : g.Without (· ∈ owned ∪ orphans) h) :
    ∃ first second, removed = first ++ second ∧ g.Clearance d first second h := by
  have mem_removed : ∀ x, x ∈ removed.map (·.id) ↔ x ∈ owned ∪ orphans := fun x => by rw [listed, mem_parts]
  have once : (removed.map (·.id)).Nodup := listed ▸ nodup_parts apart
  obtain ⟨first, second, rfl, owns, rest⟩ := List.map_eq_append_iff.mp listed
  refine ⟨first, second, rfl, ?_, ?_, ⟨?_, ?_⟩, once, read, ?_, ?_, ?_⟩
  · intro x
    rw [owns, Std.ExtTreeSet.mem_toList, split, exists_queried_iff wf known]
  · intro x
    simp only [mem_removed]
    rw [rest, Std.ExtTreeSet.mem_toList, cleared.mem_orphans wf known split apart, exists_shared_iff wf known]
  · have order := ascending_toList owned
    rwa [← owns, List.pairwise_map] at order
  · have order := ascending_toList orphans
    rwa [← rest, List.pairwise_map] at order
  · exact fun x mem => without.gone x ((mem_removed x).mp mem)
  · exact fun x spared => without.kept x fun mem => spared ((mem_removed x).mpr mem)
  · intro x k y
    simp only [without.edges, mem_removed]

theorem clearDomain_of_error {e : StorageError} (refused : g.expectDomain d = .error e) :
    clearDomain d g = .error (.storage e) g := by
  simp only [clearDomain, Bind.bind, EStateM.bind, liftM, monadLift, MonadLift.monadLift,
    EStateM.adaptExcept, Update.read, refused]

theorem expectDomain_unknown (unknown : g.kind? d = none) : g.expectDomain d = .error (.entityNotFound d) := by
  rw [expectDomain, lookup_eq_error.mpr ⟨kind?_eq_none.mp unknown, rfl⟩]
  rfl

theorem expectDomain_other (known : g.kind? d = some k) (other : k ≠ .domain) :
    g.expectDomain d = .error (.inconsistent (.notADomain d k)) := by
  obtain ⟨entity, found, rfl⟩ := kind?_eq_some.mp known
  simp only [expectDomain, lookup_eq_ok.mpr found, Bind.bind, Except.bind, if_neg other]
  rfl

/-- Clearing fails exactly if there is no such entity or it is no domain, and then changes nothing. It
removes the domain otherwise, with what the domain owns and what that leaves without a child. -/
theorem Built.clearDomain_exact (built : g.Built) (d : EntityId) :
    (g.kind? d = none → clearDomain d g = .error (.storage (.entityNotFound d)) g) ∧
    (∀ k ≠ .domain, g.kind? d = some k →
      clearDomain d g = .error (.storage (.inconsistent (.notADomain d k))) g) ∧
    (g.kind? d = some .domain →
      ∃ owned orphans h, clearDomain d g = .ok (owned ++ orphans) h ∧ g.Clearance d owned orphans h) := by
  have wf := built.wellFormed
  refine ⟨fun unknown => ?_, fun k other known => ?_, fun known => ?_⟩
  · exact clearDomain_of_error (expectDomain_unknown unknown)
  · exact clearDomain_of_error (expectDomain_other known other)
  · have ends := clearDomain_returns wf known
    cases run : clearDomain d g with
    | error e h => exact (ends.of_error run).elim
    | ok removed h =>
      obtain ⟨owned, orphans, split, apart, cleared, ⟨listed, read⟩, -, without⟩ := ends.of_ok run
      obtain ⟨first, second, rfl, clearance⟩ := clearance_of_returns wf known split apart cleared listed read without
      exact ⟨first, second, h, rfl, clearance⟩

/-- Two readers of different domains share a locator and run in processes of one user. Clearing the first
domain takes the process and the locator along that are its own, and leaves the others in place. -/
theorem Built.clearDomain_exact_shared :
    let reader (domain : EntityId) (byte : UInt8) (process : String) (locators : List String) : Operation :=
      .ingest ⟨domain, .discovered, .reader ⟨⟨.replicate 16 byte⟩, "reader",
        ⟨⟨.replicate 16 (byte + 1)⟩, "node", "host", "user", process, none⟩, ⟨"square", "ShapeType"⟩, locators⟩⟩
    let g := [.create .domain "0" (.domain 0), .create .domain "1" (.domain 1),
      reader ⟨1⟩ 1 "first" ["udp:1", "udp:2"], reader ⟨2⟩ 3 "second" ["udp:1"]].foldl Operation.act ∅
    g.Built ∧ g.kind? ⟨1⟩ = some .domain ∧
      ∃ owned orphans h, clearDomain ⟨1⟩ g = .ok (owned ++ orphans) h ∧ g.Clearance ⟨1⟩ owned orphans h ∧
        (owned ++ orphans).map (·.id) = [⟨1⟩, ⟨6⟩, ⟨7⟩, ⟨8⟩, ⟨5⟩, ⟨10⟩] := by
  intro reader g
  have built : g.Built := Built.empty.foldl _
  have domain : g.kind? ⟨1⟩ = some .domain := by decide +kernel
  have removed : (match clearDomain ⟨1⟩ g with
      | .ok removed _ => removed.map (·.id)
      | .error .. => []) = [⟨1⟩, ⟨6⟩, ⟨7⟩, ⟨8⟩, ⟨5⟩, ⟨10⟩] := by decide +kernel
  clear_value g
  obtain ⟨owned, orphans, h, run, clearance⟩ := (Built.clearDomain_exact built ⟨1⟩).2.2 domain
  rw [run] at removed
  exact ⟨built, domain, owned, orphans, h, run, clearance, removed⟩

end DiscoveryGraph.Graph
