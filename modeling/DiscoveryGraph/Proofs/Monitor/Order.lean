import DiscoveryGraph.Proofs.Discovery.Consistency
import DiscoveryGraph.Proofs.Monitor.Accounting
import DiscoveryGraph.Proofs.Monitor.Demand
import DiscoveryGraph.Proofs.Monitor.Identity

/-! Order. On a graph that holds nothing but active domains, notifications of what has been discovered
that agree with each other may come in any order: all of them are accepted, everything ends up active
and is counted once, and the graphs that are built differ in nothing but identifiers and the numbers
of processes. -/
namespace DiscoveryGraph

namespace Graph
variable {g h : Graph} {x : EntityId} {rename : EntityId → EntityId}

/-- The identifiers of the live participants, topics and endpoints. -/
def liveIds (g : Graph) : List EntityId :=
  (g.entities.filter fun _ entity => entity.active && entity.kind.isDiscoverable).keys

theorem mem_liveIds : x ∈ g.liveIds ↔ g.counted x = true := by
  rw [liveIds, Std.ExtTreeMap.mem_keys, ← Std.ExtTreeMap.contains_iff_mem, contains_filter_eq_counted]

theorem nodup_liveIds : g.liveIds.Nodup := Std.ExtTreeMap.nodup_keys

theorem length_liveIds : g.liveIds.length = g.liveCount := Std.ExtTreeMap.length_keys

theorem contains_of_mem_liveIds (mem : x ∈ g.liveIds) : g.contains x := by
  rw [mem_liveIds] at mem
  cases known : g.kind? x with
  | some kind => exact contains_iff.mpr ⟨kind, known⟩
  | none =>
    rw [counted_of_unknown known] at mem
    cases mem

theorem Renames.mem_liveIds (renames : Renames rename g h) (here : g.contains x) :
    rename x ∈ h.liveIds ↔ x ∈ g.liveIds := by
  obtain ⟨kind, known⟩ := contains_iff.mp here
  obtain ⟨entity, found, -⟩ := kind?_eq_some.mp known
  obtain ⟨copy, found', resembles⟩ := renames.entity x entity found
  simp only [Graph.mem_liveIds, counted, found, found', Option.any_some, resembles.active, resembles.kind]

/-- As much is alive in a copy of a graph. -/
theorem Renames.liveCount_eq (renames : Renames rename g h) : h.liveCount = g.liveCount := by
  have apart : (g.liveIds.map rename).Nodup := by
    refine nodup_liveIds.map_on fun x memx y memy same => ?_
    exact renames.injective x y (contains_of_mem_liveIds memx) (contains_of_mem_liveIds memy) same
  have copied : ∀ y, y ∈ h.liveIds ↔ y ∈ g.liveIds.map rename := by
    intro y
    rw [List.mem_map]
    constructor
    · intro mem
      obtain ⟨x, here, rfl⟩ := renames.surjective y (contains_of_mem_liveIds mem)
      exact ⟨x, (renames.mem_liveIds here).mp mem, rfl⟩
    · intro copy
      obtain ⟨x, mem, rfl⟩ := copy
      exact (renames.mem_liveIds (contains_of_mem_liveIds mem)).mpr mem
  have perm : h.liveIds.Perm (g.liveIds.map rename) := (List.perm_ext_iff_of_nodup nodup_liveIds apart).mpr copied
  rw [← length_liveIds, perm.length_eq, List.length_map, length_liveIds]

end Graph

namespace Service
open DiscoveryGraph.Graph Update
variable {service : Service} {base : Graph} {n : Notification} {told ns order : List Notification}

/-- The service accepts every one of some notifications in turn. -/
def accepts (service : Service) : List Notification → Bool
  | [] => true
  | n :: ns =>
    match Service.apply n service with
    | .ok _ service' => service'.accepts ns
    | .error _ _ => false

/-- How far the count is from the number of what is alive. -/
def surplus (service : Service) : Int := service.counter.value - service.graph.liveCount

/-- A notification that agrees with those before is accepted, and counted for what it changes. -/
theorem apply_of_depicts (sound : service.Sound) (depicts : Depicts base told service.graph)
    (consistent : Consistent (told ++ [n])) (domain : service.graph.kind? n.domain = some .domain)
    (discovered : n.status = .discovered) (room : (Request.apply n).exhausts service = false) :
    ∃ events service', Service.apply n service = .ok events service' ∧ (Request.apply n).act service = service' ∧
      service'.Sound ∧ Depicts base (told ++ [n]) service'.graph ∧ service'.surplus = service.surplus := by
  have ends := depicts.ingest consistent domain discovered
  cases run : Graph.ingest n service.graph with
  | error e g =>
    obtain ⟨cause, rfl, ⟨rfl, -⟩, -⟩ := ends.of_error run
    rw [Request.exhausts, apply_eq, run] at room
    cases room
  | ok changes g =>
    obtain ⟨depicts', discovers⟩ := (ends_iff.mp ends).1 changes g run
    have accepted : ∃ events service', Service.apply n service = .ok events service' ∧ service'.graph = g ∧
        service'.counter.value = service.counter.value + Event.total (Event.ofChanges n.domain changes) := by
      rw [apply_eq, run]
      simp only [sound.unlocked, Bool.false_eq_true, if_false]
      exact ⟨_, _, rfl, rfl, rfl⟩
    obtain ⟨events, service', accepted, rfl, counted⟩ := accepted
    have next : (Request.apply n).act service = service' := by rw [Request.act, Call.after, accepted]
    refine ⟨events, service', accepted, next, next ▸ (steps_act sound).sound sound, depicts', ?_⟩
    rw [surplus, surplus, counted, Event.total_ofChanges, discovers.liveCount_eq sound.regular.wellFormed]
    omega

/-- All that agree with those before and with one another are accepted, as long as the identifiers last. -/
theorem run_of_depicts (sound : service.Sound) (depicts : Depicts base told service.graph)
    (consistent : Consistent (told ++ ns)) (addressed : ∀ n ∈ ns, base.kind? n.domain = some .domain)
    (discovered : ∀ n ∈ ns, n.status = .discovered) (lasting : service.lasts (ns.map .apply)) :
    service.accepts ns ∧ (service.run (ns.map .apply)).Sound ∧
      Depicts base (told ++ ns) (service.run (ns.map .apply)).graph ∧
      (service.run (ns.map .apply)).surplus = service.surplus := by
  induction ns generalizing service told with
  | nil =>
    rw [List.append_nil]
    exact ⟨rfl, sound, depicts, rfl⟩
  | cons n ns ih =>
    simp only [List.mem_cons, forall_eq_or_imp] at addressed discovered
    simp only [List.map_cons, lasts, Bool.and_eq_true, Bool.not_eq_true'] at lasting
    rw [← List.singleton_append, ← List.append_assoc] at consistent ⊢
    obtain ⟨events, service', accepted, next, sound', depicts', level⟩ := apply_of_depicts sound depicts
      (consistent.mono (List.subset_append_left _ _)) (depicts.domains _ addressed.1) discovered.1 lasting.1
    have rest := ih sound' depicts' consistent addressed.2 discovered.2 (next ▸ lasting.2)
    rw [List.singleton_append, accepts, accepted, List.map_cons, run, List.foldl_cons, next, ← level]
    exact rest

/-- Where the identifiers have lasted until all was told in one order, they last in any other. -/
theorem lasts_of_depicts {all : List Notification} {full : Graph} (sound : service.Sound)
    (depicts : Depicts base told service.graph) (consistent : Consistent all)
    (addressed : ∀ n ∈ ns, base.kind? n.domain = some .domain) (discovered : ∀ n ∈ ns, n.status = .discovered)
    (complete : Depicts base all full) (sub : told ++ ns ⊆ all) : service.lasts (ns.map .apply) := by
  induction ns generalizing service told with
  | nil => rfl
  | cons n ns ih =>
    simp only [List.mem_cons, forall_eq_or_imp] at addressed discovered
    rw [← List.singleton_append, ← List.append_assoc] at sub
    have before : told ++ [n] ⊆ all := List.Subset.trans (List.subset_append_left _ _) sub
    have agrees := consistent.mono before
    have domain := depicts.domains _ addressed.1
    have room : (Request.apply n).exhausts service = false := by
      have ends := depicts.ingest agrees domain discovered.1
      rw [Request.exhausts, apply_eq]
      cases run : Graph.ingest n service.graph with
      | ok changes g =>
        simp only [sound.unlocked, Bool.false_eq_true, if_false]
      | error e g =>
        obtain ⟨cause, -, out, stalls⟩ := ends.of_error run
        exact absurd stalls (depicts.not_stalls complete before out)
    obtain ⟨-, service', -, next, sound', depicts', -⟩ :=
      apply_of_depicts sound depicts agrees domain discovered.1 room
    rw [List.map_cons, lasts, room, next]
    exact ih sound' depicts' addressed.2 discovered.2 sub

/-- Notifications of what has been discovered that agree with each other may come in any order. As long
as the identifiers last for one order, they last for every order; all notifications are accepted,
everything is active in the end, the discovery count is that of any other order, and so is the graph,
up to a renaming of identifiers that keeps kinds, names, flags, relations and attributes, except for the
numbers of processes. -/
theorem discovery_order_independent (reachable : service.Reachable)
    (fresh : ∀ x entity, service.graph.entity? x = some entity → entity.kind = .domain ∧ entity.active = true)
    (addressed : ∀ n ∈ ns, service.graph.kind? n.domain = some .domain)
    (discovered : ∀ n ∈ ns, n.status = .discovered) (consistent : Consistent ns)
    (lasting : service.lasts (ns.map .apply)) (perm : order.Perm ns) :
    service.accepts order ∧ (service.run (order.map .apply)).graph.Awake ∧
      (∃ count, (service.run (order.map .apply)).discoveryCount = .ok count ∧
        (service.run (ns.map .apply)).discoveryCount = .ok count) ∧
      ∃ rename, Renames rename (service.run (ns.map .apply)).graph (service.run (order.map .apply)).graph := by
  have sound := reachable.sound
  have bare : Depicts service.graph [] service.graph := by
    refine ⟨sound.regular.wellFormed, reachable.identified, fun x entity found => (fresh x entity found).2,
      fun x kind known => ?_, fun _ known => known, rfl, by simp⟩
    obtain ⟨entity, found, rfl⟩ := kind?_eq_some.mp known
    exact (fresh x entity found).1
  have addressed' : ∀ n ∈ order, service.graph.kind? n.domain = some .domain := fun n mem =>
    addressed n (perm.mem_iff.mp mem)
  have discovered' : ∀ n ∈ order, n.status = .discovered := fun n mem => discovered n (perm.mem_iff.mp mem)
  obtain ⟨-, final, depicts, level⟩ := run_of_depicts sound bare consistent addressed discovered lasting
  have lasting' : service.lasts (order.map .apply) :=
    lasts_of_depicts sound bare consistent addressed' discovered' depicts perm.subset
  obtain ⟨accepted, final', depicts', level'⟩ :=
    run_of_depicts sound bare (consistent.mono perm.subset) addressed' discovered' lasting'
  -- The same has been told in both orders, so the same is shown.
  obtain ⟨rename, renames⟩ := exists_renames depicts.identified depicts.wellFormed depicts'.identified
    depicts'.wellFormed depicts.awake depicts'.awake fun fact => by
      simp only [depicts.shows_iff, depicts'.shows_iff, List.nil_append, perm.mem_iff]
  have counts : (service.run (order.map .apply)).counter.value = (service.run (ns.map .apply)).counter.value := by
    unfold surplus at level level'
    rw [renames.liveCount_eq] at level'
    omega
  refine ⟨accepted, depicts'.awake, ⟨(service.run (ns.map .apply)).counter.value, ?_, ?_⟩, rename, renames⟩
  · rw [discoveryCount, Counter.lock, final'.unlocked, ← counts]
    rfl
  · rw [discoveryCount, Counter.lock, final.unlocked]
    rfl

/-- Two participants of one process, the second one seen with its writer, and the first mention gives
the process its number. -/
theorem discovery_order_independent_process :
    let node : Notification := ⟨⟨1⟩, .discovered, .participant
      ⟨⟨.replicate 16 1⟩, "node", "host", "user", "process", some "7"⟩⟩
    let writer : Notification := ⟨⟨1⟩, .discovered, .writer ⟨⟨.replicate 16 2⟩, "writer",
      ⟨⟨.replicate 16 3⟩, "node", "host", "user", "process", none⟩, ⟨"square", "ShapeType"⟩, ["udp"]⟩⟩
    let service : Service := Request.act { config := {} } (.start 0 none)
    let forth := service.run [.apply node, .apply writer]
    let back := service.run [.apply writer, .apply node]
    forth.graph.entity? ⟨4⟩ = some ⟨⟨4⟩, .process, "process", true, .process "7"⟩ ∧
      back.graph.entity? ⟨4⟩ = some ⟨⟨4⟩, .process, "process", true, .process ""⟩ ∧
      forth.graph.entity? ⟨5⟩ ≠ back.graph.entity? ⟨5⟩ ∧ ∃ rename, Renames rename forth.graph back.graph := by
  intro node writer service forth back
  have reachable : service.Reachable := .step _ (.new new_default)
  have fresh : ∀ x entity, service.graph.entity? x = some entity →
      entity.kind = .domain ∧ entity.active = true := by
    have domains : service.graph.entities.toList = [(⟨1⟩, ⟨⟨1⟩, .domain, "0", true, .domain 0⟩)] := by
      decide +kernel
    intro x entity found
    have mem := Std.ExtTreeMap.mem_toList_iff_getElem?_eq_some.mpr found
    rw [domains, List.mem_singleton] at mem
    cases mem
    exact ⟨rfl, rfl⟩
  have consistent : Consistent [node, writer] := by
    refine ⟨?legible, ?participants, ?endpoints⟩
    case legible =>
      simp only [List.forall_mem_cons, List.not_mem_nil, false_imp_iff, implies_true, and_true]
      exact ⟨⟨by decide, by decide, by decide⟩, ⟨by decide, by decide⟩, by decide, by decide, by decide⟩
    case participants =>
      simp [node, writer, Announcement.described?]
    case endpoints =>
      simp [node, writer, Announcement.endpoint?]
  have independent := discovery_order_independent reachable fresh (by decide +kernel) (by decide) consistent
    (lasts_of_demand reachable.sound (by decide +kernel)) (.swap node writer [])
  exact ⟨by decide +kernel, by decide +kernel, by decide +kernel, independent.2.2.2⟩

end Service
end DiscoveryGraph
