import DiscoveryGraph.Monitor.Inspection
import DiscoveryGraph.Proofs.Monitor.Request

/-! The discovery count keeps account of what is alive. Every action on a graph changes the number
of live participants, topics and endpoints by what its changes of state add up to, and whatever a
request changes is counted. -/
namespace DiscoveryGraph

/-- What changes add to a count of live participants, topics and endpoints. -/
def StateChange.tally : List StateChange → Int
  | [] => 0
  | change :: changes => (if change.kind.isDiscoverable then change.delta else 0) + tally changes

theorem StateChange.tally_append (changes changes' : List StateChange) :
    tally (changes ++ changes') = tally changes + tally changes' := by
  induction changes with
  | nil => simp [tally]
  | cons change changes ih => rw [List.cons_append, tally, tally, ih, Int.add_assoc]

theorem StateChange.tally_single (id : EntityId) (kind : EntityKind) (active : Bool) :
    tally [⟨id, kind, active⟩] =
      (active && kind.isDiscoverable).toInt - (!active && kind.isDiscoverable).toInt := by
  cases active <;> cases discoverable : kind.isDiscoverable <;> simp [tally, delta, discoverable]

theorem Event.total_ofChanges (domain : EntityId) (changes : List StateChange) :
    total (ofChanges domain changes) = StateChange.tally changes := by
  induction changes with
  | nil => rfl
  | cons change changes ih =>
    rw [StateChange.tally, ← ih, ofChanges, ofChanges, List.filter_cons]
    split
    · rw [List.map_cons, total, toInt_delta_ofChange]
    · rw [Int.zero_add]

namespace Graph
variable {g g' : Graph} {x : EntityId}

/-- The number of live participants, topics and endpoints, over all domains together. -/
def liveCount (g : Graph) : Nat :=
  (g.entities.filter fun _ entity => entity.active && entity.kind.isDiscoverable).size

/-- The entity is one of those that are counted. -/
def counted (g : Graph) (x : EntityId) : Bool :=
  (g.entity? x).any fun entity => entity.active && entity.kind.isDiscoverable

theorem counted_eq {k : EntityKind} (known : g.kind? x = some k) :
    g.counted x = (g.alive x && k.isDiscoverable) := by
  obtain ⟨entity, found, rfl⟩ := kind?_eq_some.mp known
  simp [counted, alive, found]

theorem counted_of_unknown (unknown : g.kind? x = none) : g.counted x = false := by
  simp [counted, kind?_eq_none.mp unknown]

theorem size_eq_size_erase (m : Std.ExtTreeMap EntityId Entity) (x : EntityId) :
    (m.size : Int) = (m.erase x).size + (m.contains x).toInt := by
  rw [Std.ExtTreeMap.size_erase]
  cases here : m.contains x with
  | false => simp
  | true =>
    have positive : m.size ≠ 0 := by
      rw [ne_eq, ← Std.ExtTreeMap.eq_empty_iff_size_eq_zero]
      intro same
      subst same
      simp at here
    simp only [if_true, Bool.toInt_true]
    omega

theorem contains_filter_eq_counted :
    (g.entities.filter fun _ entity => entity.active && entity.kind.isDiscoverable).contains x =
      g.counted x := by
  rw [Std.ExtTreeMap.contains_eq_isSome_getElem?, Std.ExtTreeMap.getElem?_filter', counted, entity?]
  cases g.entities[x]? with
  | none => rfl
  | some entity =>
    rw [Option.any_some, Option.filter_some]
    split <;> simp_all

/-- A change of one entity changes the number by that entity. -/
theorem liveCount_of_agree (g g' : Graph) (x : EntityId) (agree : ∀ y, y ≠ x → g'.entity? y = g.entity? y) :
    (g'.liveCount : Int) + (g.counted x).toInt = g.liveCount + (g'.counted x).toInt := by
  have same : (g'.entities.filter fun _ entity => entity.active && entity.kind.isDiscoverable).erase x =
      (g.entities.filter fun _ entity => entity.active && entity.kind.isDiscoverable).erase x := by
    apply Std.ExtTreeMap.ext_getElem?
    intro y
    simp only [Std.ExtTreeMap.getElem?_erase, Std.ExtTreeMap.getElem?_filter']
    split
    · rfl
    · rename_i other
      have entity := agree y fun same => other (by simp [same])
      rw [entity?, entity?] at entity
      rw [entity]
  have before := size_eq_size_erase
    (g.entities.filter fun _ entity => entity.active && entity.kind.isDiscoverable) x
  have behind := size_eq_size_erase
    (g'.entities.filter fun _ entity => entity.active && entity.kind.isDiscoverable) x
  rw [contains_filter_eq_counted] at before behind
  rw [same] at behind
  rw [liveCount, liveCount]
  omega

end Graph

/-- How an action shows in its changes of state: there is one entity besides which it leaves all as
they are, and that one changes as is reported, or as to be counted it does not change. -/
inductive Action.Shows (g : Graph) (a : Action) (id : EntityId) : Prop
  | silent : a.changes = [] → (a.act g).counted id = g.counted id → Shows g a id
  | told {kind : EntityKind} {active : Bool} : a.changes = [⟨id, kind, active⟩] →
      g.counted id = (!active && kind.isDiscoverable) →
      (a.act g).counted id = (active && kind.isDiscoverable) → Shows g a id

namespace Action
open DiscoveryGraph.Graph
variable {g : Graph} {a : Action}

theorem exists_shows (wf : g.WellFormed) (enabled : a.Enabled g) :
    ∃ id, (∀ y, y ≠ id → (a.act g).entity? y = g.entity? y) ∧ a.Shows g id := by
  cases a with
  | born entity edges =>
    obtain ⟨next, -, active, -⟩ := enabled
    refine ⟨entity.id, fun y other => by simp [act, other.symm], .told rfl ?_ ?_⟩
    · rw [counted_of_unknown (wf.fresh next)]
      rfl
    · simp [counted, act, active]
  | linked edge =>
    refine ⟨edge.parent, fun y _ => entity?_link, .silent rfl ?_⟩
    rw [counted, counted, act, entity?_link]
  | unlinked edge =>
    refine ⟨edge.parent, fun y _ => entity?_unlink, .silent rfl ?_⟩
    rw [counted, counted, act, entity?_unlink]
  | flagged id kind active =>
    obtain ⟨known, other⟩ := enabled
    refine ⟨id, fun y apart => by rw [act, entity?_reflag, if_neg apart.symm], .told rfl ?_ ?_⟩
    · rw [counted_eq known, other]
    · rw [counted_eq (k := kind) (by rwa [act, kind?_of_profile? profile?_reflag]), act, alive_reflag,
        if_pos ⟨rfl, by simp [known]⟩]
  | forgotten entity =>
    have found : g.entity? entity.id = some entity := enabled
    have before : g.counted entity.id = (entity.active && entity.kind.isDiscoverable) := by
      rw [counted, found, Option.any_some]
    have behind : ((forgotten entity).act g).counted entity.id = false := by
      rw [counted, act, entity?_forget, if_pos rfl, Option.any_none]
    refine ⟨entity.id, fun y apart => by rw [act, entity?_forget, if_neg apart.symm], ?_⟩
    cases active : entity.active with
    | true =>
      have told : (forgotten entity).changes = [⟨entity.id, entity.kind, false⟩] := by
        rw [changes, active, if_pos rfl]
      exact .told told (by rw [before, active, Bool.not_false]) behind
    | false =>
      refine .silent ?_ ?_
      · simp [changes, active]
      · rw [before, active, behind, Bool.false_and]

/-- An action changes the number of what is alive by its own changes of state. -/
theorem liveCount_act (wf : g.WellFormed) (enabled : a.Enabled g) :
    ((a.act g).liveCount : Int) = g.liveCount + StateChange.tally a.changes := by
  obtain ⟨id, agree, shows⟩ := exists_shows wf enabled
  have total := liveCount_of_agree g (a.act g) id agree
  cases shows with
  | silent none same =>
    rw [same] at total
    rw [none, StateChange.tally]
    omega
  | told told before behind =>
    rw [before, behind] at total
    rw [told, StateChange.tally_single]
    omega

end Action

/-- What a run reports adds up to what it changes. -/
theorem Run.liveCount_eq {p : Graph → Action → Prop} {g g' : Graph} {changes : List StateChange}
    (run : Run p g changes g') (wf : g.WellFormed) :
    (g'.liveCount : Int) = g.liveCount + StateChange.tally changes := by
  induction run with
  | nil => simp [StateChange.tally]
  | cons enabled _ _ ih =>
    rw [ih (Action.wellFormed_act wf enabled), Action.liveCount_act wf enabled,
      StateChange.tally_append, Int.add_assoc]

namespace Service
open DiscoveryGraph.Graph
variable {service service' : Service} {request : Request}

/-- The count is the number of what is alive. -/
def Balanced (service : Service) : Prop := service.counter.value = service.graph.liveCount

/-- Counting the changes of a run keeps the balance. -/
theorem Balanced.settled {d : EntityId} {listener : Option Nat} {changes : List StateChange} {g : Graph}
    (balanced : service.Balanced)
    (run : (g.liveCount : Int) = service.graph.liveCount + StateChange.tally changes) :
    ({ service with graph := g }.settled d listener changes).Balanced := by
  show service.counter.value + Event.total (Event.ofChanges d changes) = g.liveCount
  rw [Event.total_ofChanges, run, balanced]

/-- A request that does not run out of identifiers keeps the balance. -/
theorem Steps.balanced (steps : Steps service request service') (sound : service.Sound)
    (room : service'.graph.lastId.next? ≠ none) (balanced : service.Balanced) : service'.Balanced := by
  have wf := sound.regular.wellFormed
  cases steps with
  | declined | refused => exact balanced
  | exhausted out _ => exact absurd out.2.1 room
  | @started number listener entity kind enabled =>
    have born := Action.liveCount_act wf enabled
    rw [Action.changes, kind, StateChange.tally_single] at born
    show service.counter.value = _
    rw [balanced, born]
    rfl
  | applied _ ingests => exact balanced.settled (ingests.run.liveCount_eq wf)
  | stopped _ lowered => exact balanced.settled (lowered.run.liveCount_eq wf)
  | @cleared d removed gone g _ _ forgets _ =>
    have settled : ({ service with graph := g }.settled d (service.listenerOf d)
        (StateChange.lost removed)).Balanced :=
      balanced.settled (forgets.liveCount_eq wf)
    exact settled

theorem Reachable.balanced (reachable : service.Reachable)
    (room : service.graph.lastId.next? ≠ none) : service.Balanced := by
  induction reachable with
  | new new =>
    obtain rfl := eq_of_new new
    rfl
  | step request reached ih =>
    have before := EntityId.next?_ne_none_of_le reached.steps.lastId_le room
    exact reached.steps.balanced reached.sound room (ih before)

/-- As long as there are identifiers left, the discovery count is the number of live participants,
topics, writers and readers, whatever was started, applied, refused, stopped and cleared. -/
theorem discoveryCount_eq_liveCount (reachable : service.Reachable) (room : service.graph.lastId.next? ≠ none) :
    service.discoveryCount = .ok service.graph.liveCount := by
  rw [discoveryCount, Counter.lock, reachable.sound.unlocked, reachable.balanced room]
  rfl

/-- A started domain with one topic. -/
theorem discoveryCount_eq_liveCount_topic :
    ∃ service : Service, service.Reachable ∧ service.discoveryCount = .ok service.graph.liveCount ∧
      service.graph.liveCount = 1 := by
  have reachable : (Request.act (Request.act { config := {} } (.start 0 none))
      (.apply ⟨⟨1⟩, .discovered, .topic ⟨"square", "ShapeType"⟩⟩)).Reachable :=
    .step _ (.step _ (.new new_default))
  exact ⟨_, reachable, discoveryCount_eq_liveCount reachable (by decide +kernel), by decide +kernel⟩

end Service
end DiscoveryGraph
