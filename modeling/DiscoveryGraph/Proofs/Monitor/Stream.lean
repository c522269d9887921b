import Mathlib.Algebra.Ring.Int.Defs
import DiscoveryGraph.Proofs.Discovery.Attribution
import DiscoveryGraph.Proofs.Monitor.Accounting
import DiscoveryGraph.Proofs.Monitor.Demand

/-! Streams of events. What a listener receives of a domain tells it what is active there: of every
entity it hears by turns that it has come and that it has gone, and the entities that it heard of last
as coming are the active participants, topics and endpoints of the domain. -/
namespace DiscoveryGraph

/-! ### Replay -/

/-- Deltas lead from one state to another: what is not counted comes, and what is counted goes. -/
inductive Replays : Prop → List Int64 → Prop → Prop
  | nil {p : Prop} : Replays p [] p
  | comes {p q : Prop} {deltas : List Int64} : ¬ p → Replays True deltas q → Replays p (1 :: deltas) q
  | goes {p q : Prop} {deltas : List Int64} : p → Replays False deltas q → Replays p (-1 :: deltas) q

namespace Replays
variable {p q p' q' : Prop} {deltas deltas' : List Int64}

theorem of_iff (same : p ↔ q) : Replays p [] q := propext same ▸ nil

theorem congr (replays : Replays p deltas q) (before : p ↔ p') (behind : q ↔ q') : Replays p' deltas q' :=
  propext before ▸ propext behind ▸ replays

theorem iff_of_nil (replays : Replays p [] q) : p ↔ q := by
  cases replays
  exact Iff.rfl

theorem trans (first : Replays p deltas q) (second : Replays q deltas' q') :
    Replays p (deltas ++ deltas') q' := by
  induction first with
  | nil => exact second
  | comes absent _ ih => exact .comes absent (ih second)
  | goes present _ ih => exact .goes present (ih second)

/-- Coming and going take turns. -/
theorem alternates (replays : Replays p deltas q) {i : Nat} {δ : Int64} (here : deltas[i]? = some δ) :
    δ = 1 ∧ (i % 2 = 0 ↔ ¬ p) ∨ δ = -1 ∧ (i % 2 = 0 ↔ p) := by
  induction replays generalizing i with
  | nil => cases here
  | comes absent _ ih =>
    cases i with
    | zero => exact .inl ⟨by simpa using here.symm, by simp [absent]⟩
    | succ i =>
      have turn : (i + 1) % 2 = 0 ↔ ¬ i % 2 = 0 := by omega
      simpa [turn, absent] using ih here
  | goes present _ ih =>
    cases i with
    | zero => exact .inr ⟨by simpa using here.symm, by simp [present]⟩
    | succ i =>
      have turn : (i + 1) % 2 = 0 ↔ ¬ i % 2 = 0 := by omega
      simpa [turn, present] using ih here

/-- The last delta tells the state that is reached. -/
theorem iff_getLast? (replays : Replays p deltas q) : q ↔ deltas.getLast? = some 1 ∨ deltas = [] ∧ p := by
  induction replays with
  | nil => simp
  | @comes _ _ deltas _ _ ih =>
    rw [ih]
    cases deltas <;> simp [List.getLast?_cons]
  | @goes _ _ deltas _ _ ih =>
    rw [ih]
    cases deltas <;> simp [List.getLast?_cons]

open Classical in
/-- Deltas add up to the difference between the states. -/
theorem sum_eq (replays : Replays p deltas q) :
    (if p then 1 else 0) + (deltas.map Int64.toInt).sum = if q then 1 else 0 := by
  induction replays with
  | nil => simp
  | comes absent _ ih => simpa [absent] using ih
  | goes present _ ih =>
    simp only [if_true, present, List.map_cons, List.sum_cons, if_false, Int.zero_add] at ih ⊢
    rw [← ih, ← Int.add_assoc]
    simp

end Replays

namespace Event
variable {d x : EntityId} {events : List Event}

/-- What some events say of one entity, in order. -/
def deltas (x : EntityId) (events : List Event) : List Int64 := (events.filter (·.entity = x)).map (·.delta)

theorem deltas_append {events' : List Event} : deltas x (events ++ events') = deltas x events ++ deltas x events' := by
  rw [deltas, List.filter_append, List.map_append, deltas, deltas]

theorem deltas_ofChanges_single {id : EntityId} {kind : EntityKind} {active : Bool} :
    deltas x (ofChanges d [⟨id, kind, active⟩]) =
      if kind.isDiscoverable ∧ id = x then [if active then 1 else -1] else [] := by
  by_cases discoverable : kind.isDiscoverable <;> by_cases same : id = x <;>
    simp [deltas, ofChanges, ofChange, discoverable, same]

/-- Events of what did not change are not there. -/
theorem deltas_ofChanges_eq_nil {changes : List StateChange}
    (untouched : ∀ change ∈ changes, change.kind.isDiscoverable → change.id ≠ x) :
    deltas x (ofChanges d changes) = [] := by
  simp only [deltas, ofChanges, List.map_eq_nil_iff, List.filter_eq_nil_iff, List.mem_map, List.mem_filter]
  intro event held
  obtain ⟨change, ⟨mem, discoverable⟩, rfl⟩ := held
  exact fun same => untouched change mem discoverable (of_decide_eq_true same)

theorem mem_ofChanges {changes : List StateChange} {event : Event} : event ∈ ofChanges d changes ↔
    ∃ change ∈ changes, change.kind.isDiscoverable ∧ ofChange d change = event := by
  simp [ofChanges, and_assoc]

theorem total_eq_sum : total events = (events.map (·.delta.toInt)).sum := by
  induction events with
  | nil => rfl
  | cons event events ih => rw [total, ih, List.map_cons, List.sum_cons]

theorem total_filter (p : Event → Bool) :
    total (events.filter p) + total (events.filter (! p ·)) = total events := by
  induction events with
  | nil => rfl
  | cons event events ih =>
    rw [List.filter_cons, List.filter_cons, total, ← ih]
    cases p event <;> simp only [Bool.not_true, Bool.not_false, if_true, Bool.false_eq_true, if_false, total] <;> omega

/-- Where the events of every single entity add up to nothing, all events do. -/
theorem total_eq_zero (each : ∀ x, total (events.filter (·.entity = x)) = 0) : total events = 0 := by
  induction length : events.length using Nat.strongRecOn generalizing events with
  | _ n ih =>
    cases events with
    | nil => rfl
    | cons event rest =>
      -- Without the events of the first entity there are fewer.
      rw [← total_filter (·.entity = event.entity), each, Int.zero_add]
      refine ih _ ?_ (fun x => ?_) rfl
      · rw [← length, List.filter_cons_of_neg (by simp), List.length_cons]
        exact Nat.lt_succ_of_le (List.length_filter_le _ _)
      · rw [List.filter_filter]
        by_cases same : x = event.entity
        · subst same
          rw [show (event :: rest).filter _ = [] from List.filter_eq_nil_iff.mpr (by simp)]
          rfl
        · rw [← each x]
          refine congrArg total (List.filter_congr fun other _ => ?_)
          by_cases here : other.entity = x <;> simp [here, same]

end Event

/-! ### Runs -/

theorem Graph.known_of_counted {g : Graph} {x : EntityId} (counted : g.counted x = true) :
    ∃ k, g.kind? x = some k := by
  cases known : g.kind? x with
  | some k => exact ⟨k, rfl⟩
  | none =>
    rw [counted_of_unknown known] at counted
    cases counted

/-- An action is told by its events. -/
theorem Action.replays {g : Graph} {a : Action} {d x : EntityId} (wf : g.WellFormed) (enabled : a.Enabled g) :
    Replays (g.counted x) (Event.deltas x (Event.ofChanges d a.changes)) ((a.act g).counted x) := by
  obtain ⟨id, agree, shows⟩ := exists_shows wf enabled
  by_cases here : id = x
  · subst here
    cases shows with
    | silent none same =>
      rw [none, same]
      exact .nil
    | @told kind active told before behind =>
      rw [told, before, behind, Event.deltas_ofChanges_single]
      cases kind.isDiscoverable with
      | false => exact .of_iff (by simp)
      | true =>
        cases active with
        | false => simpa using Replays.goes (p := True) trivial (.nil (p := False))
        | true => simpa using Replays.comes (p := False) not_false (.nil (p := True))
  · have nothing : Event.deltas x (Event.ofChanges d a.changes) = [] := by
      cases shows with
      | silent none _ => rw [none]; rfl
      | told told _ _ => rw [told, Event.deltas_ofChanges_single, if_neg fun held => here held.2]
    have same : (a.act g).counted x = g.counted x := by
      rw [Graph.counted, agree x (Ne.symm here), Graph.counted]
    rw [nothing, same]
    exact .nil

theorem Event.ofChanges_append {d : EntityId} {changes changes' : List StateChange} :
    ofChanges d (changes ++ changes') = ofChanges d changes ++ ofChanges d changes' := by
  rw [ofChanges, List.filter_append, List.map_append, ofChanges, ofChanges]

/-- A run is told by its events. -/
theorem Run.replays {p : Graph → Action → Prop} {g h : Graph} {changes : List StateChange} {d x : EntityId}
    (run : Run p g changes h) (wf : g.WellFormed) :
    Replays (g.counted x) (Event.deltas x (Event.ofChanges d changes)) (h.counted x) := by
  induction run with
  | nil => exact .nil
  | cons enabled _ _ ih =>
    rw [Event.ofChanges_append, Event.deltas_append]
    exact (Action.replays wf enabled).trans (ih (Action.wellFormed_act wf enabled))

namespace Graph
variable {g h : Graph} {d e x : EntityId} {changes : List StateChange}

/-- A domain has the entity, which is counted. -/
def Live (g : Graph) (e x : EntityId) : Prop := g.Owned e x ∧ g.counted x

/-- What an operation on a domain changes there is told by its events; nothing changes elsewhere. -/
theorem Attributed.replays {p : Graph → Action → Prop} (attributed : Attributed g d changes h)
    (run : Run p g changes h) (wf : g.WellFormed) :
    Replays (g.Live e x) (if e = d then Event.deltas x (Event.ofChanges d changes) else []) (h.Live e x) := by
  have told : Replays (g.counted x) (Event.deltas x (Event.ofChanges d changes)) (h.counted x) := run.replays wf
  by_cases touched : ∃ change ∈ changes, change.kind.isDiscoverable ∧ change.id = x
  · -- Whatever is changed belongs to the domain, on both sides.
    obtain ⟨change, mem, discoverable, rfl⟩ := touched
    obtain ⟨i, same, known, owned⟩ := attributed.mine change mem discoverable
    have before : g.counted change.id → g.Owned d change.id := by
      intro counted
      obtain ⟨k, here⟩ := known_of_counted counted
      obtain rfl | rfl := same
      · exact owned
      · exact (attributed.owned_iff _ k here _ known d).mp owned
    have behind : h.counted change.id → h.Owned d change.id := by
      intro counted
      obtain ⟨k, here⟩ := known_of_counted counted
      obtain rfl | rfl := same
      · exact (attributed.owned_iff _ _ known k here d).mpr owned
      · exact owned
    split
    · rename_i here
      subst here
      exact told.congr ⟨fun counted => ⟨before counted, counted⟩, fun live => live.2⟩
        ⟨fun counted => ⟨behind counted, counted⟩, fun live => live.2⟩
    · rename_i other
      refine .of_iff (iff_of_false (fun live => other ?_) fun live => other ?_)
      · exact live.1.unique wf (before live.2)
      · exact live.1.unique (run.wellFormed wf) (behind live.2)
  · have nothing : Event.deltas x (Event.ofChanges d changes) = [] :=
      Event.deltas_ofChanges_eq_nil fun change mem discoverable same => touched ⟨change, mem, discoverable, same⟩
    rw [nothing] at told ⊢
    have same := told.iff_of_nil
    rw [ite_self]
    refine .of_iff ⟨fun live => ?_, fun live => ?_⟩
    · obtain ⟨k, known⟩ := known_of_counted live.2
      obtain ⟨k', known'⟩ := known_of_counted (same.mp live.2)
      exact ⟨(attributed.owned_iff x k known k' known' e).mpr live.1, same.mp live.2⟩
    · obtain ⟨k, known⟩ := known_of_counted (same.mpr live.2)
      obtain ⟨k', known'⟩ := known_of_counted live.2
      exact ⟨(attributed.owned_iff x k known k' known' e).mp live.1, same.mpr live.2⟩

end Graph

namespace Service
open DiscoveryGraph.Graph
variable {service service' : Service} {request : Request} {d e x : EntityId} {listener : Nat}

/-! ### Listeners -/

/-- The events of a domain that a listener has received so far. -/
def heard (service : Service) (listener : Nat) (d : EntityId) : List Event :=
  (service.delivered.filter fun delivery => delivery.listener = listener ∧ delivery.event.domain = d).map (·.event)

theorem mem_heard {event : Event} :
    event ∈ service.heard listener d ↔ ⟨listener, event⟩ ∈ service.delivered ∧ event.domain = d := by
  simp only [heard, List.mem_map, List.mem_filter, decide_eq_true_eq]
  constructor
  · rintro ⟨⟨_, _⟩, ⟨mem, rfl, rfl⟩, rfl⟩
    exact ⟨mem, rfl⟩
  · rintro ⟨mem, rfl⟩
    exact ⟨⟨listener, event⟩, ⟨mem, rfl, rfl⟩, rfl⟩

/-- Changes in a domain are heard by its listener, and only by that one. -/
theorem heard_settled {receiver : Option Nat} {changes : List StateChange} {g : Graph} :
    ({ service with graph := g }.settled d receiver changes).heard listener e =
      service.heard listener e ++
        if receiver = some listener ∧ e = d then Event.ofChanges d changes else [] := by
  have domains : ∀ event ∈ Event.ofChanges d changes, event.domain = d := fun event mem => by
    obtain ⟨change, -, -, rfl⟩ := Event.mem_ofChanges.mp mem
    rfl
  rw [heard, settled, List.filter_append, List.map_append, heard]
  congr 1
  cases receiver with
  | none => simp [received]
  | some receiver =>
    simp only [received, Option.some.injEq, List.filter_map, List.map_map]
    split
    · rename_i held
      obtain ⟨rfl, rfl⟩ := held
      rw [List.filter_eq_self.mpr fun event mem => by simp [domains event mem]]
      exact List.map_id _
    · rename_i other
      refine List.map_eq_nil_iff.mpr (List.filter_eq_nil_iff.mpr fun event mem held => other ?_)
      obtain ⟨same, here⟩ := of_decide_eq_true held
      exact ⟨same, (domains event mem ▸ here).symm⟩

/-- What listeners have heard tells them what is active in the domains whose monitors they serve. -/
def Faithful (service : Service) : Prop :=
  ∀ listener e x, Replays False (Event.deltas x (service.heard listener e))
    (service.listenerOf e = some listener ∧ service.graph.Live e x)

/-- Telling the listener of a domain what an operation has changed there keeps it informed. -/
theorem Faithful.settled {p : Graph → Action → Prop} {changes : List StateChange} {g : Graph}
    (faithful : service.Faithful) (attributed : Attributed service.graph d changes g)
    (run : Run p service.graph changes g) (wf : service.graph.WellFormed) :
    ({ service with graph := g }.settled d (service.listenerOf d) changes).Faithful := by
  intro listener e x
  rw [heard_settled, Event.deltas_append]
  refine (faithful listener e x).trans ?_
  show Replays _ _ (service.listenerOf e = some listener ∧ g.Live e x)
  by_cases listens : service.listenerOf e = some listener
  · have told : Replays (service.graph.Live e x) _ (g.Live e x) := attributed.replays run wf
    have same : (service.listenerOf d = some listener ∧ e = d) ↔ e = d :=
      and_iff_right_of_imp fun here => here ▸ listens
    simp only [same, apply_ite (Event.deltas x)]
    exact told.congr (by simp [listens]) (by simp [listens])
  · have unheard : ¬ (service.listenerOf d = some listener ∧ e = d) := by
      rintro ⟨same, rfl⟩
      exact listens same
    rw [if_neg unheard]
    exact .of_iff (by simp [listens])

/-- A new domain has nothing to tell, and its listener has heard nothing of it. -/
theorem Faithful.started {number : UInt32} {receiver : Option Nat} {entity : Entity}
    (faithful : service.Faithful) (sound : service.Sound) (kind : entity.kind = .domain)
    (enabled : (Action.born entity []).Enabled service.graph) :
    ({ service with
        graph := (Action.born entity []).act service.graph
        monitors := service.monitors.insert entity.id ⟨number, receiver⟩ } : Service).Faithful := by
  have wf := sound.regular.wellFormed
  have wf' := Action.wellFormed_act wf enabled
  have attributed : Attributed service.graph entity.id (Action.born entity []).changes
      ((Action.born entity []).act service.graph) := by
    refine ⟨fun change mem discoverable => ?_, fun x k known k' known' e => ?_⟩
    · obtain rfl := List.mem_singleton.mp mem
      rw [kind] at discoverable
      cases discoverable
    · have persists := Action.kind?_act wf enabled (by simp) known
      refine sound.regular.owned_iff wf' known persists fun e owned => ?_
      cases owned with
      | self domain => exact .self (Action.kind?_act wf enabled (by simp) domain)
      | member near => exact .member near
      | endpoint here isEndpoint near domain =>
        exact .endpoint (Action.kind?_act wf enabled (by simp) here) isEndpoint near domain
  intro listener e x
  have told := attributed.replays (e := e) (x := x) (Run.single enabled (p := fun _ _ => True) trivial) wf
  have silent : Event.deltas x (Event.ofChanges entity.id (Action.born entity []).changes) = [] := by
    rw [Action.changes, kind, Event.deltas_ofChanges_single]
    rfl
  rw [silent, ite_self] at told
  refine (faithful listener e x).congr Iff.rfl ?_
  by_cases here : e = entity.id
  · subst here
    have unowned : ¬ service.graph.Live entity.id x := fun live => by
      have known := live.1.domain wf
      rw [wf.fresh enabled.1] at known
      cases known
    exact iff_of_false (fun held => unowned held.2) fun held => unowned (told.iff_of_nil.mpr held.2)
  · have same : listenerOf { service with
        graph := (Action.born entity []).act service.graph
        monitors := service.monitors.insert entity.id ⟨number, receiver⟩ } e = service.listenerOf e := by
      simp [listenerOf, Std.ExtTreeMap.getElem?_insert, Ne.symm here]
    rw [same, told.iff_of_nil]

theorem Steps.faithful (steps : Steps service request service') (sound : service.Sound)
    (lasting : request.exhausts service = false) (faithful : service.Faithful) : service'.Faithful := by
  have regular := sound.regular
  have wf := regular.wellFormed
  cases steps with
  | declined | refused => exact faithful
  | exhausted out fails =>
    rw [Request.exhausts, fails, out.1] at lasting
    cases lasting
  | started kind enabled => exact faithful.started sound kind enabled
  | applied _ ingests =>
    have run := ingests.local regular
    exact faithful.settled (run.attributed regular) run wf
  | stopped domain stopped =>
    have run := stopped.run.marks.local_of_marks wf fun x stops => stops.local regular domain
    exact faithful.settled (run.attributed regular) run wf
  | @cleared d removed gone g domain cleared forgets without =>
    have settled := faithful.settled (cleared.attributed regular domain forgets without) forgets wf
    intro listener e x
    refine (settled listener e x).congr Iff.rfl ?_
    show service.listenerOf e = some listener ∧ g.Live e x ↔ _ ∧ g.Live e x
    refine and_congr_left fun live => ?_
    have other : e ≠ d := by
      rintro rfl
      exact cleared.not_owned without (forgets.wellFormed wf) live.1
    simp [listenerOf, Std.ExtTreeMap.getElem?_erase, Ne.symm other]

/-! ### Histories -/

/-- At some time during the requests the monitor of the domain had the listener. -/
def Serves (service : Service) (requests : List Request) (listener : Nat) (d : EntityId) : Prop :=
  ∃ before, before <+: requests ∧ (service.run before).listenerOf d = some listener

/-- The event is about a participant, topic or endpoint of its domain. -/
def Concerns (service : Service) (event : Event) : Prop :=
  event.kind.isDiscoverable ∧ service.graph.kind? event.entity = some event.kind ∧
    service.graph.Owned event.domain event.entity

theorem listenerOf_mem (serves : service.listenerOf d = some listener) : d ∈ service.monitors := by
  rw [Std.ExtTreeMap.mem_iff_isSome_getElem?]
  cases found : service.monitors[d]? with
  | none =>
    rw [listenerOf, found] at serves
    cases serves
  | some monitor => rfl

/-- Whatever is delivered is delivered to the listener of its domain, before or after the request that
brings it about. -/
theorem delivered_settled {changes : List StateChange} {g : Graph} {delivery : Delivery}
    (attributed : Attributed service.graph d changes g)
    (mem : delivery ∈ service.delivered ++ received (service.listenerOf d) (Event.ofChanges d changes)) :
    delivery ∈ service.delivered ∨ service.listenerOf delivery.event.domain = some delivery.listener ∧
      ∃ i, (i = service.graph ∨ i = g) ∧ Concerns { service with graph := i } delivery.event := by
  refine (List.mem_append.mp mem).imp_right fun new => ?_
  cases receiver : service.listenerOf d with
  | none =>
    rw [receiver] at new
    cases new
  | some listener =>
    rw [receiver] at new
    obtain ⟨event, listed, rfl⟩ := List.mem_map.mp new
    obtain ⟨change, changed, discoverable, rfl⟩ := Event.mem_ofChanges.mp listed
    obtain ⟨i, same, known, owned⟩ := attributed.mine change changed discoverable
    exact ⟨receiver, i, same, discoverable, known, owned⟩

theorem Steps.delivered (steps : Steps service request service') (sound : service.Sound) {delivery : Delivery}
    (mem : delivery ∈ service'.delivered) :
    delivery ∈ service.delivered ∨ service.listenerOf delivery.event.domain = some delivery.listener ∧
      ∃ i, (i = service.graph ∨ i = service'.graph) ∧ Concerns { service with graph := i } delivery.event := by
  have regular := sound.regular
  cases steps with
  | declined | refused | exhausted | started => exact .inl mem
  | applied _ ingests => exact delivered_settled ((ingests.local regular).attributed regular) mem
  | stopped domain stopped =>
    have run := stopped.run.marks.local_of_marks regular.wellFormed fun x stops => stops.local regular domain
    exact delivered_settled (run.attributed regular) mem
  | cleared domain cleared forgets without =>
    exact delivered_settled (cleared.attributed regular domain forgets without) mem

/-- Every event was delivered to a listener of its domain, and was about an entity of this domain. -/
theorem delivered_run {requests : List Request} (sound : service.Sound) {delivery : Delivery}
    (mem : delivery ∈ (service.run requests).delivered) :
    delivery ∈ service.delivered ∨ service.Serves requests delivery.listener delivery.event.domain ∧
      ∃ before, before <+: requests ∧ (service.run before).Concerns delivery.event := by
  induction requests generalizing service with
  | nil => exact .inl mem
  | cons request requests ih =>
    have steps : Steps service request (request.act service) := steps_act sound
    obtain earlier | ⟨⟨before, held, serves⟩, before', held', concerns⟩ := ih (steps.sound sound) mem
    · refine (steps.delivered sound earlier).imp_right fun new => ?_
      obtain ⟨serves, i, same, concerns⟩ := new
      refine ⟨⟨[], List.nil_prefix, serves⟩, ?_⟩
      obtain rfl | rfl := same
      · exact ⟨[], List.nil_prefix, concerns⟩
      · exact ⟨[request], by simp, concerns⟩
    · exact .inr ⟨⟨request :: before, List.cons_prefix_cons.mpr ⟨rfl, held⟩, serves⟩,
        request :: before', List.cons_prefix_cons.mpr ⟨rfl, held'⟩, concerns⟩

/-- A domain keeps the listener of its monitor until it is cleared. -/
theorem Steps.listenerOf (steps : Steps service request service') (sound : service.Sound)
    (serves : service.listenerOf d = some listener) :
    service'.listenerOf d = some listener ∨ service'.graph.kind? d = none := by
  cases steps with
  | declined | refused | exhausted | applied | stopped => exact .inl serves
  | @started number receiver entity kind enabled =>
    have known := sound.domains d (listenerOf_mem serves)
    have other := sound.regular.wellFormed.ne_fresh enabled.1 known
    left
    simpa [Service.listenerOf, Std.ExtTreeMap.getElem?_insert, other] using serves
  | @cleared e removed gone g domain cleared _ without =>
    by_cases here : d = e
    · exact .inr (kind?_eq_none.mpr (without.gone d (here ▸ cleared.domain)))
    · left
      simpa [Service.listenerOf, Std.ExtTreeMap.getElem?_erase, Ne.symm here] using serves

theorem listenerOf_run (requests : List Request) (sound : service.Sound)
    (serves : service.listenerOf d = some listener ∨
      service.graph.kind? d = none ∧ d.value.toNat ≤ service.graph.lastId.value.toNat) :
    (service.run requests).listenerOf d = some listener ∨ (service.run requests).graph.kind? d = none := by
  induction requests generalizing service with
  | nil => exact serves.imp_right fun gone => gone.1
  | cons request requests ih =>
    have steps : Steps service request (request.act service) := steps_act sound
    refine ih (steps.sound sound) ?_
    obtain listens | ⟨gone, issued⟩ := serves
    · have known := sound.domains d (listenerOf_mem listens)
      refine (steps.listenerOf sound listens).imp_right fun gone => ⟨gone, ?_⟩
      exact Nat.le_trans (sound.regular.wellFormed.issued known).2 steps.lastId_le
    · obtain ⟨changes, run⟩ := steps.run
      exact .inr ⟨run.kind?_eq_none gone issued, Nat.le_trans issued run.lastId_le⟩

/-- The monitor of the domain still has the listener, unless the domain was cleared. -/
theorem Serves.listenerOf {config : Config} (new : Service.new config = .ok service) {requests : List Request}
    (serves : service.Serves requests listener d) :
    d.isAll = false ∧
      ((service.run requests).listenerOf d = some listener ∨ (service.run requests).graph.kind? d = none) := by
  obtain ⟨before, ⟨behind, rfl⟩, listens⟩ := serves
  have reachable : (service.run before).Reachable := (Reachable.new new).run
  have later := listenerOf_run behind reachable.sound (.inl listens)
  have known := reachable.sound.domains d (listenerOf_mem listens)
  refine ⟨reachable.sound.regular.wellFormed.not_isAll known, ?_⟩
  rwa [run, List.foldl_append]

/-! ### What listeners know -/

theorem exists_mem_ids {filter : ActivityFilter} {k : EntityKind} (sound : service.Sound)
    (domain : service.graph.kind? d = some .domain) (discoverable : k.isDiscoverable) :
    (∃ ids, service.ids filter k d = .ok ids ∧ x ∈ ids) ↔
      service.graph.kind? x = some k ∧ service.graph.Owned d x ∧ filter.accepts (service.graph.alive x) := by
  have wf := sound.regular.wellFormed
  have listed : k ≠ .invalid ∧ k ≠ .domain ∧ k ∈ [EntityKind.participant, .topic, .dataWriter, .dataReader] := by
    revert discoverable
    cases k <;> decide
  obtain ⟨ids, found, iff⟩ := relatedBy_eq_ok filter wf domain listed.1
  have answered : service.ids filter k d = .ok ids := by
    rw [Service.ids, found]
    rfl
  simp only [answered, Except.ok.injEq, exists_eq_left', iff, ← and_assoc]
  refine and_congr_left fun _ => ⟨fun finds => ?_, fun held => ?_⟩
  · exact ⟨finds.kind? wf domain, owned_of_finds wf domain listed.2.2 finds⟩
  · exact held.2.finds wf held.1 listed.2.1

/-- Nothing is found from a domain that is gone. -/
theorem ids_of_unknown {filter : ActivityFilter} {k : EntityKind} {ids : IdSet} (named : d.isAll = false)
    (gone : service.graph.kind? d = none) : service.ids filter k d ≠ .ok ids := by
  rw [Service.ids, relatedBy, related, kind?_eq_none.mp gone, named]
  intro found
  cases found

/-- What is active in a domain, seen from the answers of the service. -/
theorem live_iff (sound : service.Sound) (domain : service.graph.kind? d = some .domain) :
    service.graph.Live d x ↔ ∃ k, k.isDiscoverable ∧ ∃ ids, service.ids .active k d = .ok ids ∧ x ∈ ids := by
  constructor
  · intro live
    obtain ⟨k, known⟩ := known_of_counted live.2
    have counted := live.2
    rw [counted_eq known, Bool.and_eq_true] at counted
    exact ⟨k, counted.2, (exists_mem_ids sound domain counted.2).mpr ⟨known, live.1, counted.1⟩⟩
  · rintro ⟨k, discoverable, found⟩
    obtain ⟨known, owned, active⟩ := (exists_mem_ids sound domain discoverable).mp found
    exact ⟨owned, by simp [counted_eq known, discoverable, show service.graph.alive x = true from active]⟩

theorem faithful_run {config : Config} (new : Service.new config = .ok service) {requests : List Request}
    (lasting : service.lasts requests) : (service.run requests).Faithful := by
  refine run_invariant Faithful ?_ (.new new) lasting ?_
  · intro service request _ reachable room held
    exact reachable.steps.faithful reachable.sound room held
  · obtain rfl := eq_of_new new
    exact fun listener e x => .of_iff (by simp [listenerOf])

/-- What the listener of a monitor has heard at any time of any requests. All that it hears carries the
domain of a monitor that it serves, and what carries the domain of this monitor is about participants,
topics, writers and readers of the domain. As long as the identifiers last, each of these comes and goes
by turns, coming first, and those that came last are the ones that the domain finds active; once the
monitor is cleared the events add up to nothing. -/
theorem stream_reconstructs {config : Config} (new : Service.new config = .ok service)
    {requests : List Request} (serves : service.Serves requests listener d) :
    let now := service.run requests
    let stream := now.heard listener d
    (∀ event, ⟨listener, event⟩ ∈ now.delivered → service.Serves requests listener event.domain) ∧
      (∀ event ∈ stream, event.domain = d ∧ event.kind.isDiscoverable ∧ ∃ before, before <+: requests ∧
        ∃ ids, (service.run before).ids .all event.kind d = .ok ids ∧ event.entity ∈ ids) ∧
      (service.lasts requests →
        (∀ x (i : Nat) δ, (Event.deltas x stream)[i]? = some δ → δ = if i % 2 = 0 then 1 else -1) ∧
        (∀ x, (Event.deltas x stream).getLast? = some 1 ↔
          ∃ k, k.isDiscoverable ∧ ∃ ids, now.ids .active k d = .ok ids ∧ x ∈ ids) ∧
        (d ∉ now.monitors → Event.total stream = 0)) := by
  intro now stream
  have sound : ∀ requests, (service.run requests).Sound := fun _ => (Reachable.new new).run.sound
  have new_delivered : ∀ {delivery}, delivery ∈ now.delivered →
      service.Serves requests delivery.listener delivery.event.domain ∧
        ∃ before, before <+: requests ∧ (service.run before).Concerns delivery.event := fun mem => by
    refine (delivered_run (sound_new new) mem).resolve_left ?_
    obtain rfl := eq_of_new new
    exact List.not_mem_nil
  refine ⟨fun event mem => (new_delivered mem).1, fun event mem => ?_, fun lasting => ?_⟩
  · obtain ⟨arrived, same⟩ := mem_heard.mp mem
    obtain ⟨-, before, held, discoverable, known, owned⟩ := new_delivered arrived
    rw [same] at owned
    have domain := owned.domain (sound before).regular.wellFormed
    exact ⟨same, discoverable, before, held,
      (exists_mem_ids (sound before) domain discoverable).mpr ⟨known, owned, rfl⟩⟩
  · have told : ∀ x, Replays False (Event.deltas x stream) (now.listenerOf d = some listener ∧ now.graph.Live d x) :=
      faithful_run new lasting listener d
    obtain ⟨named, listens⟩ := serves.listenerOf new
    refine ⟨fun x i δ here => ?_, fun x => ?_, fun cleared => ?_⟩
    · have turns := (told x).alternates here
      simp only [not_false_eq_true, iff_true, iff_false] at turns
      obtain ⟨rfl, even⟩ | ⟨rfl, odd⟩ := turns
      · rw [if_pos even]
      · rw [if_neg odd]
    · have last := (told x).iff_getLast?
      rw [and_false, or_false] at last
      rw [← last]
      obtain listens | gone := listens
      · rw [and_iff_right listens]
        exact live_iff (sound requests) ((sound requests).domains d (listenerOf_mem listens))
      · refine iff_of_false (fun held => ?_) ?_
        · rw [held.2.1.domain (sound requests).regular.wellFormed] at gone
          cases gone
        · rintro ⟨k, -, ids, found, -⟩
          exact ids_of_unknown named gone found
    · refine Event.total_eq_zero fun x => ?_
      have unheard : ¬ (now.listenerOf d = some listener ∧ now.graph.Live d x) :=
        fun held => cleared (listenerOf_mem held.1)
      have sum := (told x).sum_eq
      rw [if_neg unheard, if_neg not_false, Int.zero_add] at sum
      rw [Event.total_eq_sum, ← sum, Event.deltas, List.map_map]
      rfl

/-- A writer is seen, its monitor is stopped, and the writer is seen again. It is active then, and once
the monitor is cleared with it, the stream of the listener adds up to nothing. -/
theorem stream_reconstructs_restart :
    let info : EndpointInfo := ⟨⟨.replicate 16 2⟩, "writer",
      ⟨⟨.replicate 16 1⟩, "node", "host", "user", "process", none⟩, ⟨"square", "ShapeType"⟩, ["udp"]⟩
    let seen : List Request := [.start 0 (some 7), .apply ⟨⟨1⟩, .discovered, .writer info⟩, .stop ⟨1⟩,
      .apply ⟨⟨1⟩, .discovered, .writer info⟩]
    let service : Service := { config := {} }
    Event.deltas ⟨7⟩ ((service.run seen).heard 7 ⟨1⟩) = [1, -1, 1] ∧
      (∃ k, k.isDiscoverable ∧ ∃ ids, (service.run seen).ids .active k ⟨1⟩ = .ok ids ∧ ⟨7⟩ ∈ ids) ∧
      Event.total ((service.run (seen ++ [.clear ⟨1⟩])).heard 7 ⟨1⟩) = 0 := by
  intro info seen service
  have serves : ∀ behind, service.Serves (seen ++ behind) 7 ⟨1⟩ := fun behind =>
    ⟨[.start 0 (some 7)], ⟨_, rfl⟩, by decide +kernel⟩
  have deltas : Event.deltas ⟨7⟩ ((service.run seen).heard 7 ⟨1⟩) = [1, -1, 1] := by decide +kernel
  have running := (stream_reconstructs new_default (serves [])).2.2
    (lasts_of_demand (sound_new new_default) (by decide))
  have cleared := (stream_reconstructs new_default (serves [.clear ⟨1⟩])).2.2
    (lasts_of_demand (sound_new new_default) (by decide))
  rw [List.append_nil] at running
  refine ⟨deltas, (running.2.1 ⟨7⟩).mp ?_, cleared.2.2 (by decide +kernel)⟩
  rw [deltas]
  rfl

end Service
end DiscoveryGraph
