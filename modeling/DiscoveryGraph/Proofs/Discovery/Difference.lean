import DiscoveryGraph.Proofs.Discovery.Repetition
import DiscoveryGraph.Proofs.Discovery.Standstill

/-! What a transition comes to. It is refused before anything is touched, or it reports exactly the flags
that differ and touches nothing else, and then there is nothing left for it to do. -/
namespace DiscoveryGraph

/-- The entity that a transition sets out from. -/
def Transition.entity : Transition → EntityId
  | appeared id | disappeared id | domainStopped id => id

namespace Graph
open Update
variable {g h : Graph} {d id o x : EntityId} {k : EntityKind} {t : Transition}
    {changes : List StateChange} {route : Route} {ids : IdSet}

/-- Why a transition is refused, if it is. -/
inductive Refuses (g : Graph) (t : Transition) : StorageError → Prop
  | unknown : g.kind? t.entity = none → Refuses g t (.entityNotFound t.entity)
  /-- Discovery moves no domains. -/
  | monitored : t ≠ .domainStopped t.entity → g.kind? t.entity = some .domain →
      Refuses g t (.inconsistent (.monitorDriven t.entity))
  /-- Nothing else can be stopped. -/
  | other {kind : EntityKind} : t = .domainStopped t.entity → g.kind? t.entity = some kind → kind ≠ .domain →
      Refuses g t (.inconsistent (.notADomain t.entity kind))

/-- What a transition that is carried out comes to. -/
structure Transits (g : Graph) (t : Transition) (changes : List StateChange) (h : Graph) : Prop where
  /-- The changes are the flags that differ, each once and with its new value. -/
  reports : g.Reports changes h
  rest : g.UpToFlags h
  answers : ∀ k o, h.related k o = g.related k o
  settled : apply t h = .ok [] h

/-! ### Queries do not see flags -/

theorem Alike.step {hop : Hop} (alike : g.Alike h) : h.step hop ids = g.step hop ids := by
  simp only [Graph.step, alike.neighbors]

theorem Alike.expand (alike : g.Alike h) : h.expand route ids = g.expand route ids := by
  induction route generalizing ids with
  | nil => rfl
  | cons hop route ih => simp only [Graph.expand, alike.step, ih]

theorem UpToFlags.ofKind (rest : g.UpToFlags h) : h.ofKind k = g.ofKind k := by
  rw [rest.rest, Graph.ofKind, Graph.ofKind]

theorem UpToFlags.related (rest : g.UpToFlags h) : h.related k o = g.related k o := by
  have same := rest.profile o
  unfold profile? at same
  unfold Graph.related
  rw [rest.ofKind]
  revert same
  rcases h.entity? o with _ | entity <;> rcases g.entity? o with _ | entity' <;> intro same
  · rfl
  · cases same
  · cases same
  · have agree := Option.some.inj same
    have key : entity.id = entity'.id := (Entity.mk.inj agree).1
    have kind : entity.kind = entity'.kind := (Entity.mk.inj agree).2.1
    simp only [reach, key, kind, rest.alike.expand]

/-! ### Refusals -/

theorem expectDiscovered_unknown (unknown : g.kind? id = none) :
    g.expectDiscovered id = .error (.entityNotFound id) := by
  rw [expectDiscovered, lookup_eq_error.mpr ⟨kind?_eq_none.mp unknown, rfl⟩]
  rfl

theorem expectDiscovered_domain (known : g.kind? id = some .domain) :
    g.expectDiscovered id = .error (.inconsistent (.monitorDriven id)) := by
  obtain ⟨entity, found, domain⟩ := kind?_eq_some.mp known
  simp only [expectDiscovered, lookup_eq_ok.mpr found, Bind.bind, Except.bind, if_pos domain]
  rfl

theorem apply_of_expectDiscovered {e : StorageError} (discovery : t ≠ .domainStopped t.entity)
    (refused : g.expectDiscovered t.entity = .error e) : apply t g = .error (.storage e) g := by
  cases t with
  | appeared id | disappeared id =>
    rw [Transition.entity] at refused
    simp only [apply, Bind.bind, EStateM.bind, liftM, monadLift, MonadLift.monadLift, EStateM.adaptExcept,
      Update.read, refused]
  | domainStopped => exact absurd rfl discovery

theorem apply_of_expectDomain {e : StorageError} (refused : g.expectDomain d = .error e) :
    apply (.domainStopped d) g = .error (.storage e) g := by
  simp only [apply, stopDomain, Bind.bind, EStateM.bind, liftM, monadLift, MonadLift.monadLift,
    EStateM.adaptExcept, Update.read, refused]

/-- A refused transition touches nothing. -/
theorem Refuses.apply_eq {e : StorageError} (refuses : g.Refuses t e) : apply t g = .error (.storage e) g := by
  cases refuses with
  | unknown unknown =>
    cases t with
    | appeared | disappeared =>
      exact apply_of_expectDiscovered (by simp) (expectDiscovered_unknown unknown)
    | domainStopped => exact apply_of_expectDomain (expectDomain_unknown unknown)
  | monitored discovery known => exact apply_of_expectDiscovered discovery (expectDiscovered_domain known)
  | other stops known other =>
    rw [stops]
    exact apply_of_expectDomain (expectDomain_other known other)

/-- What is not refused concerns an entity that is there, a domain exactly if it is to stop. -/
theorem known_of_not_refuses (due : ∀ e, ¬ g.Refuses t e) :
    ∃ k, g.kind? t.entity = some k ∧ (k = .domain ↔ t = .domainStopped t.entity) := by
  cases known : g.kind? t.entity with
  | none => exact absurd (.unknown known) (due _)
  | some k =>
    refine ⟨k, rfl, fun domain => ?_, fun stops => ?_⟩
    · refine Decidable.byContradiction fun discovery => due _ (.monitored discovery ?_)
      rw [known, domain]
    · exact Decidable.byContradiction fun other => due _ (.other stops known other)

/-! ### Fixed points -/

section Rest
variable (standstill : g.Standstill d changes h) (wf : g.WellFormed) (off : g.alive d = false)
    (found : ∀ k ∈ haltedKinds, ∀ x, g.Queried d k x → g.alive x = false)
    (hosts : ∀ x, g.Hosts d x → g.alive x = true → ∃ p ∈ g.neighbors x .participant, g.alive p = true)
include standstill off found

theorem Standstill.alive_of_other (active : g.alive x = true) (unhosted : ¬ g.Hosts d x)
    (low : ¬ (g.kind? x = some .user ∨ g.kind? x = some .host)) : h.alive x = true := by
  rw [standstill.others x _ _ unhosted fun high => low high.1, active]
  · rintro rfl
    rw [off] at active
    cases active
  · intro k listed queried
    rw [found k listed x queried] at active
    cases active

include wf hosts

/-- A process that holds an active participant does so after the stop, which finds only inactive ones. -/
theorem Standstill.alive_of_process (active : g.alive x = true) (known : g.kind? x = some .process) :
    h.alive x = true := by
  by_cases hosted : g.Hosts d x
  · obtain ⟨p, near, alive⟩ := hosts x hosted active
    have participant : g.kind? p = some .participant := wf.kind?_of_mem near
    refine (standstill.processes x hosted).mpr ⟨active, p, near, ?_⟩
    exact standstill.alive_of_other off found alive (by simp [Hosts, participant]) (by simp [participant])
  · exact standstill.alive_of_other off found active hosted (by simp [known])

omit off found hosts in
/-- What is above goes with something that it holds only. -/
theorem Standstill.alive_of_above (kinds : EntityKind × EntityKind)
    (listed : kinds ∈ [(EntityKind.user, EntityKind.process), (.host, .user)])
    (below : ∀ y, g.alive y = true → g.kind? y = some kinds.2 → h.alive y = true)
    (active : g.alive x = true) (known : g.kind? x = some kinds.1) : h.alive x = true := by
  cases after : h.alive x with
  | true => rfl
  | false =>
    obtain ⟨⟨y, near, alive, fallen⟩, -⟩ := (standstill.above kinds listed x known active).mp after
    rw [below y alive (wf.kind?_of_mem near)] at fallen
    cases fallen

/-- A stop leaves a graph alone in which the domain is at rest: the domain and what it finds are inactive,
and each active process of it holds an active participant. -/
theorem Standstill.idle : changes = [] ∧ h = g := by
  have process : ∀ x, g.alive x = true → g.kind? x = some .process → h.alive x = true := fun x =>
    standstill.alive_of_process wf off found hosts
  have user : ∀ x, g.alive x = true → g.kind? x = some .user → h.alive x = true := fun x =>
    standstill.alive_of_above wf (.user, .process) (by decide) process
  have host : ∀ x, g.alive x = true → g.kind? x = some .host → h.alive x = true := fun x =>
    standstill.alive_of_above wf (.host, .user) (by decide) user
  have stays : ∀ x, g.alive x = true → h.alive x = true := by
    intro x active
    by_cases low : g.kind? x = some .user ∨ g.kind? x = some .host
    · exact low.elim (user x active) (host x active)
    by_cases hosted : g.Hosts d x
    · exact process x active hosted.1
    · exact standstill.alive_of_other off found active hosted low
  have same : ∀ x, h.alive x = g.alive x := fun x => Bool.eq_iff_iff.mpr ⟨standstill.lowered x, stays x⟩
  exact ⟨standstill.reports.eq_nil same, standstill.rest.eq_of_alive .refl same⟩

end Rest

/-- A domain that was stopped is at rest. -/
theorem Standstill.settled (standstill : g.Standstill d changes h) (wf : h.WellFormed)
    (known : h.kind? d = some .domain) : apply (.domainStopped d) h = .ok [] h := by
  have alike := standstill.rest.alike
  have found : ∀ k ∈ haltedKinds, ∀ x, h.Queried d k x → h.alive x = false := by
    intro k listed x queried
    obtain ⟨found, answer, dead⟩ := standstill.found k listed
    obtain ⟨found', answer', mem⟩ := queried
    rw [standstill.rest.related, answer] at answer'
    cases answer'
    exact dead x mem
  have hosts : ∀ x, h.Hosts d x → h.alive x = true → ∃ p ∈ h.neighbors x .participant, h.alive p = true := by
    intro x hosted active
    simp only [Hosts, Queried, alike.kind?, alike.neighbors, standstill.rest.related] at hosted ⊢
    exact ((standstill.processes x hosted).mp active).2
  refine Ends.eq_ok ((stopDomain_standstill wf known).imp ?_ fun _ _ => False.elim)
  intro changes' h' again
  exact again.idle wf standstill.domain found hosts

theorem Activated.settled (activated : Activated g id changes h) (wf : h.WellFormed) (known : h.kind? id = some k)
    (discovered : k ≠ .domain) : apply (.appeared id) h = .ok [] h := by
  refine Ends.eq_ok (apply_appeared_alive wf known discovered activated.alive fun y sustains => ?_)
  rw [activated.raised.alike.sustains_iff] at sustains
  exact activated.sustained id y (.inl rfl) sustains

theorem Built.of_apply (built : g.Built) (done : apply t g = .ok changes h) : h.Built := by
  have after := Built.step (.apply t) built
  rwa [Operation.act, Update.after, done] at after

theorem Built.apply_due (built : g.Built) (due : ∀ e, ¬ g.Refuses t e) :
    ∃ changes h, apply t g = .ok changes h ∧ g.Transits t changes h := by
  have wf := built.wellFormed
  obtain ⟨k, known, stops⟩ := known_of_not_refuses due
  cases t with
  | appeared id =>
    have known : g.kind? id = some k := known
    have discovered : k ≠ .domain := by simp [stops]
    obtain ⟨changes, h, done, activated⟩ := (apply_appeared_ends wf known discovered).exists_ok
    have run := activated.raised
    refine ⟨changes, h, done, run.reports, run.upToFlags, fun _ _ => run.upToFlags.related, ?_⟩
    exact activated.settled (run.wellFormed wf) (by rw [run.alike.kind?, known]) discovered
  | disappeared id =>
    have known : g.kind? id = some k := known
    have discovered : k ≠ .domain := by simp [stops]
    obtain ⟨changes, h, done, run, -, -, dead⟩ := (apply_disappeared_ends wf known discovered).exists_ok
    refine ⟨changes, h, done, run.reports, run.upToFlags, fun _ _ => run.upToFlags.related, ?_⟩
    exact Ends.eq_ok (apply_disappeared_dead (by rw [run.alike.kind?, known]) discovered dead)
  | domainStopped d =>
    obtain rfl : k = .domain := stops.mpr rfl
    have known : g.kind? d = some .domain := known
    obtain ⟨changes, h, done, standstill⟩ := (stopDomain_standstill wf known).exists_ok
    have rest := standstill.rest
    refine ⟨changes, h, done, standstill.reports, rest, fun _ _ => rest.related, ?_⟩
    have known' : h.kind? d = some .domain := by rw [rest.alike.kind?, known]
    exact standstill.settled (built.of_apply (t := .domainStopped d) done).wellFormed known'

/-- In a graph that was built, a transition either is refused and touches nothing, or it reports exactly
the flags that differ afterwards, touches nothing else and leaves nothing to do for another one. -/
theorem Built.apply_exact (built : g.Built) (t : Transition) :
    (∃ e, g.Refuses t e ∧ apply t g = .error (.storage e) g) ∨
      (∀ e, ¬ g.Refuses t e) ∧ ∃ changes h, apply t g = .ok changes h ∧ g.Transits t changes h := by
  by_cases refused : ∃ e, g.Refuses t e
  · obtain ⟨e, refuses⟩ := refused
    exact .inl ⟨e, refuses, refuses.apply_eq⟩
  · have due : ∀ e, ¬ g.Refuses t e := not_exists.mp refused
    exact .inr ⟨due, built.apply_due due⟩

/-- A reader comes back after its participant has gone, with everything that had gone along. Its domain is
no entity for discovery to bring back. -/
theorem Built.apply_exact_returned :
    let g := [.create .domain "0" (.domain 0),
      .ingest ⟨⟨1⟩, .discovered, .reader ⟨⟨.replicate 16 1⟩, "reader",
        ⟨⟨.replicate 16 2⟩, "node", "host", "user", "process", none⟩, ⟨"square", "ShapeType"⟩, ["udp:1"]⟩⟩,
      .apply (.disappeared ⟨5⟩)].foldl Operation.act ∅
    g.Built ∧
      (∃ changes h, apply (.appeared ⟨7⟩) g = .ok changes h ∧ g.Transits (.appeared ⟨7⟩) changes h ∧
        changes.map (·.id) = [⟨7⟩, ⟨8⟩, ⟨6⟩, ⟨5⟩, ⟨4⟩, ⟨3⟩, ⟨2⟩]) ∧
      apply (.appeared ⟨1⟩) g = .error (.storage (.inconsistent (.monitorDriven ⟨1⟩))) g := by
  intro g
  have built : g.Built := Built.empty.foldl _
  have raised : (match apply (.appeared ⟨7⟩) g with
      | .ok changes _ => changes.map (·.id)
      | .error .. => []) = [⟨7⟩, ⟨8⟩, ⟨6⟩, ⟨5⟩, ⟨4⟩, ⟨3⟩, ⟨2⟩] := by decide +kernel
  have refused : (match apply (.appeared ⟨1⟩) g with
      | .ok .. => none
      | .error e _ => some e) = some (.storage (.inconsistent (.monitorDriven ⟨1⟩))) := by decide +kernel
  clear_value g
  refine ⟨built, ?_, ?_⟩
  · obtain ⟨e, -, run⟩ | ⟨-, changes, h, run, transits⟩ := Built.apply_exact built (.appeared ⟨7⟩)
    · rw [run] at raised
      cases raised
    · rw [run] at raised
      exact ⟨changes, h, run, transits, raised⟩
  · obtain ⟨e, -, run⟩ | ⟨-, changes, h, run, -⟩ := Built.apply_exact built (.appeared ⟨1⟩)
    · rw [run] at refused ⊢
      rw [Option.some.inj refused]
    · rw [run] at refused
      cases refused

end Graph
end DiscoveryGraph
