import Mathlib.Data.List.Nodup
import DiscoveryGraph.Proofs.Discovery.Portrait

/-! Shortage. Where the identifiers run out midway, a graph shows nothing but what it showed before and
what it is being told, and something of that is still missing. Discovery forgets nothing and every new
entity takes one identifier, so there is no graph in which it is not missing. -/
namespace DiscoveryGraph
namespace Graph
open Update
variable {g g' h : Graph} {d x y z : EntityId} {kind : EntityKind} {name : String} {key : Key}
    {attributes : Attributes} {label : Label} {parents : List Label} {facts facts' : List Fact}
    {e : StorageError}

/-! ### Census -/

/-- As many entities have come as identifiers have been handed out. -/
def Grown (g h : Graph) : Prop := h.size + g.lastId.value.toNat = g.size + h.lastId.value.toNat

theorem Grown.trans (first : Grown g g') (second : Grown g' h) : Grown g h := by
  unfold Grown at first second ⊢
  omega

theorem grown_act {a : Action} (wf : g.WellFormed) (enabled : a.Enabled g) (keeps : ∀ entity, a ≠ .forgotten entity) :
    Grown g (a.act g) := by
  cases a with
  | born entity edges =>
    have next := EntityId.value_next enabled.1
    rw [Grown, Action.act, size_links, lastId_links, lastId_add, size_add (wf.fresh enabled.1)]
    omega
  | linked | unlinked => exact rfl
  | flagged id kind active =>
    rw [Grown, Action.act, size_reflag]
    rfl
  | forgotten entity => exact absurd rfl (keeps entity)

/-- Discovery creates an entity for every identifier that it takes. -/
theorem grown_of_discovers {changes : List StateChange} (discovers : Run (Action.Discovers d) g changes h)
    (wf : g.WellFormed) : Grown g h := by
  refine discovers.invariant (Grown g) wf rfl ?_
  intro h a wf enabled discovers grown
  exact grown.trans (grown_act wf enabled discovers.1.not_forgotten)

theorem mem_keys : x ∈ g.entities.keys ↔ g.contains x = true := by
  rw [Std.ExtTreeMap.mem_keys, ← Std.ExtTreeMap.contains_iff_mem, contains]

/-- There is more in a graph that shows all that another one shows and something that is missing there. -/
theorem size_lt_of_shows (identified : g.Identified) (wf : g.WellFormed) (wf' : h.WellFormed)
    (shown : ∀ fact, g.Shows fact → h.Shows fact) (bears : h.Bears z label) (missing : ∀ x, ¬ g.Bears x label) :
    g.size < h.size := by
  obtain ⟨rename, labelled⟩ := exists_labelled identified wf shown
  have new : z ∉ g.entities.keys.map rename := by
    intro mem
    obtain ⟨x, here, rfl⟩ := List.mem_map.mp mem
    obtain ⟨label', bears', copied⟩ := labelled x (mem_keys.mp here)
    exact missing x (copied.eq wf' bears ▸ bears')
  have apart : (g.entities.keys.map rename).Nodup := by
    refine Std.ExtTreeMap.nodup_keys.map_on fun x memx y memy same => ?_
    exact injective_of_labelled identified wf' labelled (mem_keys.mp memx) (mem_keys.mp memy) same
  have within : z :: g.entities.keys.map rename ⊆ h.entities.keys := by
    intro y mem
    rw [mem_keys, contains_iff]
    obtain rfl | copy := List.mem_cons.mp mem
    · exact bears.known
    · obtain ⟨x, here, rfl⟩ := List.mem_map.mp copy
      obtain ⟨label', -, copied⟩ := labelled x (mem_keys.mp here)
      exact copied.known
  have le := (List.nodup_cons.mpr ⟨new, apart⟩).length_le_of_subset within
  rwa [List.length_cons, List.length_map, Std.ExtTreeMap.length_keys, Std.ExtTreeMap.length_keys] at le

/-! ### Running out -/

/-- The second graph shows nothing besides what the first one shows and some facts, and there is an
entity that they tell of and that it lacks. -/
structure Stalls (facts : List Fact) (g h : Graph) : Prop where
  shows : ∀ fact, h.Shows fact → g.Shows fact ∨ fact ∈ facts
  missing : ∃ label kind name attributes, .entity label kind name attributes ∈ facts ∧ ∀ x, ¬ h.Bears x label

namespace Stalls

theorem mono (stalls : Stalls facts g h) (sub : facts ⊆ facts') : Stalls facts' g h := by
  obtain ⟨label, kind, name, attributes, mem, missing⟩ := stalls.missing
  exact ⟨fun fact shown => (stalls.shows fact shown).imp_right fun mem => sub mem,
    label, kind, name, attributes, sub mem, missing⟩

theorem append (stalls : Stalls facts g h) : Stalls (facts ++ facts') g h :=
  stalls.mono (List.subset_append_left _ _)

end Stalls

theorem Tells.stalls (tells : Tells facts g g') (stalls : Stalls facts' g' h) : Stalls (facts ++ facts') g h := by
  obtain ⟨label, kind, name, attributes, mem, missing⟩ := stalls.missing
  refine ⟨fun fact shown => ?_, label, kind, name, attributes, List.mem_append_right _ mem, missing⟩
  rw [List.mem_append, ← or_assoc, ← tells.shows_iff]
  exact stalls.shows fact shown

/-- What could not be created is missing. -/
theorem Exhausted.stalls (out : Exhausted g e h) (identified : g.Identified) (lacks : g.Lacks key)
    (amounts : label.key? y = some key) (upper : ∀ parent, label.above? = some parent → g.Bears y parent) :
    Stalls (label.facts kind name attributes parents) g h := by
  obtain ⟨-, -, rfl⟩ := out
  refine ⟨fun _ => .inl, label, kind, name, _, Label.mem_facts.mpr (.inl rfl), fun x bears => ?_⟩
  exact lacks x (bears.hasKey identified amounts upper)

theorem Fails.stalls {found : Option EntityId} (fails : Fails g found e h) (identified : g.Identified)
    (answers : Answers (g.HasKey · key) found) (amounts : label.key? y = some key)
    (upper : ∀ parent, label.above? = some parent → g.Bears y parent) :
    Stalls (label.facts kind name attributes parents) g h := by
  obtain ⟨rfl, out⟩ := fails
  exact out.stalls identified answers amounts upper

/-! ### Stages -/

/-- Whatever could be resolved has been told by then; what could not is missing. -/
theorem resolveParticipant_stalls {info : ParticipantInfo} (readable : g.Readable)
    (domain : g.kind? d = some .domain) :
    (resolveParticipant d info).Ends g (fun _ _ => True) fun _ h => Stalls (info.facts d) g h := by
  have wf := readable.wellFormed
  have answers := findParticipant_answers wf info.guid
  rw [resolveParticipant, ends_bind, ends_get]
  cases found : g.findByGuid [.participant] info.guid with
  | some known => trivial
  | none =>
    rw [found] at answers
    rw [ends_bind]
    refine (resolveGlobal_ends .host (by decide)).imp ?_ fun e h fails =>
      (fails.stalls readable.identified (findHost_answers wf info.host) (y := d) rfl (by simp)).append.append.append
    intro host g₁ hosts
    obtain ⟨tells₁, readable₁, bears₁⟩ := reads_host readable hosts
    have wf₁ := readable₁.wellFormed
    have known₁ := bears₁.kind? fun _ => rfl
    rw [ends_bind]
    refine (resolveChild_ends ⟨.host, .user, .containment⟩ wf₁ (by decide) known₁ (by decide)).imp ?_ fun e h fails =>
      (tells₁.stalls (fails.stalls readable₁.identified (findUser_answers wf₁ known₁) rfl
        (by simpa using bears₁))).append.append
    intro user g₂ users
    obtain ⟨tells₂, readable₂, bears₂⟩ := reads_user readable₁ bears₁ users
    have wf₂ := readable₂.wellFormed
    have known₂ := bears₂.kind? fun _ => rfl
    rw [ends_bind]
    refine (resolveChild_ends ⟨.user, .process, .containment⟩ wf₂ (by decide) known₂ (by decide)).imp ?_
      fun e h fails => ((tells₁.trans tells₂).stalls (fails.stalls readable₂.identified
        (findProcess_answers wf₂ known₂) rfl (by simpa using bears₂))).append
    intro process g₃ processes
    obtain ⟨tells₃, readable₃, bears₃⟩ := reads_process readable₂ bears₂ processes
    have adds₃ := (hosts.adds wf).trans ((users.adds wf₁).trans (processes.adds wf₂))
    -- The participant was not there to begin with, and nothing of its ancestry has its key.
    have lacks₃ : g₃.Lacks (.participant info.guid) := adds₃.answers answers (by simp)
    exact introduce_bind_bind_ends ⟨.process, .participant, .containment⟩
      ⟨.domain, .participant, .domainMembership⟩ readable₃.wellFormed (by decide) (by decide) (by decide)
      (bears₃.kind? fun _ => rfl) (adds₃.kind? domain) (by decide)
      (fun e h out => ((tells₁.trans tells₂).trans tells₃).stalls
        (out.stalls readable₃.identified lacks₃ (y := d) rfl (by simp [ParticipantInfo.label])))
      fun _ _ _ => trivial

theorem resolveTopic_stalls {info : TopicInfo} (readable : g.Readable) (domain : g.kind? d = some .domain) :
    (resolveTopic d info).Ends g (fun _ _ => True) fun _ h => Stalls (info.facts d) g h := by
  refine (resolveTopic_ends readable.wellFormed domain).imp (fun _ _ _ => trivial) fun e h fails => ?_
  exact fails.stalls readable.identified (findTopic_answers readable.wellFormed) rfl
    (by simpa [TopicInfo.label] using .domain domain)

theorem createEndpoint_stalls {info : EndpointInfo} (readable : g.Readable) (domain : g.kind? d = some .domain)
    (isEndpoint : kind.isEndpoint) (lacks : g.Lacks (.endpoint info.guid))
    (known : ∀ id, g.HasKey id (.participant info.participant.guid) →
      ∀ fact ∈ info.participant.facts d, g.Shows fact) :
    (createEndpoint d kind info).Ends g (fun _ _ => True) fun _ h => Stalls (info.facts d kind) g h := by
  have wf := readable.wellFormed
  have rules : ⟨.participant, kind, .ownership⟩ ∈ edgeRules ∧ ⟨.topic, kind, .topicBinding⟩ ∈ edgeRules := by
    revert isEndpoint
    cases kind <;> decide
  have valid : kind ≠ .invalid := by
    revert isEndpoint
    cases kind <;> decide
  rw [createEndpoint, ends_bind]
  refine ((resolveParticipant_ends wf domain).and (resolveParticipant_stalls readable domain)).imp ?_
    fun e h out => out.2.append.append
  intro participant g₁ held
  obtain ⟨⟨participants, -⟩, -⟩ := held
  obtain ⟨tells₁, readable₁, bears₁⟩ := participants.tells readable domain known
  have wf₁ := readable₁.wellFormed
  have domain₁ := (participants.adds wf).kind? domain
  rw [ends_bind]
  refine ((resolveTopic_ends wf₁ domain₁).and (resolveTopic_stalls readable₁ domain₁)).imp ?_
    fun e h out => (tells₁.stalls out.2).append
  intro topic g₂ held
  obtain ⟨topics, -⟩ := held
  obtain ⟨tells₂, readable₂, bears₂⟩ := reads_topic readable₁ domain₁ topics
  have bears : g₂.Bears participant.id info.participant.label := (topics.adds wf₁).bears bears₁
  have lacks₂ : g₂.Lacks (.endpoint info.guid) :=
    topics.lacks wf₁ (participants.lacks wf lacks) fun _ fits => by cases fits.1
  exact introduce_bind_bind_ends ⟨.participant, kind, .ownership⟩ ⟨.topic, kind, .topicBinding⟩
    readable₂.wellFormed rules (by simp) (by simp) (bears.kind? fun _ => rfl) (bears₂.kind? fun _ => rfl) valid
    (fun e h out => (tells₁.trans tells₂).stalls
      (out.stalls readable₂.identified lacks₂ (y := d) rfl (by simp [EndpointInfo.label])))
    fun _ _ _ => trivial

theorem createAnnounced_stalls {announcement : Announcement} (readable : g.Readable)
    (domain : g.kind? d = some .domain)
    (lacks : ∀ guid, announcement.endpoint? = some guid → g.Lacks (.endpoint guid))
    (known : ∀ info, announcement.described? = some info → ∀ id, g.HasKey id (.participant info.guid) →
      ∀ fact ∈ info.facts d, g.Shows fact) :
    (createAnnounced d announcement).Ends g (fun _ _ => True) fun _ h => Stalls (announcement.subject d) g h := by
  cases announcement with
  | participant info => exact resolveParticipant_stalls readable domain
  | topic info => exact resolveTopic_stalls readable domain
  | reader info | writer info =>
    exact createEndpoint_stalls readable domain rfl (lacks info.guid rfl) (known info.participant rfl)

theorem resolveLocators_stalls {addresses : List String} (readable : g.Readable) :
    (resolveLocators addresses).Ends g (fun _ _ => True) fun _ h => Stalls (label.locatorFacts addresses) g h := by
  induction addresses generalizing g with
  | nil => trivial
  | cons address addresses ih =>
    have answers := findLocator_answers readable.wellFormed address
    rw [Label.locatorFacts, List.flatMap_cons, ← Label.locatorFacts, resolveLocators, ends_bind]
    refine (resolveGlobal_ends .locator (by decide)).imp ?_ fun e h fails =>
      (fails.stalls readable.identified answers (y := .all) rfl (by simp)).append
    intro first g₁ firsts
    obtain ⟨tells₁, readable₁, -⟩ := reads_locator readable firsts
    rw [ends_bind]
    refine (ih readable₁).imp (fun _ _ _ => trivial) fun e h stalls => (tells₁.stalls stalls).mono ?_
    -- The binding of the locator is told as well, but not shown by then.
    simp [Label.facts]

theorem refreshBindings_stalls {announcement : Announcement} (readable : g.Readable)
    (known : g.kind? x = some announcement.kind) :
    (refreshBindings x announcement).Ends g (fun _ _ => True)
      fun _ h => Stalls (label.locatorFacts announcement.addresses) g h := by
  have wf := readable.wellFormed
  cases announcement with
  | participant | topic => trivial
  | reader info | writer info =>
    simp only [refreshBindings, rebindLocators]
    rw [ends_bind]
    refine ((resolveLocators_ends (e := x) wf).and (resolveLocators_stalls readable)).imp ?_ fun e h out => out.2
    intro wanted h held
    exact (rewire_ends wf rfl known held.1).imp (fun _ _ _ => trivial) fun _ _ => False.elim

/-- A notification of something that is not there yet is carried out, or stalls. -/
theorem ingestPresent_stalls {n : Notification} (readable : g.Readable) (domain : g.kind? n.domain = some .domain)
    (valid : g.validate n.domain n.entity = .ok none)
    (known : ∀ info, n.entity.described? = some info → ∀ id, g.HasKey id (.participant info.guid) →
      ∀ fact ∈ info.facts n.domain, g.Shows fact) :
    (ingestPresent n none).Ends g (fun _ _ => True) fun _ h => Stalls (n.entity.facts n.domain) g h := by
  have wf := readable.wellFormed
  rw [ingestPresent_eq, ends_bind, ends_liftStorage]
  refine ((announce_ends wf domain valid).and (createAnnounced_stalls readable domain
    (lacks_of_validate wf valid) known)).imp ?_ fun e h out => out.2.append
  intro announced g₁ held
  obtain ⟨⟨creates, run₁, known₁, -⟩, -⟩ := held
  obtain ⟨tells₁, -⟩ := Creates.tells creates readable domain known
  have readable₁ : g₁.Readable := ⟨run₁.wellFormed wf, run₁.identified wf readable.identified,
    tells₁.apt readable.apt n.entity.subject_apt⟩
  rw [ends_bind, ends_liftStorage]
  refine ((refreshBindings_ends readable₁.wellFormed known₁).and (refreshBindings_stalls readable₁ known₁)).imp ?_
    fun e h out => tells₁.stalls out.2
  intro touched g₂ held
  obtain ⟨rebound, -⟩ := held
  exact (settle_ends (rebound.run.wellFormed readable₁.wellFormed)
    (rebound.run.kind?_of_rebinds readable₁.wellFormed known₁) rebound.locators).imp (fun _ _ _ => trivial)
    fun _ _ => False.elim

end Graph
end DiscoveryGraph
