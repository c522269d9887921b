import DiscoveryGraph.Proofs.Discovery.Ingestion

/-! Discovery on graphs that differ in flags alone. Checks and lookups read no flag, so on two such graphs
a notification is carried out in step as far as its locators, and what comes after that cannot fail. It is
accepted on both or refused on both for one and the same reason. -/
namespace DiscoveryGraph

namespace Update
variable {ε α β : Type} {u v : Update ε α} {g h : Graph} {ok mid : α → Graph → α → Graph → Prop}

/-- Run on two graphs, the updates succeed both, as `ok` says, or fail both with the same error. -/
def Abreast (u v : Update ε α) (g h : Graph) (ok : α → Graph → α → Graph → Prop) : Prop :=
  match u g, v h with
  | .ok a g', .ok b h' => ok a g' b h'
  | .error e _, .error e' _ => e = e'
  | _, _ => False

theorem Abreast.bind {f f' : α → Update ε β} {ok : β → Graph → β → Graph → Prop} (abreast : Abreast u v g h mid)
    (rest : ∀ a g' b h', mid a g' b h' → Abreast (f a) (f' b) g' h' ok) :
    Abreast (u >>= f) (v >>= f') g h ok := by
  unfold Abreast at abreast
  simp only [Abreast, Bind.bind, EStateM.bind]
  cases runu : u g <;> cases runv : v h <;> simp_all [Abreast]

theorem abreast_get {f f' : Graph → Update ε β} {ok : β → Graph → β → Graph → Prop} :
    Abreast (get >>= f) (get >>= f') g h ok ↔ Abreast (f g) (f' h) g h ok := Iff.rfl

theorem abreast_liftStorage {u v : Update StorageError α} :
    Abreast (liftM u : Update GraphError α) (liftM v) g h ok ↔ Abreast u v g h ok := by
  simp only [Abreast, liftM, monadLift, MonadLift.monadLift, EStateM.adaptExcept]
  cases u g <;> cases v h <;> simp

/-- A check that agrees lets both pass, with the same result, or refuses both. -/
theorem abreast_check {f : Graph → Except ValidationError α} {k : α → Update GraphError β}
    {ok : β → Graph → β → Graph → Prop} (same : f h = f g)
    (rest : ∀ a, f g = .ok a → Abreast (k a) (k a) g h ok) :
    Abreast ((liftM (read f) : Update GraphError α) >>= k) (liftM (read f) >>= k) g h ok := by
  simp only [Abreast, Bind.bind, EStateM.bind, liftM, monadLift, MonadLift.monadLift, EStateM.adaptExcept, read, same]
  cases run : f g with
  | ok a => exact rest a run
  | error e => rfl

/-- Updates that cannot fail succeed both. -/
theorem Abreast.of_ends {oku okv : α → Graph → Prop} (endsu : u.Ends g oku fun _ _ => False)
    (endsv : v.Ends h okv fun _ _ => False) : Abreast u v g h fun _ _ _ _ => True := by
  obtain ⟨a, g', runu, -⟩ := endsu.exists_ok
  obtain ⟨b, h', runv, -⟩ := endsv.exists_ok
  simp only [Abreast, runu, runv]

/-- What is known of each run by itself. -/
theorem Abreast.and_ends {oku okv : α → Graph → Prop} {badu badv : ε → Graph → Prop}
    (abreast : Abreast u v g h ok) (endsu : u.Ends g oku badu) (endsv : v.Ends h okv badv) :
    Abreast u v g h fun a g' b h' => ok a g' b h' ∧ oku a g' ∧ okv b h' := by
  unfold Abreast Ends at *
  cases runu : u g <;> cases runv : v h <;> simp_all

/-- Run on graphs that differ in flags alone, the update ends in the same way and leaves such graphs behind. -/
def Blind (u : Update ε α) : Prop :=
  ∀ g h, g.UpToFlags h → Abreast u u g h fun a g' b h' => a = b ∧ g'.UpToFlags h'

theorem blind_pure (a : α) : Blind (pure a : Update ε α) := fun _ _ upTo => ⟨rfl, upTo⟩

theorem blind_throw (e : ε) : Blind (throw e : Update ε α) := fun _ _ _ => rfl

theorem Blind.bind {f : α → Update ε β} (blind : Blind u) (rest : ∀ a, Blind (f a)) : Blind (u >>= f) := by
  intro g h upTo
  refine (blind g h upTo).bind ?_
  intro a g' b h' held
  obtain ⟨rfl, upTo'⟩ := held
  exact rest a g' h' upTo'

theorem Blind.get {f : Graph → Update ε β} (same : ∀ {g h}, g.UpToFlags h → f h = f g) (rest : ∀ g, Blind (f g)) :
    Blind (get >>= f) := by
  intro g h upTo
  rw [abreast_get, same upTo]
  exact rest g g h upTo

theorem blind_read {f : Graph → Except ε α} (same : ∀ {g h}, g.UpToFlags h → f h = f g) : Blind (read f) := by
  intro g h upTo
  simp only [Abreast, read, same upTo]
  cases f g with
  | ok a => exact ⟨rfl, upTo⟩
  | error e => rfl

theorem blind_modify {f : Graph → Graph} (keeps : ∀ {g h}, g.UpToFlags h → (f g).UpToFlags (f h)) :
    Blind (modify f : Update ε PUnit) := fun _ _ upTo => ⟨rfl, keeps upTo⟩

theorem Blind.discard (blind : Blind u) : Blind (discard u) := by
  intro g h upTo
  have abreast := blind g h upTo
  unfold Abreast at abreast ⊢
  simp only [Functor.discard, Functor.mapConst, EStateM.map, Function.comp_apply]
  cases runu : u g <;> cases runv : u h <;> simp_all

theorem blind_forM {f : β → Update ε PUnit} (blind : ∀ b, Blind (f b)) (bs : List β) : Blind (bs.forM f) := by
  induction bs with
  | nil => exact blind_pure _
  | cons b bs ih => exact (blind b).bind fun _ => ih

end Update

namespace Graph
open Update
variable {g h : Graph} {d x y a b : EntityId} {kind k : EntityKind} {name : String}

/-! ### Reads -/

namespace UpToFlags

theorem entity?_cases (upTo : g.UpToFlags h) (x : EntityId) :
    g.entity? x = none ∧ h.entity? x = none ∨
      ∃ entity active, g.entity? x = some entity ∧ h.entity? x = some { entity with active } := by
  have profile := upTo.profile x
  unfold profile? at profile
  revert profile
  rcases g.entity? x with _ | ⟨_, _, _, _, _⟩ <;> rcases h.entity? x with _ | ⟨_, _, _, _, _⟩ <;>
    simp_all

theorem neighbors (upTo : g.UpToFlags h) : h.neighbors x k = g.neighbors x k := upTo.alike.neighbors

theorem parent? (upTo : g.UpToFlags h) : h.parent? x k = g.parent? x k := by
  rw [Graph.parent?, upTo.neighbors, Graph.parent?]

theorem nameOf? (upTo : g.UpToFlags h) : h.nameOf? x = g.nameOf? x := by
  unfold Graph.nameOf?
  obtain ⟨missing, missing'⟩ | ⟨entity, active, found, found'⟩ := upTo.entity?_cases x
  · rw [missing, missing']
  · rw [found, found']
    rfl

theorem named (upTo : g.UpToFlags h) : h.named kind name = g.named kind name := by
  rw [upTo.rest]
  rfl

theorem withGuid (upTo : g.UpToFlags h) {guid : Guid} : h.withGuid guid = g.withGuid guid := by
  rw [upTo.rest]
  rfl

theorem findGlobal (upTo : g.UpToFlags h) : h.findGlobal kind name = g.findGlobal kind name := by
  rw [Graph.findGlobal, upTo.named, Graph.findGlobal]

theorem findChild (upTo : g.UpToFlags h) : h.findChild x kind name = g.findChild x kind name := by
  simp only [Graph.findChild, upTo.neighbors, upTo.nameOf?]

theorem findByGuid (upTo : g.UpToFlags h) {kinds : List EntityKind} {guid : Guid} :
    h.findByGuid kinds guid = g.findByGuid kinds guid := by
  unfold Graph.findByGuid
  rw [upTo.withGuid]
  refine congrArg (fun f => List.findSome? f _) (funext fun x => ?_)
  obtain ⟨missing, missing'⟩ | ⟨entity, active, found, found'⟩ := upTo.entity?_cases x
  · rw [missing, missing']
  · rw [found, found']

theorem findTopic (upTo : g.UpToFlags h) {info : TopicInfo} : h.findTopic d info = g.findTopic d info := by
  unfold Graph.findTopic
  rw [upTo.named]
  refine congrArg (fun f => List.find? f _) (funext fun x => ?_)
  rw [upTo.neighbors]
  obtain ⟨missing, missing'⟩ | ⟨entity, active, found, found'⟩ := upTo.entity?_cases x
  · rw [missing, missing']
  · rw [found, found']
    rfl

theorem context (upTo : g.UpToFlags h) : h.context x = g.context x := by
  have names : h.nameOf? = g.nameOf? := funext fun _ => upTo.nameOf?
  simp only [Graph.context, upTo.parent?, names]

theorem checkDomain (upTo : g.UpToFlags h) : h.checkDomain d = g.checkDomain d := by
  unfold Graph.checkDomain
  obtain ⟨missing, missing'⟩ | ⟨entity, active, found, found'⟩ := upTo.entity?_cases d
  · rw [missing, missing']
  · rw [found, found']

theorem validateParticipant (upTo : g.UpToFlags h) {info : ParticipantInfo} :
    h.validateParticipant d info = g.validateParticipant d info := by
  simp only [Graph.validateParticipant, upTo.findByGuid, upTo.parent?, upTo.context]

theorem validateEndpoint (upTo : g.UpToFlags h) {info : EndpointInfo} :
    h.validateEndpoint d kind info = g.validateEndpoint d kind info := by
  simp only [Graph.validateEndpoint, upTo.validateParticipant, upTo.findByGuid, upTo.parent?, upTo.findTopic]

/-- A notification passes the same checks, and the same entity is found. -/
theorem validate (upTo : g.UpToFlags h) {announcement : Announcement} :
    h.validate d announcement = g.validate d announcement := by
  cases announcement <;>
    simp only [Graph.validate, upTo.validateParticipant, upTo.validateEndpoint, upTo.findTopic]

theorem kindOf (upTo : g.UpToFlags h) : h.kindOf x = g.kindOf x := by
  unfold Graph.kindOf lookup
  obtain ⟨missing, missing'⟩ | ⟨entity, active, found, found'⟩ := upTo.entity?_cases x
  · rw [missing, missing']
  · rw [found, found']
    rfl

theorem edgeBetween (upTo : g.UpToFlags h) : h.edgeBetween a b = g.edgeBetween a b := by
  simp only [Graph.edgeBetween, upTo.kindOf]

theorem wellFormed (upTo : g.UpToFlags h) (wf : g.WellFormed) : h.WellFormed := by
  refine wf.of_profiles upTo.profile (by rw [upTo.rest]) (by rw [upTo.rest]) (by rw [upTo.rest])
    (by rw [upTo.rest]) ?_ ?_
  · intro x k y mem
    rw [upTo.neighbors] at mem
    simpa only [upTo.neighbors] using wf.twoSided mem
  · intro x kind k y z known parent memy memz
    rw [upTo.neighbors] at memy memz
    exact wf.single known parent memy memz

/-! ### Changes -/

theorem add (upTo : g.UpToFlags h) (entity : Entity) : (g.add entity).UpToFlags (h.add entity) := by
  constructor
  · intro x
    have profile := upTo.profile x
    unfold profile? at profile ⊢
    rw [entity?_add, entity?_add]
    split
    · rfl
    · exact profile
  · rw [upTo.rest]
    rfl

theorem link (upTo : g.UpToFlags h) (edge : Edge) : (g.link edge).UpToFlags (h.link edge) := by
  refine ⟨upTo.profile, ?_⟩
  rw [upTo.rest]
  rfl

theorem detach (upTo : g.UpToFlags h) : (g.detach x y k).UpToFlags (h.detach x y k) := by
  refine ⟨upTo.profile, ?_⟩
  rw [upTo.rest]
  rfl

end UpToFlags

theorem blind_create {attributes : Attributes} : Blind (create kind name attributes) := by
  unfold create
  split
  · exact blind_throw _
  · refine Blind.get (fun upTo => by rw [upTo.rest]) fun g => ?_
    cases g.lastId.next? with
    | none => exact blind_throw _
    | some id => exact (blind_modify fun upTo => upTo.add _).bind fun _ => blind_pure _

theorem blind_bind : Blind (bind a b) := by
  refine (blind_read UpToFlags.edgeBetween).bind fun edge => ?_
  intro g h upTo
  have holder : h.holder? edge.rule edge.child = g.holder? edge.rule edge.child := by
    rw [holder?, upTo.parent?, holder?]
  rw [abreast_get, upTo.neighbors, holder]
  split
  · exact ⟨rfl, upTo⟩
  · cases g.holder? edge.rule edge.child with
    | none => exact ⟨rfl, upTo.link edge⟩
    | some existing => rfl

theorem blind_unbind : Blind (unbind a b) := by
  refine (blind_read UpToFlags.kindOf).bind fun first => (blind_read UpToFlags.kindOf).bind fun second => ?_
  cases edgeRule? first second with
  | none => exact blind_throw _
  | some one =>
    obtain ⟨rule, parental⟩ := one
    simp only
    split
    · intro g h upTo
      exact ⟨by rw [upTo.neighbors], upTo.detach.detach⟩
    · exact blind_throw _

theorem blind_introduce {attributes : Attributes} : Blind (introduce kind name attributes) :=
  blind_create.bind fun _ => blind_pure _

theorem blind_resolveGlobal : Blind (resolveGlobal kind name) := by
  refine Blind.get (fun upTo => by rw [upTo.findGlobal]) fun g => ?_
  cases g.findGlobal kind name with
  | none => exact blind_introduce
  | some id => exact blind_pure _

theorem blind_resolveChild {attributes : Attributes} : Blind (resolveChild x kind name attributes) := by
  refine Blind.get (fun upTo => by rw [upTo.findChild]) fun g => ?_
  cases g.findChild x kind name with
  | none => exact blind_introduce.bind fun _ => blind_bind.bind fun _ => blind_pure _
  | some id => exact blind_pure _

theorem blind_resolveParticipant {info : ParticipantInfo} : Blind (resolveParticipant d info) := by
  refine Blind.get (fun upTo => by rw [upTo.findByGuid]) fun g => ?_
  cases g.findByGuid [.participant] info.guid with
  | none =>
    exact blind_resolveGlobal.bind fun _ => blind_resolveChild.bind fun _ => blind_resolveChild.bind fun _ =>
      blind_introduce.bind fun _ => blind_bind.bind fun _ => blind_bind.bind fun _ => blind_pure _
  | some known => exact blind_pure _

theorem blind_resolveTopic {info : TopicInfo} : Blind (resolveTopic d info) := by
  refine Blind.get (fun upTo => by rw [upTo.findTopic]) fun g => ?_
  cases g.findTopic d info with
  | none => exact blind_introduce.bind fun _ => blind_bind.bind fun _ => blind_pure _
  | some id => exact blind_pure _

theorem blind_createEndpoint {info : EndpointInfo} : Blind (createEndpoint d kind info) :=
  blind_resolveParticipant.bind fun _ => blind_resolveTopic.bind fun _ => blind_introduce.bind fun _ =>
    blind_bind.bind fun _ => blind_bind.bind fun _ => blind_pure _

theorem blind_createAnnounced {announcement : Announcement} : Blind (createAnnounced d announcement) := by
  cases announcement with
  | participant info => exact blind_resolveParticipant
  | topic info => exact blind_resolveTopic
  | reader info | writer info => exact blind_createEndpoint

theorem blind_resolveLocators {addresses : List String} : Blind (resolveLocators addresses) := by
  induction addresses with
  | nil => exact blind_pure _
  | cons address addresses ih => exact blind_resolveGlobal.bind fun _ => ih.bind fun _ => blind_pure _

theorem blind_rebindLocators {addresses : List String} : Blind (rebindLocators x addresses) := by
  refine blind_resolveLocators.bind fun wanted => Blind.get (fun upTo => by rw [upTo.neighbors]) fun g => ?_
  exact (blind_forM (fun _ => blind_unbind.discard) _).bind fun _ =>
    (blind_forM (fun _ => blind_bind.discard) _).bind fun _ => blind_pure _

theorem blind_refreshBindings {announcement : Announcement} : Blind (refreshBindings x announcement) := by
  cases announcement with
  | participant info | topic info => exact blind_pure _
  | reader info | writer info => exact blind_rebindLocators

theorem blind_announce {n : Notification} {existing : Option EntityId} : Blind (announce n existing) := by
  cases existing with
  | none => exact blind_createAnnounced
  | some id => exact blind_pure _

/-! ### Notifications -/

theorem ingestPresent_abreast {n : Notification} {existing : Option EntityId} (upTo : g.UpToFlags h)
    (wf : g.WellFormed) (domain : g.kind? n.domain = some .domain)
    (valid : g.validate n.domain n.entity = .ok existing) :
    Abreast (ingestPresent n existing) (ingestPresent n existing) g h fun _ _ _ _ => True := by
  have wf' := upTo.wellFormed wf
  have domain' : h.kind? n.domain = some .domain := by rw [upTo.alike.kind?, domain]
  have valid' : h.validate n.domain n.entity = .ok existing := by rw [upTo.validate, valid]
  rw [ingestPresent_eq]
  refine Abreast.bind (abreast_liftStorage.mpr ((blind_announce g h upTo).and_ends
    (announce_ends wf domain valid) (announce_ends wf' domain' valid'))) ?_
  intro announced g₁ announced' h₁ held
  obtain ⟨⟨rfl, upTo₁⟩, ⟨-, run, known, -⟩, -, run', known', -⟩ := held
  have wf₁ := run.wellFormed wf
  have wf₁' := run'.wellFormed wf'
  refine Abreast.bind (abreast_liftStorage.mpr ((blind_refreshBindings g₁ h₁ upTo₁).and_ends
    (refreshBindings_ends wf₁ known) (refreshBindings_ends wf₁' known'))) ?_
  intro touched g₂ touched' h₂ held
  obtain ⟨⟨rfl, -⟩, rebound, rebound'⟩ := held
  exact .of_ends
    (settle_ends (rebound.run.wellFormed wf₁) (rebound.run.kind?_of_rebinds wf₁ known) rebound.locators)
    (settle_ends (rebound'.run.wellFormed wf₁') (rebound'.run.kind?_of_rebinds wf₁' known') rebound'.locators)

/-- Whether a notification is accepted, and what it is refused for, does not depend on flags. -/
theorem ingest_abreast {n : Notification} (upTo : g.UpToFlags h) (wf : g.WellFormed) :
    Abreast (ingest n) (ingest n) g h fun _ _ _ _ => True := by
  refine abreast_check upTo.checkDomain fun _ pass => abreast_check upTo.validate fun existing valid => ?_
  have domain := checkDomain_checks.of_ok pass
  split
  · cases existing with
    | none => rfl
    | some id =>
      have known := (((validate_checks wf).of_ok valid).2 id rfl).1
      have known' := known
      rw [← upTo.alike.kind?] at known'
      exact .of_ends (apply_disappeared_ends wf known n.entity.kind_ne.2)
        (apply_disappeared_ends (upTo.wellFormed wf) known' n.entity.kind_ne.2)
  · exact ingestPresent_abreast upTo wf domain valid

end Graph
end DiscoveryGraph
