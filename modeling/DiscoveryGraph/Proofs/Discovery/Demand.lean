import DiscoveryGraph.Lifecycle.Clear
import DiscoveryGraph.Proofs.Discovery.Ingestion

/-! How many identifiers an update hands out at most, however it ends. Updates that set flags, bind,
release or remove hand out none, and a notification at most one for each entity that it names. -/
namespace DiscoveryGraph

namespace Update
variable {ε α β : Type} {u : Update ε α} {g : Graph} {m n : Nat}

/-- The last identifier of `g'` is at most `n` after that of `g`. -/
def Within (n : Nat) (g g' : Graph) : Prop := g'.lastId.value.toNat ≤ g.lastId.value.toNat + n

/-- However the update ends, it has handed out at most `n` identifiers by then. -/
def Allots (u : Update ε α) (n : Nat) : Prop :=
  ∀ g, u.Ends g (fun _ => Within n g) fun _ => Within n g

theorem Within.refl : Within n g g := Nat.le_add_right _ _

theorem Within.trans {g' g'' : Graph} (first : Within m g g') (rest : Within n g' g'') :
    Within (m + n) g g'' := by
  unfold Within at first rest ⊢
  omega

theorem Allots.of_ok {a : α} {g' : Graph} (allots : u.Allots n) (run : u g = .ok a g') :
    Within n g g' := by
  simpa only [Ends, run] using allots g

theorem Allots.of_error {e : ε} {g' : Graph} (allots : u.Allots n) (run : u g = .error e g') :
    Within n g g' :=
  (allots g).of_error run

theorem Allots.mono (allots : u.Allots m) (le : m ≤ n) : u.Allots n := by
  have wider : ∀ {g g' : Graph}, Within m g g' → Within n g g' :=
    fun near => Nat.le_trans near (Nat.add_le_add_left le _)
  exact fun g => (allots g).imp (fun _ _ => wider) fun _ _ => wider

theorem allots_pure (a : α) : (pure a : Update ε α).Allots 0 := fun _ => .refl

theorem allots_throw (e : ε) : (throw e : Update ε α).Allots 0 := fun _ => .refl

theorem allots_get : (get : Update ε Graph).Allots 0 := fun _ => .refl

theorem allots_read (f : Graph → Except ε α) : (read f).Allots 0 := by
  intro g
  rw [ends_read]
  exact ⟨fun _ _ => .refl, fun _ _ => .refl⟩

theorem Allots.bind {f : α → Update ε β} (first : u.Allots m) (rest : ∀ a, (f a).Allots n) :
    (u >>= f).Allots (m + n) :=
  Leads.bind first rest Within.trans fun near => near.trans .refl

/-- What comes after an update that hands out nothing. -/
theorem Allots.andThen {f : α → Update ε β} (first : u.Allots 0) (rest : ∀ a, (f a).Allots n) :
    (u >>= f).Allots n := by
  simpa only [Nat.zero_add] using first.bind rest

/-- What comes before updates that hand out nothing. -/
theorem Allots.followedBy {f : α → Update ε β} (first : u.Allots n) (rest : ∀ a, (f a).Allots 0) :
    (u >>= f).Allots n := first.bind rest

theorem Allots.discard (allots : u.Allots n) : (discard u : Update ε PUnit).Allots n := Leads.discard allots

theorem Allots.liftStorage {u : Update StorageError α} (allots : u.Allots n) :
    (liftM u : Update GraphError α).Allots n := Leads.liftStorage allots

theorem Allots.liftValidation {u : Update ValidationError α} (allots : u.Allots n) :
    (liftM u : Update GraphError α).Allots n := Leads.liftValidation allots

theorem allots_gather {f : α → Update ε (List β)} {as : List α} (each : ∀ a, (f a).Allots 0) :
    (gather f as).Allots 0 := by
  induction as with
  | nil => exact allots_pure _
  | cons a as ih => exact (each a).andThen fun _ => ih.andThen fun _ => allots_pure _

theorem allots_forM {f : α → Update ε PUnit} {as : List α} (each : ∀ a, (f a).Allots 0) :
    (as.forM f).Allots 0 := leads_forM (fun _ => .refl) Within.trans each

end Update

namespace Graph
open Update
variable {d x y : EntityId} {kind : EntityKind} {name : String} {attributes : Attributes}

/-! ### What creates nothing -/

theorem setActive_allots {active : Bool} : (setActive x active).Allots 0 := by
  intro g
  refine setActive_ends.imp (fun changed g' held => ?_) fun e g' fails => ?_
  · obtain ⟨_, -, -, rfl⟩ := held
    split <;> exact .refl
  · rw [fails.2.2]
    exact .refl

theorem bind_allots : (Graph.bind x y).Allots 0 := by
  intro g
  rw [bind, ends_bind, ends_read]
  refine ⟨fun edge _ => ?_, fun _ _ => .refl⟩
  rw [ends_bind, ends_get]
  split
  · exact .refl
  · split <;> exact .refl

theorem unbind_allots : (unbind x y).Allots 0 := by
  intro g
  refine unbind_ends_of (fun edge _ _ _ => ?_) fun _ _ => .refl
  split <;> exact .refl

theorem remove_allots : (remove x).Allots 0 := by
  intro g
  refine remove_ends.imp (fun entity g' held => ?_) fun e g' fails => ?_
  · rw [held.2]
    exact .refl
  · rw [fails.2.2]
    exact .refl

theorem flag_allots {active : Bool} : (flag x active).Allots 0 := by
  refine setActive_allots.andThen fun changed => ?_
  split
  · exact (allots_read _).andThen fun _ => allots_pure _
  · exact allots_pure _

theorem visits_allots {n : Nat} {run : Activation} : (Activation.visits n run).Allots 0 := by
  induction n generalizing run with
  | zero => exact allots_pure _
  | succ n ih =>
    rw [Activation.visits]
    split
    · exact allots_pure _
    · refine Allots.andThen ?_ fun _ => ih
      unfold Activation.visit
      split
      · exact allots_pure _
      · refine (allots_read _).andThen fun entity => ?_
        dsimp only
        split
        · exact allots_pure _
        · exact flag_allots.andThen fun _ => (allots_read _).andThen fun _ => allots_pure _

theorem activate_allots : (activate x).Allots 0 :=
  allots_get.andThen fun _ => visits_allots.andThen fun _ => allots_pure _

theorem refreshDependents_allots {deactivate : EntityId → Update StorageError (List StateChange)}
    (each : ∀ id, (deactivate id).Allots 0) : (refreshDependents deactivate x kind).Allots 0 := by
  refine allots_gather fun parentKind => allots_get.andThen fun g => allots_gather fun parent => ?_
  refine (allots_read _).andThen fun active => ?_
  split
  · refine (allots_read _).andThen fun child => ?_
    split
    · exact allots_pure _
    · exact each parent
  · exact allots_pure _

theorem deactivateWithin_allots {n : Nat} : (deactivateWithin n x).Allots 0 := by
  induction n generalizing x with
  | zero => exact allots_pure _
  | succ n ih =>
    refine (allots_read _).andThen fun entity => flag_allots.andThen fun changed => ?_
    split
    · exact allots_pure _
    · refine allots_get.andThen fun g => (allots_gather fun _ => ih).andThen fun _ => ?_
      exact (refreshDependents_allots fun _ => ih).andThen fun _ => allots_pure _

theorem apply_allots {transition : Transition} : (apply transition).Allots 0 := by
  cases transition with
  | appeared id =>
    exact (allots_read _).liftStorage.andThen fun _ => activate_allots.liftStorage
  | disappeared id =>
    exact (allots_read _).liftStorage.andThen fun _ => deactivateWithin_allots.liftStorage
  | domainStopped domain =>
    refine (allots_read _).liftStorage.andThen fun _ => (allots_read _).liftValidation.andThen fun _ => ?_
    refine (allots_read _).liftValidation.andThen fun _ => ?_
    refine (allots_gather fun _ => flag_allots.liftStorage).andThen fun _ => ?_
    refine (allots_gather fun _ => Allots.liftStorage ?_).andThen fun _ => allots_pure _
    exact refreshDependents_allots fun _ => deactivateWithin_allots

theorem rederiveLocators_allots {locators : IdSet} : (rederiveLocators locators).Allots 0 :=
  allots_gather fun _ => (allots_read _).andThen fun _ => flag_allots

theorem clearDomain_allots : (clearDomain d).Allots 0 := by
  refine (allots_read _).liftStorage.andThen fun _ => (allots_read _).liftValidation.andThen fun _ => ?_
  exact allots_gather fun _ => remove_allots.liftStorage.andThen fun _ => allots_pure _

/-! ### What creates -/

theorem create_allots : (create kind name attributes).Allots 1 := by
  intro g
  refine (create_ends g kind name attributes).imp (fun id g' held => ?_) fun e g' fails => ?_
  · obtain ⟨-, next, rfl⟩ := held
    exact Nat.le_of_eq (EntityId.value_next next)
  · rw [fails.1]
    exact .refl

theorem introduce_allots : (introduce kind name attributes).Allots 1 :=
  create_allots.followedBy fun _ => allots_pure _

theorem resolveGlobal_allots : (resolveGlobal kind name).Allots 1 := by
  refine allots_get.andThen fun g => ?_
  split
  · exact (allots_pure _).mono (Nat.zero_le _)
  · exact introduce_allots

theorem resolveChild_allots : (resolveChild x kind name attributes).Allots 1 := by
  refine allots_get.andThen fun g => ?_
  split
  · exact (allots_pure _).mono (Nat.zero_le _)
  · exact introduce_allots.followedBy fun _ => bind_allots.andThen fun _ => allots_pure _

/-- A host, a user, a process and the participant. -/
theorem resolveParticipant_allots {info : ParticipantInfo} : (resolveParticipant d info).Allots 4 := by
  refine allots_get.andThen fun g => ?_
  split
  · exact (allots_pure _).mono (Nat.zero_le _)
  · refine Allots.bind (n := 3) resolveGlobal_allots fun _ => ?_
    refine Allots.bind (n := 2) resolveChild_allots fun _ => ?_
    refine Allots.bind (n := 1) resolveChild_allots fun _ => introduce_allots.followedBy fun _ => ?_
    exact bind_allots.andThen fun _ => bind_allots.andThen fun _ => allots_pure _

theorem resolveTopic_allots {info : TopicInfo} : (resolveTopic d info).Allots 1 := by
  refine allots_get.andThen fun g => ?_
  split
  · exact (allots_pure _).mono (Nat.zero_le _)
  · exact introduce_allots.followedBy fun _ => bind_allots.andThen fun _ => allots_pure _

/-- What the participant takes, a topic and the endpoint. -/
theorem createEndpoint_allots {info : EndpointInfo} : (createEndpoint d kind info).Allots 6 := by
  refine Allots.bind (n := 2) resolveParticipant_allots fun _ => ?_
  refine Allots.bind (n := 1) resolveTopic_allots fun _ => introduce_allots.followedBy fun _ => ?_
  exact bind_allots.andThen fun _ => bind_allots.andThen fun _ => allots_pure _

theorem resolveLocators_allots {addresses : List String} :
    (resolveLocators addresses).Allots addresses.length := by
  induction addresses with
  | nil => exact allots_pure _
  | cons address addresses ih =>
    rw [List.length_cons, Nat.add_comm]
    exact resolveGlobal_allots.bind fun _ => ih.followedBy fun _ => allots_pure _

theorem rebindLocators_allots {addresses : List String} :
    (rebindLocators x addresses).Allots addresses.length := by
  refine resolveLocators_allots.followedBy fun wanted => allots_get.andThen fun g => ?_
  refine (allots_forM fun _ => unbind_allots.discard).andThen fun _ => ?_
  exact (allots_forM fun _ => bind_allots.discard).andThen fun _ => allots_pure _

end Graph

namespace Announcement

/-- The entities that an announced one cannot do without, itself included. -/
def companions : Announcement → Nat
  | participant _ => 4
  | topic _ => 1
  | reader _ | writer _ => 6

/-- The most identifiers that an announcement takes. -/
def demand (entity : Announcement) : Nat := entity.companions + entity.addresses.length

end Announcement

namespace Graph
open Update
variable {d x : EntityId}

theorem createAnnounced_allots {entity : Announcement} :
    (createAnnounced d entity).Allots entity.companions := by
  cases entity with
  | participant info => exact resolveParticipant_allots
  | topic info => exact resolveTopic_allots
  | reader info | writer info => exact createEndpoint_allots

theorem refreshBindings_allots {entity : Announcement} :
    (refreshBindings x entity).Allots entity.addresses.length := by
  cases entity with
  | participant | topic => exact allots_pure _
  | reader info | writer info => exact rebindLocators_allots

theorem announce_allots {n : Notification} {existing : Option EntityId} :
    (announce n existing).Allots n.entity.companions := by
  cases existing with
  | none => exact createAnnounced_allots
  | some id => exact (allots_pure _).mono (Nat.zero_le _)

theorem appear_allots {n : Notification} {existing : Option EntityId} :
    (appear n existing x).Allots 0 := by
  unfold appear
  split
  · exact apply_allots
  · exact allots_pure _

theorem ingestPresent_allots {n : Notification} {existing : Option EntityId} :
    (ingestPresent n existing).Allots n.entity.demand := by
  rw [ingestPresent_eq]
  refine announce_allots.liftStorage.bind fun announced => ?_
  refine refreshBindings_allots.liftStorage.followedBy fun touched => ?_
  refine appear_allots.andThen fun appeared => ?_
  exact rederiveLocators_allots.liftStorage.andThen fun _ => allots_pure _

/-- A notification takes an identifier at most for each entity that it names. -/
theorem ingest_allots {n : Notification} : (ingest n).Allots n.entity.demand := by
  refine (allots_read _).liftValidation.andThen fun _ => ?_
  refine (allots_read _).liftValidation.andThen fun existing => ?_
  split
  · refine Allots.mono (m := 0) ?_ (Nat.zero_le _)
    cases existing with
    | none => exact allots_throw _
    | some id =>
      show (apply (.disappeared id)).Allots 0
      exact apply_allots
  · exact ingestPresent_allots

end Graph
end DiscoveryGraph
