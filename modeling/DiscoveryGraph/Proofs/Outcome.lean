import DiscoveryGraph.Graph.Update

/-! What an update leads to from one graph: one condition on a result and one on an error.
Each way of building an update has a rule, so an operation is followed step by step and its
callers only see what its own rule says. -/
namespace DiscoveryGraph.Update
variable {ε α β : Type}

/-- Run on `g`, the update ends as `ok` says if it succeeds and as `bad` says if it fails. -/
def Ends (u : Update ε α) (g : Graph) (ok : α → Graph → Prop) (bad : ε → Graph → Prop) : Prop :=
  match u g with
  | .ok a g' => ok a g'
  | .error e g' => bad e g'

/-- The graph an update leaves behind, whichever way it ends. -/
def after (u : Update ε α) (g : Graph) : Graph :=
  match u g with
  | .ok _ g' | .error _ g' => g'

/-- What an update answers, if it succeeds. -/
def answer? (u : Update ε α) (g : Graph) : Option α :=
  match u g with
  | .ok a _ => some a
  | .error _ _ => none

variable {u : Update ε α} {g g' : Graph} {ok ok' : α → Graph → Prop} {bad bad' : ε → Graph → Prop}

theorem Ends.of_ok {a : α} (h : u.Ends g ok bad) (run : u g = .ok a g') : ok a g' := by
  simpa only [Ends, run] using h

theorem Ends.of_error {e : ε} (h : u.Ends g ok bad) (run : u g = .error e g') : bad e g' := by
  simpa only [Ends, run] using h

theorem Ends.eq_ok {b : α} (h : u.Ends g (fun a g'' => a = b ∧ g'' = g') fun _ _ => False) : u g = .ok b g' := by
  unfold Ends at h
  cases run : u g with
  | ok a g'' =>
    rw [run] at h
    obtain ⟨rfl, rfl⟩ := h
    rfl
  | error e g'' =>
    rw [run] at h
    exact h.elim

/-- An update of which all is said, whichever way it ends. -/
theorem Ends.eq {result : EStateM.Result ε Graph α}
    (h : u.Ends g (fun a g' => .ok a g' = result) fun e g' => .error e g' = result) : u g = result := by
  unfold Ends at h
  cases run : u g <;> simpa only [run] using h

/-- An update that cannot fail returns a result. -/
theorem Ends.exists_ok (h : u.Ends g ok fun _ _ => False) : ∃ a g', u g = .ok a g' ∧ ok a g' := by
  unfold Ends at h
  cases run : u g with
  | ok a g' => exact ⟨a, g', rfl, by simpa only [run] using h⟩
  | error e g' => simp only [run] at h

theorem ends_iff : u.Ends g ok bad ↔
    (∀ a g', u g = .ok a g' → ok a g') ∧ (∀ e g', u g = .error e g' → bad e g') := by
  unfold Ends
  cases h : u g <;> simp

theorem Ends.imp (h : u.Ends g ok bad) (hok : ∀ a g', ok a g' → ok' a g')
    (hbad : ∀ e g', bad e g' → bad' e g') : u.Ends g ok' bad' := by
  rw [ends_iff] at h ⊢
  exact ⟨fun a g' run => hok a g' (h.1 a g' run), fun e g' run => hbad e g' (h.2 e g' run)⟩

theorem Ends.imp_ok (h : u.Ends g ok bad) (hok : ∀ a g', ok a g' → ok' a g') : u.Ends g ok' bad :=
  h.imp hok fun _ _ => id

/-- Two facts about one run. -/
theorem Ends.and (h : u.Ends g ok bad) (h' : u.Ends g ok' bad') :
    u.Ends g (fun a g' => ok a g' ∧ ok' a g') fun e g' => bad e g' ∧ bad' e g' := by
  rw [ends_iff] at h h' ⊢
  exact ⟨fun a g' run => ⟨h.1 a g' run, h'.1 a g' run⟩, fun e g' run => ⟨h.2 e g' run, h'.2 e g' run⟩⟩

/-- What holds of the graph on either way out is what holds of the graph that is left. -/
theorem ends_iff_after {p : Graph → Prop} : (u.Ends g (fun _ => p) fun _ => p) ↔ p (u.after g) := by
  unfold Ends Update.after
  cases u g <;> exact Iff.rfl

theorem Ends.after {p : Graph → Prop} (h : u.Ends g (fun _ => p) fun _ => p) : p (u.after g) :=
  ends_iff_after.mp h

/-- What ties the answer to the graph on either way out ties them. -/
theorem Ends.answer {p : Option α → Graph → Prop} (h : u.Ends g (fun a => p (some a)) fun _ => p none) :
    p (u.answer? g) (u.after g) := by
  unfold Ends at h
  unfold answer? Update.after
  cases run : u g <;> simpa only [run] using h

theorem Ends.after_eq (h : u.Ends g (fun _ g'' => g'' = g') fun _ g'' => g'' = g') : u.after g = g' := h.after

@[simp] theorem ends_pure (a : α) : (pure a : Update ε α).Ends g ok bad ↔ ok a g := Iff.rfl

@[simp] theorem ends_throw (e : ε) : (throw e : Update ε α).Ends g ok bad ↔ bad e g := Iff.rfl

@[simp] theorem ends_get {ok : Graph → Graph → Prop} : (get : Update ε Graph).Ends g ok bad ↔ ok g g :=
  Iff.rfl

@[simp] theorem ends_set (new : Graph) {ok : PUnit → Graph → Prop} :
    (set new : Update ε PUnit).Ends g ok bad ↔ ok ⟨⟩ new := Iff.rfl

@[simp] theorem ends_modify (f : Graph → Graph) {ok : PUnit → Graph → Prop} :
    (modify f : Update ε PUnit).Ends g ok bad ↔ ok ⟨⟩ (f g) := Iff.rfl

@[simp] theorem ends_bind (u : Update ε α) (f : α → Update ε β) {ok : β → Graph → Prop} :
    (u >>= f).Ends g ok bad ↔ u.Ends g (fun a g' => (f a).Ends g' ok bad) bad := by
  simp only [Ends, Bind.bind, EStateM.bind]
  cases u g <;> rfl

@[simp] theorem ends_map (f : α → β) (u : Update ε α) {ok : β → Graph → Prop} :
    (f <$> u).Ends g ok bad ↔ u.Ends g (fun a g' => ok (f a) g') bad := by
  simp only [Ends, Functor.map, EStateM.map]
  cases u g <;> rfl

@[simp] theorem ends_discard (u : Update ε α) {ok : PUnit → Graph → Prop} :
    (discard u : Update ε PUnit).Ends g ok bad ↔ u.Ends g (fun _ g' => ok ⟨⟩ g') bad := by
  simp only [Ends, discard, Functor.mapConst, EStateM.map, Function.comp_apply]
  cases u g <;> rfl

@[simp] theorem ends_read (f : Graph → Except ε α) :
    (read f).Ends g ok bad ↔ (∀ a, f g = .ok a → ok a g) ∧ (∀ e, f g = .error e → bad e g) := by
  simp only [Ends, read]
  cases f g <;> simp

/-- A failure of the store is reported as it is. -/
@[simp] theorem ends_liftStorage (u : Update StorageError α) {bad : GraphError → Graph → Prop} :
    (liftM u : Update GraphError α).Ends g ok bad ↔ u.Ends g ok fun e => bad (.storage e) := by
  simp only [Ends, liftM, monadLift, MonadLift.monadLift, EStateM.adaptExcept]
  cases u g <;> rfl

@[simp] theorem ends_liftValidation (u : Update ValidationError α) {bad : GraphError → Graph → Prop} :
    (liftM u : Update GraphError α).Ends g ok bad ↔ u.Ends g ok fun e => bad (.validation e) := by
  simp only [Ends, liftM, monadLift, MonadLift.monadLift, EStateM.adaptExcept]
  cases u g <;> rfl

/-! ### Relations between the graph that is found and the graph that is left -/

/-- However the update ends, the graph it leaves is so related to the one it found. -/
def Leads (u : Update ε α) (r : Graph → Graph → Prop) : Prop := ∀ g, u.Ends g (fun _ => r g) fun _ => r g

section Leads
variable {r s t : Graph → Graph → Prop}

theorem Leads.bind {f : α → Update ε β} (first : u.Leads r) (rest : ∀ a, (f a).Leads s)
    (through : ∀ {g g' g''}, r g g' → s g' g'' → t g g'') (short : ∀ {g g'}, r g g' → t g g') :
    (u >>= f).Leads t := by
  intro g
  rw [ends_bind]
  refine (first g).imp (fun a g' here => ?_) fun e g' here => short here
  exact (rest a g').imp (fun _ _ => through here) fun _ _ => through here

theorem Leads.discard (leads : u.Leads r) : (discard u : Update ε PUnit).Leads r := by
  intro g
  rw [ends_discard]
  exact leads g

theorem Leads.liftStorage {u : Update StorageError α} (leads : u.Leads r) :
    (liftM u : Update GraphError α).Leads r := by
  intro g
  rw [ends_liftStorage]
  exact leads g

theorem Leads.liftValidation {u : Update ValidationError α} (leads : u.Leads r) :
    (liftM u : Update GraphError α).Leads r := by
  intro g
  rw [ends_liftValidation]
  exact leads g

/-- A loop that goes on as every turn does. -/
theorem leads_forM {f : α → Update ε PUnit} {as : List α} (refl : ∀ g, r g g)
    (trans : ∀ {g g' g''}, r g g' → r g' g'' → r g g'') (each : ∀ a, (f a).Leads r) : (as.forM f).Leads r := by
  induction as with
  | nil => exact refl
  | cons a as ih => exact (each a).bind (fun _ => ih) trans id

end Leads

/-- A loop keeps an invariant that ties the graph to what has been reported, and does for each
element what no other element undoes. -/
theorem ends_gather_all {f : α → Update ε (List β)} (inv : List β → Graph → Prop)
    (post : α → Graph → Prop) {as : List α}
    (step : ∀ a ∈ as, ∀ done g, inv done g → (f a).Ends g
      (fun bs g' => inv (done ++ bs) g' ∧ post a g' ∧ ∀ b, post b g → post b g') bad)
    (start : inv [] g) :
    (gather f as).Ends g
      (fun bs g' => inv bs g' ∧ (∀ a ∈ as, post a g') ∧ ∀ b, post b g → post b g') bad := by
  induction as generalizing inv g with
  | nil => simpa [gather] using start
  | cons a as ih =>
    simp only [gather, ends_bind, ends_pure]
    refine (step a (by simp) [] g start).imp_ok ?_
    intro bs g' fact
    obtain ⟨held, here, kept⟩ := fact
    -- The rest of the loop starts from what has been reported by now.
    refine (ih (fun more => inv (bs ++ more)) ?_ (by simpa using held)).imp_ok ?_
    · intro a' mem done h held
      simpa only [List.append_assoc] using step a' (by simp [mem]) (bs ++ done) h held
    intro bs' g'' given
    obtain ⟨held', there, kept'⟩ := given
    refine ⟨held', ?_, fun b earlier => kept' b (kept b earlier)⟩
    simpa only [List.mem_cons, forall_eq_or_imp] using ⟨kept' a here, there⟩

/-- A loop keeps an invariant that ties the graph to what has been reported. -/
theorem ends_gather {f : α → Update ε (List β)} (inv : List β → Graph → Prop) {as : List α}
    (step : ∀ a ∈ as, ∀ done g, inv done g →
      (f a).Ends g (fun bs g' => inv (done ++ bs) g') bad)
    (start : inv [] g) : (gather f as).Ends g inv bad := by
  have all := ends_gather_all inv (fun _ _ => True)
    (fun a mem done g held =>
      (step a mem done g held).imp_ok fun _ _ held' => ⟨held', trivial, fun _ => id⟩) start
  exact all.imp_ok fun _ _ held => held.1

/-- A loop that fails has come through every turn before the one that fails. -/
theorem gather_eq_error {f : α → Update ε (List β)} {as : List α} {e : ε} (failed : gather f as g = .error e g') :
    ∃ before a behind bs g'', as = before ++ a :: behind ∧ gather f before g = .ok bs g'' ∧
      f a g'' = .error e g' := by
  induction as generalizing g with
  | nil => cases failed
  | cons a as ih =>
    cases turn : f a g with
    | error e' h =>
      simp only [gather, Bind.bind, EStateM.bind, turn] at failed
      cases failed
      exact ⟨[], a, as, [], g, rfl, rfl, turn⟩
    | ok first h =>
      simp only [gather, Bind.bind, EStateM.bind, turn] at failed
      cases rest : gather f as h with
      | ok => simp only [rest] at failed; cases failed
      | error e' h' =>
        simp only [rest] at failed
        cases failed
        obtain ⟨before, a', behind, bs, g'', rfl, done, turn'⟩ := ih rest
        refine ⟨a :: before, a', behind, first ++ bs, g'', rfl, ?_, turn'⟩
        simp only [gather, Bind.bind, EStateM.bind, turn, done]
        rfl

end DiscoveryGraph.Update
