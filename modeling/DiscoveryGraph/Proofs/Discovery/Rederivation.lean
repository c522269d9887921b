import DiscoveryGraph.Proofs.Discovery.Operation

/-! Setting locators right, one after the other. The loop writes each flag before it looks at the next
identifier, so an identifier of nothing ends it with the flags before it already written. -/
namespace DiscoveryGraph
namespace Graph
open Update
variable {g h : Graph} {x u : EntityId} {ids : IdSet} {before xs : List EntityId} {changes : List StateChange}

/-- The entity is active exactly if one of the endpoints next to it is. -/
def Reflected (g : Graph) (x : EntityId) : Prop := g.alive x = (g.children x .locator).any g.alive

/-- The smallest of some identifiers that names nothing. -/
structure FirstUnknown (g : Graph) (ids : IdSet) (u : EntityId) : Prop where
  mem : u ∈ ids
  unknown : g.kind? u = none
  least : ∀ x ∈ ids, g.kind? x = none → u.value ≤ x.value

/-- One turn of the loop. -/
def rederiveLocator (x : EntityId) : Update StorageError (List StateChange) := do
  let active ← Update.read (·.hasActiveChild x .locator)
  flag x active

theorem rederiveLocators_eq : rederiveLocators ids = gather rederiveLocator ids.toList := rfl

theorem flag_error {active : Bool} :
    (flag x active).Ends g (fun _ _ => True) fun e _ => e = .entityNotFound x := by
  rw [flag, ends_bind]
  refine setActive_ends.imp ?_ fun _ _ fails => fails.2.1
  intro changed h _
  split
  · rw [ends_bind, ends_read]
    exact ⟨fun _ _ => trivial, fun _ missing => (lookup_eq_error.mp missing).2⟩
  · trivial

/-- A turn writes the flag of an entity that exists, if it has to. -/
theorem rederiveLocator_turn (wf : g.WellFormed) : (rederiveLocator x).Ends g
    (fun changes h => g.kind? x ≠ none ∧
      (g.Reflected x ∧ changes = [] ∧ h = g ∨
        ¬ g.Reflected x ∧ h.alive x ≠ g.alive x ∧ Run (Action.Flags (!g.alive x) (· = x)) g changes h))
    (fun e h => g.kind? x = none ∧ e = .entityNotFound x ∧ h = g) := by
  rw [rederiveLocator, ends_bind, ends_read, hasActiveChild_eq wf]
  refine ⟨?_, by simp⟩
  rintro active ⟨⟩
  refine (flag_ends.and flag_error).imp ?_ fun _ _ fails => ⟨fails.1.1, fails.2, fails.1.2⟩
  intro changes h held
  obtain ⟨⟨kind, known, turn⟩, -⟩ := held
  refine ⟨by simp [known], ?_⟩
  obtain ⟨same, rfl, rfl⟩ | ⟨other, rfl, rfl⟩ := turn
  · exact .inl ⟨same, rfl, rfl⟩
  · have flipped : (g.children x .locator).any g.alive = !g.alive x := by rw [other, Bool.not_not]
    rw [flipped, Reflected, flipped]
    exact .inr ⟨by simp, by simp [alive_reflag_self known], run_reflag known (by simp)⟩

/-- What a loop over entities that exist comes to. -/
structure Reset (g : Graph) (xs : List EntityId) (changes : List StateChange) (h : Graph) : Prop where
  run : Run (Action.Marks (· ∈ xs)) g changes h
  known : ∀ x ∈ xs, g.kind? x ≠ none
  idle : h = g ↔ ∀ x ∈ xs, g.Reflected x
  reports : g.Reports changes h

theorem gather_rederiveLocator (wf : g.WellFormed) (once : xs.Nodup) :
    (gather rederiveLocator xs).Ends g (Reset g xs) fun _ _ => True := by
  induction xs generalizing g with
  | nil =>
    have nothing : Run (Action.Flags true fun _ => False) g [] g := .nil
    exact ⟨.nil, by simp, by simp, nothing.reports⟩
  | cons x xs ih =>
    obtain ⟨apart, once⟩ := List.nodup_cons.mp once
    simp only [gather, ends_bind, ends_pure]
    refine (rederiveLocator_turn wf).imp ?_ fun _ _ _ => trivial
    intro changes h fact
    obtain ⟨known, ⟨reflected, rfl, rfl⟩ | ⟨other, set, run⟩⟩ := fact
    · refine (ih wf once).imp_ok fun changes' h' reset => ?_
      refine ⟨reset.run.marks_mono fun y mem => .tail _ mem, ?_, ?_, reset.reports⟩
      · simpa [known] using reset.known
      · simpa [reflected] using reset.idle
    · refine (ih (run.wellFormed wf) once).imp_ok fun changes' h' reset => ?_
      have alike := run.alike
      have kept : h'.alive x = h.alive x := reset.run.alive_of_marks apart
      refine ⟨?_, ?_, ?_, ?_⟩
      · refine (run.marks.marks_mono ?_).trans (reset.run.marks_mono fun y mem => .tail _ mem)
        rintro y rfl
        exact .head _
      · simpa [known, alike.kind?] using reset.known
      · refine iff_of_false ?_ (by simp [other])
        rintro rfl
        exact set kept.symm
      · refine run.reports.append reset.reports alike fun y => ?_
        by_cases same : y = x
        · exact .inr (same ▸ kept)
        · exact .inl (run.marks.alive_of_marks same)

/-- A loop that fails has met an identifier of nothing, after entities that exist only. -/
theorem gather_rederiveLocator_error {e : StorageError} (wf : g.WellFormed) (once : xs.Nodup)
    (failed : gather rederiveLocator xs g = .error e h) :
    ∃ before u behind changes, xs = before ++ u :: behind ∧ gather rederiveLocator before g = .ok changes h ∧
      g.Reset before changes h ∧ g.kind? u = none ∧ e = .entityNotFound u := by
  obtain ⟨before, u, behind, changes, h', rfl, done, turn⟩ := gather_eq_error failed
  have reset := (gather_rederiveLocator wf (List.nodup_append.mp once).1).of_ok done
  obtain ⟨unknown, rfl, rfl⟩ := (rederiveLocator_turn (reset.run.wellFormed wf)).of_error turn
  rw [reset.run.alike_of_marks.kind?] at unknown
  exact ⟨before, u, behind, changes, rfl, done, reset, unknown, rfl⟩

/-- Entities that exist leave the loop nothing to fail at. -/
theorem exists_reset (wf : g.WellFormed) (known : ∀ x ∈ ids, g.kind? x ≠ none) :
    ∃ changes h, rederiveLocators ids g = .ok changes h ∧ g.Reset ids.toList changes h := by
  cases run : rederiveLocators ids g with
  | ok changes h => exact ⟨changes, h, rfl, (gather_rederiveLocator wf (nodup_toList ids)).of_ok run⟩
  | error e h =>
    obtain ⟨before, u, behind, _, split, -, -, unknown, -⟩ := gather_rederiveLocator_error wf (nodup_toList ids) run
    exact absurd unknown (known u (Std.ExtTreeSet.mem_toList.mp (split ▸ by simp)))

/-- The identifiers before one of them are the smaller ones. -/
theorem toList_filter_lt {behind : List EntityId} (split : ids.toList = before ++ u :: behind) :
    (ids.filter (·.value < u.value)).toList = before := by
  have ordered := ascending_toList ids
  rw [split, List.pairwise_append, List.pairwise_cons] at ordered
  obtain ⟨-, ⟨later, -⟩, earlier⟩ := ordered
  rw [Std.ExtTreeSet.toList_filter, split, List.filter_append, List.filter_cons_of_neg (by simp),
    List.filter_eq_self.mpr, List.filter_eq_nil_iff.mpr, List.append_nil]
  · intro x mem
    simpa using UInt64.le_of_lt (later x mem)
  · intro x mem
    simpa using earlier x mem u (by simp)

theorem FirstUnknown.of_split {behind : List EntityId} (split : ids.toList = before ++ u :: behind)
    (known : ∀ x ∈ before, g.kind? x ≠ none) (unknown : g.kind? u = none) : g.FirstUnknown ids u := by
  have listed : ∀ x, x ∈ ids ↔ x ∈ before ++ u :: behind := fun x => by rw [← split, Std.ExtTreeSet.mem_toList]
  have ordered := ascending_toList ids
  rw [split, List.pairwise_append, List.pairwise_cons] at ordered
  obtain ⟨-, ⟨later, -⟩, -⟩ := ordered
  refine ⟨(listed u).mpr (by simp), unknown, fun x mem nothing => ?_⟩
  rw [listed, List.mem_append, List.mem_cons] at mem
  obtain early | rfl | late := mem
  · exact absurd nothing (known x early)
  · exact UInt64.le_refl _
  · exact UInt64.le_of_lt (later x late)

/-- What setting locators right comes to: it succeeds on entities that exist, and otherwise it fails at the
first identifier of nothing and leaves what it has done by then. -/
structure Rederives (g : Graph) (ids : IdSet) : Prop where
  succeeds : (∃ changes h, rederiveLocators ids g = .ok changes h) ↔ ∀ x ∈ ids, g.kind? x ≠ none
  fails : ∀ e h, rederiveLocators ids g = .error e h → ∃ u, g.FirstUnknown ids u ∧ e = .entityNotFound u ∧
    (∃ changes, rederiveLocators (ids.filter (·.value < u.value)) g = .ok changes h) ∧
    (h = g ↔ ∀ x ∈ ids, x.value < u.value → g.Reflected x)
  sets : (∀ x ∈ ids, g.kind? x = some .locator) → ∃ changes h, rederiveLocators ids g = .ok changes h ∧
    g.UpToFlags h ∧ g.Reports changes h ∧ (∀ x ∉ ids, h.alive x = g.alive x) ∧
    ∀ x ∈ ids, h.alive x = true ↔ ∃ k y, k.isEndpoint ∧ y ∈ g.neighbors x k ∧ g.alive y = true

theorem rederives (wf : g.WellFormed) (ids : IdSet) : g.Rederives ids := by
  have listed : ∀ x, x ∈ ids.toList ↔ x ∈ ids := fun x => Std.ExtTreeSet.mem_toList
  constructor
  case succeeds =>
    constructor
    · intro ran x mem
      obtain ⟨changes, h, run⟩ := ran
      exact ((gather_rederiveLocator wf (nodup_toList ids)).of_ok run).known x ((listed x).mpr mem)
    · intro known
      obtain ⟨changes, h, run, -⟩ := exists_reset wf known
      exact ⟨changes, h, run⟩
  case fails =>
    intro e h failed
    obtain ⟨before, u, behind, changes, split, done, reset, unknown, rfl⟩ :=
      gather_rederiveLocator_error wf (nodup_toList ids) failed
    have cut := toList_filter_lt split
    refine ⟨u, .of_split split reset.known unknown, rfl, ⟨changes, by rw [rederiveLocators_eq, cut, done]⟩, ?_⟩
    rw [reset.idle]
    refine forall_congr' fun x => ?_
    rw [← cut, Std.ExtTreeSet.toList_filter, List.mem_filter, listed, decide_eq_true_iff, and_imp]
  case sets =>
    intro locators
    obtain ⟨changes, h, run, reset⟩ := exists_reset wf fun x mem => by simp [locators x mem]
    have rederived := (rederiveLocators_sets wf locators).of_ok run
    refine ⟨changes, h, run, reset.run.upToFlags_of_marks, reset.reports, ?_, ?_⟩
    · exact fun x other => rederived.run.alive_of_marks other
    · intro x mem
      rw [rederived.set x mem, List.any_eq_true]
      simp only [mem_children, EntityKind.derivedFrom, EntityKind.mem_endpoints]
      grind

/-- In every graph that was built, whatever the identifiers: setting locators right succeeds exactly if all
of them exist; on locators it then sets each to whether one of its endpoints is active, changes nothing else
and reports what differs. A failure leaves the graph as it was exactly if every identifier below the first
unknown one has its flag already. -/
theorem Built.rederive_whole_or_part (built : g.Built) (ids : IdSet) : g.Rederives ids :=
  rederives built.wellFormed ids

/-- Locator 8 has been set inactive under its active reader. Alone it is revived; with an unknown
identifier behind it the run fails, and the locator is revived all the same. -/
theorem Built.rederive_whole_or_part_revived :
    let participant : ParticipantInfo := ⟨⟨.replicate 16 1⟩, "node", "host", "user", "process", none⟩
    let reader : EndpointInfo :=
      ⟨⟨.replicate 16 2⟩, "reader", participant, ⟨"square", "ShapeType"⟩, ["udp:1"]⟩
    let g := [.create .domain "0" (.domain 0), .ingest ⟨⟨1⟩, .discovered, .reader reader⟩,
      .setActive ⟨8⟩ false].foldl Operation.act ∅
    let one : IdSet := {⟨8⟩}
    let two : IdSet := {⟨8⟩, ⟨9⟩}
    g.Built ∧ g.alive ⟨8⟩ = false ∧
      (∃ changes h, rederiveLocators one g = .ok changes h ∧ g.Reports changes h ∧ h.alive ⟨8⟩ = true) ∧
      ∃ h, rederiveLocators two g = .error (.entityNotFound ⟨9⟩) h ∧ h ≠ g := by
  intro participant reader g one two
  have built : g.Built := Built.empty.foldl _
  have dead : g.alive ⟨8⟩ = false := by decide +kernel
  have locator : g.kind? ⟨8⟩ = some .locator := by decide +kernel
  have unknown : g.kind? ⟨9⟩ = none := by decide +kernel
  have bound : ⟨7⟩ ∈ g.neighbors ⟨8⟩ .dataReader ∧ g.alive ⟨7⟩ = true := by decide +kernel
  have stale : ¬ g.Reflected ⟨8⟩ := by unfold Reflected; decide +kernel
  clear_value g
  have members : (∀ x, x ∈ one ↔ x = ⟨8⟩) ∧ ∀ x, x ∈ two ↔ x = ⟨8⟩ ∨ x = ⟨9⟩ := by
    simp [one, two, @eq_comm EntityId]
  clear_value one two
  refine ⟨built, dead, ?_, ?_⟩
  · obtain ⟨changes, h, run, -, reports, -, set⟩ :=
      (Built.rederive_whole_or_part built one).sets (by simp [members, locator])
    exact ⟨changes, h, run, reports, (set _ (by simp [members])).mpr ⟨.dataReader, _, rfl, bound⟩⟩
  · have halves := Built.rederive_whole_or_part built two
    cases run : rederiveLocators two g with
    | ok changes h =>
      exact absurd unknown (halves.succeeds.mp ⟨_, _, run⟩ ⟨9⟩ (by simp [members]))
    | error e h =>
      obtain ⟨u, first, rfl, -, whole⟩ := halves.fails e h run
      obtain rfl | rfl := (members.2 u).mp first.mem
      · simp [first.unknown] at locator
      · exact ⟨h, rfl, fun same => stale (whole.mp same ⟨8⟩ (by simp [members]) (by decide))⟩

/-- A failed run need not leave the graph alone: a locator without endpoints loses its flag before the run
meets an identifier of nothing. -/
theorem rederivation_fails_halfway :
    let g := (Operation.create .locator "udp:1" .plain).act ∅
    let ids : IdSet := {⟨1⟩, ⟨2⟩}
    g.Built ∧ g.kind? ⟨1⟩ = some .locator ∧ g.kind? ⟨2⟩ = none ∧ g.alive ⟨1⟩ = true ∧
      ∃ h, rederiveLocators ids g = .error (.entityNotFound ⟨2⟩) h ∧ h ≠ g ∧ h.alive ⟨1⟩ = false := by
  intro g ids
  have built : g.Built := .step _ .empty
  have fails : (match rederiveLocators ids g with
      | .ok .. => false
      | .error e h => e = .entityNotFound ⟨2⟩ ∧ h.alive ⟨1⟩ = false) = true := by decide +kernel
  have active : g.alive ⟨1⟩ = true := by decide +kernel
  refine ⟨built, by decide +kernel, by decide +kernel, active, ?_⟩
  cases run : rederiveLocators ids g with
  | ok changes h => simp [run] at fails
  | error e h =>
    simp only [run, decide_eq_true_iff] at fails
    obtain ⟨rfl, dead⟩ := fails
    refine ⟨h, rfl, ?_, dead⟩
    rintro rfl
    simp [active] at dead

end Graph
end DiscoveryGraph
