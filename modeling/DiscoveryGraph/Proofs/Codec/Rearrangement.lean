import Mathlib.Data.List.Nodup
import DiscoveryGraph.Codec.Fields
import DiscoveryGraph.Proofs.Json.RoundTrip

/-! Documents that say the same. The fields of a record may come in any order, and others that it does not
declare may stand among them; whoever reads the record finds every declared field either way. -/
namespace DiscoveryGraph.Json

mutual

/-- The second document has the fields of every object of the first in some order, and if it is free to,
others beside them. -/
inductive Rearranges (free : Bool) : Json → Json → Prop
  | leaf {j : Json} : (∀ items, j ≠ .array items) → (∀ fields, j ≠ .object fields) → Rearranges free j j
  | array {items items' : List Json} : RearrangesItems free items items' →
      Rearranges free (.array items) (.array items')
  | object {fields fields' others shuffled : List (String × Json)} : RearrangesFields free fields fields' →
      (∀ other ∈ others, other.1 ∉ fields.map Prod.fst) → (free = false → others = []) →
      shuffled.Perm (fields' ++ others) → Rearranges free (.object fields) (.object shuffled)

inductive RearrangesItems (free : Bool) : List Json → List Json → Prop
  | nil : RearrangesItems free [] []
  | cons {item item' : Json} {items items' : List Json} : Rearranges free item item' →
      RearrangesItems free items items' → RearrangesItems free (item :: items) (item' :: items')

inductive RearrangesFields (free : Bool) : List (String × Json) → List (String × Json) → Prop
  | nil : RearrangesFields free [] []
  | cons {name : String} {value value' : Json} {fields fields' : List (String × Json)} :
      Rearranges free value value' → RearrangesFields free fields fields' →
      RearrangesFields free ((name, value) :: fields) ((name, value') :: fields')

end

variable {free : Bool} {j value value' : Json} {name : String} {fields fields' : List (String × Json)}

mutual

/-- A document says the same as it does. -/
theorem rearranges_refl : ∀ j : Json, Rearranges free j j
  | .null | .bool _ | .int _ | .decimal _ | .string _ | .unreadable => .leaf (by simp) (by simp)
  | .array items => .array (rearrangesItems_refl items)
  | .object fields => .object (rearrangesFields_refl fields) (by simp) (fun _ => rfl) (by simp)

theorem rearrangesItems_refl : ∀ items : List Json, RearrangesItems free items items
  | [] => .nil
  | item :: items => .cons (rearranges_refl item) (rearrangesItems_refl items)

theorem rearrangesFields_refl : ∀ fields : List (String × Json), RearrangesFields free fields fields
  | [] => .nil
  | (_, value) :: fields => .cons (rearranges_refl value) (rearrangesFields_refl fields)

end

theorem RearrangesFields.names (rearranged : RearrangesFields free fields fields') :
    fields'.map Prod.fst = fields.map Prod.fst := by
  induction fields generalizing fields' with
  | nil =>
    cases rearranged
    rfl
  | cons field fields ih =>
    cases rearranged with
    | cons _ rest => rw [List.map_cons, List.map_cons, ih rest]

theorem RearrangesFields.exists_mem (rearranged : RearrangesFields free fields fields')
    (mem : (name, value) ∈ fields) : ∃ value', (name, value') ∈ fields' ∧ Rearranges free value value' := by
  induction fields generalizing fields' with
  | nil => cases mem
  | cons field fields ih =>
    cases rearranged with
    | cons first rest =>
      cases List.mem_cons.mp mem with
      | inl here =>
        cases here
        exact ⟨_, List.mem_cons_self, first⟩
      | inr there =>
        obtain ⟨value', mem', same⟩ := ih rest there
        exact ⟨value', List.mem_cons_of_mem _ mem', same⟩

theorem fieldsFit_iff {room : Nat} : FieldsFit room fields ↔ ∀ field ∈ fields, field.2.Fits room := by
  induction fields with
  | nil => simp [FieldsFit]
  | cons field fields ih => simp [FieldsFit, ih]

mutual

/-- The order of fields takes no room. -/
theorem Rearranges.fits {room : Nat} : ∀ {j j' : Json}, Rearranges false j j' → j.Fits room → j'.Fits room
  | _, _, .leaf _ _, fits => fits
  | _, _, .array rearranged, ⟨space, fits⟩ => ⟨space, rearranged.fit fits⟩
  | _, _, .object rearranged _ alone perm, ⟨space, fits⟩ => by
    refine ⟨space, fieldsFit_iff.mpr fun field mem => ?_⟩
    rw [perm.mem_iff, alone rfl, List.append_nil] at mem
    exact fieldsFit_iff.mp (rearranged.fit fits) field mem

theorem RearrangesItems.fit {room : Nat} : ∀ {items items' : List Json}, RearrangesItems false items items' →
    ItemsFit room items → ItemsFit room items'
  | _, _, .nil, fits => fits
  | _, _, .cons first rest, ⟨fits, others⟩ => ⟨first.fits fits, rest.fit others⟩

theorem RearrangesFields.fit {room : Nat} : ∀ {fields fields' : List (String × Json)},
    RearrangesFields false fields fields' → FieldsFit room fields → FieldsFit room fields'
  | _, _, .nil, fits => fits
  | _, _, .cons first rest, ⟨fits, others⟩ => ⟨first.fits fits, rest.fit others⟩

end

theorem fieldsReadable_iff : fieldsReadable fields = true ↔ ∀ field ∈ fields, field.2.isReadable = true := by
  induction fields with
  | nil => simp [fieldsReadable]
  | cons field fields ih => simp [fieldsReadable, ih]

theorem lookup_eq_some (nodup : (fields.map Prod.fst).Nodup) (mem : (name, value) ∈ fields) :
    fields.lookup name = some value := by
  induction fields with
  | nil => cases mem
  | cons field fields ih =>
    rw [List.map_cons, List.nodup_cons] at nodup
    cases List.mem_cons.mp mem with
    | inl here =>
      subst here
      simp
    | inr there =>
      have other : name ≠ field.1 := by
        rintro rfl
        exact nodup.1 (List.mem_map.mpr ⟨_, there, rfl⟩)
      rw [List.lookup_cons, beq_eq_false_iff_ne.mpr other]
      exact ih nodup.2 there

/-- Of the fields of a rearranged object, the given ones are there once, and the others stay out. -/
theorem filter_perm {others shuffled : List (String × Json)} (rearranged : RearrangesFields free fields fields')
    (undeclared : ∀ other ∈ others, other.1 ∉ fields.map Prod.fst) (perm : shuffled.Perm (fields' ++ others)) :
    (shuffled.filter (·.1 ∈ fields.map Prod.fst)).Perm fields' := by
  have kept : fields'.filter (·.1 ∈ fields.map Prod.fst) = fields' := by
    rw [List.filter_eq_self]
    intro field mem
    rw [← rearranged.names]
    exact decide_eq_true (List.mem_map_of_mem mem)
  have dropped : others.filter (·.1 ∈ fields.map Prod.fst) = [] := by
    rw [List.filter_eq_nil_iff]
    intro other mem found
    exact undeclared other mem (of_decide_eq_true found)
  have filtered := perm.filter (·.1 ∈ fields.map Prod.fst)
  rwa [List.filter_append, kept, dropped, List.append_nil] at filtered

/-- Every one of the fields is found, with a value that is rearranged and can be read to the last. -/
def Finds (free : Bool) (fields known : List (String × Json)) : Prop :=
  ∀ name value, (name, value) ∈ fields →
    ∃ value', known.lookup name = some value' ∧ Rearranges free value value' ∧ value'.isReadable

/-- A record is found with all its fields, wherever they stand. -/
theorem Rearranges.finds (rearranged : Rearranges free (.object fields) j) (readable : j.isReadable)
    (nodup : (fields.map Prod.fst).Nodup) :
    ∃ known, j.fields? (fields.map Prod.fst) = some known ∧ Finds free fields known := by
  cases rearranged with
  | leaf _ noObject => exact absurd rfl (noObject fields)
  | @object _ fields' others shuffled each undeclared _ perm =>
    have known := filter_perm each undeclared perm
    have unique : ((shuffled.filter (·.1 ∈ fields.map Prod.fst)).map Prod.fst).Nodup := by
      rw [(known.map Prod.fst).nodup_iff, each.names]
      exact nodup
    refine ⟨shuffled.filter (·.1 ∈ fields.map Prod.fst), by rw [fields?, if_pos unique], ?_⟩
    intro name value mem
    obtain ⟨value', mem', same⟩ := each.exists_mem mem
    have found := known.mem_iff.mpr mem'
    exact ⟨value', lookup_eq_some unique found, same,
      fieldsReadable_iff.mp readable _ (List.mem_filter.mp found).1⟩

/-- However the document is rearranged, if it can be read to the last, this is what is read from it. -/
def Reads {α : Type} (free : Bool) (read : Json → Option α) (document : Json) (a : α) : Prop :=
  ∀ j, Rearranges free document j → j.isReadable → read j = some a

variable {α β : Type} {read : Json → Option α} {write : α → Json} {a absent : α} {known : List (String × Json)}

theorem Finds.required (finds : Finds free fields known) (mem : (name, value) ∈ fields)
    (reads : Reads free read value a) : required? known name read = some a := by
  obtain ⟨value', found, same, readable⟩ := finds name value mem
  rw [required?, found]
  exact reads value' same readable

theorem Finds.optional (finds : Finds free fields known) (mem : (name, value) ∈ fields)
    (reads : Reads free read value a) : optional? known name read absent = some a := by
  obtain ⟨value', found, same, readable⟩ := finds name value mem
  rw [optional?, found]
  exact reads value' same readable

/-- A record that declares one field. -/
theorem Reads.field (reads : Reads free read value a) : Reads free (field? name read) (.object [(name, value)]) a := by
  intro j rearranged readable
  obtain ⟨known, found, finds⟩ := rearranged.finds readable (by simp)
  have here := finds.required List.mem_cons_self reads
  rw [List.map_cons, List.map_nil] at found
  rw [field?, found]
  exact here

/-- A record that may not have others has just its own fields. -/
theorem Rearranges.onlyFields? (rearranged : Rearranges false (.object fields) j) :
    j.onlyFields? (fields.map Prod.fst) = j.fields? (fields.map Prod.fst) := by
  cases rearranged with
  | leaf _ noObject => exact absurd rfl (noObject fields)
  | @object _ fields' others shuffled each _ alone perm =>
    obtain rfl := alone rfl
    rw [List.append_nil] at perm
    have declared : shuffled.all (·.1 ∈ fields.map Prod.fst) = true := by
      rw [List.all_eq_true]
      intro field mem
      rw [← each.names]
      exact decide_eq_true (List.mem_map_of_mem (perm.mem_iff.mp mem))
    rw [Json.onlyFields?, if_pos declared]

/-! ### Tags -/

/-- The tag of a record is found among its fields, and what is left is the record without it. -/
theorem Rearranges.untag? {tag : String} (rearranged : Rearranges free (.object ((tag, value) :: fields)) j)
    (readable : j.isReadable) (nodup : (tag :: fields.map Prod.fst).Nodup) :
    ∃ value' rest, j.untag? tag = some (value', rest) ∧ Rearranges free value value' ∧
      Rearranges free (.object fields) rest ∧ rest.isReadable := by
  cases rearranged with
  | leaf _ noObject => exact absurd rfl (noObject _)
  | @object _ _ others shuffled each undeclared alone perm =>
  cases each with
  | @cons _ _ value' _ fields' first each =>
  rw [List.map_cons] at undeclared
  have differs : ∀ field ∈ fields' ++ others, field.1 ≠ tag := by
    rintro field mem rfl
    cases List.mem_append.mp mem with
    | inl declared =>
      have name := List.mem_map_of_mem (f := Prod.fst) declared
      rw [each.names] at name
      exact (List.nodup_cons.mp nodup).1 name
    | inr other => exact undeclared field other List.mem_cons_self
  have none_tagged : (fields' ++ others).filter (·.1 = tag) = [] := by
    rw [List.filter_eq_nil_iff]
    exact fun field mem found => differs field mem (of_decide_eq_true found)
  have all_left : (fields' ++ others).filter (·.1 ≠ tag) = fields' ++ others := by
    rw [List.filter_eq_self]
    exact fun field mem => decide_eq_true (differs field mem)
  have tagged : shuffled.filter (·.1 = tag) = [(tag, value')] := by
    have filtered := perm.filter (·.1 = tag)
    rw [List.cons_append, List.filter_cons_of_pos (by simp), none_tagged] at filtered
    exact List.perm_singleton.mp filtered
  have left : (shuffled.filter (·.1 ≠ tag)).Perm (fields' ++ others) := by
    have filtered := perm.filter (·.1 ≠ tag)
    rwa [List.cons_append, List.filter_cons_of_neg (by simp), all_left] at filtered
  have rest : (Json.object (shuffled.filter (·.1 ≠ tag))).isReadable := by
    refine fieldsReadable_iff.mpr fun field mem => ?_
    exact fieldsReadable_iff.mp readable field (List.mem_filter.mp mem).1
  refine ⟨value', _, by rw [Json.untag?, tagged]; exact if_pos rest, first, ?_, rest⟩
  exact .object each (fun other mem declared => undeclared other mem (List.mem_cons_of_mem _ declared)) alone left

/-- A list in the order of a pair or in the other order. -/
theorem eq_or_eq_of_perm_pair {α : Type} {x y : α} {xs : List α} (perm : xs.Perm [x, y]) :
    xs = [x, y] ∨ xs = [y, x] := by
  match xs, perm.length_eq with
  | [a, b], _ =>
    have mem : a ∈ [x, y] := perm.mem_iff.mp List.mem_cons_self
    simp only [List.mem_cons, List.not_mem_nil, or_false] at mem
    rcases mem with rfl | rfl
    · have last := List.perm_singleton.mp perm.cons_inv
      exact .inl (by rw [last])
    · have last := List.perm_singleton.mp (perm.trans (.swap _ _ _)).cons_inv
      exact .inr (by rw [last])

theorem Rearranges.string {text : String} (rearranged : Rearranges free (.string text) j) : j = .string text := by
  cases rearranged
  rfl

/-- The content of a record that has just a tag and a content is found, whichever of the two comes first. -/
theorem Rearranges.tagged? {tag content symbol : String} (apart : tag ≠ content)
    (rearranged : Rearranges free (.object [(tag, .string symbol), (content, value)]) j) (readable : j.isReadable) :
    ∃ value', j.tagged? tag content = some (symbol, value') ∧ Rearranges free value value' ∧ value'.isReadable := by
  cases rearranged with
  | leaf _ noObject => exact absurd rfl (noObject _)
  | @object _ _ others shuffled each undeclared _ perm =>
  have known := filter_perm each undeclared perm
  cases each with
  | cons first each =>
  cases each with
  | @cons _ _ value' _ _ second each =>
  cases each
  obtain rfl := first.string
  have content_readable : value'.isReadable := by
    have mem : (content, value') ∈ [(tag, .string symbol), (content, value')] := by simp
    exact fieldsReadable_iff.mp readable _ (List.mem_filter.mp (known.mem_iff.mpr mem)).1
  have same (p : String × Json → Bool) (told : ∀ field, p field = (decide (field.1 = tag) || decide (field.1 = content))) :
      shuffled.filter p = shuffled.filter (·.1 ∈ [(tag, Json.string symbol), (content, value)].map Prod.fst) := by
    refine List.filter_congr fun field _ => ?_
    simp [told]
  refine ⟨value', ?_, second, content_readable⟩
  rw [Json.tagged?, same _ fun _ => rfl]
  cases eq_or_eq_of_perm_pair known with
  | inl ordered =>
    rw [ordered]
    simp [symbol?]
  | inr swapped =>
    rw [swapped]
    simp [symbol?, Ne.symm apart, content_readable]

end DiscoveryGraph.Json
