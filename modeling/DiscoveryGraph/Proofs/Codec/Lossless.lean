import DiscoveryGraph.Codec.Discovery
import DiscoveryGraph.Proofs.Codec.Rearrangement
import DiscoveryGraph.Proofs.Codec.Text

/-! Documents lose nothing. Each is read back as the value that it was written for: first what a document
says, in whatever order and among whatever else its fields stand, and then its text. -/
namespace DiscoveryGraph
open Json
variable {free : Bool} {room : Nat}

/-! ### Values without fields -/

theorem Json.Reads.leaf {α : Type} {read : Json → Option α} {document : Json} {a : α}
    (noArray : ∀ items, document ≠ .array items) (noObject : ∀ fields, document ≠ .object fields)
    (here : read document = some a) : Reads free read document a := by
  intro j rearranged readable
  cases rearranged with
  | leaf => exact here
  | array => exact absurd rfl (noArray _)
  | object => exact absurd rfl (noObject _)

theorem reads_string (text : String) : Reads free Json.string? (.string text) text := .leaf (by simp) (by simp) rfl

theorem reads_bool (flag : Bool) : Reads free Json.bool? (.bool flag) flag := .leaf (by simp) (by simp) rfl

theorem reads_uint64 (n : UInt64) : Reads free Json.uint64? (.nat n.toNat) n := by
  refine .leaf (by simp [nat]) (by simp [nat]) ?_
  simp [uint64?, natBelow?, nat, n.toNat_lt]

theorem reads_uint32 (n : UInt32) : Reads free Json.uint32? (.nat n.toNat) n := by
  refine .leaf (by simp [nat]) (by simp [nat]) ?_
  simp [uint32?, natBelow?, nat, n.toNat_lt]

theorem reads_int64 (n : Int64) : Reads free Json.int64? (.int n.toInt) n := by
  refine .leaf (by simp) (by simp) ?_
  rw [int64?, if_pos ⟨n.minValue_le_toInt, n.toInt_le⟩, Int64.ofInt_toInt]

/-- Optional text, absent as `null`. -/
theorem reads_nullable (text : Option String) :
    Reads free (nullable? Json.string?) (.ofOption .string text) text := by
  cases text with
  | none => exact .leaf (by simp [ofOption]) (by simp [ofOption]) rfl
  | some text => exact .leaf (by simp [ofOption]) (by simp [ofOption]) rfl

theorem Json.RearrangesItems.strings {texts : List String} {items : List Json}
    (rearranged : RearrangesItems free (texts.map .string) items) : items = texts.map .string := by
  induction texts generalizing items with
  | nil =>
    cases rearranged
    rfl
  | cons text texts ih =>
    cases rearranged with
    | cons first rest => rw [first.string, ih rest, List.map_cons]

theorem mapM_string (texts : List String) : (texts.map Json.string).mapM Json.string? = some texts := by
  induction texts with
  | nil => rfl
  | cons text texts ih =>
    rw [List.map_cons, List.mapM_cons, ih]
    rfl

theorem reads_strings (texts : List String) : Reads free (list? Json.string?) (.array (texts.map .string)) texts := by
  intro j rearranged readable
  cases rearranged with
  | leaf noArray => exact absurd rfl (noArray _)
  | array items =>
    obtain rfl := items.strings
    exact mapM_string texts

theorem EntityId.reads (id : EntityId) : Reads free EntityId.ofJson? id.toJson id := by
  intro j rearranged readable
  rw [EntityId.ofJson?, reads_uint64 id.value j rearranged readable]
  rfl

theorem Guid.reads (guid : Guid) : Reads free Guid.ofJson? guid.toJson guid := by
  refine .leaf (by simp [toJson]) (by simp [toJson]) ?_
  simp only [ofJson?, toJson, Json.string?, Option.bind_eq_bind, Option.bind_some, ofText?_hyphenated]

theorem EntityKind.reads (kind : EntityKind) : Reads free EntityKind.ofJson? kind.toJson kind :=
  .leaf (by simp [toJson]) (by simp [toJson]) (by cases kind <;> rfl)

theorem Status.reads (status : Status) : Reads free Status.ofJson? status.toJson status :=
  .leaf (by simp [toJson]) (by simp [toJson]) (by cases status <;> rfl)

/-! ### Records -/

theorem StateChange.reads (change : StateChange) : Reads free StateChange.ofJson? change.toJson change := by
  intro j rearranged readable
  obtain ⟨known, found, finds⟩ := rearranged.finds readable (by simp)
  have id : required? known "id" EntityId.ofJson? = _ := finds.required (by simp) change.id.reads
  have kind : required? known "kind" EntityKind.ofJson? = _ := finds.required (by simp) change.kind.reads
  have active : required? known "active" Json.bool? = _ := finds.required (by simp) (reads_bool change.active)
  simp only [List.map_cons, List.map_nil] at found
  simp [StateChange.ofJson?, found, id, kind, active]

theorem Event.reads (event : Event) : Reads free Event.ofJson? event.toJson event := by
  intro j rearranged readable
  obtain ⟨known, found, finds⟩ := rearranged.finds readable (by simp)
  have domain : required? known "domain" EntityId.ofJson? = _ := finds.required (by simp) event.domain.reads
  have entity : required? known "entity" EntityId.ofJson? = _ := finds.required (by simp) event.entity.reads
  have kind : required? known "kind" EntityKind.ofJson? = _ := finds.required (by simp) event.kind.reads
  have delta : required? known "count_delta" Json.int64? = _ := finds.required (by simp) (reads_int64 event.delta)
  simp only [List.map_cons, List.map_nil] at found
  simp [Event.ofJson?, found, domain, entity, kind, delta]

theorem ParticipantInfo.reads (info : ParticipantInfo) : Reads free ParticipantInfo.ofJson? info.toJson info := by
  intro j rearranged readable
  obtain ⟨known, found, finds⟩ := rearranged.finds readable (by simp)
  have guid : required? known "guid" Guid.ofJson? = _ := finds.required (by simp) info.guid.reads
  have name : required? known "name" Json.string? = _ := finds.required (by simp) (reads_string info.name)
  have host : required? known "host" Json.string? = _ := finds.required (by simp) (reads_string info.host)
  have user : required? known "user" Json.string? = _ := finds.required (by simp) (reads_string info.user)
  have process : required? known "process" Json.string? = _ := finds.required (by simp) (reads_string info.process)
  have pid : optional? known "pid" (nullable? Json.string?) none = _ :=
    finds.optional (by simp) (reads_nullable info.pid)
  simp only [List.map_cons, List.map_nil] at found
  simp [ParticipantInfo.ofJson?, found, guid, name, host, user, process, pid]

theorem TopicInfo.reads (info : TopicInfo) : Reads free TopicInfo.ofJson? info.toJson info := by
  intro j rearranged readable
  obtain ⟨known, found, finds⟩ := rearranged.finds readable (by simp)
  have name : required? known "name" Json.string? = _ := finds.required (by simp) (reads_string info.name)
  have dataType : required? known "data_type" Json.string? = _ := finds.required (by simp) (reads_string info.dataType)
  simp only [List.map_cons, List.map_nil] at found
  simp [TopicInfo.ofJson?, found, name, dataType]

theorem EndpointInfo.reads (info : EndpointInfo) : Reads free EndpointInfo.ofJson? info.toJson info := by
  intro j rearranged readable
  obtain ⟨known, found, finds⟩ := rearranged.finds readable (by simp)
  have guid : required? known "guid" Guid.ofJson? = _ := finds.required (by simp) info.guid.reads
  have name : required? known "name" Json.string? = _ := finds.required (by simp) (reads_string info.name)
  have participant : required? known "participant" ParticipantInfo.ofJson? = _ :=
    finds.required (by simp) info.participant.reads
  have topic : required? known "topic" TopicInfo.ofJson? = _ := finds.required (by simp) info.topic.reads
  have locators : optional? known "locators" (list? Json.string?) [] = _ :=
    finds.optional (by simp) (reads_strings info.locators)
  simp only [List.map_cons, List.map_nil] at found
  simp [EndpointInfo.ofJson?, found, guid, name, participant, topic, locators]

theorem Config.reads (config : Config) : Reads false Config.ofJson? config.toJson config := by
  intro j rearranged readable
  obtain ⟨known, found, finds⟩ := rearranged.finds readable (by simp)
  have queueCapacity : optional? known "discovery_queue_capacity" Json.uint64? (1024 : UInt64) = _ :=
    finds.optional (by simp) (reads_uint64 config.queueCapacity)
  have workerName : optional? known "worker_thread_name" Json.string? "ddsgraph-discovery" = _ :=
    finds.optional (by simp) (reads_string config.workerName)
  rw [← rearranged.onlyFields?] at found
  simp only [List.map_cons, List.map_nil] at found
  simp [Config.ofJson?, found, queueCapacity, workerName]

/-! ### Records with tags -/

theorem Attributes.reads (attributes : Attributes) : Reads free Attributes.ofJson? attributes.toJson attributes := by
  intro j rearranged readable
  cases attributes with
  | plain =>
    obtain ⟨tag, rest, untagged, same, left, readable⟩ := rearranged.untag? readable (by simp)
    obtain ⟨known, found, -⟩ := left.finds readable (by simp)
    rw [List.map_nil] at found
    simp [Attributes.ofJson?, untagged, same.string, Json.string?, found]
  | domain number =>
    obtain ⟨tag, rest, untagged, same, left, readable⟩ := rearranged.untag? readable (by simp)
    have read := (reads_uint32 number).field rest left readable
    simp [Attributes.ofJson?, untagged, same.string, Json.string?, read]
  | process pid =>
    obtain ⟨tag, rest, untagged, same, left, readable⟩ := rearranged.untag? readable (by simp)
    have read := (reads_string pid).field rest left readable
    simp [Attributes.ofJson?, untagged, same.string, Json.string?, read]
  | topic dataType =>
    obtain ⟨tag, rest, untagged, same, left, readable⟩ := rearranged.untag? readable (by simp)
    have read := (reads_string dataType).field rest left readable
    simp [Attributes.ofJson?, untagged, same.string, Json.string?, read]
  | participant guid | endpoint guid =>
    obtain ⟨tag, rest, untagged, same, left, readable⟩ := rearranged.untag? readable (by simp)
    have read := guid.reads.field rest left readable
    simp only [Attributes.ofJson?, untagged, same.string, Json.string?, read, Option.bind_eq_bind, Option.bind_some,
      Option.map_some]

theorem Transition.reads (transition : Transition) : Reads free Transition.ofJson? transition.toJson transition := by
  intro j rearranged readable
  cases transition with
  | appeared id | disappeared id | domainStopped id =>
    obtain ⟨value, tagged, same, readable⟩ := rearranged.tagged? (by decide) readable
    have read := id.reads value same readable
    rw [Transition.ofJson?, tagged, Option.bind_eq_bind, Option.bind_some]
    show (EntityId.ofJson? value >>= _) = _
    rw [read]
    rfl

theorem Announcement.reads (announcement : Announcement) :
    Reads free Announcement.ofJson? announcement.toJson announcement := by
  intro j rearranged readable
  cases announcement with
  | participant info =>
    obtain ⟨value, tagged, same, readable⟩ := rearranged.tagged? (by decide) readable
    have read := info.reads value same readable
    simp only [Announcement.ofJson?, tagged, read, Option.bind_eq_bind, Option.bind_some, Option.map_some]
  | topic info =>
    obtain ⟨value, tagged, same, readable⟩ := rearranged.tagged? (by decide) readable
    have read := info.reads value same readable
    simp only [Announcement.ofJson?, tagged, read, Option.bind_eq_bind, Option.bind_some, Option.map_some]
  | reader info | writer info =>
    obtain ⟨value, tagged, same, readable⟩ := rearranged.tagged? (by decide) readable
    have read := info.reads value same readable
    simp only [Announcement.ofJson?, tagged, read, Option.bind_eq_bind, Option.bind_some, Option.map_some]

theorem Notification.reads (notification : Notification) :
    Reads free Notification.ofJson? notification.toJson notification := by
  intro j rearranged readable
  obtain ⟨known, found, finds⟩ := rearranged.finds readable (by simp)
  have domain : required? known "domain" EntityId.ofJson? = _ := finds.required (by simp) notification.domain.reads
  have status : required? known "status" Status.ofJson? = _ := finds.required (by simp) notification.status.reads
  have entity : required? known "entity" Announcement.ofJson? = _ := finds.required (by simp) notification.entity.reads
  simp only [List.map_cons, List.map_nil] at found
  simp [Notification.ofJson?, found, domain, status, entity]

theorem Timestamp.reads (time : Timestamp) (early : 0 ≤ time.date.year) (late : time.date.year ≤ 9999) :
    Reads free Timestamp.ofJson? time.toJson time := by
  refine .leaf (by simp [toJson]) (by simp [toJson]) ?_
  simp [ofJson?, toJson, Json.string?, time.ofText?_text early late]

theorem EntityRecord.reads (record : EntityRecord)
    (years : ∀ time ∈ [record.discoveredAt, record.lastChange], 0 ≤ time.date.year ∧ time.date.year ≤ 9999) :
    Reads free EntityRecord.ofJson? record.toJson record := by
  intro j rearranged readable
  obtain ⟨⟨early, late⟩, ⟨early', late'⟩⟩ :
      (0 ≤ record.discoveredAt.date.year ∧ record.discoveredAt.date.year ≤ 9999) ∧
        (0 ≤ record.lastChange.date.year ∧ record.lastChange.date.year ≤ 9999) := by simpa using years
  obtain ⟨known, found, finds⟩ := rearranged.finds readable (by simp)
  have id : required? known "id" EntityId.ofJson? = _ := finds.required (by simp) record.entity.id.reads
  have kind : required? known "kind" EntityKind.ofJson? = _ := finds.required (by simp) record.entity.kind.reads
  have name : required? known "name" Json.string? = _ := finds.required (by simp) (reads_string record.entity.name)
  have active : required? known "active" Json.bool? = _ := finds.required (by simp) (reads_bool record.entity.active)
  have discoveredAt : required? known "discovered_at" Timestamp.ofJson? = _ :=
    finds.required (by simp) (record.discoveredAt.reads early late)
  have lastChange : required? known "last_change" Timestamp.ofJson? = _ :=
    finds.required (by simp) (record.lastChange.reads early' late')
  have attributes : required? known "attributes" Attributes.ofJson? = _ :=
    finds.required (by simp) record.entity.attributes.reads
  simp only [List.map_cons, List.map_nil] at found
  simp [EntityRecord.ofJson?, found, id, kind, name, active, discoveredAt, lastChange, attributes]

/-! ### Room -/

theorem fits_int {n : Int} (small : n.natAbs < UInt64.size) : (Json.int n).Fits room :=
  Reader.number?_toString small

theorem fits_nat {n : Nat} (small : n < UInt64.size) : (Json.nat n).Fits room :=
  fits_int (by simpa using small)

theorem EntityId.fits (id : EntityId) : id.toJson.Fits room := fits_nat id.value.toNat_lt

theorem Attributes.fits (attributes : Attributes) : attributes.toJson.Fits (room + 1) := by
  cases attributes with
  | domain number =>
    have small : number.toNat < UInt64.size := Nat.lt_trans number.toNat_lt (by decide)
    simp [toJson, Fits, FieldsFit, fits_nat small]
  | _ => simp [toJson, Fits, FieldsFit, Guid.toJson]

theorem EntityRecord.fits (record : EntityRecord) : record.toJson.Fits (room + 2) := by
  simp [toJson, Fits, FieldsFit, EntityId.fits, EntityKind.toJson, Timestamp.toJson, Attributes.fits]

theorem StateChange.fits (change : StateChange) : change.toJson.Fits (room + 1) := by
  simp [toJson, Fits, FieldsFit, EntityId.fits, EntityKind.toJson]

theorem Transition.fits (transition : Transition) : transition.toJson.Fits (room + 1) := by
  cases transition <;> simp [toJson, Fits, FieldsFit, EntityId.fits]

theorem Event.fits (event : Event) : event.toJson.Fits (room + 1) := by
  have small : event.delta.toInt.natAbs < UInt64.size := by
    have least := event.delta.le_toInt
    have most := event.delta.toInt_lt
    have size : UInt64.size = 2 ^ 64 := rfl
    omega
  exact ⟨Nat.succ_ne_zero _, event.domain.fits, event.entity.fits, trivial, fits_int small, trivial⟩

theorem ParticipantInfo.fits (info : ParticipantInfo) : info.toJson.Fits (room + 1) := by
  cases pid : info.pid <;> simp [toJson, Fits, FieldsFit, Guid.toJson, ofOption, pid]

theorem TopicInfo.fits (info : TopicInfo) : info.toJson.Fits (room + 1) := by
  simp [toJson, Fits, FieldsFit]

theorem itemsFit_strings (texts : List String) : ItemsFit room (texts.map .string) := by
  induction texts with
  | nil => trivial
  | cons text texts ih => exact ⟨trivial, ih⟩

theorem EndpointInfo.fits (info : EndpointInfo) : info.toJson.Fits (room + 2) := by
  simp [toJson, Fits, FieldsFit, Guid.toJson, ParticipantInfo.fits, TopicInfo.fits, itemsFit_strings]

theorem Announcement.fits (announcement : Announcement) : announcement.toJson.Fits (room + 3) := by
  cases announcement <;>
    simp [toJson, Fits, FieldsFit, ParticipantInfo.fits, TopicInfo.fits, EndpointInfo.fits]

theorem Notification.fits (notification : Notification) : notification.toJson.Fits (room + 4) := by
  simp [toJson, Fits, FieldsFit, EntityId.fits, Status.toJson, Announcement.fits]

theorem Config.fits (config : Config) : config.toJson.Fits (room + 1) := by
  simp [toJson, Fits, FieldsFit, fits_nat config.queueCapacity.toNat_lt]

/-! ### Round trips -/

/-- The text of a document is read back as the value it was written for, in whatever order the fields of its
objects stand. If they are free to have others as well, whatever JSON value these have, the document still
says the same, and so does its text if the reader has room for it. -/
def Lossless {α : Type} (free : Bool) (write : α → Json) (read : Json → Option α) (a : α) : Prop :=
  (∀ j, Rearranges false (write a) j → (parse? j.render >>= read) = some a) ∧
    ∀ j, Rearranges free (write a) j →
      (j.isReadable → read j = some a) ∧ (j.Fits Reader.nesting → (parse? j.render >>= read) = some a)

theorem lossless_of_reads {α : Type} {write : α → Json} {read : Json → Option α} {a : α}
    (fits : (write a).Fits Reader.nesting) (ordered : Reads false read (write a) a) (reads : Reads free read (write a) a) :
    Lossless free write read a := by
  refine ⟨fun j rearranged => ?_, fun j rearranged => ⟨reads j rearranged, fun room => ?_⟩⟩
  · have room := rearranged.fits fits
    rw [parse?_render room]
    exact ordered j rearranged room.isReadable
  · rw [parse?_render room]
    exact reads j rearranged room.isReadable

/-- Documents lose nothing: whatever is written is read back, with the fields of its objects in any order, and
but for configurations with any others among them. -/
theorem documents_lossless :
    (∀ id, Lossless true EntityId.toJson EntityId.ofJson? id) ∧
    (∀ kind, Lossless true EntityKind.toJson EntityKind.ofJson? kind) ∧
    (∀ guid, Lossless true Guid.toJson Guid.ofJson? guid) ∧
    (∀ attributes, Lossless true Attributes.toJson Attributes.ofJson? attributes) ∧
    (∀ record : EntityRecord,
      (∀ time ∈ [record.discoveredAt, record.lastChange], 1 ≤ time.date.year ∧ time.date.year ≤ 9999) →
      Lossless true EntityRecord.toJson EntityRecord.ofJson? record) ∧
    (∀ change, Lossless true StateChange.toJson StateChange.ofJson? change) ∧
    (∀ transition, Lossless true Transition.toJson Transition.ofJson? transition) ∧
    (∀ event, Lossless true Event.toJson Event.ofJson? event) ∧
    (∀ info, Lossless true ParticipantInfo.toJson ParticipantInfo.ofJson? info) ∧
    (∀ info, Lossless true TopicInfo.toJson TopicInfo.ofJson? info) ∧
    (∀ info, Lossless true EndpointInfo.toJson EndpointInfo.ofJson? info) ∧
    (∀ announcement, Lossless true Announcement.toJson Announcement.ofJson? announcement) ∧
    (∀ notification, Lossless true Notification.toJson Notification.ofJson? notification) ∧
    (∀ config, Lossless false Config.toJson Config.ofJson? config) := by
  refine ⟨fun id => lossless_of_reads id.fits id.reads id.reads,
    fun kind => lossless_of_reads trivial kind.reads kind.reads,
    fun guid => lossless_of_reads trivial guid.reads guid.reads,
    fun attributes => lossless_of_reads attributes.fits attributes.reads attributes.reads,
    fun record years => ?_,
    fun change => lossless_of_reads change.fits change.reads change.reads,
    fun transition => lossless_of_reads transition.fits transition.reads transition.reads,
    fun event => lossless_of_reads event.fits event.reads event.reads,
    fun info => lossless_of_reads info.fits info.reads info.reads,
    fun info => lossless_of_reads info.fits info.reads info.reads,
    fun info => lossless_of_reads info.fits info.reads info.reads,
    fun announcement => lossless_of_reads announcement.fits announcement.reads announcement.reads,
    fun notification => lossless_of_reads notification.fits notification.reads notification.reads,
    fun config => lossless_of_reads config.fits config.reads config.reads⟩
  have years : ∀ time ∈ [record.discoveredAt, record.lastChange], 0 ≤ time.date.year ∧ time.date.year ≤ 9999 :=
    fun time mem => ⟨Int.le_trans (by decide) (years time mem).1, (years time mem).2⟩
  exact lossless_of_reads record.fits (record.reads years) (record.reads years)

/-- An entity of the last second of the last year, which is a leap second. Its fields and those of its
attributes come in reverse order behind others, one of which has the name of a field that these attributes
do not declare. -/
theorem documents_lossless_reversed :
    let last : Timestamp := ⟨⟨9999, 12, 31, by decide⟩, 1439, 60, 999999999⟩
    let record : EntityRecord := ⟨⟨.invalid, .process, "a\"\\\n\x00☃", true, .process "7"⟩, last, last⟩
    let attributes : Json :=
      .object [("type", .string "process"), ("pid", .string "7"), ("guid", .bool true)].reverse
    let j : Json := .object [("id", .nat 18446744073709551615), ("kind", .string "process"),
      ("name", .string "a\"\\\n\x00☃"), ("active", .bool true), ("discovered_at", last.toJson),
      ("last_change", last.toJson), ("attributes", attributes), ("note", .array [.null, .object []])].reverse
    (parse? j.render >>= EntityRecord.ofJson?) = some record := by
  intro last record attributes j
  have within : Rearranges true record.entity.attributes.toJson attributes := by
    refine @Rearranges.object _ _ _ [("guid", .bool true)] _ (rearrangesFields_refl _) ?_ (by simp)
      (List.reverse_perm _)
    simp
  have rearranged : Rearranges true record.toJson j := by
    refine @Rearranges.object _ _ _ [("note", .array [.null, .object []])] _
      (.cons (rearranges_refl _) <| .cons (rearranges_refl _) <| .cons (rearranges_refl _) <|
      .cons (rearranges_refl _) <| .cons (rearranges_refl _) <| .cons (rearranges_refl _) <| .cons within .nil)
      ?_ (by simp) (List.reverse_perm _)
    simp
  have id : (Json.nat 18446744073709551615).Fits 126 := fits_nat (by decide)
  have fits : j.Fits Reader.nesting := by
    refine ⟨by decide, fieldsFit_iff.mpr ?_⟩
    simp [Fits, FieldsFit, ItemsFit, Timestamp.toJson, attributes, Reader.nesting, id]
  have years : ∀ time ∈ [record.discoveredAt, record.lastChange], 1 ≤ time.date.year ∧ time.date.year ≤ 9999 := by
    simp [record, last]
  exact ((documents_lossless.2.2.2.2.1 record years).2 j rearranged).2 fits

end DiscoveryGraph
