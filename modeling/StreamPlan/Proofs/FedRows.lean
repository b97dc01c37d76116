import StreamPlan.Proofs.ExactNames
import StreamPlan.Proofs.JsonRoundTrip
import StreamPlan.Proofs.Widening

/-! Rows that are fed as a document. Written as an object each, in whatever order and letter case, with
nulls left out or not and with members no column has the name of, rows that conform to the schema of
their source are read back as they were. Nothing is claimed of numbers that are not finite, which have no
written form. -/
namespace StreamPlan

/-- A value the column declares, and one that can be written. -/
def Field.Takes (field : Field) (value : Scalar) : Prop := field.Admits value ∧ value.isFinite = true

def Row.Conforms (row : Row) (schema : Schema) : Prop := List.Forall₂ Field.Takes schema.fields row.values

/-- A name that one column has in some letter case is not one of a column with another name. -/
theorem Field.isNamed_apart {field other : Field} {name : String} (apart : field.isNamed other.name = false)
    (named : other.isNamed name = true) : field.isNamed name = false := by
  by_contra also
  have same := Text.sameIgnoringCase_trans (Bool.not_eq_false _ ▸ also) (Text.sameIgnoringCase_symm named)
  exact Bool.noConfusion (apart.symm.trans same)

namespace SourceData

/-- A value as a row object holds it: no name of a kind goes with it, and bytes are a list of numbers. -/
def written : Scalar → Json
  | .null => .null
  | .bool b => .bool b
  | .int32 n => .whole n.toInt
  | .int64 n => .whole n.toInt
  | .float32 x => .real (Decimal.widen x)
  | .float64 x => .real x
  | .text s => .text s
  | .bytes bs => .list (bs.map fun byte => .whole byte.toNat)

/-- The members for some columns and their values: one by the name of the column, in any letter case, and
for a null one or none. -/
inductive Lists : List Field → List Scalar → List (String × Json) → Prop where
  | nil : Lists [] [] []
  | member {field : Field} {fields : List Field} {value : Scalar} {values : List Scalar} {name : String}
      {members : List (String × Json)} (named : field.isNamed name = true) (later : Lists fields values members) :
      Lists (field :: fields) (value :: values) ((name, written value) :: members)
  | omitted {field : Field} {fields : List Field} {values : List Scalar} {members : List (String × Json)}
      (later : Lists fields values members) : Lists (field :: fields) (.null :: values) members

/-- An object for a row: the members of its values, and others that no column has the name of, in any
order. -/
def Shows (schema : Schema) (row : Row) (members : List (String × Json)) : Prop :=
  ∃ own others, Lists schema.fields row.values own ∧ members.Perm (own ++ others) ∧
    ∀ other ∈ others, ∀ field ∈ schema.fields, field.isNamed other.1 = false

/-- The rows of the stage's topic stand among the topics: a list of an object for each, in their order. -/
def Carries (topics : List (String × Json)) (rows : String → List Row) (stage : Stage) : Prop :=
  ∀ topic ∈ stage.op.sourceTopic, ∃ objects,
    (topic, Json.list (objects.map .object)) ∈ topics ∧ List.Forall₂ (Shows stage.schema) (rows topic) objects

/-- A document that maps the topic of each source to its rows. -/
def Feeds (t : Topology) (rows : String → List Row) (document : Json) : Prop :=
  ∃ topics, document = .object topics ∧ (topics.map (·.1)).Nodup ∧ ∀ stage ∈ t.sources, Carries topics rows stage

section
variable {value : Scalar} {type : DataType}

theorem scalarOf_written (typed : value.HasType type) (finite : value.isFinite = true) :
    scalarOf (written value) type = some value := by
  rcases typed with rfl | typed
  · rfl
  · cases value with
    | null => cases typed
    | bool | float64 | text =>
      cases typed
      rfl
    | int32 n =>
      cases typed
      simp [scalarOf, written, valueOf, Scalar.int32?_whole]
    | int64 n =>
      cases typed
      simp [scalarOf, written, valueOf, Scalar.int64?_whole]
    | float32 x =>
      cases typed
      simp [scalarOf, written, valueOf, double?, Decimal.narrow_widen finite]
    | bytes bs =>
      cases typed
      have bytes := Json.mapM_written bs fun byte _ => Scalar.byte?_whole byte
      simp [scalarOf, written, valueOf, bytes?, bytes]

theorem sorted_written (value : Scalar) : (written value).sorted = written value := by
  cases value with
  | bytes bs => simp [written, Json.sorted_list, Json.sorted]
  | null | bool | int32 | int64 | float32 | float64 | text => rfl

end

/-- The one member by the name of the field holds the value, or there is none and the value is null. -/
inductive Shown (members : List (String × Json)) (field : Field) : Scalar → Prop where
  | member {name : String} {value : Scalar} (named : field.isNamed name = true)
      (here : (name, written value) ∈ members)
      (only : ∀ other ∈ members, field.isNamed other.1 = true → other = (name, written value)) :
      Shown members field value
  | omitted (none : ∀ other ∈ members, field.isNamed other.1 = false) : Shown members field .null

section
variable {members own : List (String × Json)} {field : Field} {fields : List Field} {value : Scalar}
variable {values : List Scalar} {schema : Schema} {row : Row} {topic : String}

theorem Shown.sortedMembers (shown : Shown members field value) :
    Shown (Json.sortedMembers members) field value := by
  cases shown with
  | @member name _ named here only =>
    refine .member named ?_ fun other inside also => ?_
    · have kept := Json.mem_sortedMembers here fun other inside same => only other inside (same ▸ named)
      rwa [sorted_written] at kept
    · obtain ⟨before, given, rfl⟩ := Json.exists_of_mem_sortedMembers inside
      cases only before given also
      rw [sorted_written]
  | omitted none =>
    refine .omitted fun other inside => ?_
    obtain ⟨before, given, rfl⟩ := Json.exists_of_mem_sortedMembers inside
    exact none before given

theorem memberOf_of_shown (shown : Shown members field value) : memberOf members field = written value := by
  cases shown with
  | member named here only =>
    have found : (members.find? fun member => field.isNamed member.1).isSome = true :=
      List.find?_isSome.mpr ⟨_, here, named⟩
    obtain ⟨first, found⟩ := Option.isSome_iff_exists.mp found
    have also : field.isNamed first.1 = true := by simpa using List.find?_some found
    cases only first (List.mem_of_find?_eq_some found) also
    rw [memberOf, found]
    rfl
  | omitted none =>
    have absent : (members.find? fun member => field.isNamed member.1) = .none :=
      List.find?_eq_none.mpr fun other inside => Bool.eq_false_iff.mp (none other inside)
    rw [memberOf, absent]
    rfl

theorem columnValue_of_shown (shown : Shown members field value) (takes : field.Takes value) :
    columnValue topic members field = .ok value := by
  obtain ⟨⟨typed, nullable⟩, finite⟩ := takes
  unfold columnValue
  simp only [memberOf_of_shown shown, scalarOf_written typed finite]
  refine if_neg fun refused => ?_
  cases value <;> simp [Scalar.isNull, nullable] at refused

theorem Lists.exists_named (lists : Lists fields values own) {member : String × Json} (inside : member ∈ own) :
    ∃ field ∈ fields, field.isNamed member.1 = true := by
  induction lists with
  | nil => cases inside
  | @member field _ _ _ _ _ named _ ih =>
    rcases List.mem_cons.mp inside with rfl | later
    · exact ⟨field, List.mem_cons_self, named⟩
    · obtain ⟨other, given, also⟩ := ih later
      exact ⟨other, List.mem_cons_of_mem _ given, also⟩
  | omitted _ ih =>
    obtain ⟨other, given, also⟩ := ih inside
    exact ⟨other, List.mem_cons_of_mem _ given, also⟩

theorem Lists.apart (lists : Lists fields values own)
    (apart : ∀ other ∈ fields, field.isNamed other.name = false) :
    ∀ member ∈ own, field.isNamed member.1 = false := by
  intro member inside
  obtain ⟨other, among, named⟩ := lists.exists_named inside
  exact Field.isNamed_apart (apart other among) named

theorem Lists.shown (lists : Lists fields values own)
    (distinct : fields.Pairwise fun field other => field.isNamed other.name = false) (inside : own ⊆ members)
    (others : ∀ member ∈ members, member ∈ own ∨ ∀ field ∈ fields, field.isNamed member.1 = false) :
    List.Forall₂ (Shown members) fields values := by
  -- on the columns: no member that is for the first is for a later one, nor the other way round
  induction lists with
  | nil => exact .nil
  | @member field fields value values name own named later ih =>
    obtain ⟨apart, distinct⟩ := List.pairwise_cons.mp distinct
    have own_apart := later.apart apart
    refine .cons (.member named (inside List.mem_cons_self) fun other given also => ?_)
      (ih distinct (List.subset_of_cons_subset inside) fun other given => ?_)
    · rcases others other given with among | unnamed
      · refine (List.mem_cons.mp among).resolve_right fun among => ?_
        exact Bool.noConfusion (also.symm.trans (own_apart other among))
      · exact Bool.noConfusion (also.symm.trans (unnamed field List.mem_cons_self))
    · rcases others other given with among | unnamed
      · rcases List.mem_cons.mp among with rfl | among
        · refine .inr fun next given => Bool.eq_false_iff.mpr fun also => ?_
          exact Bool.noConfusion (named.symm.trans (Field.isNamed_apart (apart next given) also))
        · exact .inl among
      · exact .inr fun next given => unnamed next (List.mem_cons_of_mem _ given)
  | @omitted field fields values own later ih =>
    obtain ⟨apart, distinct⟩ := List.pairwise_cons.mp distinct
    refine .cons (.omitted fun other given => ?_) (ih distinct inside fun other given => ?_)
    · rcases others other given with among | unnamed
      · exact later.apart apart other among
      · exact unnamed field List.mem_cons_self
    · exact (others other given).imp_right fun unnamed next given => unnamed next (List.mem_cons_of_mem _ given)

theorem Shows.shown (shows : Shows schema row members) (distinct : schema.Distinct) :
    List.Forall₂ (Shown members) schema.fields row.values := by
  obtain ⟨own, others, lists, perm, unnamed⟩ := shows
  refine lists.shown distinct (fun member given => perm.mem_iff.mpr (List.mem_append_left _ given)) ?_
  intro member given
  exact (List.mem_append.mp (perm.mem_iff.mp given)).imp_right (unnamed member)

theorem rowOf_of_shows (distinct : schema.Distinct) (conforms : row.Conforms schema)
    (shows : Shows schema row members) : rowOf topic schema (Json.object members).sorted = .ok row := by
  have each : List.Forall₂ (fun field value =>
      columnValue topic (Json.sortedMembers members) field = .ok value) schema.fields row.values :=
    (forall₂_both (shows.shown distinct) conforms).imp fun _ _ both =>
      columnValue_of_shown both.1.sortedMembers both.2
  rw [Json.sorted_object, rowOf, mapM_eq_ok.mpr each]
  rfl

theorem rowsOf_of_shows {rows : List Row} {objects : List (List (String × Json))} (distinct : schema.Distinct)
    (conform : ∀ row ∈ rows, row.Conforms schema) (shows : List.Forall₂ (Shows schema) rows objects) :
    rowsOf topic schema (Json.list (objects.map .object)).sorted = .ok rows := by
  rw [Json.sorted_list, rowsOf, List.map_map, mapM_eq_ok, List.forall₂_map_left_iff]
  induction shows with
  | nil => exact .nil
  | cons first _ ih =>
    obtain ⟨conforms, later⟩ := List.forall_mem_cons.mp conform
    exact .cons (rowOf_of_shows distinct conforms first) (ih later)

theorem exists_lists (takes : List.Forall₂ Field.Takes fields values) : ∃ own, Lists fields values own := by
  induction takes with
  | nil => exact ⟨[], .nil⟩
  | cons _ _ ih =>
    obtain ⟨own, lists⟩ := ih
    exact ⟨_, .member (Text.sameIgnoringCase_self _) lists⟩

theorem exists_objects {rows : List Row} (conform : ∀ row ∈ rows, row.Conforms schema) :
    ∃ objects, List.Forall₂ (Shows schema) rows objects := by
  induction rows with
  | nil => exact ⟨[], .nil⟩
  | cons row rows ih =>
    obtain ⟨conforms, later⟩ := List.forall_mem_cons.mp conform
    obtain ⟨own, lists⟩ := exists_lists conforms
    have shows : Shows schema row own := ⟨own, [], lists, by simp, by simp⟩
    obtain ⟨objects, others⟩ := ih later
    exact ⟨own :: objects, .cons shows others⟩

end

section
variable {document : List (String × Json)} {data : SourceData} {stage : Stage} {topic : String}
variable {stages : List Stage} {rows : String → List Row} {t : Topology}

theorem load_fresh {j : Json} {more : List Row} (source : stage.op.sourceTopic = some topic)
    (fresh : data.find topic = none) (given : document.lookup topic = some j)
    (read : rowsOf topic stage.schema j = .ok more) :
    ∃ after, load document data stage = .ok after ∧ after.find topic = some more := by
  refine ⟨data.push topic more, ?_, ?_⟩
  · simp only [load, source, fresh, given, read, Option.isSome_none, Bool.false_eq_true, if_false]
    rfl
  · simp [find_push, SourceData.rows, fresh]

/-- Sources whose topics are all different take the rows that the document has for each. -/
theorem exists_loads (distinct : (stages.map (·.op.sourceTopic)).Nodup)
    (fresh : ∀ stage ∈ stages, ∀ topic ∈ stage.op.sourceTopic, data.find topic = none)
    (given : ∀ stage ∈ stages, ∀ topic ∈ stage.op.sourceTopic, ∃ j, document.lookup topic = some j ∧
      rowsOf topic stage.schema j = .ok (rows topic)) (sources : ∀ stage ∈ stages, stage.op.isSource = true) :
    ∃ after, stages.foldlM (load document) data = .ok after ∧
      ∀ stage ∈ stages, ∀ topic ∈ stage.op.sourceTopic, after.find topic = some (rows topic) := by
  -- on the sources: those to come read other topics, so they find theirs fresh and leave that of the first
  induction stages generalizing data with
  | nil => exact ⟨data, rfl, by simp⟩
  | cons stage stages ih =>
    obtain ⟨apart, distinct⟩ := List.nodup_cons.mp distinct
    obtain ⟨own_fresh, fresh⟩ := List.forall_mem_cons.mp fresh
    obtain ⟨own_given, given⟩ := List.forall_mem_cons.mp given
    obtain ⟨isSource, sources⟩ := List.forall_mem_cons.mp sources
    obtain ⟨topic, source⟩ := Option.isSome_iff_exists.mp isSource
    obtain ⟨j, present, read⟩ := own_given topic source
    obtain ⟨middle, here, taken⟩ := load_fresh source (own_fresh topic source) present read
    have other_topic : ∀ other ∈ stages, other.op.sourceTopic ≠ stage.op.sourceTopic := fun other inside same =>
      apart (List.mem_map.mpr ⟨other, inside, same⟩)
    have later_fresh : ∀ other ∈ stages, ∀ name ∈ other.op.sourceTopic, middle.find name = none := by
      intro other inside name reads
      rw [find_load here fun same => other_topic other inside (reads.trans same.symm)]
      exact fresh other inside name reads
    obtain ⟨after, later, found⟩ := ih distinct later_fresh given sources
    refine ⟨after, bind_eq_ok.mpr ⟨middle, here, later⟩, List.forall_mem_cons.mpr ⟨fun name reads => ?_, found⟩⟩
    cases source.symm.trans reads
    rw [find_loads later fun other inside same => other_topic other inside (same.trans source.symm)]
    exact taken

theorem exists_topics (sources : ∀ stage ∈ stages, stage.op.isSource = true)
    (conform : ∀ stage ∈ stages, ∀ topic ∈ stage.op.sourceTopic, ∀ row ∈ rows topic, row.Conforms stage.schema) :
    ∃ topics : List (String × Json), topics.map (fun entry => some entry.1) = stages.map (·.op.sourceTopic) ∧
      ∀ stage ∈ stages, Carries topics rows stage := by
  induction stages with
  | nil => exact ⟨[], rfl, by simp⟩
  | cons stage stages ih =>
    obtain ⟨isSource, sources⟩ := List.forall_mem_cons.mp sources
    obtain ⟨own, conform⟩ := List.forall_mem_cons.mp conform
    obtain ⟨topic, source⟩ := Option.isSome_iff_exists.mp isSource
    obtain ⟨objects, shows⟩ := exists_objects (own topic source)
    obtain ⟨topics, names, others⟩ := ih sources conform
    refine ⟨(topic, .list (objects.map .object)) :: topics, by simp [names, source],
      List.forall_mem_cons.mpr ⟨fun name reads => ?_, fun other inside name reads => ?_⟩⟩
    · cases source.symm.trans reads
      exact ⟨objects, List.mem_cons_self, shows⟩
    · obtain ⟨objects, present, shows⟩ := others other inside name reads
      exact ⟨objects, List.mem_cons_of_mem _ present, shows⟩

end

/-- Rows that conform to the schemas of their sources, no two of which share a topic, can be fed, and
however they are written they are what is read. -/
theorem rows_fed {t : Topology} {rows : String → List Row} (apart : (t.sources.map (·.op.sourceTopic)).Nodup)
    (distinct : ∀ stage ∈ t.sources, stage.schema.Distinct)
    (conform : ∀ stage ∈ t.sources, ∀ topic ∈ stage.op.sourceTopic, ∀ row ∈ rows topic,
      row.Conforms stage.schema) :
    (∃ document, Feeds t rows document) ∧ ∀ document, Feeds t rows document →
      ∃ data, ofJson document.sorted t = .ok data ∧
        (∀ stage ∈ t.sources, ∀ topic ∈ stage.op.sourceTopic, data.find topic = some (rows topic)) ∧
        ∀ topic, (∀ stage ∈ t.sources, stage.op.sourceTopic ≠ some topic) → data.find topic = none := by
  have sources : ∀ stage ∈ t.sources, stage.op.isSource = true := fun stage member => (List.mem_filter.mp member).2
  constructor
  · obtain ⟨topics, names, feeds⟩ := exists_topics sources conform
    refine ⟨.object topics, topics, rfl, List.Nodup.of_map some ?_, feeds⟩
    rw [List.map_map]
    exact names ▸ apart
  rintro _ ⟨topics, rfl, once, feeds⟩
  have given : ∀ stage ∈ t.sources, ∀ topic ∈ stage.op.sourceTopic, ∃ j,
      (Json.sortedMembers topics).lookup topic = some j ∧ rowsOf topic stage.schema j = .ok (rows topic) := by
    intro stage member topic source
    obtain ⟨objects, present, shows⟩ := feeds stage member topic source
    have kept := Json.mem_sortedMembers present fun other inside same =>
      List.inj_on_of_nodup_map once inside present same
    exact ⟨_, (Json.ascending_sortedMembers topics).lookup_eq_some kept,
      rowsOf_of_shows (distinct stage member) (conform stage member topic source) shows⟩
  have fresh : ∀ stage ∈ t.sources, ∀ topic ∈ stage.op.sourceTopic, empty.find topic = none := fun _ _ _ _ => rfl
  obtain ⟨data, loaded, found⟩ := exists_loads apart fresh given sources
  refine ⟨data, ?_, found, fun topic unread => find_loads loaded unread⟩
  rw [Json.sorted_object]
  exact loaded

def readings : Schema :=
  ⟨[⟨"id", .int64, false⟩, ⟨"level", .float32, true⟩, ⟨"raw", .binary, true⟩, ⟨"tag", .utf8, true⟩]⟩

def places : Schema := ⟨[⟨"tag", .utf8, false⟩, ⟨"floor", .int32, true⟩]⟩

/-- Readings as they come, and where they are taken. -/
def meter : Topology :=
  .recorded [.stream "readings" .json readings "id", .table "places" .json "places_store" places "tag"]

/-- The first reading has more than was asked for, in an order and in letters of its own; the second has no
more than it needs, and a null. -/
def reported : Json :=
  .object [("others", .null),
    ("readings", .list [
      .object [("unit", .text "bar"), ("TAG", .text "a"), ("Raw", .list [.whole 0, .whole 255]),
        ("LEVEL", .real (Decimal.widen (Float32.ofBits 0x3dcccccd))), ("id", .whole (-7))],
      .object [("raw", .null), ("ID", .whole 8)]]),
    ("places", .list [.object [("tag", .text "a"), ("Floor", .whole (-2))]])]

def reportedRows (topic : String) : List Row :=
  if topic = "readings" then
    [⟨[.int64 (-7), .float32 (Float32.ofBits 0x3dcccccd), .bytes [0, 255], .text "a"]⟩,
      ⟨[.int64 8, .null, .null, .null]⟩]
  else [⟨[.text "a", .int32 (-2)]⟩]

theorem takes_value {field : Field} {value : Scalar} (typed : value.dataType = some field.dataType)
    (finite : value.isFinite = true) : field.Takes value :=
  ⟨⟨.inr typed, fun null => by simp [null, Scalar.dataType] at typed⟩, finite⟩

theorem takes_null {field : Field} (nullable : field.nullable = true) : field.Takes .null :=
  ⟨⟨.inl rfl, fun _ => nullable⟩, rfl⟩

theorem reportedRows_conform : ∀ stage ∈ meter.sources, ∀ topic ∈ stage.op.sourceTopic,
    ∀ row ∈ reportedRows topic, row.Conforms stage.schema := by
  refine List.forall_mem_cons.mpr ⟨?_, List.forall_mem_singleton.mpr ?_⟩
  · rintro _ ⟨⟩
    refine List.forall_mem_cons.mpr ⟨?_, List.forall_mem_singleton.mpr ?_⟩
    · exact .cons (takes_value rfl rfl) (.cons (takes_value rfl (by decide)) (.cons (takes_value rfl rfl)
        (.cons (takes_value rfl rfl) .nil)))
    · exact .cons (takes_value rfl rfl) (.cons (takes_null rfl) (.cons (takes_null rfl)
        (.cons (takes_null rfl) .nil)))
  · rintro _ ⟨⟩
    exact List.forall_mem_singleton.mpr (.cons (takes_value rfl rfl) (.cons (takes_value rfl rfl) .nil))

theorem reported_feeds : Feeds meter reportedRows reported := by
  refine ⟨_, rfl, by decide, List.forall_mem_cons.mpr ⟨?_, List.forall_mem_singleton.mpr ?_⟩⟩
  · rintro _ ⟨⟩
    refine ⟨[_, _], List.mem_cons_of_mem _ List.mem_cons_self, .cons ?_ (.cons ?_ .nil)⟩
    · refine ⟨[("id", _), ("LEVEL", _), ("Raw", _), ("TAG", _)], [("unit", .text "bar")],
        .member (by decide) (.member (by decide) (.member (by decide) (.member (by decide) .nil))), ?_, by decide⟩
      exact (List.reverse_perm _).symm
    · refine ⟨[("ID", _), ("raw", _)], [],
        .member (by decide) (.omitted (.member (by decide) (.omitted .nil))), ?_, by simp⟩
      exact .swap _ _ _
  · rintro _ ⟨⟩
    refine ⟨[_], List.mem_cons_of_mem _ (List.mem_cons_of_mem _ List.mem_cons_self), .cons ?_ .nil⟩
    exact ⟨[("tag", _), ("Floor", _)], [], .member (by decide) (.member (by decide) .nil), .refl _, by simp⟩

theorem reported_fed : (meter.sources.map (·.op.sourceTopic)).Nodup ∧
    (∀ stage ∈ meter.sources, stage.schema.Distinct) ∧
    (∀ stage ∈ meter.sources, ∀ topic ∈ stage.op.sourceTopic, ∀ row ∈ reportedRows topic,
      row.Conforms stage.schema) ∧
    Feeds meter reportedRows reported ∧ ∃ data, ofJson reported.sorted meter = .ok data ∧
      data.find "readings" = some (reportedRows "readings") ∧ data.find "places" = some (reportedRows "places") ∧
      data.find "others" = none := by
  have apart : (meter.sources.map (·.op.sourceTopic)).Nodup := by decide
  have distinct : ∀ stage ∈ meter.sources, stage.schema.Distinct := by decide
  obtain ⟨data, read, found, unread⟩ := (rows_fed apart distinct reportedRows_conform).2 reported reported_feeds
  obtain ⟨readings, places⟩ := List.forall_mem_cons.mp found
  exact ⟨apart, distinct, reportedRows_conform, reported_feeds, data, read, readings _ rfl,
    List.forall_mem_singleton.mp places _ rfl, unread _ (by decide)⟩

end SourceData
end StreamPlan
