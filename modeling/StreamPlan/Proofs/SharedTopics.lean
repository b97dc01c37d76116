import StreamPlan.Proofs.Calls
import StreamPlan.Proofs.InputRows

/-! Sources that share a topic. A document is read once for each topic, against the schema of the first
source that reads it, and the rows are handed to every other source of the topic as they are. They fit
its schema as well where that admits all the first one does; nothing looks whether it does. -/
namespace StreamPlan

/-- The first source that reads the topic. -/
def Topology.reader (t : Topology) (topic : String) : Option Stage :=
  t.sources.find? fun stage => stage.op.sourceTopic = some topic

/-- Column by column of the same type, and nullable wherever the first schema is. -/
def Schema.Within (first other : Schema) : Prop :=
  List.Forall₂ (fun (f g : Field) => f.dataType = g.dataType ∧ (f.nullable = true → g.nullable = true))
    first.fields other.fields

theorem Schema.within_refl (schema : Schema) : schema.Within schema :=
  List.forall₂_same.mpr fun _ _ => ⟨rfl, id⟩

theorem Field.Admits.within {first other : Field} {value : Scalar} (admits : first.Admits value)
    (type : first.dataType = other.dataType) (nullable : first.nullable = true → other.nullable = true) :
    other.Admits value :=
  ⟨type ▸ admits.1, fun null => nullable (admits.2 null)⟩

theorem Row.Keeps.within {row : Row} {first other : Schema} (keeps : row.Keeps first)
    (within : first.Within other) : row.Keeps other :=
  forall₂_joined keeps.flip within fun _ _ _ admits same => Field.Admits.within admits same.1 same.2

namespace SourceData

/-- The rows of a topic are what the document has for it, read against the schema. -/
def Takes (document : List (String × Json)) (topic : String) (schema : Schema) (rows : List Row) : Prop :=
  match document.lookup topic with
  | none => rows = []
  | some j => rowsOf topic schema j = .ok rows

theorem Takes.keep {document : List (String × Json)} {topic : String} {schema : Schema} {rows : List Row}
    (takes : Takes document topic schema rows) : ∀ row ∈ rows, row.Keeps schema := by
  unfold Takes at takes
  split at takes
  · subst takes
    intro row member
    cases member
  · exact rowsOf_keep takes

section
variable {document : List (String × Json)} {data after : SourceData} {stage first : Stage} {topic : String}

/-- Rows that were taken are not touched again, and where the document has none there never are any. -/
theorem find_load_settled (loaded : load document data stage = .ok after)
    (settled : (data.find topic).isSome = true ∨ document.lookup topic = none) :
    after.find topic = data.find topic := by
  by_cases source : stage.op.sourceTopic = some topic
  · rcases settled with taken | absent
    · simp only [load, source, taken, if_true] at loaded
      cases loaded
      rfl
    · simp only [load, source, absent] at loaded
      split at loaded <;> cases loaded <;> rfl
  · exact find_load loaded source

theorem find_loads_settled {stages : List Stage} (loaded : stages.foldlM (load document) data = .ok after)
    (settled : (data.find topic).isSome = true ∨ document.lookup topic = none) :
    after.find topic = data.find topic := by
  induction stages generalizing data with
  | nil =>
    cases loaded
    rfl
  | cons stage rest ih =>
    obtain ⟨middle, here, later⟩ := bind_eq_ok.mp loaded
    have kept := find_load_settled here settled
    rw [ih later (kept ▸ settled), kept]

/-- The source that reads a topic first takes its rows, if the document has any, and settles them. -/
theorem takes_load (loaded : load document data stage = .ok after) (source : stage.op.sourceTopic = some topic)
    (fresh : data.find topic = none) :
    Takes document topic stage.schema (after.rows topic) ∧
      ((after.find topic).isSome = true ∨ document.lookup topic = none) := by
  simp only [load, source, fresh, Option.isSome_none, Bool.false_eq_true, if_false] at loaded
  unfold Takes
  cases present : document.lookup topic with
  | none =>
    rw [present] at loaded
    cases loaded
    refine ⟨?_, .inr rfl⟩
    change (data.find topic).getD [] = []
    rw [fresh, Option.getD_none]
  | some j =>
    rw [present] at loaded
    obtain ⟨rows, read, made⟩ := bind_eq_ok.mp loaded
    cases made
    have found : (data.push topic rows).find topic = some rows := by
      simp [find_push, SourceData.rows, fresh]
    refine ⟨?_, .inl (by rw [found, Option.isSome_some])⟩
    change rowsOf topic stage.schema j = .ok (((data.push topic rows).find topic).getD [])
    rw [found]
    exact read

theorem takes_loads {stages : List Stage} (loaded : stages.foldlM (load document) data = .ok after)
    (found : stages.find? (fun stage => stage.op.sourceTopic = some topic) = some first)
    (fresh : data.find topic = none) : Takes document topic first.schema (after.rows topic) := by
  -- on the sources: up to the first of the topic nothing is taken for it, from there on nothing changes
  induction stages generalizing data with
  | nil => cases found
  | cons stage rest ih =>
    obtain ⟨middle, here, later⟩ := bind_eq_ok.mp loaded
    rw [List.find?_cons] at found
    split at found
    · rename_i source
      cases found
      obtain ⟨takes, settled⟩ := takes_load here (of_decide_eq_true source) fresh
      rw [rows_of_find (find_loads_settled later settled)]
      exact takes
    · rename_i apart
      exact ih later found ((find_load here (of_decide_eq_false apart)).trans fresh)

end

/-- Every source reads what the document has for its topic as the first source of the topic reads it;
the rows fit the schema of that one, and so its own where that admits as much. -/
theorem rows_keep_reader {document : Json} {t : Topology} {data : SourceData} (read : ofJson document t = .ok data) :
    ∃ members, document = .object members ∧
      ∀ stage ∈ t.sources, ∀ topic ∈ stage.op.sourceTopic, ∃ first, t.reader topic = some first ∧
        Takes members topic first.schema (data.rows topic) ∧
        (∀ row ∈ data.rows topic, row.Keeps first.schema) ∧
        (first.schema.Within stage.schema → ∀ row ∈ data.rows topic, row.Keeps stage.schema) := by
  unfold ofJson at read
  split at read
  · rename_i members
    refine ⟨members, rfl, fun stage member topic source => ?_⟩
    have some_reader : (t.reader topic).isSome = true :=
      List.find?_isSome.mpr ⟨stage, member, decide_eq_true source⟩
    obtain ⟨first, found⟩ := Option.isSome_iff_exists.mp some_reader
    have takes : Takes members topic first.schema (data.rows topic) := takes_loads read found rfl
    exact ⟨first, found, takes, takes.keep, fun within row inside => (takes.keep row inside).within within⟩
  · cases read

/-- Events as a stream of texts, and again as a table of the given schema. -/
def reread (schema : Schema) (key : String) : Topology :=
  .recorded [.stream "events" .json ⟨[⟨"v", .utf8, false⟩]⟩ "v", .table "events" .json "events_store" schema key]

def letters : Json := .object [("events", .list [.object [("v", .text "x")]])]

theorem reread_keep : ∃ data, ofJson letters (reread ⟨[⟨"w", .utf8, true⟩]⟩ "w") = .ok data ∧
    data.rows "events" = [⟨[.text "x"]⟩] ∧
    ∀ stage ∈ (reread ⟨[⟨"w", .utf8, true⟩]⟩ "w").sources, ∀ row ∈ data.rows "events", row.Keeps stage.schema := by
  have read : ofJson letters (reread ⟨[⟨"w", .utf8, true⟩]⟩ "w") = .ok ⟨[("events", [⟨[.text "x"]⟩])]⟩ := by rfl
  obtain ⟨members, made, each⟩ := rows_keep_reader read
  refine ⟨_, read, rfl, fun stage member => ?_⟩
  have source : stage.op.sourceTopic = some "events" ∧
      Schema.Within ⟨[⟨"v", .utf8, false⟩]⟩ stage.schema := by
    rcases List.mem_pair.mp (show stage ∈ [_, _] from member) with rfl | rfl
    · exact ⟨rfl, Schema.within_refl _⟩
    · exact ⟨rfl, .cons ⟨rfl, fun _ => rfl⟩ .nil⟩
  obtain ⟨first, reader, _, _, own⟩ := each stage member "events" source.1
  cases reader
  exact own source.2

/-- A table of numbers is handed the texts that a stream of the same topic has taken. -/
theorem not_ownSchema : ¬ ∀ (calls : List Call) (document : Json) (data : SourceData),
    ofJson document (.recorded calls) = .ok data → data.Keeps (.recorded calls) := by
  intro own
  have read : ofJson letters (reread ⟨[⟨"v", .int64, false⟩]⟩ "v") = .ok ⟨[("events", [⟨[.text "x"]⟩])]⟩ := by rfl
  have keeps := own _ letters _ read ⟨⟨1⟩, .tableSource "events" .json "events_store", [], ⟨[⟨"v", .int64, false⟩]⟩, "v",
    .table⟩ (List.mem_cons_of_mem _ List.mem_cons_self) "events" rfl ⟨[.text "x"]⟩ List.mem_cons_self
  rcases keeps with _ | ⟨⟨typed, _⟩, _⟩
  rcases typed with null | typed
  · cases null
  · cases typed

end SourceData
end StreamPlan
