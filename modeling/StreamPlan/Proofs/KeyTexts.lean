import StreamPlan.Proofs.DecimalTexts
import StreamPlan.Proofs.InputRows
import StreamPlan.Proofs.LatestRows

/-! The texts that rows are filed under. Among the values of one column none of which is a floating-point
number, two are shown alike only if they are the same, or one is null and the other the text of that name.
So a table source loses no row of another key value, except that null and that text are one key to it. -/
namespace StreamPlan

/-- No whole number has a letter in its text. -/
theorem Decimal.not_mem_wholeChars {c : Char} (mark : c ≠ '-') (other : c.isDigit = false) (n : Int) :
    c ∉ wholeChars n := by
  have absent : c ∉ countChars n.natAbs := fun member => by
    rw [isDigit_of_mem_countChars member] at other
    cases other
  unfold wholeChars
  split
  · exact List.not_mem_cons_of_ne_of_not_mem mark absent
  · exact absent

namespace Scalar

theorem digitChar_inj : ∀ m < 16, ∀ n < 16, Nat.digitChar m = Nat.digitChar n → m = n := by decide

theorem digitChar_ne_n : ∀ n < 16, Nat.digitChar n ≠ 'n' := by decide

theorem halves_lt (byte : UInt8) : byte.toNat / 16 < 16 ∧ byte.toNat % 16 < 16 := by
  have bound := byte.toNat_lt
  omega

theorem hexDigits_inj {b c : UInt8} (same : hexDigits b = hexDigits c) : b = c := by
  simp only [hexDigits, List.cons.injEq, and_true] at same
  have high := digitChar_inj _ (halves_lt b).1 _ (halves_lt c).1 same.1
  have low := digitChar_inj _ (halves_lt b).2 _ (halves_lt c).2 same.2
  apply UInt8.toNat_inj.mp
  omega

theorem flatMap_hexDigits_inj {bs cs : List UInt8} (same : bs.flatMap hexDigits = cs.flatMap hexDigits) :
    bs = cs := by
  induction bs generalizing cs with
  | nil =>
    cases cs with
    | nil => rfl
    | cons c cs => simp [hexDigits] at same
  | cons b bs ih =>
    cases cs with
    | nil => simp [hexDigits] at same
    | cons c cs =>
      rw [List.flatMap_cons, List.flatMap_cons] at same
      obtain ⟨first, rest⟩ := List.append_inj same rfl
      rw [hexDigits_inj first, ih rest]

theorem n_not_mem_hexDigits (bs : List UInt8) : 'n' ∉ bs.flatMap hexDigits := by
  intro member
  obtain ⟨byte, _, digit⟩ := List.mem_flatMap.mp member
  rcases List.mem_pair.mp digit with same | same
  · exact digitChar_ne_n _ (halves_lt byte).1 same.symm
  · exact digitChar_ne_n _ (halves_lt byte).2 same.symm

/-- What a value counts as where its text is the key: null as the text it is shown as. -/
def filed : Scalar → Scalar
  | .null => .text "null"
  | value => value

theorem filed_eq_iff {v w : Scalar} : v.filed = w.filed ↔
    v = w ∨ v = .null ∧ w = .text "null" ∨ v = .text "null" ∧ w = .null := by
  cases v <;> cases w <;> simp [filed, eq_comm]

theorem filed_of_dataType {value : Scalar} {type : DataType} (typed : value.dataType = some type) :
    value.filed = value := by
  cases value <;> first | rfl | cases typed

/-- Only a text can be shown as null is, floating-point numbers aside. -/
theorem display_ne_null {value : Scalar} {type : DataType} (typed : value.dataType = some type)
    (exact : type.isFloat = false) (other : type ≠ .utf8) : value.display ≠ "null" := by
  have without {chars : List Char} (absent : 'n' ∉ chars) : String.ofList chars ≠ "null" := by
    intro same
    have first : 'n' ∈ (String.ofList chars).toList := same ▸ (by decide)
    rw [String.toList_ofList] at first
    exact absent first
  have letter (n : Int) := Decimal.not_mem_wholeChars (show 'n' ≠ '-' by decide) rfl n
  cases value with
  | null => cases typed
  | bool b => cases b <;> decide
  | int32 n => exact without (letter _)
  | int64 n => exact without (letter _)
  | float32 | float64 =>
    cases typed
    cases exact
  | text => exact absurd (Option.some.inj typed).symm other
  | bytes bs => exact without (n_not_mem_hexDigits bs)

/-- Values of one type are shown alike only if they are the same, floating-point numbers aside. -/
theorem display_inj {v w : Scalar} {type : DataType} (typed : v.dataType = some type)
    (also : w.dataType = some type) (exact : type.isFloat = false) (same : v.display = w.display) : v = w := by
  cases type <;> cases v <;> cases typed <;> cases w <;> cases also
  case boolean b c =>
    cases b <;> cases c <;> first | rfl | exact absurd same (by decide)
  case int32 m n =>
    rw [Int32.toInt_inj.mp (Decimal.wholeChars_inj.mp (String.ofList_injective same))]
  case int64 m n =>
    rw [Int64.toInt_inj.mp (Decimal.wholeChars_inj.mp (String.ofList_injective same))]
  case float32 | float64 => cases exact
  case utf8 s r =>
    rw [show s = r from same]
  case binary bs cs =>
    rw [flatMap_hexDigits_inj (String.ofList_injective same)]

/-- A value is filed under the text that null is shown as only if it is that text. -/
theorem display_eq_null_iff {value : Scalar} {type : DataType} (typed : value.dataType = some type)
    (exact : type.isFloat = false) : value.display = "null" ↔ value = .text "null" := by
  refine ⟨fun same => ?_, fun same => by rw [same]; rfl⟩
  by_cases texts : type = .utf8
  · exact display_inj typed (texts ▸ rfl) exact same
  · exact absurd same (display_ne_null typed exact texts)

theorem display_eq_iff {v w : Scalar} {type : DataType} (typed : v.HasType type) (also : w.HasType type)
    (exact : type.isFloat = false) : v.display = w.display ↔ v.filed = w.filed := by
  rcases typed with rfl | typed <;> rcases also with rfl | also
  · exact iff_of_true rfl rfl
  · rw [filed_of_dataType also, eq_comm, eq_comm (b := w)]
    exact display_eq_null_iff also exact
  · rw [filed_of_dataType typed]
    exact display_eq_null_iff typed exact
  · rw [filed_of_dataType typed, filed_of_dataType also]
    exact ⟨display_inj typed also exact, fun same => by rw [same]⟩

end Scalar

/-- Exactly one record for each of the values the rows have, and in it the last row that has the value. -/
def Tabulates {α : Type} [DecidableEq α] (valueOf : Row → α) (rows : List Row) (table : List Record) : Prop :=
  (table.map fun record => valueOf record.row).Nodup ∧
    ∀ row, (∃ record ∈ table, record.row = row) ↔
      rows.reverse.find? (fun other => valueOf other = valueOf row) = some row

section
variable {α : Type} [DecidableEq α] {valueOf : Row → α} {schema : Schema} {key : String} {rows : List Row}

/-- A row in the table is the last one of its key. -/
theorem row_mem_lastPerKey {row : Row} :
    (∃ record ∈ lastPerKey (rows.map (Row.keyedBy schema key)), record.row = row) ↔
      Row.lastOf schema key rows (row.textOf schema key) = some row := by
  simp only [mem_lastPerKey_iff, lastOf_keyedBy, Option.map_eq_some_iff]
  constructor
  · rintro ⟨_, ⟨last, found, rfl⟩, rfl⟩
    exact found
  · intro found
    exact ⟨Row.keyedBy schema key row, ⟨row, found, rfl⟩, rfl⟩

theorem taken_of_mem_lastPerKey {record : Record}
    (member : record ∈ lastPerKey (rows.map (Row.keyedBy schema key))) :
    record.row ∈ rows ∧ record.key = record.row.textOf schema key := by
  obtain ⟨row, inside, rfl⟩ := List.mem_map.mp (mem_of_mem_lastPerKey member)
  exact ⟨inside, rfl⟩

/-- A table by texts is a table by whatever the texts tell apart. -/
theorem tabulates_lastPerKey (tells : ∀ row ∈ rows, ∀ other ∈ rows,
    row.textOf schema key = other.textOf schema key ↔ valueOf row = valueOf other) :
    Tabulates valueOf rows (lastPerKey (rows.map (Row.keyedBy schema key))) := by
  constructor
  · have unique := List.pairwise_map.mp (nodup_lastPerKey (rows.map (Row.keyedBy schema key)))
    refine List.pairwise_map.mpr (unique.imp_of_mem fun {record other} member also apart same => apart ?_)
    obtain ⟨inside, text⟩ := taken_of_mem_lastPerKey member
    obtain ⟨alsoInside, alsoText⟩ := taken_of_mem_lastPerKey also
    rw [text, alsoText]
    exact (tells _ inside _ alsoInside).mpr same
  · intro row
    rw [row_mem_lastPerKey]
    by_cases member : row ∈ rows
    · have alike : rows.reverse.find? (fun other => other.textOf schema key = row.textOf schema key) =
          rows.reverse.find? fun other => valueOf other = valueOf row := by
        rw [← List.head?_filter, ← List.head?_filter]
        congr 1
        apply List.filter_congr
        intro other inside
        exact decide_eq_decide.mpr (tells other (List.mem_reverse.mp inside) row member)
      rw [Row.lastOf, alike]
    · have absent {test : Row → Bool} : rows.reverse.find? test ≠ some row := fun found =>
        member (List.mem_reverse.mp (List.mem_of_find?_eq_some found))
      exact iff_of_false absent absent

/-- In a table by values every row finds the last one of its value. -/
theorem Tabulates.exists_last {table : List Record} (tabulates : Tabulates valueOf rows table) {row : Row}
    (member : row ∈ rows) : ∃ record ∈ table, valueOf record.row = valueOf row := by
  have found : (rows.reverse.find? fun other => valueOf other = valueOf row).isSome = true :=
    List.find?_isSome.mpr ⟨row, List.mem_reverse.mpr member, decide_eq_true rfl⟩
  obtain ⟨last, found⟩ := Option.isSome_iff_exists.mp found
  have same : valueOf last = valueOf row := by simpa using List.find?_some found
  obtain ⟨record, inside, rfl⟩ := (tabulates.2 last).mpr (same ▸ found)
  exact ⟨record, inside, same⟩

end

/-- Some row has null in the column, and some row the text that null is shown as. -/
def Confused (position : Nat) (rows : List Row) : Prop :=
  (∃ row ∈ rows, row.get? position = some .null) ∧ ∃ row ∈ rows, row.get? position = some (.text "null")

/-- Every row has a value of the type in the column, and its key is the text of that. -/
def KeyedByColumn (schema : Schema) (key : String) (position : Nat) (type : DataType) (rows : List Row) : Prop :=
  ∀ row ∈ rows, ∃ value, row.get? position = some value ∧ value.HasType type ∧
    row.textOf schema key = value.display

namespace KeyedByColumn

variable {schema : Schema} {key : String} {position : Nat} {type : DataType} {rows : List Row}

theorem of_keeps {field : Field} (column : schema.index key = some position)
    (here : schema.fields[position]? = some field) (keeps : ∀ row ∈ rows, row.Keeps schema) :
    KeyedByColumn schema key position field.dataType rows := by
  intro row member
  obtain ⟨value, given, typed⟩ := (keeps row member).fits.get? here
  exact ⟨value, given, typed, by simp [Row.textOf, column, given]⟩

theorem tabulates_filed (keyed : KeyedByColumn schema key position type rows) (exact : type.isFloat = false) :
    Tabulates (fun row => (row.get? position).map Scalar.filed) rows
      (lastPerKey (rows.map (Row.keyedBy schema key))) := by
  apply tabulates_lastPerKey
  intro row member other also
  obtain ⟨value, here, typed, text⟩ := keyed row member
  obtain ⟨second, there, alsoTyped, alsoText⟩ := keyed other also
  rw [text, alsoText, here, there, Option.map_some, Option.map_some, Option.some.injEq]
  exact Scalar.display_eq_iff typed alsoTyped exact

theorem tabulates_iff (keyed : KeyedByColumn schema key position type rows) (exact : type.isFloat = false) :
    Tabulates (fun row => row.get? position) rows (lastPerKey (rows.map (Row.keyedBy schema key))) ↔
      ¬ Confused position rows := by
  constructor
  · rintro tabulates ⟨⟨row, member, null⟩, other, also, word⟩
    obtain ⟨first, inside, same⟩ := tabulates.exists_last member
    obtain ⟨second, alsoInside, alsoSame⟩ := tabulates.exists_last also
    -- both records are there, and under one key
    have filedUnder {record : Record} {value : Scalar} (shown : value.display = "null")
        (inside : record ∈ lastPerKey (rows.map (Row.keyedBy schema key)))
        (here : record.row.get? position = some value) : record.key = "null" := by
      obtain ⟨taken, text⟩ := taken_of_mem_lastPerKey inside
      obtain ⟨held, given, _, shownAs⟩ := keyed record.row taken
      cases here.symm.trans given
      rw [text, shownAs, shown]
    have one := filedUnder rfl inside (same.trans null)
    have two := filedUnder rfl alsoInside (alsoSame.trans word)
    obtain rfl := List.inj_on_of_nodup_map (nodup_lastPerKey _) inside alsoInside (one.trans two.symm)
    cases (same.trans null).symm.trans (alsoSame.trans word)
  · intro clear
    apply tabulates_lastPerKey
    intro row member other also
    obtain ⟨value, here, typed, text⟩ := keyed row member
    obtain ⟨second, there, alsoTyped, alsoText⟩ := keyed other also
    rw [text, alsoText, here, there, Option.some.injEq, Scalar.display_eq_iff typed alsoTyped exact,
      Scalar.filed_eq_iff]
    refine or_iff_left ?_
    rintro (⟨rfl, rfl⟩ | ⟨rfl, rfl⟩)
    · exact clear ⟨⟨row, member, here⟩, other, also, there⟩
    · exact clear ⟨⟨other, also, there⟩, row, member, here⟩

end KeyedByColumn

namespace Topology
open Run

/-- The table of a source whose key column has no floating-point numbers. Over rows of its schema it has one
record for each key value, and the last row of that value in it, where null counts as the text `null`.
It has one for each of the values themselves unless rows of both come. -/
theorem table_tabulates (t : Topology) (results : List (List Record)) {data : SourceData} {stage : Stage}
    {topic : String} {position : Nat} {field : Field} (source : stage.op.sourceTopic = some topic)
    (table : stage.kind = .table) (column : stage.schema.index stage.keyField = some position)
    (key : stage.schema.fields[position]? = some field) (exact : field.dataType.isFloat = false)
    (keeps : ∀ row ∈ data.rows topic, row.Keeps stage.schema) :
    ∃ made, stageRecords t data results stage = .ok made ∧
      Tabulates (fun row => (row.get? position).map Scalar.filed) (data.rows topic) made ∧
      (Tabulates (fun row => row.get? position) (data.rows topic) made ↔
        ¬ Confused position (data.rows topic)) := by
  have found : stage.schema.find stage.keyField = some field :=
    Schema.find_eq_some_iff.mpr ⟨position, column, key⟩
  have done : stageRecords t data results stage =
      .ok (lastPerKey ((data.rows topic).map (Row.keyedBy stage.schema stage.keyField))) := by
    rw [stageRecords_source source, sourceRecords,
      keyed_of_widths found fun row member => (keeps row member).fits.length_eq, blame]
    simp only [ok_bind, pure_eq_ok, if_pos table, latestPerKey_eq_lastPerKey]
  have keyed := KeyedByColumn.of_keeps column key keeps
  exact ⟨_, done, keyed.tabulates_filed exact, keyed.tabulates_iff exact⟩

/-- People by nickname, which not everybody has. -/
def nicknames : Stage :=
  ⟨⟨0⟩, .tableSource "people" .json "people-store", [],
    ⟨[⟨"nick", .utf8, true⟩, ⟨"name", .utf8, false⟩]⟩, "nick", .table⟩

def people (given : List (Option String × String)) : SourceData :=
  ⟨[("people", given.map fun (nick, name) => ⟨[(nick.map Scalar.text).getD .null, .text name]⟩)]⟩

theorem keeps_people (given : List (Option String × String)) :
    ∀ row ∈ (people given).rows "people", row.Keeps nicknames.schema := by
  intro row member
  obtain ⟨⟨nick, name⟩, _, rfl⟩ := List.mem_map.mp (show row ∈ given.map _ from member)
  cases nick with
  | none => exact .cons ⟨.inl rfl, fun _ => rfl⟩ (.cons ⟨.inr rfl, nofun⟩ .nil)
  | some nick => exact .cons ⟨.inr rfl, nofun⟩ (.cons ⟨.inr rfl, nofun⟩ .nil)

/-- Rob takes the nickname of Bob, and nobody the one of Ann, who has none. -/
theorem nicknames_tabulated : ∃ made,
    stageRecords ⟨[nicknames]⟩ (people [(none, "ann"), (some "bo", "bob"), (some "bo", "rob")]) [] nicknames =
      .ok made ∧
    made = [⟨"null", ⟨[.null, .text "ann"]⟩⟩, ⟨"bo", ⟨[.text "bo", .text "rob"]⟩⟩] ∧
    Tabulates (fun row => row.get? 0)
      ((people [(none, "ann"), (some "bo", "bob"), (some "bo", "rob")]).rows "people") made := by
  obtain ⟨made, done, _, plain⟩ := table_tabulates ⟨[nicknames]⟩ [] rfl rfl rfl rfl rfl
    (keeps_people [(none, "ann"), (some "bo", "bob"), (some "bo", "rob")])
  refine ⟨made, done, (Except.ok.inj done).symm, plain.mpr ?_⟩
  unfold Confused
  decide

/-- Zed, who calls himself null, takes the place of Ann. -/
theorem not_tabulates : ¬ ∀ (t : Topology) (results : List (List Record)) (data : SourceData) (stage : Stage)
    (topic : String) (position : Nat) (field : Field), stage.op.sourceTopic = some topic → stage.kind = .table →
      stage.schema.index stage.keyField = some position → stage.schema.fields[position]? = some field →
        field.dataType.isFloat = false → (∀ row ∈ data.rows topic, row.Keeps stage.schema) →
          ∃ made, stageRecords t data results stage = .ok made ∧
            Tabulates (fun row => row.get? position) (data.rows topic) made := by
  intro claimed
  obtain ⟨made, done, tabulates⟩ := claimed ⟨[nicknames]⟩ [] _ nicknames _ _ _ rfl rfl rfl rfl rfl
    (keeps_people [(none, "ann"), (some "null", "zed")])
  have only : made = [⟨"null", ⟨[.text "null", .text "zed"]⟩⟩] := (Except.ok.inj done).symm
  subst only
  have ann : ⟨[.null, .text "ann"]⟩ ∈ (people [(none, "ann"), (some "null", "zed")]).rows "people" :=
    List.mem_cons_self
  obtain ⟨record, member, null⟩ := tabulates.exists_last ann
  cases List.mem_singleton.mp member
  cases null

end Topology
end StreamPlan
