import StreamPlan.Proofs.SharedTopics
import StreamPlan.Proofs.SortedObjects

/-! The members of a row object that fields are read from. Objects are sorted by name, and of the members by
a field's name in any letter case it is the first that counts. That is the one spelled as the field is only
if no other spelling comes before it, as one with a capital letter in place of a small one does. -/
namespace StreamPlan

namespace Text

def upper (s : String) : String := String.ofList (s.toList.map Char.toUpper)

theorem toNat_toUpper (c : Char) :
    c.toUpper.toNat = if 97 ≤ c.toNat ∧ c.toNat ≤ 122 then c.toNat - 32 else c.toNat := by
  rw [← Char.toNat_val, ← Char.toNat_val]
  delta Char.toUpper
  split <;> grind [UInt32.toNat_add, UInt32.le_iff_toNat_le]

theorem toNat_toLower (c : Char) :
    c.toLower.toNat = if 65 ≤ c.toNat ∧ c.toNat ≤ 90 then c.toNat + 32 else c.toNat := by
  rw [← Char.toNat_val, ← Char.toNat_val]
  delta Char.toLower
  split <;> grind [UInt32.toNat_add, UInt32.le_iff_toNat_le]

theorem toUpper_le (c : Char) : c.toUpper ≤ c := by
  have below : c.toUpper.toNat ≤ c.toNat := by
    rw [toNat_toUpper]
    split_ifs <;> omega
  exact below

theorem toUpper_toLower (c : Char) : c.toLower.toUpper = c.toUpper := by
  apply Char.toNat_inj.mp
  rw [toNat_toUpper, toNat_toLower, toNat_toUpper]
  split_ifs <;> omega

theorem toLower_toUpper (c : Char) : c.toUpper.toLower = c.toLower := by
  apply Char.toNat_inj.mp
  rw [toNat_toLower, toNat_toUpper, toNat_toLower]
  split_ifs <;> omega

/-- Capital letters come before small ones. -/
theorem upper_le (s : String) : upper s ≤ s := by
  rw [upper, String.le_iff_toList_le, String.toList_ofList]
  induction s.toList with
  | nil => exact le_rfl
  | cons c cs ih =>
    rw [List.map_cons]
    rcases (toUpper_le c).lt_or_eq with before | same
    · exact le_of_lt (List.Lex.rel before)
    · rw [same]
      exact List.cons_le_cons c ih

theorem upper_lower (s : String) : upper (lower s) = upper s := by
  simp only [upper, lower, String.toList_ofList, List.map_map, Function.comp_def, toUpper_toLower]

theorem lower_upper (s : String) : lower (upper s) = lower s := by
  simp only [upper, lower, String.toList_ofList, List.map_map, Function.comp_def, toLower_toUpper]

/-- A name without small letters comes before all its other spellings. -/
theorem le_of_upper {a b : String} (capitals : upper a = a) (same : sameIgnoringCase a b = true) : a ≤ b := by
  have spelled : a = upper b := by
    rw [← capitals, ← upper_lower a, sameIgnoringCase_iff.mp same, upper_lower]
  exact spelled ▸ upper_le b

end Text

namespace SourceData

open Json (Ascending InOrder)

/-- The member comes before all others by the name of the field, in any letter case. -/
structure Leads (members : List (String × Json)) (field : Field) (name : String) (j : Json) : Prop where
  member : (name, j) ∈ members
  named : field.isNamed name = true
  first : ∀ other ∈ members, field.isNamed other.1 = true → name ≤ other.1

/-- The value is what the leading member holds, or null where no member has the name. -/
inductive ReadFrom (members : List (String × Json)) (field : Field) : Scalar → Prop where
  | leading {name : String} {j : Json} {value : Scalar} (leads : Leads members field name j)
      (read : scalarOf j field.dataType = some value) : ReadFrom members field value
  | absent (none : ∀ member ∈ members, field.isNamed member.1 = false) : ReadFrom members field .null

section
variable {members : List (String × Json)} {field : Field} {name : String} {j : Json} {value : Scalar}

theorem leads_of_find {found : String × Json} (ascending : Ascending members)
    (first : members.find? (fun member => field.isNamed member.1) = some found) :
    Leads members field found.1 found.2 := by
  obtain ⟨named, before, after, rfl, none⟩ := List.find?_eq_some_iff_append.mp first
  refine ⟨List.mem_append_right _ List.mem_cons_self, named, fun other member also => ?_⟩
  rcases List.mem_append.mp member with early | late
  · have unnamed := none other early
    rw [also] at unnamed
    cases unnamed
  · rcases List.mem_cons.mp late with rfl | late
    · exact le_rfl
    · exact (List.rel_of_pairwise_cons (List.pairwise_append.mp ascending).2.1 late).le

theorem memberOf_of_leads (ascending : Ascending members) (leads : Leads members field name j) :
    memberOf members field = j := by
  have some_member : (members.find? fun member => field.isNamed member.1).isSome = true :=
    List.find?_isSome.mpr ⟨_, leads.member, leads.named⟩
  obtain ⟨⟨other, held⟩, found⟩ := Option.isSome_iff_exists.mp some_member
  have also := leads_of_find ascending found
  obtain rfl : name = other :=
    le_antisymm (leads.first _ also.member also.named) (also.first _ leads.member leads.named)
  rw [memberOf, found, ascending.unique leads.member also.member]
  rfl

/-- The member spelled as the field is leads wherever it stands, if the field's name has no small letter, and
only then. -/
theorem exact_leads_iff : (∀ members : List (String × Json), Ascending members → ∀ j,
    (field.name, j) ∈ members → Leads members field field.name j) ↔ Text.upper field.name = field.name := by
  constructor
  · intro leads
    by_contra small
    -- otherwise the name in capitals is another one, and comes first where both are given
    have before : Text.upper field.name < field.name := lt_of_le_of_ne (Text.upper_le _) small
    have ascending : Ascending [(Text.upper field.name, .null), (field.name, .null)] :=
      List.pairwise_pair.mpr before
    have named : field.isNamed (Text.upper field.name) = true :=
      Text.sameIgnoringCase_iff.mpr (Text.lower_upper _).symm
    have least := (leads _ ascending .null (by simp)).first _ List.mem_cons_self named
    exact absurd before least.not_gt
  · intro capitals members _ j member
    exact ⟨member, Text.sameIgnoringCase_self _, fun other _ named => Text.le_of_upper capitals named⟩

theorem readFrom_columnValue {topic : String} (ascending : Ascending members)
    (read : columnValue topic members field = .ok value) : ReadFrom members field value := by
  unfold columnValue at read
  dsimp only at read
  split at read
  · cases read
  · rename_i known held
    obtain ⟨_, made⟩ := refused_eq_ok.mp read
    cases made
    cases found : members.find? fun member => field.isNamed member.1 with
    | none =>
      rw [memberOf, found] at held
      cases held
      exact .absent fun member inside => Bool.eq_false_iff.mpr (List.find?_eq_none.mp found member inside)
    | some first =>
      rw [memberOf, found] at held
      exact .leading (leads_of_find ascending found) held

theorem ReadFrom.of_leads (ascending : Ascending members) (readFrom : ReadFrom members field value)
    (leads : Leads members field name j) : scalarOf j field.dataType = some value := by
  cases readFrom with
  | leading also read =>
    rw [← memberOf_of_leads ascending leads, memberOf_of_leads ascending also]
    exact read
  | absent none =>
    have unnamed := none _ leads.member
    rw [leads.named] at unnamed
    cases unnamed

/-- Each value is read from the leading member, and from the one spelled as the field is if the field's name
has no small letter. -/
def RowReadFrom (schema : Schema) (members : List (String × Json)) (row : Row) : Prop :=
  List.Forall₂ (fun field value => ReadFrom members field value ∧
    (Text.upper field.name = field.name → ∀ j, (field.name, j) ∈ members →
      scalarOf j field.dataType = some value)) schema.fields row.values

theorem rowOf_readFrom {topic : String} {schema : Schema} {row : Row} (inOrder : InOrder j)
    (read : rowOf topic schema j = .ok row) :
    ∃ members, j = .object members ∧ RowReadFrom schema members row := by
  unfold rowOf at read
  split at read
  · rename_i members
    obtain ⟨values, each, made⟩ := bind_eq_ok.mp read
    cases made
    have ascending := inOrder.object.1
    refine ⟨members, rfl, (mapM_eq_ok.mp each).imp fun field value done => ?_⟩
    have readFrom := readFrom_columnValue ascending done
    refine ⟨readFrom, fun capitals j member => ?_⟩
    exact readFrom.of_leads ascending (exact_leads_iff.mpr capitals members ascending j member)
  · cases read

theorem rowsOf_readFrom {topic : String} {schema : Schema} {rows : List Row} (inOrder : InOrder j)
    (read : rowsOf topic schema j = .ok rows) :
    ∃ objects : List (List (String × Json)), j = .list (objects.map .object) ∧
      List.Forall₂ (RowReadFrom schema) objects rows := by
  unfold rowsOf at read
  split at read
  · rename_i items
    have parts := inOrder.list
    have each := mapM_eq_ok.mp read
    clear inOrder read
    induction each with
    | nil => exact ⟨[], rfl, .nil⟩
    | cons done _ ih =>
      obtain ⟨objects, same, others⟩ := ih fun item member => parts item (List.mem_cons_of_mem _ member)
      obtain ⟨members, rfl, first⟩ := rowOf_readFrom (parts _ List.mem_cons_self) done
      cases same
      exact ⟨members :: objects, rfl, .cons first others⟩
  · cases read

end

/-- The row objects a document has for a topic. -/
def Offers (document : Json) (topic : String) (objects : List (List (String × Json))) : Prop :=
  ∃ members, document = .object members ∧
    (members.lookup topic = some (.list (objects.map .object)) ∨ members.lookup topic = none ∧ objects = [])

/-- However an accepted document is written, each row of a topic is read from one object it has for that, and
each value from the member that comes first among those by the name of its field in any letter case. -/
theorem rows_readFrom {document : Json} {t : Topology} {data : SourceData} {topic : String} {first : Stage}
    (read : ofJson document.sorted t = .ok data) (reader : t.reader topic = some first) :
    ∃ objects, Offers document.sorted topic objects ∧
      List.Forall₂ (RowReadFrom first.schema) objects (data.rows topic) := by
  have inOrder : InOrder document.sorted := ⟨document, rfl⟩
  unfold ofJson at read
  split at read
  · rename_i members written
    rw [written] at inOrder ⊢
    have takes : Takes members topic first.schema (data.rows topic) := takes_loads read reader rfl
    unfold Takes at takes
    split at takes
    · rename_i missing
      exact ⟨[], ⟨members, rfl, .inr ⟨missing, rfl⟩⟩, takes ▸ .nil⟩
    · rename_i j present
      have member : (topic, j) ∈ members := by
        obtain ⟨before, after, rfl, _⟩ := List.lookup_eq_some_iff.mp present
        exact List.mem_append_right _ List.mem_cons_self
      obtain ⟨objects, rfl, each⟩ := rowsOf_readFrom (inOrder.object.2 _ member) takes
      exact ⟨objects, ⟨members, rfl, .inl present⟩, each⟩
  · cases read

/-- Events under an id, and one that is given both in capitals and in small letters. -/
def events (name : String) : Topology :=
  .recorded [.stream "events" .json ⟨[⟨name, .int64, false⟩, ⟨"tag", .utf8, true⟩]⟩ name]

def twice : Json :=
  .object [("events", .list [.object [("tag", .text "a"), ("id", .whole 2), ("ID", .whole 1)]])]

/-- The id in capitals is read for the column in capitals. -/
theorem twice_readFrom : ∃ data first, ofJson twice.sorted (events "ID") = .ok data ∧
    (events "ID").reader "events" = some first ∧ data.rows "events" = [⟨[.int64 1, .text "a"]⟩] ∧
    ∃ objects, Offers twice.sorted "events" objects ∧
      List.Forall₂ (RowReadFrom first.schema) objects (data.rows "events") := by
  have read : ofJson twice.sorted (events "ID") = .ok ⟨[("events", [⟨[.int64 1, .text "a"]⟩])]⟩ := by rfl
  have known : ∃ first, (events "ID").reader "events" = some first := ⟨_, by rfl⟩
  obtain ⟨first, reader⟩ := known
  exact ⟨_, first, read, reader, rfl, rows_readFrom read reader⟩

/-- It is read for the column in small letters as well, which is given there too. -/
theorem not_exactFirst : ¬ ∀ (document : Json) (t : Topology) (data : SourceData) (topic : String)
    (first : Stage) (objects : List (List (String × Json))), ofJson document.sorted t = .ok data →
      t.reader topic = some first → Offers document.sorted topic objects →
        List.Forall₂ (fun members (row : Row) => List.Forall₂ (fun field value =>
          ∀ j, (field.name, j) ∈ members → scalarOf j field.dataType = some value) first.schema.fields row.values)
          objects (data.rows topic) := by
  intro exact
  have read : ofJson twice.sorted (events "id") = .ok ⟨[("events", [⟨[.int64 1, .text "a"]⟩])]⟩ := by rfl
  have offers : Offers twice.sorted "events" [[("ID", .whole 1), ("id", .whole 2), ("tag", .text "a")]] :=
    ⟨_, by rfl, .inl (by rfl)⟩
  obtain _ | ⟨row, _⟩ := exact _ _ _ _ _ _ read rfl offers
  obtain _ | ⟨id, _⟩ := row
  have taken : scalarOf (.whole 2) .int64 = some (.int64 1) := id (.whole 2) (by simp)
  revert taken
  decide

end SourceData
end StreamPlan
