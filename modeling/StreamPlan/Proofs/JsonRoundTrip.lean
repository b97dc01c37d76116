import StreamPlan.Proofs.Fingerprints
import StreamPlan.Proofs.JsonReading
import StreamPlan.Proofs.Printing
import StreamPlan.Topology.Json

/-! Topologies and plans read back from their texts. What each of their parts is written as is legible and
is read as that part. Floating-point numbers are left out: those that are not finite are written as null,
and of the others the last bit may be lost. -/
namespace StreamPlan

open Json (Legible Manner Outline)

namespace Json

theorem mapM_written {α : Type} {write : α → Json} {read : Json → Option α} (as : List α)
    (each : ∀ a ∈ as, read (write a) = some a) : (as.map write).mapM read = some as := by
  induction as with
  | nil => rfl
  | cons a as ih =>
    obtain ⟨first, later⟩ := List.forall_mem_cons.mp each
    simp only [List.map_cons, List.mapM_cons, first, ih later, Option.bind_eq_bind, Option.bind_some]
    rfl

@[simp] theorem text?_text (s : String) : (Json.text s).text? = some s := rfl
@[simp] theorem bool?_bool (b : Bool) : (Json.bool b).bool? = some b := rfl
@[simp] theorem list?_list (items : List Json) : (Json.list items).list? = some items := rfl

@[simp] theorem variant?_object (name : String) (value : Json) :
    (Json.object [(name, value)]).variant? = some (name, some value) := rfl

@[simp] theorem record?_object (names : List String) (fields : List (String × Json)) :
    (Json.object fields).record? names = Fields.byName names fields := rfl

@[simp] theorem parts?_object (manner : Manner) (names : List String) (fields : List (String × Json)) :
    (Json.object fields).parts? manner names = Fields.byName names fields := by
  cases manner <;> rfl

theorem count?_whole {n : Nat} (fits : n < UInt64.size) : (Json.whole n).count? = some n := by
  have room : (Json.whole n).within? 0 UInt64.size.pred = some (n : Int) :=
    if_pos ⟨Int.natCast_nonneg n, Int.ofNat_le.mpr (Nat.le_pred_of_lt fits)⟩
  rw [count?, room]
  rfl

theorem legible_count {o : Outline} {n : Nat} (fits : n < UInt64.size) : Legible o (.whole n) :=
  .whole (by omega) (Int.ofNat_lt.mpr fits)

end Json

/-! Names, columns and schemas. -/

@[simp] theorem BinaryOp.ofJson?_name (manner : Manner) (op : BinaryOp) :
    ofJson? manner (.text op.name) = some op := by
  cases op <;> rfl

@[simp] theorem Mode.ofJson?_toJson (mode : Mode) : ofJson? mode.toJson = some mode := by
  cases mode <;> rfl

@[simp] theorem JoinKind.ofJson?_toJson (kind : JoinKind) : ofJson? kind.toJson = some kind := by
  cases kind <;> rfl

@[simp] theorem DataType.ofJson?_toJson (type : DataType) : ofJson? type.toJson = some type := by
  cases type <;> rfl

@[simp] theorem Field.ofJson?_toJson (field : Field) : ofJson? field.toJson = some field := by
  simp [ofJson?, toJson, Fields.byName, Fields.once]

theorem Field.legible {o : Outline} (asked : o = .whole ∨ o = outline) (field : Field) : Legible o field.toJson := by
  rcases asked with rfl | rfl <;> simp [toJson, DataType.toJson, Outline.field?, outline, List.lookup_cons]

@[simp] theorem Schema.ofJson?_toJson (schema : Schema) : ofJson? schema.toJson = some schema := by
  have fields := Json.mapM_written schema.fields fun field _ => field.ofJson?_toJson
  simp [ofJson?, toJson, Fields.byName, Fields.once, fields]

theorem Schema.legible {o : Outline} (asked : o = .whole ∨ o = outline) (schema : Schema) :
    Legible o schema.toJson := by
  rcases asked with rfl | rfl
  · have fields : Legible .whole (.list (schema.fields.map Field.toJson)) :=
      Json.legible_map (fun _ => rfl) fun field _ => field.legible (.inl rfl)
    simpa [toJson, Outline.field?] using fields
  · have fields : Legible (.list Field.outline) (.list (schema.fields.map Field.toJson)) :=
      Json.legible_map (fun _ => rfl) fun field _ => field.legible (.inr rfl)
    simpa [toJson, Outline.field?, outline] using fields

/-! Codecs and targets. -/

@[simp] theorem Codec.ofJson?_toJson (manner : Manner) (codec : Codec) : ofJson? manner codec.toJson = some codec := by
  cases codec <;> simp [ofJson?, toJson, Json.tagged?, Fields.once, Fields.byName, Json.word?, char?]

@[simp] theorem Codec.legible (codec : Codec) : Legible .whole codec.toJson := by
  cases codec <;> simp [toJson, Outline.field?]

@[simp] theorem Codec.withKeyOfJson?_toJson (manner : Manner) (codec : Codec) :
    withKeyOfJson? manner codec.withKeyToJson = some codec := by
  simp [withKeyOfJson?, withKeyToJson, Fields.once, Fields.byName, Json.variant?, Json.isBare]

@[simp] theorem Codec.legible_withKey (codec : Codec) : Legible .whole codec.withKeyToJson := by
  simp [withKeyToJson, Outline.field?]

@[simp] theorem Target.ofJson?_toJson (target : Target) : ofJson? target.toJson = some target := by
  cases target with
  | topic name => simp [ofJson?, toJson, Fields.byName, Fields.once]
  | console => rfl

@[simp] theorem Target.legible (target : Target) : Legible .whole target.toJson := by
  cases target <;> simp [toJson, Outline.field?]

/-! Values and expressions. -/

namespace Scalar

def isFloat : Scalar → Bool
  | .float32 _ | .float64 _ => true
  | _ => false

variable {value : Scalar}

theorem int32?_whole (n : Int32) : int32? (.whole n.toInt) = some n := by
  have fits : Json.within? Int32.minValue.toInt Int32.maxValue.toInt (.whole n.toInt) = some n.toInt :=
    if_pos ⟨n.minValue_le_toInt, n.toInt_le⟩
  rw [int32?, fits, Option.map_some, Int32.ofInt_toInt]

theorem int64?_whole (n : Int64) : int64? (.whole n.toInt) = some n := by
  have fits : Json.within? Int64.minValue.toInt Int64.maxValue.toInt (.whole n.toInt) = some n.toInt :=
    if_pos ⟨n.minValue_le_toInt, n.toInt_le⟩
  rw [int64?, fits, Option.map_some, Int64.ofInt_toInt]

theorem byte?_whole (byte : UInt8) : byte? (.whole byte.toNat) = some byte := by
  have below := byte.toNat_lt
  have fits : Json.within? 0 255 (.whole byte.toNat) = some (byte.toNat : Int) := if_pos (by omega)
  simp [byte?, fits]

theorem ofJson?_toJson (manner : Manner) (floatless : value.isFloat = false) :
    ofJson? manner value.toJson = some value := by
  cases value with
  | null | bool | text => rfl
  | int32 n => simp [ofJson?, toJson, int32?_whole]
  | int64 n => simp [ofJson?, toJson, int64?_whole]
  | float32 | float64 => cases floatless
  | bytes bs =>
    have bytes := Json.mapM_written bs fun byte _ => byte?_whole byte
    simp [ofJson?, toJson, bytes]

theorem legible (floatless : value.isFloat = false) : Legible .whole value.toJson := by
  have signed {n : Int} (above : -2 ^ 63 ≤ n) (below : n < 2 ^ 63) : Legible .whole (.whole n) :=
    .whole above (below.trans (by decide))
  cases value with
  | null | bool | text => simp [toJson, Outline.field?]
  | int32 n =>
    have low := n.le_toInt
    have high := n.toInt_lt
    simpa [toJson, Outline.field?] using signed (n := n.toInt) (by omega) (by omega)
  | int64 n => simpa [toJson, Outline.field?] using signed n.le_toInt n.toInt_lt
  | float32 | float64 => cases floatless
  | bytes bs =>
    have bytes : Legible .whole (.list (bs.map fun byte => .whole byte.toNat)) :=
      Json.legible_map (fun _ => rfl) fun byte _ => Json.legible_count (byte.toNat_lt.trans (by decide))
    simpa [toJson, Outline.field?] using bytes

end Scalar

namespace Expr

variable {e : Expr}

theorem nesting_pos (e : Expr) : 0 < e.toJson.nesting := by
  cases e <;> simp [toJson, Json.nesting]

theorem ofJsonWithin?_toJson (manner : Manner) {bound : Nat} (floatless : ∀ value ∈ e.literals, value.isFloat = false)
    (room : e.toJson.nesting ≤ bound) : ofJsonWithin? manner bound e.toJson = some e := by
  -- a step lowers the bound by one, and every operation nests its operands at least as much
  induction bound generalizing e with
  | zero => exact absurd room (Nat.not_le_of_lt e.nesting_pos)
  | succ bound ih =>
    cases e with
    | column name => rfl
    | literal value =>
      have read := Scalar.ofJson?_toJson manner (floatless value List.mem_cons_self)
      simp [toJson, ofJsonWithin?, read]
    | binary op left right =>
      simp only [literals, List.forall_mem_append] at floatless
      simp only [toJson, Json.nesting, Json.fieldsNesting] at room
      have left := ih floatless.1 (by omega)
      have right := ih floatless.2 (by omega)
      simp [toJson, ofJsonWithin?, Fields.byName, Fields.once, left, right]
    | not inner =>
      simp only [toJson, Json.nesting, Json.fieldsNesting] at room
      have inner := ih (e := inner) floatless (by omega)
      simp [toJson, ofJsonWithin?, inner]
    | isNull inner negated =>
      simp only [toJson, Json.nesting, Json.fieldsNesting] at room
      have inner := ih (e := inner) floatless (by omega)
      simp [toJson, ofJsonWithin?, Fields.byName, Fields.once, inner]

theorem ofJson?_toJson (manner : Manner) (floatless : ∀ value ∈ e.literals, value.isFloat = false)
    (room : e.toJson.nesting ≤ Json.nestingLimit) : ofJson? manner e.toJson = some e :=
  ofJsonWithin?_toJson manner floatless room

theorem legible (floatless : ∀ value ∈ e.literals, value.isFloat = false) : Legible .whole e.toJson := by
  induction e with
  | column name => simp [toJson, Outline.field?]
  | literal value => simpa [toJson, Outline.field?] using Scalar.legible (floatless value List.mem_cons_self)
  | binary op left right leftIh rightIh =>
    simp only [literals, List.forall_mem_append] at floatless
    simpa [toJson, Outline.field?] using ⟨leftIh floatless.1, rightIh floatless.2⟩
  | not inner ih | isNull inner _ ih => simpa [toJson, Outline.field?] using ih floatless

theorem mapM_ofJson? (manner : Manner) (es : List Expr)
    (floatless : ∀ value ∈ es.flatMap literals, value.isFloat = false)
    (room : Json.itemsNesting (es.map toJson) ≤ Json.nestingLimit) :
    (es.map toJson).mapM (ofJson? manner) = some es := by
  refine Json.mapM_written es fun e member => ofJson?_toJson manner (fun value inside => ?_) ?_
  · exact floatless value (List.mem_flatMap_of_mem member inside)
  · exact (Json.nesting_le_items (List.mem_map_of_mem member)).trans room

theorem legible_list (es : List Expr) (floatless : ∀ value ∈ es.flatMap literals, value.isFloat = false) :
    Legible .whole (.list (es.map toJson)) :=
  Json.legible_map (fun _ => rfl) fun _ member =>
    legible fun value inside => floatless value (List.mem_flatMap_of_mem member inside)

end Expr

/-! Stages and topologies. -/

theorem StageId.ofJson?_toJson {id : StageId} (fits : id.number < UInt64.size) : ofJson? id.toJson = some id := by
  rw [ofJson?, toJson, Json.count?_whole fits]
  rfl

namespace StageOp

def literals (op : StageOp) : List Scalar := op.expressions.flatMap Expr.literals

variable {op : StageOp}

theorem ofJson?_toJson (floatless : ∀ value ∈ op.literals, value.isFloat = false)
    (room : op.toJson.nesting ≤ Json.nestingLimit) : ofJson? op.toJson = some op := by
  cases op with
  | filter predicate =>
    simp only [literals, expressions, List.flatMap_singleton] at floatless
    simp only [toJson, tagged, parts, Json.nesting, Json.fieldsNesting] at room
    have read := Expr.ofJson?_toJson .free floatless (by omega)
    simp [ofJson?, toJson, tagged, parts, name, Json.tagged?, Fields.once, Fields.byName, read]
  | project expressions =>
    simp only [toJson, tagged, parts, Json.nesting, Json.fieldsNesting] at room
    have read := Expr.mapM_ofJson? .free expressions floatless (by omega)
    simp [ofJson?, toJson, tagged, parts, name, Json.tagged?, Fields.once, Fields.byName, read]
  | streamSource | tableSource | selectKey | leftJoin | toTopic | print =>
    simp [ofJson?, toJson, tagged, parts, name, Json.tagged?, Fields.once, Fields.byName]

theorem legible (floatless : ∀ value ∈ op.literals, value.isFloat = false) : Legible .whole op.toJson := by
  cases op with
  | filter predicate =>
    simp only [literals, expressions, List.flatMap_singleton] at floatless
    simpa [toJson, tagged, parts, Outline.field?] using Expr.legible floatless
  | project expressions => simpa [toJson, tagged, parts, Outline.field?] using Expr.legible_list expressions floatless
  | streamSource | tableSource | selectKey | leftJoin | toTopic | print =>
    simp [toJson, tagged, parts, Outline.field?]

end StageOp

namespace Stage

def ids (stage : Stage) : List StageId := stage.id :: stage.inputs

variable {stage : Stage}

theorem ofJson?_toJson (fits : ∀ id ∈ stage.ids, id.number < UInt64.size)
    (floatless : ∀ value ∈ stage.op.literals, value.isFloat = false)
    (room : stage.toJson.nesting ≤ Json.nestingLimit) : ofJson? stage.toJson = some stage := by
  simp only [ids, List.forall_mem_cons] at fits
  simp only [toJson, Json.nesting, Json.fieldsNesting] at room
  have id := StageId.ofJson?_toJson fits.1
  have inputs := Json.mapM_written stage.inputs fun input member => StageId.ofJson?_toJson (fits.2 input member)
  have op := StageOp.ofJson?_toJson floatless (by omega)
  simp [ofJson?, toJson, Fields.once, Fields.byName, id, inputs, op]

theorem legible (fits : ∀ id ∈ stage.ids, id.number < UInt64.size)
    (floatless : ∀ value ∈ stage.op.literals, value.isFloat = false) : Legible outline stage.toJson := by
  simp only [ids, List.forall_mem_cons] at fits
  have id : Legible .whole stage.id.toJson := Json.legible_count fits.1
  have inputs : Legible .whole (.list (stage.inputs.map StageId.toJson)) :=
    Json.legible_map (fun _ => rfl) fun input member => Json.legible_count (fits.2 input member)
  have op := StageOp.legible floatless
  have schema := stage.schema.legible (.inr rfl)
  simp [toJson, Outline.field?, outline, List.lookup_cons, id, inputs, op, schema, Mode.toJson]

end Stage

namespace Topology

def ids (t : Topology) : List StageId := t.stages.flatMap Stage.ids
def literals (t : Topology) : List Scalar := t.stages.flatMap (·.op.literals)

variable {t : Topology}

theorem ofJson?_toJson (fits : ∀ id ∈ t.ids, id.number < UInt64.size)
    (floatless : ∀ value ∈ t.literals, value.isFloat = false) (room : t.toJson.nesting ≤ Json.nestingLimit) :
    ofJson? t.toJson = some t := by
  simp only [toJson, Json.nesting, Json.fieldsNesting] at room
  have stages : (t.stages.map Stage.toJson).mapM Stage.ofJson? = some t.stages := by
    refine Json.mapM_written _ fun stage member => ?_
    have bound := Json.nesting_le_items (List.mem_map_of_mem (f := Stage.toJson) member)
    exact Stage.ofJson?_toJson (fun id inside => fits id (List.mem_flatMap_of_mem member inside))
      (fun value inside => floatless value (List.mem_flatMap_of_mem member inside)) (by omega)
  simp [ofJson?, toJson, Fields.once, Fields.byName, stages]

theorem legible (fits : ∀ id ∈ t.ids, id.number < UInt64.size)
    (floatless : ∀ value ∈ t.literals, value.isFloat = false) : Legible outline t.toJson := by
  have stages : Legible (.list Stage.outline) (.list (t.stages.map Stage.toJson)) :=
    Json.legible_map (fun _ => rfl) fun stage member =>
      Stage.legible (fun id inside => fits id (List.mem_flatMap_of_mem member inside))
        fun value inside => floatless value (List.mem_flatMap_of_mem member inside)
  simp [toJson, Outline.field?, outline, stages]

end Topology

/-! Plans. -/

theorem NodeId.ofJson?_toJson {id : NodeId} (fits : id.number < UInt64.size) : ofJson? id.toJson = some id := by
  rw [ofJson?, toJson, Json.count?_whole fits]
  rfl

theorem NodeId.legible {id : NodeId} (fits : id.number < UInt64.size) : Legible .whole id.toJson :=
  Json.legible_count fits

namespace Plan

def literals : Plan → List Scalar
  | .source _ _ => []
  | .filter _ input predicate => input.literals ++ predicate.literals
  | .project _ input _ expressions => input.literals ++ expressions.flatMap Expr.literals
  | .join _ left right _ => left.literals ++ right.literals
  | .output _ input _ => input.literals

variable {p : Plan}

theorem nesting_pos (p : Plan) : 0 < p.toJson.nesting := by
  cases p <;> simp [toJson, variant, Json.nesting]

/-! Each kind of node is read from a record of its own. -/

theorem ofJsonWithin?_source (bound : Nat) (id topic schema key mode codec : Json) :
    ofJsonWithin? (bound + 1) (variant "Source" [("id", id), ("topic", topic), ("schema", schema),
      ("key_field", key), ("source_type", mode), ("codec", codec)]) = (do
        some (.source (← NodeId.ofJson? id) ⟨← topic.text?, ← Schema.ofJson? schema, ← Field.ofJson? key,
          ← Mode.ofJson? mode, ← Codec.ofJson? .strict codec⟩)) := rfl

theorem ofJsonWithin?_filter (bound : Nat) (id input predicate : Json) :
    ofJsonWithin? (bound + 1) (variant "Filter" [("id", id), ("source", input), ("predicate", predicate)]) = (do
      some (.filter (← NodeId.ofJson? id) (← ofJsonWithin? bound input) (← Expr.ofJson? .strict predicate))) := rfl

theorem ofJsonWithin?_project (bound : Nat) (id input schema : Json) (expressions : List Json) :
    ofJsonWithin? (bound + 1) (variant "Project" [("id", id), ("source", input), ("schema", schema),
      ("expressions", .list expressions)]) = (do
        some (.project (← NodeId.ofJson? id) (← ofJsonWithin? bound input) (← Schema.ofJson? schema)
          (← expressions.mapM (Expr.ofJson? .strict)))) := rfl

theorem ofJsonWithin?_join (bound : Nat)
    (id kind left right leftKey rightKey leftAlias rightAlias schema : Json) :
    ofJsonWithin? (bound + 1) (variant "Join" [("id", id), ("join_type", kind), ("left", left), ("right", right),
      ("left_key_field_name", leftKey), ("right_key_field_name", rightKey), ("left_alias", leftAlias),
      ("right_alias", rightAlias), ("schema", schema)]) = (do
        some (.join (← NodeId.ofJson? id) (← ofJsonWithin? bound left) (← ofJsonWithin? bound right)
          ⟨← JoinKind.ofJson? kind, ← leftKey.text?, ← rightKey.text?, ← leftAlias.text?, ← rightAlias.text?,
            ← Schema.ofJson? schema⟩)) := rfl

theorem ofJsonWithin?_output (bound : Nat) (id input target : Json) :
    ofJsonWithin? (bound + 1) (variant "Output" [("id", id), ("source", input), ("target", target)]) = (do
      some (.output (← NodeId.ofJson? id) (← ofJsonWithin? bound input) (← Target.ofJson? target))) := rfl

theorem ofJsonWithin?_toJson {bound : Nat} (fits : ∀ id ∈ p.ids, id.number < UInt64.size)
    (floatless : ∀ value ∈ p.literals, value.isFloat = false) (room : p.toJson.nesting ≤ bound)
    (limit : bound ≤ Json.nestingLimit) : ofJsonWithin? bound p.toJson = some p := by
  -- expressions start from the whole limit again, which the bound never exceeds
  induction bound generalizing p with
  | zero => exact absurd room (Nat.not_le_of_lt p.nesting_pos)
  | succ bound ih =>
    cases p with
    | source id origin =>
      have id := NodeId.ofJson?_toJson (fits id List.mem_cons_self)
      simp [toJson, ofJsonWithin?_source, id]
    | filter id input predicate =>
      simp only [ids, literals, List.forall_mem_cons, List.forall_mem_append] at fits floatless
      simp only [toJson, variant, Json.nesting, Json.fieldsNesting] at room
      have id := NodeId.ofJson?_toJson fits.1
      have input := ih fits.2 floatless.1 (by omega) (by omega)
      have predicate := Expr.ofJson?_toJson .strict floatless.2 (by omega)
      simp [toJson, ofJsonWithin?_filter, id, input, predicate]
    | project id input schema expressions =>
      simp only [ids, literals, List.forall_mem_cons, List.forall_mem_append] at fits floatless
      simp only [toJson, variant, Json.nesting, Json.fieldsNesting] at room
      have id := NodeId.ofJson?_toJson fits.1
      have input := ih fits.2 floatless.1 (by omega) (by omega)
      have expressions := Expr.mapM_ofJson? .strict expressions floatless.2 (by omega)
      simp [toJson, ofJsonWithin?_project, id, input, expressions]
    | join id left right spec =>
      simp only [ids, literals, List.forall_mem_cons, List.forall_mem_append] at fits floatless
      simp only [toJson, variant, Json.nesting, Json.fieldsNesting] at room
      have id := NodeId.ofJson?_toJson fits.1
      have left := ih fits.2.1 floatless.1 (by omega) (by omega)
      have right := ih fits.2.2 floatless.2 (by omega) (by omega)
      simp [toJson, ofJsonWithin?_join, id, left, right]
    | output id input target =>
      simp only [ids, literals, List.forall_mem_cons] at fits floatless
      simp only [toJson, variant, Json.nesting, Json.fieldsNesting] at room
      have id := NodeId.ofJson?_toJson fits.1
      have input := ih fits.2 floatless (by omega) (by omega)
      simp [toJson, ofJsonWithin?_output, id, input]

theorem legible (fits : ∀ id ∈ p.ids, id.number < UInt64.size)
    (floatless : ∀ value ∈ p.literals, value.isFloat = false) : Legible .whole p.toJson := by
  induction p with
  | source id origin =>
    have id := NodeId.legible (fits id List.mem_cons_self)
    have schema := origin.schema.legible (.inl rfl)
    have key := origin.key.legible (.inl rfl)
    simp [toJson, variant, Outline.field?, id, schema, key, Mode.toJson]
  | filter id input predicate ih =>
    simp only [ids, literals, List.forall_mem_cons, List.forall_mem_append] at fits floatless
    have id := NodeId.legible fits.1
    have input := ih fits.2 floatless.1
    have predicate := Expr.legible floatless.2
    simp [toJson, variant, Outline.field?, id, input, predicate]
  | project id input schema expressions ih =>
    simp only [ids, literals, List.forall_mem_cons, List.forall_mem_append] at fits floatless
    have id := NodeId.legible fits.1
    have input := ih fits.2 floatless.1
    have schema := schema.legible (.inl rfl)
    have expressions := Expr.legible_list expressions floatless.2
    simp [toJson, variant, Outline.field?, id, input, schema, expressions]
  | join id left right spec leftIh rightIh =>
    simp only [ids, literals, List.forall_mem_cons, List.forall_mem_append] at fits floatless
    have id := NodeId.legible fits.1
    have left := leftIh fits.2.1 floatless.1
    have right := rightIh fits.2.2 floatless.2
    have schema := spec.schema.legible (.inl rfl)
    simp [toJson, variant, Outline.field?, id, left, right, schema, JoinKind.toJson]
  | output id input target ih =>
    simp only [ids, literals, List.forall_mem_cons] at fits floatless
    have id := NodeId.legible fits.1
    have input := ih fits.2 floatless
    simp [toJson, variant, Outline.field?, id, input]

end Plan

/-- A topology or a plan whose ids fit 64 bits is what its text is read as. -/
theorem rendered_readBack :
    (∀ t : Topology, (∀ id ∈ t.ids, id.number < UInt64.size) → (∀ value ∈ t.literals, value.isFloat = false) →
      t.toJson.nesting < 128 → Topology.ofText? t.toJson.render = some t) ∧
    ∀ p : Plan, (∀ id ∈ p.ids, id.number < UInt64.size) → (∀ value ∈ p.literals, value.isFloat = false) →
      p.toJson.nesting < 128 → Plan.ofText? p.toJson.render = some p := by
  constructor
  · intro t fits floatless room
    have room : t.toJson.nesting ≤ Json.nestingLimit := Nat.le_of_lt_succ room
    rw [Topology.ofText?, Json.readAlong_render (Topology.legible fits floatless) room]
    exact Topology.ofJson?_toJson fits floatless room
  · intro p fits floatless room
    have room : p.toJson.nesting ≤ Json.nestingLimit := Nat.le_of_lt_succ room
    rw [Plan.ofText?, Json.readAlong_render (Plan.legible fits floatless) room]
    exact Plan.ofJsonWithin?_toJson fits floatless room le_rfl

/-! Telegrams: names and a delimiter that are escaped, the least whole number, the least and the greatest byte
and the greatest id. -/

def Schema.telegrams : Schema := ⟨[⟨"wörter \"\\\n", .int64, true⟩, ⟨"raw", .binary, false⟩]⟩

def Expr.urgent : Expr :=
  .binary .and (.isNull (.column "wörter \"\\\n") true)
    (.binary .or (.not (.binary .notEq (.column "raw") (.literal (.bytes [0, 255]))))
      (.binary .ltEq (.literal (.int64 Int64.minValue)) (.literal .null)))

def Topology.telegrams : Topology :=
  ⟨[⟨⟨0⟩, .tableSource "wire\t" (.delimited '\t') "store\x1f", [], .telegrams, "raw", .table⟩,
    ⟨⟨1⟩, .filter .urgent, [⟨0⟩], .telegrams, "raw", .table⟩,
    ⟨⟨18446744073709551615⟩, .toTopic "urgent" (.avro "stop"), [⟨1⟩], .telegrams, "raw", .table⟩]⟩

def Plan.telegrams : Plan :=
  .output ⟨18446744073709551615⟩
    (.filter ⟨2⟩
      (.source ⟨1⟩ ⟨"wire\t", .telegrams, ⟨"raw", .binary, false⟩, .table, .delimited '\t'⟩) .urgent)
    (.topic "urgent")

theorem telegrams_readBack :
    ((∀ id ∈ Topology.telegrams.ids, id.number < UInt64.size) ∧
      (∀ value ∈ Topology.telegrams.literals, value.isFloat = false) ∧ Topology.telegrams.toJson.nesting < 128 ∧
        Topology.ofText? Topology.telegrams.toJson.render = some .telegrams) ∧
    (∀ id ∈ Plan.telegrams.ids, id.number < UInt64.size) ∧
      (∀ value ∈ Plan.telegrams.literals, value.isFloat = false) ∧ Plan.telegrams.toJson.nesting < 128 ∧
        Plan.ofText? Plan.telegrams.toJson.render = some .telegrams := by
  have fits : ∀ id ∈ Topology.telegrams.ids, id.number < UInt64.size := by decide
  have floatless : ∀ value ∈ Topology.telegrams.literals, value.isFloat = false := by decide
  have room : Topology.telegrams.toJson.nesting < 128 := by decide
  have planFits : ∀ id ∈ Plan.telegrams.ids, id.number < UInt64.size := by decide
  have planFloatless : ∀ value ∈ Plan.telegrams.literals, value.isFloat = false := by decide
  have planRoom : Plan.telegrams.toJson.nesting < 128 := by decide
  exact ⟨⟨fits, floatless, room, rendered_readBack.1 _ fits floatless room⟩,
    planFits, planFloatless, planRoom, rendered_readBack.2 _ planFits planFloatless planRoom⟩

end StreamPlan
