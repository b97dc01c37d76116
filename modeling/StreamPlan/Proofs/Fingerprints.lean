import StreamPlan.Proofs.JsonTexts
import StreamPlan.Run.Basic

/-! What a fingerprint tells. It is the digest of a text from which a topology can be read back, except
that floating-point literals which are not finite are all written alike. -/
namespace StreamPlan

open Json (spelling itemSpellings fieldSpellings)

/-- Members written one by one are told apart as far as each of them is. -/
theorem Json.itemSpellings_map_eq_iff {α β : Type} (write : α → Json) (seen : α → β)
    (each : ∀ a b, (write a).spelling = (write b).spelling ↔ seen a = seen b) (as bs : List α) :
    itemSpellings (as.map write) = itemSpellings (bs.map write) ↔ as.map seen = bs.map seen := by
  induction as generalizing bs with
  | nil => cases bs <;> simp [itemSpellings]
  | cons a as ih => cases bs <;> simp [itemSpellings, each, ih]

theorem Json.itemSpellings_map_inj {α : Type} (write : α → Json)
    (each : ∀ a b, (write a).spelling = (write b).spelling ↔ a = b) (as bs : List α) :
    itemSpellings (as.map write) = itemSpellings (bs.map write) ↔ as = bs := by
  rw [itemSpellings_map_eq_iff write id each, List.map_id, List.map_id]

/-- Values that are not known all show as the blank, which is not known itself. -/
theorem ite_blank_eq_iff {α : Type} (known : α → Bool) (blank : α) (unknown : known blank = false) (a b : α) :
    ((if known a then a else blank) = if known b then b else blank) ↔ a = b ∨ known a = false ∧ known b = false := by
  have apart {c d : α} (first : known c = true) (second : known d = false) : c ≠ d := fun same => by
    rw [same, second] at first
    cases first
  cases first : known a <;> cases second : known b
  · simp
  · simp [(apart second first).symm, (apart second unknown).symm]
  · simp [apart first second, apart first unknown]
  · simp

theorem eq_of_map_eq {α β : Type} {f : α → β} {as bs : List α} (each : ∀ a ∈ as, ∀ b, f a = f b → a = b)
    (same : as.map f = bs.map f) : as = bs := by
  induction as generalizing bs with
  | nil => exact (List.map_eq_nil_iff.mp same.symm).symm
  | cons a as ih =>
    cases bs with
    | nil => cases same
    | cons b bs =>
      obtain ⟨first, rest⟩ := List.cons.inj same
      rw [each a List.mem_cons_self b first, ih (fun c member => each c (List.mem_cons_of_mem _ member)) rest]

/-- A number as far as its text tells it. -/
def blurDouble (x : Float) : Float := if (Decimal.readDouble x).isFinite then x else 0.0 / 0.0
def blurSingle (x : Float32) : Float32 := if (Decimal.readSingle x).isFinite then x else 0.0 / 0.0

theorem blurDouble_eq_iff (x y : Float) : blurDouble x = blurDouble y ↔
    x = y ∨ (Decimal.readDouble x).isFinite = false ∧ (Decimal.readDouble y).isFinite = false :=
  ite_blank_eq_iff (fun x => (Decimal.readDouble x).isFinite) _ (by decide) x y

theorem blurSingle_eq_iff (x y : Float32) : blurSingle x = blurSingle y ↔
    x = y ∨ (Decimal.readSingle x).isFinite = false ∧ (Decimal.readSingle y).isFinite = false :=
  ite_blank_eq_iff (fun x => (Decimal.readSingle x).isFinite) _ (by decide) x y

namespace Scalar

def isFinite : Scalar → Bool
  | .float32 x => (Decimal.readSingle x).isFinite
  | .float64 x => (Decimal.readDouble x).isFinite
  | _ => true

def blurred : Scalar → Scalar
  | .float32 x => .float32 (blurSingle x)
  | .float64 x => .float64 (blurDouble x)
  | value => value

theorem spelling_eq_iff {v w : Scalar} : v.toJson.spelling = w.toJson.spelling ↔ v.blurred = w.blurred := by
  have bytes (bs cs : List UInt8) : itemSpellings (bs.map fun byte => .whole byte.toNat) =
      itemSpellings (cs.map fun byte => .whole byte.toNat) ↔ bs = cs := by
    refine Json.itemSpellings_map_inj _ (fun b c => ?_) bs cs
    simp [spelling, Json.wholeWord_eq_iff, UInt8.toNat_inj]
  cases v <;> cases w <;>
    simp [toJson, spelling, fieldSpellings, blurred, Json.wholeWord_eq_iff, Json.realWord_eq_iff,
      Json.singleWord_eq_iff, Json.boolWord_eq_iff, Int32.toInt_inj, Int64.toInt_inj, blurSingle_eq_iff,
      blurDouble_eq_iff, bytes]

theorem eq_of_blurred {v w : Scalar} (finite : v.isFinite = true) (same : v.blurred = w.blurred) : v = w := by
  cases v with
  | float32 x =>
    cases w <;> simp only [blurred, float32.injEq, reduceCtorEq, blurSingle_eq_iff] at same
    rw [same.resolve_right fun unknown => Bool.noConfusion (unknown.1.symm.trans finite)]
  | float64 x =>
    cases w <;> simp only [blurred, float64.injEq, reduceCtorEq, blurDouble_eq_iff] at same
    rw [same.resolve_right fun unknown => Bool.noConfusion (unknown.1.symm.trans finite)]
  | null | bool | int32 | int64 | text | bytes => cases w <;> simp_all [blurred]

end Scalar

namespace Expr

def isFinite : Expr → Bool
  | .column _ => true
  | .literal value => value.isFinite
  | .binary _ left right => left.isFinite && right.isFinite
  | .not inner => inner.isFinite
  | .isNull inner _ => inner.isFinite

def blurred : Expr → Expr
  | .column name => .column name
  | .literal value => .literal value.blurred
  | .binary op left right => .binary op left.blurred right.blurred
  | .not inner => .not inner.blurred
  | .isNull inner negated => .isNull inner.blurred negated

theorem spelling_eq_iff {d e : Expr} : d.toJson.spelling = e.toJson.spelling ↔ d.blurred = e.blurred := by
  have named (op other : BinaryOp) : op.name = other.name ↔ op = other := by
    cases op <;> cases other <;> simp [BinaryOp.name]
  induction d generalizing e <;> cases e <;>
    simp [toJson, spelling, fieldSpellings, blurred, Scalar.spelling_eq_iff, Json.boolWord_eq_iff, *]

theorem eq_of_blurred {d e : Expr} (finite : d.isFinite = true) (same : d.blurred = e.blurred) : d = e := by
  induction d generalizing e with
  | column name => cases e <;> simp_all [blurred]
  | literal value =>
    cases e <;> simp only [blurred, literal.injEq, reduceCtorEq] at same
    rw [Scalar.eq_of_blurred finite same]
  | binary op left right leftIh rightIh =>
    obtain ⟨leftFinite, rightFinite⟩ := Bool.and_eq_true_iff.mp finite
    cases e <;> simp only [blurred, binary.injEq, reduceCtorEq] at same
    rw [same.1, leftIh leftFinite same.2.1, rightIh rightFinite same.2.2]
  | not inner ih =>
    cases e <;> simp only [blurred, not.injEq, reduceCtorEq] at same
    rw [ih finite same]
  | isNull inner negated ih =>
    cases e <;> simp only [blurred, isNull.injEq, reduceCtorEq] at same
    rw [ih finite same.1, same.2]

end Expr

theorem Codec.spelling_eq_iff {c d : Codec} : c.withKeyToJson.spelling = d.withKeyToJson.spelling ↔ c = d := by
  cases c <;> cases d <;> simp [withKeyToJson, toJson, spelling, fieldSpellings]

theorem Field.spelling_eq_iff {f g : Field} : f.toJson.spelling = g.toJson.spelling ↔ f = g := by
  have named (t u : DataType) : t.name = u.name ↔ t = u := by
    cases t <;> cases u <;> simp [DataType.name]
  cases f
  cases g
  simp [toJson, DataType.toJson, spelling, fieldSpellings, Json.boolWord_eq_iff, named]

theorem Schema.spelling_eq_iff {s t : Schema} : s.toJson.spelling = t.toJson.spelling ↔ s = t := by
  have fields := Json.itemSpellings_map_inj Field.toJson fun _ _ => Field.spelling_eq_iff
  cases s
  cases t
  simp [toJson, spelling, fieldSpellings, fields]

namespace StageOp

def expressions : StageOp → List Expr
  | .filter predicate => [predicate]
  | .project expressions => expressions
  | _ => []

def isFinite (op : StageOp) : Bool := op.expressions.all Expr.isFinite

def blurred : StageOp → StageOp
  | .filter predicate => .filter predicate.blurred
  | .project expressions => .project (expressions.map Expr.blurred)
  | op => op

theorem spelling_eq_iff {o p : StageOp} : o.toJson.spelling = p.toJson.spelling ↔ o.blurred = p.blurred := by
  have listed := Json.itemSpellings_map_eq_iff Expr.toJson Expr.blurred fun _ _ => Expr.spelling_eq_iff
  cases o <;> cases p <;>
    simp [toJson, tagged, parts, name, spelling, fieldSpellings, blurred, Expr.spelling_eq_iff,
      Codec.spelling_eq_iff, listed]

theorem eq_of_blurred {o p : StageOp} (finite : o.isFinite = true) (same : o.blurred = p.blurred) : o = p := by
  cases o with
  | filter predicate =>
    cases p <;> simp only [blurred, filter.injEq, reduceCtorEq] at same
    rw [Expr.eq_of_blurred (List.all_eq_true.mp finite _ List.mem_cons_self) same]
  | project expressions =>
    cases p <;> simp only [blurred, project.injEq, reduceCtorEq] at same
    have each := List.all_eq_true.mp finite
    exact congrArg project (eq_of_map_eq (fun e member _ => Expr.eq_of_blurred (each e member)) same)
  | streamSource | tableSource | selectKey | leftJoin | toTopic | print => cases p <;> simp_all [blurred]

end StageOp

theorem StageId.spelling_eq_iff {i j : StageId} : i.toJson.spelling = j.toJson.spelling ↔ i = j := by
  cases i
  cases j
  simp [toJson, spelling, Json.wholeWord_eq_iff]

theorem Mode.spelling_eq_iff {k l : Mode} : k.toJson.spelling = l.toJson.spelling ↔ k = l := by
  cases k <;> cases l <;> simp [toJson, display, spelling]

namespace Stage

def blurred (stage : Stage) : Stage := { stage with op := stage.op.blurred }

theorem spelling_eq_iff {s t : Stage} : s.toJson.spelling = t.toJson.spelling ↔ s.blurred = t.blurred := by
  have inputs := Json.itemSpellings_map_inj StageId.toJson fun _ _ => StageId.spelling_eq_iff
  cases s
  cases t
  simp [toJson, spelling, fieldSpellings, blurred, StageOp.spelling_eq_iff, Schema.spelling_eq_iff,
    StageId.spelling_eq_iff, Mode.spelling_eq_iff, inputs]

theorem eq_of_blurred {s t : Stage} (finite : s.op.isFinite = true) (same : s.blurred = t.blurred) : s = t := by
  cases s
  cases t
  simp only [blurred, mk.injEq] at same ⊢
  exact ⟨same.1, StageOp.eq_of_blurred finite same.2.1, same.2.2⟩

end Stage

theorem toList_eq_data (bytes : ByteArray) : bytes.toList = bytes.data.toList := by
  have later (i : Nat) (done : List UInt8) :
      ByteArray.toList.loop bytes i done = done.reverse ++ bytes.data.toList.drop i := by
    fun_induction ByteArray.toList.loop bytes i done with
    | case1 i done inside ih =>
      have bound : i < bytes.data.toList.length := inside
      have own : bytes.get! i = bytes.data.toList[i] := getElem!_pos bytes.data i inside
      rw [ih, List.reverse_cons, List.append_assoc, List.drop_eq_getElem_cons bound, own]
      rfl
    | case2 i done outside =>
      have none : bytes.data.toList.drop i = [] := List.drop_eq_nil_of_le (Nat.not_lt.mp outside)
      rw [none, List.append_nil]
  exact later 0 []

/-- Different inputs with one digest. -/
def Digest.Collide (x y : List UInt8) : Prop := x ≠ y ∧ ofBytes x = ofBytes y

/-- Both fail, or both succeed with the same records and lines. -/
def Run.Agree : Except RunError Run.Outcome → Except RunError Run.Outcome → Prop
  | .ok first, .ok second => first.sinks = second.sinks ∧ first.console = second.console
  | .error _, .error _ => True
  | _, _ => False

namespace Topology

def blurred (t : Topology) : Topology := ⟨t.stages.map Stage.blurred⟩

/-- Every floating-point literal is finite. -/
def isFinite (t : Topology) : Bool := t.stages.all (·.op.isFinite)

/-- What the fingerprint is the digest of. -/
def text (t : Topology) : List UInt8 := (Json.list (t.stages.map Stage.toJson)).render.toUTF8.toList

theorem text_eq_iff {a b : Topology} : a.text = b.text ↔ a.blurred = b.blurred := by
  have stages := Json.itemSpellings_map_eq_iff Stage.toJson Stage.blurred fun _ _ => Stage.spelling_eq_iff
  have bytes (s t : String) : s.toUTF8.toList = t.toUTF8.toList ↔ s = t := by
    rw [toList_eq_data, toList_eq_data, Array.toList_inj, ← ByteArray.ext_iff]
    exact String.toByteArray_inj
  rw [text, text, bytes, Json.render_eq_iff]
  simp [spelling, blurred, stages]

theorem eq_of_blurred {a b : Topology} (finite : a.isFinite = true) (same : a.blurred = b.blurred) : a = b := by
  cases a
  cases b
  simp only [blurred, mk.injEq] at same ⊢
  exact eq_of_map_eq (fun stage member other => Stage.eq_of_blurred (List.all_eq_true.mp finite stage member)) same

theorem fingerprint_of_blurred {a b : Topology} (same : a.blurred = b.blurred) : a.fingerprint = b.fingerprint :=
  congrArg Digest.ofBytes (text_eq_iff.mpr same)

/-- Unless their texts collide, topologies have one fingerprint just where they are the same but for
literals that are not finite; so they run alike if those of either are finite. -/
theorem fingerprint_tells {a b : Topology} (apart : ¬ Digest.Collide a.text b.text) :
    (a.fingerprint = b.fingerprint ↔ a.blurred = b.blurred) ∧
      (a.isFinite = true → a.fingerprint = b.fingerprint →
        ∀ (data : SourceData) (limit : Option Nat), a.run data limit = b.run data limit) := by
  have told : a.fingerprint = b.fingerprint ↔ a.blurred = b.blurred := by
    refine ⟨fun same => ?_, fingerprint_of_blurred⟩
    by_contra different
    exact apart ⟨fun text => different (text_eq_iff.mp text), same⟩
  refine ⟨told, fun finite same data limit => ?_⟩
  rw [eq_of_blurred finite (told.mp same)]

/-- Events of which a measure is below the bound. -/
def below (bound : Float) : Except StageError Topology := do
  let schema : Schema := ⟨[⟨"id", .int64, false⟩, ⟨"x", .float64, false⟩]⟩
  let (source, t) ← empty.addStream "events" .json schema "id"
  let (kept, t) ← t.addFilter source (.binary .lt (.column "x") (.literal (.float64 bound)))
  let (_, t) ← t.addPrint kept
  pure t

def infinity (negative : Bool) : Float := Decimal.Written.toDouble (.infinite negative)

theorem below_told : ∃ high low one, below (infinity false) = .ok high ∧ below (infinity true) = .ok low ∧
    below 1 = .ok one ∧ ¬ Digest.Collide high.text low.text ∧ high.blurred = low.blurred ∧
      high.fingerprint = low.fingerprint ∧ ¬ Digest.Collide one.text one.text ∧ one.isFinite = true ∧
        ∀ (data : SourceData) (limit : Option Nat), one.run data limit = one.run data limit := by
  have blurred : ∃ high low, below (infinity false) = .ok high ∧ below (infinity true) = .ok low ∧
      high.blurred = low.blurred := ⟨_, _, rfl, rfl, by rfl⟩
  obtain ⟨high, low, first, second, same⟩ := blurred
  have finite : ∃ one, below 1 = .ok one ∧ one.isFinite = true := ⟨_, rfl, by rfl⟩
  obtain ⟨one, third, finite⟩ := finite
  have apart : ¬ Digest.Collide high.text low.text := fun collide => collide.1 (text_eq_iff.mpr same)
  have own : ¬ Digest.Collide one.text one.text := fun collide => collide.1 rfl
  exact ⟨high, low, one, first, second, third, apart, same, (fingerprint_tells apart).1.mpr same, own, finite,
    (fingerprint_tells own).2 finite rfl⟩

/-- Both bounds are written alike, and a measure of zero is below one of them only. -/
theorem below_not_told : ∃ high low, below (infinity false) = .ok high ∧ below (infinity true) = .ok low ∧
    ¬ Digest.Collide high.text low.text ∧ high.fingerprint = low.fingerprint ∧
      ¬ ∀ (data : SourceData) (limit : Option Nat), Run.Agree (high.run data limit) (low.run data limit) := by
  have made : ∃ high low, below (infinity false) = .ok high ∧ below (infinity true) = .ok low ∧
      high.blurred = low.blurred ∧
        ¬ Run.Agree (high.run ⟨[("events", [⟨[.int64 1, .float64 0]⟩])]⟩ none)
          (low.run ⟨[("events", [⟨[.int64 1, .float64 0]⟩])]⟩ none) := by
    refine ⟨_, _, rfl, rfl, by rfl, fun agree => ?_⟩
    have lines := agree.2
    revert lines
    decide
  obtain ⟨high, low, first, second, same, different⟩ := made
  have text := text_eq_iff.mpr same
  exact ⟨high, low, first, second, fun collide => collide.1 text, fingerprint_of_blurred same,
    fun claim => different (claim _ _)⟩

end Topology
end StreamPlan
