import StreamPlan.Proofs.TypeFaults

/-! Whole-number expressions. What one evaluates to is the number it denotes over the integers, and it
evaluates just where every part of it has such a number that fits the part's width: a part that does
not fit fails the whole, though the number of the whole may fit again. -/
namespace StreamPlan

/-- In reach of a signed number of so many bits. -/
def Within (bits : Nat) (n : Int) : Prop := -2 ^ (bits - 1) ≤ n ∧ n < 2 ^ (bits - 1)

theorem Within.widen {n : Int} (narrow : Within 32 n) : Within 64 n := by
  obtain ⟨least, most⟩ := narrow
  constructor <;> omega

/-- The result over the integers, if there is one; division drops the fraction. -/
def BinaryOp.exact : BinaryOp → Int → Int → Option Int
  | .plus, a, b => some (a + b)
  | .minus, a, b => some (a - b)
  | .multiply, a, b => some (a * b)
  | .divide, a, b => if b = 0 then none else some (a.tdiv b)
  | _, _, _ => none

/-- The row has a value for the column, one of the column's type. -/
def Row.Gives (row : Row) (schema : Schema) (name : String) : Prop :=
  ∃ position field value, schema.index name = some position ∧ schema.fields[position]? = some field ∧
    row.get? position = some value ∧ value.dataType = some field.dataType

def DataType.IsWhole (type : DataType) : Prop := type = .int32 ∨ type = .int64

namespace Scalar

def bits : Scalar → Nat
  | .int32 _ => 32
  | _ => 64

/-- The value is this number, in so many bits. -/
structure Stores (value : Scalar) (width : Nat) (n : Int) : Prop where
  number : value.asInt = some n
  bits : value.bits = width

variable {value other : Scalar} {width : Nat} {n : Int}

theorem stores_narrow_iff : value.Stores 32 n ↔ Within 32 n ∧ .int32 (Int32.ofInt n) = value := by
  constructor
  · rintro ⟨number, bits⟩
    cases value <;> cases bits
    cases number
    rename_i x
    exact ⟨⟨x.le_toInt, x.toInt_lt⟩, by rw [Int32.ofInt_toInt]⟩
  · rintro ⟨⟨least, most⟩, rfl⟩
    exact ⟨congrArg some (Int32.toInt_ofInt_of_le least most), rfl⟩

theorem stores_wide_iff : value.Stores 64 n ↔ Within 64 n ∧ .int64 (Int64.ofInt n) = value := by
  constructor
  · rintro ⟨number, bits⟩
    cases value <;> cases bits <;> cases number
    rename_i x
    exact ⟨⟨x.le_toInt, x.toInt_lt⟩, by rw [Int64.ofInt_toInt]⟩
  · rintro ⟨⟨least, most⟩, rfl⟩
    exact ⟨congrArg some (Int64.toInt_ofInt_of_le least most), rfl⟩

theorem exists_stores_iff (known : width = 32 ∨ width = 64) :
    (∃ value : Scalar, value.Stores width n) ↔ Within width n := by
  rcases known with rfl | rfl
  · simp [stores_narrow_iff]
  · simp [stores_wide_iff]

theorem Stores.width_cases (stores : value.Stores width n) : width = 32 ∨ width = 64 := by
  obtain ⟨_, rfl⟩ := stores
  cases value <;> simp [Scalar.bits]

theorem Stores.within (stores : value.Stores width n) : Within width n :=
  (exists_stores_iff stores.width_cases).mp ⟨value, stores⟩

theorem Stores.unique (stores : value.Stores width n) (also : other.Stores width n) : value = other := by
  rcases stores.width_cases with rfl | rfl
  · exact (stores_narrow_iff.mp stores).2.symm.trans (stores_narrow_iff.mp also).2
  · exact (stores_wide_iff.mp stores).2.symm.trans (stores_wide_iff.mp also).2

theorem Stores.isNull (stores : value.Stores width n) : value.isNull = false := by
  cases value <;> first | rfl | cases stores.number

theorem Stores.dataType_eq_iff (stores : value.Stores width n) : value.dataType = some .int32 ↔ width = 32 := by
  obtain ⟨number, rfl⟩ := stores
  cases value <;> cases number <;> simp [Scalar.bits, dataType]

theorem stores_of_dataType {type : DataType} (typed : value.dataType = some type) (whole : type.IsWhole) :
    ∃ n, value.Stores (if type = .int32 then 32 else 64) n := by
  rcases whole with rfl | rfl <;> cases value <;> cases typed
  · exact ⟨_, rfl, rfl⟩
  · exact ⟨_, rfl, rfl⟩

end Scalar

namespace Expr

section
variable {op : BinaryOp} {left right value : Scalar} {i j : Nat} {m n : Int}

theorem fitsInt32_iff : fitsInt32 n = true ↔ Within 32 n := by
  simp only [fitsInt32, Within, Bool.and_eq_true, decide_eq_true_eq]
  change -2147483648 ≤ n ∧ n ≤ 2147483647 ↔ _
  omega

theorem fitsInt64_iff : fitsInt64 n = true ↔ Within 64 n := by
  simp only [fitsInt64, Within, Bool.and_eq_true, decide_eq_true_eq]
  change -9223372036854775808 ≤ n ∧ n ≤ 9223372036854775807 ↔ _
  omega

theorem wholeResult_eq_ok (computes : op.isArithmetic = true) {a b : Int} :
    wholeResult op a b = .ok n ↔ op.exact a b = some n := by
  cases op with
  | plus | minus | multiply => simp [wholeResult, BinaryOp.exact]
  | divide => by_cases zero : b = 0 <;> simp [wholeResult, BinaryOp.exact, zero]
  | and | or | eq | notEq | lt | ltEq | gt | gtEq => cases computes

theorem wholeArithmetic_eq_ok (computes : op.isArithmetic = true) {narrow : Bool} {a b : Int} :
    wholeArithmetic op narrow a b = .ok value ↔
      ∃ n, op.exact a b = some n ∧ value.Stores (if narrow then 32 else 64) n := by
  simp only [wholeArithmetic, bind_eq_ok, wholeResult_eq_ok computes, throw_eq_error, error_bind, refused_eq_ok,
    Bool.not_eq_true', Bool.not_eq_false, fitsInt64_iff]
  refine exists_congr fun n => and_congr_right fun _ => ?_
  cases narrow with
  | true =>
    by_cases fits : Within 32 n
    · simp [Scalar.stores_narrow_iff, fitsInt32_iff, fits, fits.widen]
    · simp [Scalar.stores_narrow_iff, fitsInt32_iff, fits]
  | false => simp [Scalar.stores_wide_iff]

theorem isInt32_eq (stores : value.Stores i n) : isInt32 value = decide (i = 32) := by
  obtain ⟨_, rfl⟩ := stores
  cases value <;> rfl

/-- An operation on two numbers gives the exact result, if there is one and it fits. -/
theorem applyBinary_eq_ok (computes : op.isArithmetic = true) (leftStores : left.Stores i m)
    (rightStores : right.Stores j n) :
    applyBinary op left right = .ok value ↔
      ∃ k, op.exact m n = some k ∧ value.Stores (if i = 32 ∧ j = 32 then 32 else 64) k := by
  rw [applyBinary_arithmetic computes leftStores.isNull rightStores.isNull, arithmetic, leftStores.number,
    rightStores.number]
  simp only [wholeArithmetic_eq_ok computes, isInt32_eq leftStores, isInt32_eq rightStores, Bool.and_eq_true,
    decide_eq_true_eq]

end

/-- Columns of whole numbers, literals that are such, and the four operations. -/
inductive IsWhole (schema : Schema) : Expr → Prop where
  | column {name : String} {field : Field} (found : schema.find name = some field)
      (whole : field.dataType.IsWhole) : IsWhole schema (.column name)
  | literal {value : Scalar} {type : DataType} (typed : value.dataType = some type) (whole : type.IsWhole) :
      IsWhole schema (.literal value)
  | binary {op : BinaryOp} {left right : Expr} (computes : op.isArithmetic = true)
      (leftWhole : IsWhole schema left) (rightWhole : IsWhole schema right) :
      IsWhole schema (.binary op left right)

/-- The columns and literals of an expression. -/
def leaves : Expr → List Expr
  | .column name => [.column name]
  | .literal value => [.literal value]
  | .binary _ left right => left.leaves ++ right.leaves
  | .not inner => inner.leaves
  | .isNull inner _ => inner.leaves

/-- The number an expression stands for over the integers. It has none where it divides by zero. -/
def exact (schema : Schema) (row : Row) : Expr → Option Int
  | .column name => do (← row.get? (← schema.index name)).asInt
  | .literal value => value.asInt
  | .binary op left right => do op.exact (← left.exact schema row) (← right.exact schema row)
  | .not _ => none
  | .isNull _ _ => none

/-- The bits of a leaf are those of its type; an operation has 32 if both operands have, and else 64. -/
def width (schema : Schema) : Expr → Nat
  | .binary _ left right => if left.width schema = 32 ∧ right.width schema = 32 then 32 else 64
  | leaf => if leaf.typeOf schema = .ok .int32 then 32 else 64

/-- There is such a number, and it is in reach of the expression's own width. -/
def Fits (schema : Schema) (row : Row) (e : Expr) : Prop :=
  ∃ n, e.exact schema row = some n ∧ Within (e.width schema) n

/-- It has a value just where all its parts fit, and then the number it stands for, in its own width. -/
def EvaluatesExactly (schema : Schema) (row : Row) (e : Expr) : Prop :=
  ∀ value, e.eval schema row = .ok value ↔ (∀ part ∈ e.parts, part.Fits schema row) ∧
    ∃ n, e.exact schema row = some n ∧ value.Stores (e.width schema) n

section
variable {schema : Schema} {row : Row} {e part : Expr}

theorem mem_parts (e : Expr) : e ∈ e.parts := by
  cases e <;> exact List.mem_cons_self

theorem width_cases (schema : Schema) (e : Expr) : e.width schema = 32 ∨ e.width schema = 64 := by
  cases e <;> simp only [width] <;> split <;> simp

theorem width_eq_iff (whole : e.IsWhole schema) :
    e.width schema = 32 ↔ ∀ leaf ∈ e.leaves, leaf.typeOf schema = .ok .int32 := by
  induction whole with
  | column | literal => simp [width, leaves]
  | binary _ _ _ leftIh rightIh => simp [width, leaves, leftIh, rightIh, or_imp, forall_and]

theorem isWhole_of_part (whole : e.IsWhole schema) (inside : part ∈ e.parts) :
    part.IsWhole schema ∧ part.columns ⊆ e.columns := by
  induction whole with
  | column found type =>
    obtain rfl := List.mem_singleton.mp inside
    exact ⟨.column found type, List.Subset.refl _⟩
  | literal typed type =>
    obtain rfl := List.mem_singleton.mp inside
    exact ⟨.literal typed type, List.Subset.refl _⟩
  | binary computes leftWhole rightWhole leftIh rightIh =>
    rcases List.mem_cons.mp inside with rfl | inside
    · exact ⟨.binary computes leftWhole rightWhole, List.Subset.refl _⟩
    · rcases List.mem_append.mp inside with inside | inside
      · obtain ⟨whole, columns⟩ := leftIh inside
        exact ⟨whole, List.subset_append_of_subset_left _ columns⟩
      · obtain ⟨whole, columns⟩ := rightIh inside
        exact ⟨whole, List.subset_append_of_subset_right _ columns⟩

theorem evaluatesExactly_leaf {content : Scalar} {n : Int} (alone : e.parts = [e])
    (done : e.eval schema row = .ok content) (number : e.exact schema row = some n)
    (stores : content.Stores (e.width schema) n) : e.EvaluatesExactly schema row := by
  intro value
  rw [done, alone, List.forall_mem_singleton]
  constructor
  · rintro ⟨⟩
    exact ⟨⟨n, number, stores.within⟩, n, number, stores⟩
  · rintro ⟨_, other, same, also⟩
    cases number.symm.trans same
    exact congrArg Except.ok (stores.unique also)

theorem evaluatesExactly_binary {op : BinaryOp} {left right : Expr} (computes : op.isArithmetic = true)
    (leftExact : left.EvaluatesExactly schema row) (rightExact : right.EvaluatesExactly schema row) :
    (binary op left right).EvaluatesExactly schema row := by
  intro value
  simp only [eval, bind_eq_ok, parts, List.forall_mem_cons, List.forall_mem_append]
  constructor
  · rintro ⟨a, leftDone, b, rightDone, done⟩
    obtain ⟨leftFit, m, leftNumber, leftStores⟩ := (leftExact a).mp leftDone
    obtain ⟨rightFit, n, rightNumber, rightStores⟩ := (rightExact b).mp rightDone
    obtain ⟨k, result, stores⟩ := (applyBinary_eq_ok computes leftStores rightStores).mp done
    have number : (binary op left right).exact schema row = some k := by
      simp [exact, leftNumber, rightNumber, result]
    exact ⟨⟨⟨k, number, stores.within⟩, leftFit, rightFit⟩, k, number, stores⟩
  · rintro ⟨⟨_, leftFit, rightFit⟩, k, number, stores⟩
    obtain ⟨m, leftNumber, leftWithin⟩ := leftFit left left.mem_parts
    obtain ⟨n, rightNumber, rightWithin⟩ := rightFit right right.mem_parts
    obtain ⟨a, leftStores⟩ := (Scalar.exists_stores_iff (left.width_cases schema)).mpr leftWithin
    obtain ⟨b, rightStores⟩ := (Scalar.exists_stores_iff (right.width_cases schema)).mpr rightWithin
    refine ⟨a, (leftExact a).mpr ⟨leftFit, m, leftNumber, leftStores⟩,
      b, (rightExact b).mpr ⟨rightFit, n, rightNumber, rightStores⟩,
      (applyBinary_eq_ok computes leftStores rightStores).mpr ⟨k, ?_, stores⟩⟩
    simpa [exact, leftNumber, rightNumber] using number

theorem evaluatesExactly (whole : e.IsWhole schema) (given : ∀ name ∈ e.columns, row.Gives schema name) :
    e.EvaluatesExactly schema row := by
  induction whole with
  | @column name field found type =>
    obtain ⟨position, other, content, index, here, has, typed⟩ := given name (List.mem_singleton_self name)
    cases found.symm.trans (Schema.find_eq_some_iff.mpr ⟨position, index, here⟩)
    obtain ⟨n, stores⟩ := Scalar.stores_of_dataType typed type
    have done : (column name).eval schema row = .ok content := by simp [eval, index, has]
    have number : (column name).exact schema row = some n := by simp [exact, index, has, stores.number]
    exact evaluatesExactly_leaf rfl done number (by simpa [width, typeOf, found] using stores)
  | @literal content type typed whole =>
    obtain ⟨n, stores⟩ := Scalar.stores_of_dataType typed whole
    exact evaluatesExactly_leaf rfl rfl stores.number (by simpa [width, typeOf, typed] using stores)
  | binary computes _ _ leftIh rightIh =>
    exact evaluatesExactly_binary computes (leftIh fun name member => given name (List.mem_append_left _ member))
      (rightIh fun name member => given name (List.mem_append_right _ member))

/-- A whole-number expression has a value just where each part fits, and no part has any value but the
number that it stands for, as a narrow value just where all its leaves are narrow. -/
theorem integers_exact (whole : e.IsWhole schema) (given : ∀ name ∈ e.columns, row.Gives schema name) :
    ((∃ value, e.eval schema row = .ok value) ↔ ∀ part ∈ e.parts, part.Fits schema row) ∧
    ∀ part ∈ e.parts, ∀ value, part.eval schema row = .ok value →
      ∃ n, part.exact schema row = some n ∧ value.asInt = some n ∧
        (value.dataType = some .int32 ↔ ∀ leaf ∈ part.leaves, leaf.typeOf schema = .ok .int32) := by
  have exact := evaluatesExactly whole given
  constructor
  · constructor
    · rintro ⟨value, done⟩
      exact ((exact value).mp done).1
    · intro fits
      obtain ⟨n, number, within⟩ := fits e e.mem_parts
      obtain ⟨value, stores⟩ := (Scalar.exists_stores_iff (e.width_cases schema)).mpr within
      exact ⟨value, (exact value).mpr ⟨fits, n, number, stores⟩⟩
  · intro part inside value done
    obtain ⟨partWhole, columns⟩ := isWhole_of_part whole inside
    obtain ⟨_, n, number, stores⟩ :=
      (evaluatesExactly partWhole (fun name member => given name (columns member)) value).mp done
    exact ⟨n, number, stores.number, stores.dataType_eq_iff.trans (width_eq_iff partWhole)⟩

end

def ledger : Schema := ⟨[⟨"units", .int32, false⟩, ⟨"price", .int64, true⟩]⟩

def lastUnits : Row := ⟨[.int32 2147483647, .int64 3]⟩

/-- Half of what was earned, owed. -/
def owed : Expr := .binary .divide (.binary .multiply (.column "UNITS") (.column "price")) (.literal (.int32 (-2)))

/-- One more and one less, in 32 bits. -/
def thereAndBack : Expr :=
  .binary .minus (.binary .plus (.column "units") (.literal (.int32 1))) (.literal (.int32 1))

theorem owed_isWhole : owed.IsWhole ledger := by
  have units : ledger.find "UNITS" = some ⟨"units", .int32, false⟩ := by decide
  have price : ledger.find "price" = some ⟨"price", .int64, true⟩ := by decide
  exact .binary rfl (.binary rfl (.column units (.inl rfl)) (.column price (.inr rfl))) (.literal rfl (.inl rfl))

theorem thereAndBack_isWhole : thereAndBack.IsWhole ledger := by
  have units : ledger.find "units" = some ⟨"units", .int32, false⟩ := by decide
  exact .binary rfl (.binary rfl (.column units (.inl rfl)) (.literal rfl (.inl rfl))) (.literal rfl (.inl rfl))

theorem lastUnits_gives {name : String} (known : name = "UNITS" ∨ name = "price" ∨ name = "units") :
    lastUnits.Gives ledger name := by
  rcases known with rfl | rfl | rfl
  · exact ⟨0, _, _, by decide, rfl, rfl, rfl⟩
  · exact ⟨1, _, _, by decide, rfl, rfl, rfl⟩
  · exact ⟨0, _, _, by decide, rfl, rfl, rfl⟩

/-- Units and price multiply in 64 bits, and their quotient is cut towards zero; one more than the last
number of 32 bits fails, though one less than that would fit again. -/
theorem lastUnits_exact :
    owed.IsWhole ledger ∧ (∀ name ∈ owed.columns, lastUnits.Gives ledger name) ∧
    (∃ value, owed.eval ledger lastUnits = .ok value ∧ value.asInt = some (-3221225470) ∧
      value.dataType ≠ some .int32) ∧
    thereAndBack.IsWhole ledger ∧ (∀ name ∈ thereAndBack.columns, lastUnits.Gives ledger name) ∧
    thereAndBack.exact ledger lastUnits = some 2147483647 ∧
    ¬∃ value, thereAndBack.eval ledger lastUnits = .ok value := by
  have owedGiven : ∀ name ∈ owed.columns, lastUnits.Gives ledger name := by
    intro name member
    rcases List.mem_pair.mp (show name ∈ ["UNITS", "price"] from member) with rfl | rfl
    · exact lastUnits_gives (.inl rfl)
    · exact lastUnits_gives (.inr (.inl rfl))
  have backGiven : ∀ name ∈ thereAndBack.columns, lastUnits.Gives ledger name := by
    intro name member
    obtain rfl := List.mem_singleton.mp (show name ∈ ["units"] from member)
    exact lastUnits_gives (.inr (.inr rfl))
  refine ⟨owed_isWhole, owedGiven, ?_, thereAndBack_isWhole, backGiven, by decide, fun done => ?_⟩
  · have done : owed.eval ledger lastUnits = .ok (.int64 (-3221225470)) := by decide
    obtain ⟨n, number, same, narrow⟩ := (integers_exact owed_isWhole owedGiven).2 owed owed.mem_parts _ done
    cases (show owed.exact ledger lastUnits = some (-3221225470) by decide).symm.trans number
    refine ⟨_, done, same, fun int32 => ?_⟩
    have price := narrow.mp int32 (.column "price") (by simp [owed, leaves])
    revert price
    decide
  · obtain ⟨n, number, within⟩ := (integers_exact thereAndBack_isWhole backGiven).1.mp done
      (.binary .plus (.column "units") (.literal (.int32 1))) (by simp [thereAndBack, parts])
    cases number
    revert within
    unfold Within
    decide

end Expr
end StreamPlan
