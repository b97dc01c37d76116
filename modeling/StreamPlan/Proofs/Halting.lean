import Mathlib.Logic.Function.Iterate
import StreamPlan.Proofs.Reading

/-! Reading comes to an end. Every group and every link of a chain is read off fewer tokens than there
were, so that the bounds which reading is given never stop it: cut off anywhere beyond the number of
tokens, it has been done before. -/
namespace StreamPlan.Expr

variable {α β : Type}

/-- However the recursion is cut off and gone on with from there, it gives the result if it may take more
rounds than the size: it never comes to the cut. -/
def Halts (size : α → Nat) (step : (α → β) → α → β) (result : α → β) : Prop :=
  ∀ (cut : α → β) (n : Nat) (a : α), size a < n → step^[n] cut a = result a

theorem halts_of_smaller {size : α → Nat} {step : (α → β) → α → β} {result : α → β}
    (closes : ∀ f a, (∀ b, size b < size a → f b = result b) → step f a = result a) :
    Halts size step result := by
  intro cut n
  induction n with
  | zero => exact fun a bound => absurd bound (Nat.not_lt_zero _)
  | succ n ih =>
    intro a bound
    rw [Function.iterate_succ_apply']
    exact closes _ a fun b smaller => ih b (by omega)

theorem derives_ne_nil {level : Level} {ts : List Token} {e : Expr} (derives : Derives level ts e) :
    ts ≠ [] := by
  induction derives with
  | disjunct _ ih | conjunct _ ih | unnegated _ _ ih | untested _ ih | uncompared _ ih | summand _ ih
  | factor _ ih | unsigned _ ih => exact ih
  | or | and | not | isNull | isNotNull | compared | added | multiplied | minusWhole | minusReal
  | minusOther | whole | real | text | true | false | null | column | group => simp

def Shrinks (read : Reads) : Prop := ∀ ts e rest, read ts = .ok (e, rest) → rest.length < ts.length

theorem Sound.shrinks {level : Level} {read : Reads} (sound : Sound level read) : Shrinks read := by
  intro ts e rest done
  obtain ⟨used, rfl, derives⟩ := sound ts e rest done
  have some_used := List.length_pos_iff.mpr (derives_ne_nil derives)
  rw [List.length_append]
  omega

theorem length_joint {level : Level} {ts rest : List Token} {op : BinaryOp}
    (taken : level.joint ts = some (op, rest)) : rest.length < ts.length := by
  obtain ⟨t, rfl, _⟩ := joint_links taken
  exact Nat.lt_succ_self _

/-- One turn of the loop that reads a chain: what is read so far, and the tokens left. -/
def turn (operand : Reads) (joint : List Token → Option (BinaryOp × List Token))
    (again : Expr × List Token → Parsed) : Expr × List Token → Parsed := fun (left, ts) =>
  match joint ts with
  | none => .ok (left, ts)
  | some (op, rest) => do
    let (right, rest) ← operand rest
    again (.binary op left right, rest)

/-- The whole loop, with a bound of as many turns as there are tokens. -/
def loop (operand : Reads) (joint : List Token → Option (BinaryOp × List Token)) : Expr × List Token → Parsed :=
  fun (left, ts) => more operand joint ts.length left ts

section
variable {level : Level} {operand other : Reads}

theorem turn_congr {f g : Expr × List Token → Parsed} (state : Expr × List Token) (shrinks : Shrinks operand)
    (same : ∀ next : Expr × List Token, next.2.length < state.2.length → f next = g next) :
    turn operand level.joint f state = turn operand level.joint g state := by
  obtain ⟨left, ts⟩ := state
  cases taken : level.joint ts with
  | none => simp only [turn, taken]
  | some found =>
    obtain ⟨op, rest⟩ := found
    cases read : operand rest with
    | error => simp only [turn, taken, read, error_bind]
    | ok result =>
      obtain ⟨right, after⟩ := result
      simp only [turn, taken, read, ok_bind]
      exact same (.binary op left right, after) (Nat.lt_trans (shrinks _ _ _ read) (length_joint taken))

theorem more_bound (shrinks : Shrinks operand) {bound : Nat} {left : Expr} {ts : List Token}
    (room : ts.length ≤ bound) : more operand level.joint bound left ts = loop operand level.joint (left, ts) := by
  induction bound using Nat.strongRecOn generalizing left ts with
  | ind bound ih =>
    cases ts with
    | nil =>
      have none : level.joint [] = none := by cases level <;> rfl
      cases bound with
      | zero => rfl
      | succ bound => simp [more, loop, none]
    | cons t ts =>
      cases bound with
      | zero => cases room
      | succ bound =>
        -- both turn once, and go on below the bound with fewer tokens
        have below : ts.length ≤ bound := Nat.le_of_succ_le_succ room
        refine turn_congr (f := fun (e, us) => more operand level.joint bound e us)
          (g := fun (e, us) => more operand level.joint ts.length e us) (left, t :: ts) shrinks ?_
        intro next fewer
        have fits : next.2.length ≤ ts.length := Nat.le_of_lt_succ fewer
        exact (ih bound (Nat.lt_succ_self _) (Nat.le_trans fits below)).trans
          (ih ts.length (Nat.lt_succ_of_le below) fits).symm

theorem halts_loop (shrinks : Shrinks operand) :
    Halts (fun state : Expr × List Token => state.2.length) (turn operand level.joint) (loop operand level.joint) := by
  apply halts_of_smaller
  intro f state same
  obtain ⟨left, ts⟩ := state
  refine (turn_congr (g := fun (e, us) => more operand level.joint ts.length e us) _ shrinks ?_).trans
    (more_bound shrinks (Nat.le_succ ts.length))
  intro next fewer
  exact (same next fewer).trans (more_bound shrinks (Nat.le_of_lt fewer)).symm

/-! Operands that are read alike make every level read alike, on whichever tokens that is, as long as it is
on those that are left of them as well. -/

def AgreeOn (p : List Token → Prop) (read other : Reads) : Prop := ∀ ts : List Token, p ts → read ts = other ts

def AgreeTo (k : Nat) (read other : Reads) : Prop := ∀ ts : List Token, ts.length ≤ k → read ts = other ts

/-- It still holds when a token is taken away. -/
def Hereditary (p : List Token → Prop) : Prop := ∀ t ts, p (t :: ts) → p ts

theorem hereditary_length (k : Nat) : Hereditary fun ts => ts.length ≤ k :=
  fun _ _ room => Nat.le_of_succ_le room

variable {p : List Token → Prop}

theorem Hereditary.suffix (hereditary : Hereditary p) {used rest : List Token} (holds : p (used ++ rest)) :
    p rest := by
  induction used with
  | nil => exact holds
  | cons t used ih => exact ih (hereditary t _ holds)

theorem Sound.keeps {read : Reads} (sound : Sound level read) (hereditary : Hereditary p) {ts rest : List Token}
    {e : Expr} (holds : p ts) (done : read ts = .ok (e, rest)) : p rest := by
  obtain ⟨used, rfl, _⟩ := sound ts e rest done
  exact hereditary.suffix holds

theorem agree_primary {group : Reads} (same : ∀ us : List Token, p (.openParen :: us) → group us = other us) :
    AgreeOn p (primary group) (primary other) := by
  intro ts holds
  cases ts with
  | nil => rfl
  | cons t ts =>
    cases t with
    | openParen => exact congrArg (· >>= fun (inner, rest) => closed inner rest) (same ts holds)
    | whole | real | text | name | closeParen | operator => rfl

theorem agree_unary (hereditary : Hereditary p) (same : AgreeOn p operand other) :
    AgreeOn p (unary operand) (unary other) := by
  intro ts holds
  induction ts with
  | nil => exact same [] holds
  | cons t ts ih =>
    by_cases minus : t = .operator .minus
    · subst minus
      exact congrArg (· >>= fun (inner, rest) => .ok (negate inner, rest)) (ih (hereditary _ _ holds))
    · rw [unary, unary, same _ holds]
      · simpa using minus
      · simpa using minus

theorem agree_more (hereditary : Hereditary p) (sound : Sound level.tighter other) (same : AgreeOn p operand other)
    {bound : Nat} {left : Expr} {ts : List Token} (holds : p ts) :
    more operand level.joint bound left ts = more other level.joint bound left ts := by
  induction bound generalizing left ts with
  | zero => rfl
  | succ bound ih =>
    unfold more
    cases taken : level.joint ts with
    | none => rfl
    | some found =>
      obtain ⟨op, rest⟩ := found
      obtain ⟨t, rfl, _⟩ := joint_links taken
      have behind : p rest := hereditary t rest holds
      dsimp only
      rw [same rest behind]
      cases read : other rest with
      | error => rfl
      | ok result => exact ih (sound.keeps hereditary behind read)

theorem agree_chain (level : Level) (hereditary : Hereditary p) (sound : Sound level.tighter other)
    (same : AgreeOn p operand other) : AgreeOn p (chain operand level.joint) (chain other level.joint) := by
  intro ts holds
  unfold chain
  rw [same ts holds]
  cases read : other ts with
  | error => rfl
  | ok result => exact agree_more hereditary sound same (sound.keeps hereditary holds read)

theorem agree_compared (hereditary : Hereditary p) (sound : Sound .sum other) (same : AgreeOn p operand other) :
    AgreeOn p (comparedOf operand) (comparedOf other) := by
  intro ts holds
  unfold comparedOf
  rw [same ts holds]
  cases read : other ts with
  | error => rfl
  | ok result =>
    obtain ⟨left, rest⟩ := result
    have behind : p rest := sound.keeps hereditary holds read
    simp only [ok_bind]
    cases taken : comparator rest with
    | none => rfl
    | some found =>
      obtain ⟨op, after⟩ := found
      obtain ⟨rfl, _⟩ := comparator_eq_some taken
      dsimp only
      rw [same after (hereditary _ after behind)]

theorem agree_comparison (hereditary : Hereditary p) (sound : Sound .sum other) (same : AgreeOn p operand other) :
    AgreeOn p (comparisonOf operand) (comparisonOf other) := by
  intro ts holds
  rw [comparisonOf_eq, comparisonOf_eq, agree_compared hereditary sound same ts holds]

theorem agree_negation (hereditary : Hereditary p) (same : AgreeOn p operand other) :
    AgreeOn p (negationOf operand) (negationOf other) := by
  intro ts holds
  induction ts with
  | nil => exact same [] holds
  | cons t ts ih =>
    unfold negationOf
    rw [ih (hereditary t ts holds), same (t :: ts) holds]

/-- The levels above the signed operands. -/
def tower (signed : Reads) : Reads :=
  chain (chain (negationOf (comparisonOf (chain (chain signed productSign) sumSign))) andWord) orWord

theorem tower_eq (group : Reads) : tower (unary (primary group)) = disjunctionOf group := rfl

theorem agree_tower {signed group : Reads} (hereditary : Hereditary p) (sound : Sound .disjunction group)
    (same : AgreeOn p signed (unary (primary group))) : AgreeOn p (tower signed) (disjunctionOf group) := by
  have sound (level : Level) := sound_reads sound level
  have product : AgreeOn p (chain signed productSign) (Expr.product group) :=
    agree_chain .product hereditary (sound .signed) same
  have sum : AgreeOn p (chain (chain signed productSign) sumSign) (Expr.sum group) :=
    agree_chain .sum hereditary (sound .product) product
  have negation := agree_negation hereditary (agree_comparison hereditary (sound .sum) sum)
  have conjunction : AgreeOn p (chain (negationOf (comparisonOf (chain (chain signed productSign) sumSign))) andWord)
      (conjunctionOf group) :=
    agree_chain .conjunction hereditary (sound .negation) negation
  exact agree_chain .disjunction hereditary (sound .conjunction) conjunction

/-- Groups that are read alike where they are shorter make expressions read alike. -/
theorem agree_reads {group : Reads} {k : Nat} (sound : Sound .disjunction other)
    (same : ∀ us : List Token, us.length < k → group us = other us) :
    AgreeTo k (disjunctionOf group) (disjunctionOf other) := by
  have signed := agree_unary (hereditary_length k) (agree_primary same)
  rw [← tower_eq group]
  exact agree_tower (hereditary_length k) sound signed

end

/-- Any bound that is not below the number of tokens is as good as another. -/
theorem expression_bound {n m : Nat} {ts : List Token} (room : ts.length ≤ n) (also : ts.length ≤ m) :
    expression n ts = expression m ts := by
  induction n generalizing m ts with
  | zero =>
    obtain rfl := List.length_eq_zero_iff.mp (Nat.le_zero.mp room)
    cases m <;> rfl
  | succ n ih =>
    cases m with
    | zero =>
      obtain rfl := List.length_eq_zero_iff.mp (Nat.le_zero.mp also)
      rfl
    | succ m =>
      refine agree_reads (sound_expression m) (fun us fewer => ?_) ts (Nat.le_refl _)
      exact ih (by omega) (by omega)

/-- An expression at the head of the tokens, whatever their number. -/
def reading : Reads := fun ts => expression ts.length ts

theorem sound_reading : Sound .disjunction reading := fun ts => sound_expression ts.length ts

theorem halts_reading : Halts List.length disjunctionOf reading := by
  apply halts_of_smaller
  intro group ts same
  calc disjunctionOf group ts
      = disjunctionOf (expression ts.length) ts := by
        refine agree_reads (sound_expression ts.length) (fun us fewer => ?_) ts (Nat.le_refl _)
        exact (same us fewer).trans (expression_bound (Nat.le_refl _) (Nat.le_of_lt fewer))
    _ = expression (ts.length + 1) ts := rfl
    _ = reading ts := expression_bound (Nat.le_succ _) (Nat.le_refl _)

end StreamPlan.Expr
