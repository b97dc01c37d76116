import StreamPlan.Proofs.ExactIntegers
import StreamPlan.Proofs.Parsing
import StreamPlan.Proofs.TokenTexts

/-! Minus signs in front of whole numbers. Of the numbers of 64 bits only the least has no opposite. No
number in a text is negative, so none is the least, and no nest of signs and parentheses makes it one. -/
namespace StreamPlan

variable {n : Int64}

theorem toInt_neg_of_minValue_lt (above : Int64.minValue < n) : (-n).toInt = -n.toInt := by
  have least := Int64.lt_iff_toInt_lt.mp above
  have most := n.toInt_lt
  rw [Int64.toInt_minValue] at least
  rw [Int64.toInt_neg]
  exact Int.bmod_eq_of_le (by omega) (by omega)

theorem minValue_lt_neg (above : Int64.minValue < n) : Int64.minValue < -n := by
  have most := n.toInt_lt
  rw [Int64.lt_iff_toInt_lt, Int64.toInt_minValue, toInt_neg_of_minValue_lt above]
  omega

theorem minValue_lt_of_nonneg (count : 0 ≤ n.toInt) : Int64.minValue < n := by
  rw [Int64.lt_iff_toInt_lt, Int64.toInt_minValue]
  omega

/-! Numbers in texts. -/
namespace Token

/-- No whole number among the tokens is negative. -/
def Counts (ts : List Token) : Prop := ∀ n, Token.whole n ∈ ts → 0 ≤ n.toInt

theorem Counts.tail {t : Token} {ts : List Token} (counts : Counts (t :: ts)) : Counts ts :=
  fun n member => counts n (List.mem_cons_of_mem t member)

theorem Counts.append {xs ys : List Token} (counts : Counts (xs ++ ys)) : Counts xs ∧ Counts ys :=
  ⟨fun n member => counts n (List.mem_append_left ys member),
    fun n member => counts n (List.mem_append_right xs member)⟩

theorem nonneg_of_ofNumber {text : List Char} (read : ofNumber text = .ok (.whole n)) : 0 ≤ n.toInt := by
  unfold ofNumber at read
  dsimp only at read
  split at read
  · rename_i made
    cases read
    split at made
    · obtain ⟨_, _, real⟩ := Option.map_eq_some_iff.mp made
      cases real
    · obtain ⟨count, counted, whole⟩ := Option.map_eq_some_iff.mp made
      cases whole
      have below : count < Decimal.signedLimit := by
        have kept := Option.filter_eq_some_iff.mp counted
        exact of_decide_eq_true kept.2
      rw [Int64.toInt_ofNat_of_lt below]
      exact Int.natCast_nonneg count
  · cases read

theorem nonneg_of_first {c : Char} {cs after : List Char} (read : first c cs = .ok (some (.whole n), after)) :
    0 ≤ n.toInt := by
  rw [first_eq] at read
  split_ifs at read
  · cases read
  · cases read
  · cases read
  · unfold quoted at read
    dsimp only at read
    split at read
    · cases read
    · split at read <;> cases read
  · unfold numbered at read
    cases number : ofNumber (c :: cs.takeWhile isNumberPart) with
    | error => rw [number] at read; cases read
    | ok token =>
      rw [number] at read
      cases read
      exact nonneg_of_ofNumber number
  · cases read
  · unfold operatorOf at read
    dsimp only at read
    split at read <;> cases read

theorem counts_of_ofChars {cs : List Char} {ts : List Token} (read : ofChars cs = .ok ts) : Counts ts := by
  refine ofChars_induction (motive := fun _ ts => Counts ts) (fun _ none => by cases none) ?_ read
  intro c cs t after ts cut _ counts n member
  rcases List.mem_append.mp member with here | later
  · rw [Option.mem_toList] at here
    cases here
    exact nonneg_of_first cut
  · exact counts n later

end Token

namespace Expr

open Token

/-- No whole number in it is the least of 64 bits. -/
def Opposable (e : Expr) : Prop := ∀ n, .literal (.int64 n) ∈ e.leaves → Int64.minValue < n

theorem opposable_binary {op : BinaryOp} {l r : Expr} (left : l.Opposable) (right : r.Opposable) :
    (Expr.binary op l r).Opposable := fun n member =>
  (List.mem_append.mp member).elim (left n) (right n)

theorem opposable_literal {value : Scalar} (above : ∀ n, value = .int64 n → Int64.minValue < n) :
    (Expr.literal value).Opposable := fun n member => by
  cases List.mem_singleton.mp member
  exact above n rfl

theorem opposable_subtracted {e : Expr} (opposable : e.Opposable) :
    (Expr.binary .minus (.literal (.int64 0)) e).Opposable := by
  have zero : (Expr.literal (.int64 0)).Opposable := opposable_literal fun n same => by
    cases same
    decide
  exact opposable_binary zero opposable

theorem opposable_negate {e : Expr} (opposable : e.Opposable) : (negate e).Opposable := by
  unfold negate
  split
  · rename_i value
    refine opposable_literal fun n same => ?_
    cases same
    exact minValue_lt_neg (opposable value List.mem_cons_self)
  · exact opposable_literal fun n same => by cases same
  · exact opposable_subtracted opposable

/-- What counts stand for has no number that is without an opposite. -/
theorem opposable_of_derives {level : Level} {ts : List Token} {e : Expr} (derives : Derives level ts e)
    (counts : Counts ts) : e.Opposable := by
  -- each level has only numbers of the levels below it, until a minus sign makes a new one
  induction derives with
  | disjunct _ ih | conjunct _ ih | unnegated _ _ ih | untested _ ih | uncompared _ ih | summand _ ih
  | factor _ ih | unsigned _ ih => exact ih counts
  | or _ _ _ left right | and _ _ _ left right | compared _ _ _ left right | added _ _ _ left right
  | multiplied _ _ _ left right => exact opposable_binary (left counts.append.1) (right counts.append.2.tail)
  | not _ _ ih => exact ih counts.tail
  | isNull _ _ _ ih | isNotNull _ _ _ _ ih => exact ih counts.append.1
  | minusWhole _ ih | minusReal _ ih => exact opposable_negate (ih counts.tail)
  | minusOther _ _ _ ih => exact opposable_subtracted (ih counts.tail)
  | whole m =>
    refine opposable_literal fun n same => ?_
    cases same
    exact minValue_lt_of_nonneg (counts m List.mem_cons_self)
  | real | text | true | false | null => exact opposable_literal fun n same => by cases same
  | column => exact fun n member => by cases List.mem_singleton.mp member
  | group _ ih => exact ih counts.append.1.tail

/-! Parsing with another way to take in a minus sign, one that may refuse to. -/

def unaryWith (take : Expr → Except Fault Expr) (operand : Reads) : Reads
  | .operator .minus :: rest => do
    let (inner, rest) ← unaryWith take operand rest
    pure (← take inner, rest)
  | ts => operand ts

def expressionWith (take : Expr → Except Fault Expr) : Nat → Reads
  | 0 => fun _ => .error ⟨.moreInput, none⟩
  | bound + 1 => tower (unaryWith take (primary (expressionWith take bound)))

def ofTokensWith (take : Expr → Except Fault Expr) (ts : List Token) : Except Fault Expr := do
  let (e, rest) ← expressionWith take ts.length ts
  if rest.isEmpty then pure e else throw ⟨.noMoreInput, some rest.length⟩

def parseWith (take : Expr → Except Fault Expr) (source : String) : Except SyntaxError Expr :=
  match ofChars source.toList with
  | .error error => .error (.lexical error source)
  | .ok [] => .error .empty
  | .ok ts =>
    match ofTokensWith take ts with
    | .ok e => .ok e
    | .error fault => .error (.misplaced fault.wanted (fault.position ts.length) source)

/-- A minus sign taken into a number only if the number has an opposite. -/
def checked (stop : Fault) : Expr → Except Fault Expr
  | .literal (.int64 n) => if fitsInt64 (-n.toInt) then .ok (negate (.literal (.int64 n))) else .error stop
  | inner => .ok (negate inner)

theorem hereditary_counts : Hereditary Counts := fun _ _ counts => counts.tail

section
variable {take : Expr → Except Fault Expr} (takes : ∀ e : Expr, e.Opposable → take e = .ok (negate e))
include takes

theorem agree_unaryWith {operand other : Reads} (sound : Sound .operand other)
    (same : AgreeOn Counts operand other) : AgreeOn Counts (unaryWith take operand) (unary other) := by
  intro ts counts
  induction ts with
  | nil => exact same [] counts
  | cons t ts ih =>
    by_cases minus : t = .operator .minus
    · subst minus
      have behind : Counts ts := counts.tail
      rw [unaryWith, unary, ih behind]
      cases read : unary other ts with
      | error => rfl
      | ok result =>
        obtain ⟨inner, rest⟩ := result
        obtain ⟨used, rfl, derives⟩ := sound_unary sound _ _ _ read
        have opposable := opposable_of_derives derives behind.append.1
        simp only [ok_bind, takes inner opposable]
    · rw [unaryWith, unary, same _ counts]
      · simpa using minus
      · simpa using minus

theorem agree_expressionWith (bound : Nat) : AgreeOn Counts (expressionWith take bound) (expression bound) := by
  induction bound with
  | zero => exact fun _ _ => rfl
  | succ bound ih =>
    have sound := sound_expression bound
    have primary := agree_primary fun us counts => ih us (hereditary_counts _ us counts)
    exact agree_tower hereditary_counts sound (agree_unaryWith takes (sound_primary sound) primary)

theorem parseWith_eq (source : String) : parseWith take source = parse source := by
  unfold parseWith parse
  cases read : ofChars source.toList with
  | error => rfl
  | ok ts =>
    have same : ofTokensWith take ts = ofTokens ts := by
      rw [ofTokensWith, agree_expressionWith takes ts.length ts (counts_of_ofChars read), ofTokens]
    cases ts with
    | nil => rfl
    | cons t ts => cases done : ofTokens (t :: ts) <;> simp only [same, done]

end

/-- Where every sign is taken in, this is the parser. -/
theorem parseWith_negate (source : String) : parseWith (fun e => .ok (negate e)) source = parse source :=
  parseWith_eq (fun _ _ => rfl) source

/-- The check stops at the one number without an opposite, and is silent everywhere else. -/
theorem checked_eq (stop : Fault) (e : Expr) :
    checked stop e = if e = .literal (.int64 Int64.minValue) then .error stop else .ok (negate e) := by
  unfold checked
  split
  · rename_i n
    have fits : fitsInt64 (-n.toInt) = true ↔ n ≠ Int64.minValue := by
      have most := n.toInt_lt
      have least := n.le_toInt
      rw [fitsInt64_iff, Within, Ne, ← Int64.toInt_inj, Int64.toInt_minValue]
      omega
    by_cases lowest : n = Int64.minValue
    · rw [if_neg (fun inside => fits.mp inside lowest), if_pos (by rw [lowest])]
    · rw [if_pos (fits.mpr lowest), if_neg (by simpa using lowest)]
  · rename_i other
    rw [if_neg (other _)]

theorem checked_of_opposable (stop : Fault) {e : Expr} (opposable : e.Opposable) :
    checked stop e = .ok (negate e) := by
  rw [checked_eq, if_neg]
  rintro rfl
  exact absurd (opposable _ List.mem_cons_self) (by decide)

/-- Stopping at a number that has no opposite changes nothing: parsing comes by none, nor does the tree
have one. -/
theorem parse_opposable {source : String} {e : Expr} (parsed : parse source = .ok e) :
    (∀ stop, parseWith (checked stop) source = .ok e) ∧
      ∀ n, .literal (.int64 n) ∈ e.leaves → Int64.minValue < n := by
  refine ⟨fun stop => ?_, ?_⟩
  · rw [parseWith_eq fun _ => checked_of_opposable stop, parsed]
  · obtain ⟨ts, read, done⟩ := parse_eq_ok.mp parsed
    exact opposable_of_derives (derives_of_ofTokens done) (counts_of_ofChars read)

theorem parse_opposable_nested :
    let source := "-(-(9223372036854775807)) - -n"
    let tree : Expr := .binary .minus (.literal (.int64 9223372036854775807))
      (.binary .minus (.literal (.int64 0)) (.column "n"))
    parse source = .ok tree ∧ (∀ stop, parseWith (checked stop) source = .ok tree) ∧
      ∀ n, .literal (.int64 n) ∈ tree.leaves → Int64.minValue < n := by
  have parsed : parse "-(-(9223372036854775807)) - -n" = .ok (.binary .minus
      (.literal (.int64 9223372036854775807)) (.binary .minus (.literal (.int64 0)) (.column "n"))) := by
    decide +kernel
  exact ⟨parsed, parse_opposable parsed⟩

/-- Tokens that no text is cut into can hold the number the check is for. -/
example (stop : Fault) : ofTokensWith (checked stop) [.operator .minus, .whole Int64.minValue] = .error stop := by
  rfl

end Expr
end StreamPlan
