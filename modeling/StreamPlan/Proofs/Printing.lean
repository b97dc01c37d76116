import StreamPlan.Proofs.Parsing
import StreamPlan.Proofs.TokenTexts

/-! Printed expressions are read back. Every operation is printed in parentheses of its own, so that the text
of a tree is cut into tokens which stand for that very tree, and do so wherever an operand may stand. -/
namespace StreamPlan

/-- Values whose text in an expression is sure to be read back. -/
def Scalar.isWritable : Scalar → Bool
  | .null | .bool _ => true
  | .int64 n => Int64.minValue < n
  | .text s => !s.toList.contains '\x27'
  | .int32 _ | .float32 _ | .float64 _ | .bytes _ => false

/-- The token that a symbol is cut into: a word where it is made of letters. -/
def BinaryOp.token : BinaryOp → Token
  | .and => .name "AND"
  | .or => .name "OR"
  | op => .operator op

namespace Expr

/-- Words that may be read as something else where a column is due. -/
def isReserved (name : String) : Bool := ["NOT", "TRUE", "FALSE", "NULL"].any (Text.sameIgnoringCase name)

def literals : Expr → List Scalar
  | .column _ => []
  | .literal value => [value]
  | .binary _ left right => left.literals ++ right.literals
  | .not inner => inner.literals
  | .isNull inner _ => inner.literals

variable {cs xs ys : List Char} {ts ls rs : List Token} {e l r : Expr}

/-- The text is cut into tokens that stand for the tree as an operand does, with or without a sign. -/
structure Shows (cs : List Char) (ts : List Token) (e : Expr) : Prop where
  lexed : Token.ofChars cs = .ok ts
  signed : Derives .signed ts e
  free : ∀ t ∈ ts.head?, ¬ t.Spells "NOT"

/-! An operand stands for the tree at every looser level as well. -/

theorem disjunction_of_nullTest (derives : Derives .nullTest ts e) (free : ∀ t ∈ ts.head?, ¬ t.Spells "NOT") :
    Derives .disjunction ts e := .disjunct (.conjunct (.unnegated derives free))

namespace Shows

theorem product (shows : Shows cs ts e) : Derives .product ts e := .factor shows.signed
theorem sum (shows : Shows cs ts e) : Derives .sum ts e := .summand shows.product
theorem comparison (shows : Shows cs ts e) : Derives .comparison ts e := .uncompared shows.sum
theorem negation (shows : Shows cs ts e) : Derives .negation ts e := .unnegated (.untested shows.comparison) shows.free
theorem conjunction (shows : Shows cs ts e) : Derives .conjunction ts e := .conjunct shows.negation
theorem disjunction (shows : Shows cs ts e) : Derives .disjunction ts e := .disjunct shows.conjunction

theorem free_append (shows : Shows cs ts e) (more : List Token) :
    ∀ t ∈ (ts ++ more).head?, ¬ t.Spells "NOT" := by
  obtain ⟨t, us, rfl⟩ := List.exists_cons_of_ne_nil (derives_ne_nil shows.signed)
  exact shows.free

theorem parse {source : String} (shows : Shows source.toList ts e) : Expr.parse source = .ok e :=
  parse_eq_ok.mpr ⟨ts, shows.lexed, ofTokens_of_derives shows.disjunction⟩

end Shows

theorem shows_token {t : Token} (lexed : Token.ofChars cs = .ok [t]) (derives : Derives .operand [t] e)
    (free : ¬ t.Spells "NOT") : Shows cs [t] e :=
  ⟨lexed, .unsigned derives, by simpa using free⟩

theorem shows_group (lexed : Token.ofChars cs = .ok ts) (derives : Derives .disjunction ts e) :
    Shows ('(' :: (cs ++ [')'])) (.openParen :: (ts ++ [.closeParen])) e :=
  ⟨Token.ofChars_grouped lexed, .unsigned (.group derives), by simp [Token.Spells]⟩

/-- A name that is taken for a negation may stand behind a comparison or a sign, and nowhere else. -/
theorem derives_binary (op : BinaryOp) (left : Shows xs ls l) (right : Derives .signed rs r)
    (free : op = .and ∨ op = .or → ∀ t ∈ rs.head?, ¬ t.Spells "NOT") :
    Derives .disjunction (ls ++ op.token :: rs) (.binary op l r) := by
  have leading := left.free_append (op.token :: rs)
  have factor : Derives .product rs r := .factor right
  have negation (free : ∀ t ∈ rs.head?, ¬ t.Spells "NOT") : Derives .negation rs r :=
    .unnegated (.untested (.uncompared (.summand factor))) free
  cases op with
  | or => exact .or left.disjunction ⟨"OR", rfl, by decide⟩ (.conjunct (negation (free (.inr rfl))))
  | and => exact .disjunct (.and left.conjunction ⟨"AND", rfl, by decide⟩ (negation (free (.inl rfl))))
  | eq | notEq | lt | ltEq | gt | gtEq =>
    exact disjunction_of_nullTest (.untested (.compared left.sum (by decide) (.summand factor))) leading
  | plus | minus =>
    exact disjunction_of_nullTest (.untested (.uncompared (.added left.sum (by decide) factor))) leading
  | multiply | divide =>
    exact disjunction_of_nullTest
      (.untested (.uncompared (.summand (.multiplied left.product (by decide) right)))) leading

theorem derives_not (inner : Shows cs ts e) : Derives .disjunction (.name "NOT" :: ts) (.not e) :=
  .disjunct (.conjunct (.not ⟨"NOT", rfl, by decide⟩ inner.negation))

/-- The words of a null test. -/
def nullWords : Bool → List Token
  | false => [.name "IS", .name "NULL"]
  | true => [.name "IS", .name "NOT", .name "NULL"]

theorem derives_isNull (negated : Bool) (inner : Shows cs ts e) :
    Derives .disjunction (ts ++ nullWords negated) (.isNull e negated) := by
  have derives : Derives .nullTest (ts ++ nullWords negated) (.isNull e negated) := by
    cases negated with
    | false => exact .isNull inner.comparison ⟨"IS", rfl, by decide⟩ ⟨"NULL", rfl, by decide⟩
    | true =>
      exact .isNotNull inner.comparison ⟨"IS", rfl, by decide⟩ ⟨"NOT", rfl, by decide⟩
        ⟨"NULL", rfl, by decide⟩
  exact disjunction_of_nullTest derives (inner.free_append _)

theorem ofChars_symbol (op : BinaryOp) : Token.ofChars op.symbol.toList = .ok [op.token] := by
  cases op <;> rfl

theorem shows_binary (op : BinaryOp) (left : Shows xs ls l) (right : Shows ys rs r) :
    ∃ ts, Shows ('(' :: ((xs ++ ' ' :: (op.symbol.toList ++ ' ' :: ys)) ++ [')'])) ts (.binary op l r) :=
  ⟨_, shows_group (Token.ofChars_spaced left.lexed (Token.ofChars_spaced (ofChars_symbol op) right.lexed))
    (derives_binary op left right.signed fun _ => right.free)⟩

theorem shows_not (inner : Shows cs ts e) :
    ∃ ts, Shows ('(' :: (("NOT".toList ++ ' ' :: cs) ++ [')'])) ts (.not e) := by
  have word : Token.ofChars "NOT".toList = .ok [.name "NOT"] := rfl
  exact ⟨_, shows_group (Token.ofChars_spaced word inner.lexed) (derives_not inner)⟩

theorem shows_isNull (inner : Shows cs ts e) :
    ∃ ts, Shows ('(' :: ((cs ++ ' ' :: "IS NULL".toList) ++ [')'])) ts (.isNull e false) := by
  have words : Token.ofChars "IS NULL".toList = .ok (nullWords false) := rfl
  exact ⟨_, shows_group (Token.ofChars_spaced inner.lexed words) (derives_isNull false inner)⟩

theorem shows_isNotNull (inner : Shows cs ts e) :
    ∃ ts, Shows ('(' :: ((cs ++ ' ' :: "IS NOT NULL".toList) ++ [')'])) ts (.isNull e true) := by
  have words : Token.ofChars "IS NOT NULL".toList = .ok (nullWords true) := rfl
  exact ⟨_, shows_group (Token.ofChars_spaced inner.lexed words) (derives_isNull true inner)⟩

/-! A literal is one token, or two where it is negative. -/

theorem shows_column {name : String} (bare : Token.isBareName name = true) (free : isReserved name = false) :
    Shows name.toList [.name name] (.column name) := by
  have apart : ∀ word ∈ ["NOT", "TRUE", "FALSE", "NULL"], ¬ (Token.name name).Spells word := by
    intro word reserved spells
    rw [isReserved, List.any_eq_false] at free
    exact free word reserved (Token.spells_name.mp spells)
  refine shows_token (Token.ofChars_bareName bare) (.column name fun word member => ?_) (apart "NOT" (by simp))
  exact apart word (List.mem_cons_of_mem _ member)

theorem shows_word {word : String} {value : Scalar} (lexed : Token.ofChars word.toList = .ok [.name word])
    (derives : Derives .operand [.name word] (.literal value)) (free : Text.sameIgnoringCase word "NOT" = false) :
    Shows word.toList [.name word] (.literal value) := by
  refine shows_token lexed derives fun spells => ?_
  rw [Token.spells_name.mp spells] at free
  cases free

theorem shows_text {s : String} (plain : '\x27' ∉ s.toList) :
    Shows ('\x27' :: (s.toList ++ ['\x27'])) [.text s] (.literal (.text s)) :=
  shows_token (Token.ofChars_text plain) (.text s) (by simp [Token.Spells])

theorem shows_whole {n : Int64} (above : Int64.minValue < n) :
    ∃ ts, Shows (Decimal.wholeChars n.toInt) ts (.literal (.int64 n)) := by
  have low : -9223372036854775808 < n.toInt := Int64.lt_iff_toInt_lt.mp above
  have high : n.toInt < 9223372036854775808 := n.toInt_lt
  have below : n.toInt.natAbs < Decimal.signedLimit := by
    rw [Decimal.signedLimit]
    omega
  have digits := Token.ofChars_count below
  unfold Decimal.wholeChars
  split
  · rename_i negative
    have back : -Int64.ofNat n.toInt.natAbs = n := by
      rw [← Int64.ofInt_eq_ofNat, ← Int64.ofInt_neg, ← Int.eq_neg_natAbs_of_nonpos (by omega), Int64.ofInt_toInt]
    have derives := Derives.minusWhole (.unsigned (.whole (Int64.ofNat n.toInt.natAbs)))
    rw [back] at derives
    exact ⟨_, Token.ofChars_cons_eq_ok.mpr ⟨_, _, _, rfl, digits, rfl⟩, derives, by simp [Token.Spells]⟩
  · have back : Int64.ofNat n.toInt.natAbs = n := by
      rw [← Int64.ofInt_eq_ofNat, Int.natAbs_of_nonneg (by omega), Int64.ofInt_toInt]
    rw [back] at digits
    exact ⟨_, shows_token digits (.whole n) (by simp [Token.Spells])⟩

theorem shows_literal {value : Scalar} (writable : value.isWritable = true) :
    ∃ ts, Shows (Expr.literal value).display.toList ts (.literal value) := by
  cases value with
  | null => exact ⟨_, shows_word rfl (.null ⟨"null", rfl, by decide⟩) (by decide)⟩
  | bool b =>
    cases b with
    | false => exact ⟨_, shows_word rfl (.false ⟨"false", rfl, by decide⟩) (by decide)⟩
    | true => exact ⟨_, shows_word rfl (.true ⟨"true", rfl, by decide⟩) (by decide)⟩
  | int64 n =>
    obtain ⟨ts, shows⟩ := shows_whole (of_decide_eq_true writable)
    exact ⟨ts, by simpa [display, displayLiteral, Scalar.display, Decimal.wholeText] using shows⟩
  | text s =>
    have shows := shows_text (s := s) (by simpa [Scalar.isWritable] using writable)
    exact ⟨_, by simpa [display, displayLiteral, toString] using shows⟩
  | int32 | float32 | float64 | bytes => cases writable

theorem shows_display (names : ∀ name ∈ e.columns, Token.isBareName name = true ∧ isReserved name = false)
    (literals : ∀ value ∈ e.literals, value.isWritable = true) : ∃ ts, Shows e.display.toList ts e := by
  induction e with
  | column name =>
    obtain ⟨bare, free⟩ := names name (List.mem_singleton_self name)
    exact ⟨_, shows_column bare free⟩
  | literal value => exact shows_literal (literals value (List.mem_singleton_self value))
  | binary op l r left right =>
    obtain ⟨_, shown⟩ := left (fun name member => names name (List.mem_append_left _ member))
      (fun value member => literals value (List.mem_append_left _ member))
    obtain ⟨_, also⟩ := right (fun name member => names name (List.mem_append_right _ member))
      (fun value member => literals value (List.mem_append_right _ member))
    simpa [display, toString] using shows_binary op shown also
  | not inner ih =>
    obtain ⟨_, shown⟩ := ih names literals
    simpa [display, toString] using shows_not shown
  | isNull inner negated ih =>
    obtain ⟨_, shown⟩ := ih names literals
    cases negated with
    | false => simpa [display, toString] using shows_isNull shown
    | true => simpa [display, toString] using shows_isNotNull shown

theorem parse_display {e : Expr}
    (names : ∀ name ∈ e.columns, Token.isBareName name = true ∧ isReserved name = false)
    (literals : ∀ value ∈ e.literals, value.isWritable = true) : parse e.display = .ok e := by
  obtain ⟨_, shows⟩ := shows_display names literals
  exact shows.parse

/-- Columns that are named like operators, a number below zero and a text that looks like an operation. -/
def awkward : Expr :=
  .binary .and
    (.isNull (.binary .lt (.column "is") (.literal (.int64 (-7)))) true)
    (.not (.binary .or (.column "OR") (.isNull (.literal (.text "(\"AND\" - 1)")) false)))

theorem parse_awkward :
    awkward.display = "(((is < -7) IS NOT NULL) AND (NOT (OR OR ('(\"AND\" - 1)' IS NULL))))" ∧
    parse awkward.display = .ok awkward :=
  ⟨by decide, parse_display (by decide) (by decide)⟩

end Expr
end StreamPlan
