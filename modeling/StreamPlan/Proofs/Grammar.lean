import StreamPlan.Expr.Parser

/-! The grammar of expressions, said without reading: which lists of tokens stand for which trees. It is
stratified, each level being made of the next tighter one, and chains lean to the left. A word is a name
in any letter case, so it may also stand as a column where an operand is due; only NOT may not where a
negation is due. -/
namespace StreamPlan

def Token.Spells (t : Token) (word : String) : Prop :=
  ∃ text, t = .name text ∧ Text.sameIgnoringCase text word = true

theorem Token.spells_name {text word : String} :
    (Token.name text).Spells word ↔ Text.sameIgnoringCase text word = true := by
  simp [Spells]

namespace Expr

inductive Level where
  | disjunction
  | conjunction
  | negation
  | nullTest
  | comparison
  | sum
  | product
  | signed
  | operand

/-- Whether all of the tokens stand for the tree, as an expression of the level. -/
inductive Derives : Level → List Token → Expr → Prop where
  | disjunct {ts : List Token} {e : Expr} (only : Derives .conjunction ts e) : Derives .disjunction ts e
  | or {xs ys : List Token} {t : Token} {l r : Expr} (left : Derives .disjunction xs l)
      (word : t.Spells "OR") (right : Derives .conjunction ys r) :
      Derives .disjunction (xs ++ t :: ys) (.binary .or l r)
  | conjunct {ts : List Token} {e : Expr} (only : Derives .negation ts e) : Derives .conjunction ts e
  | and {xs ys : List Token} {t : Token} {l r : Expr} (left : Derives .conjunction xs l)
      (word : t.Spells "AND") (right : Derives .negation ys r) :
      Derives .conjunction (xs ++ t :: ys) (.binary .and l r)
  | unnegated {ts : List Token} {e : Expr} (only : Derives .nullTest ts e)
      (free : ∀ t ∈ ts.head?, ¬ t.Spells "NOT") : Derives .negation ts e
  | not {t : Token} {ts : List Token} {e : Expr} (word : t.Spells "NOT") (inner : Derives .negation ts e) :
      Derives .negation (t :: ts) (.not e)
  | untested {ts : List Token} {e : Expr} (only : Derives .comparison ts e) : Derives .nullTest ts e
  | isNull {ts : List Token} {t u : Token} {e : Expr} (tested : Derives .comparison ts e)
      (is : t.Spells "IS") (null : u.Spells "NULL") : Derives .nullTest (ts ++ [t, u]) (.isNull e false)
  | isNotNull {ts : List Token} {t n u : Token} {e : Expr} (tested : Derives .comparison ts e)
      (is : t.Spells "IS") (not : n.Spells "NOT") (null : u.Spells "NULL") :
      Derives .nullTest (ts ++ [t, n, u]) (.isNull e true)
  | uncompared {ts : List Token} {e : Expr} (only : Derives .sum ts e) : Derives .comparison ts e
  | compared {xs ys : List Token} {op : BinaryOp} {l r : Expr} (left : Derives .sum xs l)
      (compares : op ∈ [.eq, .notEq, .lt, .ltEq, .gt, .gtEq]) (right : Derives .sum ys r) :
      Derives .comparison (xs ++ .operator op :: ys) (.binary op l r)
  | summand {ts : List Token} {e : Expr} (only : Derives .product ts e) : Derives .sum ts e
  | added {xs ys : List Token} {op : BinaryOp} {l r : Expr} (left : Derives .sum xs l)
      (adds : op ∈ [.plus, .minus]) (right : Derives .product ys r) :
      Derives .sum (xs ++ .operator op :: ys) (.binary op l r)
  | factor {ts : List Token} {e : Expr} (only : Derives .signed ts e) : Derives .product ts e
  | multiplied {xs ys : List Token} {op : BinaryOp} {l r : Expr} (left : Derives .product xs l)
      (multiplies : op ∈ [.multiply, .divide]) (right : Derives .signed ys r) :
      Derives .product (xs ++ .operator op :: ys) (.binary op l r)
  | unsigned {ts : List Token} {e : Expr} (only : Derives .operand ts e) : Derives .signed ts e
  | minusWhole {ts : List Token} {n : Int64} (inner : Derives .signed ts (.literal (.int64 n))) :
      Derives .signed (.operator .minus :: ts) (.literal (.int64 (-n)))
  | minusReal {ts : List Token} {x : Float} (inner : Derives .signed ts (.literal (.float64 x))) :
      Derives .signed (.operator .minus :: ts) (.literal (.float64 (-x)))
  | minusOther {ts : List Token} {e : Expr} (inner : Derives .signed ts e)
      (noWhole : ∀ n, e ≠ .literal (.int64 n)) (noReal : ∀ x, e ≠ .literal (.float64 x)) :
      Derives .signed (.operator .minus :: ts) (.binary .minus (.literal (.int64 0)) e)
  | whole (n : Int64) : Derives .operand [.whole n] (.literal (.int64 n))
  | real (x : Float) : Derives .operand [.real x] (.literal (.float64 x))
  | text (s : String) : Derives .operand [.text s] (.literal (.text s))
  | true {t : Token} (word : t.Spells "TRUE") : Derives .operand [t] (.literal (.bool true))
  | false {t : Token} (word : t.Spells "FALSE") : Derives .operand [t] (.literal (.bool false))
  | null {t : Token} (word : t.Spells "NULL") : Derives .operand [t] (.literal .null)
  | column (name : String) (bare : ∀ word ∈ ["TRUE", "FALSE", "NULL"], ¬ (Token.name name).Spells word) :
      Derives .operand [.name name] (.column name)
  | group {ts : List Token} {e : Expr} (inner : Derives .disjunction ts e) :
      Derives .operand (.openParen :: ts ++ [.closeParen]) e

end Expr
end StreamPlan
