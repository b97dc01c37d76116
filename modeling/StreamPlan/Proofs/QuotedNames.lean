import StreamPlan.Proofs.Printing

/-! Names in quotation marks. The marks are gone once a text is cut into tokens, so a name in them is a word
as much as a bare one is. TRUE, FALSE and NULL are values wherever they stand, and NOT is a negation wherever
one may begin; every other name, whatever is in it, is read as the column it was printed for. -/
namespace StreamPlan.Expr

/-- The text of a tree with every column name in quotation marks, and otherwise as it is displayed. -/
def displayQuoted : Expr → String
  | .column name => "\"" ++ name ++ "\""
  | .literal value => displayLiteral value
  | .binary op left right => s!"({left.displayQuoted} {op.symbol} {right.displayQuoted})"
  | .not inner => s!"(NOT {inner.displayQuoted})"
  | .isNull inner false => s!"({inner.displayQuoted} IS NULL)"
  | .isNull inner true => s!"({inner.displayQuoted} IS NOT NULL)"

/-- The tokens that text is cut into. -/
def tokens : Expr → List Token
  | .column name => [.name name]
  | .literal value => (Token.ofChars (displayLiteral value).toList).toOption.getD []
  | .binary op left right => .openParen :: ((left.tokens ++ op.token :: right.tokens) ++ [.closeParen])
  | .not inner => .openParen :: ((.name "NOT" :: inner.tokens) ++ [.closeParen])
  | .isNull inner negated => .openParen :: ((inner.tokens ++ nullWords negated) ++ [.closeParen])

/-! Where a name may be taken for a negation: alone, right behind an opening parenthesis, and as an operand
of AND, OR or NOT. Behind a comparison or an arithmetic sign it may not. -/

/-- The name of the column, if the tree is one. -/
def ownName : Expr → List String
  | .column name => [name]
  | _ => []

/-- The names that come first in a group. -/
def leadingNames : Expr → List String
  | .column _ | .literal _ => []
  | .binary _ left right => left.ownName ++ left.leadingNames ++ right.leadingNames
  | .not inner => inner.leadingNames
  | .isNull inner _ => inner.ownName ++ inner.leadingNames

/-- The names that are operands of AND, OR or NOT. -/
def logicNames : Expr → List String
  | .column _ | .literal _ => []
  | .binary op left right =>
    (if op = .and ∨ op = .or then left.ownName ++ right.ownName else []) ++ left.logicNames ++ right.logicNames
  | .not inner => inner.ownName ++ inner.logicNames
  | .isNull inner _ => inner.logicNames

def exposedNames (e : Expr) : List String := e.ownName ++ e.leadingNames ++ e.logicNames

/-- The words that are values. -/
def valueWords : List String := ["TRUE", "FALSE", "NULL"]

variable {ts : List Token} {e : Expr}

theorem shows_literal_tokens {value : Scalar} (writable : value.isWritable = true) :
    Shows (displayLiteral value).toList (Expr.literal value).tokens (.literal value) := by
  obtain ⟨ts, shows⟩ := shows_literal writable
  have lexed : Token.ofChars (displayLiteral value).toList = .ok ts := shows.lexed
  have same : (Expr.literal value).tokens = ts := by
    rw [tokens, lexed]
    rfl
  exact same ▸ shows

theorem lexed_displayQuoted (plain : ∀ name ∈ e.columns, '"' ∉ name.toList)
    (literals : ∀ value ∈ e.literals, value.isWritable = true) :
    Token.ofChars e.displayQuoted.toList = .ok e.tokens := by
  induction e with
  | column name =>
    simpa [displayQuoted, tokens] using Token.ofChars_quotedName (plain name (List.mem_singleton_self name))
  | literal value => exact (shows_literal_tokens (literals value (List.mem_singleton_self value))).lexed
  | binary op l r left right =>
    have lexed := left (fun name member => plain name (List.mem_append_left _ member))
      (fun value member => literals value (List.mem_append_left _ member))
    have also := right (fun name member => plain name (List.mem_append_right _ member))
      (fun value member => literals value (List.mem_append_right _ member))
    simpa [displayQuoted, tokens, toString] using
      Token.ofChars_grouped (Token.ofChars_spaced lexed (Token.ofChars_spaced (ofChars_symbol op) also))
  | not inner ih =>
    have word : Token.ofChars "NOT".toList = .ok [.name "NOT"] := rfl
    simpa [displayQuoted, tokens, toString] using
      Token.ofChars_grouped (Token.ofChars_spaced word (ih plain literals))
  | isNull inner negated ih =>
    have lexed := ih plain literals
    cases negated with
    | false =>
      have words : Token.ofChars "IS NULL".toList = .ok (nullWords false) := rfl
      simpa [displayQuoted, tokens, toString] using Token.ofChars_grouped (Token.ofChars_spaced lexed words)
    | true =>
      have words : Token.ofChars "IS NOT NULL".toList = .ok (nullWords true) := rfl
      simpa [displayQuoted, tokens, toString] using Token.ofChars_grouped (Token.ofChars_spaced lexed words)

/-! Where no name is taken for anything else, the tokens stand for the tree. -/

/-- None of the names is a word, in any letter case. -/
def Apart (names words : List String) : Prop :=
  ∀ name ∈ names, ∀ word ∈ words, Text.sameIgnoringCase name word = false

instance (names words : List String) : Decidable (Apart names words) :=
  inferInstanceAs (Decidable (∀ name ∈ names, ∀ word ∈ words, Text.sameIgnoringCase name word = false))

theorem Apart.of_subset {names others words : List String} (apart : Apart names words) (among : others ⊆ names) :
    Apart others words := fun name member => apart name (among member)

@[simp] theorem apart_nil (words : List String) : Apart [] words := nofun

@[simp] theorem apart_append {names others words : List String} :
    Apart (names ++ others) words ↔ Apart names words ∧ Apart others words :=
  List.forall_mem_append

theorem Apart.not_spells {names words : List String} (apart : Apart names words) {name word : String}
    (member : name ∈ names) (reserved : word ∈ words) : ¬ (Token.name name).Spells word := fun spells => by
  rw [Token.spells_name, apart name member word reserved] at spells
  cases spells

theorem free_tokens (own : Apart e.ownName ["NOT"]) (literals : ∀ value ∈ e.literals, value.isWritable = true) :
    ∀ t ∈ e.tokens.head?, ¬ t.Spells "NOT" := by
  cases e with
  | column name =>
    intro t head
    cases head
    exact own.not_spells (List.mem_singleton_self name) (List.mem_singleton_self _)
  | literal value => exact (shows_literal_tokens (literals value (List.mem_singleton_self value))).free
  | binary | not | isNull => simp [tokens, Token.Spells]

theorem shows_tokens (plain : ∀ name ∈ e.columns, '"' ∉ name.toList)
    (literals : ∀ value ∈ e.literals, value.isWritable = true) (own : Apart e.ownName ["NOT"])
    (signed : Derives .signed e.tokens e) : Shows e.displayQuoted.toList e.tokens e :=
  ⟨lexed_displayQuoted plain literals, signed, free_tokens own literals⟩

theorem derives_tokens (plain : ∀ name ∈ e.columns, '"' ∉ name.toList)
    (literals : ∀ value ∈ e.literals, value.isWritable = true) (named : Apart e.columns valueWords)
    (inner : Apart (e.leadingNames ++ e.logicNames) ["NOT"]) : Derives .signed e.tokens e := by
  induction e with
  | column name =>
    exact .unsigned (.column name fun word => named.not_spells (List.mem_singleton_self name))
  | literal value => exact (shows_literal_tokens (literals value (List.mem_singleton_self value))).signed
  | binary op l r left right =>
    have leftPlain : ∀ name ∈ l.columns, '"' ∉ name.toList := fun name member =>
      plain name (List.mem_append_left _ member)
    have leftLiterals : ∀ value ∈ l.literals, value.isWritable = true := fun value member =>
      literals value (List.mem_append_left _ member)
    have rightLiterals : ∀ value ∈ r.literals, value.isWritable = true := fun value member =>
      literals value (List.mem_append_right _ member)
    have signed := left leftPlain leftLiterals (named.of_subset (List.subset_append_left _ _))
      (inner.of_subset (by grind [leadingNames, logicNames]))
    have also := right (fun name member => plain name (List.mem_append_right _ member)) rightLiterals
      (named.of_subset (List.subset_append_right _ _)) (inner.of_subset (by grind [leadingNames, logicNames]))
    have leads : Apart l.ownName ["NOT"] := inner.of_subset (by grind [leadingNames])
    have shows := shows_tokens leftPlain leftLiterals leads signed
    refine .unsigned (.group (derives_binary op shows also fun logical => ?_))
    exact free_tokens (inner.of_subset (by grind [logicNames])) rightLiterals
  | not e ih =>
    have signed := ih plain literals named (inner.of_subset (by grind [leadingNames, logicNames]))
    have operand : Apart e.ownName ["NOT"] := inner.of_subset (by grind [logicNames])
    exact .unsigned (.group (derives_not (shows_tokens plain literals operand signed)))
  | isNull e negated ih =>
    have signed := ih plain literals named (inner.of_subset (by grind [leadingNames, logicNames]))
    have leads : Apart e.ownName ["NOT"] := inner.of_subset (by grind [leadingNames])
    exact .unsigned (.group (derives_isNull negated (shows_tokens plain literals leads signed)))

/-! Conversely, a tree that tokens stand for has no column by the name of a value, and nowhere a column by
the name of a negation as an operand of AND, OR or NOT. -/

theorem apart_of_derives {level : Level} (derives : Derives level ts e) : Apart e.columns valueWords := by
  induction derives with
  | column name bare =>
    intro other member word reserved
    cases List.mem_singleton.mp member
    exact Bool.eq_false_iff.mpr fun same => bare word reserved (Token.spells_name.mpr same)
  | or _ _ _ left right | and _ _ _ left right | compared _ _ _ left right | added _ _ _ left right
  | multiplied _ _ _ left right => exact apart_append.mpr ⟨left, right⟩
  | minusWhole | minusReal | whole | real | text | true | false | null => exact apart_nil _
  | disjunct _ ih | conjunct _ ih | unnegated _ _ ih | not _ _ ih | untested _ ih | isNull _ _ _ ih
  | isNotNull _ _ _ _ ih | uncompared _ ih | summand _ ih | factor _ ih | unsigned _ ih | minusOther _ _ _ ih
  | group _ ih => exact ih

/-- The levels at which a negation may begin. -/
def Level.negates : Level → Bool
  | .disjunction | .conjunction | .negation => true
  | _ => false

theorem ownName_of_derives {level : Level} (derives : Derives level ts e)
    (free : level.negates = true ∨ ∀ t ∈ ts.head?, ¬ t.Spells "NOT") : Apart e.ownName ["NOT"] := by
  induction derives with
  | column name _ =>
    intro other member word reserved
    cases List.mem_singleton.mp member
    cases List.mem_singleton.mp reserved
    refine Bool.eq_false_iff.mpr fun same => ?_
    rcases free with negates | free
    · cases negates
    · exact free _ rfl (Token.spells_name.mpr same)
  | disjunct _ ih | conjunct _ ih | group _ ih => exact ih (.inl rfl)
  | unnegated _ first ih => exact ih (.inr first)
  | untested _ ih | uncompared _ ih | summand _ ih | factor _ ih | unsigned _ ih =>
    rcases free with negates | free
    · cases negates
    · exact ih (.inr free)
  | or | and | not | isNull | isNotNull | compared | added | multiplied | minusWhole | minusReal | minusOther
  | whole | real | text | true | false | null => exact apart_nil _

theorem logicNames_of_derives {level : Level} (derives : Derives level ts e) : Apart e.logicNames ["NOT"] := by
  induction derives with
  | or left _ right leftIh rightIh | and left _ right leftIh rightIh =>
    have first := ownName_of_derives left (.inl rfl)
    have second := ownName_of_derives right (.inl rfl)
    simp [logicNames, first, second, leftIh, rightIh]
  | compared _ compares _ left right =>
    rw [logicNames, if_neg (by rintro (rfl | rfl) <;> simp at compares)]
    simp [left, right]
  | added _ adds _ left right =>
    rw [logicNames, if_neg (by rintro (rfl | rfl) <;> simp at adds)]
    simp [left, right]
  | multiplied _ multiplies _ left right =>
    rw [logicNames, if_neg (by rintro (rfl | rfl) <;> simp at multiplies)]
    simp [left, right]
  | not _ inner ih => exact apart_append.mpr ⟨ownName_of_derives inner (.inl rfl), ih⟩
  | minusWhole | minusReal | whole | real | text | true | false | null | column => exact apart_nil _
  | minusOther _ _ _ ih => simpa [logicNames] using ih
  | disjunct _ ih | conjunct _ ih | unnegated _ _ ih | untested _ ih | isNull _ _ _ ih
  | isNotNull _ _ _ _ ih | uncompared _ ih | summand _ ih | factor _ ih | unsigned _ ih | group _ ih => exact ih

/-! A column by the name of a negation right behind an opening parenthesis would be one more place where a
negation begins than the tree has negations. -/

/-- How many negations begin in the tokens, if one may begin with the first of them or not. -/
def openings : Bool → List Token → Nat
  | _, [] => 0
  | begins, t :: ts => (if begins && isNotWord t then 1 else 0) + openings (t = .openParen) ts

def negations : Expr → Nat
  | .column _ | .literal _ => 0
  | .binary _ left right => left.negations + right.negations
  | .not inner => inner.negations + 1
  | .isNull inner _ => inner.negations

theorem openings_le (begins : Bool) (ts : List Token) : openings false ts ≤ openings begins ts := by
  cases ts with
  | nil => rfl
  | cons t ts => simp [openings]

theorem openings_free (begins : Bool) (free : ∀ t ∈ ts.head?, ¬ t.Spells "NOT") :
    openings begins ts = openings false ts := by
  cases ts with
  | nil => rfl
  | cons t ts => simp [openings, isNotWord_iff, free t rfl]

/-- A token that is neither a negation nor a parenthesis that opens keeps what is around it apart. -/
theorem openings_append {t : Token} (begins : Bool) (xs ys : List Token) (noWord : isNotWord t = false)
    (inside : t ≠ .openParen) :
    openings begins (xs ++ t :: ys) = openings begins xs + openings false ys := by
  induction xs generalizing begins with
  | nil => simp [openings, noWord, inside]
  | cons x xs ih => simp [openings, ih, Nat.add_assoc]

theorem openings_word {t : Token} {word : String} (begins : Bool) (xs ys : List Token) (spells : t.Spells word)
    (other : Text.sameIgnoringCase word "NOT" = false) :
    openings begins (xs ++ t :: ys) = openings begins xs + openings false ys := by
  obtain ⟨text, rfl, same⟩ := spells
  exact openings_append begins xs ys (Bool.eq_false_iff.mpr (apart_of_same same other)) nofun

theorem openings_operator (begins : Bool) (xs ys : List Token) (op : BinaryOp) :
    openings begins (xs ++ .operator op :: ys) = openings begins xs + openings false ys :=
  openings_append begins xs ys rfl nofun

theorem openings_group (begins : Bool) (ts : List Token) :
    openings begins (.openParen :: (ts ++ [.closeParen])) = openings true ts := by
  have closing := openings_append true ts [] (t := .closeParen) rfl nofun
  simpa [openings, isNotWord] using closing

theorem openings_of_derives {level : Level} (derives : Derives level ts e) :
    openings level.negates ts ≤ e.negations := by
  induction derives with
  | disjunct _ ih | conjunct _ ih | untested _ ih | uncompared _ ih | summand _ ih | factor _ ih
  | unsigned _ ih => exact ih
  | @or xs ys _ _ _ _ word _ left right | @and xs ys _ _ _ _ word _ left right =>
    rw [openings_word _ xs ys word (by decide), negations]
    exact Nat.add_le_add left ((openings_le true ys).trans right)
  | unnegated _ free ih =>
    rw [openings_free _ free]
    exact ih
  | @not t ts _ word _ ih =>
    obtain ⟨text, rfl, same⟩ := word
    have rest := (openings_le true ts).trans ih
    simp only [openings, negations, isNotWord, Level.negates, same]
    simp
    omega
  | @isNull ts _ _ _ _ is null ih =>
    rw [openings_word _ ts _ is (by decide)]
    simpa [openings, negations, Level.negates] using ih
  | @isNotNull ts _ _ _ _ _ is not null ih =>
    obtain ⟨text, rfl, _⟩ := not
    rw [openings_word _ ts _ is (by decide)]
    simpa [openings, negations, Level.negates] using ih
  | @compared xs ys op _ _ _ _ _ left right | @added xs ys op _ _ _ _ _ left right
  | @multiplied xs ys op _ _ _ _ _ left right =>
    rw [openings_operator, negations]
    exact Nat.add_le_add left right
  | @minusWhole ts _ _ ih | @minusReal ts _ _ ih | @minusOther ts _ _ _ _ ih =>
    have signed := openings_operator false [] ts .minus
    rw [List.nil_append] at signed
    simpa [signed, openings, negations, Level.negates] using ih
  | whole | real | text | true | false | null | column => simp [openings, Level.negates]
  | @group ts _ _ ih =>
    rw [List.cons_append, openings_group]
    exact ih

/-- In the tokens of a tree negations begin where it has them, and with each name NOT that leads a group. -/
theorem openings_tokens (begins : Bool) (literals : ∀ value ∈ e.literals, value.isWritable = true) :
    openings begins e.tokens = e.negations +
      ((if begins then e.ownName else []) ++ e.leadingNames).countP (Text.sameIgnoringCase · "NOT") := by
  induction e generalizing begins with
  | column name =>
    cases begins <;> simp [tokens, openings, negations, ownName, leadingNames, isNotWord, List.countP_cons]
  | literal value =>
    have shows := shows_literal_tokens (literals value (List.mem_singleton_self value))
    have none : openings false (Expr.literal value).tokens ≤ 0 := openings_of_derives shows.signed
    rw [openings_free begins shows.free, Nat.le_zero.mp none]
    simp [negations, ownName, leadingNames]
  | binary op l r left right =>
    have first := left true fun value member => literals value (List.mem_append_left _ member)
    have second := right false fun value member => literals value (List.mem_append_right _ member)
    have word : isNotWord op.token = false := by
      cases op <;> decide
    have inside : op.token ≠ .openParen := by
      cases op <;> decide
    have symbol : openings true (l.tokens ++ op.token :: r.tokens) =
        openings true l.tokens + openings false r.tokens := openings_append _ _ _ word inside
    rw [tokens, openings_group, symbol, first, second]
    simp [negations, ownName, leadingNames, List.countP_append]
    omega
  | not e ih =>
    have inner := ih false literals
    rw [tokens, openings_group, openings]
    simp [negations, ownName, leadingNames, inner, isNotWord]
    omega
  | isNull e negated ih =>
    have inner := ih true literals
    have words : openings true (e.tokens ++ nullWords negated) = openings true e.tokens := by
      cases negated <;>
        rw [nullWords, openings_append (t := .name "IS") _ _ _ (by decide) (by decide)] <;> simp [openings]
    rw [tokens, openings_group, words, inner]
    simp [negations, ownName, leadingNames, List.countP_append]

/-- Printed with its names in quotation marks and read again, a tree is the same exactly if no column is named
TRUE, FALSE or NULL and none is named NOT where a negation may begin, in any letter case. -/
theorem parse_displayQuoted_iff (plain : ∀ name ∈ e.columns, '"' ∉ name.toList)
    (literals : ∀ value ∈ e.literals, value.isWritable = true) :
    parse e.displayQuoted = .ok e ↔ Apart e.columns valueWords ∧ Apart e.exposedNames ["NOT"] := by
  have read : parse e.displayQuoted = .ok e ↔ Derives .disjunction e.tokens e := by
    rw [parse_eq_ok]
    constructor
    · rintro ⟨ts, lexed, done⟩
      rw [lexed_displayQuoted plain literals] at lexed
      cases lexed
      exact derives_of_ofTokens done
    · intro derives
      exact ⟨e.tokens, lexed_displayQuoted plain literals, ofTokens_of_derives derives⟩
  rw [read]
  constructor
  · intro derives
    refine ⟨apart_of_derives derives, ?_⟩
    -- the grammar spends one negation of the tree on each that begins, and a name NOT would be one too many
    have begun := openings_tokens true literals
    have bound : openings true e.tokens ≤ e.negations := openings_of_derives derives
    have none : (e.ownName ++ e.leadingNames).countP (Text.sameIgnoringCase · "NOT") = 0 := by
      rw [if_pos rfl] at begun
      omega
    have leading : Apart (e.ownName ++ e.leadingNames) ["NOT"] := by
      intro name member word reserved
      cases List.mem_singleton.mp reserved
      exact Bool.eq_false_iff.mpr (List.countP_eq_zero.mp none name member)
    exact apart_append.mpr ⟨leading, logicNames_of_derives derives⟩
  · rintro ⟨named, exposed⟩
    have inner : Apart (e.leadingNames ++ e.logicNames) ["NOT"] := exposed.of_subset (by grind [exposedNames])
    have own : Apart e.ownName ["NOT"] := exposed.of_subset (by grind [exposedNames])
    exact (shows_tokens plain literals own (derives_tokens plain literals named inner)).disjunction

/-- Columns named like operators, one of them like a negation, and like a piece of an expression. -/
def quotable : Expr :=
  .binary .and (.binary .eq (.column "or") (.column "not")) (.not (.isNull (.column "is null) AND (1") false))

theorem quotable_readBack :
    quotable.displayQuoted = "((\"or\" = \"not\") AND (NOT (\"is null) AND (1\" IS NULL)))" ∧
    parse quotable.displayQuoted = .ok quotable :=
  ⟨by decide, (parse_displayQuoted_iff (by decide) (by decide)).mpr (by decide)⟩

/-- Neither the column named true nor, alone, the one named not is read back. -/
theorem not_readBack : ¬ (∀ e : Expr, (∀ name ∈ e.columns, '"' ∉ name.toList) →
    (∀ value ∈ e.literals, value.isWritable = true) → parse e.displayQuoted = .ok e) ∧
    parse (column "true").displayQuoted = .ok (.literal (.bool true)) ∧
    parse (column "not").displayQuoted = .error (.misplaced .moreInput 2 "\"not\"") := by
  have named : parse (column "true").displayQuoted = .ok (.literal (.bool true)) := by rfl
  refine ⟨fun readBack => ?_, named, by rfl⟩
  have same := readBack (.column "true") (by decide) (by decide)
  rw [named] at same
  cases same

end StreamPlan.Expr
