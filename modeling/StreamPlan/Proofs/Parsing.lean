import StreamPlan.Proofs.Halting

/-! Reading finds what stands for a tree. Tokens that stand for an expression of a level are read to their
end and no further, whatever follows, as long as it does not go on with the expression. With the way back
this makes the reader accept the grammar and nothing else, so that no tokens stand for two trees. -/
namespace StreamPlan.Expr

namespace Level

/-- How tight the level is. -/
def rank : Level → Nat
  | disjunction => 0
  | conjunction => 1
  | negation => 2
  | nullTest => 3
  | comparison => 4
  | sum => 5
  | product => 6
  | signed => 7
  | operand => 8

/-- A chain may go on with a joint of its own, anything else is at its end. -/
def openRank : Level → Nat
  | disjunction => 1
  | conjunction => 2
  | sum => 6
  | product => 7
  | level => level.rank

end Level

/-- The tokens do not go on with an expression of any level that is as tight as the rank. -/
structure Ends (rank : Nat) (rest : List Token) : Prop where
  product : rank ≤ 6 → productSign rest = none
  sum : rank ≤ 5 → sumSign rest = none
  comparison : rank ≤ 4 → comparator rest = none
  nullTest : rank ≤ 3 → keyword "IS" rest = none
  conjunction : rank ≤ 1 → andWord rest = none
  disjunction : rank ≤ 0 → orWord rest = none

variable {level : Level} {xs ys ts rest : List Token} {t : Token} {op : BinaryOp} {e l r : Expr} {n : Nat}

theorem Ends.tighter {rank other : Nat} (ends : Ends rank rest) (tighter : rank ≤ other) : Ends other rest :=
  ⟨fun h => ends.product (Nat.le_trans tighter h), fun h => ends.sum (Nat.le_trans tighter h),
    fun h => ends.comparison (Nat.le_trans tighter h), fun h => ends.nullTest (Nat.le_trans tighter h),
    fun h => ends.conjunction (Nat.le_trans tighter h), fun h => ends.disjunction (Nat.le_trans tighter h)⟩

theorem Ends.joint (ends : Ends level.rank rest) : level.joint rest = none := by
  cases level with
  | disjunction => exact ends.disjunction (Nat.le_refl _)
  | conjunction => exact ends.conjunction (Nat.le_refl _)
  | sum => exact ends.sum (Nat.le_refl _)
  | product => exact ends.product (Nat.le_refl _)
  | negation | nullTest | comparison | signed | operand => rfl

theorem ends_nil : Ends 0 [] := ⟨fun _ => rfl, fun _ => rfl, fun _ => rfl, fun _ => rfl, fun _ => rfl, fun _ => rfl⟩

theorem ends_close (rest : List Token) : Ends 0 (.closeParen :: rest) :=
  ⟨fun _ => rfl, fun _ => rfl, fun _ => rfl, fun _ => rfl, fun _ => rfl, fun _ => rfl⟩

theorem apart_of_same {text word other : String} (same : Text.sameIgnoringCase text word = true)
    (apart : Text.sameIgnoringCase word other = false) : ¬ Text.sameIgnoringCase text other = true := by
  intro also
  rw [Text.sameIgnoringCase_trans (Text.sameIgnoringCase_symm same) also] at apart
  cases apart

theorem keyword_eq_none {word : String} (other : String) (spells : t.Spells word)
    (apart : Text.sameIgnoringCase word other = false) (rest : List Token) : keyword other (t :: rest) = none := by
  obtain ⟨text, rfl, same⟩ := spells
  exact if_neg (apart_of_same same apart)

theorem keyword_of_spells {word : String} (spells : t.Spells word) (rest : List Token) :
    keyword word (t :: rest) = some rest := keyword_eq_some.mpr ⟨t, rfl, spells⟩

theorem ends_or (word : t.Spells "OR") (rest : List Token) : Ends 1 (t :: rest) := by
  have is := keyword_eq_none "IS" word (by decide) rest
  have and := keyword_eq_none "AND" word (by decide) rest
  obtain ⟨text, rfl, _⟩ := word
  exact ⟨fun _ => rfl, fun _ => rfl, fun _ => rfl, fun _ => is, fun _ => by rw [andWord, and]; rfl, by omega⟩

theorem ends_and (word : t.Spells "AND") (rest : List Token) : Ends 2 (t :: rest) := by
  have is := keyword_eq_none "IS" word (by decide) rest
  obtain ⟨text, rfl, _⟩ := word
  exact ⟨fun _ => rfl, fun _ => rfl, fun _ => rfl, fun _ => is, by omega, by omega⟩

theorem ends_is (word : t.Spells "IS") (rest : List Token) : Ends 4 (t :: rest) := by
  obtain ⟨text, rfl, _⟩ := word
  exact ⟨fun _ => rfl, fun _ => rfl, fun _ => rfl, by omega, by omega, by omega⟩

theorem ends_comparator (compares : op ∈ [BinaryOp.eq, .notEq, .lt, .ltEq, .gt, .gtEq]) (rest : List Token) :
    Ends 5 (.operator op :: rest) := by
  refine ⟨fun _ => ?_, fun _ => ?_, by omega, by omega, by omega, by omega⟩
  all_goals cases op <;> first | rfl | simp at compares

theorem ends_sign (adds : op ∈ [BinaryOp.plus, .minus]) (rest : List Token) : Ends 6 (.operator op :: rest) := by
  refine ⟨fun _ => ?_, by omega, by omega, by omega, by omega, by omega⟩
  cases op <;> first | rfl | simp at adds

theorem ends_looser (rest : List Token) : Ends 7 rest :=
  ⟨by omega, by omega, by omega, by omega, by omega, by omega⟩

/-! What stands for an expression is read, one production after the other. -/

/-- The tokens are read as the tree, and then the chain goes on, if it is one. -/
def Found (level : Level) (ts : List Token) (e : Expr) : Prop :=
  ∀ (n : Nat) (rest : List Token), ts.length ≤ n + 1 → Ends level.openRank rest →
    level.reads (expression n) (ts ++ rest) = loop (level.tighter.reads (expression n)) level.joint (e, rest)

theorem loop_of_joint {operand : Reads} (ended : level.joint rest = none) :
    loop operand level.joint (e, rest) = .ok (e, rest) := by
  cases rest with
  | nil => rfl
  | cons t rest => simp only [loop, List.length_cons, more, ended]

theorem Found.ended (found : Found level ts e) (room : ts.length ≤ n + 1) (ends : Ends level.rank rest) :
    level.reads (expression n) (ts ++ rest) = .ok (e, rest) := by
  have beyond : level.rank ≤ level.openRank := by cases level <;> decide
  rw [found n rest room (ends.tighter beyond)]
  exact loop_of_joint ends.joint

/-- A level that is no chain is read once. -/
theorem found_of_ok (single : level.joint = fun _ => none)
    (read : ∀ (n : Nat) (rest : List Token), ts.length ≤ n + 1 → Ends level.openRank rest →
      level.reads (expression n) (ts ++ rest) = .ok (e, rest)) : Found level ts e := by
  intro n rest room ends
  rw [read n rest room ends, loop_of_joint (by rw [single])]

structure Chained (level : Level) : Prop where
  reads : ∀ group, level.reads group = chain (level.tighter.reads group) level.joint
  rank : level.openRank = level.tighter.rank

theorem Chained.found_link (chained : Chained level) (found : Found level.tighter ts e) : Found level ts e := by
  intro n rest room ends
  rw [chained.rank] at ends
  rw [chained.reads, chain, found.ended room ends]
  rfl

theorem Chained.found_more (chained : Chained level) (left : Found level xs l) (right : Found level.tighter ys r)
    (joins : ∀ rest, level.joint (t :: rest) = some (op, rest)) (starts : ∀ rest, Ends level.openRank (t :: rest)) :
    Found level (xs ++ t :: ys) (.binary op l r) := by
  intro n rest room ends
  have linked : level.tighter.reads (expression n) (ys ++ rest) = .ok (r, rest) := by
    refine right.ended ?_ (chained.rank ▸ ends)
    simp only [List.length_append, List.length_cons] at room
    omega
  have before : xs.length ≤ n + 1 := by
    simp only [List.length_append] at room
    omega
  have shrinks := (sound_reads (sound_expression n) level.tighter).shrinks
  rw [List.append_assoc, List.cons_append, left n _ before (starts _)]
  -- one turn takes the joint and its operand
  simp only [loop, List.length_cons, more, joins, linked, ok_bind]
  exact more_bound shrinks (by simp)

theorem chained_disjunction : Chained .disjunction := ⟨fun _ => rfl, rfl⟩
theorem chained_conjunction : Chained .conjunction := ⟨fun _ => rfl, rfl⟩
theorem chained_sum : Chained .sum := ⟨fun _ => rfl, rfl⟩
theorem chained_product : Chained .product := ⟨fun _ => rfl, rfl⟩

theorem found_unnegated (found : Found .nullTest ts e) (some_token : ts ≠ [])
    (free : ∀ t ∈ ts.head?, ¬ t.Spells "NOT") : Found .negation ts e := by
  apply found_of_ok rfl
  intro n rest room ends
  have read := found.ended room (ends.tighter (by decide))
  obtain ⟨t, us, rfl⟩ := List.exists_cons_of_ne_nil some_token
  have other : isNotWord t = false := Bool.eq_false_iff.mpr fun word => free t rfl (isNotWord_iff.mp word)
  change negationOf _ (t :: (us ++ rest)) = _
  unfold negationOf
  simp only [other, Bool.false_eq_true, if_false]
  exact read

theorem found_not (word : t.Spells "NOT") (found : Found .negation ts e) : Found .negation (t :: ts) (.not e) := by
  apply found_of_ok rfl
  intro n rest room ends
  have read := found.ended (n := n) (Nat.le_of_succ_le room) ends
  change negationOf _ (t :: (ts ++ rest)) = _
  unfold negationOf
  rw [if_pos (isNotWord_iff.mpr word), show negationOf _ (ts ++ rest) = _ from read]
  rfl

theorem found_untested (found : Found .comparison ts e) : Found .nullTest ts e := by
  apply found_of_ok rfl
  intro n rest room ends
  have read := found.ended room (ends.tighter (by decide))
  change comparisonOf _ (ts ++ rest) = _
  rw [comparisonOf_eq, show comparedOf _ (ts ++ rest) = _ from read]
  simp only [ok_bind, nullTest, ends.nullTest (by decide)]

theorem found_tested (taken : List Token) {negated : Bool} {u : Token} (found : Found .comparison ts e)
    (is : t.Spells "IS")
    (test : ∀ rest, nullTest e (t :: (taken ++ u :: rest)) = .ok (.isNull e negated, rest)) :
    Found .nullTest (ts ++ t :: (taken ++ [u])) (.isNull e negated) := by
  apply found_of_ok rfl
  intro n rest room _
  have before : ts.length ≤ n + 1 := by
    simp only [List.length_append] at room
    omega
  have read := found.ended before ((ends_is is (taken ++ u :: rest)).tighter (by decide))
  have same : (ts ++ t :: (taken ++ [u])) ++ rest = ts ++ t :: (taken ++ u :: rest) := by simp
  change comparisonOf _ _ = _
  rw [same, comparisonOf_eq, show comparedOf _ (ts ++ t :: (taken ++ u :: rest)) = _ from read]
  exact test rest

theorem found_isNull {u : Token} (found : Found .comparison ts e) (is : t.Spells "IS") (null : u.Spells "NULL") :
    Found .nullTest (ts ++ [t, u]) (.isNull e false) := by
  refine found_tested [] found is fun rest => ?_
  have plain := keyword_eq_none "NOT" null (by decide) rest
  simp only [nullTest, List.nil_append, keyword_of_spells is, plain, keyword_of_spells null]

theorem found_isNotNull {m u : Token} (found : Found .comparison ts e) (is : t.Spells "IS")
    (not : m.Spells "NOT") (null : u.Spells "NULL") : Found .nullTest (ts ++ [t, m, u]) (.isNull e true) := by
  refine found_tested [m] found is fun rest => ?_
  simp only [nullTest, List.singleton_append, keyword_of_spells is, keyword_of_spells not, keyword_of_spells null]

theorem found_uncompared (found : Found .sum ts e) : Found .comparison ts e := by
  apply found_of_ok rfl
  intro n rest room ends
  have read := found.ended room (ends.tighter (by decide))
  change comparedOf _ (ts ++ rest) = _
  rw [comparedOf, show Expr.sum _ (ts ++ rest) = _ from read]
  simp only [ok_bind, ends.comparison (by decide)]

theorem found_compared (left : Found .sum xs l) (compares : op ∈ [BinaryOp.eq, .notEq, .lt, .ltEq, .gt, .gtEq])
    (right : Found .sum ys r) : Found .comparison (xs ++ .operator op :: ys) (.binary op l r) := by
  apply found_of_ok rfl
  intro n rest room ends
  simp only [List.length_append, List.length_cons] at room
  have first := left.ended (n := n) (by omega) (ends_comparator compares (ys ++ rest))
  have second := right.ended (n := n) (by omega) (ends.tighter (by decide))
  have taken : comparator (.operator op :: (ys ++ rest)) = some (op, ys ++ rest) := by
    cases op <;> first | rfl | simp at compares
  change comparedOf _ ((xs ++ .operator op :: ys) ++ rest) = _
  rw [List.append_assoc, List.cons_append, comparedOf, show Expr.sum _ (xs ++ _) = _ from first]
  simp only [ok_bind, taken]
  rw [show Expr.sum _ (ys ++ rest) = _ from second]
  rfl

theorem joint_sum (adds : op ∈ [BinaryOp.plus, .minus]) (rest : List Token) :
    sumSign (.operator op :: rest) = some (op, rest) := by
  cases op <;> first | rfl | simp at adds

theorem joint_product (multiplies : op ∈ [BinaryOp.multiply, .divide]) (rest : List Token) :
    productSign (.operator op :: rest) = some (op, rest) := by
  cases op <;> first | rfl | simp at multiplies

theorem found_unsigned (found : Found .operand ts e) (some_token : ts ≠ [])
    (unsigned : ∀ us, ts ≠ .operator .minus :: us) : Found .signed ts e := by
  apply found_of_ok rfl
  intro n rest room ends
  have read := found.ended room (ends.tighter (by decide))
  obtain ⟨t, us, rfl⟩ := List.exists_cons_of_ne_nil some_token
  change unary _ (t :: (us ++ rest)) = _
  rw [unary]
  · exact read
  · intro after same
    cases same
    exact unsigned us rfl

theorem found_minus (found : Found .signed ts e) : Found .signed (.operator .minus :: ts) (negate e) := by
  apply found_of_ok rfl
  intro n rest room ends
  have read := found.ended (n := n) (Nat.le_of_succ_le room) ends
  change unary _ (.operator .minus :: (ts ++ rest)) = _
  rw [unary, show unary _ (ts ++ rest) = _ from read]
  rfl

theorem found_token {e : Expr} (read : ∀ group rest, primary group (t :: rest) = .ok (e, rest)) :
    Found .operand [t] e :=
  found_of_ok rfl fun n rest _ _ => read (expression n) rest

theorem found_group (found : Found .disjunction ts e) :
    Found .operand (.openParen :: ts ++ [.closeParen]) e := by
  apply found_of_ok rfl
  intro n rest room _
  simp only [List.length_append, List.length_cons, List.length_nil] at room
  -- the parentheses are two tokens more, so the bound below still has room for what is inside
  obtain ⟨m, rfl⟩ := Nat.exists_eq_succ_of_ne_zero (n := n) (by omega)
  have read := found.ended (n := m) (by omega) (ends_close rest)
  have same : (.openParen :: ts ++ [.closeParen]) ++ rest = .openParen :: (ts ++ .closeParen :: rest) := by simp
  have inside : expression m.succ (ts ++ .closeParen :: rest) = .ok (e, .closeParen :: rest) := read
  rw [same]
  simp only [Level.reads, primary, inside, ok_bind, closed]

theorem operand_unsigned (derives : Derives .operand ts e) : ∀ us, ts ≠ .operator .minus :: us := by
  cases derives with
  | true word | false word | null word =>
    obtain ⟨text, rfl, _⟩ := word
    simp
  | whole | real | text | column | group => simp

theorem found_word {word : String} {value : Expr} (spells : t.Spells word)
    (read : ∀ text, Text.sameIgnoringCase text word = true → ofName text = value) : Found .operand [t] value := by
  obtain ⟨text, rfl, same⟩ := spells
  apply found_token
  intro group rest
  rw [primary, read text same]

theorem found_derived (derives : Derives level ts e) : Found level ts e := by
  induction derives with
  | disjunct _ ih => exact chained_disjunction.found_link ih
  | or _ word _ left right =>
    refine chained_disjunction.found_more left right (fun rest => ?_) (ends_or word)
    exact Option.map_eq_some_iff.mpr ⟨rest, keyword_of_spells word rest, rfl⟩
  | conjunct _ ih => exact chained_conjunction.found_link ih
  | and _ word _ left right =>
    refine chained_conjunction.found_more left right (fun rest => ?_) (ends_and word)
    exact Option.map_eq_some_iff.mpr ⟨rest, keyword_of_spells word rest, rfl⟩
  | unnegated only free ih => exact found_unnegated ih (derives_ne_nil only) free
  | not word _ ih => exact found_not word ih
  | untested _ ih => exact found_untested ih
  | isNull _ is null ih => exact found_isNull ih is null
  | isNotNull _ is not null ih => exact found_isNotNull ih is not null
  | uncompared _ ih => exact found_uncompared ih
  | compared _ compares _ left right => exact found_compared left compares right
  | summand _ ih => exact chained_sum.found_link ih
  | added _ adds _ left right => exact chained_sum.found_more left right (joint_sum adds) (ends_sign adds)
  | factor _ ih => exact chained_product.found_link ih
  | multiplied _ multiplies _ left right =>
    exact chained_product.found_more left right (joint_product multiplies) fun _ => ends_looser _
  | unsigned only ih => exact found_unsigned ih (derives_ne_nil only) (operand_unsigned only)
  | minusWhole _ ih => exact found_minus ih
  | minusReal _ ih => exact found_minus ih
  | @minusOther ts e _ noWhole noReal ih =>
    have other : negate e = .binary .minus (.literal (.int64 0)) e := by
      unfold negate
      split
      · exact absurd rfl (noWhole _)
      · exact absurd rfl (noReal _)
      · rfl
    exact other ▸ found_minus ih
  | whole n => exact found_token fun _ _ => rfl
  | real x => exact found_token fun _ _ => rfl
  | text s => exact found_token fun _ _ => rfl
  | true word => exact found_word word fun text same => by rw [ofName, if_pos same]
  | false word =>
    refine found_word word fun text same => ?_
    rw [ofName, if_neg (apart_of_same same (by decide)), if_pos same]
  | null word =>
    refine found_word word fun text same => ?_
    rw [ofName, if_neg (apart_of_same same (by decide)), if_neg (apart_of_same same (by decide)), if_pos same]
  | column name bare =>
    have free (word : String) (reserved : word ∈ ["TRUE", "FALSE", "NULL"]) :
        ¬ Text.sameIgnoringCase name word = true := fun same => bare word reserved ⟨name, rfl, same⟩
    have read : ofName name = .column name := by
      rw [ofName, if_neg (free _ (by simp)), if_neg (free _ (by simp)), if_neg (free _ (by simp))]
    exact found_token fun _ _ => by rw [primary, read]
  | group _ ih => exact found_group ih

theorem derives_of_ofTokens (done : ofTokens ts = .ok e) : Derives .disjunction ts e := by
  obtain ⟨⟨read, rest⟩, reads, last⟩ := bind_eq_ok.mp done
  obtain ⟨used, rfl, derives⟩ := sound_expression _ _ _ _ reads
  cases rest with
  | nil =>
    cases last
    rw [List.append_nil]
    exact derives
  | cons t rest => cases last

theorem ofTokens_of_derives (derives : Derives .disjunction ts e) : ofTokens ts = .ok e := by
  obtain ⟨t, us, rfl⟩ := List.exists_cons_of_ne_nil (derives_ne_nil derives)
  have read := (found_derived derives).ended (n := us.length) (Nat.le_refl _) ends_nil
  rw [List.append_nil] at read
  rw [ofTokens, show expression (t :: us).length (t :: us) = _ from read]
  rfl

theorem parse_eq_ok {source : String} :
    parse source = .ok e ↔ ∃ ts, Token.ofChars source.toList = .ok ts ∧ ofTokens ts = .ok e := by
  unfold parse
  cases Token.ofChars source.toList with
  | error => simp
  | ok ts =>
    cases ts with
    | nil => simp [show ofTokens [] = .error ⟨.moreInput, none⟩ from rfl]
    | cons t ts => cases read : ofTokens (t :: ts) <;> simp [read]

/-- Reading tokens comes to an end and accepts the grammar, one tree at most for any tokens. Neither the bound
on groups nor the one on a chain is ever what ends it: the recursion into groups and the loop over the joints
may be cut off anywhere beyond the number of tokens, and the signs and negations before an operand are taken
off one by one. -/
theorem parse_grammar :
    Halts List.length disjunctionOf reading ∧
    (∀ level : Level, Halts (fun state : Expr × List Token => state.2.length)
      (turn (level.tighter.reads reading) level.joint) (loop (level.tighter.reads reading) level.joint)) ∧
    (∀ ts, (∀ e, ofTokens ts = .ok e ↔ Derives .disjunction ts e) ∧
      (∀ e e', Derives .disjunction ts e → Derives .disjunction ts e' → e = e') ∧
      ((∀ e, ¬ Derives .disjunction ts e) → ∃ fault, ofTokens ts = .error fault)) ∧
    ∀ source e, parse source = .ok e ↔
      ∃ ts, Token.ofChars source.toList = .ok ts ∧ Derives .disjunction ts e := by
  have accepts (ts : List Token) (e : Expr) : ofTokens ts = .ok e ↔ Derives .disjunction ts e :=
    ⟨derives_of_ofTokens, ofTokens_of_derives⟩
  refine ⟨halts_reading, fun level => halts_loop (sound_reads sound_reading level.tighter).shrinks,
    fun ts => ⟨accepts ts, ?_, ?_⟩, fun source e => ?_⟩
  · intro e e' derives also
    have same : Except.ok e = .ok e' := (ofTokens_of_derives derives).symm.trans (ofTokens_of_derives also)
    exact Except.ok.inj same
  · intro none
    cases read : ofTokens ts with
    | error fault => exact ⟨fault, rfl⟩
    | ok e => exact absurd (derives_of_ofTokens read) (none e)
  · simp only [parse_eq_ok, accepts]

end StreamPlan.Expr
