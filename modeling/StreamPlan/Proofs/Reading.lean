import StreamPlan.Proofs.Grammar
import StreamPlan.Proofs.Results

/-! Reading stays within the grammar: what is read off the front of a list of tokens stands for the tree it
is read as, whatever reads the groups, as long as that does too. -/
namespace StreamPlan.Expr

/-- A comparison as it is before any null test. -/
def comparedOf (operand : Reads) : Reads := fun ts => do
  let (left, rest) ← operand ts
  match comparator rest with
  | none => .ok (left, rest)
  | some (op, rest) => do
    let (right, rest) ← operand rest
    .ok (.binary op left right, rest)

theorem comparisonOf_eq (operand : Reads) (ts : List Token) :
    comparisonOf operand ts = comparedOf operand ts >>= fun (e, rest) => nullTest e rest := by
  unfold comparisonOf comparedOf
  cases operand ts with
  | error => rfl
  | ok read =>
    obtain ⟨left, rest⟩ := read
    simp only [ok_bind]
    cases comparator rest with
    | none => rfl
    | some joint =>
      obtain ⟨op, rest⟩ := joint
      dsimp only
      cases operand rest <;> rfl

namespace Level

def tighter : Level → Level
  | disjunction => conjunction
  | conjunction => negation
  | negation => nullTest
  | nullTest => comparison
  | comparison => sum
  | sum => product
  | product => signed
  | signed => operand
  | operand => operand

/-- What joins the links of a chain; the levels that are no chains have no joint. -/
def joint : Level → List Token → Option (BinaryOp × List Token)
  | disjunction => orWord
  | conjunction => andWord
  | sum => sumSign
  | product => productSign
  | negation | nullTest | comparison | signed | operand => fun _ => none

def reads (group : Reads) : Level → Reads
  | disjunction => disjunctionOf group
  | conjunction => conjunctionOf group
  | negation => negationOf (comparisonOf (Expr.sum group))
  | nullTest => comparisonOf (Expr.sum group)
  | comparison => comparedOf (Expr.sum group)
  | sum => Expr.sum group
  | product => Expr.product group
  | signed => unary (primary group)
  | operand => primary group

end Level

/-! What the words and signs take. -/

theorem keyword_eq_some {word : String} {ts rest : List Token} :
    keyword word ts = some rest ↔ ∃ t, ts = t :: rest ∧ t.Spells word := by
  cases ts with
  | nil => simp [keyword]
  | cons t ts => cases t <;> simp [keyword, Token.Spells, and_comm]

theorem isNotWord_iff {t : Token} : isNotWord t = true ↔ t.Spells "NOT" := by
  cases t <;> simp [isNotWord, Token.Spells]

theorem comparator_eq_some {ts rest : List Token} {op : BinaryOp} (taken : comparator ts = some (op, rest)) :
    ts = .operator op :: rest ∧ op ∈ [.eq, .notEq, .lt, .ltEq, .gt, .gtEq] := by
  unfold comparator at taken
  split at taken
  · rename_i other after
    cases other <;> cases taken <;> simp
  · cases taken

theorem sumSign_eq_some {ts rest : List Token} {op : BinaryOp} (taken : sumSign ts = some (op, rest)) :
    ts = .operator op :: rest ∧ op ∈ [.plus, .minus] := by
  unfold sumSign at taken
  split at taken <;> cases taken <;> simp

theorem productSign_eq_some {ts rest : List Token} {op : BinaryOp} (taken : productSign ts = some (op, rest)) :
    ts = .operator op :: rest ∧ op ∈ [.multiply, .divide] := by
  unfold productSign at taken
  split at taken <;> cases taken <;> simp

/-- A joint is one token, and links an expression of the level with one of the next. -/
theorem joint_links {level : Level} {ts rest : List Token} {op : BinaryOp}
    (taken : level.joint ts = some (op, rest)) :
    ∃ t, ts = t :: rest ∧ ∀ xs ys l r, Derives level xs l → Derives level.tighter ys r →
      Derives level (xs ++ t :: ys) (.binary op l r) := by
  cases level with
  | disjunction =>
    obtain ⟨_, word, same⟩ := Option.map_eq_some_iff.mp taken
    cases same
    obtain ⟨t, rfl, spells⟩ := keyword_eq_some.mp word
    exact ⟨t, rfl, fun _ _ _ _ left right => .or left spells right⟩
  | conjunction =>
    obtain ⟨_, word, same⟩ := Option.map_eq_some_iff.mp taken
    cases same
    obtain ⟨t, rfl, spells⟩ := keyword_eq_some.mp word
    exact ⟨t, rfl, fun _ _ _ _ left right => .and left spells right⟩
  | sum =>
    obtain ⟨rfl, adds⟩ := sumSign_eq_some taken
    exact ⟨_, rfl, fun _ _ _ _ left right => .added left adds right⟩
  | product =>
    obtain ⟨rfl, multiplies⟩ := productSign_eq_some taken
    exact ⟨_, rfl, fun _ _ _ _ left right => .multiplied left multiplies right⟩
  | negation | nullTest | comparison | signed | operand => cases taken

/-! What is read stands for what it is read as. -/

def Sound (level : Level) (read : Reads) : Prop :=
  ∀ ts e rest, read ts = .ok (e, rest) → ∃ used, ts = used ++ rest ∧ Derives level used e

theorem sound_more {level : Level} {operand : Reads} (sound : Sound level.tighter operand) {bound : Nat}
    {used ts rest : List Token} {left e : Expr} (given : Derives level used left)
    (done : more operand level.joint bound left ts = .ok (e, rest)) :
    ∃ all, used ++ ts = all ++ rest ∧ Derives level all e := by
  -- on the bound, what has been read so far growing by a link a turn
  induction bound generalizing used left ts with
  | zero =>
    cases done
    exact ⟨used, rfl, given⟩
  | succ bound ih =>
    unfold more at done
    cases taken : level.joint ts with
    | none =>
      rw [taken] at done
      cases done
      exact ⟨used, rfl, given⟩
    | some found =>
      obtain ⟨op, after⟩ := found
      rw [taken] at done
      obtain ⟨⟨right, later⟩, linked, again⟩ := bind_eq_ok.mp done
      obtain ⟨t, rfl, links⟩ := joint_links taken
      obtain ⟨next, rfl, derives⟩ := sound _ _ _ linked
      obtain ⟨all, same, whole⟩ := ih (links used next left right given derives) again
      exact ⟨all, by simpa using same, whole⟩

theorem sound_chain (level : Level) {operand : Reads} (sound : Sound level.tighter operand)
    (alone : ∀ ts e, Derives level.tighter ts e → Derives level ts e) :
    Sound level (chain operand level.joint) := by
  intro ts e rest done
  obtain ⟨⟨left, after⟩, first, others⟩ := bind_eq_ok.mp done
  obtain ⟨used, rfl, derives⟩ := sound _ _ _ first
  exact sound_more sound (alone _ _ derives) others

theorem derives_ofName (text : String) : Derives .operand [.name text] (ofName text) := by
  unfold ofName
  split
  · exact .true ⟨text, rfl, ‹_›⟩
  · split
    · exact .false ⟨text, rfl, ‹_›⟩
    · split
      · exact .null ⟨text, rfl, ‹_›⟩
      · exact .column text (by simp_all [Token.Spells])

theorem sound_primary {group : Reads} (sound : Sound .disjunction group) : Sound .operand (primary group) := by
  intro ts e rest done
  cases ts with
  | nil => cases done
  | cons t ts =>
    cases t with
    | whole n => cases done; exact ⟨[.whole n], rfl, .whole n⟩
    | real x => cases done; exact ⟨[.real x], rfl, .real x⟩
    | text s => cases done; exact ⟨[.text s], rfl, .text s⟩
    | name text => cases done; exact ⟨[.name text], rfl, derives_ofName text⟩
    | openParen =>
      obtain ⟨⟨inner, after⟩, grouped, closing⟩ := bind_eq_ok.mp done
      obtain ⟨used, rfl, derives⟩ := sound _ _ _ grouped
      dsimp only at closing
      unfold closed at closing
      split at closing <;> cases closing
      exact ⟨.openParen :: used ++ [.closeParen], by simp, .group derives⟩
    | closeParen | operator => cases done

theorem derives_negate {ts : List Token} {e : Expr} (derives : Derives .signed ts e) :
    Derives .signed (.operator .minus :: ts) (negate e) := by
  unfold negate
  split
  · exact .minusWhole derives
  · exact .minusReal derives
  · rename_i noWhole noReal
    exact .minusOther derives noWhole noReal

theorem sound_unary {operand : Reads} (sound : Sound .operand operand) : Sound .signed (unary operand) := by
  intro ts e rest done
  induction ts generalizing e rest with
  | nil =>
    obtain ⟨used, same, derives⟩ := sound _ _ _ done
    exact ⟨used, same, .unsigned derives⟩
  | cons t ts ih =>
    by_cases minus : t = .operator .minus
    · subst minus
      obtain ⟨⟨inner, after⟩, read, same⟩ := bind_eq_ok.mp done
      cases same
      obtain ⟨used, rfl, derives⟩ := ih _ _ read
      exact ⟨.operator .minus :: used, rfl, derives_negate derives⟩
    · rw [unary] at done
      · obtain ⟨used, same, derives⟩ := sound _ _ _ done
        exact ⟨used, same, .unsigned derives⟩
      · simpa using minus

theorem sound_compared {operand : Reads} (sound : Sound .sum operand) :
    Sound .comparison (comparedOf operand) := by
  intro ts e rest done
  obtain ⟨⟨left, after⟩, read, others⟩ := bind_eq_ok.mp done
  obtain ⟨used, rfl, derives⟩ := sound _ _ _ read
  dsimp only at others
  split at others
  · cases others
    exact ⟨used, rfl, .uncompared derives⟩
  · rename_i op later taken
    obtain ⟨⟨right, last⟩, also, same⟩ := bind_eq_ok.mp others
    cases same
    obtain ⟨rfl, compares⟩ := comparator_eq_some taken
    obtain ⟨more, rfl, alsoDerives⟩ := sound _ _ _ also
    exact ⟨used ++ .operator op :: more, by simp, .compared derives compares alsoDerives⟩

theorem sound_nullTest {used ts rest : List Token} {left e : Expr} (derives : Derives .comparison used left)
    (done : nullTest left ts = .ok (e, rest)) : ∃ all, used ++ ts = all ++ rest ∧ Derives .nullTest all e := by
  unfold nullTest at done
  cases is : keyword "IS" ts with
  | none =>
    rw [is] at done
    cases done
    exact ⟨used, rfl, .untested derives⟩
  | some after =>
    obtain ⟨t, rfl, isWord⟩ := keyword_eq_some.mp is
    rw [is] at done
    cases not : keyword "NOT" after with
    | none =>
      simp only [not] at done
      split at done
      · rename_i null
        cases done
        obtain ⟨u, rfl, nullWord⟩ := keyword_eq_some.mp null
        exact ⟨used ++ [t, u], by simp, .isNull derives isWord nullWord⟩
      · cases done
    | some later =>
      obtain ⟨n, rfl, notWord⟩ := keyword_eq_some.mp not
      simp only [not] at done
      split at done
      · rename_i null
        cases done
        obtain ⟨u, rfl, nullWord⟩ := keyword_eq_some.mp null
        exact ⟨used ++ [t, n, u], by simp, .isNotNull derives isWord notWord nullWord⟩
      · cases done

theorem sound_comparison {operand : Reads} (sound : Sound .sum operand) :
    Sound .nullTest (comparisonOf operand) := by
  intro ts e rest done
  rw [comparisonOf_eq] at done
  obtain ⟨⟨left, after⟩, read, tested⟩ := bind_eq_ok.mp done
  obtain ⟨used, rfl, derives⟩ := sound_compared sound _ _ _ read
  exact sound_nullTest derives tested

theorem sound_negation {operand : Reads} (sound : Sound .nullTest operand) :
    Sound .negation (negationOf operand) := by
  intro ts e rest done
  induction ts generalizing e rest with
  | nil =>
    obtain ⟨used, same, derives⟩ := sound _ _ _ done
    refine ⟨used, same, .unnegated derives ?_⟩
    obtain ⟨rfl, _⟩ := List.append_eq_nil_iff.mp same.symm
    simp
  | cons t ts ih =>
    unfold negationOf at done
    split at done
    · rename_i word
      obtain ⟨⟨inner, after⟩, read, same⟩ := bind_eq_ok.mp done
      cases same
      obtain ⟨used, rfl, derives⟩ := ih _ _ read
      exact ⟨t :: used, rfl, .not (isNotWord_iff.mp word) derives⟩
    · rename_i free
      obtain ⟨used, same, derives⟩ := sound _ _ _ done
      refine ⟨used, same, .unnegated derives ?_⟩
      intro first head word
      cases used with
      | nil => cases head
      | cons u used =>
        cases head
        cases same
        exact free (isNotWord_iff.mpr word)

theorem sound_reads {group : Reads} (sound : Sound .disjunction group) (level : Level) :
    Sound level (level.reads group) := by
  have operand := sound_primary sound
  have signed := sound_unary operand
  have product : Sound .product (Expr.product group) := sound_chain .product signed fun _ _ => .factor
  have sum : Sound .sum (Expr.sum group) := sound_chain .sum product fun _ _ => .summand
  have nullTest := sound_comparison sum
  have negation := sound_negation nullTest
  have conjunction : Sound .conjunction (conjunctionOf group) :=
    sound_chain .conjunction negation fun _ _ => .conjunct
  cases level with
  | disjunction => exact sound_chain .disjunction conjunction fun _ _ => .disjunct
  | conjunction => exact conjunction
  | negation => exact negation
  | nullTest => exact nullTest
  | comparison => exact sound_compared sum
  | sum => exact sum
  | product => exact product
  | signed => exact signed
  | operand => exact operand

theorem sound_expression (n : Nat) : Sound .disjunction (expression n) := by
  induction n with
  | zero => exact fun _ _ _ done => by cases done
  | succ n ih => exact sound_reads ih .disjunction

end StreamPlan.Expr
