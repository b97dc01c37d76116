import StreamPlan.Proofs.LetterCase
import StreamPlan.Proofs.TokenTexts

/-! Texts of expressions in small letters, but for what stands between apostrophes. Letter case does not
matter to where tokens begin and end nor to how they are put together, so such a text reads as the expression
with its references in small letters, or not at all where the text it is made of does not. -/
namespace StreamPlan

namespace Text

variable {c d : Char}

theorem isAlpha_iff : c.isAlpha = true ↔ (65 ≤ c.toNat ∧ c.toNat ≤ 90) ∨ 97 ≤ c.toNat ∧ c.toNat ≤ 122 := by
  have capital : c.isUpper = true ↔ 65 ≤ c.toNat ∧ c.toNat ≤ 90 := decide_eq_true_iff
  have small : c.isLower = true ↔ 97 ≤ c.toNat ∧ c.toNat ≤ 122 :=
    Bool.and_eq_true_iff.trans (and_congr decide_eq_true_iff decide_eq_true_iff)
  exact Bool.or_eq_true_iff.trans (or_congr capital small)

theorem toLower_cases (c : Char) : c.toLower = c ∨ c.isAlpha = true ∧ c.toLower.isAlpha = true := by
  by_cases capital : 65 ≤ c.toNat ∧ c.toNat ≤ 90
  · right
    rw [isAlpha_iff, isAlpha_iff, toNat_toLower, if_pos capital]
    omega
  · left
    apply Char.toNat_inj.mp
    rw [toNat_toLower, if_neg capital]

/-- Whatever is so of all letters or of none does not depend on letter case. -/
theorem kind_toLower (kind : Char → Bool) (all : Bool) (letters : ∀ c, c.isAlpha = true → kind c = all)
    (c : Char) : kind c.toLower = kind c := by
  rcases toLower_cases c with same | ⟨letter, also⟩
  · rw [same]
  · rw [letters c letter, letters _ also]

theorem toLower_of_not_isAlpha (other : c.isAlpha = false) : c.toLower = c := by
  rcases toLower_cases c with same | ⟨letter, _⟩
  · exact same
  · rw [letter] at other
    cases other

theorem toLower_eq_iff (other : d.isAlpha = false) : c.toLower = d ↔ c = d := by
  refine decide_eq_decide.mp (kind_toLower (· = d) false (fun c letter => decide_eq_false fun same => ?_) c)
  rw [same, other] at letter
  cases letter

theorem isBlank_toLower (c : Char) : isBlank c.toLower = isBlank c :=
  kind_toLower isBlank false (fun _ letter => not_isBlank_of_isAlphabetic (isAlphabetic_of_isAlpha letter)) c

theorem isDigit_of_isAlpha (letter : c.isAlpha = true) : c.isDigit = false := by
  have above := le_toNat_of_isAlpha letter
  refine Bool.eq_false_iff.mpr fun digit => ?_
  have below : c.toNat ≤ 57 := of_decide_eq_true (Bool.and_eq_true_iff.mp digit).2
  omega

/-- The mark that is open after a character that stands under no mark. -/
def opened (c : Char) : Option Char := if c = '\x27' ∨ c = '"' then some c else none

/-- A character that stands under the mark: between apostrophes it stays as it is. -/
def underMark (mark c : Char) : Char := if mark = '\x27' then c else c.toLower

/-- The characters in small letters but between apostrophes, from where the given mark is open, if any. -/
def foldedFrom : Option Char → List Char → List Char
  | _, [] => []
  | none, c :: rest => c.toLower :: foldedFrom (opened c) rest
  | some mark, c :: rest =>
    underMark mark c :: foldedFrom (if c = mark then none else some mark) rest

end Text

namespace Token

open Text (foldedFrom opened toLower_eq_iff toLower_of_not_isAlpha)

/-- The token with a name in small letters. -/
def folded : Token → Token
  | .name spelled => .name (Text.lower spelled)
  | token => token

variable {c mark : Char} {rest : List Char}

theorem isNameStart_toLower (c : Char) : isNameStart c.toLower = isNameStart c :=
  Text.kind_toLower isNameStart true (fun c letter => by simp [isNameStart, Text.isAlphabetic_of_isAlpha letter]) c

theorem isNamePart_toLower (c : Char) : isNamePart c.toLower = isNamePart c :=
  Text.kind_toLower isNamePart true
    (fun c letter => by simp [isNamePart, Text.isAlphanumeric, Text.isAlphabetic_of_isAlpha letter]) c

theorem isNumberPart_of_isAlpha (letter : c.isAlpha = true) : isNumberPart c = false := by
  refine Bool.or_eq_false_iff.mpr ⟨Text.isDigit_of_isAlpha letter, decide_eq_false fun dot => ?_⟩
  rw [dot] at letter
  cases letter

/-- What goes on under no mark and with no mark in it. -/
theorem run_folded {kind : Char → Bool} (cased : ∀ c, kind c.toLower = kind c) (apostrophe : kind '\x27' = false)
    (quotation : kind '"' = false) (cs : List Char) :
    (foldedFrom none cs).takeWhile kind = (cs.takeWhile kind).map Char.toLower ∧
      (foldedFrom none cs).dropWhile kind = foldedFrom none (cs.dropWhile kind) := by
  induction cs with
  | nil => exact ⟨rfl, rfl⟩
  | cons c cs ih =>
    rw [foldedFrom, List.takeWhile_cons, List.takeWhile_cons, List.dropWhile_cons, List.dropWhile_cons, cased]
    by_cases more : kind c = true
    · have unmarked : opened c = none := by
        refine if_neg ?_
        rintro (rfl | rfl)
        · rw [apostrophe] at more
          cases more
        · rw [quotation] at more
          cases more
      rw [if_pos more, if_pos more, if_pos more, if_pos more, unmarked]
      exact ⟨congrArg (c.toLower :: ·) ih.1, ih.2⟩
    · rw [if_neg more, if_neg more, if_neg more, if_neg more]
      exact ⟨rfl, by rw [foldedFrom]⟩

/-- What goes on up to the mark that closes it. -/
theorem marked_folded (plain : mark.isAlpha = false) (cs : List Char) :
    (foldedFrom (some mark) cs).takeWhile (· ≠ mark) =
        (cs.takeWhile (· ≠ mark)).map (Text.underMark mark) ∧
      (foldedFrom (some mark) cs).dropWhile (· ≠ mark) = match cs.dropWhile (· ≠ mark) with
        | [] => []
        | _ :: after => mark :: foldedFrom none after := by
  induction cs with
  | nil => exact ⟨rfl, rfl⟩
  | cons c cs ih =>
    have same : Text.underMark mark c = mark ↔ c = mark := by
      unfold Text.underMark
      split_ifs
      · exact Iff.rfl
      · exact toLower_eq_iff plain
    have apart : decide (Text.underMark mark c ≠ mark) = decide (c ≠ mark) := decide_eq_decide.mpr (not_congr same)
    rw [foldedFrom, List.takeWhile_cons, List.takeWhile_cons, List.dropWhile_cons, List.dropWhile_cons, apart]
    by_cases closes : c = mark
    · rw [same.mpr closes]
      simp [closes]
    · simp only [ne_eq, not_false_eq_true, decide_true, if_true, if_false, closes]
      exact ⟨congrArg _ ih.1, ih.2⟩

theorem quoted_folded (marks : mark = '\x27' ∨ mark = '"') (cs : List Char) :
    quoted mark (foldedFrom (some mark) cs) =
      (quoted mark cs).map (Prod.map (Option.map folded) (foldedFrom none)) := by
  have plain : mark.isAlpha = false := by rcases marks with rfl | rfl <;> rfl
  obtain ⟨body, left⟩ := marked_folded plain cs
  unfold quoted
  rw [body, left]
  cases cs.dropWhile (· ≠ mark) with
  | nil => rfl
  | cons closing after =>
    rcases marks with rfl | rfl
    · have kept : Text.underMark '\x27' = id := rfl
      simp [kept, folded, Except.map]
    · have lowered : Text.underMark '"' = Char.toLower := rfl
      simp [lowered, folded, Except.map, Text.lower]

theorem folded_of_ofNumber {digits : List Char} {t : Token} (read : ofNumber digits = .ok t) : t.folded = t := by
  unfold ofNumber at read
  dsimp only at read
  split at read
  · rename_i token found
    cases read
    split at found <;> obtain ⟨_, _, rfl⟩ := Option.map_eq_some_iff.mp found <;> rfl
  · cases read

theorem numbered_folded (digit : c.isDigit = true) (cs : List Char) :
    numbered c.toLower (foldedFrom none cs) =
      (numbered c cs).map (Prod.map (Option.map folded) (foldedFrom none)) := by
  obtain ⟨body, left⟩ :=
    run_folded (Text.kind_toLower isNumberPart false fun _ => isNumberPart_of_isAlpha) (by decide) (by decide) cs
  have digits : (cs.takeWhile isNumberPart).map Char.toLower = cs.takeWhile isNumberPart := by
    refine (List.map_congr_left fun d member => ?_).trans (List.map_id _)
    refine toLower_of_not_isAlpha (Bool.eq_false_iff.mpr fun letter => ?_)
    cases (isNumberPart_of_isAlpha letter).symm.trans (List.mem_takeWhile_imp member)
  have same : c.toLower = c := by
    refine toLower_of_not_isAlpha (Bool.eq_false_iff.mpr fun letter => ?_)
    cases (Text.isDigit_of_isAlpha letter).symm.trans digit
  rw [numbered, numbered, body, left, digits, same]
  cases read : ofNumber (c :: cs.takeWhile isNumberPart) with
  | error e => rfl
  | ok t => simp [Except.map, folded_of_ofNumber read]

theorem named_folded (c : Char) (cs : List Char) :
    named c.toLower (foldedFrom none cs) = (named c cs).map (Prod.map (Option.map folded) (foldedFrom none)) := by
  obtain ⟨body, left⟩ := run_folded isNamePart_toLower (by decide) (by decide) cs
  simp [named, body, left, Except.map, folded, Text.lower]

/-- Only an equals or a greater sign can go on with an operator. -/
theorem operatorOf_single {d : Char} (equals : d ≠ '=') (greater : d ≠ '>') (c : Char) (rest : List Char) :
    operatorOf c (d :: rest) = (operatorOf c []).map (Prod.map id fun _ => d :: rest) := by
  unfold operatorOf
  dsimp only [List.head?_nil, List.head?_cons]
  split <;> simp_all [Except.map]

theorem operatorOf_nil (c : Char) :
    (operatorOf c []).map (Prod.map (Option.map folded) (foldedFrom none)) = operatorOf c [] := by
  unfold operatorOf
  dsimp only [List.head?_nil]
  split <;> rfl

theorem operatorOf_folded (other : c.isAlpha = false) (cs : List Char) :
    operatorOf c.toLower (foldedFrom none cs) =
      (operatorOf c cs).map (Prod.map (Option.map folded) (foldedFrom none)) := by
  rw [toLower_of_not_isAlpha other]
  cases cs with
  | nil => exact (operatorOf_nil c).symm
  | cons d cs =>
    by_cases second : d = '=' ∨ d = '>'
    · have here : foldedFrom none (d :: cs) = d :: foldedFrom none cs := by rcases second with rfl | rfl <;> rfl
      rw [here]
      rcases second with rfl | rfl
      · unfold operatorOf
        dsimp only [List.head?_cons, List.tail_cons]
        split <;> simp_all [Except.map, folded]
      · unfold operatorOf
        dsimp only [List.head?_cons, List.tail_cons]
        split <;> simp_all [Except.map, folded]
    · obtain ⟨equals, greater⟩ := not_or.mp second
      have also_equals := (not_congr (toLower_eq_iff (c := d) (d := '=') (by decide))).mpr equals
      have also_greater := (not_congr (toLower_eq_iff (c := d) (d := '>') (by decide))).mpr greater
      rw [foldedFrom, operatorOf_single also_equals also_greater, operatorOf_single equals greater]
      have single := operatorOf_nil c
      cases read : operatorOf c [] with
      | error e => rfl
      | ok taken =>
        rw [read] at single
        obtain ⟨t, after⟩ := taken
        have kept : t.map folded = t := congrArg Prod.fst (Except.ok.inj single)
        simp [Except.map, kept, foldedFrom]

theorem first_folded (c : Char) (cs : List Char) :
    first c.toLower (foldedFrom (opened c) cs) =
      (first c cs).map (Prod.map (Option.map folded) (foldedFrom none)) := by
  by_cases marks : c = '\x27' ∨ c = '"'
  · have same : c.toLower = c := by rcases marks with rfl | rfl <;> rfl
    have quotes : first c = quoted c := by rcases marks with rfl | rfl <;> rfl
    rw [same, quotes, opened, if_pos marks]
    exact quoted_folded marks cs
  rw [opened, if_neg marks, first_eq, first_eq, Text.isBlank_toLower, isNameStart_toLower,
    Text.kind_toLower Char.isDigit false fun _ => Text.isDigit_of_isAlpha]
  simp only [toLower_eq_iff (d := '(') rfl, toLower_eq_iff (d := ')') rfl, toLower_eq_iff (d := '\x27') rfl,
    toLower_eq_iff (d := '"') rfl, if_neg marks]
  split_ifs with blank opening closing digit start
  · rfl
  · rfl
  · rfl
  · exact numbered_folded digit cs
  · exact named_folded c cs
  · refine operatorOf_folded (Bool.eq_false_iff.mpr fun letter => start ?_) cs
    simp [isNameStart, Text.isAlphabetic_of_isAlpha letter]

theorem scan_folded (n : Nat) (cs : List Char) :
    scan n (foldedFrom none cs) = (scan n cs).map (List.map folded) := by
  induction n generalizing cs with
  | zero => rfl
  | succ n ih =>
    cases cs with
    | nil => rfl
    | cons c cs =>
      rw [foldedFrom, scan, scan, first_folded]
      cases first c cs with
      | error e => rfl
      | ok taken =>
        obtain ⟨t, after⟩ := taken
        simp only [Except.map, Prod.map, ok_bind, ih after]
        cases scan n after with
        | error e => rfl
        | ok ts => cases t <;> rfl

theorem length_foldedFrom (open? : Option Char) (cs : List Char) : (foldedFrom open? cs).length = cs.length := by
  induction cs generalizing open? with
  | nil => cases open? <;> rfl
  | cons c cs ih => cases open? <;> simp [foldedFrom, ih]

theorem ofChars_folded (cs : List Char) : ofChars (foldedFrom none cs) = (ofChars cs).map (List.map folded) := by
  rw [ofChars, length_foldedFrom, scan_folded, ofChars]

end Token

namespace Expr

/-- What is read of names in small letters has its references in small letters, and the same is left over. -/
def Cased (read : Reads) : Prop :=
  ∀ ts, read (ts.map Token.folded) = (read ts).map (Prod.map folded (List.map Token.folded))

/-- What joins two operands is joined in any letter case. -/
def CasedJoint (joint : List Token → Option (BinaryOp × List Token)) : Prop :=
  ∀ ts, joint (ts.map Token.folded) = (joint ts).map (Prod.map id (List.map Token.folded))

variable {operand group : Reads} {joint : List Token → Option (BinaryOp × List Token)}

/-- What is done next with what has been read. -/
theorem bind_folded {x y : Parsed} {next later : Expr × List Token → Except Fault α} {give : α → α}
    (same : y = x.map (Prod.map folded (List.map Token.folded)))
    (each : ∀ e rest, later (e.folded, rest.map Token.folded) = (next (e, rest)).map give) :
    (y >>= later) = (x >>= next).map give := by
  rw [same]
  cases x with
  | error fault => rfl
  | ok taken => exact each taken.1 taken.2

theorem keyword_folded (word : String) (ts : List Token) :
    keyword word (ts.map Token.folded) = (keyword word ts).map (List.map Token.folded) := by
  cases ts with
  | nil => rfl
  | cons t rest =>
    cases t with
    | name text =>
      simp only [keyword, List.map_cons, Token.folded, Text.sameIgnoringCase_lower]
      cases Text.sameIgnoringCase text word <;> rfl
    | whole | real | text | operator | openParen | closeParen => rfl

theorem casedJoint_and : CasedJoint andWord := by
  intro ts
  rw [andWord, andWord, keyword_folded, Option.map_map, Option.map_map]
  rfl

theorem casedJoint_or : CasedJoint orWord := by
  intro ts
  rw [orWord, orWord, keyword_folded, Option.map_map, Option.map_map]
  rfl

theorem casedJoint_sum : CasedJoint sumSign := by
  intro ts
  cases ts with
  | nil => rfl
  | cons t rest =>
    cases t with
    | operator op => cases op <;> rfl
    | name | whole | real | text | openParen | closeParen => rfl

theorem casedJoint_product : CasedJoint productSign := by
  intro ts
  cases ts with
  | nil => rfl
  | cons t rest =>
    cases t with
    | operator op => cases op <;> rfl
    | name | whole | real | text | openParen | closeParen => rfl

theorem casedJoint_comparator : CasedJoint comparator := by
  intro ts
  cases ts with
  | nil => rfl
  | cons t rest =>
    cases t with
    | operator op => cases op <;> rfl
    | name | whole | real | text | openParen | closeParen => rfl

theorem more_folded (cased : Cased operand) (joined : CasedJoint joint) (bound : Nat) (left : Expr)
    (ts : List Token) : more operand joint bound left.folded (ts.map Token.folded) =
      (more operand joint bound left ts).map (Prod.map folded (List.map Token.folded)) := by
  induction bound generalizing left ts with
  | zero => rfl
  | succ bound ih =>
    rw [more, more, joined ts]
    cases joint ts with
    | none => rfl
    | some found =>
      obtain ⟨op, rest⟩ := found
      exact bind_folded (cased rest) fun right rest => ih (.binary op left right) rest

theorem Cased.chain (cased : Cased operand) (joined : CasedJoint joint) : Cased (chain operand joint) := by
  intro ts
  refine bind_folded (cased ts) fun left rest => ?_
  simp only [List.length_map]
  exact more_folded cased joined rest.length left rest

theorem ofName_folded (text : String) : ofName (Text.lower text) = (ofName text).folded := by
  simp only [ofName, Text.sameIgnoringCase_lower]
  cases Text.sameIgnoringCase text "TRUE" with
  | true => rfl
  | false =>
    cases Text.sameIgnoringCase text "FALSE" with
    | true => rfl
    | false => cases Text.sameIgnoringCase text "NULL" <;> rfl

theorem closed_folded (inner : Expr) (ts : List Token) : closed inner.folded (ts.map Token.folded) =
    (closed inner ts).map (Prod.map folded (List.map Token.folded)) := by
  cases ts with
  | nil => rfl
  | cons t rest => cases t <;> simp [closed, Token.folded, Except.map]

theorem Cased.primary (cased : Cased group) : Cased (primary group) := by
  intro ts
  cases ts with
  | nil => rfl
  | cons t rest =>
    cases t with
    | openParen => exact bind_folded (cased rest) closed_folded
    | name text => simp [Expr.primary, Token.folded, Except.map, ofName_folded]
    | whole | real | text | operator | closeParen => simp [Expr.primary, Token.folded, Except.map, folded]

theorem negate_folded (e : Expr) : negate e.folded = (negate e).folded := by
  cases e with
  | literal value => cases value <;> rfl
  | column | binary | not | isNull => rfl

theorem unary_unsigned {t : Token} (unsigned : t ≠ .operator .minus) (operand : Reads) (rest : List Token) :
    unary operand (t :: rest) = operand (t :: rest) := by
  rw [Expr.unary]
  intro after same
  exact unsigned (List.cons.inj same).1

theorem Cased.unary (cased : Cased operand) : Cased (unary operand) := by
  intro ts
  induction ts with
  | nil => exact cased []
  | cons t rest ih =>
    by_cases sign : t = .operator .minus
    · subst sign
      exact bind_folded ih fun inner rest => by simp [negate_folded, Except.map]
    · have also : t.folded ≠ .operator .minus := by cases t <;> simp_all [Token.folded]
      rw [List.map_cons, unary_unsigned also, unary_unsigned sign]
      exact cased (t :: rest)

theorem nullTest_folded (left : Expr) (ts : List Token) : nullTest left.folded (ts.map Token.folded) =
    (nullTest left ts).map (Prod.map folded (List.map Token.folded)) := by
  simp only [nullTest, keyword_folded]
  cases keyword "IS" ts with
  | none => rfl
  | some rest =>
    simp only [Option.map_some, keyword_folded]
    cases keyword "NOT" rest with
    | none =>
      simp only [Option.map_none, keyword_folded]
      cases keyword "NULL" rest <;> simp [Except.map, folded]
    | some rest =>
      simp only [Option.map_some, keyword_folded]
      cases keyword "NULL" rest <;> simp [Except.map, folded]

theorem Cased.comparisonOf (cased : Cased operand) : Cased (comparisonOf operand) := by
  intro ts
  refine bind_folded (cased ts) fun left rest => ?_
  simp only [casedJoint_comparator rest]
  cases comparator rest with
  | none => exact nullTest_folded left rest
  | some found =>
    obtain ⟨op, rest⟩ := found
    exact bind_folded (cased rest) fun right rest => nullTest_folded (.binary op left right) rest

theorem isNotWord_folded (t : Token) : isNotWord t.folded = isNotWord t := by
  cases t with
  | name text => exact Text.sameIgnoringCase_lower text "NOT"
  | whole | real | text | operator | openParen | closeParen => rfl

theorem Cased.negationOf (cased : Cased operand) : Cased (negationOf operand) := by
  intro ts
  induction ts with
  | nil => exact cased []
  | cons t rest ih =>
    rw [List.map_cons, Expr.negationOf, Expr.negationOf, isNotWord_folded]
    cases isNotWord t with
    | true => exact bind_folded ih fun inner rest => rfl
    | false => exact cased (t :: rest)

theorem cased_expression (bound : Nat) : Cased (expression bound) := by
  induction bound with
  | zero => exact fun ts => rfl
  | succ bound ih =>
    have sums : Cased (sum (expression bound)) := (ih.primary.unary.chain casedJoint_product).chain casedJoint_sum
    exact (sums.comparisonOf.negationOf.chain casedJoint_and).chain casedJoint_or

theorem ofTokens_folded (ts : List Token) : ofTokens (ts.map Token.folded) = (ofTokens ts).map folded := by
  rw [ofTokens, List.length_map]
  refine bind_folded (cased_expression ts.length ts) fun e rest => ?_
  cases rest <;> simp [Except.map]

/-- The text in small letters, but for what stands between apostrophes. -/
def foldedText (source : String) : String := String.ofList (Text.foldedFrom none source.toList)

/-- A text in small letters is one of the expression with its references in small letters, or of none. -/
theorem parse_folded (source : String) :
    (parse (foldedText source)).toOption = (parse source).toOption.map folded := by
  unfold parse foldedText
  rw [String.toList_ofList, Token.ofChars_folded]
  cases Token.ofChars source.toList with
  | error e => rfl
  | ok ts =>
    cases ts with
    | nil => rfl
    | cons t rest =>
      have same := ofTokens_folded (t :: rest)
      simp only [Except.map, List.map_cons] at same ⊢
      rw [same]
      cases ofTokens (t :: rest) <;> rfl

example : foldedText "Paid AND Name = 'Ada'" = "paid and name = 'Ada'" := by decide +kernel

end Expr
end StreamPlan
