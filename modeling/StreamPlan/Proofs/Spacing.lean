import StreamPlan.Expr.Parser
import StreamPlan.Proofs.TokenTexts

/-! Blanks between tokens. A text that can be read is made of a piece for each of its tokens; set further
apart, with any blanks between any two, the pieces are read as the same tokens and mean the same. -/
namespace StreamPlan

namespace Token

variable {c : Char} {cs after text : List Char} {pieces : List (List Char)} {ts : List Token} {t : Option Token}

/-- The pieces in order, with blanks or nothing between them. -/
inductive Written : List (List Char) → List Char → Prop
  | nil : Written [] []
  | blank {c : Char} {pieces : List (List Char)} {text : List Char} (blank : Text.isBlank c = true)
      (rest : Written pieces text) : Written pieces (c :: text)
  | piece (cs : List Char) {pieces : List (List Char)} {text : List Char} (rest : Written pieces text) :
      Written (cs :: pieces) (cs ++ text)

/-- The pieces in order, with at least a blank between any two. -/
inductive Spaced : List (List Char) → List Char → Prop
  | nil : Spaced [] []
  | blank {c : Char} {pieces : List (List Char)} {text : List Char} (blank : Text.isBlank c = true)
      (rest : Spaced pieces text) : Spaced pieces (c :: text)
  | last (cs : List Char) : Spaced [cs] cs
  | piece (cs : List Char) {c : Char} {pieces : List (List Char)} {text : List Char}
      (blank : Text.isBlank c = true) (rest : Spaced pieces text) : Spaced (cs :: pieces) (cs ++ c :: text)

/-- The pieces are a token each. -/
def Apiece (pieces : List (List Char)) (ts : List Token) : Prop :=
  List.Forall₂ (fun piece t => ofChars piece = .ok [t]) pieces ts

/-! A token is cut off the same when nothing follows it. -/

/-- What is cut off is a token, and it is the same token where the text ends after it. -/
def Owns (cut : List Char → Lexed) : Prop :=
  ∀ cs t after, cut cs = .ok (t, after) → ∃ u body, t = some u ∧ cs = body ++ after ∧ cut body = .ok (some u, [])

theorem owns_alone (u : Token) : Owns (alone (some u)) := by
  rintro cs t after read
  cases read
  exact ⟨u, [], rfl, rfl, rfl⟩

theorem owns_quoted (mark : Char) : Owns (quoted mark) := by
  intro cs t after read
  unfold quoted at read
  dsimp only at read
  split at read
  · cases read
  rename_i closing later dropped
  cases read
  refine ⟨_, cs.takeWhile (· ≠ mark) ++ [closing], rfl, ?_, ?_⟩
  · rw [List.append_assoc, List.singleton_append, ← dropped, List.takeWhile_append_dropWhile]
  · have closes : ∀ c ∈ [closing].head?, decide (c ≠ mark) = false := by
      have stopped := List.head?_dropWhile_not (· ≠ mark) cs
      rw [dropped] at stopped
      simpa using stopped
    obtain ⟨body, left⟩ := Decimal.run_append (fun c => List.mem_takeWhile_imp (l := cs)) closes
    unfold quoted
    simp only [body, left]

theorem run_alone (kind : Char → Bool) (cs : List Char) :
    (cs.takeWhile kind).takeWhile kind = cs.takeWhile kind ∧ (cs.takeWhile kind).dropWhile kind = [] := by
  have inside : ∀ c ∈ cs.takeWhile kind, kind c = true := fun c => List.mem_takeWhile_imp
  exact ⟨List.takeWhile_eq_self_iff.mpr inside, List.dropWhile_eq_nil_iff.mpr inside⟩

theorem owns_numbered (c : Char) : Owns (numbered c) := by
  intro cs t after read
  unfold numbered at read ⊢
  cases number : ofNumber (c :: cs.takeWhile isNumberPart) with
  | error => rw [number] at read; cases read
  | ok token =>
    rw [number] at read
    cases read
    obtain ⟨body, left⟩ := run_alone isNumberPart cs
    refine ⟨token, cs.takeWhile isNumberPart, rfl, List.takeWhile_append_dropWhile.symm, ?_⟩
    rw [body, left, number]
    rfl

theorem owns_named (c : Char) : Owns (named c) := by
  intro cs t after read
  cases read
  obtain ⟨body, left⟩ := run_alone isNamePart cs
  refine ⟨_, cs.takeWhile isNamePart, rfl, List.takeWhile_append_dropWhile.symm, ?_⟩
  rw [named, body, left]

theorem owns_operatorOf (c : Char) : Owns (operatorOf c) := by
  intro cs t after read
  have pair {d : Char} {op : BinaryOp} (head : cs.head? = some d)
      (cut : operatorOf c [d] = .ok (some (.operator op), [])) :
      ∃ u body, some (Token.operator op) = some u ∧ cs = body ++ cs.tail ∧ operatorOf c body = .ok (some u, []) := by
    obtain ⟨later, rfl⟩ := List.head?_eq_some_iff.mp head
    exact ⟨_, [d], rfl, rfl, cut⟩
  unfold operatorOf at read
  dsimp only at read
  split at read <;> cases read <;> first | exact ⟨_, [], rfl, rfl, rfl⟩ | exact pair ‹_› rfl

theorem first_own (read : first c cs = .ok (t, after)) :
    Text.isBlank c = true ∧ t = none ∧ after = cs ∨
      ∃ u body, t = some u ∧ cs = body ++ after ∧ first c body = .ok (some u, []) := by
  rw [first_eq] at read ⊢
  split_ifs at read ⊢ with blank
  · cases read
    exact .inl ⟨blank, rfl, rfl⟩
  · exact .inr (owns_alone _ _ _ _ read)
  · exact .inr (owns_alone _ _ _ _ read)
  · exact .inr (owns_quoted c _ _ _ read)
  · exact .inr (owns_numbered c _ _ _ read)
  · exact .inr (owns_named c _ _ _ read)
  · exact .inr (owns_operatorOf c _ _ _ read)

/-- A text that can be read is in pieces, cut where its tokens end. -/
theorem written_of_ofChars (read : ofChars cs = .ok ts) : ∃ pieces, Written pieces cs ∧ Apiece pieces ts := by
  refine ofChars_induction (motive := fun cs ts => ∃ pieces, Written pieces cs ∧ Apiece pieces ts)
    ⟨[], .nil, .nil⟩ ?_ read
  rintro c cs t after ts cut _ ⟨pieces, written, apiece⟩
  obtain ⟨blank, rfl, rfl⟩ | ⟨u, body, rfl, rfl, alone⟩ := first_own cut
  · exact ⟨pieces, .blank blank written, apiece⟩
  · exact ⟨(c :: body) :: pieces, .piece (c :: body) written, .cons (ofChars_alone alone) apiece⟩

/-- With a blank between any two pieces none of them runs into the next. -/
theorem ofChars_of_spaced (spaced : Spaced pieces text) (apiece : Apiece pieces ts) : ofChars text = .ok ts := by
  induction spaced generalizing ts with
  | nil =>
    cases apiece
    rfl
  | blank blank _ ih => exact ofChars_blank blank (ih apiece)
  | last cs =>
    obtain ⟨t, _, read, none, rfl⟩ := List.forall₂_cons_left_iff.mp apiece
    cases none
    exact read
  | piece cs blank _ ih =>
    obtain ⟨t, later, read, others, rfl⟩ := List.forall₂_cons_left_iff.mp apiece
    exact ofChars_apart read blank (ih others)

end Token

/-- The same complaint about another text. -/
def SyntaxError.about (source : String) : SyntaxError → SyntaxError
  | .empty => .empty
  | .lexical error _ => .lexical error source
  | .misplaced wanted position _ => .misplaced wanted position source

namespace Expr

open Token

theorem parse_congr {text other : String} (same : ofChars other.toList = ofChars text.toList) :
    parse other = (parse text).mapError (·.about other) := by
  unfold parse
  rw [same]
  cases ofChars text.toList with
  | error e => rfl
  | ok ts =>
    cases ts with
    | nil => rfl
    | cons t ts =>
      dsimp only
      cases ofTokens (t :: ts) <;> rfl

/-- A space keeps two texts apart. Any text that can be read is in pieces, one for each token, and no spacing
of the pieces says anything else: not the tokens, not the expression, not the complaint. -/
theorem parse_spaced {text : String} {ts : List Token} (read : ofChars text.toList = .ok ts) :
    (∀ (other : String) (us : List Token), ofChars other.toList = .ok us →
      ofChars (text ++ " " ++ other).toList = .ok (ts ++ us)) ∧
    (∃ pieces, Written pieces text.toList ∧ Apiece pieces ts) ∧
    ∀ (pieces : List (List Char)) (other : String), Apiece pieces ts → Spaced pieces other.toList →
      ofChars other.toList = .ok ts ∧ parse other = (parse text).mapError (·.about other) := by
  refine ⟨fun other us also => ?_, written_of_ofChars read, fun pieces other apiece spaced => ?_⟩
  · rw [String.toList_append, String.toList_append, List.append_assoc]
    exact ofChars_spaced read also
  · have same := ofChars_of_spaced spaced apiece
    exact ⟨same, parse_congr (same.trans read.symm)⟩

def compact : List Token :=
  [.name "n", .operator .ltEq, .operator .minus, .whole 2, .name "AND", .openParen, .name "paid", .closeParen]

theorem parse_spaced_compact :
    let tree := Expr.binary .and (.binary .ltEq (.column "n") (.literal (.int64 (-2)))) (.column "paid")
    ofChars ("n<=-2 AND(paid)" ++ " " ++ "OR'a b'").toList = .ok (compact ++ [.name "OR", .text "a b"]) ∧
      parse "n<=-2 AND(paid)" = .ok tree ∧ parse "\tn  <= - 2\nAND ( paid ) " = .ok tree := by
  intro tree
  have read : ofChars "n<=-2 AND(paid)".toList = .ok compact := by rfl
  obtain ⟨joined, _, respaced⟩ := parse_spaced read
  have parsed : parse "n<=-2 AND(paid)" = .ok tree := by decide +kernel
  refine ⟨joined "OR'a b'" [.name "OR", .text "a b"] rfl, parsed, ?_⟩
  let pieces := [['n'], ['<', '='], ['-'], ['2'], ['A', 'N', 'D'], ['('], ['p', 'a', 'i', 'd'], [')']]
  have chars : "\tn  <= - 2\nAND ( paid ) ".toList = ['\t', 'n', ' ', ' ', '<', '=', ' ', '-', ' ', '2', '\n',
      'A', 'N', 'D', ' ', '(', ' ', 'p', 'a', 'i', 'd', ' ', ')', ' '] := by
    rfl
  have spaced : Spaced pieces "\tn  <= - 2\nAND ( paid ) ".toList := by
    rw [chars]
    exact .blank rfl (.piece ['n'] rfl (.blank rfl (.piece ['<', '='] rfl (.piece ['-'] rfl (.piece ['2'] rfl
      (.piece ['A', 'N', 'D'] rfl (.piece ['('] rfl (.piece ['p', 'a', 'i', 'd'] rfl (.piece [')'] rfl .nil)))))))))
  have apiece : Apiece pieces compact :=
    .cons rfl (.cons rfl (.cons rfl (.cons rfl (.cons rfl (.cons rfl (.cons rfl (.cons rfl .nil)))))))
  rw [(respaced pieces _ apiece spaced).2, parsed]
  rfl

end Expr
end StreamPlan
