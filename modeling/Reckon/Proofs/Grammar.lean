import Reckon.Parse.Match

set_option autoImplicit false

namespace Reckon.Parse

-- The nonterminals. A chain is a left fold of operands over the operators of one level.
inductive Category where
  | primary
  | signed
  | chain (level : Level)
deriving DecidableEq

def Level.operands : Level → Category
  | .additive => .chain .multiplicative
  | .multiplicative => .signed

-- The nesting is the greatest number of parentheses and signs that enclose one point.
inductive Derives : Category → List Token → Expr → Nat → Prop where
  | literal {token : Token} {value : Binary64} (isLiteral : token.isLiteral)
      (reads : Numeral.read? token.text = some value) :
      Derives .primary [token] (.literal value) 0
  | group {opening closing : Token} {tokens : List Token} {tree : Expr} {nesting : Nat}
      (opens : opening.isOperator "(") (closes : closing.isOperator ")")
      (inner : Derives (.chain .additive) tokens tree nesting) :
      Derives .primary (opening :: (tokens ++ [closing])) tree (nesting + 1)
  | unsigned {tokens : List Token} {tree : Expr} {nesting : Nat}
      (inner : Derives .primary tokens tree nesting) : Derives .signed tokens tree nesting
  | signed {token : Token} {sign : Sign} {tokens : List Token} {tree : Expr} {nesting : Nat}
      (spelled : token.isOperator sign.symbol) (inner : Derives .signed tokens tree nesting) :
      Derives .signed (token :: tokens) (.unary sign tree) (nesting + 1)
  | first {level : Level} {tokens : List Token} {tree : Expr} {nesting : Nat}
      (inner : Derives level.operands tokens tree nesting) :
      Derives (.chain level) tokens tree nesting
  | more {level : Level} {op : Operator} {token : Token} {before after : List Token}
      {left right : Expr} {m n : Nat} (member : op ∈ level.operators)
      (spelled : token.isOperator op.symbol) (chained : Derives (.chain level) before left m)
      (last : Derives level.operands after right n) :
      Derives (.chain level) (before ++ token :: after) (.binary op left right) (max m n)

theorem operator_token (token : Token) (spelling : String) :
    token.isOperator spelling = true ↔ token.kind = .operator ∧ token.text = spelling := by
  simp [Token.isOperator]

theorem operator_token_written (token : Token) (spelling : String) (spelled : token.isOperator spelling) :
    token = ⟨.operator, spelling, token.pos⟩ := by
  obtain ⟨kind, text⟩ := (operator_token token spelling).mp spelled
  rw [← kind, ← text]

theorem written_operator (spelling : String) (pos : Int) :
    Token.isOperator ⟨.operator, spelling, pos⟩ spelling := by
  simp [Token.isOperator]

-- The phrase is a chain and one more operand, with the symbol between them.
def Joined (level : Level) (symbol : String) (op : Operator) (tokens : List Token) (tree : Expr)
    (nesting : Nat) : Prop :=
  ∃ before pos after left right m n, Derives (.chain level) before left m ∧
    Derives level.operands after right n ∧ tokens = before ++ ⟨.operator, symbol, pos⟩ :: after ∧
    tree = .binary op left right ∧ nesting = max m n

-- The phrase is a signed operand behind the symbol.
def Marked (symbol : String) (sign : Sign) (tokens : List Token) (tree : Expr) (nesting : Nat) : Prop :=
  ∃ pos rest operand n, Derives .signed rest operand n ∧ tokens = ⟨.operator, symbol, pos⟩ :: rest ∧
    tree = .unary sign operand ∧ nesting = n + 1

theorem chain_rule (level : Level) (tokens : List Token) (tree : Expr) (nesting : Nat) :
    Derives (.chain level) tokens tree nesting ↔ Derives level.operands tokens tree nesting ∨
      ∃ op ∈ level.operators, Joined level op.symbol op tokens tree nesting := by
  constructor
  · intro derived
    cases derived with
    | first inner => exact .inl inner
    | @more _ op token before after left right m n member spelled chained last =>
        rw [operator_token_written token _ spelled]
        exact .inr ⟨op, member, before, _, after, left, right, m, n, chained, last, rfl, rfl, rfl⟩
  · intro rule
    rcases rule with inner | ⟨op, member, before, pos, after, left, right, m, n, chained, last, rfl, rfl, rfl⟩
    · exact .first inner
    · exact .more member (written_operator _ pos) chained last

-- The rules with their symbols written out, from the loosest to the tightest.
theorem sum_rule (tokens : List Token) (tree : Expr) (nesting : Nat) :
    Derives (.chain .additive) tokens tree nesting ↔
      Derives (.chain .multiplicative) tokens tree nesting ∨
      Joined .additive "+" .add tokens tree nesting ∨
      Joined .additive "-" .sub tokens tree nesting := by
  rw [chain_rule]
  simp [Level.operators, Level.operands, Operator.symbol]

theorem product_rule (tokens : List Token) (tree : Expr) (nesting : Nat) :
    Derives (.chain .multiplicative) tokens tree nesting ↔ Derives .signed tokens tree nesting ∨
      Joined .multiplicative "*" .mul tokens tree nesting ∨
      Joined .multiplicative "/" .div tokens tree nesting ∨
      Joined .multiplicative "%" .mod tokens tree nesting := by
  rw [chain_rule]
  simp [Level.operators, Level.operands, Operator.symbol]

theorem signed_rule (tokens : List Token) (tree : Expr) (nesting : Nat) :
    Derives .signed tokens tree nesting ↔ Derives .primary tokens tree nesting ∨
      Marked "+" .plus tokens tree nesting ∨ Marked "-" .minus tokens tree nesting := by
  constructor
  · intro derived
    cases derived with
    | unsigned inner => exact .inl inner
    | @signed token sign rest operand n spelled inner =>
        rw [operator_token_written token _ spelled]
        cases sign with
        | plus => exact .inr (.inl ⟨_, rest, operand, n, inner, rfl, rfl, rfl⟩)
        | minus => exact .inr (.inr ⟨_, rest, operand, n, inner, rfl, rfl, rfl⟩)
  · intro rule
    rcases rule with inner | ⟨pos, rest, operand, n, inner, rfl, rfl, rfl⟩ |
      ⟨pos, rest, operand, n, inner, rfl, rfl, rfl⟩
    · exact .unsigned inner
    · exact .signed (written_operator _ pos) inner
    · exact .signed (written_operator _ pos) inner

theorem primary_rule (tokens : List Token) (tree : Expr) (nesting : Nat) :
    Derives .primary tokens tree nesting ↔
      (∃ token value, (token.kind = .integer ∨ token.kind = .float) ∧
        Numeral.read? token.text = some value ∧ tokens = [token] ∧ tree = .literal value ∧ nesting = 0) ∨
      ∃ opening closing inner n, Derives (.chain .additive) inner tree n ∧
        tokens = ⟨.operator, "(", opening⟩ :: (inner ++ [⟨.operator, ")", closing⟩]) ∧ nesting = n + 1 := by
  constructor
  · intro derived
    cases derived with
    | @literal token value isLiteral reads =>
        exact .inl ⟨token, value, by simpa [Token.isLiteral] using isLiteral, reads, rfl, rfl, rfl⟩
    | @group opening closing inner _ n opens closes derived =>
        rw [operator_token_written opening _ opens, operator_token_written closing _ closes]
        exact .inr ⟨_, _, inner, n, derived, rfl, rfl⟩
  · intro rule
    rcases rule with ⟨token, value, kind, reads, rfl, rfl, rfl⟩ | ⟨opening, closing, inner, n, derived, rfl, rfl⟩
    · exact .literal (by simpa [Token.isLiteral] using kind) reads
    · exact .group (written_operator "(" opening) (written_operator ")" closing) derived

theorem literal_not_operator (token : Token) (spelling : String) (isLiteral : token.isLiteral) :
    token.isOperator spelling = false := by
  rw [Token.isLiteral, Bool.or_eq_true, beq_iff_eq, beq_iff_eq] at isLiteral
  rcases isLiteral with kind | kind <;> simp [Token.isOperator, kind]

theorem operator_not_literal (token : Token) (spelling : String)
    (spelled : token.isOperator spelling) : token.isLiteral = false := by
  simp [Token.isLiteral, ((operator_token token spelling).mp spelled).1]

-- An operator token has one spelling.
theorem operator_other (token : Token) (spelling other : String)
    (spelled : token.isOperator spelling) (different : other ≠ spelling) :
    token.isOperator other = false := by
  have text := ((operator_token token spelling).mp spelled).2
  simp [Token.isOperator, text, Ne.symm different]

-- Where no two items share a spelling, the item that a token spells is the one found.
theorem spelled_found {α : Type} (symbol : α → String) (items : List α) (token : Token) (item : α)
    (injective : ∀ a b, symbol a = symbol b → a = b) :
    items.find? (fun candidate => token.isOperator (symbol candidate)) = some item ↔
      item ∈ items ∧ token.isOperator (symbol item) := by
  constructor
  · intro found
    have spelled := List.find?_some found
    exact ⟨List.mem_of_find?_eq_some found, spelled⟩
  · rintro ⟨member, spelled⟩
    have text := ((operator_token token _).mp spelled).2
    cases found : items.find? (fun candidate => token.isOperator (symbol candidate)) with
    | none => exact absurd spelled (List.find?_eq_none.mp found item member)
    | some other =>
        have otherSpelled := List.find?_some found
        have otherText := ((operator_token token _).mp otherSpelled).2
        rw [injective other item (otherText.symm.trans text)]

theorem operator_symbol_injective (a b : Operator) (same : a.symbol = b.symbol) : a = b := by
  revert same
  cases a <;> cases b <;> decide

theorem sign_symbol_injective (a b : Sign) (same : a.symbol = b.symbol) : a = b := by
  revert same
  cases a <;> cases b <;> decide

theorem operator_found (level : Level) (token : Token) (op : Operator) :
    level.operator? token = some op ↔ op ∈ level.operators ∧ token.isOperator op.symbol :=
  spelled_found Operator.symbol level.operators token op operator_symbol_injective

theorem sign_found (token : Token) (sign : Sign) :
    sign? token = some sign ↔ token.isOperator sign.symbol := by
  have member : sign ∈ Sign.all := by cases sign <;> decide
  rw [sign?, spelled_found Sign.symbol Sign.all token sign sign_symbol_injective]
  simp [member]

theorem no_sign (token : Token) (absent : ∀ sign : Sign, token.isOperator sign.symbol = false) :
    sign? token = none := by
  simp [sign?, absent]

-- Whether the token after a phrase of the category makes the phrase go on.
def Category.continues (category : Category) (token : Token) : Bool :=
  match category with
  | .primary | .signed => false
  | .chain .multiplicative => (Level.multiplicative.operator? token).isSome
  | .chain .additive =>
      (Level.additive.operator? token).isSome || (Level.multiplicative.operator? token).isSome

def Stops (category : Category) : List Token → Prop
  | [] => True
  | token :: _ => category.continues token = false

theorem primary_stops (rest : List Token) : Stops .primary rest := by
  cases rest <;> trivial

theorem signed_stops (rest : List Token) : Stops .signed rest := by
  cases rest <;> trivial

theorem chain_stops (level : Level) (token : Token) (tail : List Token) :
    Stops (.chain level) (token :: tail) ↔
      level.operator? token = none ∧ Stops level.operands (token :: tail) := by
  cases level <;> simp [Stops, Category.continues, Level.operands]

-- An operator of a chain ends the operand before it.
theorem operator_stops_operand (level : Level) (op : Operator) (token : Token) (tail : List Token)
    (member : op ∈ level.operators) (spelled : token.isOperator op.symbol) :
    Stops level.operands (token :: tail) := by
  cases level with
  | multiplicative => rfl
  | additive =>
      have absent : Level.multiplicative.operator? token = none := by
        cases found : Level.multiplicative.operator? token with
        | none => rfl
        | some other =>
            obtain ⟨otherMember, otherSpelled⟩ := (operator_found _ _ _).mp found
            have text := ((operator_token _ _).mp spelled).2
            have otherText := ((operator_token _ _).mp otherSpelled).2
            have same := operator_symbol_injective other op (otherText.symm.trans text)
            subst same
            revert member otherMember
            cases other <;> decide
      simp [Stops, Level.operands, Category.continues, absent]

theorem closing_stops (category : Category) (token : Token) (tail : List Token)
    (closes : token.isOperator ")") : Stops category (token :: tail) := by
  have absent : ∀ level : Level, level.operator? token = none := by
    intro level
    cases found : level.operator? token with
    | none => rfl
    | some op =>
        have spelled := ((operator_found level token op).mp found).2
        have other := operator_other token ")" op.symbol closes (by cases op <;> decide)
        rw [other] at spelled
        cases spelled
  cases category with
  | primary => rfl
  | signed => rfl
  | chain level => cases level <;> simp [Stops, Category.continues, absent]

end Reckon.Parse
