import Reckon.Binary64.Arith
import Reckon.Proofs.Format
import Reckon.Proofs.Grammar
import Reckon.Proofs.Scanning
import Reckon.Proofs.Walk

set_option autoImplicit false

namespace Reckon

def Binary64.isNegative : Binary64 → Bool
  | .nan => false
  | .infinite negative => negative
  | .finite negative _ => negative

namespace Expr

def literals : Expr → List Binary64
  | .literal value => [value]
  | .unary _ operand => operand.literals
  | .binary _ left right => left.literals ++ right.literals

-- The tree with the minus sign of each negative literal as a node of its own.
def splitSigns : Expr → Expr
  | .literal value =>
      if value.isNegative then .unary .minus (.literal value.neg) else .literal value
  | .unary sign operand => .unary sign operand.splitSigns
  | .binary op left right => .binary op left.splitSigns right.splitSigns

-- The greatest number of signs and parentheses around a literal in the text of a tree.
def textNesting : Expr → Nat
  | .literal value => value.isNegative.toNat
  | .unary _ operand => operand.textNesting + (operand.looserThan .unary).toNat + 1
  | .binary op left right =>
      max (left.textNesting + (left.looserThan op.precedence).toNat)
        (right.textNesting + (right.notTighterThan op.precedence).toNat)

end Expr

namespace Parse

open Token (Scanned)

-- A literal may carry a sign, so that the tightest category of rendered trees is the signed one.
def rendering : Precedence → Category
  | .primary | .unary => .signed
  | .multiplicative => .chain .multiplicative
  | .additive => .chain .additive

def operatorLevel : Operator → Level
  | .add | .sub => .additive
  | .mul | .div | .mod => .multiplicative

-- What the right operands of a level are held to.
def Level.operandLimit : Level → Precedence
  | .additive => .multiplicative
  | .multiplicative => .unary

theorem operator_level (op : Operator) :
    op ∈ (operatorLevel op).operators ∧ rendering op.precedence = .chain (operatorLevel op) := by
  cases op <;> exact ⟨by decide, rfl⟩

theorem operand_limit (level : Level) : rendering level.operandLimit = level.operands := by
  cases level <;> rfl

-- Equal precedence is too loose on the right: there the next tighter class is the limit.
theorem right_limit (op : Operator) (right : Expr) :
    right.notTighterThan op.precedence = right.looserThan (operatorLevel op).operandLimit := by
  cases op <;> rfl

def Renders (category : Category) (text : List Char) (tree : Expr) (nesting : Nat) : Prop :=
  ∀ pos, ∃ tokens, Scanned pos text tokens ∧ Derives category tokens tree nesting

theorem signed_widen (loose : Precedence) (tokens : List Token) (tree : Expr) (nesting : Nat)
    (derived : Derives .signed tokens tree nesting) : Derives (rendering loose) tokens tree nesting := by
  cases loose with
  | primary => exact derived
  | unary => exact derived
  | multiplicative => exact .first derived
  | additive => exact .first (.first derived)

theorem derives_widen (tight loose : Precedence) (tokens : List Token) (tree : Expr) (nesting : Nat)
    (order : tight.looseness ≤ loose.looseness)
    (derived : Derives (rendering tight) tokens tree nesting) :
    Derives (rendering loose) tokens tree nesting := by
  cases tight with
  | primary => exact signed_widen loose tokens tree nesting derived
  | unary => exact signed_widen loose tokens tree nesting derived
  | multiplicative =>
      cases loose with
      | primary => exact absurd order (by decide)
      | unary => exact absurd order (by decide)
      | multiplicative => exact derived
      | additive => exact .first derived
  | additive =>
      cases loose with
      | primary => exact absurd order (by decide)
      | unary => exact absurd order (by decide)
      | multiplicative => exact absurd order (by decide)
      | additive => exact derived

theorem renders_group (text : List Char) (tree : Expr) (nesting : Nat)
    (inner : Renders (.chain .additive) text tree nesting) :
    Renders .signed ('(' :: (text ++ [')'])) tree (nesting + 1) := by
  intro pos
  obtain ⟨tokens, scanned, derived⟩ := inner (pos + 1)
  have closing := Token.scanned_operator (pos + 1 + text.length) ')' [] [] (by decide)
    (Token.scanned_empty _)
  have enclosed := Token.scanned_append (pos + 1) ')' text [] tokens _ (by decide) scanned closing
  exact ⟨_, Token.scanned_operator pos '(' _ _ (by decide) enclosed,
    .unsigned (.group rfl rfl derived)⟩

theorem renders_widen (tight loose : Precedence) (text : List Char) (tree : Expr) (nesting : Nat)
    (order : tight.looseness ≤ loose.looseness)
    (renders : Renders (rendering tight) text tree nesting) :
    Renders (rendering loose) text tree nesting := by
  intro pos
  obtain ⟨tokens, scanned, derived⟩ := renders pos
  exact ⟨tokens, scanned, derives_widen tight loose tokens tree nesting order derived⟩

-- What may be put in a looser place or in parentheses may be put where parentheses are as needed.
theorem parenthesized (Fits : Category → List Char → Nat → Prop)
    (widen : ∀ (tight loose : Precedence) (text : List Char) (nesting : Nat),
      tight.looseness ≤ loose.looseness → Fits (rendering tight) text nesting →
      Fits (rendering loose) text nesting)
    (group : ∀ (text : List Char) (nesting : Nat), Fits (.chain .additive) text nesting →
      Fits .signed ('(' :: (text ++ [')'])) (nesting + 1))
    (limit : Precedence) (operand : Expr) (text : String) (nesting : Nat)
    (inner : Fits (rendering operand.precedence) text.toList nesting) :
    Fits (rendering limit) (Expr.parenthesize (operand.looserThan limit) text).toList
      (nesting + (operand.looserThan limit).toNat) := by
  cases wrap : operand.looserThan limit with
  | false =>
      have order : operand.precedence.looseness ≤ limit.looseness := by
        simpa [Expr.looserThan] using wrap
      exact widen _ _ _ _ order inner
  | true =>
      have order : operand.precedence.looseness ≤ Precedence.additive.looseness := by
        cases operand.precedence <;> decide
      have grouped := group _ _ (widen _ .additive _ _ order inner)
      have text : (Expr.parenthesize true text).toList = '(' :: (text.toList ++ [')']) := by
        simp [Expr.parenthesize]
      rw [text]
      exact widen .primary limit _ _ (Nat.zero_le _) grouped

theorem renders_parenthesized (limit : Precedence) (operand tree : Expr) (text : String)
    (nesting : Nat) (inner : Renders (rendering operand.precedence) text.toList tree nesting) :
    Renders (rendering limit) (Expr.parenthesize (operand.looserThan limit) text).toList tree
      (nesting + (operand.looserThan limit).toNat) :=
  parenthesized (fun category text nesting => Renders category text tree nesting)
    (fun tight loose text nesting => renders_widen tight loose text tree nesting)
    (fun text nesting => renders_group text tree nesting) limit operand text nesting inner

theorem sign_spelling (sign : Sign) :
    ∃ c, sign.symbol = String.ofList [c] ∧ Token.isOperatorChar c := by
  cases sign with
  | plus => exact ⟨'+', rfl, by decide⟩
  | minus => exact ⟨'-', rfl, by decide⟩

theorem operator_spelling (op : Operator) :
    ∃ c, op.symbol = String.ofList [c] ∧ Token.isOperatorChar c := by
  cases op with
  | add => exact ⟨'+', rfl, by decide⟩
  | sub => exact ⟨'-', rfl, by decide⟩
  | mul => exact ⟨'*', rfl, by decide⟩
  | div => exact ⟨'/', rfl, by decide⟩
  | mod => exact ⟨'%', rfl, by decide⟩

theorem renders_sign (sign : Sign) (text : List Char) (tree : Expr) (nesting : Nat)
    (inner : Renders .signed text tree nesting) :
    Renders .signed (sign.symbol.toList ++ text) (.unary sign tree) (nesting + 1) := by
  intro pos
  obtain ⟨tokens, scanned, derived⟩ := inner (pos + 1)
  obtain ⟨c, spelled, operator⟩ := sign_spelling sign
  have whole := Token.scanned_operator pos c text tokens operator scanned
  rw [← spelled] at whole
  rw [spelled, String.toList_ofList, List.singleton_append]
  exact ⟨_, whole, .signed (by simp [Token.isOperator]) derived⟩

theorem renders_number (kind : Token.Kind) (chars : List Char) (d : Decimal)
    (number : NumberText kind chars d) : Renders .signed chars (.literal (d.toBinary64 false)) 0 := by
  intro pos
  exact ⟨_, Token.scanned_number pos kind chars d number,
    .unsigned (.literal (number_text_literal kind chars d number _ _) (read_number_text kind chars d number))⟩

theorem renders_literal (value : Binary64) (finite : value.isFinite) :
    Renders .signed value.format.toList (Expr.literal value).splitSigns value.isNegative.toNat := by
  cases value with
  | nan => cases finite
  | infinite negative => cases finite
  | finite negative rank =>
      obtain ⟨kind, d, number, value⟩ := format_text rank
      have magnitude := renders_number kind _ d number
      rw [value] at magnitude
      cases negative with
      | false => exact magnitude
      | true =>
          rw [format_negative]
          exact renders_sign .minus _ _ 0 magnitude

theorem scanned_symbol (op : Operator) (pos : Nat) (text : List Char) (tokens : List Token)
    (scanned : Scanned (pos + 3) text tokens) :
    Scanned pos (' ' :: (op.symbol.toList ++ ' ' :: text))
      (⟨.operator, op.symbol, (pos + 1 : Nat)⟩ :: tokens) := by
  obtain ⟨c, spelled, operator⟩ := operator_spelling op
  have spaced := Token.scanned_blank (pos + 2) ' ' text tokens (by decide) scanned
  have signed := Token.scanned_operator (pos + 1) c _ _ operator spaced
  rw [← spelled] at signed
  rw [spelled, String.toList_ofList, List.singleton_append, ← spelled]
  exact Token.scanned_blank pos ' ' _ _ (by decide) signed

theorem renders_joined (level : Level) (op : Operator) (leftText rightText : List Char)
    (left right : Expr) (m n : Nat) (member : op ∈ level.operators)
    (leftRenders : Renders (.chain level) leftText left m)
    (rightRenders : Renders level.operands rightText right n) :
    Renders (.chain level) (leftText ++ (op.symbol.toList ++ rightText)) (.binary op left right) (max m n) := by
  intro pos
  obtain ⟨c, spelled, operator⟩ := operator_spelling op
  obtain ⟨leftTokens, leftScanned, leftDerived⟩ := leftRenders pos
  obtain ⟨rightTokens, rightScanned, rightDerived⟩ := rightRenders (pos + leftText.length + 1)
  have separator : Token.isSeparator c := by simp [Token.isSeparator, operator]
  have whole := Token.scanned_append pos c leftText rightText leftTokens _ separator leftScanned
    (Token.scanned_operator _ c rightText rightTokens operator rightScanned)
  rw [← spelled] at whole
  rw [spelled, String.toList_ofList, List.singleton_append]
  exact ⟨_, whole, .more member (by simp [Token.isOperator]) leftDerived rightDerived⟩

theorem renders_blank_before (category : Category) (text : List Char) (tree : Expr) (nesting : Nat)
    (renders : Renders category text tree nesting) : Renders category (' ' :: text) tree nesting := by
  intro pos
  obtain ⟨tokens, scanned, derived⟩ := renders (pos + 1)
  exact ⟨tokens, Token.scanned_blank pos ' ' text tokens (by decide) scanned, derived⟩

theorem renders_blank_after (category : Category) (text : List Char) (tree : Expr) (nesting : Nat)
    (renders : Renders category text tree nesting) : Renders category (text ++ [' ']) tree nesting := by
  intro pos
  obtain ⟨tokens, scanned, derived⟩ := renders pos
  have blank := Token.scanned_blank (pos + text.length) ' ' [] [] (by decide) (Token.scanned_empty _)
  have whole := Token.scanned_append pos ' ' text [] tokens [] (by decide) scanned blank
  rw [List.append_nil] at whole
  exact ⟨tokens, whole, derived⟩

theorem renders_binary (level : Level) (op : Operator) (leftText rightText : List Char)
    (left right : Expr) (m n : Nat) (member : op ∈ level.operators)
    (leftRenders : Renders (.chain level) leftText left m)
    (rightRenders : Renders level.operands rightText right n) :
    Renders (.chain level) (leftText ++ ' ' :: (op.symbol.toList ++ ' ' :: rightText))
      (.binary op left right) (max m n) := by
  have spaced := renders_joined level op _ _ left right m n member
    (renders_blank_after _ _ _ _ leftRenders) (renders_blank_before _ _ _ _ rightRenders)
  rw [List.append_assoc, List.singleton_append] at spaced
  exact spaced

theorem binary_text (op : Operator) (left right : Expr) :
    (Expr.binary op left right).text.toList =
      (Expr.parenthesize (left.looserThan op.precedence) left.text).toList ++
        ' ' :: (op.symbol.toList ++
          ' ' :: (Expr.parenthesize (right.notTighterThan op.precedence) right.text).toList) := by
  simp [Expr.text_binary]

theorem renders_tree (tree : Expr) (finite : ∀ value ∈ tree.literals, value.isFinite) :
    Renders (rendering tree.precedence) tree.text.toList tree.splitSigns tree.textNesting := by
  induction tree with
  | literal value => exact renders_literal value (finite value (by simp [Expr.literals]))
  | unary sign operand ih =>
      have inner := renders_parenthesized .unary operand _ _ _ (ih finite)
      rw [Expr.text_unary, String.toList_append]
      exact renders_sign sign _ _ _ inner
  | binary op left right ihLeft ihRight =>
      obtain ⟨member, category⟩ := operator_level op
      have leftRenders := renders_parenthesized op.precedence left _ _ _
        (ihLeft (fun value inLeft => finite value (List.mem_append_left _ inLeft)))
      have rightRenders := renders_parenthesized (operatorLevel op).operandLimit right _ _ _
        (ihRight (fun value inRight => finite value (List.mem_append_right _ inRight)))
      rw [category] at leftRenders
      rw [operand_limit] at rightRenders
      have whole := renders_binary _ op _ _ _ _ _ _ member leftRenders rightRenders
      rw [← right_limit, ← category] at whole
      rw [binary_text]
      exact whole

end Parse

end Reckon
