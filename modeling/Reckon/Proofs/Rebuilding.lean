import Reckon.Expr.Json
import Reckon.Proofs.Integers
import Reckon.Proofs.JsonRoundTrip
import Reckon.Schema.Tree

set_option autoImplicit false

namespace Reckon

namespace Expr

def kind : Expr → Schema.Kind
  | .literal _ => .literal
  | .unary .. => .unary
  | .binary .. => .binary

def members : Expr → List (String × Json)
  | .literal value => [("value", .float value)]
  | .unary sign operand => [("op", .str sign.symbol), ("operand", operand.toJson)]
  | .binary op left right => [("op", .str op.symbol), ("left", left.toJson), ("right", right.toJson)]

theorem to_json_members (tree : Expr) : tree.toJson = .obj tree.members := by
  cases tree <;> rfl

theorem to_json_finite (tree : Expr) (finite : ∀ value ∈ tree.literals, value.isFinite) : tree.toJson.Finite := by
  induction tree with
  | literal value =>
      refine .obj (fun member listed => ?_)
      rw [List.mem_singleton.mp listed]
      have isFinite := finite value (by simp [literals])
      cases value with
      | finite negative rank => exact .float negative rank
      | nan => cases isFinite
      | infinite => cases isFinite
  | unary sign operand ih =>
      refine .obj (List.forall_mem_cons.mpr ⟨.str _, List.forall_mem_singleton.mpr ?_⟩)
      exact ih finite
  | binary op left right ihLeft ihRight =>
      simp only [literals, List.mem_append, or_imp, forall_and] at finite
      refine .obj (List.forall_mem_cons.mpr ⟨.str _, List.forall_mem_cons.mpr ⟨?_, List.forall_mem_singleton.mpr ?_⟩⟩)
      · exact ihLeft finite.1
      · exact ihRight finite.2

end Expr

namespace Schema

def asKind : Kind → Members → Checked Built
  | .literal => asLiteral
  | .unary => asUnary
  | .binary => asBinary

theorem tree_as_kind (kind : Kind) (members : List (String × Json)) :
    tree kind members = (asKind kind (children members)).map Built.tree := by
  cases kind <;> rfl

theorem field_missing {α β : Type} (members : List (String × β)) (name : String) (check : β → Checked α)
    (missing : members.reverse.lookup name = none) : ∃ issues, field members name check = .error issues := by
  rw [field, missing]
  exact ⟨_, rfl⟩

theorem both_error {α β : Type} (first : Checked α) (second : Checked β)
    (failed : (∃ issues, first = .error issues) ∨ ∃ issues, second = .error issues) :
    ∃ issues, both first second = .error issues := by
  cases first with
  | error issues => cases second <;> exact ⟨_, rfl⟩
  | ok value =>
      cases second with
      | error issues => exact ⟨_, rfl⟩
      | ok other => rcases failed with ⟨_, impossible⟩ | ⟨_, impossible⟩ <;> cases impossible

theorem map_error {α β : Type} (f : α → β) (checked : Checked α) (failed : ∃ issues, checked = .error issues) :
    ∃ issues, checked.map f = .error issues := by
  obtain ⟨issues, rfl⟩ := failed
  exact ⟨issues, rfl⟩

theorem sign_chosen (sign : Sign) : choice Sign.all Sign.symbol (.str sign.symbol) = .ok sign := by
  cases sign <;> rfl

theorem operator_chosen (op : Operator) : choice Operator.all Operator.symbol (.str op.symbol) = .ok op := by
  cases op <;> rfl

-- Each kind misses a name in the members of the others.
theorem other_kind_refused (tree : Expr) (kind : Kind) (other : kind ≠ tree.kind) :
    ∃ issues, asKind kind (children tree.members) = .error issues := by
  cases kind with
  | literal =>
      apply map_error
      apply field_missing
      cases tree with
      | literal value => exact absurd rfl other
      | unary sign operand => rfl
      | binary op left right => rfl
  | unary =>
      apply map_error
      apply both_error
      refine .inr (field_missing _ _ _ ?_)
      cases tree with
      | literal value => rfl
      | unary sign operand => exact absurd rfl other
      | binary op left right => rfl
  | binary =>
      apply map_error
      apply both_error
      refine .inr (both_error _ _ (.inl (field_missing _ _ _ ?_)))
      cases tree with
      | literal value => rfl
      | unary sign operand => rfl
      | binary op left right => exact absurd rfl other

theorem only_kind_taken (kind : Kind) (members : Members) (built : Built) (own : asKind kind members = .ok built)
    (others : ∀ other, other ≠ kind → ∃ issues, asKind other members = .error issues) :
    ofMembers members = .ok built := by
  rw [ofMembers]
  cases kind with
  | literal =>
      obtain ⟨_, unary⟩ := others .unary (by decide)
      obtain ⟨_, binary⟩ := others .binary (by decide)
      simp only [asKind] at own unary binary
      simp only [own, unary, binary, under, better]
  | unary =>
      obtain ⟨_, literal⟩ := others .literal (by decide)
      obtain ⟨_, binary⟩ := others .binary (by decide)
      simp only [asKind] at own literal binary
      simp only [own, literal, binary, under, better]
  | binary =>
      obtain ⟨_, literal⟩ := others .literal (by decide)
      obtain ⟨_, unary⟩ := others .unary (by decide)
      simp only [asKind] at own literal unary
      simp only [own, literal, unary, under, better]

theorem child_as_kind (tree : Expr) (built : Built) (own : asKind tree.kind (children tree.members) = .ok built) :
    child tree.toJson = .ok built := by
  rw [Expr.to_json_members, child]
  exact only_kind_taken tree.kind _ built own (other_kind_refused tree)

theorem literal_made (members : Members) (value : Binary64) (given : Json) (operand : Checked Built)
    (found : members.reverse.lookup "value" = some (given, operand)) (isNumber : number given = .ok value) :
    asLiteral members = .ok ⟨.literal value, 1⟩ := by
  simp only [asLiteral, field, found, isNumber, under, Except.map]

theorem unary_made (members : Members) (sign : Sign) (operand : Built) (symbol given : Json) (unused : Checked Built)
    (op : members.reverse.lookup "op" = some (symbol, unused))
    (chosen : choice Sign.all Sign.symbol symbol = .ok sign)
    (found : members.reverse.lookup "operand" = some (given, .ok operand)) :
    asUnary members = .ok ⟨.unary sign operand.tree, operand.members + 2⟩ := by
  simp only [asUnary, field, op, chosen, found, under, both, Except.map]

theorem binary_made (members : Members) (operator : Operator) (left right : Built) (symbol givenLeft givenRight : Json)
    (unused : Checked Built) (op : members.reverse.lookup "op" = some (symbol, unused))
    (chosen : choice Operator.all Operator.symbol symbol = .ok operator)
    (foundLeft : members.reverse.lookup "left" = some (givenLeft, .ok left))
    (foundRight : members.reverse.lookup "right" = some (givenRight, .ok right)) :
    asBinary members = .ok ⟨.binary operator left.tree right.tree, left.members + right.members + 3⟩ := by
  simp only [asBinary, field, op, chosen, foundLeft, foundRight, under, both, Except.map]

theorem own_kind_rebuilds (tree : Expr) :
    ∃ count, asKind tree.kind (children tree.members) = .ok ⟨tree, count⟩ := by
  induction tree with
  | literal value => exact ⟨1, literal_made _ value _ _ rfl rfl⟩
  | unary sign operand ih =>
      obtain ⟨count, rebuilt⟩ := ih
      have given : (children (Expr.unary sign operand).members).reverse.lookup "operand" =
          some (operand.toJson, .ok ⟨operand, count⟩) := by
        rw [← child_as_kind operand _ rebuilt]
        rfl
      exact ⟨count + 2, unary_made _ sign ⟨operand, count⟩ _ _ _ rfl (sign_chosen sign) given⟩
  | binary op left right ihLeft ihRight =>
      obtain ⟨leftCount, leftRebuilt⟩ := ihLeft
      obtain ⟨rightCount, rightRebuilt⟩ := ihRight
      have leftGiven : (children (Expr.binary op left right).members).reverse.lookup "left" =
          some (left.toJson, .ok ⟨left, leftCount⟩) := by
        rw [← child_as_kind left _ leftRebuilt]
        rfl
      have rightGiven : (children (Expr.binary op left right).members).reverse.lookup "right" =
          some (right.toJson, .ok ⟨right, rightCount⟩) := by
        rw [← child_as_kind right _ rightRebuilt]
        rfl
      exact ⟨leftCount + rightCount + 3, binary_made _ op ⟨left, leftCount⟩ ⟨right, rightCount⟩ _ _ _ _ rfl
        (operator_chosen op) leftGiven rightGiven⟩

theorem tree_rebuilds (tree : Expr) : Schema.tree tree.kind tree.members = .ok tree := by
  obtain ⟨count, rebuilt⟩ := own_kind_rebuilds tree
  rw [tree_as_kind, rebuilt]
  rfl

theorem accepted_iff_own_kind (tree : Expr) (kind : Kind) :
    (∃ built, Schema.tree kind tree.members = .ok built) ↔ kind = tree.kind := by
  constructor
  · rintro ⟨built, accepted⟩
    apply Decidable.byContradiction
    intro other
    obtain ⟨issues, refused⟩ := other_kind_refused tree kind other
    rw [tree_as_kind, refused] at accepted
    cases accepted
  · rintro rfl
    exact ⟨tree, tree_rebuilds tree⟩

end Schema

-- The kind of a node is not written down, but its members tell it.
theorem dump_rebuilds (style : Json.Style) (tree : Expr) (text : String)
    (finite : ∀ value ∈ tree.literals, value.isFinite) (dumped : tree.dump? style = some text) :
    (∃ members, Json.parse? text = some (.obj members) ∧ Schema.tree tree.kind members = .ok tree) ∧
    ∀ part ∈ tree.subtrees, ∃ members, part.toJson = .obj members ∧
      ∀ kind, (∃ built, Schema.tree kind members = .ok built) ↔ kind = part.kind := by
  refine ⟨⟨tree.members, ?_, Schema.tree_rebuilds tree⟩,
    fun part _ => ⟨part.members, part.to_json_members, Schema.accepted_iff_own_kind part⟩⟩
  rw [Expr.dump?] at dumped
  split at dumped
  · cases dumped
    rw [Json.parse_print style tree.toJson (tree.to_json_finite finite), tree.to_json_members]
  · cases dumped

-- Zero with its sign and the least positive number, under an operator that is also a sign.
theorem dump_rebuilds_signed_operands :
    let tree : Expr := .binary .sub (.literal (.finite true ⟨0, by decide⟩))
      (.unary .minus (.literal (.finite false ⟨1, by decide⟩)))
    ∃ text members, tree.dump? (.indented 2) = some text ∧ Json.parse? text = some (.obj members) ∧
      Schema.tree .binary members = .ok tree := by
  intro tree
  obtain ⟨⟨members, parsed, rebuilt⟩, _⟩ := dump_rebuilds (.indented 2) tree _ (by
    intro value member
    simp only [tree, Expr.literals, List.cons_append, List.nil_append, List.mem_cons, List.not_mem_nil,
      or_false] at member
    rcases member with rfl | rfl <;> rfl) (if_pos (by decide))
  exact ⟨_, members, if_pos (by decide), parsed, rebuilt⟩

end Reckon
