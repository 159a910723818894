import TemplateVariables.Proofs.Expr.Spelling

/-!
# Precedence of operators

A chain consists of operands with operators between them, where an operand is a
variable or a literal with any number of operators before it.  Exactly one tree
over a chain respects the strengths of the operators, and it is the tree that is
read.

Strengths and powers say the same thing in two ways.  An operator on the right
edge of a tree takes the operator that follows the tree if it is weaker, or if
both are the power operator.  The reader finds this out by comparing the power
on the right of the one with the power on the left of the other.

Existence is shown by attaching the operands of the chain one after another.
Uniqueness comes from the reader: it reads back every tree that respects the
strengths, and it reads a chain in one way only.
-/

namespace TemplateVariables

/-! ## Chains -/

/-- A variable or a literal. -/
structure Atom where
  kind : LexemeKind
  expr : Expr
  spells : Spells kind expr

inductive ChainItem where
  | operand (atom : Atom)
  | before (op : UnaryOp)
  | between (op : BinaryOp)

def ChainItem.kinds : ChainItem → List LexemeKind
  | .operand atom => [atom.kind]
  | .before op => [op.kind]
  | .between op => op.kinds

structure ChainOperand where
  signs : List UnaryOp
  atom : Atom

def ChainOperand.items (operand : ChainOperand) : List ChainItem :=
  operand.signs.map .before ++ [.operand operand.atom]

structure OperatorChain where
  first : ChainOperand
  rest : List (BinaryOp × ChainOperand)

def OperatorChain.items (chain : OperatorChain) : List ChainItem :=
  chain.first.items ++ chain.rest.flatMap fun link => .between link.1 :: link.2.items

def OperatorChain.kinds (chain : OperatorChain) : List LexemeKind :=
  chain.items.flatMap ChainItem.kinds

/-! ## Trees that respect the strengths -/

def UnaryOp.strength : UnaryOp → Nat
  | .not => 2
  | .neg | .pos => 7

def BinaryOp.strength : BinaryOp → Nat
  | .or => 0
  | .and => 1
  | .eq | .ne | .lt | .gt | .le | .ge | .isIn | .notIn => 3
  | .concat => 4
  | .add | .sub => 5
  | .mul | .div | .floorDiv | .mod => 6
  | .pow => 8

inductive Operator where
  | unary (op : UnaryOp)
  | binary (op : BinaryOp)

def Operator.strength : Operator → Nat
  | .unary op => op.strength
  | .binary op => op.strength

inductive OperatorTree where
  | leaf (atom : Atom)
  | signed (op : UnaryOp) (operand : OperatorTree)
  | joined (op : BinaryOp) (left right : OperatorTree)

namespace OperatorTree

def expr : OperatorTree → Expr
  | .leaf atom => atom.expr
  | .signed op operand => .unary op operand.expr default
  | .joined op left right => .binary op left.expr right.expr default

/-- The items of the tree in order. -/
def reading : OperatorTree → List ChainItem
  | .leaf atom => [.operand atom]
  | .signed op operand => .before op :: operand.reading
  | .joined op left right => left.reading ++ .between op :: right.reading

def kinds (tree : OperatorTree) : List LexemeKind :=
  tree.reading.flatMap ChainItem.kinds

def infixRoot? : OperatorTree → Option BinaryOp
  | .joined op _ _ => some op
  | _ => none

/-- The operators that have an operand at the end of the tree. -/
def rightEdge : OperatorTree → List Operator
  | .leaf _ => []
  | .signed op operand => .unary op :: operand.rightEdge
  | .joined op _ right => .binary op :: right.rightEdge

def Respects : OperatorTree → Prop
  | .leaf _ => True
  | .signed op operand =>
      operand.Respects ∧ ∀ root ∈ operand.infixRoot?, op.strength < root.strength
  | .joined op left right =>
      left.Respects ∧ right.Respects ∧
        (∀ edge ∈ left.rightEdge,
          ¬edge.strength < op.strength ∧ (op = .pow → edge.strength ≠ op.strength)) ∧
        ∀ root ∈ right.infixRoot?,
          op.strength < root.strength ∨ (op = .pow ∧ root.strength = op.strength)

end OperatorTree

/-! ## Strengths and powers -/

/-- The operator before the operand at the end of a tree takes the operator
that follows the tree. -/
def Operator.Takes (edge : Operator) (op : BinaryOp) : Prop :=
  edge.strength < op.strength ∨ (op = .pow ∧ edge.strength = op.strength)

instance (edge : Operator) (op : BinaryOp) : Decidable (edge.Takes op) :=
  inferInstanceAs (Decidable (_ ∨ _))

def Operator.rightPower : Operator → Nat
  | .unary op => op.power
  | .binary op => op.powers.2

theorem UnaryOp.power_eq (op : UnaryOp) : op.power = 2 * op.strength + 1 := by
  cases op <;> rfl

theorem BinaryOp.powers_of_ne_pow {op : BinaryOp} (hpow : op ≠ .pow) :
    op.powers = (2 * op.strength + 1, 2 * op.strength + 2) := by
  cases op <;> first | rfl | exact absurd rfl hpow

theorem BinaryOp.strength_lt {op : BinaryOp} (hpow : op ≠ .pow) :
    op.strength < BinaryOp.pow.strength := by
  cases op <;> first | decide | exact absurd rfl hpow

theorem UnaryOp.strength_lt (op : UnaryOp) : op.strength < BinaryOp.pow.strength := by
  cases op <;> decide

theorem UnaryOp.strength_ne (sign : UnaryOp) (op : BinaryOp) : sign.strength ≠ op.strength := by
  cases sign <;> cases op <;> decide

theorem BinaryOp.right_le_left_succ (op : BinaryOp) : op.powers.2 ≤ op.powers.1 + 1 := by
  cases op <;> decide

theorem Operator.takes_iff (edge : Operator) (op : BinaryOp) :
    edge.Takes op ↔ edge.rightPower ≤ op.powers.1 := by
  cases edge with
  | unary sign =>
      have hstrength := sign.strength_lt
      have hne := sign.strength_ne op
      rw [Takes, strength, rightPower, sign.power_eq]
      by_cases hop : op = .pow
      · subst hop
        simp only [BinaryOp.powers, BinaryOp.strength] at hstrength ⊢
        omega
      · rw [BinaryOp.powers_of_ne_pow hop]
        simp only [hop, false_and, or_false]
        omega
  | binary other =>
      rw [Takes, strength, rightPower]
      by_cases hop : op = .pow
      · subst hop
        cases other <;> decide
      · have hstrength := BinaryOp.strength_lt hop
        rw [BinaryOp.powers_of_ne_pow hop]
        simp only [hop, false_and, or_false]
        by_cases hother : other = .pow
        · subst hother
          simp only [BinaryOp.powers, BinaryOp.strength] at hstrength ⊢
          omega
        · rw [BinaryOp.powers_of_ne_pow hother]
          simp only
          omega

theorem BinaryOp.eq_pow_iff (op : BinaryOp) : op = .pow ↔ op.strength = 8 := by
  cases op <;> decide

theorem UnaryOp.takes_iff (sign : UnaryOp) (root : BinaryOp) :
    (Operator.unary sign).Takes root ↔ sign.strength < root.strength := by
  have hne := sign.strength_ne root
  simp only [Operator.Takes, Operator.strength, hne, and_false, or_false]

theorem BinaryOp.takes_iff (op root : BinaryOp) :
    (Operator.binary op).Takes root ↔
      op.strength < root.strength ∨ (op = .pow ∧ root.strength = op.strength) := by
  rw [Operator.Takes, Operator.strength]
  by_cases hstrength : root.strength = op.strength
  · rw [op.eq_pow_iff, root.eq_pow_iff, hstrength]
  · have hne : op.strength ≠ root.strength := fun heq => hstrength heq.symm
    simp only [hstrength, hne, and_false]

namespace OperatorTree

/-- What the three conditions on strengths say of operators that take others. -/
theorem respects_signed_iff (op : UnaryOp) (operand : OperatorTree) :
    (signed op operand).Respects ↔
      operand.Respects ∧ ∀ root ∈ operand.infixRoot?, (Operator.unary op).Takes root := by
  simp only [Respects, op.takes_iff]

theorem respects_joined_iff (op : BinaryOp) (left right : OperatorTree) :
    (joined op left right).Respects ↔
      left.Respects ∧ right.Respects ∧ (∀ edge ∈ left.rightEdge, ¬edge.Takes op) ∧
        ∀ root ∈ right.infixRoot?, (Operator.binary op).Takes root := by
  have hedge : ∀ edge : Operator, ¬edge.Takes op ↔
      ¬edge.strength < op.strength ∧ (op = .pow → edge.strength ≠ op.strength) := by
    intro edge
    rw [Operator.Takes, not_or, not_and]
  simp only [Respects, op.takes_iff, hedge]

theorem infixRoot?_mem_rightEdge (tree : OperatorTree) {root : BinaryOp}
    (hroot : root ∈ tree.infixRoot?) : .binary root ∈ tree.rightEdge := by
  cases tree with
  | leaf atom => contradiction
  | signed op operand => contradiction
  | joined op left right =>
      obtain rfl : op = root := by simpa [infixRoot?] using hroot
      exact List.mem_cons_self

/-! ## A tree over every chain -/

/-- The tree with an operator and its right operand put at its end. -/
def attach : OperatorTree → BinaryOp → OperatorTree → OperatorTree
  | .leaf atom, op, operand => .joined op (.leaf atom) operand
  | .signed sign inner, op, operand =>
      if ∃ edge ∈ (OperatorTree.signed sign inner).rightEdge, edge.Takes op then
        .signed sign (inner.attach op operand)
      else
        .joined op (.signed sign inner) operand
  | .joined other left right, op, operand =>
      if ∃ edge ∈ (OperatorTree.joined other left right).rightEdge, edge.Takes op then
        .joined other left (right.attach op operand)
      else
        .joined op (.joined other left right) operand

theorem attach_of_forall_not_takes {tree : OperatorTree} {op : BinaryOp}
    (htakes : ∀ edge ∈ tree.rightEdge, ¬edge.Takes op) (operand : OperatorTree) :
    tree.attach op operand = .joined op tree operand := by
  have hnone : ¬∃ edge ∈ tree.rightEdge, edge.Takes op := by
    rintro ⟨edge, hedge, hop⟩
    exact htakes edge hedge hop
  cases tree with
  | leaf atom => rfl
  | signed sign inner => rw [attach, if_neg hnone]
  | joined other left right => rw [attach, if_neg hnone]

theorem reading_attach (tree : OperatorTree) (op : BinaryOp) (operand : OperatorTree) :
    (tree.attach op operand).reading = tree.reading ++ .between op :: operand.reading := by
  induction tree with
  | leaf atom => rfl
  | signed sign inner ih =>
      by_cases htakes : ∃ edge ∈ (signed sign inner).rightEdge, edge.Takes op
      · rw [attach, if_pos htakes, reading, ih, reading, List.cons_append]
      · rw [attach, if_neg htakes]
        rfl
  | joined other left right _ ih =>
      by_cases htakes : ∃ edge ∈ (joined other left right).rightEdge, edge.Takes op
      · rw [attach, if_pos htakes, reading, ih, reading, List.append_assoc, List.cons_append]
      · rw [attach, if_neg htakes]
        rfl

/-- An operator that takes the root of a tree, or another operator if nothing
in the tree does, takes the root after the other operator was attached. -/
theorem takes_infixRoot?_attach {edge : Operator} {tree operand : OperatorTree} {op : BinaryOp}
    (hroot : ∀ root ∈ tree.infixRoot?, edge.Takes root)
    (htakes : ∃ other ∈ edge :: tree.rightEdge, other.Takes op) :
    ∀ root ∈ (tree.attach op operand).infixRoot?, edge.Takes root := by
  by_cases hinside : ∃ other ∈ tree.rightEdge, other.Takes op
  · cases tree with
    | leaf atom =>
        obtain ⟨other, hother, _⟩ := hinside
        exact absurd hother List.not_mem_nil
    | signed sign inner =>
        rw [attach, if_pos hinside]
        exact hroot
    | joined other left right =>
        rw [attach, if_pos hinside]
        exact hroot
  · have hnone : ∀ other ∈ tree.rightEdge, ¬other.Takes op := by
      intro other hother hop
      exact hinside ⟨other, hother, hop⟩
    have hedge : edge.Takes op := by
      obtain ⟨other, hother, hop⟩ := htakes
      rcases List.mem_cons.mp hother with rfl | hother
      · exact hop
      · exact absurd hop (hnone other hother)
    rw [attach_of_forall_not_takes hnone]
    rintro root ⟨⟩
    exact hedge

theorem respects_attach {tree operand : OperatorTree} (op : BinaryOp)
    (htree : tree.Respects) (hoperand : operand.Respects) (hroot : operand.infixRoot? = none) :
    (tree.attach op operand).Respects := by
  have hjoined : ∀ left : OperatorTree, left.Respects →
      (∀ edge ∈ left.rightEdge, ¬edge.Takes op) → (joined op left operand).Respects := by
    intro left hleft htakes
    rw [respects_joined_iff, hroot]
    exact ⟨hleft, hoperand, htakes, by simp⟩
  induction tree with
  | leaf atom => exact hjoined _ htree (by simp [rightEdge])
  | signed sign inner ih =>
      by_cases htakes : ∃ edge ∈ (signed sign inner).rightEdge, edge.Takes op
      · rw [respects_signed_iff] at htree
        rw [attach, if_pos htakes, respects_signed_iff]
        exact ⟨ih htree.1, takes_infixRoot?_attach htree.2 htakes⟩
      · rw [attach, if_neg htakes]
        exact hjoined _ htree (by simpa using htakes)
  | joined other left right _ ih =>
      by_cases htakes : ∃ edge ∈ (joined other left right).rightEdge, edge.Takes op
      · rw [respects_joined_iff] at htree
        obtain ⟨hleft, hright, hedges, hroots⟩ := htree
        rw [attach, if_pos htakes, respects_joined_iff]
        exact ⟨hleft, ih hright, hedges, takes_infixRoot?_attach hroots htakes⟩
      · rw [attach, if_neg htakes]
        exact hjoined _ htree (by simpa using htakes)

end OperatorTree

def ChainOperand.tree (operand : ChainOperand) : OperatorTree :=
  operand.signs.foldr .signed (.leaf operand.atom)

theorem ChainOperand.reading_tree (operand : ChainOperand) :
    operand.tree.reading = operand.items := by
  obtain ⟨signs, atom⟩ := operand
  induction signs with
  | nil => rfl
  | cons sign signs ih => exact congrArg (List.cons (.before sign)) ih

theorem ChainOperand.infixRoot?_tree (operand : ChainOperand) :
    operand.tree.infixRoot? = none := by
  obtain ⟨signs, atom⟩ := operand
  cases signs <;> rfl

theorem ChainOperand.respects_tree (operand : ChainOperand) : operand.tree.Respects := by
  obtain ⟨signs, atom⟩ := operand
  induction signs with
  | nil => trivial
  | cons sign signs ih =>
      have hroot := ChainOperand.infixRoot?_tree ⟨signs, atom⟩
      refine ⟨ih, ?_⟩
      intro root hmem
      rw [ChainOperand.tree] at hroot
      rw [hroot] at hmem
      contradiction

def OperatorChain.tree (chain : OperatorChain) : OperatorTree :=
  chain.rest.foldl (fun tree link => tree.attach link.1 link.2.tree) chain.first.tree

theorem OperatorTree.foldl_attach (links : List (BinaryOp × ChainOperand))
    {tree : OperatorTree} (htree : tree.Respects) :
    (links.foldl (fun tree link => tree.attach link.1 link.2.tree) tree).Respects ∧
      (links.foldl (fun tree link => tree.attach link.1 link.2.tree) tree).reading =
        tree.reading ++ links.flatMap fun link => .between link.1 :: link.2.items := by
  induction links generalizing tree with
  | nil => exact ⟨htree, (List.append_nil _).symm⟩
  | cons link links ih =>
      have hattach : (tree.attach link.1 link.2.tree).Respects :=
        respects_attach link.1 htree link.2.respects_tree link.2.infixRoot?_tree
      obtain ⟨hrespects, hreading⟩ := ih hattach
      refine ⟨hrespects, ?_⟩
      rw [List.foldl_cons, hreading, reading_attach, ChainOperand.reading_tree,
        List.flatMap_cons, List.append_assoc]

theorem OperatorChain.respects_tree (chain : OperatorChain) : chain.tree.Respects :=
  (OperatorTree.foldl_attach chain.rest chain.first.respects_tree).1

theorem OperatorChain.reading_tree (chain : OperatorChain) :
    chain.tree.reading = chain.items := by
  rw [tree, (OperatorTree.foldl_attach chain.rest chain.first.respects_tree).2,
    ChainOperand.reading_tree, items]

/-! ## Reading a tree back -/

/-- What may follow a tree: nothing that an operator on its right edge takes. -/
inductive FollowsEdge (edges : List Operator) : List LexemeKind → Prop where
  | ending {rest : List LexemeKind} (hends : EndsOperation rest) : FollowsEdge edges rest
  | operator (op : BinaryOp) (others : List LexemeKind)
      (htakes : ∀ edge ∈ edges, ¬edge.Takes op) : FollowsEdge edges (op.kinds ++ others)

namespace FollowsEdge

variable {edges : List Operator} {rest : List LexemeKind}

theorem endsOperand (hfollows : FollowsEdge edges rest) : EndsOperand rest := by
  cases hfollows with
  | ending hends => exact hends.1
  | operator op others _ => exact endsOperand_operator op others

theorem mono {fewer : List Operator} (hfollows : FollowsEdge edges rest)
    (hfewer : fewer ⊆ edges) : FollowsEdge fewer rest := by
  cases hfollows with
  | ending hends => exact .ending hends
  | operator op others htakes =>
      exact .operator op others fun edge hedge => htakes edge (hfewer hedge)

end FollowsEdge

namespace Parser

variable {tagEnd : Span} {bound : Nat} {cursor : Cursor} {rest : List LexemeKind}

theorem operatorTail_stops_of_followsEdge {nested : Nested bound} {edges : List Operator}
    {edge : Operator} (hedge : edge ∈ edges) (value : Expr) (hbound : cursor.size < bound)
    (hkinds : cursor.kinds = rest) (hfollows : FollowsEdge edges rest) :
    Yields (operatorTail tagEnd nested edge.rightPower value cursor hbound) (· = value)
      rest := by
  cases hfollows with
  | ending hends =>
      subst hkinds
      exact operatorTail_stops tagEnd nested edge.rightPower value hbound hends
  | operator op others htakes =>
      obtain ⟨next, hnext, hconnective, _⟩ := Cursor.connective_of_operator op hkinds
      have hpower : (Connective.operator op).leftPower < edge.rightPower := by
        have hop := htakes edge hedge
        rw [edge.takes_iff, Nat.not_le] at hop
        exact hop
      rw [operatorTail, hconnective]
      change Yields (ite _ _ _) _ _
      rw [if_pos hpower]
      exact Yields.pure rfl hkinds

theorem operation_of_tail {holds after : Expr → Prop} {power : Nat}
    {middle : List LexemeKind} (hbound : cursor.size ≤ bound)
    (hsigned : Yields (signed tagEnd (reader tagEnd bound) cursor hbound) holds middle)
    (htail : ∀ (value : Expr) (next : Cursor) (hnext : next.size < bound), holds value →
      next.kinds = middle →
        Yields (operatorTail tagEnd (reader tagEnd bound) power value next hnext) after rest) :
    Yields (operation tagEnd (reader tagEnd bound) power cursor hbound) after rest := by
  apply hsigned.bind
  intro value next hnext hvalue hkinds
  apply (htail value next _ hvalue hkinds).bind
  intro result last hlast hresult hrest
  exact Yields.pure hresult hrest

end Parser

namespace OperatorTree

open TemplateVariables.Parser

/-- The tree is read up to its end, and what follows it is read as the tail of an
operation that begins with the tree. -/
def ReadsOn (tree : OperatorTree) : Prop :=
  ∀ {tagEnd : Span} {bound power : Nat} {cursor : Cursor} {holds : Expr → Prop}
    {middle rest : List LexemeKind} (hbound : cursor.size ≤ bound),
    (∀ root ∈ tree.infixRoot?, power ≤ root.powers.1) →
    cursor.kinds = tree.kinds ++ middle → FollowsEdge tree.rightEdge middle →
    (∀ (value : Expr) (next : Cursor) (hnext : next.size < bound),
      value.spanless = tree.expr → next.kinds = middle →
        Yields (operatorTail tagEnd (reader tagEnd bound) power value next hnext) holds rest) →
    Yields (operation tagEnd (reader tagEnd bound) power cursor hbound) holds rest

theorem ReadsOn.read_above {tree : OperatorTree} (htree : tree.ReadsOn) {edge : Operator}
    (hroots : ∀ root ∈ tree.infixRoot?, edge.Takes root) {tagEnd : Span} {cursor : Cursor}
    {rest : List LexemeKind} (hkinds : cursor.kinds = tree.kinds ++ rest)
    (hfollows : FollowsEdge (edge :: tree.rightEdge) rest) :
    Yields (Expr.read tagEnd (.above edge.rightPower) cursor)
      (fun value => value.spanless = tree.expr) rest := by
  have hpower : ∀ root ∈ tree.infixRoot?, edge.rightPower ≤ root.powers.1 := by
    intro root hroot
    exact (edge.takes_iff root).mp (hroots root hroot)
  rw [Expr.read_above]
  apply htree (Nat.le_refl _) hpower hkinds (hfollows.mono (List.subset_cons_self _ _))
  intro value next hnext hvalue hnextKinds
  apply (operatorTail_stops_of_followsEdge List.mem_cons_self value hnext hnextKinds
    hfollows).mono
  rintro _ rfl
  exact hvalue

theorem readsOn_leaf (atom : Atom) : (leaf atom).ReadsOn := by
  intro tagEnd bound power cursor holds middle rest hbound _ hkinds hfollows htail
  have hatom : cursor.kinds = atom.kind :: middle := hkinds
  have hends : EndsOperand middle := hfollows.endsOperand
  apply operation_of_tail hbound _ htail
  rw [signed_of_operand hbound hatom atom.spells.not_unaryOp]
  exact operand_of_primary hbound (primary_of_spells atom.spells hbound hatom hends) hends

theorem readsOn_signed {op : UnaryOp} {operand : OperatorTree} (hoperand : operand.ReadsOn)
    (hroots : ∀ root ∈ operand.infixRoot?, (Operator.unary op).Takes root) :
    (signed op operand).ReadsOn := by
  intro tagEnd bound power cursor holds middle rest hbound _ hkinds hfollows htail
  have hop : cursor.kinds = op.kind :: (operand.kinds ++ middle) := hkinds
  obtain ⟨start, afterOp, hafterOp, hunary, hopKinds⟩ := Cursor.unaryOp?_eq_some hop
  apply operation_of_tail hbound _ htail
  rw [Parser.signed, hunary]
  apply (hoperand.read_above hroots hopKinds hfollows).bind
  intro value next hnext hvalue hrest
  exact Yields.pure (by rw [Expr.spanless, hvalue, expr]) hrest

theorem readsOn_joined {op : BinaryOp} {left right : OperatorTree} (hleft : left.ReadsOn)
    (hright : right.ReadsOn) (hedges : ∀ edge ∈ left.rightEdge, ¬edge.Takes op)
    (hroots : ∀ root ∈ right.infixRoot?, (Operator.binary op).Takes root) :
    (joined op left right).ReadsOn := by
  intro tagEnd bound power cursor holds middle rest hbound hpower hkinds hfollows htail
  have hop : power ≤ op.powers.1 := hpower op rfl
  -- The root of the left operand does not take `op`, so it is no looser than `op`.
  have hleftPower : ∀ root ∈ left.infixRoot?, power ≤ root.powers.1 := by
    intro root hroot
    have hnotTakes := hedges _ (left.infixRoot?_mem_rightEdge hroot)
    rw [(Operator.binary root).takes_iff, Operator.rightPower] at hnotTakes
    have hsides := root.right_le_left_succ
    omega
  have hleftKinds : cursor.kinds = left.kinds ++ (op.kinds ++ (right.kinds ++ middle)) := by
    rw [hkinds]
    simp [kinds, reading, ChainItem.kinds]
  -- The left operand ends before `op`, and from there on `op` is the reader's to take.
  apply hleft hbound hleftPower hleftKinds (.operator op _ hedges)
  intro leftValue afterLeft hafterLeft hleftValue hafterKinds
  obtain ⟨afterOp, hafterOp, hconnective, hopKinds⟩ :=
    Cursor.connective_of_operator op hafterKinds
  have hcontinues : ¬(Connective.operator op).leftPower < power := Nat.not_lt.mpr hop
  rw [operatorTail, hconnective]
  change Yields (ite _ _ _) _ _
  rw [if_neg hcontinues]
  apply (hright.read_above hroots hopKinds hfollows).bind
  intro rightValue afterRight hafterRight hrightValue hrightKinds
  have hvalue : (Expr.binary op leftValue rightValue
      (leftValue.span.cover rightValue.span)).spanless = (joined op left right).expr := by
    rw [Expr.spanless, hleftValue, hrightValue, expr]
  apply (htail _ afterRight _ hvalue hrightKinds).bind
  intro value next hnext hresult hrest
  exact Yields.pure hresult hrest

theorem readsOn_of_respects {tree : OperatorTree} (htree : tree.Respects) : tree.ReadsOn := by
  induction tree with
  | leaf atom => exact readsOn_leaf atom
  | signed op operand ih =>
      obtain ⟨hoperand, hroots⟩ := (respects_signed_iff op operand).mp htree
      exact readsOn_signed (ih hoperand) hroots
  | joined op left right ihleft ihright =>
      obtain ⟨hleft, hright, hedges, hroots⟩ := (respects_joined_iff op left right).mp htree
      exact readsOn_joined (ihleft hleft) (ihright hright) hedges hroots

theorem ofLexemes_of_respects {tree : OperatorTree} (htree : tree.Respects) (tagEnd : Span)
    {lexemes : List Lexeme} (hlexemes : lexemes.map (·.kind) = tree.kinds) :
    ∃ value, Expr.ofLexemes lexemes tagEnd = .ok value ∧ value.spanless = tree.expr := by
  have hpower : ∀ root ∈ tree.infixRoot?, 0 ≤ root.powers.1 := fun _ _ => Nat.zero_le _
  have hkinds : (Cursor.ofLexemes lexemes).kinds = tree.kinds ++ [] := by
    rw [Cursor.kinds_ofLexemes, hlexemes, List.append_nil]
  have hend : EndsOperation [] := endsExpression_nil.operation
  apply Expr.ofLexemes_of_read
  apply Expr.read_full_of_operation _ endsExpression_nil.noIf
  apply readsOn_of_respects htree (Nat.le_refl _) hpower hkinds (.ending hend)
  intro value next hnext hvalue hnextKinds
  have hstops := operatorTail_stops tagEnd (reader tagEnd (Cursor.ofLexemes lexemes).size) 0
    value hnext (by rw [hnextKinds]; exact hend)
  rw [hnextKinds] at hstops
  apply hstops.mono
  rintro _ rfl
  exact hvalue

/-! ## At most one tree over a chain -/

/-- The expression says where the reading of a tree ends. -/
theorem eq_of_expr_eq {tree other : OperatorTree} {rest rest' : List ChainItem}
    (hexpr : tree.expr = other.expr) (hreading : tree.reading ++ rest = other.reading ++ rest') :
    tree = other ∧ rest = rest' := by
  induction tree generalizing other rest rest' with
  | leaf atom =>
      have hspells : Spells atom.kind other.expr := hexpr ▸ atom.spells
      cases other with
      | leaf atom' =>
          obtain ⟨hatom, hrest⟩ := List.cons.inj hreading
          obtain rfl : atom = atom' := ChainItem.operand.inj hatom
          exact ⟨rfl, hrest⟩
      | signed op' operand' => exact absurd hspells Spells.not_unary
      | joined op' left' right' => exact absurd hspells Spells.not_binary
  | signed op operand ih =>
      cases other with
      | leaf atom' =>
          have hspells : Spells atom'.kind (signed op operand).expr := hexpr ▸ atom'.spells
          exact absurd hspells Spells.not_unary
      | signed op' operand' =>
          obtain ⟨rfl, hoperand⟩ : op = op' ∧ operand.expr = operand'.expr := by
            simpa [expr] using hexpr
          obtain ⟨rfl, hrest⟩ := ih hoperand (List.cons.inj hreading).2
          exact ⟨rfl, hrest⟩
      | joined op' left' right' => simp [expr] at hexpr
  | joined op left right ihleft ihright =>
      cases other with
      | leaf atom' =>
          have hspells : Spells atom'.kind (joined op left right).expr := hexpr ▸ atom'.spells
          exact absurd hspells Spells.not_binary
      | signed op' operand' => simp [expr] at hexpr
      | joined op' left' right' =>
          obtain ⟨rfl, hleft, hright⟩ :
              op = op' ∧ left.expr = left'.expr ∧ right.expr = right'.expr := by
            simpa [expr] using hexpr
          rw [reading, reading, List.append_assoc, List.append_assoc] at hreading
          obtain ⟨rfl, hafterLeft⟩ := ihleft hleft hreading
          obtain ⟨rfl, hrest⟩ := ihright hright (List.cons.inj hafterLeft).2
          exact ⟨rfl, hrest⟩

theorem eq_of_reading_eq {tree other : OperatorTree} (htree : tree.Respects)
    (hother : other.Respects) (hreading : tree.reading = other.reading) : tree = other := by
  have hkinds : tree.kinds = other.kinds := by rw [kinds, kinds, hreading]
  let lexemes : List Lexeme := tree.kinds.map fun kind => ⟨kind, default⟩
  have hlexemes : lexemes.map (·.kind) = tree.kinds := by
    rw [List.map_map]
    exact List.map_id _
  obtain ⟨value, hvalue, hexpr⟩ := ofLexemes_of_respects htree default hlexemes
  obtain ⟨value', hvalue', hexpr'⟩ :=
    ofLexemes_of_respects hother default (hlexemes.trans hkinds)
  obtain rfl : value = value' := Except.ok.inj (hvalue.symm.trans hvalue')
  exact (eq_of_expr_eq (hexpr.symm.trans hexpr') (congrArg (· ++ []) hreading)).1

end OperatorTree

/-- A chain is read as the one tree over it that respects the strengths. -/
theorem Expr.ofLexemes_chain (chain : OperatorChain) {lexemes : List Lexeme}
    (hlexemes : lexemes.map (·.kind) = chain.kinds) (tagEnd : Span) :
    ∃ (value : Expr) (tree : OperatorTree),
      Expr.ofLexemes lexemes tagEnd = .ok value ∧ value.spanless = tree.expr ∧
        (tree.Respects ∧ tree.reading = chain.items) ∧
        ∀ other : OperatorTree, other.Respects → other.reading = chain.items → other = tree := by
  have hrespects : chain.tree.Respects := chain.respects_tree
  have hreading : chain.tree.reading = chain.items := chain.reading_tree
  have hkinds : lexemes.map (·.kind) = chain.tree.kinds := by
    rw [hlexemes, OperatorChain.kinds, OperatorTree.kinds, hreading]
  obtain ⟨value, hvalue, hexpr⟩ :=
    OperatorTree.ofLexemes_of_respects hrespects tagEnd hkinds
  refine ⟨value, chain.tree, hvalue, hexpr, ⟨hrespects, hreading⟩, ?_⟩
  intro other hother hotherReading
  exact OperatorTree.eq_of_reading_eq hother hrespects (hotherReading.trans hreading.symm)

/-- The text `2 ** -3 ** 4 * not 5 == 6`. -/
theorem Expr.ofLexemes_chain_signs :
    ∃ value,
      Expr.ofLexemes
        (([.number "2", .punct .power, .punct .minus, .number "3", .punct .power, .number "4",
          .punct .star, .name "not", .number "5", .punct .eq, .number "6"] :
          List LexemeKind).map fun kind => ⟨kind, default⟩) default = .ok value ∧
      value.spanless =
        .binary .mul
          (.binary .pow (.literal (.number "2") default)
            (.unary .neg
              (.binary .pow (.literal (.number "3") default) (.literal (.number "4") default)
                default) default) default)
          (.unary .not
            (.binary .eq (.literal (.number "5") default) (.literal (.number "6") default)
              default) default) default := by
  let atom (text : String) : Atom := ⟨_, _, .number text⟩
  let chain : OperatorChain :=
    ⟨⟨[], atom "2"⟩, [(.pow, ⟨[.neg], atom "3"⟩), (.pow, ⟨[], atom "4"⟩),
      (.mul, ⟨[.not], atom "5"⟩), (.eq, ⟨[], atom "6"⟩)]⟩
  let tree : OperatorTree :=
    .joined .mul
      (.joined .pow (.leaf (atom "2"))
        (.signed .neg (.joined .pow (.leaf (atom "3")) (.leaf (atom "4")))))
      (.signed .not (.joined .eq (.leaf (atom "5")) (.leaf (atom "6"))))
  have htree : tree.Respects := by
    simp [tree, OperatorTree.Respects, OperatorTree.rightEdge, OperatorTree.infixRoot?,
      Operator.strength, UnaryOp.strength, BinaryOp.strength]
  let lexemes : List Lexeme := chain.kinds.map fun kind => ⟨kind, default⟩
  have hlexemes : lexemes.map (·.kind) = chain.kinds := rfl
  obtain ⟨value, read, hvalue, hexpr, _, hunique⟩ :=
    Expr.ofLexemes_chain chain hlexemes default
  obtain rfl : tree = read := hunique tree htree rfl
  exact ⟨value, hvalue, hexpr⟩

end TemplateVariables
