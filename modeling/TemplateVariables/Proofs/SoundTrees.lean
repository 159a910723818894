import TemplateVariables.Proofs.Node.Printing
import TemplateVariables.Proofs.Subtrees
import Mathlib.Data.List.Chain

/-!
# Sound trees

The types of trees allow more than a template can say.  These are the rules that they leave
open, one tree at a time: where a slice may stand, which names cannot be variables, which lists
are never empty, and how texts lie in a list.  A tree is sound if it keeps the rules together
with all trees inside it, so a tree that keeps them itself is sound as soon as its children are.
-/

namespace TemplateVariables

/-! ## The rules -/

/-- A variable is no operator and no literal, and a test that is not negated does not begin
with `not`. -/
def Expr.Proper : Expr → Prop
  | .identifier name _ => name ∉ reservedWords ∧ name ∉ literalWords
  | .test _ name _ negated _ => negated = false → name.head? ≠ some "not"
  | _ => True

def Node.isText : Node → Bool
  | .text .. => true
  | _ => false

/-- No two neighbours are both texts. -/
def Node.TextsApart (nodes : List Node) : Prop :=
  nodes.IsChain fun node next => node.isText = true → next.isText = false

/-- The lists of nodes that a node holds. -/
def Node.bodies : Node → List (List Node)
  | .conditional branches otherwise _ => branches.map (·.body) ++ otherwise.toList
  | .loop _ _ _ _ body otherwise _ => body :: otherwise.toList
  | .setBlock _ _ body _ => [body]
  | .macroBlock _ _ body _ => [body]
  | .callBlock _ _ body _ => [body]
  | .withBlock _ body _ => [body]
  | .filterBlock _ body _ => [body]
  | .block _ body _ => [body]
  | _ => []

/-- Nothing that has to be there is missing, and nothing reserved is assigned to. -/
def Node.Filled : Node → Prop
  | .text content _ => content ≠ ""
  | .conditional branches _ _ => branches ≠ []
  | .loop names _ _ _ _ _ _ => TargetNames names
  | .set targets _ _ => SetTarget.WellFormed targets
  | .setBlock name _ _ _ => name ∉ reservedWords
  | .callBlock _ call _ _ => call.IsCall
  | .filterBlock filters _ _ => filters ≠ []
  | .importNames _ names _ => names ≠ []
  | _ => True

structure Node.Proper (node : Node) : Prop where
  filled : node.Filled
  bodies : ∀ body ∈ node.bodies, Node.TextsApart body

namespace Subtree

def isSlice : Subtree → Bool
  | .expr value => value.isSlice
  | _ => false

/-- The children that stand where no slice may: all but the index of a subscript. -/
def unsliced : Subtree → List Subtree
  | .expr (.subscript base _ _) => [.expr base]
  | tree => tree.children

/-- What the tree keeps by itself. -/
def Kept : Subtree → Prop
  | .node inner => inner.Proper
  | .expr value => value.Proper
  | .filter _ => True

/-- The tree keeps the rules, and it has a slice at most as the index of a subscript. -/
structure Proper (tree : Subtree) : Prop where
  kept : tree.Kept
  unsliced : ∀ child ∈ tree.unsliced, child.isSlice = false

/-- The tree and all trees inside it keep the rules. -/
def Sound (tree : Subtree) : Prop :=
  ∀ inner ∈ tree.all, inner.Proper

/-! ## Building sound trees -/

/-- Sound trees of which none is a slice, so that they may stand anywhere. -/
def Operands (trees : List Subtree) : Prop :=
  ∀ tree ∈ trees, tree.Sound ∧ tree.isSlice = false

variable {tree : Subtree} {trees others : List Subtree}

theorem Operands.nil : Operands [] := List.forall_mem_nil _

theorem operands_singleton : Operands [tree] ↔ tree.Sound ∧ tree.isSlice = false :=
  List.forall_mem_singleton

theorem operands_append : Operands (trees ++ others) ↔ Operands trees ∧ Operands others :=
  List.forall_mem_append

theorem Operands.append (htrees : Operands trees) (hothers : Operands others) :
    Operands (trees ++ others) := operands_append.2 ⟨htrees, hothers⟩

theorem unsliced_subset (tree : Subtree) : tree.unsliced ⊆ tree.children := by
  unfold unsliced
  split
  · exact List.cons_subset_cons _ (List.nil_subset _)
  · exact List.Subset.refl _

/-- A tree is sound above operands. -/
theorem Sound.of_operands (hkept : tree.Kept) (hchildren : Operands tree.children) : tree.Sound :=
  forall_mem_all ⟨hkept, fun child hmem => (hchildren child (unsliced_subset tree hmem)).2⟩
    fun child hmem => (hchildren child hmem).1

/-- Operands in a row become the children of one. -/
theorem Operands.build (htrees : Operands trees) (hkept : tree.Kept) (hslice : tree.isSlice = false)
    (hchildren : tree.children = trees) : Operands [tree] := by
  rw [← hchildren] at htrees
  exact operands_singleton.2 ⟨.of_operands hkept htrees, hslice⟩

/-- A subscript may have a slice for its index. -/
theorem Operands.subscript {base index : Expr} {span : Span} (hbase : Operands [.expr base])
    (hindex : (expr index).Sound) : Operands [.expr (.subscript base index span)] := by
  obtain ⟨hsound, hslice⟩ := operands_singleton.1 hbase
  refine operands_singleton.2 ⟨forall_mem_all ⟨trivial, ?_⟩ ?_, rfl⟩
  · exact List.forall_mem_singleton.2 hslice
  · exact List.forall_mem_cons.2 ⟨hsound, List.forall_mem_singleton.2 hindex⟩

end Subtree

/-! ## Texts in a list -/

namespace Node

/-- The last node of the list is a text. -/
def endsInText (nodes : List Node) : Bool :=
  nodes.getLast?.any isText

theorem TextsApart.append {nodes : List Node} {node : Node} (hnodes : TextsApart nodes)
    (hnode : endsInText nodes = true → node.isText = false) : TextsApart (nodes ++ [node]) := by
  refine List.isChain_append.2 ⟨hnodes, List.isChain_singleton node, ?_⟩
  intro last hlast next hnext htext
  obtain rfl : node = next := Option.some.inj hnext
  apply hnode
  rw [endsInText, hlast]
  exact htext

theorem endsInText_append (nodes : List Node) (node : Node) :
    endsInText (nodes ++ [node]) = node.isText := by
  rw [endsInText, List.getLast?_concat]
  rfl

end Node

end TemplateVariables
