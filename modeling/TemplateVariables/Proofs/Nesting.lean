import TemplateVariables.Proofs.SpanOrder
import TemplateVariables.Proofs.Subtrees

/-!
# Trees in a row

A tree is nested when its children stand one behind the other inside its span.  Trees in
a row stand one behind the other themselves, and everything inside them is nested.  A tree
that is built over a row of trees is nested again, however its span has been made: from a
place in front of the row to the end of the last lexeme, or from the spans it covers.
-/

namespace TemplateVariables

open Text

namespace Subtree

/-- The tree marks characters of the source, and its children stand in a row inside it. -/
structure Nested (source : List Char) (tree : Subtree) : Prop where
  marks : tree.span.Marks source
  children : Span.InOrder tree.span.start.toNat (tree.children.map span) tree.span.stop

/-- The trees stand in a row between the two offsets, and all that is inside them is nested. -/
structure Row (source : List Char) (low : Nat) (trees : List Subtree) (high : Nat) : Prop where
  inOrder : Span.InOrder low (trees.map span) high
  nested : ∀ tree ∈ trees, ∀ inner ∈ tree.all, inner.Nested source

namespace Row

variable {source : List Char} {low low' middle high high' start stop : Nat}
  {tree left right : Subtree} {trees others : List Subtree}

theorem nil (hle : low ≤ high) : Row source low [] high :=
  ⟨hle, List.forall_mem_nil _⟩

theorem append (htrees : Row source low trees middle) (hothers : Row source middle others high) :
    Row source low (trees ++ others) high where
  inOrder := by
    rw [List.map_append]
    exact htrees.inOrder.append hothers.inOrder
  nested := List.forall_mem_append.2 ⟨htrees.nested, hothers.nested⟩

theorem cons (htree : Row source low [tree] middle) (hothers : Row source middle others high) :
    Row source low (tree :: others) high :=
  htree.append hothers

theorem mono_low (htrees : Row source low trees high) (hle : low' ≤ low) :
    Row source low' trees high :=
  ⟨htrees.inOrder.mono_low hle, htrees.nested⟩

theorem mono_high (htrees : Row source low trees high) (hle : high ≤ high') :
    Row source low trees high' :=
  ⟨htrees.inOrder.mono_high hle, htrees.nested⟩

theorem le (htrees : Row source low trees high) : low ≤ high :=
  htrees.inOrder.le

/-- The only tree of a row marks characters between the two ends of the row. -/
theorem single (htree : Row source low [tree] high) :
    tree.span.Marks source ∧ low ≤ tree.span.start.toNat ∧ tree.span.stop ≤ high := by
  have hmem : tree ∈ tree.all := by
    rw [all_eq]
    exact List.mem_cons_self
  have hnested := htree.nested tree List.mem_cons_self tree hmem
  exact ⟨hnested.marks, htree.inOrder.1, htree.inOrder.2⟩

theorem of_nested (hlow : low ≤ tree.span.start.toNat) (hhigh : tree.span.stop ≤ high)
    (htree : tree.Nested source)
    (hchildren : ∀ child ∈ tree.children, ∀ inner ∈ child.all, inner.Nested source) :
    Row source low [tree] high where
  inOrder := ⟨hlow, hhigh⟩
  nested := by
    intro single hmem
    obtain rfl := List.mem_singleton.1 hmem
    exact forall_mem_all htree hchildren

/-- A tree without children. -/
theorem leaf (hmarks : tree.span.Marks source) (hchildren : tree.children = [])
    (hlow : low ≤ tree.span.start.toNat) (hhigh : tree.span.stop ≤ high) :
    Row source low [tree] high := by
  apply of_nested hlow hhigh
  · refine ⟨hmarks, ?_⟩
    rw [hchildren]
    exact tree.span.start_le_stop
  · rw [hchildren]
    exact List.forall_mem_nil _

variable (hlimit : byteLength source ≤ Span.limit)

include hlimit

/-- A tree from one place to another around a row of trees. -/
theorem enclose (htrees : Row source start trees stop) (hchildren : tree.children = trees)
    (hspan : tree.span = Span.ofBounds start stop) (hstart : Edge source start)
    (hstop : Edge source stop) (hlt : start < stop) : Row source start [tree] stop := by
  obtain ⟨hmarks, hstartEq, hstopEq⟩ := Span.marks_ofBounds hlimit hstart hstop hlt
  rw [← hspan] at hmarks hstartEq hstopEq
  rw [← hchildren] at htrees
  apply of_nested (Nat.le_of_eq hstartEq.symm) (Nat.le_of_eq hstopEq)
  · refine ⟨hmarks, ?_⟩
    rw [hstartEq, hstopEq]
    exact htrees.inOrder
  · exact htrees.nested

/-- A tree that begins with its first child. -/
theorem grow (hleft : Row source low [left] middle) (hothers : Row source middle others stop)
    (hchildren : tree.children = left :: others)
    (hspan : tree.span = Span.ofBounds left.span.start.toNat stop) (hstop : Edge source stop) :
    Row source low [tree] stop := by
  obtain ⟨hmarks, hlow, hmiddle⟩ := hleft.single
  have hlt := hmarks.start_lt_stop hlimit
  have hle := hothers.le
  have hrow : Row source left.span.start.toNat [left] middle :=
    ⟨⟨Nat.le_refl _, hmiddle⟩, hleft.nested⟩
  exact (enclose hlimit (hrow.cons hothers) hchildren hspan hmarks.edge_start hstop
    (by omega)).mono_low hlow

/-- A tree that begins with a lexeme in front of its children. -/
theorem bracket {opened : Span} (hopened : opened.Marks source)
    (hlow : low ≤ opened.start.toNat) (htrees : Row source opened.stop trees stop)
    (hchildren : tree.children = trees)
    (hspan : tree.span = Span.ofBounds opened.start.toNat stop) (hstop : Edge source stop) :
    Row source low [tree] stop := by
  have hlt := hopened.start_lt_stop hlimit
  have hle := htrees.le
  exact (enclose hlimit (htrees.mono_low (Nat.le_of_lt hlt)) hchildren hspan hopened.edge_start
    hstop (by omega)).mono_low hlow

/-- A tree over a lexeme and its only child behind it. -/
theorem wrap {opened : Span} (hopened : opened.Marks source) (hlow : low ≤ opened.start.toNat)
    (hright : Row source opened.stop [right] high) (hchildren : tree.children = [right])
    (hspan : tree.span = opened.cover right.span) : Row source low [tree] high := by
  obtain ⟨hmarks, hstart, hhigh⟩ := hright.single
  have hrow : Row source opened.stop [right] right.span.stop :=
    ⟨⟨hstart, Nat.le_refl _⟩, hright.nested⟩
  have hcover := Span.cover_eq_of_le hstart
  exact (bracket hlimit hopened hlow hrow hchildren (hspan.trans hcover)
    (hmarks.edge_stop hlimit)).mono_high hhigh

/-- A tree over two children. -/
theorem join (hleft : Row source low [left] middle) (hright : Row source middle [right] high)
    (hchildren : tree.children = [left, right])
    (hspan : tree.span = left.span.cover right.span) : Row source low [tree] high := by
  obtain ⟨hleftMarks, hlow, hmiddle⟩ := hleft.single
  obtain ⟨hmarks, hstart, hhigh⟩ := hright.single
  have hrow : Row source middle [right] right.span.stop :=
    ⟨⟨hstart, Nat.le_refl _⟩, hright.nested⟩
  have hcover := Span.cover_eq_of_le (Nat.le_trans hmiddle hstart)
  exact (grow hlimit hleft hrow hchildren (hspan.trans hcover)
    (hmarks.edge_stop hlimit)).mono_high hhigh

end Row

end Subtree

end TemplateVariables
