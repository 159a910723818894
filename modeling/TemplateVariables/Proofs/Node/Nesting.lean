import TemplateVariables.Proofs.Expr.Words
import TemplateVariables.Proofs.Node.TreeSteps
import TemplateVariables.Proofs.Token.Coverage

/-!
# Spans of a template

The tokens of a source stand in a row, and the trees of a tag stand in a row inside it.  So
what has been read of a block always stands in a row behind the start of its opener, in front
of the token that comes next, and the end tag makes a nested node of it.
-/

namespace TemplateVariables

open Text

variable {source : List Char} {low high start stop : Nat}

theorem Text.BlankBetween.le (hblank : BlankBetween source start stop) : start ≤ stop := by
  obtain ⟨before, gap, after, -, rfl, rfl, -⟩ := hblank
  rw [byteLength_append]
  exact Nat.le_add_right _ _

/-! ## Trees of a token -/

namespace Cursor

variable {lexemes : List Lexeme}

theorem laid_ofLexemes (hmarks : ∀ lexeme ∈ lexemes, lexeme.span.Marks source)
    (hinOrder : Span.InOrder low (lexemes.map Lexeme.span) high) :
    (ofLexemes lexemes).Laid source high :=
  ⟨hmarks, hinOrder.mono_low (Nat.zero_le _), edge_zero source⟩

theorem behind_ofLexemes (hinOrder : Span.InOrder low (lexemes.map Lexeme.span) high) :
    (ofLexemes lexemes).Behind low := by
  cases lexemes with
  | nil =>
      intro lexeme hlexeme
      cases hlexeme
  | cons first others =>
      intro lexeme hlexeme
      obtain rfl : first = lexeme := Option.some.inj hlexeme
      exact hinOrder.1

end Cursor

variable (hlimit : byteLength source ≤ Span.limit)

include hlimit

theorem Statement.TakesAll.row {tagEnd : Span} {lexemes : List Lexeme} {trees : List Subtree}
    (htakes : TakesAll tagEnd (Cursor.ofLexemes lexemes) trees)
    (hmarks : ∀ lexeme ∈ lexemes, lexeme.span.Marks source)
    (hinOrder : Span.InOrder low (lexemes.map Lexeme.span) high) :
    Subtree.Row source low trees high := by
  obtain ⟨next, -, htakes⟩ := htakes
  exact htakes.nests hlimit (Cursor.laid_ofLexemes hmarks hinOrder)
    (Cursor.behind_ofLexemes hinOrder) hinOrder.le

/-- Within the limit a tag marks what is written of it, and its lexemes stand in a row there. -/
theorem Tag.Written.inOrder {tag : Tag} (hwritten : tag.Written source start stop) :
    (∀ lexeme ∈ tag.lexemes, lexeme.span.Marks source) ∧
      Span.InOrder tag.span.start.toNat (tag.lexemes.map Lexeme.span) tag.span.stop := by
  obtain ⟨-, hstart, hstop⟩ :=
    Span.marks_ofBounds hlimit hwritten.edge_start hwritten.edge_stop hwritten.lt
  rw [hwritten.span, hstart, hstop]
  exact hwritten.lexemes.marks hlimit

theorem Token.Holds.row {token : Token} {trees : List Subtree} (hholds : token.Holds trees)
    (hwritten : ∀ tag ∈ token.tag?, ∃ start stop, tag.Written source start stop) :
    Subtree.Row source token.span.start.toNat trees token.span.stop := by
  have hempty (htrees : trees = []) :
      Subtree.Row source token.span.start.toNat trees token.span.stop := by
    rw [htrees]
    exact Subtree.Row.nil token.span.start_le_stop
  cases token with
  | expression tag =>
      obtain ⟨start, stop, hwritten⟩ := hwritten tag rfl
      obtain ⟨hmarks, hinOrder⟩ := hwritten.inOrder hlimit
      exact Statement.TakesAll.row hlimit hholds hmarks hinOrder
  | block tag =>
      obtain ⟨start, stop, hwritten⟩ := hwritten tag rfl
      obtain ⟨hmarks, hinOrder⟩ := hwritten.inOrder hlimit
      apply hholds.2.row hlimit
      · exact fun lexeme hlexeme => hmarks lexeme (List.mem_of_mem_tail hlexeme)
      · rw [List.map_tail]
        exact hinOrder.tail
  | _ => exact hempty hholds

omit hlimit

/-! ## Trees of open blocks -/

/-- The trees that are being read stand in a row in front of the offset, behind the opener of
the innermost block with what has been read of it before; and so does what stands in front of
this opener. -/
def OpenBlock.Placed (source : List Char) : List OpenBlock → List Subtree → Nat → Prop
  | [], trees, stop => Subtree.Row source 0 trees stop
  | block :: below, trees, stop =>
      Placed source below (block.before.map .node) block.span.start.toNat ∧
        block.span.Marks source ∧ block.span.stop ≤ stop ∧
          Subtree.Row source block.span.start.toNat (block.unfinished.trees ++ trees) stop

theorem OpenBlock.Placed.append {blocks : List OpenBlock} {trees others : List Subtree}
    (hplaced : Placed source blocks trees stop) (hothers : Subtree.Row source stop others high) :
    Placed source blocks (trees ++ others) high := by
  cases blocks with
  | nil => exact Subtree.Row.append hplaced hothers
  | cons block below =>
      obtain ⟨hbelow, hmarks, hstop, hrow⟩ := hplaced
      refine ⟨hbelow, hmarks, Nat.le_trans hstop hothers.le, ?_⟩
      rw [← List.append_assoc]
      exact hrow.append hothers

theorem OpenBlock.Placed.mono_high {blocks : List OpenBlock} {trees : List Subtree}
    (hplaced : Placed source blocks trees stop) (hle : stop ≤ high) :
    Placed source blocks trees high := by
  have happend := hplaced.append (Subtree.Row.nil hle)
  rwa [List.append_nil] at happend

namespace Building

def Placed (source : List Char) (building : Building) (stop : Nat) : Prop :=
  OpenBlock.Placed source building.blocks (building.nodes.map .node) stop

theorem Placed.add {building : Building} {node : Node} (hplaced : building.Placed source stop)
    (hnode : Subtree.Row source stop [.node node] high) :
    (building.add node).Placed source high := by
  unfold Placed Building.add
  rw [List.map_append]
  exact OpenBlock.Placed.append hplaced hnode

include hlimit in
/-- A token behind the state leaves the state in front of its end. -/
theorem Steps.placed {token : Token} {building next : Building} (hstep : Steps token building next)
    (hplaced : building.Placed source stop) (hmarks : token.span.Marks source)
    (hle : stop ≤ token.span.start.toNat)
    (hwritten : ∀ tag ∈ token.tag?, ∃ start stop, tag.Written source start stop) :
    next.Placed source token.span.stop := by
  have hrow {trees : List Subtree} (hholds : token.Holds trees) :
      Subtree.Row source token.span.start.toNat trees token.span.stop :=
    hholds.row hlimit hwritten
  have hspan := token.span.start_le_stop
  cases hstep with
  | @add _ node hholds hnodeSpan _ =>
      apply hplaced.add
      have hchildren := hrow hholds
      apply Subtree.Row.of_nested
      · exact Nat.le_trans hle (Nat.le_of_eq (congrArg (·.start.toNat) hnodeSpan.symm))
      · exact Nat.le_of_eq (congrArg Span.stop hnodeSpan)
      · constructor
        · change node.span.Marks source
          rwa [hnodeSpan]
        · change Span.InOrder node.span.start.toNat _ node.span.stop
          rw [hnodeSpan]
          exact hchildren.inOrder
      · exact hchildren.nested
  | @opens _ block _ _ hholds hblockSpan hbefore =>
      unfold Placed OpenBlock.Placed
      rw [hblockSpan, hbefore, List.map_nil, List.append_nil]
      exact ⟨OpenBlock.Placed.mono_high hplaced hle, hmarks, Nat.le_refl _, hrow hholds⟩
  | @divide block below nodes unfinished trees hholds htrees =>
      obtain ⟨hbelow, hblock, hstop, hbody⟩ := hplaced
      refine ⟨hbelow, hblock, Nat.le_trans hstop (Nat.le_trans hle hspan), ?_⟩
      · change Subtree.Row source _ (unfinished.trees ++ []) _
        rw [List.append_nil, htrees]
        exact (hbody.mono_high hle).append (hrow hholds)
  | @complete block below nodes node hholds hchildren hnodeSpan _ =>
      obtain ⟨hbelow, hblock, hstop, hbody⟩ := hplaced
      have hbelow : (Building.mk below block.before).Placed source block.span.start.toNat := hbelow
      have hlt := hblock.start_lt_stop hlimit
      rw [Span.cover_eq_of_le (Nat.le_trans hstop hle)] at hnodeSpan
      apply hbelow.add
      exact Subtree.Row.enclose hlimit (hbody.mono_high (Nat.le_trans hle hspan)) hchildren
        hnodeSpan hblock.edge_start (hmarks.edge_stop hlimit) (by omega)

include hlimit in
/-- Tokens in a row make nodes in a row. -/
theorem Runs.row {building : Building} {tokens : List Token} {nodes : List Node}
    (hruns : Runs building tokens nodes) {previous : Token.Previous}
    (hlayout : Token.Layout source previous stop tokens)
    (hwritten : ∀ token ∈ tokens, ∀ tag ∈ token.tag?, ∃ start stop, tag.Written source start stop)
    (hplaced : building.Placed source stop) :
    Subtree.Row source 0 (nodes.map .node) (byteLength source) := by
  induction hruns generalizing previous stop with
  | stop nodes =>
      cases hlayout with
      | stop hblank => exact Subtree.Row.mono_high hplaced hblank.le
  | @step token tokens building next nodes hstep hrest ih =>
      cases hlayout with
      | token htoken hothers =>
          have hmarks : token.span.Marks source := ⟨_, htoken.written_ne_nil, htoken.covers⟩
          rw [List.forall_mem_cons] at hwritten
          exact ih hothers hwritten.2
            (hstep.placed hlimit hplaced hmarks htoken.start_le hwritten.1)

end Building

/-! ## Templates -/

/-- Within the limit the nodes of a template stand in a row, and all inside them is nested. -/
theorem Node.row_of_ofSource (hlimit : byteLength source ≤ Span.limit) {nodes : List Node}
    (hok : Node.ofSource source = .ok nodes) :
    Subtree.Row source 0 (nodes.map .node) (byteLength source) := by
  rcases Node.exists_runs_of_ofSource hok with ⟨-, rfl⟩ | ⟨body, offset, htokens, hruns⟩
  · exact Subtree.Row.nil (Nat.zero_le _)
  · obtain ⟨body', hbody, hlayout⟩ :=
      (Token.place_start source).laysOut hlimit rfl htokens
    obtain ⟨rfl, -⟩ := List.append_inj' hbody rfl
    have hsource : source = [] ++ source := rfl
    obtain ⟨-, hwritten⟩ := Token.ofCharsFrom_written htokens hsource rfl
    exact hruns.row hlimit hlayout (List.forall_mem_append.1 hwritten).1
      (Subtree.Row.nil (Nat.le_refl 0))

/-- The nodes of a template stand one behind the other in its source.  Every node, expression
and filter call inside them marks at least one character, with both its ends between
characters of the source, and its children stand in their order one behind the other inside
it.  The children of a node are its expressions and filter calls with the nodes of its bodies,
a condition in front of its body and the defaults of parameters in front of the call; those of
an expression are its operands and the filter call that stands behind one. -/
theorem Node.ofSource_nested (hsize : byteLength source < 2 ^ 32) {nodes : List Node}
    (hok : Node.ofSource source = .ok nodes) :
    Span.InOrder 0 (nodes.map Node.span) (byteLength source) ∧
      ∀ node ∈ nodes, ∀ tree ∈ (Subtree.node node).all, tree.Nested source := by
  have hlimit : byteLength source ≤ Span.limit := Nat.le_sub_one_of_lt hsize
  have hrow := Node.row_of_ofSource hlimit hok
  refine ⟨?_, fun node hnode tree htree => ?_⟩
  · have hinOrder := hrow.inOrder
    rwa [List.map_map] at hinOrder
  · exact hrow.nested (.node node) (List.mem_map_of_mem hnode) tree htree

/-- A parenthesised operand, a filter and a test that grow over it, adjacent strings, branches,
and a call block with a default. -/
theorem Node.ofSource_nested_blocks :
    let source := ("\x7b% call(a=b|f('x' 'y')) (c).d(1) %\x7d\x7b% if not (e) is g %\x7d" ++
      "é\x7b% elif h[:2] %\x7d\x7b\x7b i, j \x7d\x7d\x7b% endif %\x7d\x7b% endcall %\x7d").toList
    byteLength source < 2 ^ 32 ∧
    ∃ nodes, Node.ofSource source = .ok nodes ∧
      Span.InOrder 0 (nodes.map Node.span) (byteLength source) ∧
        ∀ node ∈ nodes, ∀ tree ∈ (Subtree.node node).all, tree.Nested source := by
  intro source
  have hsize : byteLength source < 2 ^ 32 := by decide +kernel
  have hsource : ∃ nodes, Node.ofSource source = .ok nodes := by
    apply exists_eq_ok_of_isOk
    rw [Node.ofSource_eq_build]
    decide +kernel
  obtain ⟨nodes, hok⟩ := hsource
  exact ⟨hsize, nodes, hok, Node.ofSource_nested hsize hok⟩

end TemplateVariables
