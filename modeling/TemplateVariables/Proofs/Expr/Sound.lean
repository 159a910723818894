import TemplateVariables.Proofs.Expr.Lexemes
import TemplateVariables.Proofs.Expr.Occurrences
import TemplateVariables.Proofs.SoundTrees

/-!
# Expressions are read soundly

Each rule of the readers makes an operand of operands.  Only the index of a subscript can be a
slice, and the rule that reads it puts it under the subscript at once.  A variable is a word that
is neither a literal nor an operator, and the name of a test begins behind the `not` in front of
it.
-/

namespace TemplateVariables.Parser

open Subtree

variable {tagEnd : Span} {cursor next : Cursor}

/-- What is read is an operand, but an index may be a slice. -/
def Form.Sound : Form → Prop
  | .subscriptIndex value => (Subtree.expr value).Sound
  | .sliceTail _ _ value => (Subtree.expr value).Sound
  | form => Operands form.trees

theorem operands_of_ofWord? {word : String} {span : Span} {value : Expr}
    (hword : Expr.ofWord? word span = some value) : Operands [.expr value] := by
  unfold Expr.ofWord? at hword
  split_ifs at hword with htrue hfalse hnone hreserved
  · cases hword
    exact Operands.nil.build trivial rfl rfl
  · cases hword
    exact Operands.nil.build trivial rfl rfl
  · cases hword
    exact Operands.nil.build trivial rfl rfl
  · cases hword
    refine Operands.nil.build ⟨hreserved, ?_⟩ rfl rfl
    simp_all [literalWords]

/-- A `not` in front of the name of a test negates it and is no part of the name. -/
theorem head?_ne_of_negates {start afterName : Cursor} {name : DottedName} {span : Span}
    {negated : Bool} {hsize : afterName.size < start.size} (hnot : Negates cursor negated start)
    (hname : start.expectDotted tagEnd .test = .ok ⟨(name, span), afterName, hsize⟩) :
    negated = false → name.head? ≠ some "not" := by
  rintro rfl hhead
  obtain ⟨hnone, rfl⟩ := hnot
  cases name with
  | nil => cases hhead
  | cons word words =>
      obtain rfl : word = "not" := Option.some.inj hhead
      obtain ⟨_, _, _, htake, -⟩ := Cursor.take?_eq_some (Cursor.kinds_of_expectDotted hname)
      rw [hnone] at htake
      cases htake

/-- A reader that goes on with an operand reads soundly. -/
theorem Reads.sound {form : Form} (hreads : Reads tagEnd form cursor next) :
    Operands form.front → form.Sound := by
  induction hreads with
  | above _ ih => exact ih
  | full _ _ ihoperation ihtail => exact fun _ => ihtail (ihoperation .nil)
  | operation _ _ ihsigned ihtail => exact fun _ => ihtail (ihsigned .nil)
  | operatorStop => exact id
  | operatorLoose => exact id
  | operatorTest _ _ _ _ ihtest ihtail => exact fun hleft => ihtail (ihtest hleft)
  | operatorJoin _ _ _ _ ihright ihtail =>
      exact fun hleft => ihtail ((hleft.append (ihright .nil)).build trivial rfl rfl)
  | conditionalStop => exact id
  | conditionalThen _ _ _ _ ihcondition ihtail =>
      exact fun hhead => ihtail ((hhead.append (ihcondition .nil)).build trivial rfl rfl)
  | conditionalElse _ _ _ _ _ ihcondition ihotherwise ihtail =>
      intro hhead
      have hparts := (hhead.append (ihcondition .nil)).append (ihotherwise .nil)
      exact ihtail (hparts.build trivial rfl rfl)
  | testArguments hnot hname _ ihargs =>
      intro htested
      exact (htested.append (ihargs .nil)).build (head?_ne_of_negates hnot hname) rfl rfl
  | testBare hnot hname _ _ _ _ _ ihhead ihtail =>
      intro htested
      have harg := ihtail (ihhead .nil)
      exact (htested.append harg).build (head?_ne_of_negates hnot hname) rfl rfl
  | testPlain hnot hname _ _ _ =>
      exact fun htested => htested.build (head?_ne_of_negates hnot hname) rfl rfl
  | signedOperator _ _ ih => exact fun _ => (ih .nil).build trivial rfl rfl
  | signedOperand _ _ ih => exact ih
  | operand _ _ _ ihhead ihaccess ihfilters =>
      exact fun _ => ihfilters (ihaccess (ihhead .nil))
  | word _ hword => exact fun _ => operands_of_ofWord? hword
  | number _ => exact fun hnone => hnone.build trivial rfl rfl
  | str _ _ => exact fun hnone => hnone.build trivial rfl rfl
  | group _ _ ih => exact ih
  | list _ _ ih =>
      intro hnone
      have hitems : Operands (List.flatMap Item.trees _) := ih hnone
      rw [Item.flatMap_trees_expr] at hitems
      exact hitems.build trivial rfl rfl
  | dict _ _ ih =>
      intro hnone
      have hentries : Operands (List.flatMap Item.trees _) := ih hnone
      rw [Item.flatMap_trees_entry] at hentries
      exact hentries.build trivial rfl rfl
  | accessStop => exact id
  | accessAttribute _ _ _ ihtail =>
      exact fun hbase => ihtail (hbase.build trivial rfl rfl)
  -- The only place where a tree that may be a slice is taken.
  | accessSubscript _ _ _ _ _ ihindex ihtail =>
      exact fun hbase => ihtail (hbase.subscript (ihindex .nil))
  | accessCall _ _ _ _ _ ihargs ihtail =>
      intro hbase
      have hargs : Operands (List.flatMap Item.trees _) := ihargs .nil
      rw [Item.flatMap_trees_argument] at hargs
      exact ihtail ((hbase.append hargs).build trivial rfl rfl)
  | filterStop => exact id
  | filterNext _ _ _ ihcall ihtail =>
      exact fun hbase => ihtail ((hbase.append (ihcall .nil)).build trivial rfl rfl)
  | filterCall _ _ ihargs => exact fun _ => (ihargs .nil).build trivial rfl rfl
  | argumentsNone => exact id
  | argumentsSome _ _ ih =>
      intro hnone
      have hargs : Operands (List.flatMap Item.trees _) := ih hnone
      rwa [Item.flatMap_trees_argument] at hargs
  | index _ _ _ ih => exact fun _ => (operands_singleton.1 (ih .nil)).1
  | sliceFromStart _ _ ih => exact ih
  | sliceFrom _ _ _ _ ihstart ihtail => exact fun _ => ihtail (ihstart .nil)
  | sliceStep _ _ _ ihstop ihstep =>
      intro hstart
      refine .of_operands trivial ?_
      have hparts := (hstart.append (ihstop .nil)).append (ihstep .nil)
      simpa [children, Expr.children, Form.trees, Form.front] using hparts
  | sliceStop _ _ ihstop =>
      intro hstart
      refine .of_operands trivial ?_
      have hparts := hstart.append (ihstop .nil)
      simpa [children, Expr.children, Form.trees, Form.front] using hparts
  | partNone => exact id
  | partSome _ _ ih => exact ih
  | groupEmpty _ => exact fun hnone => hnone.build trivial rfl rfl
  | groupTuple _ _ _ _ _ ihfirst ihothers =>
      exact fun _ => ((ihfirst .nil).append (ihothers .nil)).build trivial rfl rfl
  | groupSingle _ _ _ _ ih => exact ih
  | groupTailStop => exact id
  | groupTailComma => exact id
  | groupTailItem _ _ _ _ ihfirst ihothers =>
      exact fun _ => (ihfirst .nil).append (ihothers .nil)
  | seriesEmpty => exact id
  | series _ _ _ _ _ ihfirst ihothers => exact fun _ => (ihfirst .nil).append (ihothers .nil)
  | seriesTailStop => exact id
  | seriesTailComma => exact id
  | seriesTailItem _ _ _ _ _ ihfirst ihothers =>
      exact fun _ => (ihfirst .nil).append (ihothers .nil)
  | itemExpr _ ih => exact ih
  | itemSplat _ _ ih => exact ih
  | itemKeyword _ _ _ ih => exact ih
  | itemPositional _ _ _ ih => exact ih
  | itemEntry _ _ _ ihkey ihvalue => exact fun _ => (ihkey .nil).append (ihvalue .nil)
  | tupleSingle _ _ ih => exact ih
  | tuple _ _ _ ihfirst ihothers =>
      exact fun _ => ((ihfirst .nil).append (ihothers .nil)).build trivial rfl rfl
  | tupleTailStop => exact id
  | tupleTailComma => exact id
  | tupleTailItem _ _ _ _ ihfirst ihothers =>
      exact fun _ => (ihfirst .nil).append (ihothers .nil)

end TemplateVariables.Parser
