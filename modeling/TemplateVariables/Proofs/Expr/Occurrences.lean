import Mathlib.Tactic.SplitIfs
import TemplateVariables.Proofs.Expr.Nesting

/-!
# Variables in reading order

The variables that an expression reads are names among the lexemes it was read from.  They
stand in the expression in the order in which those names are written, each with the span of
its name, and no two of them come from the same name.
-/

namespace TemplateVariables

/-! ## Names that can be variables -/

/-- The variable that a lexeme is by itself. -/
def LexemeKind.identifier? : LexemeKind → Option String
  | .name word => if word ∈ literalWords ∨ word ∈ reservedWords then none else some word
  | _ => none

def Lexeme.occurrence? (lexeme : Lexeme) : Option Occurrence :=
  lexeme.kind.identifier?.map (·, lexeme.span)

/-- The name that the variable is written as. -/
def Occurrence.lexeme (occurrence : Occurrence) : Lexeme where
  kind := .name occurrence.1
  span := occurrence.2

theorem Lexeme.eq_of_occurrence? {lexeme : Lexeme} {occurrence : Occurrence}
    (hlexeme : lexeme.occurrence? = some occurrence) : lexeme = occurrence.lexeme := by
  obtain ⟨kind, span⟩ := lexeme
  obtain ⟨name, hname, rfl⟩ := Option.map_eq_some_iff.1 hlexeme
  cases kind with
  | name word =>
      rw [LexemeKind.identifier?] at hname
      split_ifs at hname
      cases hname
      rfl
  | _ => cases hname

theorem Lexeme.not_reserved_of_occurrence? {lexeme : Lexeme} {occurrence : Occurrence}
    (hlexeme : lexeme.occurrence? = some occurrence) : occurrence.1 ∉ reservedWords := by
  obtain rfl := Lexeme.eq_of_occurrence? hlexeme
  obtain ⟨name, hname, -⟩ := Option.map_eq_some_iff.1 hlexeme
  intro hreserved
  rw [Occurrence.lexeme, LexemeKind.identifier?, if_pos (.inr hreserved)] at hname
  cases hname

theorem Lexeme.map_lexeme_sublist (lexemes : List Lexeme) :
    List.Sublist ((lexemes.filterMap Lexeme.occurrence?).map Occurrence.lexeme) lexemes := by
  induction lexemes with
  | nil => exact List.Sublist.refl _
  | cons lexeme rest ih =>
      cases hlexeme : lexeme.occurrence? with
      | none =>
          rw [List.filterMap_cons_none hlexeme]
          exact ih.cons lexeme
      | some occurrence =>
          rw [List.filterMap_cons_some hlexeme, List.map_cons, Lexeme.eq_of_occurrence? hlexeme]
          exact ih.cons_cons _

def Cursor.occurrences (cursor : Cursor) : List Occurrence :=
  cursor.rest.filterMap Lexeme.occurrence?

namespace Parser

open Subtree

/-- The lexemes between two places hold the variables of the trees that are new at the second
place, each in a lexeme of its own and in the same order. -/
def Meets (before : List Subtree) (cursor : Cursor) (after : List Subtree) (next : Cursor) :
    Prop :=
  List.Sublist (after.flatMap occurrences ++ next.occurrences)
    (before.flatMap occurrences ++ cursor.occurrences)

variable {before found after trees : List Subtree} {cursor middle next : Cursor}

namespace Meets

theorem refl (before : List Subtree) (cursor : Cursor) : Meets before cursor before cursor :=
  List.Sublist.refl _

theorem trans (hfirst : Meets before cursor found middle)
    (hsecond : Meets found middle after next) : Meets before cursor after next :=
  List.Sublist.trans hsecond hfirst

/-- What is passed over holds no variable that counts. -/
theorem skip (before : List Subtree) (hadvances : cursor.Advances next) :
    Meets before cursor before next :=
  (hadvances.suffix.sublist.filterMap Lexeme.occurrence?).append_left _

/-- What is met is met behind other trees too. -/
theorem behind (hmeets : Meets [] cursor trees next) (before : List Subtree) :
    Meets before cursor (before ++ trees) next := by
  rw [Meets, List.flatMap_append, List.append_assoc]
  exact List.Sublist.append_left hmeets _

/-- Trees in a row become the children of one. -/
theorem build {tree : Subtree} (hmeets : Meets before cursor trees next)
    (hnone : tree.occurrence? = none) (hchildren : tree.children = trees) :
    Meets before cursor [tree] next := by
  rwa [Meets, List.flatMap_singleton, occurrences_of_children hnone hchildren]

theorem sublist (hmeets : Meets [] cursor trees next) :
    List.Sublist (trees.flatMap occurrences) cursor.occurrences :=
  List.Sublist.trans (List.sublist_append_left _ _) hmeets

end Meets

/-- The trees before a tail, with which its result goes on. -/
def Form.front : Form → List Subtree
  | .operatorTail _ left _ => [.expr left]
  | .conditionalTail head _ => [.expr head]
  | .test tested _ => [.expr tested]
  | .accessTail base _ => [.expr base]
  | .filterTail base _ => [.expr base]
  | .sliceTail start _ _ => start.toList.map .expr
  | _ => []

theorem meets_of_ofWord? {word : String} {span : Span} {value : Expr}
    {hsize : next.size < cursor.size}
    (hnext : cursor.next? = some ⟨⟨.name word, span⟩, next, hsize⟩)
    (hword : Expr.ofWord? word span = some value) : Meets [] cursor [.expr value] next := by
  have hrest : cursor.occurrences =
      (Lexeme.mk (.name word) span).occurrence?.toList ++ next.occurrences := by
    rw [Cursor.occurrences, (Cursor.rest_of_next? hnext).1, List.filterMap_cons]
    cases (Lexeme.mk (.name word) span).occurrence? <;> rfl
  have hlexeme : (Subtree.expr value).occurrences =
      (Lexeme.mk (.name word) span).occurrence?.toList := by
    unfold Expr.ofWord? at hword
    split_ifs at hword with htrue hfalse hnone hreserved
    · cases hword
      rcases htrue with rfl | rfl <;> rfl
    · cases hword
      rcases hfalse with rfl | rfl <;> rfl
    · cases hword
      rcases hnone with rfl | rfl <;> rfl
    · cases hword
      have hidentifier : (LexemeKind.name word).identifier? = some word := by
        rw [LexemeKind.identifier?, if_neg (by simp_all [literalWords])]
      rw [Lexeme.occurrence?, hidentifier]
      rfl
  rw [Meets, List.flatMap_singleton, hlexeme, hrest]
  exact List.Sublist.refl _

/-- Every reader meets the variables of its result among the lexemes that it uses up. -/
theorem Reads.meets {tagEnd : Span} {form : Form} (hreads : Reads tagEnd form cursor next) :
    Meets form.front cursor form.trees next := by
  induction hreads with
  | above _ ih => exact ih
  | full _ _ ihoperation ihtail => exact ihoperation.trans ihtail
  | operation _ _ ihsigned ihtail => exact ihsigned.trans ihtail
  | operatorStop => exact .refl _ _
  | operatorLoose => exact .refl _ _
  | operatorTest hconnective _ _ _ ihtest ihtail =>
      exact (Meets.skip _ (Cursor.advances_of_connective hconnective)).trans (ihtest.trans ihtail)
  | operatorJoin hconnective _ _ _ ihright ihtail =>
      exact (Meets.skip _ (Cursor.advances_of_connective hconnective)).trans
        (((ihright.behind _).build rfl rfl).trans ihtail)
  | conditionalStop => exact .refl _ _
  | conditionalThen hif _ _ _ ihcondition ihtail =>
      exact (Meets.skip _ (Cursor.advances_of_take? hif)).trans
        (((ihcondition.behind _).build rfl rfl).trans ihtail)
  | conditionalElse hif _ helse _ _ ihcondition ihotherwise ihtail =>
      refine (Meets.skip _ (Cursor.advances_of_take? hif)).trans
        ((Meets.build ?_ rfl rfl).trans ihtail)
      exact (ihcondition.behind _).trans
        ((Meets.skip _ (Cursor.advances_of_take? helse)).trans (ihotherwise.behind _))
  | testArguments hnot hname _ ihargs =>
      have hskip := (Cursor.advances_of_negates hnot).trans
        (Cursor.advances_of_expectDotted hname)
      exact (Meets.skip _ hskip).trans ((ihargs.behind _).build rfl rfl)
  | testBare hnot hname hargs _ _ _ _ ihhead ihtail =>
      have hskip := ((Cursor.advances_of_negates hnot).trans
        (Cursor.advances_of_expectDotted hname)).trans hargs.advances
      exact (Meets.skip _ hskip).trans (((ihhead.trans ihtail).behind _).build rfl rfl)
  | testPlain hnot hname hargs _ _ =>
      have hskip := ((Cursor.advances_of_negates hnot).trans
        (Cursor.advances_of_expectDotted hname)).trans hargs.advances
      exact (Meets.skip _ hskip).build rfl rfl
  | signedOperator hop _ ih =>
      have hskip := Cursor.advances_of_next? (Cursor.next?_of_unaryOp? hop)
      exact ((Meets.skip _ hskip).trans ih).build rfl rfl
  | signedOperand _ _ ih => exact ih
  | operand _ _ _ ihhead ihaccess ihfilters => exact ihhead.trans (ihaccess.trans ihfilters)
  | word hnext hword => exact meets_of_ofWord? hnext hword
  | number hnext => exact (Meets.skip _ (Cursor.advances_of_next? hnext)).build rfl rfl
  | str hnext hmore =>
      have hskip := (Cursor.advances_of_next? hnext).trans (Cursor.advances_of_moreStrings hmore)
      exact (Meets.skip _ hskip).build rfl rfl
  | group hopen _ ih => exact (Meets.skip _ (Cursor.advances_of_next? hopen)).trans ih
  | list hopen _ ih =>
      rw [Form.trees, Item.flatMap_trees_expr] at ih
      exact ((Meets.skip _ (Cursor.advances_of_next? hopen)).trans ih).build rfl rfl
  | dict hopen _ ih =>
      rw [Form.trees, Item.flatMap_trees_entry] at ih
      exact ((Meets.skip _ (Cursor.advances_of_next? hopen)).trans ih).build rfl rfl
  | accessStop => exact .refl _ _
  | accessAttribute hdot hname _ ihtail =>
      have hskip := (Cursor.advances_of_take? hdot).trans (Cursor.advances_of_attributeName hname)
      exact ((Meets.skip _ hskip).build rfl rfl).trans ihtail
  | accessSubscript _ hopen _ hclose _ ihindex ihtail =>
      refine Meets.trans (Meets.build ?_ rfl rfl) ihtail
      exact (Meets.skip _ (Cursor.advances_of_take? hopen)).trans
        ((ihindex.behind _).trans (Meets.skip _ (Cursor.advances_of_take? hclose)))
  | accessCall _ _ hopen _ _ ihargs ihtail =>
      rw [Form.trees, Item.flatMap_trees_argument] at ihargs
      exact (Meets.skip _ (Cursor.advances_of_take? hopen)).trans
        (((ihargs.behind _).build rfl rfl).trans ihtail)
  | filterStop => exact .refl _ _
  | filterNext hbar _ _ ihcall ihtail =>
      exact (Meets.skip _ (Cursor.advances_of_take? hbar)).trans
        (((ihcall.behind _).build rfl rfl).trans ihtail)
  | filterCall hname _ ihargs =>
      exact ((Meets.skip _ (Cursor.advances_of_expectDotted hname)).trans ihargs).build rfl rfl
  | argumentsNone => exact .refl _ _
  | argumentsSome hopen _ ih =>
      rw [Form.trees, Item.flatMap_trees_argument] at ih
      exact (Meets.skip _ (Cursor.advances_of_take? hopen)).trans ih
  | index _ _ _ ih => exact ih
  | sliceFromStart hcolon _ ih =>
      exact (Meets.skip _ (Cursor.advances_of_take? hcolon)).trans ih
  | sliceFrom _ _ hcolon _ ihstart ihtail =>
      exact ihstart.trans ((Meets.skip _ (Cursor.advances_of_take? hcolon)).trans ihtail)
  | sliceStep _ hcolon _ ihstop ihstep =>
      have hskip := Cursor.advances_of_take? hcolon
      refine ((ihstop.behind _).trans ((Meets.skip _ hskip).trans (ihstep.behind _))).build rfl ?_
      simp [children, Expr.children, Form.trees, Form.front]
  | sliceStop _ _ ihstop =>
      refine (ihstop.behind _).build rfl ?_
      simp [children, Expr.children, Form.trees, Form.front]
  | partNone => exact .refl _ _
  | partSome _ _ ih => exact ih
  | groupEmpty hclose => exact (Meets.skip _ (Cursor.advances_of_take? hclose)).build rfl rfl
  | groupTuple _ _ _ _ hclose ihfirst ihothers =>
      have hitems := ihfirst.trans (ihothers.behind _)
      exact (hitems.trans (Meets.skip _ (Cursor.advances_of_take? hclose))).build rfl rfl
  | groupSingle _ _ _ hclose ih =>
      exact ih.trans (Meets.skip _ (Cursor.advances_of_take? hclose))
  | groupTailStop => exact .refl _ _
  | groupTailComma hcomma _ => exact Meets.skip _ (Cursor.advances_of_take? hcomma)
  | groupTailItem hcomma _ _ _ ihfirst ihothers =>
      exact (Meets.skip _ (Cursor.advances_of_take? hcomma)).trans
        (ihfirst.trans (ihothers.behind _))
  | seriesEmpty _ hclose => exact Meets.skip _ (Cursor.advances_of_take? hclose)
  | series _ _ _ _ hclose ihfirst ihothers =>
      exact ihfirst.trans
        ((ihothers.behind _).trans (Meets.skip _ (Cursor.advances_of_take? hclose)))
  | seriesTailStop => exact .refl _ _
  | seriesTailComma _ hcomma _ => exact Meets.skip _ (Cursor.advances_of_take? hcomma)
  | seriesTailItem _ hcomma _ _ _ ihfirst ihothers =>
      exact (Meets.skip _ (Cursor.advances_of_take? hcomma)).trans
        (ihfirst.trans (ihothers.behind _))
  | itemExpr _ ih => exact ih
  | itemSplat hstar _ ih => exact (Meets.skip _ (Cursor.advances_of_star hstar)).trans ih
  | itemKeyword _ hword _ ih =>
      exact (Meets.skip _ (Cursor.advances_of_keyword? hword)).trans ih
  | itemPositional _ _ _ ih => exact ih
  | itemEntry _ hcolon _ ihkey ihvalue =>
      exact ihkey.trans
        ((Meets.skip _ (Cursor.advances_of_take? hcolon)).trans (ihvalue.behind _))
  | tupleSingle _ _ ih => exact ih
  | tuple _ _ _ ihfirst ihothers => exact (ihfirst.trans (ihothers.behind _)).build rfl rfl
  | tupleTailStop => exact .refl _ _
  | tupleTailComma hcomma _ => exact Meets.skip _ (Cursor.advances_of_take? hcomma)
  | tupleTailItem hcomma _ _ _ ihfirst ihothers =>
      exact (Meets.skip _ (Cursor.advances_of_take? hcomma)).trans
        (ihfirst.trans (ihothers.behind _))

end Parser

end TemplateVariables
