import TemplateVariables.Proofs.Expr.Progress
import TemplateVariables.Proofs.Nesting

/-!
# Spans of expressions

The lexemes that are left stand in a row behind the last one that was read.  What a reader
makes of them stands in a row too, behind everything that was read before: a tail goes on
with the value in front of it, and brackets enclose what is read between them.
-/

namespace TemplateVariables

open Text

namespace Cursor

/-- The lexemes that are left mark characters of the source and stand in a row between the
end of the last lexeme and the given offset. -/
structure Laid (source : List Char) (high : Nat) (cursor : Cursor) : Prop where
  marks : ∀ lexeme ∈ cursor.rest, lexeme.span.Marks source
  inOrder : Span.InOrder cursor.lastStop (cursor.rest.map Lexeme.span) high
  edge : Edge source cursor.lastStop

/-- No lexeme that is left begins before the offset. -/
def Behind (low : Nat) (cursor : Cursor) : Prop :=
  ∀ lexeme ∈ cursor.rest.head?, low ≤ lexeme.span.start.toNat

theorem spanFrom_eq {cursor : Cursor} {start : Span} (hstart : start.stop ≤ cursor.lastStop) :
    cursor.spanFrom start = Span.ofBounds start.start.toNat cursor.lastStop := by
  rw [spanFrom, Nat.max_eq_left hstart]

variable {source : List Char} {high low low' : Nat} {cursor middle next : Cursor}

theorem Behind.mono (hbehind : cursor.Behind low) (hle : low' ≤ low) : cursor.Behind low' :=
  fun lexeme hlexeme => Nat.le_trans hle (hbehind lexeme hlexeme)

theorem Laid.behind (hlaid : cursor.Laid source high) : cursor.Behind cursor.lastStop := by
  obtain ⟨lexemes, lastStop⟩ := cursor
  cases lexemes with
  | nil =>
      intro lexeme hlexeme
      cases hlexeme
  | cons first others =>
      intro lexeme hlexeme
      obtain rfl : first = lexeme := Option.some.inj hlexeme
      exact hlaid.inOrder.1

theorem Laid.lastStop_le_high (hlaid : cursor.Laid source high) : cursor.lastStop ≤ high :=
  hlaid.inOrder.le

section Next

variable {lexeme : Lexeme} {hsize : next.size < cursor.size}
  (hnext : cursor.next? = some ⟨lexeme, next, hsize⟩)

include hnext

theorem Behind.le_start (hbehind : cursor.Behind low) : low ≤ lexeme.span.start.toNat := by
  apply hbehind
  rw [(rest_of_next? hnext).1]
  rfl

theorem Laid.marks_of_next? (hlaid : cursor.Laid source high) : lexeme.span.Marks source := by
  apply hlaid.marks
  rw [(rest_of_next? hnext).1]
  exact List.mem_cons_self

theorem Laid.step (hlimit : byteLength source ≤ Span.limit) (hlaid : cursor.Laid source high) :
    next.Laid source high := by
  obtain ⟨hrest, hstop⟩ := rest_of_next? hnext
  have hmarks := hlaid.marks
  have hinOrder := hlaid.inOrder
  rw [hrest] at hmarks hinOrder
  refine ⟨fun other hother => hmarks other (List.mem_cons_of_mem lexeme hother), ?_, ?_⟩
  · rw [hstop]
    exact hinOrder.2
  · rw [hstop]
    exact (hmarks lexeme List.mem_cons_self).edge_stop hlimit

end Next

section Advances

variable (hlimit : byteLength source ≤ Span.limit)

include hlimit

theorem Laid.advances (hlaid : cursor.Laid source high) (hadvances : cursor.Advances next) :
    next.Laid source high := by
  induction hadvances with
  | refl => exact hlaid
  | step hnext _ ih => exact ih (hlaid.step hnext hlimit)

theorem Laid.lastStop_le (hlaid : cursor.Laid source high) (hadvances : cursor.Advances next) :
    cursor.lastStop ≤ next.lastStop := by
  induction hadvances with
  | refl => exact Nat.le_refl _
  | step hnext _ ih =>
      have hstart := hlaid.behind.le_start hnext
      have hlt := (hlaid.marks_of_next? hnext).start_lt_stop hlimit
      have hrest := ih (hlaid.step hnext hlimit)
      rw [(rest_of_next? hnext).2] at hrest
      omega

/-- Adjacent strings make one span, from the first of them to the last. -/
theorem Laid.moreStrings {text whole : String} {span wholeSpan : Span}
    {hsize : next.size < cursor.size + 1} (hlaid : cursor.Laid source high)
    (hspan : span.Marks source) (hstop : span.stop = cursor.lastStop)
    (hmore : cursor.moreStrings text span = ⟨(whole, wholeSpan), next, hsize⟩) :
    wholeSpan.Marks source ∧ wholeSpan.start.toNat = span.start.toNat ∧
      wholeSpan.stop = next.lastStop := by
  fun_induction Cursor.moreStrings text span cursor generalizing next with
  | case1 text span cursor more moreSpan afterMore _ hnext result after hafter hrec ih =>
      cases hmore
      have hstart := hlaid.behind.le_start hnext
      have hmarks := hlaid.marks_of_next? hnext
      have hlt := hspan.start_lt_stop hlimit
      have hmoreLt := hmarks.start_lt_stop hlimit
      dsimp only at hstart hmarks hmoreLt
      obtain ⟨hcover, hcoverStart, hcoverStop⟩ :=
        Span.marks_ofBounds hlimit hspan.edge_start (hmarks.edge_stop hlimit) (by omega)
      rw [← Span.cover_eq_of_le (by omega)] at hcover hcoverStart hcoverStop
      obtain ⟨hwhole, hwholeStart, hwholeStop⟩ :=
        ih (hlaid.step hnext hlimit) hcover (by rw [hcoverStop, (rest_of_next? hnext).2]) hrec
      exact ⟨hwhole, hwholeStart.trans hcoverStart, hwholeStop⟩
  | case2 =>
      cases hmore
      exact ⟨hspan, rfl, hstop⟩

theorem Laid.behind_advances (hlaid : cursor.Laid source high) (hadvances : cursor.Advances next)
    (hlow : low ≤ cursor.lastStop) : next.Behind low :=
  (hlaid.advances hlimit hadvances).behind.mono
    (Nat.le_trans hlow (hlaid.lastStop_le hlimit hadvances))

/-! ## Trees up to the last lexeme -/

open Subtree

variable {tree base : Subtree} {trees others : List Subtree}

theorem Laid.stretch (hlaid : cursor.Laid source high) (hadvances : cursor.Advances next)
    (htrees : Row source low trees cursor.lastStop) : Row source low trees next.lastStop :=
  htrees.mono_high (hlaid.lastStop_le hlimit hadvances)

theorem Laid.grow (hnext : next.Laid source high) (hbase : Row source low [base] middle.lastStop)
    (hothers : Row source middle.lastStop others next.lastStop)
    (hchildren : tree.children = base :: others) (hspan : tree.span = next.spanFrom base.span) :
    Row source low [tree] next.lastStop := by
  have hstop := Nat.le_trans hbase.single.2.2 hothers.le
  rw [spanFrom_eq hstop] at hspan
  exact Row.grow hlimit hbase hothers hchildren hspan hnext.edge

theorem Laid.enclose {opened : Span} (hnext : next.Laid source high)
    (hopened : opened.Marks source) (hlow : low ≤ opened.start.toNat)
    (hstop : opened.stop ≤ next.lastStop)
    (htrees : Row source opened.start.toNat trees next.lastStop)
    (hchildren : tree.children = trees) (hspan : tree.span = next.spanFrom opened) :
    Row source low [tree] next.lastStop := by
  have hlt := hopened.start_lt_stop hlimit
  rw [spanFrom_eq hstop] at hspan
  exact (Row.enclose hlimit htrees hchildren hspan hopened.edge_start hnext.edge
    (by omega)).mono_low hlow

theorem Laid.bracket {opened : Span} (hnext : next.Laid source high)
    (hopened : opened.Marks source) (hlow : low ≤ opened.start.toNat)
    (hstop : opened.stop ≤ cursor.lastStop)
    (htrees : Row source cursor.lastStop trees next.lastStop) (hchildren : tree.children = trees)
    (hspan : tree.span = next.spanFrom opened) : Row source low [tree] next.lastStop := by
  have hinside := htrees.mono_low (Nat.le_trans opened.start_le_stop hstop)
  exact hnext.enclose hlimit hopened hlow (Nat.le_trans hstop htrees.le) hinside hchildren hspan

/-- A tree is read from at least one lexeme. -/
theorem Advances.exists_next? (hadvances : cursor.Advances next)
    (htree : Row source cursor.lastStop [tree] next.lastStop) :
    ∃ lexeme middle hsize, cursor.next? = some ⟨lexeme, middle, hsize⟩ ∧
      middle.Advances next := by
  cases hadvances with
  | refl =>
      obtain ⟨hmarks, hstart, hstop⟩ := htree.single
      have hlt := hmarks.start_lt_stop hlimit
      omega
  | step hnext hrest => exact ⟨_, _, _, hnext, hrest⟩

end Advances

end Cursor

/-! ## The trees that are read -/

namespace Parser

def Item.trees : Item → List Subtree
  | .expr value => [.expr value]
  | .argument arg => [.expr arg.value]
  | .entry (key, value) => [.expr key, .expr value]

/-- The trees of the result. -/
def Form.trees : Form → List Subtree
  | .expression _ value => [.expr value]
  | .operation _ value => [.expr value]
  | .operatorTail _ _ value => [.expr value]
  | .conditionalTail _ value => [.expr value]
  | .test _ value => [.expr value]
  | .signed value => [.expr value]
  | .operand value => [.expr value]
  | .primary value => [.expr value]
  | .accessTail _ value => [.expr value]
  | .filterTail _ value => [.expr value]
  | .filterCall call => [.filter call]
  | .arguments? args => (args.getD []).map (.expr ·.value)
  | .subscriptIndex value => [.expr value]
  | .sliceTail _ _ value => [.expr value]
  | .slicePart part => part.toList.map .expr
  | .group _ value => [.expr value]
  | .groupTail items => items.map .expr
  | .series _ items => items.flatMap Item.trees
  | .seriesTail _ items => items.flatMap Item.trees
  | .item value => value.trees
  | .tuple _ value => [.expr value]
  | .tupleTail _ items => items.map .expr

theorem Item.flatMap_trees_expr (items : List Expr) :
    (items.map Item.expr).flatMap Item.trees = items.map .expr := by
  induction items with
  | nil => rfl
  | cons item items ih => exact congrArg (Subtree.expr item :: ·) ih

theorem Item.flatMap_trees_argument (args : List Argument) :
    (args.map Item.argument).flatMap Item.trees = args.map (.expr ·.value) := by
  induction args with
  | nil => rfl
  | cons arg args ih => exact congrArg (Subtree.expr arg.value :: ·) ih

theorem Item.flatMap_trees_entry (entries : List (Expr × Expr)) :
    (entries.map Item.entry).flatMap Item.trees =
      entries.flatMap fun entry => [.expr entry.1, .expr entry.2] := by
  induction entries with
  | nil => rfl
  | cons entry entries ih => exact congrArg ([.expr entry.1, .expr entry.2] ++ ·) ih

/-- Where a reader may be asked for a result behind the offset `low`.  A tail goes on with
what stands before it, which is behind the offset already. -/
def Form.Ready (source : List Char) (low : Nat) (cursor : Cursor) : Form → Prop
  | .operatorTail _ base _ => Subtree.Row source low [.expr base] cursor.lastStop
  | .conditionalTail base _ => Subtree.Row source low [.expr base] cursor.lastStop
  | .test base _ => Subtree.Row source low [.expr base] cursor.lastStop
  | .accessTail base _ => Subtree.Row source low [.expr base] cursor.lastStop
  | .filterTail base _ => Subtree.Row source low [.expr base] cursor.lastStop
  | .group opened _ =>
      low ≤ opened.start.toNat ∧ opened.Marks source ∧ opened.stop ≤ cursor.lastStop
  | .sliceTail start opened _ =>
      low ≤ opened.start.toNat ∧ opened.Marks source ∧ opened.stop ≤ cursor.lastStop ∧
        Subtree.Row source opened.start.toNat (start.toList.map .expr) cursor.lastStop
  | .arguments? _ | .slicePart _ | .groupTail _ | .series _ _ | .seriesTail _ _ | .item _
  | .tupleTail _ _ => low ≤ cursor.lastStop
  | _ => cursor.Behind low

theorem leaf_of_ofWord? {word : String} {span : Span} {value : Expr}
    (hword : Expr.ofWord? word span = some value) : value.children = [] ∧ value.span = span := by
  unfold Expr.ofWord? at hword
  repeat' split at hword
  all_goals cases hword
  all_goals exact ⟨rfl, rfl⟩

open Subtree

/-- What a reader makes of the lexemes stands in a row up to the last of them, and everything
inside it is nested. -/
theorem Reads.nests {source : List Char} (hlimit : byteLength source ≤ Span.limit)
    {tagEnd : Span} {form : Form} {cursor next : Cursor}
    (hreads : Reads tagEnd form cursor next) {high : Nat} (hlaid : cursor.Laid source high)
    {low : Nat} (hready : form.Ready source low cursor) :
    Row source low form.trees next.lastStop := by
  induction hreads generalizing low with
  | above _ ih => exact ih hlaid hready
  | full hoperation _ ihoperation ihtail =>
      exact ihtail (hlaid.advances hlimit hoperation.advances) (ihoperation hlaid hready)
  | operation hsigned _ ihsigned ihtail =>
      exact ihtail (hlaid.advances hlimit hsigned.advances) (ihsigned hlaid hready)
  | operatorStop => exact hready
  | operatorLoose => exact hready
  | operatorTest hconnective _ htest _ ihtest ihtail =>
      have hop := Cursor.advances_of_connective hconnective
      have hafter := hlaid.advances hlimit hop
      have htested := ihtest hafter (hlaid.stretch hlimit hop hready)
      exact ihtail (hafter.advances hlimit htest.advances) htested
  | operatorJoin hconnective _ hright _ ihright ihtail =>
      have hop := Cursor.advances_of_connective hconnective
      have hafter := hlaid.advances hlimit hop
      have hleft := hlaid.stretch hlimit hop hready
      exact ihtail (hafter.advances hlimit hright.advances)
        (Row.join hlimit hleft (ihright hafter hafter.behind) rfl rfl)
  | conditionalStop => exact hready
  | conditionalThen hif hcondition _ _ ihcondition ihtail =>
      have hifAdvances := Cursor.advances_of_take? hif
      have hafterIf := hlaid.advances hlimit hifAdvances
      have hafter := hafterIf.advances hlimit hcondition.advances
      exact ihtail hafter (hafter.grow hlimit (hlaid.stretch hlimit hifAdvances hready)
        (ihcondition hafterIf hafterIf.behind) rfl rfl)
  | conditionalElse hif hcondition helse hotherwise _ ihcondition ihotherwise ihtail =>
      have hifAdvances := Cursor.advances_of_take? hif
      have helseAdvances := Cursor.advances_of_take? helse
      have hafterIf := hlaid.advances hlimit hifAdvances
      have hafterCondition := hafterIf.advances hlimit hcondition.advances
      have hafterElse := hafterCondition.advances hlimit helseAdvances
      have hafter := hafterElse.advances hlimit hotherwise.advances
      have hconditionRow := hafterCondition.stretch hlimit helseAdvances
        (ihcondition hafterIf hafterIf.behind)
      have hothers := hconditionRow.cons (ihotherwise hafterElse hafterElse.behind)
      exact ihtail hafter
        (hafter.grow hlimit (hlaid.stretch hlimit hifAdvances hready) hothers rfl rfl)
  | testArguments hnot hname hargs ihargs =>
      have hnameAdvances := (Cursor.advances_of_negates hnot).trans
        (Cursor.advances_of_expectDotted hname)
      have hafterName := hlaid.advances hlimit hnameAdvances
      exact (hafterName.advances hlimit hargs.advances).grow hlimit
        (hlaid.stretch hlimit hnameAdvances hready) (ihargs hafterName (Nat.le_refl _)) rfl rfl
  | testBare hnot hname hargs _ hhead htail _ ihhead ihtail =>
      have hargsAdvances := ((Cursor.advances_of_negates hnot).trans
        (Cursor.advances_of_expectDotted hname)).trans hargs.advances
      have hafterArgs := hlaid.advances hlimit hargsAdvances
      have hafterHead := hafterArgs.advances hlimit hhead.advances
      have harg := ihtail hafterHead (ihhead hafterArgs hafterArgs.behind)
      exact (hafterHead.advances hlimit htail.advances).grow hlimit
        (hlaid.stretch hlimit hargsAdvances hready) harg rfl rfl
  | testPlain hnot hname hargs _ _ =>
      have hargsAdvances := ((Cursor.advances_of_negates hnot).trans
        (Cursor.advances_of_expectDotted hname)).trans hargs.advances
      exact (hlaid.advances hlimit hargsAdvances).grow hlimit
        (hlaid.stretch hlimit hargsAdvances hready) (Row.nil (Nat.le_refl _)) rfl rfl
  | signedOperator hop _ ih =>
      have hnext := Cursor.next?_of_unaryOp? hop
      have hafter := hlaid.step hnext hlimit
      have hinner := ih hafter hafter.behind
      rw [(Cursor.rest_of_next? hnext).2] at hinner
      exact Row.wrap hlimit (hlaid.marks_of_next? hnext) (hready.le_start hnext) hinner rfl rfl
  | signedOperand _ _ ih => exact ih hlaid hready
  | operand hhead haccess _ ihhead ihaccess ihfilters =>
      have hafterHead := hlaid.advances hlimit hhead.advances
      exact ihfilters (hafterHead.advances hlimit haccess.advances)
        (ihaccess hafterHead (ihhead hlaid hready))
  | word hnext hword =>
      obtain ⟨hchildren, rfl⟩ := leaf_of_ofWord? hword
      exact Row.leaf (hlaid.marks_of_next? hnext) hchildren (hready.le_start hnext)
        (Nat.le_of_eq (Cursor.rest_of_next? hnext).2.symm)
  | number hnext =>
      exact Row.leaf (hlaid.marks_of_next? hnext) rfl (hready.le_start hnext)
        (Nat.le_of_eq (Cursor.rest_of_next? hnext).2.symm)
  | str hnext hmore =>
      obtain ⟨hwhole, hstart, hstop⟩ := (hlaid.step hnext hlimit).moreStrings hlimit
        (hlaid.marks_of_next? hnext) (Cursor.rest_of_next? hnext).2.symm hmore
      refine Row.leaf hwhole rfl ?_ (Nat.le_of_eq hstop)
      exact Nat.le_trans (hready.le_start hnext) (Nat.le_of_eq hstart.symm)
  | group hopen _ ih =>
      exact ih (hlaid.step hopen hlimit) ⟨hready.le_start hopen, hlaid.marks_of_next? hopen,
        Nat.le_of_eq (Cursor.rest_of_next? hopen).2.symm⟩
  | list hopen hitems ih =>
      have hinside := hlaid.step hopen hlimit
      have hrow := ih hinside (Nat.le_refl _)
      rw [Form.trees, Item.flatMap_trees_expr] at hrow
      exact (hinside.advances hlimit hitems.advances).bracket hlimit
        (hlaid.marks_of_next? hopen) (hready.le_start hopen)
        (Nat.le_of_eq (Cursor.rest_of_next? hopen).2.symm) hrow rfl rfl
  | dict hopen hentries ih =>
      have hinside := hlaid.step hopen hlimit
      have hrow := ih hinside (Nat.le_refl _)
      rw [Form.trees, Item.flatMap_trees_entry] at hrow
      exact (hinside.advances hlimit hentries.advances).bracket hlimit
        (hlaid.marks_of_next? hopen) (hready.le_start hopen)
        (Nat.le_of_eq (Cursor.rest_of_next? hopen).2.symm) hrow rfl rfl
  | accessStop => exact hready
  | accessAttribute hdot hname _ ihtail =>
      have hnameAdvances := (Cursor.advances_of_take? hdot).trans
        (Cursor.advances_of_attributeName hname)
      have hafter := hlaid.advances hlimit hnameAdvances
      exact ihtail hafter (hafter.grow hlimit (hlaid.stretch hlimit hnameAdvances hready)
        (Row.nil (Nat.le_refl _)) rfl rfl)
  | accessSubscript _ hopen hindex hclose _ ihindex ihtail =>
      have hopenAdvances := Cursor.advances_of_take? hopen
      have hcloseAdvances := Cursor.advances_of_take? hclose
      have hinside := hlaid.advances hlimit hopenAdvances
      have hafterIndex := hinside.advances hlimit hindex.advances
      have hclosed := hafterIndex.advances hlimit hcloseAdvances
      have hindexRow := hafterIndex.stretch hlimit hcloseAdvances
        (ihindex hinside hinside.behind)
      exact ihtail hclosed
        (hclosed.grow hlimit (hlaid.stretch hlimit hopenAdvances hready) hindexRow rfl rfl)
  | accessCall _ _ hopen hargs _ ihargs ihtail =>
      have hopenAdvances := Cursor.advances_of_take? hopen
      have hinside := hlaid.advances hlimit hopenAdvances
      have hclosed := hinside.advances hlimit hargs.advances
      have hrow := ihargs hinside (Nat.le_refl _)
      rw [Form.trees, Item.flatMap_trees_argument] at hrow
      exact ihtail hclosed
        (hclosed.grow hlimit (hlaid.stretch hlimit hopenAdvances hready) hrow rfl rfl)
  | filterStop => exact hready
  | filterNext hbar hcall _ ihcall ihtail =>
      have hbarAdvances := Cursor.advances_of_take? hbar
      have hafterBar := hlaid.advances hlimit hbarAdvances
      have hbase := hlaid.stretch hlimit hbarAdvances hready
      exact ihtail (hafterBar.advances hlimit hcall.advances)
        (Row.join hlimit hbase (ihcall hafterBar hafterBar.behind) rfl rfl)
  | filterCall hname hargs ihargs =>
      obtain ⟨word, middle, _, hword, hmore⟩ := Cursor.exists_name?_of_expectDotted hname
      have hnext := Cursor.next?_of_name? hword
      have hmiddle := hlaid.step hnext hlimit
      have hafterName := hmiddle.advances hlimit hmore
      have hrow := (ihargs hafterName (Nat.le_refl _)).mono_low
        (hmiddle.lastStop_le hlimit hmore)
      exact (hafterName.advances hlimit hargs.advances).bracket hlimit
        (hlaid.marks_of_next? hnext) (hready.le_start hnext)
        (Nat.le_of_eq (Cursor.rest_of_next? hnext).2.symm) hrow rfl rfl
  | argumentsNone => exact Row.nil hready
  | argumentsSome hopen _ ih =>
      have hopenAdvances := Cursor.advances_of_take? hopen
      have hrow := ih (hlaid.advances hlimit hopenAdvances)
        (Nat.le_trans hready (hlaid.lastStop_le hlimit hopenAdvances))
      rwa [Form.trees, Item.flatMap_trees_argument] at hrow
  | index _ _ _ ih => exact ih hlaid hready
  | @sliceFromStart value span cursor afterColon next _ hcolon _ ih =>
      have hnext := Cursor.next?_of_take? hcolon
      have hopened : (cursor.rest.head?.map (·.span)).getD tagEnd = span := by
        rw [(Cursor.rest_of_next? hnext).1]
        rfl
      have hstop := (Cursor.rest_of_next? hnext).2
      have hempty := Nat.le_trans span.start_le_stop (Nat.le_of_eq hstop.symm)
      rw [hopened] at ih
      exact ih (hlaid.step hnext hlimit) ⟨hready.le_start hnext, hlaid.marks_of_next? hnext,
        Nat.le_of_eq hstop.symm, Row.nil hempty⟩
  | @sliceFrom start value span cursor afterStart afterColon next _ _ hstart hcolon _
      ihstart ihtail =>
      obtain ⟨lexeme, middle, _, hnext, hrest⟩ :=
        hstart.advances.exists_next? hlimit (ihstart hlaid hlaid.behind)
      have hopened : (cursor.rest.head?.map (·.span)).getD tagEnd = lexeme.span := by
        rw [(Cursor.rest_of_next? hnext).1]
        rfl
      have hfront : cursor.Behind lexeme.span.start.toNat := by
        intro other hother
        rw [(Cursor.rest_of_next? hnext).1] at hother
        obtain rfl : lexeme = other := Option.some.inj hother
        exact Nat.le_refl _
      have hcolonAdvances := Cursor.advances_of_take? hcolon
      have hafterStart := hlaid.advances hlimit hstart.advances
      have hopenedStop := (hlaid.step hnext hlimit).lastStop_le hlimit
        (hrest.trans hcolonAdvances)
      rw [(Cursor.rest_of_next? hnext).2] at hopenedStop
      rw [hopened] at ihtail
      exact ihtail (hafterStart.advances hlimit hcolonAdvances) ⟨hready.le_start hnext,
        hlaid.marks_of_next? hnext, hopenedStop,
        hafterStart.stretch hlimit hcolonAdvances (ihstart hlaid hfront)⟩
  | sliceStep hstop hcolon hstep ihstop ihstep =>
      obtain ⟨hlow, hmarks, hopened, hstart⟩ := hready
      have hcolonAdvances := Cursor.advances_of_take? hcolon
      have hafterStop := hlaid.advances hlimit hstop.advances
      have hafterColon := hafterStop.advances hlimit hcolonAdvances
      have hstopRow := hafterStop.stretch hlimit hcolonAdvances (ihstop hlaid (Nat.le_refl _))
      have hstepRow := ihstep hafterColon (Nat.le_refl _)
      have hparts := (hstart.append hstopRow).append hstepRow
      exact (hafterColon.advances hlimit hstep.advances).enclose hlimit hmarks hlow
        (Nat.le_trans hopened (Nat.le_trans hstopRow.le hstepRow.le)) hparts
        (by simp [children, Expr.children, Form.trees]) rfl
  | sliceStop hstop _ ihstop =>
      obtain ⟨hlow, hmarks, hopened, hstart⟩ := hready
      have hstopRow := ihstop hlaid (Nat.le_refl _)
      exact (hlaid.advances hlimit hstop.advances).enclose hlimit hmarks hlow
        (Nat.le_trans hopened hstopRow.le) (hstart.append hstopRow)
        (by simp [children, Expr.children, Form.trees]) rfl
  | partNone => exact Row.nil hready
  | partSome _ _ ih => exact ih hlaid (hlaid.behind.mono hready)
  | groupEmpty hclose =>
      obtain ⟨hlow, hmarks, hstop⟩ := hready
      have hcloseAdvances := Cursor.advances_of_take? hclose
      exact (hlaid.advances hlimit hcloseAdvances).bracket hlimit hmarks hlow hstop
        (Row.nil (hlaid.lastStop_le hlimit hcloseAdvances)) rfl rfl
  | groupTuple _ hfirst _ hothers hclose ihfirst ihothers =>
      obtain ⟨hlow, hmarks, hstop⟩ := hready
      have hcloseAdvances := Cursor.advances_of_take? hclose
      have hafterFirst := hlaid.advances hlimit hfirst.advances
      have hafterItems := hafterFirst.advances hlimit hothers.advances
      have hitems := (ihfirst hlaid hlaid.behind).cons (ihothers hafterFirst (Nat.le_refl _))
      exact (hafterItems.advances hlimit hcloseAdvances).bracket hlimit hmarks hlow hstop
        (hafterItems.stretch hlimit hcloseAdvances hitems) rfl rfl
  | groupSingle _ hvalue _ hclose ih =>
      obtain ⟨hlow, hmarks, hstop⟩ := hready
      have hopened := hmarks.start_lt_stop hlimit
      exact (hlaid.advances hlimit hvalue.advances).stretch hlimit
        (Cursor.advances_of_take? hclose) (ih hlaid (hlaid.behind.mono (by omega)))
  | groupTailStop => exact Row.nil hready
  | groupTailComma hcomma _ =>
      exact Row.nil
        (Nat.le_trans hready (hlaid.lastStop_le hlimit (Cursor.advances_of_take? hcomma)))
  | groupTailItem hcomma _ hfirst _ ihfirst ihothers =>
      have hcommaAdvances := Cursor.advances_of_take? hcomma
      have hafterComma := hlaid.advances hlimit hcommaAdvances
      have hfirstRow := ihfirst hafterComma (hlaid.behind_advances hlimit hcommaAdvances hready)
      exact hfirstRow.cons
        (ihothers (hafterComma.advances hlimit hfirst.advances) (Nat.le_refl _))
  | seriesEmpty _ hclose =>
      exact Row.nil
        (Nat.le_trans hready (hlaid.lastStop_le hlimit (Cursor.advances_of_take? hclose)))
  | series _ _ hfirst hothers hclose ihfirst ihothers =>
      have hafterFirst := hlaid.advances hlimit hfirst.advances
      have hitems := (ihfirst hlaid hready).append (ihothers hafterFirst (Nat.le_refl _))
      exact (hafterFirst.advances hlimit hothers.advances).stretch hlimit
        (Cursor.advances_of_take? hclose) hitems
  | seriesTailStop => exact Row.nil hready
  | seriesTailComma _ hcomma _ =>
      exact Row.nil
        (Nat.le_trans hready (hlaid.lastStop_le hlimit (Cursor.advances_of_take? hcomma)))
  | seriesTailItem _ hcomma _ hfirst _ ihfirst ihothers =>
      have hcommaAdvances := Cursor.advances_of_take? hcomma
      have hafterComma := hlaid.advances hlimit hcommaAdvances
      have hfirstRow := ihfirst hafterComma
        (Nat.le_trans hready (hlaid.lastStop_le hlimit hcommaAdvances))
      exact hfirstRow.append
        (ihothers (hafterComma.advances hlimit hfirst.advances) (Nat.le_refl _))
  | itemExpr _ ih => exact ih hlaid (hlaid.behind.mono hready)
  | itemSplat hstar _ ih =>
      have hstarAdvances := Cursor.advances_of_star hstar
      exact ih (hlaid.advances hlimit hstarAdvances)
        (hlaid.behind_advances hlimit hstarAdvances hready)
  | itemKeyword _ hword _ ih =>
      have hwordAdvances := Cursor.advances_of_keyword? hword
      exact ih (hlaid.advances hlimit hwordAdvances)
        (hlaid.behind_advances hlimit hwordAdvances hready)
  | itemPositional _ _ _ ih => exact ih hlaid (hlaid.behind.mono hready)
  | itemEntry hkey hcolon _ ihkey ihvalue =>
      have hcolonAdvances := Cursor.advances_of_take? hcolon
      have hafterKey := hlaid.advances hlimit hkey.advances
      have hafterColon := hafterKey.advances hlimit hcolonAdvances
      have hkeyRow := hafterKey.stretch hlimit hcolonAdvances
        (ihkey hlaid (hlaid.behind.mono hready))
      exact hkeyRow.cons (ihvalue hafterColon hafterColon.behind)
  | tupleSingle _ _ ih => exact ih hlaid hready
  | tuple hfirst _ hothers ihfirst ihothers =>
      have hafterFirst := hlaid.advances hlimit hfirst.advances
      exact (hafterFirst.advances hlimit hothers.advances).grow hlimit (ihfirst hlaid hready)
        (ihothers hafterFirst (Nat.le_refl _)) rfl rfl
  | tupleTailStop => exact Row.nil hready
  | tupleTailComma hcomma _ =>
      exact Row.nil
        (Nat.le_trans hready (hlaid.lastStop_le hlimit (Cursor.advances_of_take? hcomma)))
  | tupleTailItem hcomma _ hfirst _ ihfirst ihothers =>
      have hcommaAdvances := Cursor.advances_of_take? hcomma
      have hafterComma := hlaid.advances hlimit hcommaAdvances
      have hfirstRow := ihfirst hafterComma (hlaid.behind_advances hlimit hcommaAdvances hready)
      exact hfirstRow.cons
        (ihothers (hafterComma.advances hlimit hfirst.advances) (Nat.le_refl _))

end Parser

end TemplateVariables
