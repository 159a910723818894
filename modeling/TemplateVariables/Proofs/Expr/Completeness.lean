import TemplateVariables.Proofs.Expr.Rules

/-!
# What the rules allow is read

The rules of reading leave a reader no choice: whatever they derive is what the
reader finds.  So a reading can be put together from rules and need not be
computed.
-/

namespace TemplateVariables

/-- The reading succeeds with a value, and the lexemes after `next` are left. -/
def Gives {α : Type} {bound : Nat} (reading : Reading α bound) (value : α) (next : Cursor) :
    Prop :=
  ∃ hsize, reading = .ok ⟨value, next, hsize⟩

theorem Gives.ok {α : Type} {bound : Nat} {value : α} {next : Cursor}
    {hsize : next.size < bound} :
    Gives (Except.ok ⟨value, next, hsize⟩ : Reading α bound) value next :=
  ⟨hsize, rfl⟩

theorem Gives.bind {α β : Type} {bound bound' : Nat} {reading : Reading α bound} {value : α}
    {result : β} {middle next : Cursor} {continuation : Step α bound → Reading β bound'}
    (hreading : Gives reading value middle)
    (hcontinuation : ∀ hsize, Gives (continuation ⟨value, middle, hsize⟩) result next) :
    Gives (reading >>= continuation) result next := by
  obtain ⟨hsize, rfl⟩ := hreading
  exact hcontinuation hsize

theorem Gives.of_eq {α : Type} {bound : Nat} {reading : Reading α bound} {value : α}
    {next : Cursor} {hsize : next.size < bound} (hreading : reading = .ok ⟨value, next, hsize⟩) :
    Gives reading value next :=
  ⟨hsize, hreading⟩

theorem Gives.of_expect {cursor next : Cursor} {tagEnd span : Span} {kind : LexemeKind}
    {hsize : next.size < cursor.size}
    (htake : cursor.take? kind = some ⟨span, next, hsize⟩) :
    Gives (cursor.expect tagEnd kind) span next := by
  unfold Cursor.expect
  rw [htake]
  exact Gives.ok

theorem Gives.of_expectInside {cursor next : Cursor} {tagEnd span opened : Span}
    {bracket mark : Punct} {hsize : next.size < cursor.size}
    (htake : cursor.take? (.punct mark) = some ⟨span, next, hsize⟩) :
    Gives (cursor.expectInside tagEnd bracket opened mark) span next := by
  have hsome : cursor.rest ≠ [] := by
    rw [ne_eq, Cursor.rest_eq_nil_iff, Cursor.kinds_of_take? htake]
    exact List.cons_ne_nil _ _
  rw [Cursor.expectInside, if_neg hsome]
  exact Gives.of_expect htake

theorem Cursor.kind?_of_take? {cursor next : Cursor} {kind : LexemeKind} {span : Span}
    {hsize : next.size < cursor.size}
    (htake : cursor.take? kind = some ⟨span, next, hsize⟩) : cursor.kind? = some kind := by
  rw [Cursor.kind?_eq_head?, Cursor.kinds_of_take? htake, List.head?_cons]

namespace Parser

variable {tagEnd : Span}

/-- The reader of items finds the item. -/
def Item.Found (tagEnd : Span) : Item → Cursor → Cursor → Prop
  | .expr value, cursor, next => Gives (Expr.read tagEnd .full cursor) value next
  | .argument arg, cursor, next => ∀ bound hbound,
      Gives (Parser.argument (reader tagEnd bound) cursor hbound) arg next
  | .entry pair, cursor, next => ∀ bound hbound,
      Gives (Parser.entry tagEnd (reader tagEnd bound) cursor hbound) pair next

/-- Whatever items are to be found, `item` finds them. -/
def FindsItems (tagEnd : Span) {α : Type} {bound : Nat} (toItem : α → Item)
    (item : (cursor : Cursor) → cursor.size < bound → Reading α cursor.size) : Prop :=
  ∀ value cursor next, (toItem value).Found tagEnd cursor next →
    ∀ hbound, Gives (item cursor hbound) value next

/-- The reader that the form asks for finds the result of the form. -/
def Form.Found (tagEnd : Span) : Form → Cursor → Cursor → Prop
  | .expression level value, cursor, next => Gives (Expr.read tagEnd level cursor) value next
  | .operation power value, cursor, next => ∀ bound hbound,
      Gives (Parser.operation tagEnd (reader tagEnd bound) power cursor hbound) value next
  | .operatorTail power left value, cursor, next => ∀ bound hbound,
      Gives (Parser.operatorTail tagEnd (reader tagEnd bound) power left cursor hbound) value next
  | .conditionalTail head value, cursor, next => ∀ bound hbound,
      Gives (Parser.conditionalTail (reader tagEnd bound) head cursor hbound) value next
  | .test tested value, cursor, next => ∀ bound hbound,
      Gives (Parser.test tagEnd (reader tagEnd bound) tested cursor hbound) value next
  | .signed value, cursor, next => ∀ bound hbound,
      Gives (Parser.signed tagEnd (reader tagEnd bound) cursor hbound) value next
  | .operand value, cursor, next => ∀ bound hbound,
      Gives (Parser.operand tagEnd (reader tagEnd bound) cursor hbound) value next
  | .primary value, cursor, next => ∀ bound hbound,
      Gives (Parser.primary tagEnd (reader tagEnd bound) cursor hbound) value next
  | .accessTail base value, cursor, next => ∀ bound hbound,
      Gives (Parser.accessTail tagEnd (reader tagEnd bound) base cursor hbound) value next
  | .filterTail base value, cursor, next => ∀ bound hbound,
      Gives (Parser.filterTail tagEnd (reader tagEnd bound) base cursor hbound) value next
  | .filterCall call, cursor, next => ∀ bound hbound,
      Gives (Parser.filterCall tagEnd (reader tagEnd bound) cursor hbound) call next
  | .arguments? args, cursor, next => ∀ bound hbound,
      Gives (Parser.arguments? tagEnd (reader tagEnd bound) cursor hbound) args next
  | .subscriptIndex value, cursor, next => ∀ bound hbound,
      Gives (Parser.subscriptIndex tagEnd (reader tagEnd bound) cursor hbound) value next
  | .sliceTail start opened value, cursor, next => ∀ bound hbound,
      Gives (Parser.sliceTail (reader tagEnd bound) start opened cursor hbound) value next
  | .slicePart part, cursor, next => ∀ bound hbound,
      Gives (Parser.slicePart (reader tagEnd bound) cursor hbound) part next
  | .group opened value, cursor, next => ∀ bound hbound,
      Gives (Parser.group tagEnd (reader tagEnd bound) opened cursor hbound) value next
  | .groupTail items, cursor, next => ∀ bound hbound,
      Gives (Parser.groupTail (reader tagEnd bound) cursor hbound) items next
  | .series closing items, cursor, next => ∀ (α : Type) (bound : Nat)
      (hbound : cursor.size < bound) (toItem : α → Item)
      (item : (cursor : Cursor) → cursor.size < bound → Reading α cursor.size)
      (opening : Punct) (opened : Span) (values : List α),
      FindsItems tagEnd toItem item → values.map toItem = items →
        Gives (Parser.series tagEnd item opening closing opened cursor hbound) values next
  | .seriesTail closing items, cursor, next => ∀ (α : Type) (bound : Nat)
      (hbound : cursor.size < bound) (toItem : α → Item)
      (item : (cursor : Cursor) → cursor.size < bound → Reading α cursor.size)
      (opening : Punct) (opened : Span) (values : List α),
      FindsItems tagEnd toItem item → values.map toItem = items →
        Gives (Parser.seriesTail tagEnd item opening closing opened cursor hbound) values next
  | .item value, cursor, next => value.Found tagEnd cursor next
  | .tuple level value, cursor, next => Gives (Expr.readTuple tagEnd level cursor) value next
  | .tupleTail level items, cursor, next =>
      Gives (Expr.readTupleTail tagEnd level cursor) items next

theorem findsItems_expr (bound : Nat) :
    FindsItems tagEnd .expr (reader tagEnd bound .full) :=
  fun _ _ _ hvalue _ => hvalue

theorem findsItems_argument (bound : Nat) :
    FindsItems tagEnd .argument (argument (reader tagEnd bound)) :=
  fun _ _ _ harg hbound => harg bound hbound

theorem findsItems_entry (bound : Nat) :
    FindsItems tagEnd .entry (entry tagEnd (reader tagEnd bound)) :=
  fun _ _ _ hpair hbound => hpair bound hbound

theorem Reads.found {form : Form} {cursor next : Cursor}
    (hreads : Reads tagEnd form cursor next) : form.Found tagEnd cursor next := by
  induction hreads with
  | above _ ih =>
      rw [Form.Found, Expr.read_above]
      exact ih _ _
  | full _ _ ihoperation ihtail =>
      rw [Form.Found, Expr.read]
      apply (ihoperation _ (Nat.le_refl _)).bind
      intro hmiddle
      exact (ihtail _ hmiddle).bind fun _ => .ok
  | operation _ _ ihsigned ihtail =>
      intro bound hbound
      exact (ihsigned bound hbound).bind fun _ => (ihtail bound _).bind fun _ => .ok
  | operatorStop hstop =>
      intro bound hbound
      rw [operatorTail, hstop]
      exact .ok
  | operatorLoose hconnective hloose =>
      intro bound hbound
      rw [operatorTail, hconnective]
      simp only [bind, Except.bind, hloose, if_true]
      exact .ok
  | operatorTest hconnective htight _ _ ihtest ihtail =>
      intro bound hbound
      rw [operatorTail, hconnective]
      simp only [bind, Except.bind, htight, if_false]
      exact (ihtest bound _).bind fun _ => (ihtail bound _).bind fun _ => .ok
  | operatorJoin hconnective htight _ _ ihright ihtail =>
      intro bound hbound
      rw [operatorTail, hconnective]
      simp only [bind, Except.bind, htight, if_false]
      exact ihright.bind fun _ => (ihtail bound _).bind fun _ => .ok
  | conditionalStop hif =>
      intro bound hbound
      rw [conditionalTail, hif]
      exact .ok
  | conditionalThen hif _ helse _ ihcondition ihtail =>
      intro bound hbound
      rw [conditionalTail, hif]
      apply ihcondition.bind
      intro hconditionSize
      simp only [helse]
      exact (ihtail bound _).bind fun _ => .ok
  | conditionalElse hif _ helse _ _ ihcondition ihotherwise ihtail =>
      intro bound hbound
      rw [conditionalTail, hif]
      apply ihcondition.bind
      intro hconditionSize
      simp only [helse]
      exact ihotherwise.bind fun _ => (ihtail bound _).bind fun _ => .ok
  | @testArguments _ _ _ negated _ _ _ _ _ _ hnot hname _ ihargs =>
      intro bound hbound
      rw [Parser.test]
      cases negated
      case' true => obtain ⟨_, _, hnot⟩ := hnot
      case' false => obtain ⟨hnot, rfl⟩ := hnot
      all_goals
        rw [hnot]
        apply (Gives.of_eq hname).bind
        intro hnameSize
        exact (ihargs bound _).bind fun _ => .ok
  | @testBare _ _ _ _ negated _ _ _ _ _ _ _ _ hnot hname _ hbare _ _ ihargs ihhead ihtail =>
      intro bound hbound
      rw [Parser.test]
      cases negated
      case' true => obtain ⟨_, _, hnot⟩ := hnot
      case' false => obtain ⟨hnot, rfl⟩ := hnot
      all_goals
        rw [hnot]
        apply (Gives.of_eq hname).bind
        intro hnameSize
        apply (ihargs bound _).bind
        intro hargsSize
        simp only [hbare, if_true]
        exact (ihhead bound _).bind fun _ => (ihtail bound _).bind fun _ => .ok
  | @testPlain _ _ negated _ _ _ _ _ _ hnot hname _ hbare ihargs =>
      intro bound hbound
      rw [Parser.test]
      cases negated
      case' true => obtain ⟨_, _, hnot⟩ := hnot
      case' false => obtain ⟨hnot, rfl⟩ := hnot
      all_goals
        rw [hnot]
        apply (Gives.of_eq hname).bind
        intro hnameSize
        apply (ihargs bound _).bind
        intro hargsSize
        simp only [hbare]
        exact .ok
  | signedOperator hop _ ih =>
      intro bound hbound
      rw [Parser.signed, hop]
      exact ih.bind fun _ => .ok
  | signedOperand hop _ ih =>
      intro bound hbound
      rw [Parser.signed, hop]
      exact ih bound hbound
  | operand _ _ _ ihhead ihaccess ihfilters =>
      intro bound hbound
      apply (ihhead bound hbound).bind
      intro hheadSize
      exact (ihaccess bound _).bind fun _ => (ihfilters bound _).bind fun _ => .ok
  | word hnext hword =>
      intro bound hbound
      rw [Parser.primary, hnext]
      simp only [hword]
      exact .ok
  | number hnext =>
      intro bound hbound
      rw [Parser.primary, hnext]
      exact .ok
  | str hnext hmore =>
      intro bound hbound
      rw [Parser.primary, hnext]
      simp only [hmore]
      exact .ok
  | group hopen _ ih =>
      intro bound hbound
      rw [Parser.primary, hopen]
      exact (ih bound _).bind fun _ => .ok
  | list hopen _ ih =>
      intro bound hbound
      rw [Parser.primary, hopen]
      exact (ih _ bound _ _ _ _ _ _ (findsItems_expr bound) rfl).bind fun _ => .ok
  | dict hopen _ ih =>
      intro bound hbound
      rw [Parser.primary, hopen]
      exact (ih _ bound _ _ _ _ _ _ (findsItems_entry bound) rfl).bind fun _ => .ok
  | accessStop hdot hlbracket hlparen =>
      intro bound hbound
      rw [accessTail, hdot, hlbracket, hlparen]
      exact .ok
  | accessAttribute hdot hname _ ihtail =>
      intro bound hbound
      rw [accessTail, hdot]
      apply (Gives.of_eq hname).bind
      intro hnameSize
      exact (ihtail bound _).bind fun _ => .ok
  | accessSubscript hdot hopen _ hclose _ ihindex ihtail =>
      intro bound hbound
      rw [accessTail, hdot, hopen]
      apply (ihindex bound _).bind
      intro hindexSize
      apply (Gives.of_expectInside hclose).bind
      intro hcloseSize
      exact (ihtail bound _).bind fun _ => .ok
  | accessCall hdot hlbracket hopen _ _ ihargs ihtail =>
      intro bound hbound
      rw [accessTail, hdot, hlbracket, hopen]
      apply (ihargs _ bound _ _ _ _ _ _ (findsItems_argument bound) rfl).bind
      intro hargsSize
      exact (ihtail bound _).bind fun _ => .ok
  | filterStop hbar =>
      intro bound hbound
      rw [filterTail, hbar]
      exact .ok
  | filterNext hbar _ _ ihcall ihtail =>
      intro bound hbound
      rw [filterTail, hbar]
      exact (ihcall bound _).bind fun _ => (ihtail bound _).bind fun _ => .ok
  | filterCall hname _ ihargs =>
      intro bound hbound
      apply (Gives.of_eq hname).bind
      intro hnameSize
      exact (ihargs bound _).bind fun _ => .ok
  | argumentsNone hopen =>
      intro bound hbound
      rw [arguments?, hopen]
      exact .ok
  | argumentsSome hopen _ ih =>
      intro bound hbound
      rw [arguments?, hopen]
      exact (ih _ bound _ _ _ _ _ _ (findsItems_argument bound) rfl).bind fun _ => .ok
  | index hstart _ hcolon ih =>
      intro bound hbound
      rw [subscriptIndex, hstart]
      apply ih.bind
      intro hindexSize
      simp only [hcolon]
      exact .ok
  | sliceFromStart hcolon _ ih =>
      intro bound hbound
      rw [subscriptIndex, hcolon]
      exact (ih bound _).bind fun _ => .ok
  | sliceFrom hnone _ hcolon _ ihstart ihtail =>
      intro bound hbound
      rw [subscriptIndex, hnone]
      apply ihstart.bind
      intro hstartSize
      simp only [hcolon]
      exact (ihtail bound _).bind fun _ => .ok
  | sliceStep _ hcolon _ ihstop ihstep =>
      intro bound hbound
      apply (ihstop bound hbound).bind
      intro hstopSize
      simp only [hcolon]
      exact (ihstep bound _).bind fun _ => .ok
  | sliceStop _ hcolon ihstop =>
      intro bound hbound
      apply (ihstop bound hbound).bind
      intro hstopSize
      simp only [hcolon]
      exact .ok
  | partNone hkind =>
      intro bound hbound
      rw [Parser.slicePart, if_pos hkind]
      exact .ok
  | partSome hkind _ ih =>
      intro bound hbound
      rw [Parser.slicePart, if_neg hkind]
      exact ih.bind fun _ => .ok
  | groupEmpty hclose =>
      intro bound hbound
      rw [Parser.group, hclose]
      exact .ok
  | groupTuple hnone _ hcomma _ hclose ihfirst ihothers =>
      intro bound hbound
      rw [Parser.group, hnone]
      apply ihfirst.bind
      intro hfirstSize
      simp only [hcomma, if_true]
      apply (ihothers bound _).bind
      intro hothersSize
      exact (Gives.of_expectInside hclose).bind fun _ => .ok
  | groupSingle hnone _ hcomma hclose ih =>
      intro bound hbound
      rw [Parser.group, hnone]
      apply ih.bind
      intro hvalueSize
      simp only [hcomma, if_false]
      exact (Gives.of_expectInside hclose).bind fun _ => .ok
  | groupTailStop hcomma =>
      intro bound hbound
      rw [groupTail, hcomma]
      exact .ok
  | groupTailComma hcomma hclose =>
      intro bound hbound
      rw [groupTail, hcomma]
      simp only [hclose, if_true]
      exact .ok
  | groupTailItem hcomma hmore _ _ ihfirst ihothers =>
      intro bound hbound
      rw [groupTail, hcomma]
      simp only [hmore, if_false]
      exact ihfirst.bind fun _ => (ihothers bound _).bind fun _ => .ok
  | seriesEmpty _ hclose =>
      intro α bound hbound toItem item opening opened values hitem hvalues
      obtain rfl : values = [] := List.map_eq_nil_iff.1 hvalues
      rw [Parser.series, if_pos (Cursor.kind?_of_take? hclose)]
      exact (Gives.of_expectInside hclose).bind fun _ => .ok
  | series _ hnone _ _ hclose ihfirst ihothers =>
      intro α bound hbound toItem item opening opened values hitem hvalues
      obtain ⟨first, others, rfl, rfl, hothers⟩ := List.map_eq_cons_iff.1 hvalues
      rw [Parser.series, if_neg hnone]
      apply (hitem first _ _ ihfirst hbound).bind
      intro hfirstSize
      apply (ihothers α bound _ toItem item opening opened others hitem hothers).bind
      intro hothersSize
      exact (Gives.of_expectInside hclose).bind fun _ => .ok
  | seriesTailStop hclose =>
      intro α bound hbound toItem item opening opened values hitem hvalues
      obtain rfl : values = [] := List.map_eq_nil_iff.1 hvalues
      rw [seriesTail, if_pos hclose]
      exact .ok
  | seriesTailComma hnone hcomma hclose =>
      intro α bound hbound toItem item opening opened values hitem hvalues
      obtain rfl : values = [] := List.map_eq_nil_iff.1 hvalues
      rw [seriesTail, if_neg hnone]
      apply (Gives.of_expectInside hcomma).bind
      intro hcommaSize
      simp only [hclose, if_true]
      exact .ok
  | seriesTailItem hnone hcomma hmore _ _ ihfirst ihothers =>
      intro α bound hbound toItem item opening opened values hitem hvalues
      obtain ⟨first, others, rfl, rfl, hothers⟩ := List.map_eq_cons_iff.1 hvalues
      rw [seriesTail, if_neg hnone]
      apply (Gives.of_expectInside hcomma).bind
      intro hcommaSize
      simp only [hmore, if_false]
      apply (hitem first _ _ ihfirst _).bind
      intro hfirstSize
      exact (ihothers α bound _ toItem item opening opened others hitem hothers).bind
        fun _ => .ok
  | itemExpr _ ih => exact ih
  | itemSplat hstar _ ih =>
      intro bound hbound
      rw [argument, hstar]
      exact ih.bind fun _ => .ok
  | itemKeyword hstar hword _ ih =>
      intro bound hbound
      rw [argument, hstar, hword]
      exact ih.bind fun _ => .ok
  | itemPositional hstar hword _ ih =>
      intro bound hbound
      rw [argument, hstar, hword]
      exact ih.bind fun _ => .ok
  | itemEntry _ hcolon _ ihkey ihvalue =>
      intro bound hbound
      apply ihkey.bind
      intro hkeySize
      exact (Gives.of_expect hcolon).bind fun _ => ihvalue.bind fun _ => .ok
  | tupleSingle _ hcomma ih =>
      apply ih.bind
      intro hvalueSize
      simp only [hcomma, if_false]
      exact .ok
  | tuple _ hcomma _ ihfirst ihothers =>
      apply ihfirst.bind
      intro hfirstSize
      simp only [hcomma, if_true]
      exact ihothers.bind fun _ => .ok
  | tupleTailStop hcomma =>
      rw [Form.Found, Expr.readTupleTail, hcomma]
      exact .ok
  | tupleTailComma hcomma hend =>
      rw [Form.Found, Expr.readTupleTail, hcomma]
      simp only [hend, if_true]
      exact .ok
  | tupleTailItem hcomma hmore _ _ ihfirst ihothers =>
      rw [Form.Found, Expr.readTupleTail, hcomma]
      simp only [hmore]
      exact ihfirst.bind fun _ => ihothers.bind fun _ => .ok

end Parser

end TemplateVariables
