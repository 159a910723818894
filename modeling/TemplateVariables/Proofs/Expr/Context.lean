import TemplateVariables.Proofs.Expr.Brackets
import TemplateVariables.Proofs.Expr.Completeness

/-!
# Expressions in front of other lexemes

What stands behind a closing bracket has no influence on how the lexemes
before it are read.  So an expression in parentheses is read in any place as it
is read by itself.
-/

namespace TemplateVariables

namespace Parser

open LexemeKind

variable {tagEnd : Span} {extra : List Lexeme} {cursor next : Cursor}

/-- The bracket with which the reader ends, if it ends with one. -/
def Form.closing : Form → List LexemeKind
  | .group _ _ => [.punct .rparen]
  | .series closing _ => [.punct closing]
  | _ => []

theorem Reads.shielded {form : Form} (hreads : Reads tagEnd form cursor next)
    (hshield : Shielded extra next.kinds) : Shielded extra cursor.kinds :=
  hshield.of_suffix hreads.closes.suffix

theorem shielded_of_close {kind : LexemeKind} {span : Span} {hsize : next.size < cursor.size}
    (hclose : cursor.take? kind = some ⟨span, next, hsize⟩)
    (hshield : Shielded extra (kind :: next.kinds)) : Shielded extra cursor.kinds := by
  rw [Cursor.kinds_of_take? hclose]
  exact hshield

theorem shielded_of_take? {kind : LexemeKind} {span : Span} {hsize : next.size < cursor.size}
    (htake : cursor.take? kind = some ⟨span, next, hsize⟩)
    (hshield : Shielded extra next.kinds) : Shielded extra cursor.kinds :=
  shielded_of_close htake (hshield.of_suffix (List.suffix_cons _ _))

theorem shielded_of_keyword? {word : String} {hsize : next.size < cursor.size}
    (hword : cursor.keyword? = some ⟨word, next, hsize⟩)
    (hshield : Shielded extra next.kinds) : Shielded extra cursor.kinds := by
  rw [Cursor.kinds_of_keyword? hword]
  exact (hshield.of_suffix (List.suffix_cons _ _)).of_suffix (List.suffix_cons _ _)

theorem kinds_ne_nil_of_take? {kind : LexemeKind} {span : Span}
    {hsize : next.size < cursor.size}
    (htake : cursor.take? kind = some ⟨span, next, hsize⟩) : cursor.kinds ≠ [] := by
  rw [Cursor.kinds_of_take? htake]
  exact List.cons_ne_nil _ _

/-- Where lexemes are left, the tag does not end. -/
theorem opened_extend (tagEnd tagEnd' : Span) (extra : List Lexeme)
    (hsome : cursor.kinds ≠ []) :
    ((cursor.extend extra).rest.head?.map (·.span)).getD tagEnd' =
      (cursor.rest.head?.map (·.span)).getD tagEnd := by
  obtain ⟨lexemes, lastStop⟩ := cursor
  cases lexemes with
  | nil => contradiction
  | cons lexeme lexemes => rfl

/-- The lexemes behind are left as they are. -/
theorem Reads.extend (tagEnd' : Span) (extra : List Lexeme) {form : Form}
    (hreads : Reads tagEnd form cursor next)
    (hshield : Shielded extra (form.closing ++ next.kinds)) :
    Reads tagEnd' form (cursor.extend extra) (next.extend extra) := by
  induction hreads with
  | above _ ih => exact .above (ih hshield)
  | full _ htail ihoperation ihtail =>
      exact .full (ihoperation (htail.shielded hshield)) (ihtail hshield)
  | operation _ htail ihsigned ihtail =>
      exact .operation (ihsigned (htail.shielded hshield)) (ihtail hshield)
  | operatorStop hstop => exact .operatorStop (Cursor.connective_extend_none hshield hstop)
  | operatorLoose hconnective hloose =>
      obtain ⟨_, hconnective⟩ := Cursor.connective_extend extra hconnective
      exact .operatorLoose hconnective hloose
  | operatorTest hconnective htight _ htail ihtest ihtail =>
      obtain ⟨_, hconnective⟩ := Cursor.connective_extend extra hconnective
      exact .operatorTest hconnective htight (ihtest (htail.shielded hshield)) (ihtail hshield)
  | operatorJoin hconnective htight _ htail ihright ihtail =>
      obtain ⟨_, hconnective⟩ := Cursor.connective_extend extra hconnective
      exact .operatorJoin hconnective htight (ihright (htail.shielded hshield)) (ihtail hshield)
  | conditionalStop hif => exact .conditionalStop (Cursor.take?_extend_none hshield hif)
  | conditionalThen hif _ helse htail ihcondition ihtail =>
      have hcondition := htail.shielded hshield
      obtain ⟨_, hif⟩ := Cursor.take?_extend extra hif
      have helse := Cursor.take?_extend_none hcondition helse
      exact .conditionalThen hif (ihcondition hcondition) helse (ihtail hshield)
  | conditionalElse hif _ helse hotherwise htail ihcondition ihotherwise ihtail =>
      have hother := htail.shielded hshield
      have hcondition := shielded_of_take? helse (hotherwise.shielded hother)
      obtain ⟨_, hif⟩ := Cursor.take?_extend extra hif
      obtain ⟨_, helse⟩ := Cursor.take?_extend extra helse
      exact .conditionalElse hif (ihcondition hcondition) helse (ihotherwise hother)
        (ihtail hshield)
  | testArguments hnot hname hargs ihargs =>
      have hnameShield := hargs.shielded hshield
      obtain ⟨_, hafterName⟩ := Cursor.expectDotted_extend tagEnd' (.inl hnameShield) hname
      have hstart := hnameShield.of_suffix (closes_of_expectDotted hname).suffix
      exact .testArguments (hnot.extend hstart) hafterName (ihargs hshield)
  | testBare hnot hname hargs hbare hhead htail ihargs ihhead ihtail =>
      have hheadShield := htail.shielded hshield
      have hargsShield := hhead.shielded hheadShield
      have hnameShield := hargs.shielded hargsShield
      have hstart := hnameShield.of_suffix (closes_of_expectDotted hname).suffix
      obtain ⟨_, hafterName⟩ := Cursor.expectDotted_extend tagEnd' (.inl hnameShield) hname
      rw [← Cursor.atBareArgument_extend hargsShield] at hbare
      exact .testBare (hnot.extend hstart) hafterName (ihargs hargsShield) hbare
        (ihhead hheadShield) (ihtail hshield)
  | testPlain hnot hname hargs hbare ihargs =>
      have hnameShield := hargs.shielded hshield
      have hstart := hnameShield.of_suffix (closes_of_expectDotted hname).suffix
      obtain ⟨_, hafterName⟩ := Cursor.expectDotted_extend tagEnd' (.inl hnameShield) hname
      rw [← Cursor.atBareArgument_extend hshield] at hbare
      exact .testPlain (hnot.extend hstart) hafterName (ihargs hshield) hbare
  | signedOperator hop _ ih =>
      obtain ⟨_, hop⟩ := Cursor.unaryOp?_extend extra hop
      exact .signedOperator hop (ih hshield)
  | signedOperand hop hoperand ih =>
      exact .signedOperand (Cursor.unaryOp?_extend_none (hoperand.shielded hshield) hop)
        (ih hshield)
  | operand _ haccess hfilters ihhead ihaccess ihfilters =>
      have haccessShield := hfilters.shielded hshield
      exact .operand (ihhead (haccess.shielded haccessShield)) (ihaccess haccessShield)
        (ihfilters hshield)
  | word hnext hword =>
      obtain ⟨_, hnext⟩ := Cursor.next?_extend extra hnext
      exact .word hnext hword
  | number hnext =>
      obtain ⟨_, hnext⟩ := Cursor.next?_extend extra hnext
      exact .number hnext
  | str hnext hmore =>
      obtain ⟨_, hnext⟩ := Cursor.next?_extend extra hnext
      obtain ⟨_, -, -, hhead⟩ := Cursor.kinds_of_moreStrings hmore
      rw [← Cursor.head?_extend hshield] at hhead
      obtain ⟨_, hmore⟩ := Cursor.moreStrings_extend hhead hmore
      exact .str hnext hmore
  | group hopen _ ih =>
      obtain ⟨_, hopen⟩ := Cursor.next?_extend extra hopen
      exact .group hopen (ih (hshield.of_suffix (List.suffix_cons _ _)))
  | list hopen _ ih =>
      obtain ⟨_, hopen⟩ := Cursor.next?_extend extra hopen
      exact .list hopen (ih (hshield.of_suffix (List.suffix_cons _ _)))
  | dict hopen _ ih =>
      obtain ⟨_, hopen⟩ := Cursor.next?_extend extra hopen
      exact .dict hopen (ih (hshield.of_suffix (List.suffix_cons _ _)))
  | accessStop hdot hlbracket hlparen =>
      exact .accessStop (Cursor.take?_extend_none hshield hdot)
        (Cursor.take?_extend_none hshield hlbracket) (Cursor.take?_extend_none hshield hlparen)
  | accessAttribute hdot hname _ ihtail =>
      obtain ⟨_, hdot⟩ := Cursor.take?_extend extra hdot
      obtain ⟨_, hname⟩ := Cursor.attributeName_extend extra hname
      exact .accessAttribute hdot hname (ihtail hshield)
  | accessSubscript hdot hopen hindex hclose htail ihindex ihtail =>
      have hindexShield := shielded_of_take? hclose (htail.shielded hshield)
      have hinside := shielded_of_take? hopen (hindex.shielded hindexShield)
      obtain ⟨_, hopen⟩ := Cursor.take?_extend extra hopen
      obtain ⟨_, hclose⟩ := Cursor.take?_extend extra hclose
      exact .accessSubscript (Cursor.take?_extend_none hinside hdot) hopen
        (ihindex hindexShield) hclose (ihtail hshield)
  | accessCall hdot hlbracket hopen hargs htail ihargs ihtail =>
      have hclosed := htail.shielded hshield
      have hcursor := shielded_of_take? hopen (hargs.shielded hclosed)
      obtain ⟨_, hopen⟩ := Cursor.take?_extend extra hopen
      exact .accessCall (Cursor.take?_extend_none hcursor hdot)
        (Cursor.take?_extend_none hcursor hlbracket) hopen
        (ihargs (hclosed.of_suffix (List.suffix_cons _ _))) (ihtail hshield)
  | filterStop hbar => exact .filterStop (Cursor.take?_extend_none hshield hbar)
  | filterNext hbar _ htail ihcall ihtail =>
      obtain ⟨_, hbar⟩ := Cursor.take?_extend extra hbar
      exact .filterNext hbar (ihcall (htail.shielded hshield)) (ihtail hshield)
  | filterCall hname hargs ihargs =>
      obtain ⟨_, hname⟩ := Cursor.expectDotted_extend tagEnd' (.inl (hargs.shielded hshield)) hname
      exact .filterCall hname (ihargs hshield)
  | argumentsNone hopen => exact .argumentsNone (Cursor.take?_extend_none hshield hopen)
  | argumentsSome hopen _ ih =>
      obtain ⟨_, hopen⟩ := Cursor.take?_extend extra hopen
      exact .argumentsSome hopen (ih (hshield.of_suffix (List.suffix_cons _ _)))
  | index hstart hvalue hcolon ih =>
      exact .index (Cursor.take?_extend_none (hvalue.shielded hshield) hstart) (ih hshield)
        (Cursor.take?_extend_none hshield hcolon)
  | sliceFromStart hcolon _ ih =>
      have hsome := kinds_ne_nil_of_take? hcolon
      have hopened := opened_extend tagEnd tagEnd' extra hsome
      obtain ⟨_, hcolon⟩ := Cursor.take?_extend extra hcolon
      apply Reads.sliceFromStart hcolon
      rw [hopened]
      exact ih hshield
  | @sliceFrom _ _ _ cursor _ _ _ _ hnone hstart hcolon htail ihstart ihtail =>
      have hafterStart := shielded_of_take? hcolon (htail.shielded hshield)
      have hcursor := hstart.shielded hafterStart
      have hsome : cursor.kinds ≠ [] := fun hnil =>
        kinds_ne_nil_of_take? hcolon (List.suffix_nil.1 (hnil ▸ hstart.closes.suffix))
      have hopened := opened_extend tagEnd tagEnd' extra hsome
      obtain ⟨_, hcolon⟩ := Cursor.take?_extend extra hcolon
      apply Reads.sliceFrom (Cursor.take?_extend_none hcursor hnone) (ihstart hafterStart) hcolon
      rw [hopened]
      exact ihtail hshield
  | sliceStep _ hcolon hstep ihstop ihstep =>
      have hstop := shielded_of_take? hcolon (hstep.shielded hshield)
      obtain ⟨_, hcolon⟩ := Cursor.take?_extend extra hcolon
      exact .sliceStep (ihstop hstop) hcolon (ihstep hshield)
  | sliceStop _ hcolon ihstop =>
      exact .sliceStop (ihstop hshield) (Cursor.take?_extend_none hshield hcolon)
  | partNone hkind =>
      rw [← Cursor.kind?_extend hshield] at hkind
      exact .partNone hkind
  | partSome hkind hvalue ih =>
      rw [← Cursor.kind?_extend (hvalue.shielded hshield)] at hkind
      exact .partSome hkind (ih hshield)
  | groupEmpty hclose =>
      obtain ⟨_, hclose⟩ := Cursor.take?_extend extra hclose
      exact .groupEmpty hclose
  | groupTuple hnone hfirst hcomma hothers hclose ihfirst ihothers =>
      have hitems  := shielded_of_close hclose hshield
      have hafterFirst := hothers.shielded hitems
      obtain ⟨_, hclose⟩ := Cursor.take?_extend extra hclose
      rw [← Cursor.kind?_extend hafterFirst] at hcomma
      exact .groupTuple (Cursor.take?_extend_none (hfirst.shielded hafterFirst) hnone)
        (ihfirst hafterFirst) hcomma (ihothers hitems) hclose
  | groupSingle hnone hvalue hcomma hclose ih =>
      have hafterValue  := shielded_of_close hclose hshield
      obtain ⟨_, hclose⟩ := Cursor.take?_extend extra hclose
      rw [← Cursor.kind?_extend hafterValue] at hcomma
      exact .groupSingle (Cursor.take?_extend_none (hvalue.shielded hafterValue) hnone)
        (ih hafterValue) hcomma hclose
  | groupTailStop hcomma => exact .groupTailStop (Cursor.take?_extend_none hshield hcomma)
  | groupTailComma hcomma hclose =>
      obtain ⟨_, hcomma⟩ := Cursor.take?_extend extra hcomma
      rw [← Cursor.kind?_extend hshield] at hclose
      exact .groupTailComma hcomma hclose
  | groupTailItem hcomma hmore hfirst hothers ihfirst ihothers =>
      have hafterFirst := hothers.shielded hshield
      obtain ⟨_, hcomma⟩ := Cursor.take?_extend extra hcomma
      rw [← Cursor.kind?_extend (hfirst.shielded hafterFirst)] at hmore
      exact .groupTailItem hcomma hmore (ihfirst hafterFirst) (ihothers hshield)
  | seriesEmpty hclosing hclose =>
      obtain ⟨_, hclose⟩ := Cursor.take?_extend extra hclose
      exact .seriesEmpty hclosing hclose
  | series hclosing hnone hfirst hothers hclose ihfirst ihothers =>
      have hitems  := shielded_of_close hclose hshield
      have hafterFirst := hothers.shielded hitems
      obtain ⟨_, hclose⟩ := Cursor.take?_extend extra hclose
      rw [← Cursor.kind?_extend (hfirst.shielded hafterFirst)] at hnone
      exact .series hclosing hnone (ihfirst hafterFirst) (ihothers hitems) hclose
  | seriesTailStop hclose =>
      rw [← Cursor.kind?_extend hshield] at hclose
      exact .seriesTailStop hclose
  | seriesTailComma hnone hcomma hclose =>
      rw [← Cursor.kind?_extend (shielded_of_take? hcomma hshield)] at hnone
      rw [← Cursor.kind?_extend hshield] at hclose
      obtain ⟨_, hcomma⟩ := Cursor.take?_extend extra hcomma
      exact .seriesTailComma hnone hcomma hclose
  | seriesTailItem hnone hcomma hmore hfirst hothers ihfirst ihothers =>
      have hafterFirst := hothers.shielded hshield
      have hafterComma := hfirst.shielded hafterFirst
      rw [← Cursor.kind?_extend (shielded_of_take? hcomma hafterComma)] at hnone
      rw [← Cursor.kind?_extend hafterComma] at hmore
      obtain ⟨_, hcomma⟩ := Cursor.take?_extend extra hcomma
      exact .seriesTailItem hnone hcomma hmore (ihfirst hafterFirst) (ihothers hshield)
  | itemExpr _ ih => exact .itemExpr (ih hshield)
  | itemSplat hstar _ ih =>
      obtain ⟨_, hstar⟩ := Cursor.star_extend extra hstar
      exact .itemSplat hstar (ih hshield)
  | itemKeyword hstar hword hvalue ih =>
      have hcursor := shielded_of_keyword? hword (hvalue.shielded hshield)
      obtain ⟨_, hword⟩ := Cursor.keyword?_extend extra hword
      exact .itemKeyword (Cursor.star_extend_none hcursor hstar) hword (ih hshield)
  | itemPositional hstar hword hvalue ih =>
      have hcursor := hvalue.shielded hshield
      exact .itemPositional (Cursor.star_extend_none hcursor hstar)
        (Cursor.keyword?_extend_none hcursor hword) (ih hshield)
  | itemEntry _ hcolon hvalue ihkey ihvalue =>
      have hkey := shielded_of_take? hcolon (hvalue.shielded hshield)
      obtain ⟨_, hcolon⟩ := Cursor.take?_extend extra hcolon
      exact .itemEntry (ihkey hkey) hcolon (ihvalue hshield)
  | tupleSingle _ hcomma ih =>
      rw [← Cursor.kind?_extend hshield] at hcomma
      exact .tupleSingle (ih hshield) hcomma
  | tuple _ hcomma hothers ihfirst ihothers =>
      have hafterFirst := hothers.shielded hshield
      rw [← Cursor.kind?_extend hafterFirst] at hcomma
      exact .tuple (ihfirst hafterFirst) hcomma (ihothers hshield)
  | tupleTailStop hcomma => exact .tupleTailStop (Cursor.take?_extend_none hshield hcomma)
  | tupleTailComma hcomma hend =>
      rw [← Cursor.atListEnd_extend hshield] at hend
      obtain ⟨_, hcomma⟩ := Cursor.take?_extend extra hcomma
      exact .tupleTailComma hcomma hend
  | tupleTailItem hcomma hmore hfirst hothers ihfirst ihothers =>
      have hafterFirst := hothers.shielded hshield
      rw [← Cursor.atListEnd_extend (hfirst.shielded hafterFirst)] at hmore
      obtain ⟨_, hcomma⟩ := Cursor.take?_extend extra hcomma
      exact .tupleTailItem hcomma hmore (ihfirst hafterFirst) (ihothers hshield)

/-! ## Lexemes in parentheses -/

theorem brackets?_ne_of_balanced {used more : List LexemeKind}
    (hkinds : LexemeKind.Balanced (used ++ more)) (mark : Punct) :
    brackets? [mark] used ≠ some [] := by
  rw [LexemeKind.Balanced, brackets?_append] at hkinds
  obtain ⟨opened, hused, -⟩ := Option.bind_eq_some_iff.1 hkinds
  have hframe := brackets?_frame hused [mark]
  rw [List.nil_append] at hframe
  simp [hframe]

/-- A group uses up its lexemes together with the bracket that closes it. -/
theorem Reads.kinds_of_group {opened : Span} {value : Expr} {inner : List LexemeKind}
    (hreads : Reads tagEnd (.group opened value) cursor next)
    (hkinds : cursor.kinds = inner ++ [.punct .rparen]) (hinner : Balanced inner) :
    next.kinds = [] := by
  obtain ⟨used, hused, hbrackets⟩ := hreads.closes
  rw [hkinds] at hused
  rcases List.append_eq_append_iff.1 hused with ⟨more, rfl, hmore⟩ | ⟨more, rfl, -⟩
  · cases more with
    | nil =>
        rw [List.append_nil] at hbrackets
        rw [← List.append_nil inner] at hinner
        exact absurd hbrackets (brackets?_ne_of_balanced hinner .lparen)
    | cons kind more =>
        have hnil := (List.cons.inj hmore).2
        exact (List.append_eq_nil_iff.1 hnil.symm).2
  · exact absurd hbrackets (brackets?_ne_of_balanced hinner .lparen)

/-- A series ends with its closing bracket. -/
theorem Reads.closing_suffix {closing : Punct} {items : List Item}
    (hreads : Reads tagEnd (.series closing items) cursor next) :
    .punct closing :: next.kinds <:+ cursor.kinds := by
  cases hreads with
  | seriesEmpty _ hclose => exact ⟨[], (Cursor.kinds_of_take? hclose).symm⟩
  | series _ _ hfirst hothers hclose =>
      rw [← Cursor.kinds_of_take? hclose]
      exact hothers.closes.suffix.trans hfirst.closes.suffix

/-! ## Where no lexeme is left -/

theorem take?_of_kinds_nil {kind : LexemeKind} (hkinds : cursor.kinds = []) :
    cursor.take? kind = none := by
  rw [Cursor.take?, Cursor.next?_eq_none hkinds]

theorem Reads.accessTail_stop {base value : Expr}
    (hreads : Reads tagEnd (.accessTail base value) cursor next)
    (hends : ∀ mark ∈ [Punct.dot, .lbracket, .lparen],
      cursor.kinds.head? ≠ some (.punct mark)) : value = base ∧ next = cursor := by
  have hnone {mark : Punct} (hmark : mark ∈ [Punct.dot, .lbracket, .lparen]) :=
    Cursor.take?_eq_none (hends mark hmark)
  cases hreads with
  | accessStop => exact ⟨rfl, rfl⟩
  | accessAttribute hdot =>
      rw [hnone (by decide)] at hdot
      contradiction
  | accessSubscript _ hopen =>
      rw [hnone (by decide)] at hopen
      contradiction
  | accessCall _ _ hopen =>
      rw [hnone (by decide)] at hopen
      contradiction

theorem Reads.accessTail_nil {base value : Expr}
    (hreads : Reads tagEnd (.accessTail base value) cursor next) (hkinds : cursor.kinds = []) :
    value = base ∧ next = cursor :=
  hreads.accessTail_stop (by simp [hkinds])

theorem Reads.filterTail_nil {base value : Expr}
    (hreads : Reads tagEnd (.filterTail base value) cursor next) (hkinds : cursor.kinds = []) :
    value = base ∧ next = cursor := by
  cases hreads with
  | filterStop => exact ⟨rfl, rfl⟩
  | filterNext hbar =>
      rw [take?_of_kinds_nil hkinds] at hbar
      contradiction

theorem Reads.operatorTail_nil {power : Nat} {left value : Expr}
    (hreads : Reads tagEnd (.operatorTail power left value) cursor next)
    (hkinds : cursor.kinds = []) : value = left ∧ next = cursor := by
  have hnone : cursor.connective = .ok none := by
    apply Cursor.connective_eq_none
    simp [hkinds]
  cases hreads with
  | operatorStop => exact ⟨rfl, rfl⟩
  | operatorLoose => exact ⟨rfl, rfl⟩
  | operatorTest hconnective =>
      rw [hnone] at hconnective
      cases hconnective
  | operatorJoin hconnective =>
      rw [hnone] at hconnective
      cases hconnective

theorem Reads.conditionalTail_nil {head value : Expr}
    (hreads : Reads tagEnd (.conditionalTail head value) cursor next)
    (hkinds : cursor.kinds = []) : value = head ∧ next = cursor := by
  cases hreads with
  | conditionalStop => exact ⟨rfl, rfl⟩
  | conditionalThen hif =>
      rw [take?_of_kinds_nil hkinds] at hif
      contradiction
  | conditionalElse hif =>
      rw [take?_of_kinds_nil hkinds] at hif
      contradiction

section Group

variable {lexemes : List Lexeme} {inner : List LexemeKind} {opened : Span} {lastStop : Nat}
  {value : Expr}

theorem Reads.group_of_primary
    (hreads : Reads tagEnd (.primary value)
      ⟨⟨.punct .lparen, opened⟩ :: lexemes, lastStop⟩ next) :
    Reads tagEnd (.group opened value) ⟨lexemes, opened.stop⟩ next := by
  cases hreads with
  | word hnext => cases hnext
  | number hnext => cases hnext
  | str hnext => cases hnext
  | group hopen hgroup =>
      cases hopen
      exact hgroup
  | list hopen => cases hopen
  | dict hopen => cases hopen

variable (hkinds : lexemes.map (·.kind) = inner ++ [.punct .rparen]) (hinner : Balanced inner)

include hkinds hinner

theorem Reads.group_of_operand
    (hreads : Reads tagEnd (.operand value)
      ⟨⟨.punct .lparen, opened⟩ :: lexemes, lastStop⟩ next) :
    Reads tagEnd (.group opened value) ⟨lexemes, opened.stop⟩ next ∧ next.kinds = [] := by
  cases hreads with
  | operand hhead haccess hfilters =>
      have hgroup := hhead.group_of_primary
      have hnil := hgroup.kinds_of_group hkinds hinner
      obtain ⟨rfl, rfl⟩ := haccess.accessTail_nil hnil
      obtain ⟨rfl, rfl⟩ := hfilters.filterTail_nil hnil
      exact ⟨hgroup, hnil⟩

theorem Reads.group_of_signed
    (hreads : Reads tagEnd (.signed value)
      ⟨⟨.punct .lparen, opened⟩ :: lexemes, lastStop⟩ next) :
    Reads tagEnd (.group opened value) ⟨lexemes, opened.stop⟩ next ∧ next.kinds = [] := by
  cases hreads with
  | signedOperator hop => cases hop
  | signedOperand _ hoperand => exact hoperand.group_of_operand hkinds hinner

theorem Reads.group_of_operation {power : Nat}
    (hreads : Reads tagEnd (.operation power value)
      ⟨⟨.punct .lparen, opened⟩ :: lexemes, lastStop⟩ next) :
    Reads tagEnd (.group opened value) ⟨lexemes, opened.stop⟩ next ∧ next.kinds = [] := by
  cases hreads with
  | operation hsigned htail =>
      obtain ⟨hgroup, hnil⟩ := hsigned.group_of_signed hkinds hinner
      obtain ⟨rfl, rfl⟩ := htail.operatorTail_nil hnil
      exact ⟨hgroup, hnil⟩

theorem Reads.group_of_expression {level : Level}
    (hreads : Reads tagEnd (.expression level value)
      ⟨⟨.punct .lparen, opened⟩ :: lexemes, lastStop⟩ next) :
    Reads tagEnd (.group opened value) ⟨lexemes, opened.stop⟩ next ∧ next.kinds = [] := by
  cases hreads with
  | above hoperation => exact hoperation.group_of_operation hkinds hinner
  | full hoperation htail =>
      obtain ⟨hgroup, hnil⟩ := hoperation.group_of_operation hkinds hinner
      obtain ⟨rfl, rfl⟩ := htail.conditionalTail_nil hnil
      exact ⟨hgroup, hnil⟩

/-- Lexemes in parentheses are read as a group, whichever reader is asked for them. -/
theorem Reads.group_of_tuple {level : Level}
    (hreads : Reads tagEnd (.tuple level value)
      ⟨⟨.punct .lparen, opened⟩ :: lexemes, lastStop⟩ next) :
    Reads tagEnd (.group opened value) ⟨lexemes, opened.stop⟩ next ∧ next.kinds = [] := by
  cases hreads with
  | tupleSingle hvalue => exact hvalue.group_of_expression hkinds hinner
  | tuple hfirst hcomma =>
      have hnil := (hfirst.group_of_expression hkinds hinner).2
      rw [Cursor.kind?_eq_head?, hnil] at hcomma
      contradiction

end Group

/-! ## In front of other lexemes -/

variable {value : Expr}

theorem Reads.operand_of_primary (hreads : Reads tagEnd (.primary value) cursor next)
    (hends : EndsOperand next.kinds) : Reads tagEnd (.operand value) cursor next := by
  have hdot := Cursor.take?_eq_none (hends.noAccess .dot (by decide))
  have hlbracket := Cursor.take?_eq_none (hends.noAccess .lbracket (by decide))
  have hlparen := Cursor.take?_eq_none (hends.noAccess .lparen (by decide))
  have hbar : next.take? (.punct .pipe) = none := Cursor.take?_eq_none (hends.head?_ne rfl)
  exact .operand hreads (.accessStop hdot hlbracket hlparen) (.filterStop hbar)

/-- An operand stands by itself under every reader. -/
theorem Reads.expression_of_signed {level : Level}
    (hreads : Reads tagEnd (.signed value) cursor next) (hends : EndsOperation next.kinds)
    (hif : level = .full → next.kinds.head? ≠ some (.name "if")) :
    Reads tagEnd (.expression level value) cursor next := by
  have htail : ∀ power, Reads tagEnd (.operatorTail power value value) next next :=
    fun _ => .operatorStop (Cursor.connective_eq_none hends.2)
  cases level with
  | above power => exact .above (.operation hreads (htail power))
  | full =>
      have hstop := Cursor.take?_eq_none (hif rfl)
      exact .full (.operation hreads (htail 0)) (.conditionalStop hstop)

end Parser

/-- Lexemes in parentheses: the first of them is closed by the last. -/
def Parenthesised (lexemes : List Lexeme) : Prop :=
  ∃ (inner : List Lexeme) (opened closed : Span),
    lexemes = ⟨.punct .lparen, opened⟩ :: (inner ++ [⟨.punct .rparen, closed⟩]) ∧
      LexemeKind.Balanced (inner.map (·.kind))

namespace Parser

variable {lexemes extra : List Lexeme} {cursor : Cursor} {tagEnd : Span} {value : Expr}

theorem unaryOp?_of_parenthesised (hlexemes : Parenthesised lexemes) {rest : List LexemeKind}
    (hkinds : cursor.kinds = lexemes.map (·.kind) ++ rest) : cursor.unaryOp? = none := by
  obtain ⟨inner, opened, closed, rfl, -⟩ := hlexemes
  exact Cursor.unaryOp?_eq_none hkinds rfl

/-- What lexemes in parentheses are read as by themselves they are read as in any place. -/
theorem Reads.primary_of_parenthesised (tagEnd' : Span) (hlexemes : Parenthesised lexemes)
    (hvalue : Expr.ofLexemes lexemes tagEnd = .ok value)
    (hrest : cursor.rest = lexemes ++ extra) :
    ∃ next, next.rest = extra ∧ Reads tagEnd' (.primary value) cursor next := by
  obtain ⟨inner, opened, closed, rfl, hinner⟩ := hlexemes
  obtain ⟨next, -, hreads⟩ := (Expr.ofLexemes_follows _ tagEnd).of_ok value hvalue
  obtain ⟨hgroup, hnil⟩ := hreads.group_of_tuple (List.map_append) hinner
  have hnext : next.rest = [] := (Cursor.rest_eq_nil_iff next).2 hnil
  obtain ⟨lexemes, lastStop⟩ := cursor
  cases hrest
  have hextend := hgroup.extend tagEnd' extra (.closing rfl extra next.kinds)
  exact ⟨next.extend extra, by rw [Cursor.extend, hnext, List.nil_append], .group rfl hextend⟩

theorem Reads.of_parenthesised (tagEnd' : Span) {level : Level}
    (hlexemes : Parenthesised lexemes) (hvalue : Expr.ofLexemes lexemes tagEnd = .ok value)
    (hrest : cursor.rest = lexemes ++ extra)
    (hends : EndsOperation (extra.map (·.kind)))
    (hif : level = .full → (extra.map (·.kind)).head? ≠ some (.name "if")) :
    ∃ next, next.rest = extra ∧ Reads tagEnd' (.expression level value) cursor next := by
  have hkinds : cursor.kinds = lexemes.map (·.kind) ++ extra.map (·.kind) := by
    rw [Cursor.kinds, hrest, List.map_append]
  obtain ⟨next, rfl, hprimary⟩ :=
    Reads.primary_of_parenthesised tagEnd' hlexemes hvalue hrest
  have hsigned := Reads.signedOperand (unaryOp?_of_parenthesised hlexemes hkinds)
    (hprimary.operand_of_primary hends.1)
  exact ⟨next, rfl, hsigned.expression_of_signed hends hif⟩

end Parser

/-! ## Behind other lexemes -/

/-- Where the lexeme before a cursor ends plays no part in reading the next one. -/
theorem Cursor.next?_of_rest {cursor cursor' next : Cursor} {lexeme : Lexeme}
    {hsize : next.size < cursor.size} (hrest : cursor'.rest = cursor.rest)
    (hnext : cursor.next? = some ⟨lexeme, next, hsize⟩) :
    ∃ hsize', cursor'.next? = some ⟨lexeme, next, hsize'⟩ := by
  obtain ⟨lexemes, lastStop⟩ := cursor
  obtain ⟨_, lastStop'⟩ := cursor'
  cases hrest
  cases lexemes with
  | nil => contradiction
  | cons first others => exact ⟨hsize, hnext⟩

theorem Cursor.expectDotted_of_rest {cursor cursor' next : Cursor} {tagEnd span : Span}
    {role : NameRole} {name : DottedName} {hsize : next.size < cursor.size}
    (hrest : cursor'.rest = cursor.rest)
    (hname : cursor.expectDotted tagEnd role = .ok ⟨(name, span), next, hsize⟩) :
    ∃ hsize', cursor'.expectDotted tagEnd role = .ok ⟨(name, span), next, hsize'⟩ := by
  have hdotted : Ensures (cursor.expectDotted tagEnd role) (fun step => ∃ hsize',
      cursor'.expectDotted tagEnd role = .ok ⟨step.value, step.next, hsize'⟩) := by
    unfold expectDotted
    apply (expectName_ensures tagEnd role).bind
    rintro ⟨⟨word, wordSpan⟩, afterWord, hwordSize⟩ ⟨hword, -⟩
    apply Ensures.ok
    obtain ⟨hwordSize', hnext⟩ := next?_of_rest hrest (next?_of_name? hword)
    have hword : cursor'.name? = some ⟨(word, wordSpan), afterWord, hwordSize'⟩ := by
      simp [name?, hnext]
    have hwordsSize := Nat.le_of_lt_succ (moreWords afterWord).shorter
    refine ⟨Nat.lt_of_le_of_lt hwordsSize hwordSize', ?_⟩
    rw [expectName, hword]
    rfl
  exact hdotted.of_ok _ hname

theorem Cursor.unaryOp?_of_rest {cursor cursor' next : Cursor} {op : UnaryOp} {span : Span}
    {hsize : next.size < cursor.size} (hrest : cursor'.rest = cursor.rest)
    (hop : cursor.unaryOp? = some ⟨(op, span), next, hsize⟩) :
    ∃ hsize', cursor'.unaryOp? = some ⟨(op, span), next, hsize'⟩ := by
  obtain ⟨lexemes, lastStop⟩ := cursor
  obtain ⟨_, lastStop'⟩ := cursor'
  cases hrest
  cases lexemes with
  | nil => contradiction
  | cons first others => exact ⟨hsize, hop⟩

theorem Cursor.unaryOp?_none_of_rest {cursor cursor' : Cursor}
    (hrest : cursor'.rest = cursor.rest) (hop : cursor.unaryOp? = none) :
    cursor'.unaryOp? = none := by
  obtain ⟨lexemes, lastStop⟩ := cursor
  obtain ⟨_, lastStop'⟩ := cursor'
  cases hrest
  cases lexemes with
  | nil => rfl
  | cons first others => exact hop

namespace Parser

variable {tagEnd : Span} {cursor cursor' next : Cursor} {value : Expr}
  (hrest : cursor'.rest = cursor.rest)

include hrest

theorem Reads.primary_of_rest (hreads : Reads tagEnd (.primary value) cursor next) :
    Reads tagEnd (.primary value) cursor' next := by
  cases hreads with
  | word hnext hword =>
      obtain ⟨_, hnext⟩ := Cursor.next?_of_rest hrest hnext
      exact .word hnext hword
  | number hnext =>
      obtain ⟨_, hnext⟩ := Cursor.next?_of_rest hrest hnext
      exact .number hnext
  | str hnext hmore =>
      obtain ⟨_, hnext⟩ := Cursor.next?_of_rest hrest hnext
      exact .str hnext hmore
  | group hopen hgroup =>
      obtain ⟨_, hopen⟩ := Cursor.next?_of_rest hrest hopen
      exact .group hopen hgroup
  | list hopen hitems =>
      obtain ⟨_, hopen⟩ := Cursor.next?_of_rest hrest hopen
      exact .list hopen hitems
  | dict hopen hentries =>
      obtain ⟨_, hopen⟩ := Cursor.next?_of_rest hrest hopen
      exact .dict hopen hentries

theorem Reads.operand_of_rest (hreads : Reads tagEnd (.operand value) cursor next) :
    Reads tagEnd (.operand value) cursor' next := by
  cases hreads with
  | operand hhead haccess hfilters =>
      exact .operand (hhead.primary_of_rest hrest) haccess hfilters

theorem Reads.signed_of_rest (hreads : Reads tagEnd (.signed value) cursor next) :
    Reads tagEnd (.signed value) cursor' next := by
  cases hreads with
  | signedOperator hop hinner =>
      obtain ⟨_, hop⟩ := Cursor.unaryOp?_of_rest hrest hop
      exact .signedOperator hop hinner
  | signedOperand hop hoperand =>
      exact .signedOperand (Cursor.unaryOp?_none_of_rest hrest hop)
        (hoperand.operand_of_rest hrest)

theorem Reads.operation_of_rest {power : Nat}
    (hreads : Reads tagEnd (.operation power value) cursor next) :
    Reads tagEnd (.operation power value) cursor' next := by
  cases hreads with
  | operation hsigned htail => exact .operation (hsigned.signed_of_rest hrest) htail

theorem Reads.expression_of_rest {level : Level}
    (hreads : Reads tagEnd (.expression level value) cursor next) :
    Reads tagEnd (.expression level value) cursor' next := by
  cases hreads with
  | above hoperation => exact .above (hoperation.operation_of_rest hrest)
  | full hoperation htail => exact .full (hoperation.operation_of_rest hrest) htail

end Parser

/-! ## Written expressions -/

/-- The reading succeeds with a value of which `holds` is true, and leaves the lexemes
`rest`. -/
def Leaves {α : Type} {bound : Nat} (reading : Reading α bound) (holds : α → Prop)
    (rest : List Lexeme) : Prop :=
  ∃ value next hsize, reading = .ok ⟨value, next, hsize⟩ ∧ holds value ∧ next.rest = rest

/-- By themselves the lexemes are read as the expression. -/
def Expr.AcceptedFrom (expr : Expr) (lexemes : List Lexeme) : Prop :=
  ∃ tagEnd value, Expr.ofLexemes lexemes tagEnd = .ok value ∧ value.spanless = expr.spanless

/-- The same, and the lexemes stand in parentheses. -/
structure Expr.WrittenAs (expr : Expr) (lexemes : List Lexeme) : Prop where
  parenthesised : Parenthesised lexemes
  accepted : expr.AcceptedFrom lexemes

/-- By themselves the lexemes are read as the filter call. -/
def FilterCall.AcceptedFrom (call : FilterCall) (lexemes : List Lexeme) : Prop :=
  ∃ tagEnd, Leaves (Expr.readFilter tagEnd (Cursor.ofLexemes lexemes))
    (fun value => value.spanless = call.spanless) []

section Written

variable {expr : Expr} {lexemes extra : List Lexeme} {cursor : Cursor}
  (hwritten : expr.WrittenAs lexemes) (hrest : cursor.rest = lexemes ++ extra)
  (hends : EndsOperation (extra.map (·.kind)))

include hwritten hrest hends

theorem Expr.WrittenAs.leaves_read (tagEnd : Span) {level : Level}
    (hif : level = .full → (extra.map (·.kind)).head? ≠ some (.name "if")) :
    Leaves (Expr.read tagEnd level cursor) (fun value => value.spanless = expr.spanless)
      extra := by
  obtain ⟨_, value, haccepted, hvalue⟩ := hwritten.accepted
  obtain ⟨next, hnext, hreads⟩ :=
    Parser.Reads.of_parenthesised tagEnd hwritten.parenthesised haccepted hrest hends hif
  obtain ⟨hsize, hok⟩ := hreads.found
  exact ⟨value, next, hsize, hok, hvalue, hnext⟩

theorem Expr.WrittenAs.leaves_readTuple (tagEnd : Span) {level : Level}
    (hif : level = .full → (extra.map (·.kind)).head? ≠ some (.name "if"))
    (hcomma : (extra.map (·.kind)).head? ≠ some (.punct .comma)) :
    Leaves (Expr.readTuple tagEnd level cursor) (fun value => value.spanless = expr.spanless)
      extra := by
  obtain ⟨_, value, haccepted, hvalue⟩ := hwritten.accepted
  obtain ⟨next, rfl, hreads⟩ :=
    Parser.Reads.of_parenthesised tagEnd hwritten.parenthesised haccepted hrest hends hif
  have hsingle : ¬next.kind? = some (.punct .comma) := by
    rw [Cursor.kind?_eq_head?]
    exact hcomma
  obtain ⟨hsize, hok⟩ := (Parser.Reads.tupleSingle hreads hsingle).found
  exact ⟨value, next, hsize, hok, hvalue, rfl⟩

end Written

/-- A call without parentheses around it uses up a tag. -/
theorem Expr.AcceptedFrom.leaves_read {call : Expr} {lexemes : List Lexeme} {cursor : Cursor}
    (hcall : call.AcceptedFrom lexemes)
    (hform : ∃ callee args span, call = .call callee args span)
    (hrest : cursor.rest = lexemes) (tagEnd : Span) :
    Leaves (Expr.read tagEnd .full cursor)
      (fun value => value.spanless = call.spanless ∧
        ∃ callee args span, value = .call callee args span) [] := by
  obtain ⟨callee, args, span, rfl⟩ := hform
  obtain ⟨acceptedEnd, value, haccepted, hvalue⟩ := hcall
  have hform : ∃ callee args span, value = .call callee args span := by
    cases value with
    | call callee args span => exact ⟨_, _, _, rfl⟩
    | _ => simp [Expr.spanless] at hvalue
  obtain ⟨callee, args, span, rfl⟩ := hform
  obtain ⟨next, hnil, hreads⟩ := (Expr.ofLexemes_follows lexemes acceptedEnd).of_ok _ haccepted
  cases hreads with
  | tupleSingle hsingle =>
      have hretagged := hsingle.extend tagEnd [] (.nil _)
      rw [Cursor.extend_nil, Cursor.extend_nil] at hretagged
      obtain ⟨hsize, hok⟩ := (hretagged.expression_of_rest hrest).found
      exact ⟨_, next, hsize, hok, ⟨hvalue, _, _, _, rfl⟩, (Cursor.rest_eq_nil_iff next).2 hnil⟩

theorem FilterCall.AcceptedFrom.leaves_readFilter {call : FilterCall}
    {lexemes extra : List Lexeme} {cursor : Cursor} (hcall : call.AcceptedFrom lexemes)
    (hrest : cursor.rest = lexemes ++ extra)
    (hextra : ∀ kind ∈ (extra.map (·.kind)).head?, kind = .punct .pipe) (tagEnd : Span) :
    Leaves (Expr.readFilter tagEnd cursor) (fun value => value.spanless = call.spanless)
      extra := by
  obtain ⟨acceptedEnd, value, next, hsize, haccepted, hvalue, hnext⟩ := hcall
  have hreads : Parser.Reads acceptedEnd (.filterCall value) (Cursor.ofLexemes lexemes) next :=
    (Expr.readFilter_follows acceptedEnd _).of_ok _ haccepted
  have hnil := (Cursor.rest_eq_nil_iff next).1 hnext
  have hcursor : cursor.rest = ((Cursor.ofLexemes lexemes).extend extra).rest := hrest
  have hextended : Parser.Reads tagEnd (.filterCall value) cursor (next.extend extra) := by
    cases hreads with
    | filterCall hname hargs =>
        cases hargs with
        | argumentsNone hopen =>
            have hdot : EndsName extra next.kinds := by
              refine .inr ⟨hnil, fun hdot => ?_⟩
              cases hextra _ hdot
            obtain ⟨_, hname⟩ := Cursor.expectDotted_extend tagEnd hdot hname
            obtain ⟨_, hname⟩ := Cursor.expectDotted_of_rest hcursor hname
            refine .filterCall hname (.argumentsNone ?_)
            apply Cursor.take?_eq_none
            rw [Cursor.kinds_extend, hnil]
            intro hlparen
            cases hextra _ hlparen
        | argumentsSome hopen hseries =>
            have hend : Shielded extra (.punct .rparen :: next.kinds) := .closing rfl _ _
            have hinside := hend.of_suffix hseries.closing_suffix
            have hname' := Parser.shielded_of_take? hopen hinside
            obtain ⟨_, hname⟩ := Cursor.expectDotted_extend tagEnd (.inl hname') hname
            obtain ⟨_, hname⟩ := Cursor.expectDotted_of_rest hcursor hname
            obtain ⟨_, hopen⟩ := Cursor.take?_extend extra hopen
            exact .filterCall hname (.argumentsSome hopen (hseries.extend tagEnd extra hend))
  obtain ⟨hsize, hok⟩ := hextended.found _ (Nat.lt_succ_self _)
  refine ⟨value, next.extend extra, hsize, hok, hvalue, ?_⟩
  rw [Cursor.extend, hnext, List.nil_append]

end TemplateVariables
