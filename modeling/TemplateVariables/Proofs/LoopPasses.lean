import TemplateVariables.Proofs.CursorPositions

/-!
# Passes of loops

The loops of the readers of expressions and statements, pass by pass.  A pass begins
where the loop is tested and has not ended, and goes to the place of the next test,
or to the place where the loop is left in the middle of the pass.  Every pass reads a
lexeme, and so a loop makes no more passes than there are lexemes left.
-/

namespace TemplateVariables

open TemplateVariables.Parser

/-- The loops.  The first four stand behind an operand, the next six go through something with
commas, and the others belong to single lexemes and to statements. -/
inductive Loop where
  | operators (power : Nat)
  | conditionals
  | accesses
  | filters
  | tuple (level : Level)
  | group
  | list
  | dict
  | arguments
  | parameters
  | words
  | strings
  | targets
  | bindings
  | tagFilters
  | imports

namespace Loop

/-- The bracket that closes a series of items. -/
def closing? : Loop → Option Punct
  | .list => some .rbracket
  | .dict => some .rbrace
  | .arguments => some .rparen
  | _ => none

/-- A name, or names in brackets. -/
inductive Target (tagEnd : Span) (cursor : Cursor) : Cursor → Prop where
  | name {word : String} {span : Span} {next : Cursor} {hsize : next.size < cursor.size}
      (hname : cursor.name? = some ⟨(word, span), next, hsize⟩) : Target tagEnd cursor next
  | group {names : List String} {opened span : Span} {inside afterNames next : Cursor}
      {hinside : inside.size < cursor.size} {hnames : afterNames.size < inside.size}
      {hsize : next.size < afterNames.size}
      (hopen : cursor.take? (.punct .lparen) = some ⟨opened, inside, hinside⟩)
      (hread : Statement.readTargets tagEnd inside = .ok ⟨names, afterNames, hnames⟩)
      (hclose : afterNames.take? (.punct .rparen) = some ⟨span, next, hsize⟩) :
      Target tagEnd cursor next

/-- One pass of the loop. -/
inductive Pass (tagEnd : Span) : Loop → Cursor → Cursor → Prop where
  | operator {power : Nat} {op : BinaryOp} {right : Expr} {cursor afterOp next : Cursor}
      {hsize : afterOp.size < cursor.size}
      (hconnective : cursor.connective = .ok (some ⟨.operator op, afterOp, hsize⟩))
      (htight : ¬(Connective.operator op).leftPower < power)
      (hright : Reads tagEnd (.expression (.above op.powers.2) right) afterOp next) :
      Pass tagEnd (.operators power) cursor next
  | test {power : Nat} {left tested : Expr} {cursor afterOp next : Cursor}
      {hsize : afterOp.size < cursor.size}
      (hconnective : cursor.connective = .ok (some ⟨.test, afterOp, hsize⟩))
      (htight : ¬Connective.test.leftPower < power)
      (htest : Reads tagEnd (.test left tested) afterOp next) :
      Pass tagEnd (.operators power) cursor next
  | condition {condition : Expr} {span : Span} {cursor afterIf next : Cursor}
      {hsize : afterIf.size < cursor.size}
      (hif : cursor.take? (.name "if") = some ⟨span, afterIf, hsize⟩)
      (hcondition : Reads tagEnd (.expression (.above 0) condition) afterIf next)
      (helse : next.take? (.name "else") = none) :
      Pass tagEnd .conditionals cursor next
  | conditionElse {condition otherwise : Expr} {span elseSpan : Span}
      {cursor afterIf afterCondition afterElse next : Cursor}
      {hsize : afterIf.size < cursor.size} {hsize' : afterElse.size < afterCondition.size}
      (hif : cursor.take? (.name "if") = some ⟨span, afterIf, hsize⟩)
      (hcondition : Reads tagEnd (.expression (.above 0) condition) afterIf afterCondition)
      (helse : afterCondition.take? (.name "else") = some ⟨elseSpan, afterElse, hsize'⟩)
      (hotherwise : Reads tagEnd (.expression .full otherwise) afterElse next) :
      Pass tagEnd .conditionals cursor next
  | attributeOf {name : String} {span : Span} {cursor afterDot next : Cursor}
      {hsize : afterDot.size < cursor.size} {hsize' : next.size < afterDot.size}
      (hdot : cursor.take? (.punct .dot) = some ⟨span, afterDot, hsize⟩)
      (hname : attributeName tagEnd afterDot = .ok ⟨name, next, hsize'⟩) :
      Pass tagEnd .accesses cursor next
  | subscript {index : Expr} {opened span : Span} {cursor inside afterIndex next : Cursor}
      {hsize : inside.size < cursor.size} {hsize' : next.size < afterIndex.size}
      (hopen : cursor.take? (.punct .lbracket) = some ⟨opened, inside, hsize⟩)
      (hindex : Reads tagEnd (.subscriptIndex index) inside afterIndex)
      (hclose : afterIndex.take? (.punct .rbracket) = some ⟨span, next, hsize'⟩) :
      Pass tagEnd .accesses cursor next
  | call {args : List Argument} {opened : Span} {cursor inside next : Cursor}
      {hsize : inside.size < cursor.size}
      (hopen : cursor.take? (.punct .lparen) = some ⟨opened, inside, hsize⟩)
      (hargs : Reads tagEnd (.series .rparen (args.map .argument)) inside next) :
      Pass tagEnd .accesses cursor next
  | filter {loop : Loop} {call : FilterCall} {span : Span} {cursor afterBar next : Cursor}
      {hsize : afterBar.size < cursor.size} (hloop : loop = .filters ∨ loop = .tagFilters)
      (hbar : cursor.take? (.punct .pipe) = some ⟨span, afterBar, hsize⟩)
      (hcall : Reads tagEnd (.filterCall call) afterBar next) :
      Pass tagEnd loop cursor next
  -- A comma, and an item unless the comma is a trailing one
  | tupleItem {level : Level} {value : Expr} {span : Span} {cursor afterComma next : Cursor}
      {hsize : afterComma.size < cursor.size}
      (hcomma : cursor.take? (.punct .comma) = some ⟨span, afterComma, hsize⟩)
      (hmore : ¬afterComma.atListEnd = true)
      (hvalue : Reads tagEnd (.expression level value) afterComma next) :
      Pass tagEnd (.tuple level) cursor next
  | tupleComma {level : Level} {span : Span} {cursor next : Cursor}
      {hsize : next.size < cursor.size}
      (hcomma : cursor.take? (.punct .comma) = some ⟨span, next, hsize⟩)
      (hend : next.atListEnd = true) : Pass tagEnd (.tuple level) cursor next
  | groupItem {value : Expr} {span : Span} {cursor afterComma next : Cursor}
      {hsize : afterComma.size < cursor.size}
      (hcomma : cursor.take? (.punct .comma) = some ⟨span, afterComma, hsize⟩)
      (hmore : ¬afterComma.kind? = some (.punct .rparen))
      (hvalue : Reads tagEnd (.expression .full value) afterComma next) :
      Pass tagEnd .group cursor next
  | groupComma {span : Span} {cursor next : Cursor} {hsize : next.size < cursor.size}
      (hcomma : cursor.take? (.punct .comma) = some ⟨span, next, hsize⟩)
      (hend : next.kind? = some (.punct .rparen)) : Pass tagEnd .group cursor next
  | firstItem {loop : Loop} {closing : Punct} {item : Item} {cursor next : Cursor}
      (hloop : loop.closing? = some closing) (hmore : ¬cursor.kind? = some (.punct closing))
      (hitem : Reads tagEnd (.item item) cursor next) : Pass tagEnd loop cursor next
  | nextItem {loop : Loop} {closing : Punct} {item : Item} {span : Span}
      {cursor afterComma next : Cursor} {hsize : afterComma.size < cursor.size}
      (hloop : loop.closing? = some closing) (hmore : ¬cursor.kind? = some (.punct closing))
      (hcomma : cursor.take? (.punct .comma) = some ⟨span, afterComma, hsize⟩)
      (hmore' : ¬afterComma.kind? = some (.punct closing))
      (hitem : Reads tagEnd (.item item) afterComma next) : Pass tagEnd loop cursor next
  | lastComma {loop : Loop} {closing : Punct} {span : Span} {cursor next : Cursor}
      {hsize : next.size < cursor.size} (hloop : loop.closing? = some closing)
      (hmore : ¬cursor.kind? = some (.punct closing))
      (hcomma : cursor.take? (.punct .comma) = some ⟨span, next, hsize⟩)
      (hend : next.kind? = some (.punct closing)) : Pass tagEnd loop cursor next
  | firstParameter {param : Parameter} {cursor next : Cursor} {hsize : next.size < cursor.size}
      (hmore : cursor.take? (.punct .rparen) = none)
      (hparam : Statement.readParameter tagEnd cursor = .ok ⟨param, next, hsize⟩) :
      Pass tagEnd .parameters cursor next
  | nextParameter {param : Parameter} {span : Span} {cursor afterComma next : Cursor}
      {hsize : afterComma.size < cursor.size} {hsize' : next.size < afterComma.size}
      (hmore : cursor.take? (.punct .rparen) = none)
      (hcomma : cursor.take? (.punct .comma) = some ⟨span, afterComma, hsize⟩)
      (hmore' : afterComma.take? (.punct .rparen) = none)
      (hparam : Statement.readParameter tagEnd afterComma = .ok ⟨param, next, hsize'⟩) :
      Pass tagEnd .parameters cursor next
  | lastParameterComma {span closeSpan : Span} {cursor afterComma next : Cursor}
      {hsize : afterComma.size < cursor.size} {hsize' : next.size < afterComma.size}
      (hmore : cursor.take? (.punct .rparen) = none)
      (hcomma : cursor.take? (.punct .comma) = some ⟨span, afterComma, hsize⟩)
      (hclose : afterComma.take? (.punct .rparen) = some ⟨closeSpan, next, hsize'⟩) :
      Pass tagEnd .parameters cursor next
  -- Single lexemes
  | word {word : String} {span wordSpan : Span} {cursor afterDot next : Cursor}
      {hsize : afterDot.size < cursor.size} {hsize' : next.size < afterDot.size}
      (hdot : cursor.take? (.punct .dot) = some ⟨span, afterDot, hsize⟩)
      (hword : afterDot.name? = some ⟨(word, wordSpan), next, hsize'⟩) :
      Pass tagEnd .words cursor next
  | str {text : String} {span : Span} {cursor next : Cursor} {hsize : next.size < cursor.size}
      (hnext : cursor.next? = some ⟨⟨.str text, span⟩, next, hsize⟩) :
      Pass tagEnd .strings cursor next
  -- Statements
  | lastTarget {cursor next : Cursor} (htarget : Target tagEnd cursor next)
      (hcomma : next.take? (.punct .comma) = none) : Pass tagEnd .targets cursor next
  | target {span : Span} {cursor afterTarget next : Cursor}
      {hsize : next.size < afterTarget.size} (htarget : Target tagEnd cursor afterTarget)
      (hcomma : afterTarget.take? (.punct .comma) = some ⟨span, next, hsize⟩) :
      Pass tagEnd .targets cursor next
  | firstBinding {binding : String × Expr} {cursor next : Cursor}
      {hsize : next.size < cursor.size} (hmore : cursor.rest ≠ [])
      (hbinding : Statement.readBinding tagEnd cursor = .ok ⟨binding, next, hsize⟩) :
      Pass tagEnd .bindings cursor next
  | nextBinding {binding : String × Expr} {span : Span} {cursor afterComma next : Cursor}
      {hsize : afterComma.size < cursor.size} {hsize' : next.size < afterComma.size}
      (hcomma : cursor.take? (.punct .comma) = some ⟨span, afterComma, hsize⟩)
      (hbinding : Statement.readBinding tagEnd afterComma = .ok ⟨binding, next, hsize'⟩) :
      Pass tagEnd .bindings cursor next
  | lastImport {name : ImportedName} {cursor next : Cursor} {hsize : next.size < cursor.size}
      (hmore : ¬Statement.atContext cursor = true)
      (hname : Statement.readImportedName tagEnd cursor = .ok ⟨name, next, hsize⟩)
      (hcomma : next.take? (.punct .comma) = none) : Pass tagEnd .imports cursor next
  | importName {name : ImportedName} {span : Span} {cursor afterName next : Cursor}
      {hsize : afterName.size < cursor.size} {hsize' : next.size < afterName.size}
      (hmore : ¬Statement.atContext cursor = true)
      (hname : Statement.readImportedName tagEnd cursor = .ok ⟨name, afterName, hsize⟩)
      (hcomma : afterName.take? (.punct .comma) = some ⟨span, next, hsize'⟩) :
      Pass tagEnd .imports cursor next

variable {tagEnd : Span} {loop : Loop} {cursor next : Cursor}

theorem movesOn_of_item {item : Item} (hitem : Reads tagEnd (.item item) cursor next) :
    cursor.MovesOn next := by
  have hfound := hitem.found
  refine ⟨hitem.advances, ?_⟩
  cases item with
  | expr value =>
      rcases hfound with ⟨hsize, -⟩
      exact hsize
  | argument arg =>
      rcases hfound _ cursor.size_lt_succ with ⟨hsize, -⟩
      exact hsize
  | entry pair =>
      rcases hfound _ cursor.size_lt_succ with ⟨hsize, -⟩
      exact hsize

theorem Target.movesOn (htarget : Target tagEnd cursor next) : cursor.MovesOn next := by
  cases htarget with
  | name hname => exact ⟨Cursor.advances_of_name? hname, ‹_›⟩
  | group hopen hread hclose =>
      have hnames := ((Statement.readTargets_takes tagEnd _).of_ok _ hread).advances
      have hclosed := hnames.trans (Cursor.advances_of_take? hclose)
      exact (Cursor.movesOn_of_take? hopen).trans hclosed

/-- Every pass reads a lexeme. -/
theorem Pass.movesOn (hpass : Pass tagEnd loop cursor next) : cursor.MovesOn next := by
  cases hpass with
  | operator hconnective _ hright =>
      have hop : Cursor.MovesOn _ _ := ⟨Cursor.advances_of_connective hconnective, ‹_›⟩
      exact hop.trans hright.advances
  | test hconnective _ htest =>
      have hop : Cursor.MovesOn _ _ := ⟨Cursor.advances_of_connective hconnective, ‹_›⟩
      exact hop.trans htest.advances
  | condition hif hcondition _ => exact (Cursor.movesOn_of_take? hif).trans hcondition.advances
  | conditionElse hif hcondition helse hotherwise =>
      have hafter := (Cursor.advances_of_take? helse).trans hotherwise.advances
      exact (Cursor.movesOn_of_take? hif).trans (hcondition.advances.trans hafter)
  | attributeOf hdot hname =>
      exact (Cursor.movesOn_of_take? hdot).trans (Cursor.advances_of_attributeName hname)
  | subscript hopen hindex hclose =>
      have hclosed := hindex.advances.trans (Cursor.advances_of_take? hclose)
      exact (Cursor.movesOn_of_take? hopen).trans hclosed
  | call hopen hargs => exact (Cursor.movesOn_of_take? hopen).trans hargs.advances
  | filter _ hbar hcall => exact (Cursor.movesOn_of_take? hbar).trans hcall.advances
  | tupleItem hcomma _ hvalue => exact (Cursor.movesOn_of_take? hcomma).trans hvalue.advances
  | tupleComma hcomma _ => exact Cursor.movesOn_of_take? hcomma
  | groupItem hcomma _ hvalue => exact (Cursor.movesOn_of_take? hcomma).trans hvalue.advances
  | groupComma hcomma _ => exact Cursor.movesOn_of_take? hcomma
  | firstItem _ _ hitem => exact movesOn_of_item hitem
  | nextItem _ _ hcomma _ hitem => exact (Cursor.movesOn_of_take? hcomma).trans hitem.advances
  | lastComma _ _ hcomma _ => exact Cursor.movesOn_of_take? hcomma
  | firstParameter _ hparam =>
      exact ⟨((Statement.readParameter_takes tagEnd _).of_ok _ hparam).advances, ‹_›⟩
  | nextParameter _ hcomma _ hparam =>
      have hread := (Statement.readParameter_takes tagEnd _).of_ok _ hparam
      exact (Cursor.movesOn_of_take? hcomma).trans hread.advances
  | lastParameterComma _ hcomma hclose =>
      exact (Cursor.movesOn_of_take? hcomma).trans (Cursor.advances_of_take? hclose)
  | word hdot hword =>
      exact (Cursor.movesOn_of_take? hdot).trans (Cursor.advances_of_name? hword)
  | str hnext => exact ⟨Cursor.advances_of_next? hnext, ‹_›⟩
  | lastTarget htarget _ => exact htarget.movesOn
  | target htarget hcomma => exact htarget.movesOn.trans (Cursor.advances_of_take? hcomma)
  | firstBinding _ hbinding =>
      exact ⟨((Statement.readBinding_takes tagEnd _).of_ok _ hbinding).advances, ‹_›⟩
  | nextBinding hcomma hbinding =>
      have hread := (Statement.readBinding_takes tagEnd _).of_ok _ hbinding
      exact (Cursor.movesOn_of_take? hcomma).trans hread.advances
  | lastImport _ hname _ =>
      exact ⟨((Statement.readImportedName_takes tagEnd _).of_ok _ hname).advances, ‹_›⟩
  | importName _ hname hcomma =>
      have hread := (Statement.readImportedName_takes tagEnd _).of_ok _ hname
      have hmoves : Cursor.MovesOn _ _ := ⟨hread.advances, ‹_›⟩
      exact hmoves.trans (Cursor.advances_of_take? hcomma)

/-- The loop makes so many passes on the way from one place to another. -/
inductive Passes (tagEnd : Span) (loop : Loop) : Nat → Cursor → Cursor → Prop where
  | stop (cursor : Cursor) : Passes tagEnd loop 0 cursor cursor
  | pass {count : Nat} {cursor middle next : Cursor} (hpass : Pass tagEnd loop cursor middle)
      (hrest : Passes tagEnd loop count middle next) : Passes tagEnd loop (count + 1) cursor next

/-- So many passes go forward by as many lexemes, and so there are no more of them than lexemes
that are left. -/
theorem Passes.at {lexemes : List Lexeme} {pos count : Nat}
    (hpasses : Passes tagEnd loop count cursor next) (hat : cursor.At lexemes pos) :
    ∃ later, pos + count ≤ later ∧ next.At lexemes later := by
  induction hpasses generalizing pos with
  | stop => exact ⟨pos, by omega, hat⟩
  | pass hpass _ ih =>
      rcases hpass.movesOn.beyond hat with ⟨middle, hlt, hmiddle, -⟩
      rcases ih hmiddle with ⟨later, hle, hlater⟩
      exact ⟨later, by omega, hlater⟩

theorem Passes.advances {count : Nat} (hpasses : Passes tagEnd loop count cursor next) :
    cursor.Advances next := by
  induction hpasses with
  | stop => exact .refl _
  | pass hpass _ ih => exact hpass.movesOn.1.trans ih

/-! ## Loops that end well -/

/-- Behind its last pass a loop is left, with a closing bracket if it is a loop in brackets. -/
inductive Leaves : Loop → Cursor → Cursor → Prop where
  | here {loop : Loop} (cursor : Cursor) (hloop : loop.closing? = none) : Leaves loop cursor cursor
  | bracket {loop : Loop} {closing : Punct} {span : Span} {last next : Cursor}
      {hsize : next.size < last.size}
      (hloop : loop.closing? = some closing ∨ loop = .parameters ∧ closing = .rparen)
      (hclose : last.take? (.punct closing) = some ⟨span, next, hsize⟩) : Leaves loop last next

/-- The loop goes from one place to another in passes, and is left there. -/
def Completes (tagEnd : Span) (loop : Loop) (cursor next : Cursor) : Prop :=
  ∃ count last, Passes tagEnd loop count cursor last ∧ Leaves loop last next

/-- What goes through the loop succeeds. -/
def Succeeds (tagEnd : Span) (cursor next : Cursor) : Loop → Prop
  | .operators power => ∃ left value,
      Gives (operatorTail tagEnd (reader tagEnd (cursor.size + 1)) power left cursor
        cursor.size_lt_succ) value next
  | .conditionals => ∃ head value,
      Gives (conditionalTail (reader tagEnd (cursor.size + 1)) head cursor
        cursor.size_lt_succ) value next
  | .accesses => ∃ base value,
      Gives (accessTail tagEnd (reader tagEnd (cursor.size + 1)) base cursor
        cursor.size_lt_succ) value next
  | .filters => ∃ base value,
      Gives (filterTail tagEnd (reader tagEnd (cursor.size + 1)) base cursor
        cursor.size_lt_succ) value next
  | .tuple level => ∃ items, Gives (Expr.readTupleTail tagEnd level cursor) items next
  | .group => ∃ items,
      Gives (groupTail (reader tagEnd (cursor.size + 1)) cursor cursor.size_lt_succ) items next
  | .list => ∃ opened items,
      Gives (series tagEnd (reader tagEnd (cursor.size + 1) .full) .lbracket .rbracket opened
        cursor cursor.size_lt_succ) items next
  | .dict => ∃ opened entries,
      Gives (series tagEnd (entry tagEnd (reader tagEnd (cursor.size + 1))) .lbrace .rbrace opened
        cursor cursor.size_lt_succ) entries next
  | .arguments => ∃ opened args,
      Gives (Parser.arguments tagEnd (reader tagEnd (cursor.size + 1)) opened cursor
        cursor.size_lt_succ) args next
  | .parameters => ∃ before span hsize params,
      before.take? (.punct .lparen) = some ⟨span, cursor, hsize⟩ ∧
        Gives (Statement.readParameters tagEnd before) params next
  | .words => cursor.moreWords.next = next
  | .strings => ∃ text span, (cursor.moreStrings text span).next = next
  | .targets => ∃ names, Gives (Statement.readTargets tagEnd cursor) names next
  | .bindings =>
      (∃ bindings, Statement.readBindings tagEnd cursor = .ok bindings) ∧
        cursor.Advances next ∧ next.rest = []
  | .tagFilters => ∃ filters, Gives (Statement.readFilters tagEnd cursor) filters next
  | .imports => ∃ names, Gives (Statement.readImportedNames tagEnd cursor) names next

theorem Completes.stop (cursor : Cursor) (hloop : loop.closing? = none) :
    Completes tagEnd loop cursor cursor :=
  ⟨0, cursor, .stop cursor, .here cursor hloop⟩

theorem Completes.pass {middle : Cursor} (hpass : Pass tagEnd loop cursor middle)
    (hrest : Completes tagEnd loop middle next) : Completes tagEnd loop cursor next := by
  rcases hrest with ⟨count, last, hpasses, hleaves⟩
  exact ⟨count + 1, last, .pass hpass hpasses, hleaves⟩

theorem Completes.advances (hcompletes : Completes tagEnd loop cursor next) :
    cursor.Advances next := by
  rcases hcompletes with ⟨count, last, hpasses, hleaves⟩
  cases hleaves with
  | here => exact hpasses.advances
  | bracket _ hclose => exact hpasses.advances.trans (Cursor.advances_of_take? hclose)

theorem Completes.bracket {closing : Punct} {span : Span} {hsize : next.size < cursor.size}
    (hloop : loop.closing? = some closing ∨ loop = .parameters ∧ closing = .rparen)
    (hclose : cursor.take? (.punct closing) = some ⟨span, next, hsize⟩) :
    Completes tagEnd loop cursor next :=
  ⟨0, cursor, .stop cursor, .bracket hloop hclose⟩

/-- What the rules of reading say of the loop in the form. -/
def Of (tagEnd : Span) : Form → Cursor → Cursor → Prop
  | .operatorTail power _ _, cursor, next => Completes tagEnd (.operators power) cursor next
  | .conditionalTail _ _, cursor, next => Completes tagEnd .conditionals cursor next
  | .accessTail _ _, cursor, next => Completes tagEnd .accesses cursor next
  | .filterTail _ _, cursor, next => Completes tagEnd .filters cursor next
  | .groupTail _, cursor, next => Completes tagEnd .group cursor next
  | .tupleTail level _, cursor, next => Completes tagEnd (.tuple level) cursor next
  | .series closing _, cursor, next => ∀ loop : Loop, loop.closing? = some closing →
      Completes tagEnd loop cursor next
  | .seriesTail closing _, cursor, last => ∀ (loop : Loop) (span : Span) (next : Cursor)
      (hsize : next.size < last.size), loop.closing? = some closing →
        last.take? (.punct closing) = some ⟨span, next, hsize⟩ → Completes tagEnd loop cursor next
  | _, _, _ => True

theorem of_reads {form : Form} (hreads : Reads tagEnd form cursor next) :
    Of tagEnd form cursor next := by
  induction hreads with
  | operatorStop => exact .stop _ rfl
  | operatorLoose => exact .stop _ rfl
  | operatorTest hconnective htight htest _ _ ih => exact .pass (.test hconnective htight htest) ih
  | operatorJoin hconnective htight hright _ _ ih =>
      exact .pass (.operator hconnective htight hright) ih
  | conditionalStop => exact .stop _ rfl
  | conditionalThen hif hcondition helse _ _ ih => exact .pass (.condition hif hcondition helse) ih
  | conditionalElse hif hcondition helse hotherwise _ _ _ ih =>
      exact .pass (.conditionElse hif hcondition helse hotherwise) ih
  | accessStop => exact .stop _ rfl
  | accessAttribute hdot hname _ ih => exact .pass (.attributeOf hdot hname) ih
  | accessSubscript _ hopen hindex hclose _ _ ih => exact .pass (.subscript hopen hindex hclose) ih
  | accessCall _ _ hopen hargs _ _ ih => exact .pass (.call hopen hargs) ih
  | filterStop => exact .stop _ rfl
  | filterNext hbar hcall _ _ ih => exact .pass (.filter (.inl rfl) hbar hcall) ih
  | groupTailStop => exact .stop _ rfl
  | groupTailComma hcomma hclose => exact .pass (.groupComma hcomma hclose) (.stop _ rfl)
  | groupTailItem hcomma hmore hfirst _ _ ih => exact .pass (.groupItem hcomma hmore hfirst) ih
  | seriesEmpty _ hclose =>
      intro loop hloop
      exact .bracket (.inl hloop) hclose
  | series _ hnone hfirst _ hclose _ ih =>
      intro loop hloop
      exact .pass (.firstItem hloop hnone hfirst) (ih loop _ _ _ hloop hclose)
  | seriesTailStop =>
      intro loop span next hsize hloop hclose
      exact .bracket (.inl hloop) hclose
  | seriesTailComma hnone hcomma hend =>
      intro loop span next hsize hloop hclose
      exact .pass (.lastComma hloop hnone hcomma hend) (.bracket (.inl hloop) hclose)
  | seriesTailItem hnone hcomma hmore hfirst _ _ ih =>
      intro loop span next hsize hloop hclose
      exact .pass (.nextItem hloop hnone hcomma hmore hfirst) (ih loop _ _ _ hloop hclose)
  | tupleTailStop => exact .stop _ rfl
  | tupleTailComma hcomma hend => exact .pass (.tupleComma hcomma hend) (.stop _ rfl)
  | tupleTailItem hcomma hmore hfirst _ _ ih => exact .pass (.tupleItem hcomma hmore hfirst) ih
  | _ => exact True.intro

/-! ## Loops over single lexemes and in statements -/

theorem completes_words (cursor : Cursor) :
    Completes tagEnd .words cursor cursor.moreWords.next := by
  fun_induction Cursor.moreWords cursor with
  | case1 cursor => exact .stop cursor rfl
  | case2 cursor => exact .stop cursor rfl
  | case3 cursor _ afterDot _ hdot word _ afterWord _ hword words after _ hmore ih =>
      rw [hmore] at ih
      exact .pass (.word hdot hword) ih

theorem completes_strings (text : String) (span : Span) (cursor : Cursor) :
    Completes tagEnd .strings cursor (cursor.moreStrings text span).next := by
  fun_induction Cursor.moreStrings text span cursor with
  | case1 _ _ cursor more moreSpan afterMore _ hnext result after _ hrec ih =>
      rw [hrec] at ih
      exact .pass (.str hnext) ih
  | case2 => exact .stop _ rfl

theorem completes_of_reads {rule : TargetRule} {cursor next : Cursor} {names : List String}
    (hreads : ReadsTargets rule cursor names next) :
    match rule with
    | .one => Target tagEnd cursor next
    | .several => Completes tagEnd .targets cursor next := by
  induction hreads with
  | name hname => exact .name hname
  | group hopen hnames hclose _ =>
      obtain ⟨hsize, hread⟩ := Statement.readTargets_gives tagEnd hnames
      exact .group hopen hread hclose
  | last _ hcomma ih => exact .pass (.lastTarget ih hcomma) (.stop _ rfl)
  | trailing _ hcomma _ ih => exact .pass (.target ih hcomma) (.stop _ rfl)
  | more _ hcomma _ _ ih ihOthers => exact .pass (.target ih hcomma) ihOthers

theorem completes_parametersTail (cursor : Cursor) :
    Ensures (Statement.readParametersTail tagEnd cursor)
      (fun step => Completes tagEnd .parameters cursor step.next) := by
  rw [Statement.readParametersTail]
  cases hclose : cursor.take? (.punct .rparen) with
  | some closed => exact Ensures.ok (.bracket (.inr ⟨rfl, rfl⟩) hclose)
  | none =>
      apply (expect_takes cursor (.punct .comma)).bind
      rintro ⟨_, afterComma, hafterComma⟩ hcomma
      dsimp only
      cases hclose' : afterComma.take? (.punct .rparen) with
      | some closed =>
          exact Ensures.ok (.pass (.lastParameterComma hclose hcomma hclose') (.stop _ rfl))
      | none =>
          apply (Ensures.refl _).bind
          rintro ⟨first, afterFirst, hafterFirst⟩ hfirst
          apply (completes_parametersTail afterFirst).bind
          rintro ⟨others, next, hnext⟩ hothers
          exact Ensures.ok (.pass (.nextParameter hclose hcomma hclose' hfirst) hothers)
termination_by cursor.size
decreasing_by exact Cursor.lt_trans hafterComma hafterFirst

theorem completes_parameters {before : Cursor} {span : Span} {hsize : cursor.size < before.size}
    (hopen : before.take? (.punct .lparen) = some ⟨span, cursor, hsize⟩) :
    Ensures (Statement.readParameters tagEnd before)
      (fun step => Completes tagEnd .parameters cursor step.next) := by
  unfold Statement.readParameters
  apply (expect_takes before (.punct .lparen)).bind
  rintro ⟨_, inside, hinside⟩ hinsideOpen
  rw [hopen] at hinsideOpen
  cases hinsideOpen
  dsimp only
  cases hclose : cursor.take? (.punct .rparen) with
  | some closed => exact Ensures.ok (.bracket (.inr ⟨rfl, rfl⟩) hclose)
  | none =>
      apply (Ensures.refl _).bind
      rintro ⟨first, afterFirst, hafterFirst⟩ hfirst
      apply (completes_parametersTail afterFirst).bind
      rintro ⟨others, next, hnext⟩ hothers
      exact Ensures.ok (.pass (.firstParameter hclose hfirst) hothers)

theorem completes_bindingsTail (cursor : Cursor) :
    Ensures (Statement.readBindingsTail tagEnd cursor)
      (fun _ => ∃ next, next.rest = [] ∧ Completes tagEnd .bindings cursor next) := by
  rw [Statement.readBindingsTail]
  split
  · next hend => exact Ensures.ok ⟨cursor, hend, .stop cursor rfl⟩
  apply (expect_takes cursor (.punct .comma)).bind
  rintro ⟨_, afterComma, hafterComma⟩ hcomma
  apply (Ensures.refl _).bind
  rintro ⟨first, afterFirst, hafterFirst⟩ hfirst
  apply (completes_bindingsTail afterFirst).bind
  rintro others ⟨next, hnext, hothers⟩
  exact Ensures.ok ⟨next, hnext, .pass (.nextBinding hcomma hfirst) hothers⟩
termination_by cursor.size
decreasing_by exact Cursor.lt_trans hafterComma hafterFirst

theorem completes_bindings (cursor : Cursor) :
    Ensures (Statement.readBindings tagEnd cursor)
      (fun _ => ∃ next, next.rest = [] ∧ Completes tagEnd .bindings cursor next) := by
  unfold Statement.readBindings
  split
  · next hend => exact Ensures.ok ⟨cursor, hend, .stop cursor rfl⟩
  next hmore =>
  apply (Ensures.refl _).bind
  rintro ⟨first, afterFirst, hafterFirst⟩ hfirst
  apply (completes_bindingsTail afterFirst).bind
  rintro others ⟨next, hnext, hothers⟩
  exact Ensures.ok ⟨next, hnext, .pass (.firstBinding hmore hfirst) hothers⟩

theorem completes_tagFilters (cursor : Cursor) :
    Ensures (Statement.readFilters tagEnd cursor)
      (fun step => Completes tagEnd .tagFilters cursor step.next) := by
  rw [Statement.readFilters]
  cases hbar : cursor.take? (.punct .pipe) with
  | none => exact Ensures.ok (.stop cursor rfl)
  | some bar =>
      apply (Expr.readFilter_follows tagEnd bar.next).bind
      rintro ⟨first, afterFirst, hafterFirst⟩ hfirst
      apply (completes_tagFilters afterFirst).bind
      rintro ⟨others, next, hnext⟩ hothers
      exact Ensures.ok (.pass (.filter (.inr rfl) hbar hfirst) hothers)
termination_by cursor.size
decreasing_by exact Cursor.lt_trans bar.shorter hafterFirst

theorem completes_imports (cursor : Cursor) :
    Ensures (Statement.readImportedNames tagEnd cursor)
      (fun step => Completes tagEnd .imports cursor step.next) := by
  rw [Statement.readImportedNames]
  split
  · exact Ensures.ok (.stop cursor rfl)
  next hmore =>
  apply (Ensures.refl _).bind
  rintro ⟨first, afterFirst, hafterFirst⟩ hfirst
  cases hcomma : afterFirst.take? (.punct .comma) with
  | none =>
      simp only [hcomma]
      exact Ensures.ok (.pass (.lastImport hmore hfirst hcomma) (.stop _ rfl))
  | some comma =>
      simp only [hcomma]
      apply (completes_imports comma.next).bind
      rintro ⟨others, next, hnext⟩ hothers
      exact Ensures.ok (.pass (.importName hmore hfirst hcomma) hothers)
termination_by cursor.size
decreasing_by exact Cursor.lt_trans hafterFirst comma.shorter

/-- A loop that ends well has made passes from where it was entered to where it was left. -/
theorem Succeeds.completes (hsucceeds : Succeeds tagEnd cursor next loop) :
    Completes tagEnd loop cursor next := by
  have hreader := reader_follows tagEnd (cursor.size + 1)
  cases loop with
  | operators power =>
      rcases hsucceeds with ⟨left, value, hsize, hread⟩
      exact of_reads ((operatorTail_follows hreader power left cursor _).of_ok _ hread)
  | conditionals =>
      rcases hsucceeds with ⟨head, value, hsize, hread⟩
      exact of_reads ((conditionalTail_follows hreader head cursor _).of_ok _ hread)
  | accesses =>
      rcases hsucceeds with ⟨base, value, hsize, hread⟩
      exact of_reads ((accessTail_follows hreader base cursor _).of_ok _ hread)
  | filters =>
      rcases hsucceeds with ⟨base, value, hsize, hread⟩
      exact of_reads ((filterTail_follows hreader base cursor _).of_ok _ hread)
  | tuple level =>
      rcases hsucceeds with ⟨items, hsize, hread⟩
      exact of_reads ((Expr.readTupleTail_follows tagEnd level cursor).of_ok _ hread)
  | group =>
      rcases hsucceeds with ⟨items, hsize, hread⟩
      exact of_reads ((groupTail_follows hreader cursor _).of_ok _ hread)
  | list =>
      rcases hsucceeds with ⟨opened, items, hsize, hread⟩
      have hitem : ∀ inner hbound, Ensures (reader tagEnd (cursor.size + 1) .full inner hbound)
          (fun step => Reads tagEnd (.item (.expr step.value)) inner step.next) := by
        intro inner hbound
        constructor
        intro step hstep
        exact .itemExpr ((hreader .full inner hbound).of_ok step hstep)
      have hreads := (series_follows hitem .lbracket rfl opened cursor _).of_ok _ hread
      exact of_reads hreads .list rfl
  | dict =>
      rcases hsucceeds with ⟨opened, entries, hsize, hread⟩
      have hreads :=
        (series_follows (entry_follows hreader) .lbrace rfl opened cursor _).of_ok _ hread
      exact of_reads hreads .dict rfl
  | arguments =>
      rcases hsucceeds with ⟨opened, args, hsize, hread⟩
      exact of_reads ((arguments_follows hreader opened cursor _).of_ok _ hread) .arguments rfl
  | parameters =>
      rcases hsucceeds with ⟨before, span, hcursor, params, hopen, hsize, hread⟩
      exact (completes_parameters hopen).of_ok _ hread
  | words =>
      rw [← show cursor.moreWords.next = next from hsucceeds]
      exact completes_words cursor
  | strings =>
      rcases hsucceeds with ⟨text, span, rfl⟩
      exact completes_strings text span cursor
  | targets =>
      rcases hsucceeds with ⟨names, hsize, hread⟩
      exact completes_of_reads ((Statement.readTargets_reads tagEnd cursor).of_ok _ hread)
  | bindings =>
      rcases hsucceeds with ⟨⟨bindings, hread⟩, hadvances, hend⟩
      rcases (completes_bindings cursor).of_ok _ hread with ⟨last, hlast, hcompletes⟩
      have hsize : last.size = next.size := by simp [Cursor.size, hlast, hend]
      rwa [hcompletes.advances.eq_of_size_eq hadvances hsize] at hcompletes
  | tagFilters =>
      rcases hsucceeds with ⟨filters, hsize, hread⟩
      exact (completes_tagFilters cursor).of_ok _ hread
  | imports =>
      rcases hsucceeds with ⟨names, hsize, hread⟩
      exact (completes_imports cursor).of_ok _ hread

end Loop

end TemplateVariables
