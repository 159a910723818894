import TemplateVariables.Proofs.Expr.Agreement
import TemplateVariables.Proofs.Expr.Context

/-!
# What stands behind an operand

Operators and conditionals are read behind an operand without a look at it.  Behind another
operand the same lexemes are read, into another tree.  So an expression is read to the same
end behind an operator as by itself, and of two operands that are the same up to spans either
may stand in front of the same lexemes.
-/

namespace TemplateVariables

namespace Parser

variable {tagEnd : Span} {cursor middle next : Cursor} {left value : Expr}

/-! ## Behind any operand -/

theorem Reads.test_any (hreads : Reads tagEnd (.test left value) cursor next) (other : Expr) :
    ∃ value', Reads tagEnd (.test other value') cursor next := by
  cases hreads with
  | testArguments hnot hname hargs => exact ⟨_, .testArguments hnot hname hargs⟩
  | testBare hnot hname hargs hbare hhead htail =>
      exact ⟨_, .testBare hnot hname hargs hbare hhead htail⟩
  | testPlain hnot hname hargs hbare => exact ⟨_, .testPlain hnot hname hargs hbare⟩

theorem Reads.operatorTail_any {power : Nat}
    (hreads : Reads tagEnd (.operatorTail power left value) cursor next) (other : Expr) :
    ∃ value', Reads tagEnd (.operatorTail power other value') cursor next := by
  generalize hform : Form.operatorTail power left value = form at hreads
  induction hreads generalizing left value other with
  | operatorStop hstop =>
      cases hform
      exact ⟨other, .operatorStop hstop⟩
  | operatorLoose hconnective hloose =>
      cases hform
      exact ⟨other, .operatorLoose hconnective hloose⟩
  | operatorTest hconnective htight htest _ _ ih =>
      cases hform
      obtain ⟨tested, htest⟩ := htest.test_any other
      obtain ⟨value, htail⟩ := ih tested rfl
      exact ⟨value, .operatorTest hconnective htight htest htail⟩
  | operatorJoin hconnective htight hright _ _ ih =>
      cases hform
      obtain ⟨value, htail⟩ := ih _ rfl
      exact ⟨value, .operatorJoin hconnective htight hright htail⟩
  | _ => cases hform

theorem Reads.conditionalTail_any {head : Expr}
    (hreads : Reads tagEnd (.conditionalTail head value) cursor next) (other : Expr) :
    ∃ value', Reads tagEnd (.conditionalTail other value') cursor next := by
  generalize hform : Form.conditionalTail head value = form at hreads
  induction hreads generalizing head value other with
  | conditionalStop hif =>
      cases hform
      exact ⟨other, .conditionalStop hif⟩
  | conditionalThen hif hcondition helse _ _ ih =>
      cases hform
      obtain ⟨value, htail⟩ := ih _ rfl
      exact ⟨value, .conditionalThen hif hcondition helse htail⟩
  | conditionalElse hif hcondition helse hotherwise _ _ _ ih =>
      cases hform
      obtain ⟨value, htail⟩ := ih _ rfl
      exact ⟨value, .conditionalElse hif hcondition helse hotherwise htail⟩
  | _ => cases hform

/-- Operators of all powers are read like those down to a given power, and then the others
behind whatever has become of them. -/
theorem Reads.operatorTail_split
    (hreads : Reads tagEnd (.operatorTail 0 left value) cursor next) (power : Nat) :
    ∃ tighter middle, Reads tagEnd (.operatorTail power left tighter) cursor middle ∧
      ∀ other, ∃ value', Reads tagEnd (.operatorTail 0 other value') middle next := by
  generalize hform : Form.operatorTail 0 left value = form at hreads
  -- The tighter part ends in front of the first connective that is too loose for it.
  induction hreads generalizing left value with
  | operatorStop hstop =>
      cases hform
      exact ⟨_, _, .operatorStop hstop, fun other => ⟨other, .operatorStop hstop⟩⟩
  | operatorLoose hconnective hloose =>
      cases hform
      exact absurd hloose (Nat.not_lt_zero _)
  | operatorTest hconnective htight htest htail _ ih =>
      cases hform
      by_cases hloose : Connective.test.leftPower < power
      · exact ⟨_, _, .operatorLoose hconnective hloose,
          (Reads.operatorTest hconnective htight htest htail).operatorTail_any⟩
      · obtain ⟨tighter, middle, hbefore, hafter⟩ := ih rfl
        exact ⟨tighter, middle, .operatorTest hconnective hloose htest hbefore, hafter⟩
  | @operatorJoin _ _ _ _ op _ _ _ _ _ hconnective htight hright htail _ ih =>
      cases hform
      by_cases hloose : (Connective.operator op).leftPower < power
      · exact ⟨_, _, .operatorLoose hconnective hloose,
          (Reads.operatorJoin hconnective htight hright htail).operatorTail_any⟩
      · obtain ⟨tighter, middle, hbefore, hafter⟩ := ih rfl
        exact ⟨tighter, middle, .operatorJoin hconnective hloose hright hbefore, hafter⟩
  | _ => cases hform

/-! ## Operands at the front -/

/-- An operand or the test of one is read first, and everything else behind it. -/
inductive StartsAs (tagEnd : Span) (cursor : Cursor) : Expr → Cursor → Prop where
  | operand {left : Expr} {middle : Cursor} (hsigned : Reads tagEnd (.signed left) cursor middle) :
      StartsAs tagEnd cursor left middle
  | test {left tested : Expr} {afterLeft afterIs middle : Cursor}
      {hsize : afterIs.size < afterLeft.size}
      (hsigned : Reads tagEnd (.signed left) cursor afterLeft)
      (hconnective : afterLeft.connective = .ok (some ⟨.test, afterIs, hsize⟩))
      (htest : Reads tagEnd (.test left tested) afterIs middle) :
      StartsAs tagEnd cursor tested middle

theorem StartsAs.operation (hstarts : StartsAs tagEnd cursor left middle)
    (htail : Reads tagEnd (.operatorTail 0 left value) middle next) :
    Reads tagEnd (.operation 0 value) cursor next := by
  cases hstarts with
  | operand hsigned => exact .operation hsigned htail
  | test hsigned hconnective htest =>
      exact .operation hsigned (.operatorTest hconnective (Nat.not_lt_zero _) htest htail)

theorem StartsAs.operation_eq {tested : Expr} (hstarts : StartsAs tagEnd cursor tested middle) :
    ∃ hsize : middle.size < cursor.size,
      Parser.operation tagEnd (reader tagEnd cursor.size) 0 cursor (Nat.le_refl _) =
        (operatorTail tagEnd (reader tagEnd cursor.size) 0 tested middle hsize >>= fun step =>
          .ok ⟨step.value, step.next, Cursor.lt_of_lt_succ hsize step.shorter⟩) := by
  cases hstarts with
  | operand hsigned =>
      obtain ⟨hsize, hok⟩ := hsigned.found cursor.size (Nat.le_refl _)
      refine ⟨hsize, ?_⟩
      rw [Parser.operation, hok]
      rfl
  | @test left _ afterLeft afterIs _ hafterIs hsigned hconnective htest =>
      obtain ⟨hafterLeft, hok⟩ := hsigned.found cursor.size (Nat.le_refl _)
      have hbound := Cursor.lt_trans hafterLeft hafterIs
      obtain ⟨hmiddle, hokTest⟩ := htest.found cursor.size hbound
      refine ⟨Cursor.lt_trans hbound hmiddle, ?_⟩
      have htail : operatorTail tagEnd (reader tagEnd cursor.size) 0 left afterLeft hafterLeft =
          (operatorTail tagEnd (reader tagEnd cursor.size) 0 tested middle
            (Cursor.lt_trans hbound hmiddle) >>= fun step =>
              .ok ⟨step.value, step.next, Cursor.lt_succ (Cursor.lt_of_lt_succ
                (Cursor.lt_trans hafterIs hmiddle) step.shorter)⟩) := by
        rw [operatorTail, hconnective]
        simp only [bind, Except.bind, Nat.not_lt_zero, if_false, hokTest]
        rfl
      rw [Parser.operation, hok]
      simp only [bind, Except.bind, htail]
      cases operatorTail tagEnd (reader tagEnd cursor.size) 0 tested middle _ <;> rfl

end Parser

/-! ## Expressions that begin with an operand -/

namespace Expr

open TemplateVariables.Parser (Reads StartsAs)

variable {tagEnd tagEnd' : Span} {lexemes lexemes' : List Lexeme}
  {left left' : Expr} {middle middle' next : Cursor}

/-- Operands that are the same up to spans go on alike in front of the same lexemes. -/
theorem ofLexemes_alike_of_startsAs
    (hstarts : StartsAs tagEnd (.ofLexemes lexemes) left middle)
    (hstarts' : StartsAs tagEnd' (.ofLexemes lexemes') left' middle')
    (hleft : left.spanless = left'.spanless) (hmiddle : middle.kinds = middle'.kinds) :
    Agree (fun value value' : Expr => value.spanless = value'.spanless)
      (ofLexemes lexemes tagEnd) (ofLexemes lexemes' tagEnd') := by
  have hnested := Parser.reader_alike tagEnd tagEnd' (Cursor.ofLexemes lexemes).size
    (Cursor.ofLexemes lexemes').size
  apply ofLexemes_alike_of_readTuple
  apply readTuple_alike_of_read
  apply read_full_alike hnested
  obtain ⟨hsize, heq⟩ := hstarts.operation_eq
  obtain ⟨hsize', heq'⟩ := hstarts'.operation_eq
  rw [heq, heq']
  apply (Parser.operatorTail_alike hnested 0 hleft hmiddle hsize hsize').bind
  intro value value' next next' _ _ hvalue hnext
  exact Alike.ok hvalue hnext

theorem ofLexemes_of_reads {value : Expr}
    (hreads : Reads tagEnd (.tuple .full value) (.ofLexemes lexemes) next)
    (hnext : next.kinds = []) : ofLexemes lexemes tagEnd = .ok value := by
  obtain ⟨hsize, hok⟩ := hreads.found
  have hend : next.expectEnd = .ok () := Cursor.expectEnd_eq_ok hnext
  rw [ofLexemes, hok]
  simp only [bind, Except.bind, hend]
  rfl

/-- The operand is the whole expression if nothing stands behind it. -/
theorem ofLexemes_of_startsAs (hstarts : StartsAs tagEnd (.ofLexemes lexemes) left middle)
    (hmiddle : middle.kinds = []) : ofLexemes lexemes tagEnd = .ok left := by
  have hends := endsExpression_nil
  rw [← hmiddle] at hends
  have htail : Reads tagEnd (.operatorTail 0 left left) middle middle :=
    .operatorStop (Cursor.connective_eq_none hends.operation.2)
  have hif := Cursor.take?_eq_none hends.noIf
  have hcomma : ¬middle.kind? = some (.punct .comma) := by
    simp [Cursor.kind?_eq_head?, hmiddle]
  exact ofLexemes_of_reads
    (.tupleSingle (.full (hstarts.operation htail) (.conditionalStop hif)) hcomma) hmiddle

section Join

variable {op : BinaryOp} {cursor afterOp : Cursor} {hsize : afterOp.size < middle.size}
  (hstarts : StartsAs tagEnd cursor left middle)
  (hconnective : middle.connective = .ok (some ⟨.operator op, afterOp, hsize⟩))

include hstarts hconnective

/-- Behind an operator an expression gets as far as by itself. -/
theorem reads_join {right : Expr} (hright : Reads tagEnd (.expression .full right) afterOp next) :
    ∃ value, Reads tagEnd (.expression .full value) cursor next := by
  cases hright with
  | full hoperation hconditional =>
      cases hoperation with
      | operation hsigned htail =>
          -- The operator takes the tighter part for its right side; the rest is read behind both.
          obtain ⟨tighter, afterRight, hbefore, hafter⟩ :=
            htail.operatorTail_split op.powers.2
          obtain ⟨head, hoperators⟩ :=
            hafter (.binary op left tighter (left.span.cover tighter.span))
          have hjoin := Reads.operatorJoin hconnective (Nat.not_lt_zero _)
            (.above (.operation hsigned hbefore)) hoperators
          obtain ⟨value, hconditional⟩ := hconditional.conditionalTail_any head
          exact ⟨value, .full (hstarts.operation hjoin) hconditional⟩

theorem readsTuple_join {right : Expr} (hright : Reads tagEnd (.tuple .full right) afterOp next) :
    ∃ value, Reads tagEnd (.tuple .full value) cursor next := by
  cases hright with
  | tupleSingle hvalue hcomma =>
      obtain ⟨value, hreads⟩ := reads_join hstarts hconnective hvalue
      exact ⟨value, .tupleSingle hreads hcomma⟩
  | tuple hfirst hcomma hothers =>
      obtain ⟨first, hreads⟩ := reads_join hstarts hconnective hfirst
      exact ⟨_, .tuple hreads hcomma hothers⟩

end Join

/-- An operand, an operator and an expression make an expression. -/
theorem ofLexemes_join {op : BinaryOp} {right : Expr} {rightLexemes : List Lexeme}
    (hstarts : StartsAs tagEnd (.ofLexemes lexemes) left middle)
    (hright : right.AcceptedFrom rightLexemes)
    (hmiddle : middle.kinds = op.kinds ++ rightLexemes.map (·.kind)) :
    ∃ value, ofLexemes lexemes tagEnd = .ok value := by
  obtain ⟨afterOp, hsize, hconnective, hafterOp⟩ := Cursor.connective_of_operator op hmiddle
  obtain ⟨rightEnd, value, haccepted, -⟩ := hright
  obtain ⟨rightNext, hnil, hreads⟩ :=
    (ofLexemes_follows rightLexemes rightEnd).of_ok value haccepted
  have hkinds : (Cursor.ofLexemes rightLexemes).kinds = afterOp.kinds := hafterOp.symm
  obtain ⟨_, hfound⟩ := hreads.found
  obtain ⟨step, hok, -, hnext⟩ := Agree.of_ok (readTuple_alike .full hkinds) hfound
  have hright := (readTuple_follows tagEnd .full afterOp).of_ok step hok
  obtain ⟨result, hresult⟩ := readsTuple_join hstarts hconnective hright
  exact ⟨result, ofLexemes_of_reads hresult (hnext.symm.trans hnil)⟩

end Expr

end TemplateVariables
