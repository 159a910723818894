import TemplateVariables.Proofs.LoopPasses
import TemplateVariables.Proofs.RecursiveReaders

/-!
# Reading moves forward

Whatever is read from a position among the lexemes of a tag ends at a later one.  So do
the passes of the loops, and the calls of the readers that call themselves begin at
later positions.  The number of lexemes behind the position bounds the passes and the
depth of the calls, for lexemes that can be read and for those that cannot.
-/

namespace TemplateVariables

/-- What is said of everything that is read from the position on. -/
structure ReadsForward (tagEnd : Span) (lexemes : List Lexeme) (pos : Nat) (cursor : Cursor) :
    Prop where
  /-- A reader ends at a later position, or some stay where nothing is to be read. -/
  routines : ∀ (routine : Routine) next, routine.run tagEnd cursor = .ok next →
    next.Beyond lexemes pos ∨ (routine.mayStay = true ∧ next = cursor)
  pass : ∀ loop next, Loop.Pass tagEnd loop cursor next → next.Beyond lexemes pos
  passes : ∀ loop count next, Loop.Passes tagEnd loop count cursor next →
    ∃ later, pos + count ≤ later ∧ next.At lexemes later
  loops : ∀ loop next, Loop.Succeeds tagEnd cursor next loop →
    Loop.Completes tagEnd loop cursor next ∧ (next = cursor ∨ next.Beyond lexemes pos)
  calls : ∀ level called inner,
    (Expr.recursiveReader tagEnd).Calls level cursor called inner → inner.Beyond lexemes pos
  targetCalls : ∀ inner,
    (Statement.recursiveTargets tagEnd).Calls () cursor () inner → inner.Beyond lexemes pos
  depth : ∀ stuck depth level, lexemes.length - pos < depth →
    (Expr.recursiveReader tagEnd).within stuck depth level cursor = Expr.read tagEnd level cursor
  targetDepth : ∀ stuck depth, lexemes.length - pos < depth →
    (Statement.recursiveTargets tagEnd).within stuck depth () cursor =
      Statement.readTargets tagEnd cursor

/-- From every position in range, reading goes forward, stays in range and comes to an end. -/
theorem Cursor.At.reads_forward {cursor : Cursor} {lexemes : List Lexeme} {pos : Nat}
    (tagEnd : Span) (hat : cursor.At lexemes pos) : ReadsForward tagEnd lexemes pos cursor where
  routines := fun routine _ hrun => routine.run_beyond hat hrun
  pass := fun _ _ hpass => hpass.movesOn.beyond hat
  passes := fun _ _ _ hpasses => hpasses.at hat
  loops := fun _ _ hsucceeds =>
    ⟨hsucceeds.completes, hsucceeds.completes.advances.eq_or_beyond hat⟩
  calls := fun _ _ _ hcalls => hcalls.movesOn.beyond hat
  targetCalls := fun _ hcalls => hcalls.movesOn.beyond hat
  depth := by
    intro stuck depth level hdepth
    rw [← hat.size_eq] at hdepth
    exact (Expr.recursiveReader tagEnd).within_eq stuck level hdepth
  targetDepth := by
    intro stuck depth hdepth
    rw [← hat.size_eq] at hdepth
    exact (Statement.recursiveTargets tagEnd).within_eq stuck () hdepth

/-- Behind an operand, a sign is read with a call that begins at its own operand. -/
theorem Cursor.At.reads_forward_sign :
    let tagEnd := Span.ofBounds 9 11
    let lexemes : List Lexeme :=
      [⟨.name "x", Span.ofBounds 3 4⟩, ⟨.punct .minus, Span.ofBounds 5 6⟩,
        ⟨.name "a", Span.ofBounds 7 8⟩]
    let cursor : Cursor := ⟨lexemes.drop 1, 4⟩
    let inner : Cursor := ⟨lexemes.drop 2, 6⟩
    let behind : Cursor := ⟨[], 8⟩
    cursor.At lexemes 1 ∧
      (Expr.recursiveReader tagEnd).Calls .full cursor (.above 15) inner ∧
      inner.Beyond lexemes 1 ∧
      Routine.expression.run tagEnd cursor = .ok behind ∧ behind.Beyond lexemes 1 ∧
      ∀ stuck, (Expr.recursiveReader tagEnd).within stuck 3 .full cursor =
        Expr.read tagEnd .full cursor := by
  intro tagEnd lexemes cursor inner behind
  have hat : cursor.At lexemes 1 := ⟨rfl, by decide⟩
  have hforward := hat.reads_forward tagEnd
  have hcalls : (Expr.recursiveReader tagEnd).Calls .full cursor (.above 15) inner :=
    fun _ => rfl
  have hrun : Routine.expression.run tagEnd cursor = .ok behind := by cbv
  refine ⟨hat, hcalls, hforward.calls _ _ _ hcalls, hrun, ?_, ?_⟩
  · rcases hforward.routines _ _ hrun with hbeyond | ⟨hstays, -⟩
    · exact hbeyond
    · contradiction
  · exact fun stuck => hforward.depth stuck 3 .full (by decide)

end TemplateVariables
