import TemplateVariables.Proofs.Expr.Operands
import TemplateVariables.Proofs.Node.TagTrees

/-!
# Positions among the lexemes of a tag

A cursor stands at a position among the lexemes of its tag: the lexemes before the
position have been read, and the others are left.  Whatever reads lexemes one after
the other ends at a later position of the same lexemes, with the end of the lexeme
before that position as the last end that it has seen.
-/

namespace TemplateVariables

namespace Cursor

/-- The cursor stands in front of the lexeme of that number, or behind the last one. -/
structure At (lexemes : List Lexeme) (pos : Nat) (cursor : Cursor) : Prop where
  rest : cursor.rest = lexemes.drop pos
  le : pos ≤ lexemes.length

/-- The cursor stands at a later position, and the last lexeme that was read is the one in
front of it. -/
def Beyond (lexemes : List Lexeme) (pos : Nat) (cursor : Cursor) : Prop :=
  ∃ later, pos < later ∧ cursor.At lexemes later ∧
    lexemes[later - 1]?.map (·.span.stop) = some cursor.lastStop

/-- The second place is reached from the first by reading at least one lexeme. -/
def MovesOn (cursor next : Cursor) : Prop :=
  cursor.Advances next ∧ next.size < cursor.size

section Positions

variable {lexemes : List Lexeme} {pos : Nat} {cursor middle next : Cursor}

/-- The lexemes that are left are those between the position and the end. -/
theorem At.size_eq (hat : cursor.At lexemes pos) : cursor.size = lexemes.length - pos := by
  simp [size, hat.rest]

theorem Beyond.mono {earlier : Nat} (hnext : next.Beyond lexemes pos) (hle : earlier ≤ pos) :
    next.Beyond lexemes earlier := by
  rcases hnext with ⟨later, hlt, hat, hstop⟩
  exact ⟨later, by omega, hat, hstop⟩

theorem At.step {lexeme : Lexeme} {hsize : middle.size < cursor.size}
    (hat : cursor.At lexemes pos) (hnext : cursor.next? = some ⟨lexeme, middle, hsize⟩) :
    middle.At lexemes (pos + 1) ∧ lexemes[pos]? = some lexeme := by
  have hcursor := (rest_of_next? hnext).1
  have hrest := hat.rest
  rw [hcursor] at hrest
  have hget : lexemes[pos]? = some lexeme := by
    have hhead := congrArg List.head? hrest
    simpa [List.head?_drop] using hhead.symm
  have htail : middle.rest = lexemes.drop (pos + 1) := by
    have hdrop := congrArg List.tail hrest
    simpa [List.tail_drop] using hdrop
  have hlt : pos < lexemes.length := (List.getElem?_eq_some_iff.1 hget).1
  exact ⟨⟨htail, hlt⟩, hget⟩

theorem Advances.eq_or_beyond (hadvances : cursor.Advances next) (hat : cursor.At lexemes pos) :
    next = cursor ∨ next.Beyond lexemes pos := by
  induction hadvances generalizing pos with
  | refl => exact .inl rfl
  | @step lexeme cursor middle next hsize hnext hrest ih =>
      have hstep := hat.step hnext
      right
      rcases ih hstep.1 with hsame | hbeyond
      · refine ⟨pos + 1, by omega, by simpa [hsame] using hstep.1, ?_⟩
        simp [hstep.2, hsame, (rest_of_next? hnext).2]
      · exact hbeyond.mono (by omega)

theorem Advances.size_le (hadvances : cursor.Advances next) : next.size ≤ cursor.size :=
  hadvances.suffix.length_le

/-- Two places that are reached and have as many lexemes left are the same. -/
theorem Advances.eq_of_size_eq {other : Cursor} (hadvances : cursor.Advances next)
    (hother : cursor.Advances other) (hsize : next.size = other.size) : next = other := by
  induction hadvances with
  | refl cursor =>
      cases hother with
      | refl => rfl
      | @step _ _ middle _ hmiddle hnext hrest =>
          have hle := hrest.size_le
          omega
  | @step lexeme cursor middle next hmiddle hnext hrest ih =>
      cases hother with
      | refl =>
          have hle := hrest.size_le
          omega
      | step hnext' hrest' =>
          rw [hnext] at hnext'
          cases hnext'
          exact ih hrest' hsize

theorem MovesOn.beyond (hmoves : cursor.MovesOn next) (hat : cursor.At lexemes pos) :
    next.Beyond lexemes pos := by
  rcases hmoves.1.eq_or_beyond hat with hsame | hbeyond
  · have hlt := hmoves.2
    rw [hsame] at hlt
    omega
  · exact hbeyond

theorem MovesOn.trans (hfirst : cursor.MovesOn middle) (hrest : middle.Advances next) :
    cursor.MovesOn next :=
  ⟨hfirst.1.trans hrest, Nat.lt_of_le_of_lt hrest.size_le hfirst.2⟩

theorem movesOn_of_take? {kind : LexemeKind} {span : Span} {hsize : next.size < cursor.size}
    (htake : cursor.take? kind = some ⟨span, next, hsize⟩) : cursor.MovesOn next :=
  ⟨advances_of_take? htake, hsize⟩

end Positions

end Cursor

/-! ## The readers that others call -/

/-- The readers of expressions and their parts, and of the targets and parameters of statements.
A test, accesses and filters are read behind the value that they apply to. -/
inductive Routine where
  | operation (power : Nat)
  | expression
  | tuple (level : Level)
  | primary
  | arguments
  | filterCall
  | targets
  | parameters
  | subscriptIndex
  | test (value : Expr)
  | accesses (value : Expr)
  | filters (value : Expr)

namespace Routine

/-- Where the reader ends.  Arguments begin with a lexeme for their bracket, whatever it is. -/
def run (tagEnd : Span) (cursor : Cursor) : Routine → Except ParseError Cursor
  | .operation power => (Expr.read tagEnd (.above power) cursor).map (·.next)
  | .expression => (Expr.read tagEnd .full cursor).map (·.next)
  | .tuple level => (Expr.readTuple tagEnd level cursor).map (·.next)
  | .primary =>
      (Parser.primary tagEnd (Parser.reader tagEnd cursor.size) cursor
        cursor.size_le_self).map (·.next)
  | .arguments =>
      match cursor.next? with
      | some ⟨lexeme, inside, hinside⟩ =>
          (Parser.arguments tagEnd (Parser.reader tagEnd cursor.size) lexeme.span inside
            hinside).map (·.next)
      | none =>
          (Parser.arguments tagEnd (Parser.reader tagEnd (cursor.size + 1)) tagEnd cursor
            cursor.size_lt_succ).map (·.next)
  | .filterCall => (Expr.readFilter tagEnd cursor).map (·.next)
  | .targets => (Statement.readTargets tagEnd cursor).map (·.next)
  | .parameters => (Statement.readParameters tagEnd cursor).map (·.next)
  | .subscriptIndex =>
      (Parser.subscriptIndex tagEnd (Parser.reader tagEnd (cursor.size + 1)) cursor
        cursor.size_lt_succ).map (·.next)
  | .test value =>
      (Parser.test tagEnd (Parser.reader tagEnd (cursor.size + 1)) value cursor
        cursor.size_lt_succ).map (·.next)
  | .accesses value =>
      (Parser.accessTail tagEnd (Parser.reader tagEnd (cursor.size + 1)) value cursor
        cursor.size_lt_succ).map (·.next)
  | .filters value =>
      (Parser.filterTail tagEnd (Parser.reader tagEnd (cursor.size + 1)) value cursor
        cursor.size_lt_succ).map (·.next)

/-- Whether the reader may find nothing to read. -/
def mayStay : Routine → Bool
  | .accesses _ => true
  | .filters _ => true
  | _ => false

variable {tagEnd : Span} {cursor next : Cursor}

/-- The end of a reading that only moves forward. -/
theorem advances_of_map {α : Type} {bound : Nat} {reading : Reading α bound}
    {holds : Step α bound → Prop} (hreading : Ensures reading holds)
    (hadvances : ∀ step, holds step → cursor.Advances step.next)
    (hrun : reading.map (·.next) = .ok next) : cursor.Advances next ∧ next.size < bound := by
  cases reading with
  | error error => contradiction
  | ok step =>
      have hnext : step.next = next := Except.ok.inj hrun
      rw [← hnext]
      exact ⟨hadvances step (hreading.of_ok step rfl), step.shorter⟩

theorem run_movesOn (routine : Routine) (hrun : routine.run tagEnd cursor = .ok next) :
    cursor.MovesOn next ∨ (routine.mayStay = true ∧ cursor.Advances next) := by
  have hreader := Parser.reader_follows tagEnd
  cases routine with
  | operation power =>
      left
      exact advances_of_map (Expr.read_follows tagEnd _ cursor)
        (fun _ => Parser.Reads.advances) hrun
  | expression =>
      left
      exact advances_of_map (Expr.read_follows tagEnd _ cursor)
        (fun _ => Parser.Reads.advances) hrun
  | tuple level =>
      left
      exact advances_of_map (Expr.readTuple_follows tagEnd level cursor)
        (fun _ => Parser.Reads.advances) hrun
  | primary =>
      left
      exact advances_of_map (Parser.primary_follows (hreader _) cursor _)
        (fun _ => Parser.Reads.advances) hrun
  | arguments =>
      left
      simp only [run] at hrun
      cases hopen : cursor.next? with
      | none =>
          rw [hopen] at hrun
          exact advances_of_map (Parser.arguments_follows (hreader _) _ cursor _)
            (fun _ => Parser.Reads.advances) hrun
      | some opened =>
          rw [hopen] at hrun
          have hends := advances_of_map (Parser.arguments_follows (hreader _) _ opened.next _)
            (fun _ => Parser.Reads.advances) hrun
          have hopened : cursor.MovesOn opened.next :=
            ⟨Cursor.advances_of_next? hopen, opened.shorter⟩
          exact hopened.trans hends.1
  | filterCall =>
      left
      exact advances_of_map (Expr.readFilter_follows tagEnd cursor)
        (fun _ => Parser.Reads.advances) hrun
  | targets =>
      left
      exact advances_of_map (Statement.readTargets_takes tagEnd cursor)
        (fun _ => Takes.advances) hrun
  | parameters =>
      left
      exact advances_of_map (Statement.readParameters_takes tagEnd cursor)
        (fun _ => Takes.advances) hrun
  | subscriptIndex =>
      left
      exact advances_of_map (Parser.subscriptIndex_follows (hreader _) cursor _)
        (fun _ => Parser.Reads.advances) hrun
  | test value =>
      left
      exact advances_of_map (Parser.test_follows (hreader _) value cursor _)
        (fun _ => Parser.Reads.advances) hrun
  | accesses value =>
      have hends := advances_of_map (Parser.accessTail_follows (hreader _) value cursor _)
        (fun _ => Parser.Reads.advances) hrun
      exact .inr ⟨rfl, hends.1⟩
  | filters value =>
      have hends := advances_of_map (Parser.filterTail_follows (hreader _) value cursor _)
        (fun _ => Parser.Reads.advances) hrun
      exact .inr ⟨rfl, hends.1⟩

/-- A reader that succeeds ends at a later position, if it does not find nothing to read. -/
theorem run_beyond {lexemes : List Lexeme} {pos : Nat} (hat : cursor.At lexemes pos)
    (routine : Routine) (hrun : routine.run tagEnd cursor = .ok next) :
    next.Beyond lexemes pos ∨ (routine.mayStay = true ∧ next = cursor) := by
  rcases run_movesOn routine hrun with hmoves | ⟨hstay, hadvances⟩
  · exact .inl (hmoves.beyond hat)
  · rcases hadvances.eq_or_beyond hat with hsame | hbeyond
    · exact .inr ⟨hstay, hsame⟩
    · exact .inl hbeyond

end Routine

end TemplateVariables
