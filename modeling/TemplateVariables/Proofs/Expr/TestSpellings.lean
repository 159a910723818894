import TemplateVariables.Proofs.Expr.Continuations
import TemplateVariables.Proofs.Expr.Operands

/-!
# Tests with one argument

The argument of a test stands in brackets, or without them if it is an operand without filters
and begins like none of the words that may follow a test.  Both are read as the same test, and
what follows is read in the same way behind both.
-/

namespace TemplateVariables

/-- Such a lexeme behind the name of a test begins its argument. -/
inductive BeginsArgument : LexemeKind → Prop where
  | number (text : String) : BeginsArgument (.number text)
  | str (value : String) : BeginsArgument (.str value)
  | lbracket : BeginsArgument (.punct .lbracket)
  | lbrace : BeginsArgument (.punct .lbrace)
  | name {word : String} (hreserved : word ∉ reservedWords) (hrecursive : word ≠ "recursive") :
      BeginsArgument (.name word)

namespace BeginsArgument

variable {kind : LexemeKind} {cursor : Cursor} (hbegins : BeginsArgument kind)

include hbegins

theorem ne_punct {mark : Punct} (hlbracket : mark ≠ .lbracket) (hlbrace : mark ≠ .lbrace) :
    kind ≠ .punct mark := by
  rintro rfl
  cases hbegins with
  | lbracket => exact hlbracket rfl
  | lbrace => exact hlbrace rfl

theorem not_unaryOp : UnaryOp.ofKind? kind = none := by
  cases hbegins with
  | @name word hreserved =>
      have hnot : word ≠ "not" := by
        rintro rfl
        exact hreserved (by decide)
      simp [UnaryOp.ofKind?, hnot]
  | _ => rfl

variable (hhead : cursor.kinds.head? = some kind)

include hhead

theorem atBareArgument : cursor.atBareArgument = true := by
  rw [Cursor.atBareArgument, Cursor.kind?_eq_head?, hhead]
  cases hbegins with
  | name hreserved hrecursive => simp [hreserved, hrecursive]
  | _ => rfl

theorem head?_ne {mark : Punct} (hlbracket : mark ≠ .lbracket) (hlbrace : mark ≠ .lbrace) :
    cursor.kinds.head? ≠ some (.punct mark) := by
  rw [hhead]
  simpa using hbegins.ne_punct hlbracket hlbrace

theorem unaryOp?_eq_none : cursor.unaryOp? = none := by
  obtain ⟨rest, hkinds⟩ := List.head?_eq_some_iff.1 hhead
  exact Cursor.unaryOp?_eq_none hkinds hbegins.not_unaryOp

theorem star_eq_none :
    (cursor.take? (.punct .star) <|> cursor.take? (.punct .power)) = none := by
  have hstar : cursor.kinds.head? ≠ some (.punct .star) :=
    hbegins.head?_ne hhead (by decide) (by decide)
  have hpower : cursor.kinds.head? ≠ some (.punct .power) :=
    hbegins.head?_ne hhead (by decide) (by decide)
  rw [Cursor.take?_eq_none hstar, Cursor.take?_eq_none hpower]
  rfl

end BeginsArgument

/-- A test with one argument, and the lexemes of its parts. -/
structure WrittenTest where
  value : Expr
  valueLexemes : List Lexeme
  negated : Bool
  word : String
  words : List String
  argument : Expr
  argumentLexemes : List Lexeme
  valueWritten : value.WrittenAs valueLexemes
  word_ne_not : word ≠ "not"
  argumentBegins : ∃ kind ∈ (argumentLexemes.map (·.kind)).head?, BeginsArgument kind
  argumentPlain : argument.PlainFrom argumentLexemes

namespace WrittenTest

/-- The test itself. -/
def expr (text : WrittenTest) : Expr :=
  .test text.value (text.word :: text.words) [{ name := none, value := text.argument }]
    text.negated default

/-- The value and the name of the test. -/
def front (text : WrittenTest) : List LexemeKind :=
  text.valueLexemes.map (·.kind) ++ .name "is" ::
    ((if text.negated then [.name "not"] else []) ++
      DottedName.kinds (text.word :: text.words))

def bare (text : WrittenTest) : List LexemeKind :=
  text.front ++ text.argumentLexemes.map (·.kind)

def bracketed (text : WrittenTest) : List LexemeKind :=
  text.front ++ .punct .lparen :: (text.argumentLexemes.map (·.kind) ++ [.punct .rparen])

end WrittenTest

/-! ## Values in parentheses -/

open TemplateVariables.Parser

variable {tagEnd : Span} {cursor next : Cursor}

/-- In front of what does not go on with it an expression in parentheses is an operand. -/
theorem Expr.WrittenAs.reads_signed {expr : Expr} {lexemes : List Lexeme} {rest : List LexemeKind}
    (hwritten : expr.WrittenAs lexemes) (hkinds : cursor.kinds = lexemes.map (·.kind) ++ rest)
    (hends : EndsOperand rest) (tagEnd : Span) :
    ∃ value next, Reads tagEnd (.signed value) cursor next ∧
      value.spanless = expr.spanless ∧ next.kinds = rest := by
  obtain ⟨extra, rfl⟩ : ∃ extra : List Lexeme, extra.map (·.kind) = rest :=
    ⟨_, Lexeme.map_kind_ofKinds rest⟩
  obtain ⟨acceptedEnd, value, haccepted, hvalue⟩ := hwritten.accepted
  obtain ⟨middle, rfl, hprimary⟩ : ∃ middle, middle.rest = extra ∧
      Reads tagEnd (.primary value) (.ofLexemes (lexemes ++ extra)) middle :=
    Reads.primary_of_parenthesised tagEnd hwritten.parenthesised haccepted rfl
  have hsame : (Cursor.ofLexemes (lexemes ++ middle.rest)).kinds = cursor.kinds := by
    rw [hkinds, Cursor.kinds_ofLexemes, List.map_append]
  obtain ⟨value', next, hreads, hvalue', hnext⟩ := hprimary.primary_alike tagEnd hsame
  have hoperand := hreads.operand_of_primary (hnext.symm ▸ hends)
  exact ⟨value', next,
    .signedOperand (unaryOp?_of_parenthesised hwritten.parenthesised hkinds) hoperand,
    hvalue'.trans hvalue, hnext⟩

namespace WrittenTest

variable (text : WrittenTest)

/-- The value and the name of the test are read, whatever is then found for arguments. -/
theorem startsAs_of_front {rest args : List LexemeKind}
    (hkinds : cursor.kinds = text.front ++ args) (hdot : args.head? ≠ some (.punct .dot))
    (htest : ∀ {left : Expr} {afterIs start afterName : Cursor} {span : Span}
      {hsize : afterName.size < start.size}, left.spanless = text.value.spanless →
      Negates afterIs text.negated start →
      start.expectDotted tagEnd .test = .ok ⟨(text.word :: text.words, span), afterName, hsize⟩ →
      afterName.kinds = args →
        ∃ tested middle, Reads tagEnd (.test left tested) afterIs middle ∧
          tested.spanless = text.expr.spanless ∧ middle.kinds = rest) :
    ∃ tested middle, StartsAs tagEnd cursor tested middle ∧
      tested.spanless = text.expr.spanless ∧ middle.kinds = rest := by
  rw [front, List.append_assoc, List.cons_append, List.append_assoc] at hkinds
  obtain ⟨left, afterLeft, hsigned, hleft, hafterLeft⟩ :=
    text.valueWritten.reads_signed hkinds (endsOperand_cons rfl _) tagEnd
  obtain ⟨afterIs, hafterIs, hconnective, hisKinds⟩ :=
    Cursor.connective_of_kind hafterLeft (by decide) rfl
  obtain ⟨start, hnot, hstart⟩ : ∃ start, Negates afterIs text.negated start ∧
      start.kinds = DottedName.kinds (text.word :: text.words) ++ args := by
    cases hnegated : text.negated with
    | true =>
        rw [hnegated] at hisKinds
        obtain ⟨span, start, hsize, hnot, hstart⟩ := Cursor.take?_eq_some hisKinds
        exact ⟨start, ⟨span, hsize, hnot⟩, hstart⟩
    | false =>
        rw [hnegated] at hisKinds
        refine ⟨afterIs, ⟨Cursor.take?_eq_none ?_, rfl⟩, hisKinds⟩
        rw [hisKinds]
        simpa [DottedName.kinds] using text.word_ne_not
  obtain ⟨⟨name, span⟩, afterName, hsize, hname, rfl, hafterName⟩ :=
    Cursor.expectDotted_yields tagEnd .test hstart hdot
  obtain ⟨tested, middle, hreads, htested, hmiddle⟩ := htest hleft hnot hname hafterName
  exact ⟨tested, middle, .test hsigned hconnective hreads, htested, hmiddle⟩

theorem argument_head (rest : List LexemeKind) : ∃ kind, BeginsArgument kind ∧
    (text.argumentLexemes.map (·.kind) ++ rest).head? = some kind := by
  obtain ⟨kind, hhead, hbegins⟩ := text.argumentBegins
  refine ⟨kind, hbegins, ?_⟩
  rw [List.head?_append, hhead]
  rfl

theorem bare_startsAs {rest : List LexemeKind} (hkinds : cursor.kinds = text.bare ++ rest)
    (hends : EndsOperand rest) (tagEnd : Span) :
    ∃ tested middle, StartsAs tagEnd cursor tested middle ∧
      tested.spanless = text.expr.spanless ∧ middle.kinds = rest := by
  rw [bare, List.append_assoc] at hkinds
  obtain ⟨kind, hbegins, hhead⟩ := text.argument_head rest
  have hdot : kind ≠ .punct .dot := hbegins.ne_punct (by decide) (by decide)
  apply text.startsAs_of_front hkinds (by simpa [hhead] using hdot)
  intro left afterIs start afterName span hsize hleft hnot hname hafterName
  rw [← hafterName] at hhead
  obtain ⟨argument, middle, hplain, hargument, hmiddle⟩ :=
    text.argumentPlain.readsPlain tagEnd hafterName hends
  obtain ⟨head, afterHead, hprimary, haccess⟩ := hplain
  have hopen : afterName.take? (.punct .lparen) = none :=
    Cursor.take?_eq_none (hbegins.head?_ne hhead (by decide) (by decide))
  refine ⟨_, middle, .testBare hnot hname (.argumentsNone hopen) (hbegins.atBareArgument hhead)
    hprimary haccess, ?_, hmiddle⟩
  simp [expr, Expr.spanless, Argument.spanless, hleft, hargument]

/-- Inside of brackets the argument is read as an expression, which ends with it. -/
theorem reads_item {rest : List LexemeKind}
    (hkinds : cursor.kinds = text.argumentLexemes.map (·.kind) ++ .punct .rparen :: rest)
    (tagEnd : Span) :
    ∃ argument next, Reads tagEnd (.item (.argument { name := none, value := argument }))
        cursor next ∧
      argument.spanless = text.argument.spanless ∧ next.kinds = .punct .rparen :: rest := by
  have hends : EndsExpression (.punct .rparen :: rest) := endsExpression_punct rest (by decide)
  obtain ⟨kind, hbegins, hhead⟩ := text.argument_head (.punct .rparen :: rest)
  rw [← hkinds] at hhead
  obtain ⟨argument, next, hplain, hargument, hnext⟩ :=
    text.argumentPlain.readsPlain tagEnd hkinds hends.operation.1
  have hword := hplain.keyword?_eq_none (by simp [hnext])
  rw [← hnext] at hends
  have hvalue : Reads tagEnd (.expression .full argument) cursor next :=
    (hplain.signed (hbegins.unaryOp?_eq_none hhead) hends.operation.1).expression_of_signed
      hends.operation (fun _ => hends.noIf)
  exact ⟨argument, next, .itemPositional (hbegins.star_eq_none hhead) hword hvalue, hargument,
    hnext⟩

theorem bracketed_startsAs {rest : List LexemeKind}
    (hkinds : cursor.kinds = text.bracketed ++ rest) (tagEnd : Span) :
    ∃ tested middle, StartsAs tagEnd cursor tested middle ∧
      tested.spanless = text.expr.spanless ∧ middle.kinds = rest := by
  rw [bracketed, List.append_assoc, List.cons_append, List.append_assoc,
    List.singleton_append] at hkinds
  apply text.startsAs_of_front hkinds (by simp)
  intro left afterIs start afterName span hsize hleft hnot hname hafterName
  obtain ⟨opened, inside, hinside, hopen, hinsideKinds⟩ := Cursor.take?_eq_some hafterName
  obtain ⟨kind, hbegins, hhead⟩ := text.argument_head (.punct .rparen :: rest)
  rw [← hinsideKinds] at hhead
  obtain ⟨argument, afterItem, hitem, hargument, hafterItem⟩ :=
    text.reads_item hinsideKinds tagEnd
  obtain ⟨closed, next, hnext, hclose, hrest⟩ := Cursor.take?_eq_some hafterItem
  have hnone : ¬inside.kind? = some (.punct .rparen) := by
    rw [Cursor.kind?_eq_head?]
    exact hbegins.head?_ne hhead (by decide) (by decide)
  have hstop : afterItem.kind? = some (.punct .rparen) := by
    rw [Cursor.kind?_eq_head?, hafterItem]
    rfl
  have hseries : Reads tagEnd
      (.series .rparen ([{ name := none, value := argument }].map .argument)) inside next :=
    .series rfl hnone hitem (.seriesTailStop hstop) hclose
  refine ⟨_, next, .testArguments hnot hname (.argumentsSome hopen hseries), ?_, hrest⟩
  simp [expr, Expr.spanless, Argument.spanless, hleft, hargument]

/-- The two spellings of a test are read as the same test, by themselves and in front of an
operator and an expression.  In front of anything else that does not go on with the argument
they are read alike too, errors included, and like the test in parentheses. -/
theorem ofLexemes_spellings (text : WrittenTest) (tagEnd tagEnd' : Span)
    {bare bracketed : List Lexeme} {rest : List LexemeKind}
    (hbare : bare.map (·.kind) = text.bare ++ rest)
    (hbracketed : bracketed.map (·.kind) = text.bracketed ++ rest) :
    (rest = [] → ∃ tree tree', Expr.ofLexemes bare tagEnd = .ok tree ∧
      Expr.ofLexemes bracketed tagEnd' = .ok tree' ∧
      tree.spanless = text.expr.spanless ∧ tree'.spanless = text.expr.spanless) ∧
    (∀ (op : BinaryOp) (right : Expr) (rightLexemes : List Lexeme),
      right.AcceptedFrom rightLexemes → rest = op.kinds ++ rightLexemes.map (·.kind) →
        ∃ tree tree', Expr.ofLexemes bare tagEnd = .ok tree ∧
          Expr.ofLexemes bracketed tagEnd' = .ok tree' ∧ tree.spanless = tree'.spanless) ∧
    (EndsOperand rest →
      Agree (fun tree tree' : Expr => tree.spanless = tree'.spanless)
        (Expr.ofLexemes bare tagEnd) (Expr.ofLexemes bracketed tagEnd') ∧
      ∀ (group grouped : List Lexeme), text.expr.WrittenAs group →
        grouped.map (·.kind) = group.map (·.kind) ++ rest →
          Agree (fun tree tree' : Expr => tree.spanless = tree'.spanless)
            (Expr.ofLexemes bare tagEnd) (Expr.ofLexemes grouped tagEnd')) := by
  have hbareKinds : (Cursor.ofLexemes bare).kinds = text.bare ++ rest := hbare
  have hbracketedKinds : (Cursor.ofLexemes bracketed).kinds = text.bracketed ++ rest := hbracketed
  obtain ⟨tree', middle', hstarts', htree', hmiddle'⟩ :=
    text.bracketed_startsAs hbracketedKinds tagEnd'
  refine ⟨?_, ?_, fun hends => ?_⟩
  · rintro rfl
    obtain ⟨tree, middle, hstarts, htree, hmiddle⟩ :=
      text.bare_startsAs hbareKinds endsExpression_nil.operation.1 tagEnd
    exact ⟨tree, tree', Expr.ofLexemes_of_startsAs hstarts hmiddle,
      Expr.ofLexemes_of_startsAs hstarts' hmiddle', htree, htree'⟩
  · rintro op right rightLexemes hright rfl
    obtain ⟨tree, middle, hstarts, htree, hmiddle⟩ :=
      text.bare_startsAs hbareKinds (endsOperand_operator op _) tagEnd
    obtain ⟨value, hok⟩ := Expr.ofLexemes_join hstarts hright hmiddle
    obtain ⟨value', hok', hsame⟩ := (Expr.ofLexemes_alike_of_startsAs hstarts hstarts'
      (htree.trans htree'.symm) (hmiddle.trans hmiddle'.symm)).of_ok hok
    exact ⟨value, value', hok, hok', hsame⟩
  · obtain ⟨tree, middle, hstarts, htree, hmiddle⟩ := text.bare_startsAs hbareKinds hends tagEnd
    refine ⟨Expr.ofLexemes_alike_of_startsAs hstarts hstarts' (htree.trans htree'.symm)
      (hmiddle.trans hmiddle'.symm), ?_⟩
    intro group grouped hgroup hgrouped
    have hgroupedKinds : (Cursor.ofLexemes grouped).kinds = group.map (·.kind) ++ rest := hgrouped
    obtain ⟨whole, after, hsigned, hwhole, hafter⟩ :=
      hgroup.reads_signed hgroupedKinds hends tagEnd'
    exact Expr.ofLexemes_alike_of_startsAs hstarts (.operand hsigned) (htree.trans hwhole.symm)
      (hmiddle.trans hafter.symm)

/-! ## A sample -/

/-- `(x) is not a.b row[0].n`, with `row[0].n` for its argument. -/
def sample : WrittenTest where
  value := .identifier "x" default
  valueLexemes := Lexeme.ofKinds [.punct .lparen, .name "x", .punct .rparen]
  negated := true
  word := "a"
  words := ["b"]
  argument :=
    .attribute (.subscript (.identifier "row" default) (.literal (.number "0") default) default)
      "n" default
  argumentLexemes := Lexeme.ofKinds
    [.name "row", .punct .lbracket, .number "0", .punct .rbracket, .punct .dot, .name "n"]
  valueWritten := ⟨⟨Lexeme.ofKinds [.name "x"], default, default, rfl, rfl⟩,
    default, _, by with_unfolding_all rfl, rfl⟩
  word_ne_not := by decide
  argumentBegins := ⟨.name "row", rfl, .name (by decide) (by decide)⟩
  argumentPlain :=
    ⟨default, 6, .identifier "row" default, _, _, ⟨[], _⟩, Nat.le_refl _, Nat.lt_succ_self _,
      ⟨_, by with_unfolding_all rfl⟩, ⟨Nat.zero_lt_succ _, by with_unfolding_all rfl⟩, rfl, rfl⟩

/-- The sample by itself, in front of `and z`, and compared with itself in parentheses. -/
theorem ofLexemes_spellings_sample :
    (∃ tree tree', Expr.ofLexemes (Lexeme.ofKinds (sample.bare ++ [])) default = .ok tree ∧
      Expr.ofLexemes (Lexeme.ofKinds (sample.bracketed ++ [])) default = .ok tree' ∧
      tree.spanless = sample.expr.spanless ∧ tree'.spanless = sample.expr.spanless) ∧
    (∃ tree tree',
      Expr.ofLexemes (Lexeme.ofKinds (sample.bare ++ [.name "and", .name "z"])) default =
        .ok tree ∧
      Expr.ofLexemes (Lexeme.ofKinds (sample.bracketed ++ [.name "and", .name "z"])) default =
        .ok tree' ∧
      tree.spanless = tree'.spanless) ∧
    Agree (fun tree tree' : Expr => tree.spanless = tree'.spanless)
      (Expr.ofLexemes (Lexeme.ofKinds (sample.bare ++ [.name "and", .name "z"])) default)
      (Expr.ofLexemes (Lexeme.ofKinds ((.punct .lparen :: (sample.bare ++ [.punct .rparen])) ++
        [.name "and", .name "z"])) default) := by
  have halone := ofLexemes_spellings sample default default
    (Lexeme.map_kind_ofKinds (sample.bare ++ []))
    (Lexeme.map_kind_ofKinds (sample.bracketed ++ []))
  have hjoined := ofLexemes_spellings sample default default
    (Lexeme.map_kind_ofKinds (sample.bare ++ [.name "and", .name "z"]))
    (Lexeme.map_kind_ofKinds (sample.bracketed ++ [.name "and", .name "z"]))
  have hgroup : sample.expr.WrittenAs
      (Lexeme.ofKinds (.punct .lparen :: (sample.bare ++ [.punct .rparen]))) :=
    ⟨⟨Lexeme.ofKinds sample.bare, default, default, rfl, rfl⟩,
      default, _, by with_unfolding_all rfl, rfl⟩
  refine ⟨halone.1 rfl, hjoined.2.1 .and (.identifier "z" default) (Lexeme.ofKinds [.name "z"])
    ⟨default, _, by with_unfolding_all rfl, rfl⟩ rfl, ?_⟩
  exact (hjoined.2.2 (endsOperand_cons rfl _)).2 _ _ hgroup rfl

end WrittenTest

end TemplateVariables
