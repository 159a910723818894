import TemplateVariables.Proofs.Expr.Spelling

/-!
# Reading the same lexemes at other places

Two cursors with lexemes of the same kinds are read in the same way, wherever the lexemes
stand: the expressions differ in their spans alone, and an error has the same message.
Every reader is compared with itself at another place, and what it calls is compared
before it.
-/

namespace TemplateVariables

/-! ## Results that agree -/

/-- Two values that `same` relates, or two errors with the same message. -/
inductive Agree {α β : Type} (same : α → β → Prop) :
    Except ParseError α → Except ParseError β → Prop where
  | ok {value : α} {value' : β} (hsame : same value value') : Agree same (.ok value) (.ok value')
  | error {error error' : ParseError} (hmessage : error.message = error'.message) :
      Agree same (.error error) (.error error')

theorem Agree.bind {α α' β β' : Type} {same : α → α' → Prop} {sameNext : β → β' → Prop}
    {first : Except ParseError α} {first' : Except ParseError α'}
    {next : α → Except ParseError β} {next' : α' → Except ParseError β'}
    (hfirst : Agree same first first')
    (hnext : ∀ value value', same value value' → Agree sameNext (next value) (next' value')) :
    Agree sameNext (first >>= next) (first' >>= next') := by
  cases hfirst with
  | ok hsame => exact hnext _ _ hsame
  | error hmessage => exact .error hmessage

theorem Agree.ite {α β : Type} {same : α → β → Prop} {p p' : Prop} [Decidable p] [Decidable p']
    {first second : Except ParseError α} {first' second' : Except ParseError β} (hiff : p ↔ p')
    (hfirst : p → Agree same first first') (hsecond : ¬p → Agree same second second') :
    Agree same (if p then first else second) (if p' then first' else second') := by
  by_cases hp : p
  · rw [if_pos hp, if_pos (hiff.1 hp)]
    exact hfirst hp
  · rw [if_neg hp, if_neg (mt hiff.2 hp)]
    exact hsecond hp

/-- Where one result is a value the other one is. -/
theorem Agree.of_ok {α β : Type} {same : α → β → Prop} {result : Except ParseError α}
    {result' : Except ParseError β} {value : α} (hagree : Agree same result result')
    (hok : result = .ok value) : ∃ value', result' = .ok value' ∧ same value value' := by
  subst hok
  cases hagree with
  | ok hsame => exact ⟨_, rfl, hsame⟩

/-- The readings end at the same place, with values that `erase` makes equal, or fail with the
same message. -/
def Alike {α β : Type} {bound bound' : Nat} (erase : α → β) (reading : Reading α bound)
    (reading' : Reading α bound') : Prop :=
  Agree (fun step step' => erase step.value = erase step'.value ∧
    step.next.kinds = step'.next.kinds) reading reading'

section Alike

variable {α β γ δ : Type} {bound bound' : Nat} {erase : α → β}
  {reading : Reading α bound} {reading' : Reading α bound'}

theorem Alike.ok {value value' : α} {next next' : Cursor} {hsize : next.size < bound}
    {hsize' : next'.size < bound'} (hvalue : erase value = erase value')
    (hnext : next.kinds = next'.kinds) :
    Alike erase (Except.ok ⟨value, next, hsize⟩ : Reading α bound)
      (Except.ok ⟨value', next', hsize'⟩ : Reading α bound') :=
  Agree.ok ⟨hvalue, hnext⟩

theorem Alike.bind {same : γ → δ → Prop} {continuation : Step α bound → Except ParseError γ}
    {continuation' : Step α bound' → Except ParseError δ} (hreading : Alike erase reading reading')
    (hcontinuation : ∀ value value' next next' hsize hsize', erase value = erase value' →
      next.kinds = next'.kinds →
        Agree same (continuation ⟨value, next, hsize⟩) (continuation' ⟨value', next', hsize'⟩)) :
    Agree same (reading >>= continuation) (reading' >>= continuation') :=
  Agree.bind hreading fun _ _ hsame => hcontinuation _ _ _ _ _ _ hsame.1 hsame.2

end Alike

/-! ## Lexemes -/

namespace Cursor

variable {cursor cursor' : Cursor} (hcursor : cursor.kinds = cursor'.kinds) {tagEnd tagEnd' : Span}

include hcursor

theorem kind?_alike : cursor.kind? = cursor'.kind? := by
  rw [kind?_eq_head?, kind?_eq_head?, hcursor]

theorem rest_eq_nil_alike : cursor.rest = [] ↔ cursor'.rest = [] := by
  rw [rest_eq_nil_iff, rest_eq_nil_iff, hcursor]

theorem atListEnd_alike : cursor.atListEnd = cursor'.atListEnd := by
  rw [atListEnd, atListEnd, kind?_alike hcursor]

theorem next?_alike :
    (cursor.next? = none ∧ cursor'.next? = none) ∨
      ∃ kind span span' next next' hsize hsize',
        cursor.next? = some ⟨⟨kind, span⟩, next, hsize⟩ ∧
        cursor'.next? = some ⟨⟨kind, span'⟩, next', hsize'⟩ ∧ next.kinds = next'.kinds := by
  cases hkinds : cursor.kinds with
  | nil => exact .inl ⟨next?_eq_none hkinds, next?_eq_none (hcursor ▸ hkinds)⟩
  | cons kind rest =>
      obtain ⟨span, next, hsize, hnext, rfl⟩ := next?_eq_some hkinds
      obtain ⟨span', next', hsize', hnext', hrest⟩ := next?_eq_some (hcursor ▸ hkinds)
      exact .inr ⟨kind, span, span', next, next', hsize, hsize', hnext, hnext', hrest.symm⟩

theorem take?_alike (kind : LexemeKind) :
    (cursor.take? kind = none ∧ cursor'.take? kind = none) ∨
      ∃ span span' next next' hsize hsize', cursor.take? kind = some ⟨span, next, hsize⟩ ∧
        cursor'.take? kind = some ⟨span', next', hsize'⟩ ∧ next.kinds = next'.kinds := by
  obtain ⟨hnone, hnone'⟩ | ⟨found, span, span', next, next', hsize, hsize', hnext, hnext', hrest⟩ :=
    next?_alike hcursor
  · exact .inl ⟨by rw [take?, hnone], by rw [take?, hnone']⟩
  · by_cases hkind : found = kind
    · exact .inr ⟨span, span', next, next', hsize, hsize', by simp [take?, hnext, hkind],
        by simp [take?, hnext', hkind], hrest⟩
    · exact .inl ⟨by simp [take?, hnext, hkind], by simp [take?, hnext', hkind]⟩

theorem takeEither_alike (first second : LexemeKind) :
    ((cursor.take? first <|> cursor.take? second) = none ∧
      (cursor'.take? first <|> cursor'.take? second) = none) ∨
      ∃ span span' next next' hsize hsize',
        (cursor.take? first <|> cursor.take? second) = some ⟨span, next, hsize⟩ ∧
        (cursor'.take? first <|> cursor'.take? second) = some ⟨span', next', hsize'⟩ ∧
        next.kinds = next'.kinds := by
  obtain ⟨hnone, hnone'⟩ | ⟨span, span', next, next', hsize, hsize', hsome, hsome', hnext⟩ :=
    take?_alike hcursor first
  · rw [hnone, hnone']
    exact take?_alike hcursor second
  · rw [hsome, hsome']
    exact .inr ⟨span, span', next, next', hsize, hsize', rfl, rfl, hnext⟩

theorem name?_alike :
    (cursor.name? = none ∧ cursor'.name? = none) ∨
      ∃ text span span' next next' hsize hsize',
        cursor.name? = some ⟨(text, span), next, hsize⟩ ∧
        cursor'.name? = some ⟨(text, span'), next', hsize'⟩ ∧ next.kinds = next'.kinds := by
  obtain ⟨hnone, hnone'⟩ | ⟨kind, span, span', next, next', hsize, hsize', hnext, hnext', hrest⟩ :=
    next?_alike hcursor
  · exact .inl ⟨by rw [name?, hnone], by rw [name?, hnone']⟩
  · cases kind with
    | name text =>
        exact .inr ⟨text, span, span', next, next', hsize, hsize', by rw [name?, hnext],
          by rw [name?, hnext'], hrest⟩
    | _ => exact .inl ⟨by rw [name?, hnext], by rw [name?, hnext']⟩

theorem keyword?_alike :
    (cursor.keyword? = none ∧ cursor'.keyword? = none) ∨
      ∃ word next next' hsize hsize', cursor.keyword? = some ⟨word, next, hsize⟩ ∧
        cursor'.keyword? = some ⟨word, next', hsize'⟩ ∧ next.kinds = next'.kinds := by
  unfold keyword?
  obtain ⟨hname, hname'⟩ | ⟨word, _, _, afterWord, afterWord', _, _, hname, hname', hafter⟩ :=
    name?_alike hcursor
  · rw [hname, hname']
    exact .inl ⟨rfl, rfl⟩
  rw [hname, hname']
  obtain ⟨htake, htake'⟩ | ⟨_, _, next, next', _, _, htake, htake', hnext⟩ :=
    take?_alike hafter (.punct .assign)
  · dsimp only
    rw [htake, htake']
    exact .inl ⟨rfl, rfl⟩
  · dsimp only
    rw [htake, htake']
    exact .inr ⟨word, next, next', _, _, rfl, rfl, hnext⟩

theorem unexpected_alike (wanted : Expected) :
    (cursor.unexpected tagEnd wanted).message = (cursor'.unexpected tagEnd' wanted).message := by
  obtain ⟨lexemes, _⟩ := cursor
  obtain ⟨lexemes', _⟩ := cursor'
  cases lexemes with
  | nil =>
      obtain rfl : lexemes' = [] := List.map_eq_nil_iff.1 hcursor.symm
      rfl
  | cons lexeme lexemes =>
      obtain ⟨lexeme', lexemes', rfl, hkind, -⟩ := List.map_eq_cons_iff.1 hcursor.symm
      unfold unexpected
      dsimp only
      rw [hkind]
      rfl

theorem expect_alike (kind : LexemeKind) :
    Alike (fun _ => ()) (cursor.expect tagEnd kind) (cursor'.expect tagEnd' kind) := by
  unfold expect
  obtain ⟨htake, htake'⟩ | ⟨_, _, next, next', _, _, htake, htake', hnext⟩ :=
    take?_alike hcursor kind
  · rw [htake, htake']
    exact Agree.error (unexpected_alike hcursor _)
  · rw [htake, htake']
    exact Alike.ok rfl hnext

theorem expectInside_alike (bracket : Punct) {opened opened' : Span} (mark : Punct) :
    Alike (fun _ => ()) (cursor.expectInside tagEnd bracket opened mark)
      (cursor'.expectInside tagEnd' bracket opened' mark) := by
  unfold expectInside
  apply Agree.ite (rest_eq_nil_alike hcursor)
  · intro _
    exact Agree.error rfl
  · intro _
    exact expect_alike hcursor _

theorem expectName_alike (role : NameRole) :
    Alike Prod.fst (cursor.expectName tagEnd role) (cursor'.expectName tagEnd' role) := by
  unfold expectName
  obtain ⟨hname, hname'⟩ | ⟨text, _, _, next, next', _, _, hname, hname', hnext⟩ :=
    name?_alike hcursor
  · rw [hname, hname']
    exact Agree.error (unexpected_alike hcursor _)
  · rw [hname, hname']
    exact Alike.ok rfl hnext

theorem expectEnd_alike : Agree (fun _ _ => True) cursor.expectEnd cursor'.expectEnd := by
  obtain ⟨lexemes, _⟩ := cursor
  obtain ⟨lexemes', _⟩ := cursor'
  cases lexemes with
  | nil =>
      obtain rfl : lexemes' = [] := List.map_eq_nil_iff.1 hcursor.symm
      exact Agree.ok trivial
  | cons lexeme lexemes =>
      obtain ⟨lexeme', lexemes', rfl, hkind, -⟩ := List.map_eq_cons_iff.1 hcursor.symm
      refine Agree.error ?_
      rw [hkind]
      rfl

omit hcursor in
theorem moreWords_alike {cursor cursor' : Cursor} (hcursor : cursor.kinds = cursor'.kinds) :
    (moreWords cursor).value = (moreWords cursor').value ∧
      (moreWords cursor).next.kinds = (moreWords cursor').next.kinds := by
  rw [moreWords, moreWords]
  obtain ⟨hdot, hdot'⟩ | ⟨_, _, afterDot, afterDot', _, _, hdot, hdot', hafter⟩ :=
    take?_alike hcursor (.punct .dot)
  · rw [hdot, hdot']
    exact ⟨rfl, hcursor⟩
  rw [hdot, hdot']
  dsimp only
  obtain ⟨hname, hname'⟩ | ⟨word, _, _, afterWord, afterWord', _, _, hname, hname', hword⟩ :=
    name?_alike hafter
  · rw [hname, hname']
    exact ⟨rfl, hcursor⟩
  · rw [hname, hname']
    obtain ⟨hvalue, hnext⟩ := moreWords_alike hword
    exact ⟨congrArg (word :: ·) hvalue, hnext⟩
termination_by cursor.size

theorem expectDotted_alike (role : NameRole) :
    Alike Prod.fst (cursor.expectDotted tagEnd role) (cursor'.expectDotted tagEnd' role) := by
  unfold expectDotted
  apply (expectName_alike hcursor role).bind
  rintro ⟨word, _⟩ ⟨_, _⟩ afterWord afterWord' _ _ rfl hword
  obtain ⟨hwords, hnext⟩ := moreWords_alike hword
  exact Alike.ok (congrArg (word :: ·) hwords) hnext

theorem connective_alike :
    Agree (fun found found' => (found = none ∧ found' = none) ∨
      ∃ connective next next' hsize hsize', found = some ⟨connective, next, hsize⟩ ∧
        found' = some ⟨connective, next', hsize'⟩ ∧ next.kinds = next'.kinds)
      cursor.connective cursor'.connective := by
  unfold connective
  obtain ⟨hnone, hnone'⟩ | ⟨kind, _, _, after, after', _, _, hsome, hsome', hafter⟩ :=
    next?_alike hcursor
  · rw [hnone, hnone']
    exact Agree.ok (.inl ⟨rfl, rfl⟩)
  rw [hsome, hsome']
  apply Agree.ite Iff.rfl
  · intro _
    obtain ⟨hin, hin'⟩ | ⟨_, _, next, next', _, _, hin, hin', hnext⟩ :=
      take?_alike hafter (.name "in")
    · rw [hin, hin']
      exact Agree.error rfl
    · rw [hin, hin']
      exact Agree.ok (.inr ⟨_, next, next', _, _, rfl, rfl, hnext⟩)
  · intro _
    dsimp only
    cases Connective.ofKind? kind with
    | none => exact Agree.ok (.inl ⟨rfl, rfl⟩)
    | some connective =>
        exact Agree.ok (.inr ⟨connective, after, after', _, _, rfl, rfl, hafter⟩)

theorem unaryOp?_alike :
    (cursor.unaryOp? = none ∧ cursor'.unaryOp? = none) ∨
      ∃ op span span' next next' hsize hsize',
        cursor.unaryOp? = some ⟨(op, span), next, hsize⟩ ∧
        cursor'.unaryOp? = some ⟨(op, span'), next', hsize'⟩ ∧ next.kinds = next'.kinds := by
  unfold unaryOp?
  obtain ⟨hnone, hnone'⟩ | ⟨kind, _, _, next, next', _, _, hsome, hsome', hnext⟩ :=
    next?_alike hcursor
  · rw [hnone, hnone']
    exact .inl ⟨rfl, rfl⟩
  rw [hsome, hsome']
  dsimp only
  cases UnaryOp.ofKind? kind with
  | none => exact .inl ⟨rfl, rfl⟩
  | some op => exact .inr ⟨op, _, _, next, next', _, _, rfl, rfl, hnext⟩

omit hcursor in
theorem moreStrings_alike (value : String) (span span' : Span) {cursor cursor' : Cursor}
    (hcursor : cursor.kinds = cursor'.kinds) :
    (moreStrings value span cursor).value.1 = (moreStrings value span' cursor').value.1 ∧
      (moreStrings value span cursor).next.kinds =
        (moreStrings value span' cursor').next.kinds := by
  rw [moreStrings, moreStrings]
  obtain ⟨hnone, hnone'⟩ | ⟨kind, _, _, after, after', _, _, hsome, hsome', hafter⟩ :=
    next?_alike hcursor
  · rw [hnone, hnone']
    exact ⟨rfl, hcursor⟩
  rw [hsome, hsome']
  cases kind with
  | str more => exact moreStrings_alike (value ++ more) _ _ hafter
  | _ => exact ⟨rfl, hcursor⟩
termination_by cursor.size

theorem atBareArgument_alike : cursor.atBareArgument = cursor'.atBareArgument := by
  rw [atBareArgument, atBareArgument, kind?_alike hcursor]

end Cursor

theorem Expr.ofWord?_alike (word : String) (span span' : Span) :
    (ofWord? word span = none ∧ ofWord? word span' = none) ∨
      ∃ value value', ofWord? word span = some value ∧ ofWord? word span' = some value' ∧
        value.spanless = value'.spanless := by
  unfold ofWord?
  split
  · exact .inr ⟨_, _, rfl, rfl, rfl⟩
  split
  · exact .inr ⟨_, _, rfl, rfl, rfl⟩
  split
  · exact .inr ⟨_, _, rfl, rfl, rfl⟩
  split
  · exact .inl ⟨rfl, rfl⟩
  · exact .inr ⟨_, _, rfl, rfl, rfl⟩

attribute [local simp] Expr.spanless Argument.spanless

namespace Parser

variable {tagEnd tagEnd' : Span} {bound bound' : Nat}

/-! ## Brackets -/

section Series

variable {α β : Type} {erase : α → β}
  {item : (cursor : Cursor) → cursor.size < bound → Reading α cursor.size}
  {item' : (cursor : Cursor) → cursor.size < bound' → Reading α cursor.size}
  (hitem : ∀ cursor cursor' hbound hbound', cursor.kinds = cursor'.kinds →
    Alike erase (item cursor hbound) (item' cursor' hbound'))

include hitem

theorem seriesTail_alike (opening closing : Punct) {opened opened' : Span}
    {cursor cursor' : Cursor} (hcursor : cursor.kinds = cursor'.kinds)
    (hbound : cursor.size < bound) (hbound' : cursor'.size < bound') :
    Alike (List.map erase) (seriesTail tagEnd item opening closing opened cursor hbound)
      (seriesTail tagEnd' item' opening closing opened' cursor' hbound') := by
  unfold seriesTail
  apply Agree.ite (by rw [Cursor.kind?_alike hcursor])
  · intro _
    exact Alike.ok rfl hcursor
  intro _
  apply (Cursor.expectInside_alike hcursor opening .comma).bind
  intro _ _ afterComma afterComma' _ _ _ hcomma
  apply Agree.ite (by rw [Cursor.kind?_alike hcomma])
  · intro _
    exact Alike.ok rfl hcomma
  intro _
  apply (hitem afterComma afterComma' _ _ hcomma).bind
  intro first first' afterFirst afterFirst' _ _ hfirst hafter
  apply (seriesTail_alike opening closing hafter _ _).bind
  intro others others' next next' _ _ hothers hnext
  exact Alike.ok (by rw [List.map_cons, List.map_cons, hfirst, hothers]) hnext
termination_by cursor.size

theorem series_alike (opening closing : Punct) {opened opened' : Span}
    {cursor cursor' : Cursor} (hcursor : cursor.kinds = cursor'.kinds)
    (hbound : cursor.size < bound) (hbound' : cursor'.size < bound') :
    Alike (List.map erase) (series tagEnd item opening closing opened cursor hbound)
      (series tagEnd' item' opening closing opened' cursor' hbound') := by
  unfold series
  apply Agree.ite (by rw [Cursor.kind?_alike hcursor])
  · intro _
    apply (Cursor.expectInside_alike hcursor opening closing).bind
    intro _ _ next next' _ _ _ hnext
    exact Alike.ok rfl hnext
  intro _
  apply (hitem cursor cursor' _ _ hcursor).bind
  intro first first' afterFirst afterFirst' _ _ hfirst hafter
  apply (seriesTail_alike hitem opening closing hafter _ _).bind
  intro others others' afterItems afterItems' _ _ hothers hitems
  apply (Cursor.expectInside_alike hitems opening closing).bind
  intro _ _ next next' _ _ _ hnext
  exact Alike.ok (by rw [List.map_cons, List.map_cons, hfirst, hothers]) hnext

end Series

/-- Readers of inner expressions that agree on lexemes of the same kinds. -/
def Nested.Alike (nested : Nested bound) (nested' : Nested bound') : Prop :=
  ∀ level cursor cursor' hbound hbound', cursor.kinds = cursor'.kinds →
    TemplateVariables.Alike Expr.spanless (nested level cursor hbound)
      (nested' level cursor' hbound')

section Nested

variable {nested : Nested bound} {nested' : Nested bound'} (hnested : nested.Alike nested')

include hnested

theorem groupTail_alike {cursor cursor' : Cursor} (hcursor : cursor.kinds = cursor'.kinds)
    (hbound : cursor.size < bound) (hbound' : cursor'.size < bound') :
    Alike (List.map Expr.spanless) (groupTail nested cursor hbound)
      (groupTail nested' cursor' hbound') := by
  unfold groupTail
  obtain ⟨hcomma, hcomma'⟩ | ⟨_, _, afterComma, afterComma', _, _, hcomma, hcomma', hmore⟩ :=
    Cursor.take?_alike hcursor (.punct .comma)
  · rw [hcomma, hcomma']
    exact Alike.ok rfl hcursor
  rw [hcomma, hcomma']
  apply Agree.ite (by rw [Cursor.kind?_alike hmore])
  · intro _
    exact Alike.ok rfl hmore
  intro _
  apply (hnested .full afterComma afterComma' _ _ hmore).bind
  intro first first' afterFirst afterFirst' _ _ hfirst hafter
  apply (groupTail_alike hafter _ _).bind
  intro others others' next next' _ _ hothers hnext
  exact Alike.ok (by rw [List.map_cons, List.map_cons, hfirst, hothers]) hnext
termination_by cursor.size

theorem group_alike {opened opened' : Span} {cursor cursor' : Cursor}
    (hcursor : cursor.kinds = cursor'.kinds) (hbound : cursor.size < bound)
    (hbound' : cursor'.size < bound') :
    Alike Expr.spanless (group tagEnd nested opened cursor hbound)
      (group tagEnd' nested' opened' cursor' hbound') := by
  unfold group
  obtain ⟨hclose, hclose'⟩ | ⟨_, _, next, next', _, _, hclose, hclose', hnext⟩ :=
    Cursor.take?_alike hcursor (.punct .rparen)
  · rw [hclose, hclose']
    apply (hnested .full cursor cursor' _ _ hcursor).bind
    intro first first' afterFirst afterFirst' _ _ hfirst hafter
    apply Agree.ite (by rw [Cursor.kind?_alike hafter])
    · intro _
      apply (groupTail_alike hnested hafter _ _).bind
      intro others others' afterItems afterItems' _ _ hothers hitems
      apply (Cursor.expectInside_alike hitems .lparen .rparen).bind
      intro _ _ next next' _ _ _ hnext
      exact Alike.ok (by simp [hfirst, hothers]) hnext
    · intro _
      apply (Cursor.expectInside_alike hafter .lparen .rparen).bind
      intro _ _ next next' _ _ _ hnext
      exact Alike.ok hfirst hnext
  · rw [hclose, hclose']
    exact Alike.ok rfl hnext

theorem entry_alike (cursor cursor' : Cursor) (hbound : cursor.size < bound)
    (hbound' : cursor'.size < bound') (hcursor : cursor.kinds = cursor'.kinds) :
    Alike Expr.spanlessEntry (entry tagEnd nested cursor hbound)
      (entry tagEnd' nested' cursor' hbound') := by
  unfold entry
  apply (hnested .full cursor cursor' _ _ hcursor).bind
  intro key key' afterKey afterKey' _ _ hkey hafterKey
  apply (Cursor.expect_alike hafterKey (.punct .colon)).bind
  intro _ _ afterColon afterColon' _ _ _ hcolon
  apply (hnested .full afterColon afterColon' _ _ hcolon).bind
  intro value value' next next' _ _ hvalue hnext
  exact Alike.ok (by rw [Expr.spanlessEntry, Expr.spanlessEntry, hkey, hvalue]) hnext

theorem argument_alike (cursor cursor' : Cursor) (hbound : cursor.size < bound)
    (hbound' : cursor'.size < bound') (hcursor : cursor.kinds = cursor'.kinds) :
    Alike Argument.spanless (argument nested cursor hbound)
      (argument nested' cursor' hbound') := by
  unfold argument
  obtain ⟨hstar, hstar'⟩ | ⟨_, _, afterStar, afterStar', _, _, hstar, hstar', hafter⟩ :=
    Cursor.takeEither_alike hcursor (.punct .star) (.punct .power)
  · rw [hstar, hstar']
    obtain ⟨hword, hword'⟩ | ⟨word, afterWord, afterWord', _, _, hword, hword', hafter⟩ :=
      Cursor.keyword?_alike hcursor
    · rw [hword, hword']
      apply (hnested .full cursor cursor' _ _ hcursor).bind
      intro value value' next next' _ _ hvalue hnext
      exact Alike.ok (by rw [Argument.spanless, Argument.spanless, hvalue]) hnext
    · rw [hword, hword']
      apply (hnested .full afterWord afterWord' _ _ hafter).bind
      intro value value' next next' _ _ hvalue hnext
      exact Alike.ok (by rw [Argument.spanless, Argument.spanless, hvalue]) hnext
  · rw [hstar, hstar']
    apply (hnested .full afterStar afterStar' _ _ hafter).bind
    intro value value' next next' _ _ hvalue hnext
    exact Alike.ok (by rw [Argument.spanless, Argument.spanless, hvalue]) hnext

theorem arguments_alike {opened opened' : Span} {cursor cursor' : Cursor}
    (hcursor : cursor.kinds = cursor'.kinds) (hbound : cursor.size < bound)
    (hbound' : cursor'.size < bound') :
    Alike (List.map Argument.spanless) (arguments tagEnd nested opened cursor hbound)
      (arguments tagEnd' nested' opened' cursor' hbound') :=
  series_alike (argument_alike hnested) .lparen .rparen hcursor hbound hbound'

theorem arguments?_alike {cursor cursor' : Cursor} (hcursor : cursor.kinds = cursor'.kinds)
    (hbound : cursor.size < bound) (hbound' : cursor'.size < bound') :
    Alike (Option.map (List.map Argument.spanless)) (arguments? tagEnd nested cursor hbound)
      (arguments? tagEnd' nested' cursor' hbound') := by
  unfold arguments?
  obtain ⟨hopen, hopen'⟩ | ⟨_, _, inside, inside', _, _, hopen, hopen', hinside⟩ :=
    Cursor.take?_alike hcursor (.punct .lparen)
  · rw [hopen, hopen']
    exact Alike.ok rfl hcursor
  rw [hopen, hopen']
  apply (arguments_alike hnested hinside _ _).bind
  intro args args' next next' _ _ hargs hnext
  exact Alike.ok (congrArg some hargs) hnext

/-! ## Operands -/

theorem primary_alike {cursor cursor' : Cursor} (hcursor : cursor.kinds = cursor'.kinds)
    (hbound : cursor.size ≤ bound) (hbound' : cursor'.size ≤ bound') :
    Alike Expr.spanless (primary tagEnd nested cursor hbound)
      (primary tagEnd' nested' cursor' hbound') := by
  unfold primary
  obtain ⟨hnone, hnone'⟩ | ⟨kind, span, span', next, next', _, _, hsome, hsome', hnext⟩ :=
    Cursor.next?_alike hcursor
  · rw [hnone, hnone']
    exact Agree.error rfl
  rw [hsome, hsome']
  cases kind with
  | name word =>
      obtain ⟨hword, hword'⟩ | ⟨value, value', hword, hword', hvalue⟩ :=
        Expr.ofWord?_alike word span span'
      · simp only [hword, hword']
        exact Agree.error rfl
      · simp only [hword, hword']
        exact Alike.ok hvalue hnext
  | number text => exact Alike.ok rfl hnext
  | str text =>
      obtain ⟨hvalue, hafter⟩ := Cursor.moreStrings_alike text span span' hnext
      exact Alike.ok (by simp [hvalue]) hafter
  | punct mark =>
      cases mark with
      | lparen =>
          apply (group_alike hnested hnext _ _).bind
          intro value value' after after' _ _ hvalue hafter
          exact Alike.ok hvalue hafter
      | lbracket =>
          apply (series_alike (hnested .full) .lbracket .rbracket hnext _ _).bind
          intro items items' after after' _ _ hitems hafter
          exact Alike.ok (by simp [hitems]) hafter
      | lbrace =>
          apply (series_alike (entry_alike hnested) .lbrace .rbrace hnext _ _).bind
          intro entries entries' after after' _ _ hentries hafter
          exact Alike.ok (by simp [hentries]) hafter
      | _ => exact Agree.error rfl

theorem slicePart_alike {cursor cursor' : Cursor} (hcursor : cursor.kinds = cursor'.kinds)
    (hbound : cursor.size < bound) (hbound' : cursor'.size < bound') :
    Alike (Option.map Expr.spanless) (slicePart nested cursor hbound)
      (slicePart nested' cursor' hbound') := by
  unfold slicePart
  apply Agree.ite (by rw [Cursor.kind?_alike hcursor])
  · intro _
    exact Alike.ok rfl hcursor
  intro _
  apply (hnested .full cursor cursor' _ _ hcursor).bind
  intro value value' next next' _ _ hvalue hnext
  exact Alike.ok (congrArg some hvalue) hnext

theorem sliceTail_alike {start start' : Option Expr}
    (hstart : start.map Expr.spanless = start'.map Expr.spanless) {opened opened' : Span}
    {cursor cursor' : Cursor} (hcursor : cursor.kinds = cursor'.kinds)
    (hbound : cursor.size < bound) (hbound' : cursor'.size < bound') :
    Alike Expr.spanless (sliceTail nested start opened cursor hbound)
      (sliceTail nested' start' opened' cursor' hbound') := by
  unfold sliceTail
  apply (slicePart_alike hnested hcursor _ _).bind
  intro stop stop' afterStop afterStop' _ _ hstop hafter
  dsimp only
  obtain ⟨hcolon, hcolon'⟩ | ⟨_, _, afterColon, afterColon', _, _, hcolon, hcolon', hstep⟩ :=
    Cursor.take?_alike hafter (.punct .colon)
  · rw [hcolon, hcolon']
    exact Alike.ok (by simp [hstart, hstop]) hafter
  rw [hcolon, hcolon']
  apply (slicePart_alike hnested hstep _ _).bind
  intro step step' next next' _ _ hstep hnext
  exact Alike.ok (by simp [hstart, hstop, hstep]) hnext

theorem subscriptIndex_alike {cursor cursor' : Cursor} (hcursor : cursor.kinds = cursor'.kinds)
    (hbound : cursor.size < bound) (hbound' : cursor'.size < bound') :
    Alike Expr.spanless (subscriptIndex tagEnd nested cursor hbound)
      (subscriptIndex tagEnd' nested' cursor' hbound') := by
  unfold subscriptIndex
  dsimp only
  obtain ⟨hcolon, hcolon'⟩ | ⟨_, _, afterColon, afterColon', _, _, hcolon, hcolon', hafter⟩ :=
    Cursor.take?_alike hcursor (.punct .colon)
  · rw [hcolon, hcolon']
    apply (hnested .full cursor cursor' _ _ hcursor).bind
    intro index index' afterIndex afterIndex' _ _ hindex hafterIndex
    dsimp only
    obtain ⟨hcolon, hcolon'⟩ | ⟨_, _, afterColon, afterColon', _, _, hcolon, hcolon', hafter⟩ :=
      Cursor.take?_alike hafterIndex (.punct .colon)
    · rw [hcolon, hcolon']
      exact Alike.ok hindex hafterIndex
    rw [hcolon, hcolon']
    have hstart : (some index).map Expr.spanless = (some index').map Expr.spanless :=
      congrArg some hindex
    apply (sliceTail_alike hnested hstart hafter _ _).bind
    intro value value' next next' _ _ hvalue hnext
    exact Alike.ok hvalue hnext
  · rw [hcolon, hcolon']
    apply (sliceTail_alike hnested rfl hafter _ _).bind
    intro value value' next next' _ _ hvalue hnext
    exact Alike.ok hvalue hnext

omit hnested in
theorem attributeName_alike {cursor cursor' : Cursor} (hcursor : cursor.kinds = cursor'.kinds) :
    Alike id (attributeName tagEnd cursor) (attributeName tagEnd' cursor') := by
  unfold attributeName
  obtain ⟨hnone, hnone'⟩ | ⟨kind, _, _, next, next', _, _, hsome, hsome', hnext⟩ :=
    Cursor.next?_alike hcursor
  · rw [hnone, hnone']
    exact Agree.error rfl
  rw [hsome, hsome']
  cases kind with
  | name text => exact Alike.ok rfl hnext
  | number text => exact Alike.ok rfl hnext
  | _ => exact Agree.error rfl

theorem accessTail_alike {base base' : Expr} (hbase : base.spanless = base'.spanless)
    {cursor cursor' : Cursor} (hcursor : cursor.kinds = cursor'.kinds)
    (hbound : cursor.size < bound) (hbound' : cursor'.size < bound') :
    Alike Expr.spanless (accessTail tagEnd nested base cursor hbound)
      (accessTail tagEnd' nested' base' cursor' hbound') := by
  unfold accessTail
  obtain ⟨hdot, hdot'⟩ | ⟨_, _, afterDot, afterDot', _, _, hdot, hdot', hafterDot⟩ :=
    Cursor.take?_alike hcursor (.punct .dot)
  rotate_left
  · rw [hdot, hdot']
    apply (attributeName_alike hafterDot).bind
    rintro name name' afterName afterName' _ _ (rfl : name = name') hafter
    apply (accessTail_alike (by simp [hbase]) hafter _ _).bind
    intro value value' next next' _ _ hvalue hnext
    exact Alike.ok hvalue hnext
  rw [hdot, hdot']
  dsimp only
  obtain ⟨hopen, hopen'⟩ | ⟨_, _, inside, inside', _, _, hopen, hopen', hinside⟩ :=
    Cursor.take?_alike hcursor (.punct .lbracket)
  rotate_left
  · rw [hopen, hopen']
    apply (subscriptIndex_alike hnested hinside _ _).bind
    intro index index' afterIndex afterIndex' _ _ hindex hafter
    apply (Cursor.expectInside_alike hafter .lbracket .rbracket).bind
    intro _ _ closed closed' _ _ _ hclosed
    apply (accessTail_alike (by simp [hbase, hindex]) hclosed _ _).bind
    intro value value' next next' _ _ hvalue hnext
    exact Alike.ok hvalue hnext
  rw [hopen, hopen']
  dsimp only
  obtain ⟨hopen, hopen'⟩ | ⟨_, _, inside, inside', _, _, hopen, hopen', hinside⟩ :=
    Cursor.take?_alike hcursor (.punct .lparen)
  · rw [hopen, hopen']
    exact Alike.ok hbase hcursor
  · rw [hopen, hopen']
    apply (arguments_alike hnested hinside _ _).bind
    intro args args' closed closed' _ _ hargs hclosed
    apply (accessTail_alike (by simp [hbase, hargs]) hclosed _ _).bind
    intro value value' next next' _ _ hvalue hnext
    exact Alike.ok hvalue hnext
termination_by cursor.size

theorem filterCall_alike {cursor cursor' : Cursor} (hcursor : cursor.kinds = cursor'.kinds)
    (hbound : cursor.size < bound) (hbound' : cursor'.size < bound') :
    Alike FilterCall.spanless (filterCall tagEnd nested cursor hbound)
      (filterCall tagEnd' nested' cursor' hbound') := by
  unfold filterCall
  apply (Cursor.expectDotted_alike hcursor .filter).bind
  rintro ⟨name, _⟩ ⟨_, _⟩ afterName afterName' _ _ rfl hafter
  apply (arguments?_alike hnested hafter _ _).bind
  intro args args' next next' _ _ hargs hnext
  have hlist (args : Option (List Argument)) : Argument.spanlessList (args.getD []) =
      (args.map (List.map Argument.spanless)).getD [] := by
    cases args with
    | none => rfl
    | some args => exact Argument.spanlessList_eq_map args
  refine Alike.ok ?_ hnext
  rw [FilterCall.spanless, FilterCall.spanless, hlist, hlist, hargs]

theorem filterTail_alike {base base' : Expr} (hbase : base.spanless = base'.spanless)
    {cursor cursor' : Cursor} (hcursor : cursor.kinds = cursor'.kinds)
    (hbound : cursor.size < bound) (hbound' : cursor'.size < bound') :
    Alike Expr.spanless (filterTail tagEnd nested base cursor hbound)
      (filterTail tagEnd' nested' base' cursor' hbound') := by
  unfold filterTail
  obtain ⟨hbar, hbar'⟩ | ⟨_, _, afterBar, afterBar', _, _, hbar, hbar', hafterBar⟩ :=
    Cursor.take?_alike hcursor (.punct .pipe)
  · rw [hbar, hbar']
    exact Alike.ok hbase hcursor
  rw [hbar, hbar']
  apply (filterCall_alike hnested hafterBar _ _).bind
  intro filter filter' afterFilter afterFilter' _ _ hfilter hafter
  apply (filterTail_alike (by simp [hbase, hfilter]) hafter _ _).bind
  intro value value' next next' _ _ hvalue hnext
  exact Alike.ok hvalue hnext
termination_by cursor.size

theorem operand_alike {cursor cursor' : Cursor} (hcursor : cursor.kinds = cursor'.kinds)
    (hbound : cursor.size ≤ bound) (hbound' : cursor'.size ≤ bound') :
    Alike Expr.spanless (operand tagEnd nested cursor hbound)
      (operand tagEnd' nested' cursor' hbound') := by
  unfold operand
  apply (primary_alike hnested hcursor _ _).bind
  intro head head' afterHead afterHead' _ _ hhead hafterHead
  apply (accessTail_alike hnested hhead hafterHead _ _).bind
  intro accessed accessed' afterAccess afterAccess' _ _ haccess hafterAccess
  apply (filterTail_alike hnested haccess hafterAccess _ _).bind
  intro value value' next next' _ _ hvalue hnext
  exact Alike.ok hvalue hnext

/-! ## Operators -/

theorem test_alike {value value' : Expr} (hvalue : value.spanless = value'.spanless)
    {cursor cursor' : Cursor} (hcursor : cursor.kinds = cursor'.kinds)
    (hbound : cursor.size < bound) (hbound' : cursor'.size < bound') :
    Alike Expr.spanless (test tagEnd nested value cursor hbound)
      (test tagEnd' nested' value' cursor' hbound') := by
  unfold test
  split
  next negated start _ hstart =>
  split
  next negated' start' _ hstart' =>
  obtain ⟨rfl, hafterNot⟩ : negated = negated' ∧ start.kinds = start'.kinds := by
    obtain ⟨hnot, hnot'⟩ | ⟨_, _, next, next', _, _, hnot, hnot', hnext⟩ :=
      Cursor.take?_alike hcursor (.name "not")
    · rw [hnot] at hstart
      rw [hnot'] at hstart'
      cases hstart
      cases hstart'
      exact ⟨rfl, hcursor⟩
    · rw [hnot] at hstart
      rw [hnot'] at hstart'
      cases hstart
      cases hstart'
      exact ⟨rfl, hnext⟩
  apply (Cursor.expectDotted_alike hafterNot .test).bind
  rintro ⟨name, _⟩ ⟨_, _⟩ afterName afterName' _ _ rfl hafterName
  apply (arguments?_alike hnested hafterName _ _).bind
  intro args args' afterArgs afterArgs' _ _ hargs hafterArgs
  cases args with
  | some args =>
      obtain ⟨args', rfl, hargs'⟩ := Option.map_eq_some_iff.1 hargs.symm
      exact Alike.ok (by simp [hvalue, hargs']) hafterArgs
  | none =>
      obtain rfl : args' = none := Option.map_eq_none_iff.1 hargs.symm
      apply Agree.ite (by rw [Cursor.atBareArgument_alike hafterArgs])
      · intro _
        apply (primary_alike hnested hafterArgs _ _).bind
        intro head head' afterHead afterHead' _ _ hhead hafterHead
        apply (accessTail_alike hnested hhead hafterHead _ _).bind
        intro arg arg' next next' _ _ harg hnext
        exact Alike.ok (by simp [hvalue, harg]) hnext
      · intro _
        exact Alike.ok (by simp [hvalue]) hafterArgs

theorem operatorTail_alike (power : Nat) {left left' : Expr}
    (hleft : left.spanless = left'.spanless) {cursor cursor' : Cursor}
    (hcursor : cursor.kinds = cursor'.kinds) (hbound : cursor.size < bound)
    (hbound' : cursor'.size < bound') :
    Alike Expr.spanless (operatorTail tagEnd nested power left cursor hbound)
      (operatorTail tagEnd' nested' power left' cursor' hbound') := by
  unfold operatorTail
  apply (Cursor.connective_alike hcursor).bind
  rintro _ _ (⟨rfl, rfl⟩ | ⟨connective, afterOp, afterOp', _, _, rfl, rfl, hafterOp⟩)
  · exact Alike.ok hleft hcursor
  apply Agree.ite Iff.rfl
  · intro _
    exact Alike.ok hleft hcursor
  intro _
  cases connective with
  | test =>
      apply (test_alike hnested hleft hafterOp _ _).bind
      intro tested tested' afterTest afterTest' _ _ htested hafter
      apply (operatorTail_alike power htested hafter _ _).bind
      intro value value' next next' _ _ hvalue hnext
      exact Alike.ok hvalue hnext
  | operator op =>
      apply (hnested (.above op.powers.2) afterOp afterOp' _ _ hafterOp).bind
      intro right right' afterRight afterRight' _ _ hright hafter
      apply (operatorTail_alike power (by simp [hleft, hright]) hafter _ _).bind
      intro value value' next next' _ _ hvalue hnext
      exact Alike.ok hvalue hnext
termination_by cursor.size

theorem signed_alike {cursor cursor' : Cursor} (hcursor : cursor.kinds = cursor'.kinds)
    (hbound : cursor.size ≤ bound) (hbound' : cursor'.size ≤ bound') :
    Alike Expr.spanless (signed tagEnd nested cursor hbound)
      (signed tagEnd' nested' cursor' hbound') := by
  unfold signed
  obtain ⟨hnone, hnone'⟩ | ⟨op, _, _, afterOp, afterOp', _, _, hsome, hsome', hafter⟩ :=
    Cursor.unaryOp?_alike hcursor
  · rw [hnone, hnone']
    exact operand_alike hnested hcursor hbound hbound'
  rw [hsome, hsome']
  apply (hnested (.above op.power) afterOp afterOp' _ _ hafter).bind
  intro inner inner' next next' _ _ hinner hnext
  exact Alike.ok (by simp [hinner]) hnext

theorem operation_alike (power : Nat) {cursor cursor' : Cursor}
    (hcursor : cursor.kinds = cursor'.kinds) (hbound : cursor.size ≤ bound)
    (hbound' : cursor'.size ≤ bound') :
    Alike Expr.spanless (operation tagEnd nested power cursor hbound)
      (operation tagEnd' nested' power cursor' hbound') := by
  unfold operation
  apply (signed_alike hnested hcursor _ _).bind
  intro left left' afterLeft afterLeft' _ _ hleft hafter
  apply (operatorTail_alike hnested power hleft hafter _ _).bind
  intro value value' next next' _ _ hvalue hnext
  exact Alike.ok hvalue hnext

theorem conditionalTail_alike {head head' : Expr} (hhead : head.spanless = head'.spanless)
    {cursor cursor' : Cursor} (hcursor : cursor.kinds = cursor'.kinds)
    (hbound : cursor.size < bound) (hbound' : cursor'.size < bound') :
    Alike Expr.spanless (conditionalTail nested head cursor hbound)
      (conditionalTail nested' head' cursor' hbound') := by
  unfold conditionalTail
  obtain ⟨hif, hif'⟩ | ⟨_, _, afterIf, afterIf', _, _, hif, hif', hafterIf⟩ :=
    Cursor.take?_alike hcursor (.name "if")
  · rw [hif, hif']
    exact Alike.ok hhead hcursor
  rw [hif, hif']
  apply (hnested (.above 0) afterIf afterIf' _ _ hafterIf).bind
  intro condition condition' afterCondition afterCondition' _ _ hcondition hafter
  dsimp only
  obtain ⟨helse, helse'⟩ | ⟨_, _, afterElse, afterElse', _, _, helse, helse', hafterElse⟩ :=
    Cursor.take?_alike hafter (.name "else")
  · rw [helse, helse']
    apply (conditionalTail_alike (by simp [hhead, hcondition]) hafter _ _).bind
    intro value value' next next' _ _ hvalue hnext
    exact Alike.ok hvalue hnext
  rw [helse, helse']
  apply (hnested .full afterElse afterElse' _ _ hafterElse).bind
  intro otherwise otherwise' afterOther afterOther' _ _ hotherwise hafterOther
  apply (conditionalTail_alike (by simp [hhead, hcondition, hotherwise])
    hafterOther _ _).bind
  intro value value' next next' _ _ hvalue hnext
  exact Alike.ok hvalue hnext
termination_by cursor.size

end Nested

end Parser

/-! ## Expressions -/

namespace Expr

variable {tagEnd tagEnd' : Span}

/-- From the operation at the front on, expressions of all kinds are read alike. -/
theorem read_full_alike {cursor cursor' : Cursor}
    (hnested : (Parser.reader tagEnd cursor.size).Alike (Parser.reader tagEnd' cursor'.size))
    (hoperation : Alike spanless
      (Parser.operation tagEnd (Parser.reader tagEnd cursor.size) 0 cursor (Nat.le_refl _))
      (Parser.operation tagEnd' (Parser.reader tagEnd' cursor'.size) 0 cursor'
        (Nat.le_refl _))) :
    Alike spanless (read tagEnd .full cursor) (read tagEnd' .full cursor') := by
  unfold read
  apply hoperation.bind
  intro head head' afterHead afterHead' _ _ hhead hafter
  apply (Parser.conditionalTail_alike hnested hhead hafter _ _).bind
  intro value value' next next' _ _ hvalue hnext
  exact Alike.ok hvalue hnext

theorem read_alike (level : Level) {cursor cursor' : Cursor}
    (hcursor : cursor.kinds = cursor'.kinds) :
    Alike spanless (read tagEnd level cursor) (read tagEnd' level cursor') := by
  have hnested : (Parser.reader tagEnd cursor.size).Alike (Parser.reader tagEnd' cursor'.size) :=
    fun level inner inner' hinner _ hkinds => read_alike level hkinds
  cases level with
  | above power =>
      rw [read_above, read_above]
      exact Parser.operation_alike hnested power hcursor _ _
  | full => exact read_full_alike hnested (Parser.operation_alike hnested 0 hcursor _ _)
termination_by cursor.size

theorem readTupleTail_alike (level : Level) {cursor cursor' : Cursor}
    (hcursor : cursor.kinds = cursor'.kinds) :
    Alike (List.map spanless) (readTupleTail tagEnd level cursor)
      (readTupleTail tagEnd' level cursor') := by
  unfold readTupleTail
  obtain ⟨hcomma, hcomma'⟩ | ⟨_, _, afterComma, afterComma', _, _, hcomma, hcomma', hmore⟩ :=
    Cursor.take?_alike hcursor (.punct .comma)
  · rw [hcomma, hcomma']
    exact Alike.ok rfl hcursor
  rw [hcomma, hcomma']
  apply Agree.ite (by rw [Cursor.atListEnd_alike hmore])
  · intro _
    exact Alike.ok rfl hmore
  intro _
  apply (read_alike level hmore).bind
  intro first first' afterFirst afterFirst' _ _ hfirst hafter
  apply (readTupleTail_alike level hafter).bind
  intro others others' next next' _ _ hothers hnext
  exact Alike.ok (by rw [List.map_cons, List.map_cons, hfirst, hothers]) hnext
termination_by cursor.size

theorem readTuple_alike_of_read {level : Level} {cursor cursor' : Cursor}
    (hread : Alike spanless (read tagEnd level cursor) (read tagEnd' level cursor')) :
    Alike spanless (readTuple tagEnd level cursor) (readTuple tagEnd' level cursor') := by
  unfold readTuple
  apply hread.bind
  intro first first' afterFirst afterFirst' _ _ hfirst hafter
  apply Agree.ite (by rw [Cursor.kind?_alike hafter])
  · intro _
    apply (readTupleTail_alike level hafter).bind
    intro others others' next next' _ _ hothers hnext
    exact Alike.ok (by simp [hfirst, hothers]) hnext
  · intro _
    exact Alike.ok hfirst hafter

theorem readTuple_alike (level : Level) {cursor cursor' : Cursor}
    (hcursor : cursor.kinds = cursor'.kinds) :
    Alike spanless (readTuple tagEnd level cursor) (readTuple tagEnd' level cursor') :=
  readTuple_alike_of_read (read_alike level hcursor)

theorem ofLexemes_alike_of_readTuple {lexemes lexemes' : List Lexeme}
    (htuple : Alike spanless (readTuple tagEnd .full (Cursor.ofLexemes lexemes))
      (readTuple tagEnd' .full (Cursor.ofLexemes lexemes'))) :
    Agree (fun value value' : Expr => value.spanless = value'.spanless)
      (ofLexemes lexemes tagEnd) (ofLexemes lexemes' tagEnd') := by
  unfold ofLexemes
  apply htuple.bind
  intro value value' next next' _ _ hvalue hnext
  apply (Cursor.expectEnd_alike hnext).bind
  intro _ _ _
  exact Agree.ok hvalue

theorem ofLexemes_alike {lexemes lexemes' : List Lexeme}
    (hkinds : lexemes.map Lexeme.kind = lexemes'.map Lexeme.kind) :
    Agree (fun value value' : Expr => value.spanless = value'.spanless)
      (ofLexemes lexemes tagEnd) (ofLexemes lexemes' tagEnd') :=
  ofLexemes_alike_of_readTuple (readTuple_alike .full hkinds)

theorem readFilter_alike {cursor cursor' : Cursor} (hcursor : cursor.kinds = cursor'.kinds) :
    Alike FilterCall.spanless (readFilter tagEnd cursor) (readFilter tagEnd' cursor') :=
  Parser.filterCall_alike (fun level _ _ _ _ hkinds => read_alike level hkinds) hcursor
    (Nat.lt_succ_self _) (Nat.lt_succ_self _)

end Expr

theorem Parser.reader_alike (tagEnd tagEnd' : Span) (bound bound' : Nat) :
    (reader tagEnd bound).Alike (reader tagEnd' bound') :=
  fun level _ _ _ _ hkinds => Expr.read_alike level hkinds

end TemplateVariables
