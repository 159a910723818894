import TemplateVariables.Proofs.Expr.Spelling

/-!
# Printing expressions

An expression is printed with brackets around every part.  Reading the printed
lexemes gives the expression back up to spans, whatever spans the lexemes
carry.

Inside a larger expression every part stands in brackets, so what follows a
printed part is a closing bracket, and the induction needs only one statement:
the printed lexemes are read as the expression where the expression may end.
-/

namespace TemplateVariables

/-! ## The printed form -/

def parenthesised (kinds : List LexemeKind) : List LexemeKind :=
  .punct .lparen :: (kinds ++ [.punct .rparen])

/-- The pieces of a series with commas between them. -/
def separated : List (List LexemeKind) → List LexemeKind
  | [] => []
  | first :: rest => first ++ rest.flatMap fun piece => .punct .comma :: piece

/-- The words of a filter or test name with dots between them. -/
def DottedName.kinds : DottedName → List LexemeKind
  | [] => []
  | word :: words => .name word :: words.flatMap fun word => [.punct .dot, .name word]

/-- An attribute is written as a number if it consists of digits. -/
def attributeKind (name : String) : LexemeKind :=
  if name.toList.all Char.isDigit then .number name else .name name

def Expr.isSlice : Expr → Bool
  | .slice .. => true
  | _ => false

mutual

def Expr.print : Expr → List LexemeKind
  | .literal value _ => [value.kind]
  | .identifier name _ => [.name name]
  | .attribute base name _ => parenthesised base.print ++ [.punct .dot, attributeKind name]
  | .subscript base index _ =>
      parenthesised base.print ++
        .punct .lbracket ::
          ((if index.isSlice then index.print else parenthesised index.print) ++
            [.punct .rbracket])
  | .slice start stop step _ =>
      Expr.printPart start ++ .punct .colon :: (Expr.printPart stop ++ Expr.printStep step)
  | .call callee args _ =>
      parenthesised callee.print ++ parenthesised (separated (Argument.printEach args))
  | .filter value ⟨name, args, _⟩ _ =>
      parenthesised value.print ++
        .punct .pipe ::
          (DottedName.kinds name ++ parenthesised (separated (Argument.printEach args)))
  | .test value name args negated _ =>
      parenthesised value.print ++
        .name "is" ::
          ((if negated then [.name "not"] else []) ++
            (DottedName.kinds name ++ parenthesised (separated (Argument.printEach args))))
  | .unary op operand _ => op.kind :: parenthesised operand.print
  | .binary op left right _ =>
      parenthesised left.print ++ (op.kinds ++ parenthesised right.print)
  | .conditional value condition otherwise _ =>
      parenthesised value.print ++
        .name "if" :: (parenthesised condition.print ++ Expr.printElse otherwise)
  | .list items _ =>
      .punct .lbracket :: (separated (Expr.printEach items) ++ [.punct .rbracket])
  | .tuple items _ =>
      parenthesised
        (separated (Expr.printEach items) ++ if items.length = 1 then [.punct .comma] else [])
  | .dict entries _ =>
      .punct .lbrace :: (separated (Expr.printEntries entries) ++ [.punct .rbrace])

/-- The start or stop of a slice. -/
def Expr.printPart : Option Expr → List LexemeKind
  | none => []
  | some part => parenthesised part.print

def Expr.printStep : Option Expr → List LexemeKind
  | none => []
  | some step => .punct .colon :: parenthesised step.print

def Expr.printElse : Option Expr → List LexemeKind
  | none => []
  | some otherwise => .name "else" :: parenthesised otherwise.print

def Expr.printEach : List Expr → List (List LexemeKind)
  | [] => []
  | item :: rest => parenthesised item.print :: Expr.printEach rest

def Argument.printEach : List Argument → List (List LexemeKind)
  | [] => []
  | ⟨none, value⟩ :: rest => parenthesised value.print :: Argument.printEach rest
  | ⟨some keyword, value⟩ :: rest =>
      (.name keyword :: .punct .assign :: parenthesised value.print) :: Argument.printEach rest

def Expr.printEntries : List (Expr × Expr) → List (List LexemeKind)
  | [] => []
  | (key, value) :: rest =>
      (parenthesised key.print ++ .punct .colon :: parenthesised value.print) ::
        Expr.printEntries rest

end

/-! ## Well-formed expressions -/

/-- The expressions of the language.  A slice is only the index of a subscript. -/
inductive Expr.WellFormed : Expr → Prop where
  | literal (value : Literal) (span : Span) : Expr.WellFormed (.literal value span)
  | identifier {name : String} (hreserved : name ∉ reservedWords)
      (hliteral : name ∉ literalWords) (span : Span) : Expr.WellFormed (.identifier name span)
  | member {base : Expr} (hbase : base.WellFormed) (name : String) (span : Span) :
      Expr.WellFormed (.attribute base name span)
  | subscript {base index : Expr} (hbase : base.WellFormed) (hindex : index.WellFormed)
      (span : Span) : Expr.WellFormed (.subscript base index span)
  | subscriptSlice {base : Expr} {start stop step : Option Expr} (hbase : base.WellFormed)
      (hstart : ∀ part ∈ start, part.WellFormed) (hstop : ∀ part ∈ stop, part.WellFormed)
      (hstep : ∀ part ∈ step, part.WellFormed) (sliceSpan span : Span) :
      Expr.WellFormed (.subscript base (.slice start stop step sliceSpan) span)
  | call {callee : Expr} {args : List Argument} (hcallee : callee.WellFormed)
      (hargs : ∀ arg ∈ args, arg.value.WellFormed) (span : Span) :
      Expr.WellFormed (.call callee args span)
  | filter {value : Expr} {name : DottedName} {args : List Argument}
      (hvalue : value.WellFormed) (hname : name ≠ [])
      (hargs : ∀ arg ∈ args, arg.value.WellFormed) (filterSpan span : Span) :
      Expr.WellFormed (.filter value ⟨name, args, filterSpan⟩ span)
  | test {value : Expr} {name : DottedName} {args : List Argument} {negated : Bool}
      (hvalue : value.WellFormed) (hname : name ≠ [])
      (hnot : negated = false → name.head? ≠ some "not")
      (hargs : ∀ arg ∈ args, arg.value.WellFormed) (span : Span) :
      Expr.WellFormed (.test value name args negated span)
  | unary (op : UnaryOp) {operand : Expr} (hoperand : operand.WellFormed) (span : Span) :
      Expr.WellFormed (.unary op operand span)
  | binary (op : BinaryOp) {left right : Expr} (hleft : left.WellFormed)
      (hright : right.WellFormed) (span : Span) : Expr.WellFormed (.binary op left right span)
  | conditional {value condition : Expr} {otherwise : Option Expr}
      (hvalue : value.WellFormed) (hcondition : condition.WellFormed)
      (hotherwise : ∀ part ∈ otherwise, part.WellFormed) (span : Span) :
      Expr.WellFormed (.conditional value condition otherwise span)
  | list {items : List Expr} (hitems : ∀ item ∈ items, item.WellFormed) (span : Span) :
      Expr.WellFormed (.list items span)
  | tuple {items : List Expr} (hitems : ∀ item ∈ items, item.WellFormed) (span : Span) :
      Expr.WellFormed (.tuple items span)
  | dict {entries : List (Expr × Expr)} (hkeys : ∀ entry ∈ entries, entry.1.WellFormed)
      (hvalues : ∀ entry ∈ entries, entry.2.WellFormed) (span : Span) :
      Expr.WellFormed (.dict entries span)

theorem Expr.WellFormed.isSlice_eq_false {expr : Expr} (hexpr : expr.WellFormed) :
    expr.isSlice = false := by
  cases hexpr <;> rfl

/-! ## Brackets -/

def Argument.print : Argument → List LexemeKind
  | ⟨none, value⟩ => parenthesised value.print
  | ⟨some keyword, value⟩ => .name keyword :: .punct .assign :: parenthesised value.print

def Expr.printEntry (entry : Expr × Expr) : List LexemeKind :=
  parenthesised entry.1.print ++ .punct .colon :: parenthesised entry.2.print

theorem Expr.printEach_eq_map (items : List Expr) :
    Expr.printEach items = items.map fun item => parenthesised item.print := by
  induction items with
  | nil => rfl
  | cons item rest ih => rw [Expr.printEach, ih, List.map_cons]

theorem Argument.printEach_eq_map (args : List Argument) :
    Argument.printEach args = args.map Argument.print := by
  induction args with
  | nil => rfl
  | cons arg rest ih =>
      obtain ⟨name, value⟩ := arg
      cases name <;> rw [Argument.printEach, ih, List.map_cons, Argument.print]

theorem Expr.printEntries_eq_map (entries : List (Expr × Expr)) :
    Expr.printEntries entries = entries.map Expr.printEntry := by
  induction entries with
  | nil => rfl
  | cons entry rest ih =>
      obtain ⟨key, value⟩ := entry
      rw [Expr.printEntries, ih, List.map_cons, Expr.printEntry]

theorem parenthesised_append (kinds rest : List LexemeKind) :
    parenthesised kinds ++ rest = .punct .lparen :: (kinds ++ .punct .rparen :: rest) := by
  simp [parenthesised]

theorem Cursor.take?_eq_none_of_parenthesised {cursor : Cursor} {kinds rest : List LexemeKind}
    (hkinds : cursor.kinds = parenthesised kinds ++ rest) {kind : LexemeKind}
    (hkind : kind ≠ .punct .lparen) : cursor.take? kind = none := by
  apply Cursor.take?_eq_none
  rw [hkinds, parenthesised_append]
  simpa using hkind.symm

/-- No printed form is empty or begins with a closing bracket. -/
theorem Expr.print_eq_cons (expr : Expr) :
    ∃ kind rest, expr.print = kind :: rest ∧ kind ≠ .punct .rparen := by
  cases expr with
  | literal value span =>
      refine ⟨value.kind, [], by rw [Expr.print], ?_⟩
      rcases value with value | text | value | _
      · exact LexemeKind.noConfusion
      · exact LexemeKind.noConfusion
      · cases value <;> exact LexemeKind.noConfusion
      · exact LexemeKind.noConfusion
  | identifier name span => exact ⟨.name name, [], by rw [Expr.print], LexemeKind.noConfusion⟩
  | slice start stop step span =>
      cases start with
      | none => exact ⟨_, _, by rw [Expr.print, Expr.printPart, List.nil_append], by decide⟩
      | some start =>
          exact ⟨_, _, by rw [Expr.print, Expr.printPart, parenthesised_append], by decide⟩
  | unary op operand span =>
      refine ⟨op.kind, _, by rw [Expr.print], ?_⟩
      cases op <;> decide
  | filter value filter span =>
      obtain ⟨name, args, filterSpan⟩ := filter
      exact ⟨_, _, by rw [Expr.print, parenthesised_append], by decide⟩
  | tuple items span => exact ⟨_, _, by rw [Expr.print, parenthesised], by decide⟩
  | list items span => exact ⟨_, _, by rw [Expr.print], by decide⟩
  | dict entries span => exact ⟨_, _, by rw [Expr.print], by decide⟩
  | _ => exact ⟨_, _, by rw [Expr.print, parenthesised_append], by decide⟩

/-- The printed form of the expression is read as the expression where an
expression may end. -/
def Expr.ReadsBack (expr : Expr) : Prop :=
  ∀ (tagEnd : Span) (cursor : Cursor) (rest : List LexemeKind),
    cursor.kinds = expr.print ++ rest → EndsExpression rest →
      Yields (Expr.read tagEnd .full cursor) (fun value => value.spanless = expr.spanless) rest

namespace Parser

variable (tagEnd : Span) {bound : Nat} {cursor : Cursor} {rest : List LexemeKind}
  {expr : Expr}

theorem primary_parenthesised (hexpr : expr.ReadsBack) (hbound : cursor.size ≤ bound)
    (hkinds : cursor.kinds = parenthesised expr.print ++ rest) :
    Yields (primary tagEnd (reader tagEnd bound) cursor hbound)
      (fun value => value.spanless = expr.spanless) rest := by
  rw [parenthesised_append] at hkinds
  obtain ⟨opened, inside, hinside, hcursor, hinsideKinds⟩ := Cursor.next?_eq_some hkinds
  have hempty : inside.take? (.punct .rparen) = none := by
    obtain ⟨kind, others, hprint, hkind⟩ := expr.print_eq_cons
    apply Cursor.take?_eq_none
    simpa [hinsideKinds, hprint] using hkind
  have hends : EndsExpression (.punct .rparen :: rest) :=
    endsExpression_punct rest (by decide)
  unfold primary
  simp only [hcursor]
  have hgroup : Yields (group tagEnd (reader tagEnd bound) opened inside (by omega))
      (fun value => value.spanless = expr.spanless) rest := by
    unfold group
    simp only [hempty]
    apply (hexpr tagEnd inside _ hinsideKinds hends).bind
    intro value afterValue hafterValue hvalue hvalueKinds
    have hcomma : afterValue.kind? ≠ some (.punct .comma) := by
      rw [Cursor.kind?_eq_head?, hvalueKinds]
      simp
    simp only [hcomma, if_false]
    apply (Cursor.expectInside_yields tagEnd .lparen opened hvalueKinds).bind
    intro _ next hnext _ hrest
    exact Yields.pure hvalue hrest
  apply hgroup.bind
  intro value next hnext hvalue hrest
  exact Yields.pure hvalue hrest

theorem operand_parenthesised (hexpr : expr.ReadsBack) (hbound : cursor.size ≤ bound)
    (hkinds : cursor.kinds = parenthesised expr.print ++ rest) (hends : EndsOperand rest) :
    Yields (operand tagEnd (reader tagEnd bound) cursor hbound)
      (fun value => value.spanless = expr.spanless) rest :=
  operand_of_primary hbound (primary_parenthesised tagEnd hexpr hbound hkinds) hends

theorem operation_parenthesised (power : Nat) (hexpr : expr.ReadsBack)
    (hbound : cursor.size ≤ bound)
    (hkinds : cursor.kinds = parenthesised expr.print ++ rest) (hends : EndsOperation rest) :
    Yields (operation tagEnd (reader tagEnd bound) power cursor hbound)
      (fun value => value.spanless = expr.spanless) rest := by
  apply operation_of_signed power hbound _ hends
  rw [signed_of_operand hbound hkinds rfl]
  exact operand_parenthesised tagEnd hexpr hbound hkinds hends.1

theorem read_above_parenthesised (power : Nat) (hexpr : expr.ReadsBack)
    (hkinds : cursor.kinds = parenthesised expr.print ++ rest) (hends : EndsOperation rest) :
    Yields (Expr.read tagEnd (.above power) cursor)
      (fun value => value.spanless = expr.spanless) rest := by
  rw [Expr.read_above]
  exact operation_parenthesised tagEnd power hexpr _ hkinds hends

theorem read_full_parenthesised (hexpr : expr.ReadsBack)
    (hkinds : cursor.kinds = parenthesised expr.print ++ rest) (hends : EndsExpression rest) :
    Yields (Expr.read tagEnd .full cursor)
      (fun value => value.spanless = expr.spanless) rest :=
  Expr.read_full_of_operation
    (operation_parenthesised tagEnd 0 hexpr (Nat.le_refl _) hkinds hends.operation) hends.noIf

/-! ## Series -/

section Series

variable {α β γ : Type}
  {item : (cursor : Cursor) → cursor.size < bound → Reading α cursor.size}
  {piece : β → List LexemeKind} {f : α → γ} {g : β → γ} {closing : Punct}

/-- The item reader reads the piece of an element back, up to what `f` and `g`
forget, and the piece does not begin with a closing bracket. -/
structure ReadsPiece
    (item : (cursor : Cursor) → cursor.size < bound → Reading α cursor.size)
    (piece : β → List LexemeKind) (f : α → γ) (g : β → γ) (element : β) : Prop where
  yields : ∀ (cursor : Cursor) (hbound : cursor.size < bound) (rest : List LexemeKind),
    cursor.kinds = piece element ++ rest → EndsExpression rest →
      Yields (item cursor hbound) (fun value => f value = g element) rest
  head : ∀ (mark : Punct), mark ∈ [Punct.rparen, .rbracket, .rbrace] →
    ∀ rest, (piece element ++ rest).head? ≠ some (.punct mark)

theorem endsExpression_afterPiece (piece : β → List LexemeKind)
    (hclosing : closing ∈ [Punct.rparen, .rbracket, .rbrace]) (elements : List β)
    (rest : List LexemeKind) :
    EndsExpression
      ((elements.flatMap fun element => .punct .comma :: piece element) ++
        .punct closing :: rest) := by
  cases elements with
  | nil =>
      apply endsExpression_punct
      simp only [List.mem_cons, List.not_mem_nil, or_false] at hclosing ⊢
      rcases hclosing with rfl | rfl | rfl <;> simp
  | cons element elements => exact endsExpression_punct _ (by decide)

theorem seriesTail_yields (opening : Punct) (opened : Span)
    (hclosing : closing ∈ [Punct.rparen, .rbracket, .rbrace]) (elements : List β)
    (helements : ∀ element ∈ elements, ReadsPiece item piece f g element)
    (hbound : cursor.size < bound)
    (hkinds : cursor.kinds =
      (elements.flatMap fun element => .punct .comma :: piece element) ++
        .punct closing :: rest) :
    Yields (seriesTail tagEnd item opening closing opened cursor hbound)
      (fun values => values.map f = elements.map g) (.punct closing :: rest) := by
  induction elements generalizing cursor with
  | nil =>
      have hkind : cursor.kind? = some (.punct closing) := by
        rw [Cursor.kind?_eq_head?, hkinds]
        rfl
      rw [seriesTail, if_pos hkind]
      exact Yields.pure rfl hkinds
  | cons element elements ih =>
      obtain ⟨hyields, hhead⟩ := helements element List.mem_cons_self
      have hnotComma : closing ≠ .comma := by
        rintro rfl
        simp at hclosing
      rw [List.flatMap_cons, List.append_assoc, List.cons_append] at hkinds
      have hkind : cursor.kind? ≠ some (.punct closing) := by
        rw [Cursor.kind?_eq_head?, hkinds]
        simpa using hnotComma.symm
      rw [seriesTail, if_neg hkind]
      apply (Cursor.expectInside_yields tagEnd opening opened hkinds).bind
      intro _ afterComma hafterComma _ hcommaKinds
      have hcommaKind : afterComma.kind? ≠ some (.punct closing) := by
        rw [Cursor.kind?_eq_head?, hcommaKinds]
        exact hhead closing hclosing _
      have hends := endsExpression_afterPiece piece hclosing elements rest
      simp only [hcommaKind, if_false]
      apply (hyields afterComma _ _ hcommaKinds hends).bind
      intro value afterValue hafterValue hvalue hvalueKinds
      apply (ih (fun other hother => helements other (List.mem_cons_of_mem _ hother))
        _ hvalueKinds).bind
      intro values next hnext hvalues hrest
      exact Yields.pure (by rw [List.map_cons, List.map_cons, hvalue, hvalues]) hrest

theorem series_yields (opening : Punct) (opened : Span)
    (hclosing : closing ∈ [Punct.rparen, .rbracket, .rbrace]) (elements : List β)
    (helements : ∀ element ∈ elements, ReadsPiece item piece f g element)
    (hbound : cursor.size < bound)
    (hkinds : cursor.kinds = separated (elements.map piece) ++ .punct closing :: rest) :
    Yields (series tagEnd item opening closing opened cursor hbound)
      (fun values => values.map f = elements.map g) rest := by
  cases elements with
  | nil =>
      have hkind : cursor.kind? = some (.punct closing) := by
        rw [Cursor.kind?_eq_head?, hkinds]
        rfl
      rw [series, if_pos hkind]
      apply (Cursor.expectInside_yields tagEnd opening opened hkinds).bind
      intro _ next hnext _ hrest
      exact Yields.pure rfl hrest
  | cons element elements =>
      obtain ⟨hyields, hhead⟩ := helements element List.mem_cons_self
      rw [List.map_cons, separated, List.flatMap_map, List.append_assoc] at hkinds
      have hkind : cursor.kind? ≠ some (.punct closing) := by
        rw [Cursor.kind?_eq_head?, hkinds]
        exact hhead closing hclosing _
      rw [series, if_neg hkind]
      apply (hyields cursor hbound _ hkinds
        (endsExpression_afterPiece piece hclosing elements rest)).bind
      intro value afterValue hafterValue hvalue hvalueKinds
      apply (seriesTail_yields tagEnd opening opened hclosing elements
        (fun other hother => helements other (List.mem_cons_of_mem _ hother))
        _ hvalueKinds).bind
      intro values afterItems hafterItems hvalues hitemsKinds
      apply (Cursor.expectInside_yields tagEnd opening opened hitemsKinds).bind
      intro _ next hnext _ hrest
      exact Yields.pure (by rw [List.map_cons, List.map_cons, hvalue, hvalues]) hrest

end Series

theorem readsPiece_item (hexpr : expr.ReadsBack) :
    ReadsPiece (reader tagEnd bound .full) (fun item : Expr => parenthesised item.print)
      Expr.spanless Expr.spanless expr where
  yields := fun cursor _ rest hkinds hends =>
    read_full_parenthesised tagEnd hexpr hkinds hends
  head := by
    intro mark hmark rest
    rw [parenthesised_append]
    rintro ⟨⟩
    simp at hmark

theorem groupTail_yields (items : List Expr) (hitems : ∀ item ∈ items, item.ReadsBack)
    (hbound : cursor.size < bound)
    (hkinds : cursor.kinds =
      (items.flatMap fun item => .punct .comma :: parenthesised item.print) ++
        .punct .rparen :: rest) :
    Yields (groupTail (reader tagEnd bound) cursor hbound)
      (fun values => values.map Expr.spanless = items.map Expr.spanless)
      (.punct .rparen :: rest) := by
  induction items generalizing cursor with
  | nil =>
      have hcomma : cursor.take? (.punct .comma) = none := by
        apply Cursor.take?_eq_none
        rw [hkinds]
        simp
      rw [groupTail, hcomma]
      exact Yields.pure rfl hkinds
  | cons item items ih =>
      rw [List.flatMap_cons, List.append_assoc, List.cons_append] at hkinds
      obtain ⟨_, afterComma, hafterComma, hcomma, hcommaKinds⟩ := Cursor.take?_eq_some hkinds
      have hclosing : afterComma.kind? ≠ some (.punct .rparen) := by
        rw [Cursor.kind?_eq_head?, hcommaKinds, parenthesised_append]
        simp
      have hends : EndsExpression
          ((items.flatMap fun item : Expr => .punct .comma :: parenthesised item.print) ++
            .punct .rparen :: rest) :=
        endsExpression_afterPiece _ (by decide) items rest
      rw [groupTail, hcomma]
      simp only [hclosing, if_false]
      apply (read_full_parenthesised tagEnd (hitems item List.mem_cons_self)
        hcommaKinds hends).bind
      intro value afterValue hafterValue hvalue hvalueKinds
      apply (ih (fun other hother => hitems other (List.mem_cons_of_mem _ hother))
        _ hvalueKinds).bind
      intro values next hnext hvalues hrest
      exact Yields.pure (by rw [List.map_cons, List.map_cons, hvalue, hvalues]) hrest

/-- A comma after a single item makes it a tuple. -/
theorem groupTail_yields_nil (hbound : cursor.size < bound)
    (hkinds : cursor.kinds = .punct .comma :: .punct .rparen :: rest) :
    Yields (groupTail (reader tagEnd bound) cursor hbound) (· = []) (.punct .rparen :: rest) := by
  obtain ⟨_, afterComma, hafterComma, hcomma, hcommaKinds⟩ := Cursor.take?_eq_some hkinds
  have hclosing : afterComma.kind? = some (.punct .rparen) := by
    rw [Cursor.kind?_eq_head?, hcommaKinds]
    rfl
  rw [groupTail, hcomma]
  simp only [hclosing, if_true]
  exact Yields.pure rfl hcommaKinds

/-- The inside of a printed tuple after its opening bracket. -/
theorem group_yields_tuple {items : List Expr} (hitems : ∀ item ∈ items, item.ReadsBack)
    (opened span : Span) (hbound : cursor.size < bound)
    (hkinds : cursor.kinds =
      (separated (items.map fun item => parenthesised item.print) ++
        if items.length = 1 then [.punct .comma] else []) ++ .punct .rparen :: rest) :
    Yields (group tagEnd (reader tagEnd bound) opened cursor hbound)
      (fun value => value.spanless = (Expr.tuple items span).spanless) rest := by
  unfold group
  cases items with
  | nil =>
      obtain ⟨_, next, hnext, hclosing, hrest⟩ := Cursor.take?_eq_some hkinds
      simp only [hclosing]
      exact Yields.pure rfl hrest
  | cons first others =>
      rw [List.map_cons, separated, List.flatMap_map, List.append_assoc, List.append_assoc]
        at hkinds
      have hempty : cursor.take? (.punct .rparen) = none :=
        Cursor.take?_eq_none_of_parenthesised hkinds (by decide)
      -- Whether one item or more, a comma follows the first, and the tail reads the others.
      obtain ⟨commaRest, hafterFirst, htail⟩ : ∃ commaRest,
          cursor.kinds = parenthesised first.print ++ .punct .comma :: commaRest ∧
          ∀ (next : Cursor) (hnext : next.size < bound),
            next.kinds = .punct .comma :: commaRest →
              Yields (groupTail (reader tagEnd bound) next hnext)
                (fun values => values.map Expr.spanless = others.map Expr.spanless)
                (.punct .rparen :: rest) := by
        cases others with
        | nil =>
            refine ⟨.punct .rparen :: rest, hkinds, fun next hnext hnextKinds => ?_⟩
            apply (groupTail_yields_nil tagEnd hnext hnextKinds).mono
            rintro _ rfl
            rfl
        | cons second others =>
            refine ⟨_, by simpa using hkinds, fun next hnext hnextKinds => ?_⟩
            apply groupTail_yields tagEnd (second :: others)
              (fun item hitem => hitems item (List.mem_cons_of_mem _ hitem)) hnext
            simpa using hnextKinds
      simp only [hempty]
      apply (read_full_parenthesised tagEnd (hitems first List.mem_cons_self) hafterFirst
        (endsExpression_punct _ (by decide))).bind
      intro value afterValue hafterValue hvalue hvalueKinds
      have hcomma : afterValue.kind? = some (.punct .comma) := by
        rw [Cursor.kind?_eq_head?, hvalueKinds]
        rfl
      simp only [hcomma, if_true]
      apply (htail afterValue _ hvalueKinds).bind
      intro values afterItems hafterItems hvalues hitemsKinds
      apply (Cursor.expectInside_yields tagEnd .lparen opened hitemsKinds).bind
      intro _ next hnext _ hrest
      exact Yields.pure (by simp [Expr.spanless, hvalue, hvalues]) hrest

theorem take?_stars_eq_none (hstar : cursor.kinds.head? ≠ some (.punct .star))
    (hpower : cursor.kinds.head? ≠ some (.punct .power)) :
    (cursor.take? (.punct .star) <|> cursor.take? (.punct .power)) = none := by
  rw [Cursor.take?_eq_none hstar, Cursor.take?_eq_none hpower]
  rfl

theorem argument_yields {arg : Argument} (harg : arg.value.ReadsBack)
    (hbound : cursor.size < bound) (hkinds : cursor.kinds = arg.print ++ rest)
    (hends : EndsExpression rest) :
    Yields (argument (reader tagEnd bound) cursor hbound)
      (fun value => value.spanless = arg.spanless) rest := by
  obtain ⟨name, value⟩ := arg
  cases name with
  | none =>
      rw [Argument.print] at hkinds
      have hlparen := hkinds
      rw [parenthesised_append] at hlparen
      have hstars : (cursor.take? (.punct .star) <|> cursor.take? (.punct .power)) = none :=
        take?_stars_eq_none (by simp [hlparen]) (by simp [hlparen])
      have hkeyword : cursor.keyword? = none := by
        apply Cursor.keyword?_eq_none
        simp [hlparen]
      unfold argument
      simp only [hstars, hkeyword]
      apply (read_full_parenthesised tagEnd harg hkinds hends).bind
      intro result next hnext hresult hrest
      exact Yields.pure (by simpa [Argument.spanless] using hresult) hrest
  | some keyword =>
      rw [Argument.print, List.cons_append, List.cons_append] at hkinds
      have hstars : (cursor.take? (.punct .star) <|> cursor.take? (.punct .power)) = none :=
        take?_stars_eq_none (by simp [hkinds]) (by simp [hkinds])
      obtain ⟨afterWord, hafterWord, hkeyword, hwordKinds⟩ := Cursor.keyword?_eq_some hkinds
      unfold argument
      simp only [hstars, hkeyword]
      apply (read_full_parenthesised tagEnd harg hwordKinds hends).bind
      intro result next hnext hresult hrest
      exact Yields.pure (by simpa [Argument.spanless] using hresult) hrest

theorem readsPiece_argument {arg : Argument} (harg : arg.value.ReadsBack) :
    ReadsPiece (argument (reader tagEnd bound)) Argument.print
      Argument.spanless Argument.spanless arg where
  yields := fun _ hbound _ hkinds hends => argument_yields tagEnd harg hbound hkinds hends
  head := by
    intro mark hmark rest
    obtain ⟨name, value⟩ := arg
    cases name with
    | none =>
        rw [Argument.print, parenthesised_append]
        rintro ⟨⟩
        simp at hmark
    | some keyword => simp [Argument.print]

theorem arguments_yields (args : List Argument) (hargs : ∀ arg ∈ args, arg.value.ReadsBack)
    (opened : Span) (hbound : cursor.size < bound)
    (hkinds : cursor.kinds =
      separated (Argument.printEach args) ++ .punct .rparen :: rest) :
    Yields (arguments tagEnd (reader tagEnd bound) opened cursor hbound)
      (fun values => values.map Argument.spanless = args.map Argument.spanless) rest := by
  rw [Argument.printEach_eq_map] at hkinds
  exact series_yields tagEnd .lparen opened (by decide) args
    (fun arg harg => readsPiece_argument tagEnd (hargs arg harg)) hbound hkinds

theorem readsPiece_entry {key value : Expr} (hkey : key.ReadsBack) (hvalue : value.ReadsBack) :
    ReadsPiece (entry tagEnd (reader tagEnd bound)) Expr.printEntry
      Expr.spanlessEntry Expr.spanlessEntry (key, value) where
  yields := by
    intro cursor hbound rest hkinds hends
    rw [Expr.printEntry, List.append_assoc, List.cons_append] at hkinds
    apply (read_full_parenthesised tagEnd hkey hkinds
      (endsExpression_punct _ (by decide))).bind
    intro keyResult afterKey hafterKey hkeyResult hkeyKinds
    apply (Cursor.expect_yields tagEnd hkeyKinds).bind
    intro _ afterColon hafterColon _ hcolonKinds
    apply (read_full_parenthesised tagEnd hvalue hcolonKinds hends).bind
    intro valueResult next hnext hvalueResult hrest
    exact Yields.pure (by simp [Expr.spanlessEntry, hkeyResult, hvalueResult]) hrest
  head := by
    intro mark hmark rest
    rw [Expr.printEntry, List.append_assoc, parenthesised_append]
    rintro ⟨⟩
    simp at hmark

end Parser

/-! ## One construct at a time -/

section Constructs

open TemplateVariables.Parser

/-- Every printed operand is read in full: no operator stands before it, and
none follows. -/
theorem Expr.readsBack_of_operand {expr : Expr} {kind : LexemeKind}
    {others : List LexemeKind} (hprint : expr.print = kind :: others)
    (hkind : UnaryOp.ofKind? kind = none)
    (hoperand : ∀ {tagEnd : Span} {cursor : Cursor} {rest : List LexemeKind},
      cursor.kinds = expr.print ++ rest → EndsOperand rest →
        Yields (operand tagEnd (reader tagEnd cursor.size) cursor (Nat.le_refl _))
          (fun value => value.spanless = expr.spanless) rest) :
    expr.ReadsBack := by
  intro tagEnd cursor rest hkinds hends
  apply Expr.read_full_of_operation _ hends.noIf
  apply operation_of_signed 0 _ _ hends.operation
  have hcons : cursor.kinds = kind :: (others ++ rest) := by rw [hkinds, hprint, List.cons_append]
  rw [signed_of_operand _ hcons hkind]
  exact hoperand hkinds hends.operation.1

theorem Expr.readsBack_of_spells {expr : Expr} {kind : LexemeKind}
    (hprint : expr.print = [kind]) (hspells : Spells kind expr.spanless) : expr.ReadsBack := by
  apply Expr.readsBack_of_operand hprint hspells.not_unaryOp
  intro tagEnd cursor rest hkinds hends
  rw [hprint] at hkinds
  exact operand_of_primary _ (primary_of_spells hspells _ hkinds hends) hends

/-- A bracketed base followed by an access. -/
theorem Expr.readsBack_of_access {expr base : Expr} {access : List LexemeKind}
    (hprint : expr.print = parenthesised base.print ++ access) (hbase : base.ReadsBack)
    (haccess : ∀ {tagEnd : Span} {bound : Nat} {value : Expr} {cursor : Cursor}
      {rest : List LexemeKind} (hbound : cursor.size < bound),
      value.spanless = base.spanless → cursor.kinds = access ++ rest → EndsOperand rest →
        Yields (accessTail tagEnd (reader tagEnd bound) value cursor hbound)
          (fun value => value.spanless = expr.spanless) rest) :
    expr.ReadsBack := by
  apply Expr.readsBack_of_operand (hprint.trans (parenthesised_append _ _)) rfl
  intro tagEnd cursor rest hkinds hends
  rw [hprint, List.append_assoc] at hkinds
  apply (primary_parenthesised tagEnd hbase _ hkinds).bind
  intro value afterBase hafterBase hvalue hbaseKinds
  apply (haccess hafterBase hvalue hbaseKinds hends).bind
  rintro accessed afterAccess hafterAccess haccessed rfl
  apply (filterTail_stops tagEnd _ accessed _ hends).bind
  rintro _ next hnext rfl hrest
  exact Yields.pure haccessed hrest

theorem Parser.attributeName_yields (tagEnd : Span) {cursor : Cursor} {name : String}
    {rest : List LexemeKind} (hkinds : cursor.kinds = attributeKind name :: rest) :
    Yields (attributeName tagEnd cursor) (· = name) rest := by
  obtain ⟨span, next, hnext, hcursor, hrest⟩ := Cursor.next?_eq_some hkinds
  by_cases hdigits : name.toList.all Char.isDigit = true
  · rw [attributeKind, if_pos hdigits] at hcursor
    exact ⟨name, next, hnext, by simp [attributeName, hcursor], rfl, hrest⟩
  · rw [attributeKind, if_neg hdigits] at hcursor
    exact ⟨name, next, hnext, by simp [attributeName, hcursor], rfl, hrest⟩

theorem Expr.readsBack_attribute {base : Expr} (hbase : base.ReadsBack) (name : String)
    (span : Span) : (Expr.attribute base name span).ReadsBack := by
  apply Expr.readsBack_of_access (by rw [Expr.print]) hbase
  intro tagEnd bound value cursor rest hbound hvalue hkinds hends
  obtain ⟨_, afterDot, hafterDot, hdot, hdotKinds⟩ := Cursor.take?_eq_some hkinds
  rw [accessTail, hdot]
  apply (attributeName_yields tagEnd hdotKinds).bind
  rintro _ afterName hafterName rfl rfl
  apply (accessTail_stops tagEnd _ _ _ hends.noAccess).bind
  rintro _ next hnext rfl hrest
  exact Yields.pure (by rw [Expr.spanless, hvalue, Expr.spanless]) hrest

theorem Expr.readsBack_call {callee : Expr} {args : List Argument}
    (hcallee : callee.ReadsBack) (hargs : ∀ arg ∈ args, arg.value.ReadsBack) (span : Span) :
    (Expr.call callee args span).ReadsBack := by
  apply Expr.readsBack_of_access (by rw [Expr.print]) hcallee
  intro tagEnd bound value cursor rest hbound hvalue hkinds hends
  rw [parenthesised_append] at hkinds
  obtain ⟨opened, inside, hinside, hlparen, hinsideKinds⟩ := Cursor.take?_eq_some hkinds
  have hdot : cursor.take? (.punct .dot) = none := by
    apply Cursor.take?_eq_none
    simp [hkinds]
  have hlbracket : cursor.take? (.punct .lbracket) = none := by
    apply Cursor.take?_eq_none
    simp [hkinds]
  rw [accessTail, hdot, hlbracket, hlparen]
  apply (arguments_yields tagEnd args hargs opened _ hinsideKinds).bind
  rintro values closed hclosed hvalues rfl
  apply (accessTail_stops tagEnd _ _ _ hends.noAccess).bind
  rintro _ next hnext rfl hrest
  exact Yields.pure (by simp [Expr.spanless, hvalue, hvalues]) hrest

theorem Parser.slicePart_yields (tagEnd : Span) {bound : Nat} {part : Option Expr}
    (hpart : ∀ expr ∈ part, expr.ReadsBack) {cursor : Cursor} (hbound : cursor.size < bound)
    {mark : Punct} (hmark : mark ∈ [Punct.colon, .rbracket]) {rest : List LexemeKind}
    (hkinds : cursor.kinds = Expr.printPart part ++ .punct mark :: rest) :
    Yields (slicePart (reader tagEnd bound) cursor hbound)
      (fun value => value.map Expr.spanless = part.map Expr.spanless)
      (.punct mark :: rest) := by
  cases part with
  | none =>
      rw [Expr.printPart, List.nil_append] at hkinds
      have hends : cursor.kind? = none ∨ cursor.kind? = some (.punct .colon) ∨
          cursor.kind? = some (.punct .rbracket) := by
        rw [Cursor.kind?_eq_head?, hkinds]
        simpa using hmark
      rw [slicePart, if_pos hends]
      exact Yields.pure rfl hkinds
  | some expr =>
      rw [Expr.printPart] at hkinds
      have hlparen := hkinds
      rw [parenthesised_append] at hlparen
      have hpresent : ¬ (cursor.kind? = none ∨ cursor.kind? = some (.punct .colon) ∨
          cursor.kind? = some (.punct .rbracket)) := by
        rw [Cursor.kind?_eq_head?, hlparen]
        simp
      have hends : EndsExpression (.punct mark :: rest) := by
        apply endsExpression_punct
        simp only [List.mem_cons, List.not_mem_nil, or_false] at hmark ⊢
        rcases hmark with rfl | rfl <;> simp
      rw [slicePart, if_neg hpresent]
      apply (read_full_parenthesised tagEnd (hpart expr rfl) hkinds hends).bind
      intro value next hnext hvalue hrest
      exact Yields.pure (by simp [hvalue]) hrest

theorem Parser.sliceTail_yields (tagEnd : Span) {bound : Nat} {start stop step : Option Expr}
    (hstop : ∀ expr ∈ stop, expr.ReadsBack) (hstep : ∀ expr ∈ step, expr.ReadsBack)
    {first : Option Expr} (hfirst : first.map Expr.spanless = start.map Expr.spanless)
    (opened sliceSpan : Span) {cursor : Cursor} (hbound : cursor.size < bound)
    {rest : List LexemeKind}
    (hkinds : cursor.kinds =
      Expr.printPart stop ++ (Expr.printStep step ++ .punct .rbracket :: rest)) :
    Yields (sliceTail (reader tagEnd bound) first opened cursor hbound)
      (fun value => value.spanless = (Expr.slice start stop step sliceSpan).spanless)
      (.punct .rbracket :: rest) := by
  unfold sliceTail
  cases step with
  | none =>
      rw [Expr.printStep, List.nil_append] at hkinds
      apply (slicePart_yields tagEnd hstop hbound (by decide) hkinds).bind
      intro stopResult afterStop hafterStop hstopResult hstopKinds
      have hcolon : afterStop.take? (.punct .colon) = none := by
        apply Cursor.take?_eq_none
        simp [hstopKinds]
      simp only [hcolon]
      exact Yields.pure (by simp [Expr.spanless, hfirst, hstopResult]) hstopKinds
  | some step =>
      rw [Expr.printStep, List.cons_append] at hkinds
      apply (slicePart_yields tagEnd hstop hbound (by decide) hkinds).bind
      intro stopResult afterStop hafterStop hstopResult hstopKinds
      obtain ⟨_, afterColon, hafterColon, hcolon, hcolonKinds⟩ := Cursor.take?_eq_some hstopKinds
      simp only [hcolon]
      apply (slicePart_yields tagEnd hstep _ (by decide) hcolonKinds).bind
      intro stepResult next hnext hstepResult hrest
      exact Yields.pure (by simp [Expr.spanless, hfirst, hstopResult, hstepResult]) hrest

theorem Parser.subscriptIndex_yields (tagEnd : Span) {bound : Nat} {index : Expr}
    (hindex : index.ReadsBack) {cursor : Cursor} (hbound : cursor.size < bound)
    {rest : List LexemeKind}
    (hkinds : cursor.kinds = parenthesised index.print ++ .punct .rbracket :: rest) :
    Yields (subscriptIndex tagEnd (reader tagEnd bound) cursor hbound)
      (fun value => value.spanless = index.spanless) (.punct .rbracket :: rest) := by
  have hcolon : cursor.take? (.punct .colon) = none :=
    Cursor.take?_eq_none_of_parenthesised hkinds (by decide)
  unfold subscriptIndex
  simp only [hcolon]
  apply (read_full_parenthesised tagEnd hindex hkinds (endsExpression_punct _ (by decide))).bind
  intro value afterIndex hafterIndex hvalue hindexKinds
  have hafterColon : afterIndex.take? (.punct .colon) = none := by
    apply Cursor.take?_eq_none
    simp [hindexKinds]
  simp only [hafterColon]
  exact Yields.pure hvalue hindexKinds

theorem Parser.subscriptIndex_yields_slice (tagEnd : Span) {bound : Nat}
    {start stop step : Option Expr} (hstart : ∀ expr ∈ start, expr.ReadsBack)
    (hstop : ∀ expr ∈ stop, expr.ReadsBack) (hstep : ∀ expr ∈ step, expr.ReadsBack)
    (sliceSpan : Span) {cursor : Cursor} (hbound : cursor.size < bound)
    {rest : List LexemeKind}
    (hkinds : cursor.kinds =
      Expr.printPart start ++ .punct .colon ::
        (Expr.printPart stop ++ (Expr.printStep step ++ .punct .rbracket :: rest))) :
    Yields (subscriptIndex tagEnd (reader tagEnd bound) cursor hbound)
      (fun value => value.spanless = (Expr.slice start stop step sliceSpan).spanless)
      (.punct .rbracket :: rest) := by
  unfold subscriptIndex
  cases start with
  | none =>
      obtain ⟨_, afterColon, hafterColon, hcolon, hcolonKinds⟩ := Cursor.take?_eq_some hkinds
      simp only [hcolon]
      apply (sliceTail_yields tagEnd hstop hstep rfl _ sliceSpan _ hcolonKinds).bind
      intro value next hnext hvalue hrest
      exact Yields.pure hvalue hrest
  | some start =>
      rw [Expr.printPart] at hkinds
      have hnoColon : cursor.take? (.punct .colon) = none :=
        Cursor.take?_eq_none_of_parenthesised hkinds (by decide)
      simp only [hnoColon]
      apply (read_full_parenthesised tagEnd (hstart start rfl) hkinds
        (endsExpression_punct _ (by decide))).bind
      intro index afterIndex hafterIndex hindex hindexKinds
      obtain ⟨_, afterColon, hafterColon, hcolon, hcolonKinds⟩ :=
        Cursor.take?_eq_some hindexKinds
      simp only [hcolon]
      have hfirst : (some index).map Expr.spanless = (some start).map Expr.spanless := by
        rw [Option.map_some, Option.map_some, hindex]
      apply (sliceTail_yields tagEnd hstop hstep hfirst _ sliceSpan _ hcolonKinds).bind
      intro value next hnext hvalue hrest
      exact Yields.pure hvalue hrest

/-- Reading a subscript comes down to reading its index. -/
theorem Expr.readsBack_of_index {base index : Expr} {kinds : List LexemeKind} {span : Span}
    (hprint : (Expr.subscript base index span).print =
      parenthesised base.print ++ .punct .lbracket :: (kinds ++ [.punct .rbracket]))
    (hbase : base.ReadsBack)
    (hindex : ∀ {tagEnd : Span} {bound : Nat} {cursor : Cursor} {rest : List LexemeKind}
      (hbound : cursor.size < bound), cursor.kinds = kinds ++ .punct .rbracket :: rest →
        Yields (subscriptIndex tagEnd (reader tagEnd bound) cursor hbound)
          (fun value => value.spanless = index.spanless) (.punct .rbracket :: rest)) :
    (Expr.subscript base index span).ReadsBack := by
  apply Expr.readsBack_of_access hprint hbase
  intro tagEnd bound value cursor rest hbound hvalue hkinds hends
  rw [List.cons_append, List.append_assoc, List.singleton_append] at hkinds
  obtain ⟨opened, inside, hinside, hlbracket, hinsideKinds⟩ := Cursor.take?_eq_some hkinds
  have hdot : cursor.take? (.punct .dot) = none := by
    apply Cursor.take?_eq_none
    simp [hkinds]
  rw [accessTail, hdot, hlbracket]
  apply (hindex _ hinsideKinds).bind
  intro indexResult afterIndex hafterIndex hindexResult hindexKinds
  apply (Cursor.expectInside_yields tagEnd .lbracket opened hindexKinds).bind
  rintro _ closed hclosed _ rfl
  apply (accessTail_stops tagEnd _ _ _ hends.noAccess).bind
  rintro _ next hnext rfl hrest
  exact Yields.pure (by rw [Expr.spanless, hvalue, hindexResult, Expr.spanless]) hrest

theorem Expr.readsBack_subscript {base index : Expr} (hslice : index.isSlice = false)
    (hbase : base.ReadsBack) (hindex : index.ReadsBack) (span : Span) :
    (Expr.subscript base index span).ReadsBack := by
  apply Expr.readsBack_of_index _ hbase
  · intro tagEnd bound cursor rest hbound hkinds
    exact subscriptIndex_yields tagEnd hindex hbound hkinds
  · simp [Expr.print, hslice]

theorem Expr.readsBack_subscriptSlice {base : Expr} {start stop step : Option Expr}
    (hbase : base.ReadsBack) (hstart : ∀ expr ∈ start, expr.ReadsBack)
    (hstop : ∀ expr ∈ stop, expr.ReadsBack) (hstep : ∀ expr ∈ step, expr.ReadsBack)
    (sliceSpan span : Span) :
    (Expr.subscript base (.slice start stop step sliceSpan) span).ReadsBack := by
  have hprint : (Expr.subscript base (.slice start stop step sliceSpan) span).print =
      parenthesised base.print ++ .punct .lbracket ::
        ((Expr.printPart start ++ .punct .colon ::
          (Expr.printPart stop ++ Expr.printStep step)) ++ [.punct .rbracket]) := by
    simp [Expr.print, Expr.isSlice]
  apply Expr.readsBack_of_index hprint hbase
  intro tagEnd bound cursor rest hbound hkinds
  apply subscriptIndex_yields_slice tagEnd hstart hstop hstep sliceSpan hbound
  simpa using hkinds

theorem Expr.readsBack_list {items : List Expr} (hitems : ∀ item ∈ items, item.ReadsBack)
    (span : Span) : (Expr.list items span).ReadsBack := by
  apply Expr.readsBack_of_operand (by rw [Expr.print]) rfl
  intro tagEnd cursor rest hkinds hends
  apply operand_of_primary _ _ hends
  rw [Expr.print, Expr.printEach_eq_map, List.cons_append, List.append_assoc,
    List.singleton_append] at hkinds
  obtain ⟨opened, inside, hinside, hcursor, hinsideKinds⟩ := Cursor.next?_eq_some hkinds
  unfold primary
  simp only [hcursor]
  apply (series_yields tagEnd .lbracket opened (by decide) items
    (fun item hitem => readsPiece_item tagEnd (hitems item hitem)) _ hinsideKinds).bind
  intro values next hnext hvalues hrest
  exact Yields.pure (by simp [Expr.spanless, hvalues]) hrest

theorem Expr.readsBack_dict {entries : List (Expr × Expr)}
    (hkeys : ∀ entry ∈ entries, entry.1.ReadsBack)
    (hvalues : ∀ entry ∈ entries, entry.2.ReadsBack) (span : Span) :
    (Expr.dict entries span).ReadsBack := by
  apply Expr.readsBack_of_operand (by rw [Expr.print]) rfl
  intro tagEnd cursor rest hkinds hends
  apply operand_of_primary _ _ hends
  rw [Expr.print, Expr.printEntries_eq_map, List.cons_append, List.append_assoc,
    List.singleton_append] at hkinds
  obtain ⟨opened, inside, hinside, hcursor, hinsideKinds⟩ := Cursor.next?_eq_some hkinds
  unfold primary
  simp only [hcursor]
  apply (series_yields tagEnd .lbrace opened (by decide) entries
    (fun entry hentry => readsPiece_entry tagEnd (hkeys entry hentry) (hvalues entry hentry))
    _ hinsideKinds).bind
  intro values next hnext hentries hrest
  exact Yields.pure (by simp [Expr.spanless, hentries]) hrest

theorem Expr.readsBack_tuple {items : List Expr} (hitems : ∀ item ∈ items, item.ReadsBack)
    (span : Span) : (Expr.tuple items span).ReadsBack := by
  apply Expr.readsBack_of_operand (by rw [Expr.print, parenthesised]) rfl
  intro tagEnd cursor rest hkinds hends
  apply operand_of_primary _ _ hends
  rw [Expr.print, Expr.printEach_eq_map, parenthesised_append] at hkinds
  obtain ⟨opened, inside, hinside, hcursor, hinsideKinds⟩ := Cursor.next?_eq_some hkinds
  have hgroup : Yields (group tagEnd (reader tagEnd cursor.size) opened inside (by omega))
      (fun value => value.spanless = (Expr.tuple items span).spanless) rest :=
    group_yields_tuple tagEnd hitems opened span _ hinsideKinds
  unfold primary
  simp only [hcursor]
  apply hgroup.bind
  intro value next hnext hvalue hrest
  exact Yields.pure hvalue hrest

/-! ## Filters, tests and operators -/

theorem Parser.arguments?_yields (tagEnd : Span) {bound : Nat} (args : List Argument)
    (hargs : ∀ arg ∈ args, arg.value.ReadsBack) {cursor : Cursor} (hbound : cursor.size < bound)
    {rest : List LexemeKind}
    (hkinds : cursor.kinds = parenthesised (separated (Argument.printEach args)) ++ rest) :
    Yields (arguments? tagEnd (reader tagEnd bound) cursor hbound)
      (fun value => ∃ values, value = some values ∧
        values.map Argument.spanless = args.map Argument.spanless) rest := by
  rw [parenthesised_append] at hkinds
  obtain ⟨opened, inside, hinside, hlparen, hinsideKinds⟩ := Cursor.take?_eq_some hkinds
  unfold arguments?
  simp only [hlparen]
  apply (arguments_yields tagEnd args hargs opened _ hinsideKinds).bind
  intro values next hnext hvalues hrest
  exact Yields.pure ⟨values, rfl, hvalues⟩ hrest

theorem Parser.filterCall_yields (tagEnd : Span) {bound : Nat} {name : DottedName}
    (hname : name ≠ []) {args : List Argument}
    (hargs : ∀ arg ∈ args, arg.value.ReadsBack) (span : Span) {cursor : Cursor}
    (hbound : cursor.size < bound) {rest : List LexemeKind}
    (hkinds : cursor.kinds = DottedName.kinds name ++
      (parenthesised (separated (Argument.printEach args)) ++ rest)) :
    Yields (filterCall tagEnd (reader tagEnd bound) cursor hbound)
      (fun value => value.spanless = (FilterCall.mk name args span).spanless) rest := by
  obtain ⟨word, words, rfl⟩ := List.exists_cons_of_ne_nil hname
  apply (Cursor.expectDotted_yields tagEnd .filter hkinds (by simp [parenthesised_append])).bind
  rintro ⟨nameRead, start⟩ afterName hafterName rfl hnameKinds
  apply (arguments?_yields tagEnd args hargs _ hnameKinds).bind
  rintro _ next hnext ⟨values, rfl, hvalues⟩ hrest
  exact Yields.pure (by simp [FilterCall.spanless, hvalues]) hrest

theorem Expr.readsBack_filter {value : Expr} {name : DottedName} {args : List Argument}
    (hvalue : value.ReadsBack) (hname : name ≠ [])
    (hargs : ∀ arg ∈ args, arg.value.ReadsBack) (filterSpan span : Span) :
    (Expr.filter value ⟨name, args, filterSpan⟩ span).ReadsBack := by
  have hprint : (Expr.filter value ⟨name, args, filterSpan⟩ span).print =
      parenthesised value.print ++ (.punct .pipe ::
        (DottedName.kinds name ++ parenthesised (separated (Argument.printEach args)))) := by
    rw [Expr.print]
  apply Expr.readsBack_of_operand (hprint.trans (parenthesised_append _ _)) rfl
  intro tagEnd cursor rest hkinds hends
  rw [hprint, List.append_assoc, List.cons_append, List.append_assoc] at hkinds
  apply (primary_parenthesised tagEnd hvalue _ hkinds).bind
  intro base afterBase hafterBase hbase hbaseKinds
  apply (accessTail_stops tagEnd _ base _ (by simp [hbaseKinds])).bind
  rintro base afterAccess hafterAccess rfl haccessKinds
  rw [hbaseKinds] at haccessKinds
  obtain ⟨_, afterBar, hafterBar, hbar, hbarKinds⟩ := Cursor.take?_eq_some haccessKinds
  have htail : Yields (filterTail tagEnd (reader tagEnd cursor.size) base afterAccess (by omega))
      (fun filtered => filtered.spanless =
        (Expr.filter value ⟨name, args, filterSpan⟩ span).spanless) rest := by
    rw [filterTail, hbar]
    apply (filterCall_yields tagEnd hname hargs filterSpan _ hbarKinds).bind
    rintro filter afterFilter hafterFilter hfilter rfl
    apply (filterTail_stops tagEnd _ _ _ hends).bind
    rintro _ next hnext rfl hrest
    exact Yields.pure (by rw [Expr.spanless, hbase, hfilter, Expr.spanless]) hrest
  apply htail.bind
  intro filtered next hnext hfiltered hrest
  exact Yields.pure hfiltered hrest

/-- A bracketed base followed by an operator or a test. -/
theorem Expr.readsBack_of_operator {expr base : Expr} {suffix : List LexemeKind}
    (hprint : expr.print = parenthesised base.print ++ suffix) (hbase : base.ReadsBack)
    (hsuffix : ∀ rest, EndsOperand (suffix ++ rest))
    (htail : ∀ {tagEnd : Span} {bound : Nat} {value : Expr} {cursor : Cursor}
      {rest : List LexemeKind} (hbound : cursor.size < bound),
      value.spanless = base.spanless → cursor.kinds = suffix ++ rest → EndsOperation rest →
        Yields (operatorTail tagEnd (reader tagEnd bound) 0 value cursor hbound)
          (fun value => value.spanless = expr.spanless) rest) :
    expr.ReadsBack := by
  intro tagEnd cursor rest hkinds hends
  rw [hprint, List.append_assoc] at hkinds
  have hoperand := operand_parenthesised tagEnd hbase (Nat.le_refl _) hkinds (hsuffix rest)
  rw [parenthesised_append] at hkinds
  apply Expr.read_full_of_operation _ hends.noIf
  rw [← signed_of_operand _ hkinds rfl] at hoperand
  apply hoperand.bind
  intro value afterBase hafterBase hvalue hbaseKinds
  apply (htail hafterBase hvalue hbaseKinds hends.operation).bind
  intro result next hnext hresult hrest
  exact Yields.pure hresult hrest

theorem Expr.readsBack_binary (op : BinaryOp) {left right : Expr} (hleft : left.ReadsBack)
    (hright : right.ReadsBack) (span : Span) : (Expr.binary op left right span).ReadsBack := by
  apply Expr.readsBack_of_operator (by rw [Expr.print]) hleft
  · intro rest
    rw [List.append_assoc]
    exact endsOperand_operator op _
  · intro tagEnd bound value cursor rest hbound hvalue hkinds hends
    rw [List.append_assoc] at hkinds
    obtain ⟨afterOp, hafterOp, hconnective, hopKinds⟩ :=
      Cursor.connective_of_operator op hkinds
    rw [operatorTail, hconnective]
    apply (read_above_parenthesised tagEnd op.powers.2 hright hopKinds hends).bind
    rintro rightValue afterRight hafterRight hrightValue rfl
    apply (operatorTail_stops tagEnd _ 0 _ _ hends).bind
    rintro _ next hnext rfl hrest
    exact Yields.pure (by rw [Expr.spanless, hvalue, hrightValue, Expr.spanless]) hrest

theorem Parser.test_yields (tagEnd : Span) {bound : Nat} {name : DottedName}
    (hname : name ≠ []) {negated : Bool} (hnot : negated = false → name.head? ≠ some "not")
    {args : List Argument} (hargs : ∀ arg ∈ args, arg.value.ReadsBack) {value expr : Expr}
    (hvalue : value.spanless = expr.spanless) (span : Span) {cursor : Cursor}
    (hbound : cursor.size < bound) {rest : List LexemeKind}
    (hkinds : cursor.kinds = (if negated then [.name "not"] else []) ++
      (DottedName.kinds name ++ (parenthesised (separated (Argument.printEach args)) ++ rest))) :
    Yields (test tagEnd (reader tagEnd bound) value cursor hbound)
      (fun result => result.spanless = (Expr.test expr name args negated span).spanless)
      rest := by
  obtain ⟨word, words, rfl⟩ := List.exists_cons_of_ne_nil hname
  unfold test
  -- Without a negation the first word of the name must not be taken for one.
  cases negated
  case' true =>
    obtain ⟨_, start, hstart, hnegation, hstartKinds⟩ := Cursor.take?_eq_some hkinds
  case' false =>
    have hstartKinds : cursor.kinds = DottedName.kinds (word :: words) ++
        (parenthesised (separated (Argument.printEach args)) ++ rest) := by
      simpa using hkinds
    have hnegation : cursor.take? (.name "not") = none := by
      apply Cursor.take?_eq_none
      simpa [hstartKinds, DottedName.kinds] using hnot rfl
  all_goals
    rw [hnegation]
    apply (Cursor.expectDotted_yields tagEnd .test hstartKinds
      (by simp [parenthesised_append])).bind
    rintro ⟨nameRead, nameSpan⟩ afterName hafterName rfl hnameKinds
    apply (arguments?_yields tagEnd args hargs _ hnameKinds).bind
    rintro _ next hnext ⟨values, rfl, hvalues⟩ hrest
    exact Yields.pure (by simp [Expr.spanless, hvalue, hvalues]) hrest

theorem Expr.readsBack_test {value : Expr} {name : DottedName} {args : List Argument}
    {negated : Bool} (hvalue : value.ReadsBack) (hname : name ≠ [])
    (hnot : negated = false → name.head? ≠ some "not")
    (hargs : ∀ arg ∈ args, arg.value.ReadsBack) (span : Span) :
    (Expr.test value name args negated span).ReadsBack := by
  apply Expr.readsBack_of_operator (by rw [Expr.print]) hvalue
  · intro rest
    exact endsOperand_cons rfl _
  · intro tagEnd bound base cursor rest hbound hbase hkinds hends
    rw [List.cons_append, List.append_assoc, List.append_assoc] at hkinds
    obtain ⟨afterIs, hafterIs, hconnective, hisKinds⟩ :=
      Cursor.connective_of_kind hkinds (by decide) rfl
    rw [operatorTail, hconnective]
    apply (test_yields tagEnd hname hnot hargs hbase span _ hisKinds).bind
    rintro tested afterTest hafterTest htested rfl
    apply (operatorTail_stops tagEnd _ 0 _ _ hends).bind
    rintro tested next hnext rfl hrest
    exact Yields.pure htested hrest

theorem Expr.readsBack_unary (op : UnaryOp) {operand : Expr} (hoperand : operand.ReadsBack)
    (span : Span) : (Expr.unary op operand span).ReadsBack := by
  intro tagEnd cursor rest hkinds hends
  rw [Expr.print, List.cons_append] at hkinds
  obtain ⟨start, afterOp, hafterOp, hop, hopKinds⟩ := Cursor.unaryOp?_eq_some hkinds
  apply Expr.read_full_of_operation _ hends.noIf
  apply operation_of_signed 0 _ _ hends.operation
  rw [signed, hop]
  apply (read_above_parenthesised tagEnd op.power hoperand hopKinds hends.operation).bind
  intro value next hnext hvalue hrest
  exact Yields.pure (by rw [Expr.spanless, hvalue, Expr.spanless]) hrest

theorem Expr.readsBack_conditional {value condition : Expr} {otherwise : Option Expr}
    (hvalue : value.ReadsBack) (hcondition : condition.ReadsBack)
    (hotherwise : ∀ expr ∈ otherwise, expr.ReadsBack) (span : Span) :
    (Expr.conditional value condition otherwise span).ReadsBack := by
  intro tagEnd cursor rest hkinds hends
  rw [Expr.print, List.append_assoc, List.cons_append, List.append_assoc] at hkinds
  rw [Expr.read]
  apply (operation_parenthesised tagEnd 0 hvalue (Nat.le_refl _) hkinds
    (endsOperation_word _ (by decide))).bind
  intro valueRead afterValue hafterValue hvalueRead hvalueKinds
  obtain ⟨_, afterIf, hafterIf, hif, hifKinds⟩ := Cursor.take?_eq_some hvalueKinds
  have htail : Yields (conditionalTail (reader tagEnd cursor.size) valueRead afterValue hafterValue)
      (fun result => result.spanless = (Expr.conditional value condition otherwise span).spanless)
      rest := by
    rw [conditionalTail, hif]
    cases otherwise with
    | none =>
        rw [Expr.printElse, List.nil_append] at hifKinds
        apply (read_above_parenthesised tagEnd 0 hcondition hifKinds hends.operation).bind
        rintro conditionRead afterCondition hafterCondition hconditionRead rfl
        have helse : afterCondition.take? (.name "else") = none :=
          Cursor.take?_eq_none hends.noElse
        simp only [helse]
        apply (conditionalTail_stops _ _ _ hends.noIf).bind
        rintro _ next hnext rfl hrest
        exact Yields.pure (by simp [Expr.spanless, hvalueRead, hconditionRead]) hrest
    | some otherwise =>
        rw [Expr.printElse, List.cons_append] at hifKinds
        apply (read_above_parenthesised tagEnd 0 hcondition hifKinds
          (endsOperation_word _ (by decide))).bind
        intro conditionRead afterCondition hafterCondition hconditionRead hconditionKinds
        obtain ⟨_, afterElse, hafterElse, helse, helseKinds⟩ :=
          Cursor.take?_eq_some hconditionKinds
        simp only [helse]
        apply (read_full_parenthesised tagEnd (hotherwise otherwise rfl) helseKinds hends).bind
        rintro otherwiseRead afterOther hafterOther hotherwiseRead rfl
        apply (conditionalTail_stops _ _ _ hends.noIf).bind
        rintro _ next hnext rfl hrest
        exact Yields.pure
          (by simp [Expr.spanless, hvalueRead, hconditionRead, hotherwiseRead]) hrest
  apply htail.bind
  intro result next hnext hresult hrest
  exact Yields.pure hresult hrest

end Constructs

/-! ## The whole language -/

theorem Expr.WellFormed.readsBack {expr : Expr} (hexpr : expr.WellFormed) : expr.ReadsBack := by
  induction hexpr with
  | literal value span =>
      exact Expr.readsBack_of_spells (by rw [Expr.print]) value.spells_kind
  | identifier hreserved hliteral span =>
      exact Expr.readsBack_of_spells (by rw [Expr.print]) (.identifier hreserved hliteral)
  | member _ name span hbase => exact Expr.readsBack_attribute hbase name span
  | subscript _ hindexForm span hbase hindex =>
      exact Expr.readsBack_subscript hindexForm.isSlice_eq_false hbase hindex span
  | subscriptSlice _ _ _ _ sliceSpan span hbase hstart hstop hstep =>
      exact Expr.readsBack_subscriptSlice hbase hstart hstop hstep sliceSpan span
  | call _ _ span hcallee hargs => exact Expr.readsBack_call hcallee hargs span
  | filter _ hname _ filterSpan span hvalue hargs =>
      exact Expr.readsBack_filter hvalue hname hargs filterSpan span
  | test _ hname hnot _ span hvalue hargs =>
      exact Expr.readsBack_test hvalue hname hnot hargs span
  | unary op _ span hoperand => exact Expr.readsBack_unary op hoperand span
  | binary op _ _ span hleft hright => exact Expr.readsBack_binary op hleft hright span
  | conditional _ _ _ span hvalue hcondition hotherwise =>
      exact Expr.readsBack_conditional hvalue hcondition hotherwise span
  | list _ span hitems => exact Expr.readsBack_list hitems span
  | tuple _ span hitems => exact Expr.readsBack_tuple hitems span
  | dict _ _ span hkeys hvalues => exact Expr.readsBack_dict hkeys hvalues span

/-- Reading undoes printing, whatever spans the lexemes carry. -/
theorem Expr.ofLexemes_print {expr : Expr} (hexpr : expr.WellFormed) {lexemes : List Lexeme}
    (hlexemes : lexemes.map (·.kind) = expr.print) (tagEnd : Span) :
    ∃ value, Expr.ofLexemes lexemes tagEnd = .ok value ∧ value.spanless = expr.spanless := by
  apply Expr.ofLexemes_of_read
  apply hexpr.readsBack
  · rw [Cursor.kinds_ofLexemes, hlexemes, List.append_nil]
  · exact endsExpression_nil

/-- The text `((x) is not divisible.by((3), k=(()))) if ((rows)[(-(1)):])`. -/
theorem Expr.ofLexemes_print_conditional :
    ∃ value,
      Expr.ofLexemes
        (([.punct .lparen, .punct .lparen, .name "x", .punct .rparen, .name "is", .name "not",
          .name "divisible", .punct .dot, .name "by", .punct .lparen, .punct .lparen,
          .number "3", .punct .rparen, .punct .comma, .name "k", .punct .assign,
          .punct .lparen, .punct .lparen, .punct .rparen, .punct .rparen, .punct .rparen,
          .punct .rparen, .name "if", .punct .lparen, .punct .lparen, .name "rows",
          .punct .rparen, .punct .lbracket, .punct .lparen, .punct .minus, .punct .lparen,
          .number "1", .punct .rparen, .punct .rparen, .punct .colon, .punct .rbracket,
          .punct .rparen] : List LexemeKind).map fun kind => ⟨kind, default⟩)
        default = .ok value ∧
      value.spanless =
        .conditional
          (.test (.identifier "x" default) ["divisible", "by"]
            [⟨none, .literal (.number "3") default⟩, ⟨some "k", .tuple [] default⟩] true default)
          (.subscript (.identifier "rows" default)
            (.slice (some (.unary .neg (.literal (.number "1") default) default)) none none
              default) default)
          none default := by
  have hargs : ∀ arg ∈ ([⟨none, .literal (.number "3") default⟩,
      ⟨some "k", .tuple [] default⟩] : List Argument), arg.value.WellFormed := by
    intro arg harg
    simp only [List.mem_cons, List.not_mem_nil, or_false] at harg
    rcases harg with rfl | rfl
    · exact .literal _ _
    · exact .tuple (by simp) _
  have htest : (Expr.test (.identifier "x" default) ["divisible", "by"] _ true
      default).WellFormed :=
    .test (.identifier (by decide) (by decide) default) (by simp) (by simp) hargs default
  have hstart : ∀ part ∈ some (Expr.unary .neg (.literal (.number "1") default) default),
      part.WellFormed := by
    rintro _ ⟨⟩
    exact .unary .neg (.literal _ _) _
  have hrows : (Expr.subscript (.identifier "rows" default)
      (.slice (some _) none none default) default).WellFormed :=
    .subscriptSlice (.identifier (by decide) (by decide) default) hstart (by simp) (by simp)
      default default
  have hnoElse : ∀ part ∈ (none : Option Expr), part.WellFormed := by simp
  exact Expr.ofLexemes_print (.conditional htest hrows hnoElse default) rfl default

end TemplateVariables
