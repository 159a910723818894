import TemplateVariables.Proofs.Expr.Reading
import TemplateVariables.Proofs.Expr.Spanless

/-!
# Spelling of operands and operators

An operand is followed by accesses, filters, operators and conditionals, each
read by a tail function of its own.  This file says how atoms and operators are
spelled, what the readers make of the spelling, and before which lexemes each
tail stops.
-/

namespace TemplateVariables

/-! ## Atoms -/

/-- The words that are literals and never names of variables. -/
def literalWords : List String :=
  ["true", "True", "false", "False", "none", "None"]

/-- A single lexeme of the kind spells the expression, which is a variable or a
literal. -/
inductive Spells : LexemeKind → Expr → Prop where
  | identifier {name : String} (hreserved : name ∉ reservedWords)
      (hliteral : name ∉ literalWords) : Spells (.name name) (.identifier name default)
  | number (text : String) : Spells (.number text) (.literal (.number text) default)
  | str (value : String) : Spells (.str value) (.literal (.str value) default)
  | lowerTrue : Spells (.name "true") (.literal (.bool true) default)
  | upperTrue : Spells (.name "True") (.literal (.bool true) default)
  | lowerFalse : Spells (.name "false") (.literal (.bool false) default)
  | upperFalse : Spells (.name "False") (.literal (.bool false) default)
  | lowerNone : Spells (.name "none") (.literal .none default)
  | upperNone : Spells (.name "None") (.literal .none default)

theorem Spells.not_unary {kind : LexemeKind} {op : UnaryOp} {operand : Expr} {span : Span} :
    ¬Spells kind (.unary op operand span) := by
  rintro ⟨⟩

theorem Spells.not_binary {kind : LexemeKind} {op : BinaryOp} {left right : Expr}
    {span : Span} : ¬Spells kind (.binary op left right span) := by
  rintro ⟨⟩

/-- How a literal is written. -/
def Literal.kind : Literal → LexemeKind
  | .str value => .str value
  | .number text => .number text
  | .bool true => .name "true"
  | .bool false => .name "false"
  | .none => .name "none"

theorem Literal.spells_kind (value : Literal) : Spells value.kind (.literal value default) := by
  cases value with
  | str value => exact .str value
  | number text => exact .number text
  | bool value =>
      cases value with
      | true => exact .lowerTrue
      | false => exact .lowerFalse
  | none => exact .lowerNone

theorem Expr.ofWord?_of_spells {word : String} {expr : Expr} (hspells : Spells (.name word) expr)
    (span : Span) : ∃ value, Expr.ofWord? word span = some value ∧ value.spanless = expr := by
  cases hspells with
  | identifier hreserved hliteral =>
      simp only [literalWords, List.mem_cons, List.not_mem_nil, or_false, not_or] at hliteral
      obtain ⟨htrue, hTrue, hfalse, hFalse, hnone, hNone⟩ := hliteral
      refine ⟨.identifier word span, ?_, rfl⟩
      simp [Expr.ofWord?, htrue, hTrue, hfalse, hFalse, hnone, hNone, hreserved]
  | lowerTrue => exact ⟨_, rfl, rfl⟩
  | upperTrue => exact ⟨_, rfl, rfl⟩
  | lowerFalse => exact ⟨_, rfl, rfl⟩
  | upperFalse => exact ⟨_, rfl, rfl⟩
  | lowerNone => exact ⟨_, rfl, rfl⟩
  | upperNone => exact ⟨_, rfl, rfl⟩

/-! ## Operators -/

/-- How an operator before its operand is written. -/
def UnaryOp.kind : UnaryOp → LexemeKind
  | .not => .name "not"
  | .neg => .punct .minus
  | .pos => .punct .plus

/-- How an operator between its operands is written. -/
def BinaryOp.kinds : BinaryOp → List LexemeKind
  | .or => [.name "or"]
  | .and => [.name "and"]
  | .eq => [.punct .eq]
  | .ne => [.punct .ne]
  | .lt => [.punct .lt]
  | .gt => [.punct .gt]
  | .le => [.punct .le]
  | .ge => [.punct .ge]
  | .isIn => [.name "in"]
  | .notIn => [.name "not", .name "in"]
  | .concat => [.punct .tilde]
  | .add => [.punct .plus]
  | .sub => [.punct .minus]
  | .mul => [.punct .star]
  | .div => [.punct .slash]
  | .floorDiv => [.punct .floor]
  | .mod => [.punct .percent]
  | .pow => [.punct .power]

namespace Cursor

variable {cursor : Cursor} {rest : List LexemeKind}

theorem unaryOp?_eq_some {op : UnaryOp} (hkinds : cursor.kinds = op.kind :: rest) :
    ∃ span next hnext, cursor.unaryOp? = some ⟨(op, span), next, hnext⟩ ∧ next.kinds = rest := by
  obtain ⟨span, next, hnext, hcursor, hrest⟩ := next?_eq_some hkinds
  refine ⟨span, next, hnext, ?_, hrest⟩
  cases op <;> simp [unaryOp?, hcursor, UnaryOp.kind, UnaryOp.ofKind?]

theorem unaryOp?_eq_none {kind : LexemeKind} (hkinds : cursor.kinds = kind :: rest)
    (hkind : UnaryOp.ofKind? kind = none) : cursor.unaryOp? = none := by
  obtain ⟨span, next, hnext, hcursor, _⟩ := next?_eq_some hkinds
  simp [unaryOp?, hcursor, hkind]

theorem connective_of_kind {kind : LexemeKind} {connective : Connective}
    (hkinds : cursor.kinds = kind :: rest) (hkind : kind ≠ .name "not")
    (hconnective : Connective.ofKind? kind = some connective) :
    ∃ next hnext,
      cursor.connective = .ok (some ⟨connective, next, hnext⟩) ∧ next.kinds = rest := by
  obtain ⟨span, next, hnext, hcursor, hrest⟩ := next?_eq_some hkinds
  exact ⟨next, hnext, by simp [Cursor.connective, hcursor, hkind, hconnective], hrest⟩

theorem connective_of_operator (op : BinaryOp) (hkinds : cursor.kinds = op.kinds ++ rest) :
    ∃ next hnext,
      cursor.connective = .ok (some ⟨.operator op, next, hnext⟩) ∧ next.kinds = rest := by
  by_cases hop : op = .notIn
  · subst op
    obtain ⟨span, afterNot, hafterNot, hcursor, hnotKinds⟩ := next?_eq_some hkinds
    obtain ⟨_, next, hnext, htake, hrest⟩ := take?_eq_some hnotKinds
    have hsize : next.size < cursor.size := by omega
    exact ⟨next, hsize, by simp [Cursor.connective, hcursor, htake], hrest⟩
  · cases op
    case notIn => exact absurd rfl hop
    all_goals exact connective_of_kind hkinds (by decide) rfl

theorem connective_eq_none
    (hkinds : ∀ kind ∈ cursor.kinds.head?,
      Connective.ofKind? kind = none ∧ kind ≠ .name "not") :
    cursor.connective = .ok none := by
  cases hcursor : cursor.kinds with
  | nil => simp [Cursor.connective, next?_eq_none hcursor]
  | cons kind rest =>
      obtain ⟨span, next, hnext, hnextSome, _⟩ := next?_eq_some hcursor
      rw [hcursor] at hkinds
      obtain ⟨hconnective, hnot⟩ := hkinds kind rfl
      simp [Cursor.connective, hnextSome, hnot, hconnective]

end Cursor

/-! ## Where the tails stop -/

/-- Whether a lexeme after an operand is read as a part of it. -/
def LexemeKind.extendsOperand : LexemeKind → Bool
  | .str _ => true
  | .punct .dot => true
  | .punct .lbracket => true
  | .punct .lparen => true
  | .punct .pipe => true
  | _ => false

/-- No access, filter or further string follows. -/
def EndsOperand (rest : List LexemeKind) : Prop :=
  ∀ kind ∈ rest.head?, kind.extendsOperand = false

/-- No operator or test follows either. -/
def EndsOperation (rest : List LexemeKind) : Prop :=
  EndsOperand rest ∧
    ∀ kind ∈ rest.head?, Connective.ofKind? kind = none ∧ kind ≠ .name "not"

/-- No conditional follows either, nor the rest of one. -/
structure EndsExpression (rest : List LexemeKind) : Prop where
  operation : EndsOperation rest
  noIf : rest.head? ≠ some (.name "if")
  noElse : rest.head? ≠ some (.name "else")

theorem endsOperand_cons {kind : LexemeKind} (hkind : kind.extendsOperand = false)
    (rest : List LexemeKind) : EndsOperand (kind :: rest) := by
  rintro other ⟨⟩
  exact hkind

theorem endsExpression_nil : EndsExpression [] where
  operation := by simp [EndsOperation, EndsOperand]
  noIf := by simp
  noElse := by simp

/-- The punctuation after an item of a bracketed series, and its like. -/
theorem endsExpression_punct {mark : Punct} (rest : List LexemeKind)
    (hmark : mark ∈ [Punct.rparen, .rbracket, .rbrace, .comma, .colon]) :
    EndsExpression (.punct mark :: rest) where
  operation := by
    simp only [List.mem_cons, List.not_mem_nil, or_false] at hmark
    rcases hmark with rfl | rfl | rfl | rfl | rfl <;>
      simp [EndsOperation, EndsOperand, LexemeKind.extendsOperand, Connective.ofKind?]
  noIf := by simp
  noElse := by simp

theorem endsOperation_word {word : String} (rest : List LexemeKind)
    (hword : word ∈ ["if", "else"]) : EndsOperation (.name word :: rest) := by
  simp only [List.mem_cons, List.not_mem_nil, or_false] at hword
  rcases hword with rfl | rfl <;>
    simp [EndsOperation, EndsOperand, LexemeKind.extendsOperand, Connective.ofKind?]

theorem endsOperand_operator (op : BinaryOp) (rest : List LexemeKind) :
    EndsOperand (op.kinds ++ rest) := by
  cases op <;> exact endsOperand_cons rfl _

theorem EndsOperand.head?_ne {rest : List LexemeKind} (hends : EndsOperand rest)
    {kind : LexemeKind} (hkind : kind.extendsOperand = true) : rest.head? ≠ some kind := by
  intro hhead
  have hfalse := hends kind hhead
  rw [hkind] at hfalse
  contradiction

theorem EndsOperand.noAccess {rest : List LexemeKind} (hends : EndsOperand rest) :
    ∀ mark ∈ [Punct.dot, .lbracket, .lparen], rest.head? ≠ some (.punct mark) := by
  intro mark hmark
  simp only [List.mem_cons, List.not_mem_nil, or_false] at hmark
  rcases hmark with rfl | rfl | rfl <;> exact hends.head?_ne rfl

namespace Parser

variable (tagEnd : Span) {bound : Nat} (nested : Nested bound) {cursor : Cursor}
  {rest : List LexemeKind}

theorem moreStrings_stops (value : String) (span : Span) (hends : EndsOperand cursor.kinds) :
    Cursor.moreStrings value span cursor = ⟨(value, span), cursor, Nat.lt_succ_self _⟩ := by
  rw [Cursor.moreStrings]
  cases hkinds : cursor.kinds with
  | nil => simp [Cursor.next?_eq_none hkinds]
  | cons kind rest =>
      obtain ⟨_, next, hnext, hcursor, _⟩ := Cursor.next?_eq_some hkinds
      have hkind := hends kind (by rw [hkinds, List.head?_cons, Option.mem_some])
      cases kind with
      | str text => simp [LexemeKind.extendsOperand] at hkind
      | name text => simp [hcursor]
      | number text => simp [hcursor]
      | punct mark => simp [hcursor]

theorem accessTail_stops (value : Expr) (hbound : cursor.size < bound)
    (hends : ∀ mark ∈ [Punct.dot, .lbracket, .lparen],
      cursor.kinds.head? ≠ some (.punct mark)) :
    Yields (accessTail tagEnd nested value cursor hbound) (· = value) cursor.kinds := by
  have hdot : cursor.take? (.punct .dot) = none :=
    Cursor.take?_eq_none (hends .dot (by decide))
  have hlbracket : cursor.take? (.punct .lbracket) = none :=
    Cursor.take?_eq_none (hends .lbracket (by decide))
  have hlparen : cursor.take? (.punct .lparen) = none :=
    Cursor.take?_eq_none (hends .lparen (by decide))
  rw [accessTail, hdot, hlbracket, hlparen]
  exact Yields.pure rfl rfl

theorem filterTail_stops (value : Expr) (hbound : cursor.size < bound)
    (hends : EndsOperand cursor.kinds) :
    Yields (filterTail tagEnd nested value cursor hbound) (· = value) cursor.kinds := by
  have hpipe : cursor.take? (.punct .pipe) = none :=
    Cursor.take?_eq_none (hends.head?_ne rfl)
  rw [filterTail, hpipe]
  exact Yields.pure rfl rfl

theorem operatorTail_stops (power : Nat) (value : Expr) (hbound : cursor.size < bound)
    (hends : EndsOperation cursor.kinds) :
    Yields (operatorTail tagEnd nested power value cursor hbound) (· = value) cursor.kinds := by
  rw [operatorTail, Cursor.connective_eq_none hends.2]
  exact Yields.pure rfl rfl

theorem conditionalTail_stops (value : Expr) (hbound : cursor.size < bound)
    (hif : cursor.kinds.head? ≠ some (.name "if")) :
    Yields (conditionalTail nested value cursor hbound) (· = value) cursor.kinds := by
  rw [conditionalTail, Cursor.take?_eq_none hif]
  exact Yields.pure rfl rfl

variable {tagEnd nested} {holds : Expr → Prop}

theorem operand_of_primary (hbound : cursor.size ≤ bound)
    (hprimary : Yields (primary tagEnd nested cursor hbound) holds rest)
    (hends : EndsOperand rest) :
    Yields (operand tagEnd nested cursor hbound) holds rest := by
  apply hprimary.bind
  rintro value next hnext hvalue rfl
  apply (accessTail_stops tagEnd nested value _ hends.noAccess).bind
  rintro _ afterAccess hafterAccess rfl haccess
  rw [← haccess] at hends ⊢
  apply (filterTail_stops tagEnd nested _ _ hends).bind
  rintro _ afterFilter hafterFilter rfl hfilter
  exact Yields.pure hvalue hfilter

theorem primary_of_spells {kind : LexemeKind} {expr : Expr} (hspells : Spells kind expr)
    (hbound : cursor.size ≤ bound) (hkinds : cursor.kinds = kind :: rest)
    (hends : EndsOperand rest) :
    Yields (primary tagEnd nested cursor hbound) (fun value => value.spanless = expr) rest := by
  obtain ⟨span, next, hnext, hcursor, rfl⟩ := Cursor.next?_eq_some hkinds
  unfold primary
  cases kind with
  | name word =>
      obtain ⟨value, hvalue, hspanless⟩ := Expr.ofWord?_of_spells hspells span
      simp only [hcursor, hvalue]
      exact Yields.pure hspanless rfl
  | number text =>
      cases hspells
      simp only [hcursor]
      exact Yields.pure rfl rfl
  | str text =>
      cases hspells
      simp only [hcursor, moreStrings_stops text span hends]
      exact Yields.pure rfl rfl
  | punct mark => cases hspells

theorem signed_of_operand {kind : LexemeKind} (hbound : cursor.size ≤ bound)
    (hkinds : cursor.kinds = kind :: rest) (hkind : UnaryOp.ofKind? kind = none) :
    signed tagEnd nested cursor hbound = operand tagEnd nested cursor hbound := by
  rw [signed, Cursor.unaryOp?_eq_none hkinds hkind]

theorem operation_of_signed (power : Nat) (hbound : cursor.size ≤ bound)
    (hsigned : Yields (signed tagEnd nested cursor hbound) holds rest)
    (hends : EndsOperation rest) :
    Yields (operation tagEnd nested power cursor hbound) holds rest := by
  apply hsigned.bind
  rintro value next hnext hvalue rfl
  apply (operatorTail_stops tagEnd nested power value _ hends).bind
  rintro _ afterOperators hafterOperators rfl hoperators
  exact Yields.pure hvalue hoperators

/-- The reader of the expressions inside a larger one. -/
def reader (tagEnd : Span) (bound : Nat) : Nested bound :=
  fun level cursor _ => Expr.read tagEnd level cursor

end Parser

theorem Spells.not_unaryOp {kind : LexemeKind} {expr : Expr} (hspells : Spells kind expr) :
    UnaryOp.ofKind? kind = none := by
  cases hspells with
  | @identifier name hreserved hliteral =>
      have hnot : name ≠ "not" := by
        rintro rfl
        exact hreserved (by decide)
      simp [UnaryOp.ofKind?, hnot]
  | _ => rfl

theorem Expr.read_above (tagEnd : Span) (power : Nat) (cursor : Cursor) :
    Expr.read tagEnd (.above power) cursor =
      Parser.operation tagEnd (Parser.reader tagEnd cursor.size) power cursor
        (Nat.le_refl _) := by
  rw [Expr.read]
  rfl

theorem Expr.read_full_of_operation {tagEnd : Span} {cursor : Cursor} {holds : Expr → Prop}
    {rest : List LexemeKind}
    (hoperation : Yields (Parser.operation tagEnd (Parser.reader tagEnd cursor.size) 0 cursor
      (Nat.le_refl _)) holds rest)
    (hif : rest.head? ≠ some (.name "if")) :
    Yields (Expr.read tagEnd .full cursor) holds rest := by
  rw [Expr.read]
  apply hoperation.bind
  rintro value next hnext hvalue rfl
  apply (Parser.conditionalTail_stops _ value _ hif).bind
  rintro _ afterConditionals hafterConditionals rfl hconditionals
  exact Yields.pure hvalue hconditionals

/-- An expression that uses up all the lexemes is what they spell. -/
theorem Expr.ofLexemes_of_read {lexemes : List Lexeme} {tagEnd : Span} {holds : Expr → Prop}
    (hread : Yields (Expr.read tagEnd .full (Cursor.ofLexemes lexemes)) holds []) :
    ∃ value, Expr.ofLexemes lexemes tagEnd = .ok value ∧ holds value := by
  obtain ⟨value, next, hnext, hok, hvalue, hkinds⟩ := hread
  have hcomma : next.kind? ≠ some (.punct .comma) := by
    rw [Cursor.kind?_eq_head?, hkinds]
    simp
  have htuple : Expr.readTuple tagEnd .full (Cursor.ofLexemes lexemes) =
      .ok ⟨value, next, hnext⟩ := by
    rw [Expr.readTuple, hok]
    exact if_neg hcomma
  have hend : next.expectEnd = .ok () := Cursor.expectEnd_eq_ok hkinds
  refine ⟨value, ?_, hvalue⟩
  rw [Expr.ofLexemes, htuple]
  change (do next.expectEnd; return value) = Except.ok value
  rw [hend]
  rfl

end TemplateVariables
