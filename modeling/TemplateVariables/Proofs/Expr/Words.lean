import TemplateVariables.Proofs.Expr.Lexemes

/-!
# The words of an expression

The words of an expression, listed in order, are the names, numbers and strings
among the lexemes it is read from.  None is lost, repeated, moved or made up.
The proof carries one equation through the rules of reading: the words of what
stands before a place and those that are left there.
-/

namespace TemplateVariables

/-! ## Words -/

/-- A word of an expression: a name or a number as written, or a string. -/
inductive Word where
  | written (text : String)
  | str (value : String)
deriving DecidableEq, Repr

/-- The literals of two spellings are the same word in both. -/
def Word.ofText (text : String) : Word :=
  if text = "True" then .written "true"
  else if text = "False" then .written "false"
  else if text = "None" then .written "none"
  else .written text

def LexemeKind.word? : LexemeKind → Option Word
  | .name text => some (.ofText text)
  | .number text => some (.ofText text)
  | .str value => some (.str value)
  | .punct _ => none

/-- The lexeme in front of the others; a string joins one that follows it. -/
def LexemeKind.joinTo (kind : LexemeKind) (rest : List LexemeKind) : List LexemeKind :=
  match kind, rest with
  | .str value, .str more :: others => .str (value ++ more) :: others
  | _, _ => kind :: rest

/-- The words among lexemes, where adjacent strings are one. -/
def LexemeKind.words (kinds : List LexemeKind) : List Word :=
  (kinds.foldr LexemeKind.joinTo []).filterMap LexemeKind.word?

def Literal.word : Literal → Word
  | .str value => .str value
  | .number text => .ofText text
  | .bool true => .written "true"
  | .bool false => .written "false"
  | .none => .written "none"

/-- A sign is no word. -/
def UnaryOp.words : UnaryOp → List Word
  | .not => [.written "not"]
  | .neg => []
  | .pos => []

def BinaryOp.words : BinaryOp → List Word
  | .or => [.written "or"]
  | .and => [.written "and"]
  | .isIn => [.written "in"]
  | .notIn => [.written "not", .written "in"]
  | _ => []

mutual

/-- The words of an expression in order. -/
def Expr.words : Expr → List Word
  | .literal value _ => [value.word]
  | .identifier name _ => [.ofText name]
  | .attribute base name _ => base.words ++ [.ofText name]
  | .subscript base index _ => base.words ++ index.words
  | .slice start stop step _ =>
      Expr.optionWords start ++ (Expr.optionWords stop ++ Expr.optionWords step)
  | .call callee args _ => callee.words ++ Argument.listWords args
  | .filter value filter _ => value.words ++ filter.words
  | .test value name args negated _ =>
      value.words ++ .written "is" :: ((if negated then [.written "not"] else []) ++
        (name.map Word.ofText ++ Argument.listWords args))
  | .unary op operand _ => op.words ++ operand.words
  | .binary op left right _ => left.words ++ (op.words ++ right.words)
  | .conditional value condition otherwise _ =>
      value.words ++ .written "if" :: (condition.words ++ Expr.elseWords otherwise)
  | .list items _ => Expr.listWords items
  | .tuple items _ => Expr.listWords items
  | .dict entries _ => Expr.entryWords entries

def FilterCall.words : FilterCall → List Word
  | ⟨name, args, _⟩ => name.map Word.ofText ++ Argument.listWords args

def Expr.optionWords : Option Expr → List Word
  | none => []
  | some expr => expr.words

def Expr.elseWords : Option Expr → List Word
  | none => []
  | some otherwise => .written "else" :: otherwise.words

def Expr.listWords : List Expr → List Word
  | [] => []
  | expr :: rest => expr.words ++ Expr.listWords rest

/-- The keyword of an argument stands before its value. -/
def Argument.listWords : List Argument → List Word
  | [] => []
  | ⟨name, value⟩ :: rest =>
      (name.map Word.ofText).toList ++ (value.words ++ Argument.listWords rest)

def Expr.entryWords : List (Expr × Expr) → List Word
  | [] => []
  | (key, value) :: rest => key.words ++ (value.words ++ Expr.entryWords rest)

end

section Words

variable {kinds rest : List LexemeKind}

theorem LexemeKind.words_cons {kind : LexemeKind} (hkind : ∀ value, kind ≠ .str value)
    (rest : List LexemeKind) :
    LexemeKind.words (kind :: rest) = kind.word?.toList ++ LexemeKind.words rest := by
  cases kind with
  | str value => exact absurd rfl (hkind value)
  | _ => rfl

@[simp] theorem LexemeKind.words_name (text : String) :
    LexemeKind.words (.name text :: rest) = .ofText text :: LexemeKind.words rest :=
  LexemeKind.words_cons (by simp) rest

@[simp] theorem LexemeKind.words_number (text : String) :
    LexemeKind.words (.number text :: rest) = .ofText text :: LexemeKind.words rest :=
  LexemeKind.words_cons (by simp) rest

@[simp] theorem LexemeKind.words_punct (mark : Punct) :
    LexemeKind.words (.punct mark :: rest) = LexemeKind.words rest :=
  LexemeKind.words_cons (by simp) rest

theorem LexemeKind.words_str (value : String) (hrest : ∀ more, rest.head? ≠ some (.str more)) :
    LexemeKind.words (.str value :: rest) = .str value :: LexemeKind.words rest := by
  have hjoined : ∀ more others, rest.foldr LexemeKind.joinTo [] ≠ .str more :: others := by
    intro more others hjoined
    cases rest with
    | nil => contradiction
    | cons kind others =>
        cases kind with
        | str value => exact hrest value rfl
        | _ => cases hjoined
  have hjoin : LexemeKind.joinTo (.str value) (rest.foldr LexemeKind.joinTo []) =
      .str value :: rest.foldr LexemeKind.joinTo [] := by
    unfold LexemeKind.joinTo
    split
    · next hrest => exact absurd hrest (hjoined _ _)
    · rfl
  rw [LexemeKind.words, List.foldr_cons, hjoin]
  rfl

theorem LexemeKind.words_str_str (value more : String) :
    LexemeKind.words (.str value :: .str more :: rest) =
      LexemeKind.words (.str (value ++ more) :: rest) := by
  have hjoin : ∀ joined, LexemeKind.joinTo (.str value) (LexemeKind.joinTo (.str more) joined) =
      LexemeKind.joinTo (.str (value ++ more)) joined := by
    intro joined
    cases joined with
    | nil => rfl
    | cons kind others => cases kind <;> simp [LexemeKind.joinTo, String.append_assoc]
  simp only [LexemeKind.words, List.foldr_cons, hjoin]

theorem LexemeKind.words_strs (value : String) (texts : List String)
    (hrest : ∀ more, rest.head? ≠ some (.str more)) :
    LexemeKind.words (.str value :: (texts.map .str ++ rest)) =
      .str (texts.foldl (· ++ ·) value) :: LexemeKind.words rest := by
  induction texts generalizing value with
  | nil => exact LexemeKind.words_str value hrest
  | cons more texts ih =>
      rw [List.map_cons, List.cons_append, LexemeKind.words_str_str, ih]
      rfl

theorem Expr.words_of_ofWord? {word : String} {span : Span} {value : Expr}
    (hword : Expr.ofWord? word span = some value) : value.words = [.ofText word] := by
  unfold Expr.ofWord? at hword
  split at hword
  · next htrue =>
      cases hword
      rcases htrue with rfl | rfl <;> rfl
  split at hword
  · next hfalse =>
      cases hword
      rcases hfalse with rfl | rfl <;> rfl
  split at hword
  · next hnone =>
      cases hword
      rcases hnone with rfl | rfl <;> rfl
  split at hword
  · cases hword
  · cases hword
    rfl

theorem UnaryOp.words_kind (op : UnaryOp) :
    LexemeKind.words (op.kind :: rest) = op.words ++ LexemeKind.words rest := by
  cases op <;> simp [UnaryOp.kind, UnaryOp.words, Word.ofText]

theorem BinaryOp.words_kinds (op : BinaryOp) :
    LexemeKind.words (op.kinds ++ rest) = op.words ++ LexemeKind.words rest := by
  cases op <;> simp [BinaryOp.kinds, BinaryOp.words, Word.ofText]

theorem DottedName.words_kinds (name : DottedName) :
    LexemeKind.words (DottedName.kinds name ++ rest) =
      name.map Word.ofText ++ LexemeKind.words rest := by
  cases name with
  | nil => rfl
  | cons word words =>
      simp only [DottedName.kinds, List.cons_append, LexemeKind.words_name, List.map_cons]
      congr 1
      induction words with
      | nil => rfl
      | cons next words ih => simp [ih]

theorem Parser.words_of_negates {cursor start : Cursor} {negated : Bool}
    (hnot : Parser.Negates cursor negated start) :
    LexemeKind.words cursor.kinds =
      (if negated then [.written "not"] else []) ++ LexemeKind.words start.kinds := by
  rw [Cursor.kinds_of_negates hnot]
  cases negated <;> simp [Word.ofText]

end Words

/-! ## The words that are read -/

namespace Parser

def Item.words : Item → List Word
  | .expr value => value.words
  | .argument arg => (arg.name.map Word.ofText).toList ++ arg.value.words
  | .entry (key, value) => key.words ++ value.words

/-- The words of what stands before a tail. -/
def Form.wordsBefore : Form → List Word
  | .operatorTail _ left _ => left.words
  | .conditionalTail head _ => head.words
  | .test tested _ => tested.words ++ [.written "is"]
  | .accessTail base _ => base.words
  | .filterTail base _ => base.words
  | .sliceTail start _ _ => Expr.optionWords start
  | _ => []

/-- The words of the result. -/
def Form.words : Form → List Word
  | .expression _ value => value.words
  | .operation _ value => value.words
  | .operatorTail _ _ value => value.words
  | .conditionalTail _ value => value.words
  | .test _ value => value.words
  | .signed value => value.words
  | .operand value => value.words
  | .primary value => value.words
  | .accessTail _ value => value.words
  | .filterTail _ value => value.words
  | .filterCall call => call.words
  | .arguments? args => Argument.listWords (args.getD [])
  | .subscriptIndex value => value.words
  | .sliceTail _ _ value => value.words
  | .slicePart part => Expr.optionWords part
  | .group _ value => value.words
  | .groupTail items => Expr.listWords items
  | .series _ items => items.flatMap Item.words
  | .seriesTail _ items => items.flatMap Item.words
  | .item value => value.words
  | .tuple _ value => value.words
  | .tupleTail _ items => Expr.listWords items

theorem Item.flatMap_words_expr (items : List Expr) :
    (items.map Item.expr).flatMap Item.words = Expr.listWords items := by
  induction items with
  | nil => rfl
  | cons item items ih =>
      rw [List.map_cons, List.flatMap_cons, ih]
      rfl

theorem Item.flatMap_words_argument (args : List Argument) :
    (args.map Item.argument).flatMap Item.words = Argument.listWords args := by
  induction args with
  | nil => rfl
  | cons arg args ih =>
      obtain ⟨name, value⟩ := arg
      rw [List.map_cons, List.flatMap_cons, ih]
      simp [Item.words, Argument.listWords]

theorem Item.flatMap_words_entry (entries : List (Expr × Expr)) :
    (entries.map Item.entry).flatMap Item.words = Expr.entryWords entries := by
  induction entries with
  | nil => rfl
  | cons entry entries ih =>
      rw [List.map_cons, List.flatMap_cons, ih]
      simp [Item.words, Expr.entryWords]

attribute [local simp] Form.wordsBefore Form.words Expr.words Expr.optionWords Expr.elseWords
  Expr.listWords Argument.listWords FilterCall.words Item.words

/-- Behind what stands before, the words that are left are those of the result and those
that are still left. -/
theorem Reads.words {tagEnd : Span} {form : Form} {cursor next : Cursor}
    (hreads : Reads tagEnd form cursor next) :
    form.wordsBefore ++ LexemeKind.words cursor.kinds =
      form.words ++ LexemeKind.words next.kinds := by
  induction hreads with
  | above _ ih => exact ih
  | full _ _ ihoperation ihtail => exact ihoperation.trans ihtail
  | operation _ _ ihsigned ihtail => exact ihsigned.trans ihtail
  | operatorStop => rfl
  | operatorLoose => rfl
  | operatorTest hconnective _ _ _ ihtest ihtail =>
      have hkinds := Cursor.kinds_of_connective hconnective
      simp_all [Connective.kinds, Word.ofText]
  | operatorJoin hconnective _ _ _ ihright ihtail =>
      have hkinds := Cursor.kinds_of_connective hconnective
      simp_all [Connective.kinds, BinaryOp.words_kinds]
  | conditionalStop => rfl
  | conditionalThen hif _ _ _ ihcondition ihtail =>
      have hkinds := Cursor.kinds_of_take? hif
      simp_all [Word.ofText]
  | conditionalElse hif _ helse _ _ ihcondition ihotherwise ihtail =>
      have hkinds := Cursor.kinds_of_take? hif
      have helseKinds := Cursor.kinds_of_take? helse
      simp_all [Word.ofText]
  | testArguments hnot hname _ ihargs =>
      have hstart := words_of_negates hnot
      have hkinds := Cursor.kinds_of_expectDotted hname
      simp_all [DottedName.words_kinds]
  | testBare hnot hname _ _ _ _ ihargs ihhead ihtail =>
      have hstart := words_of_negates hnot
      have hkinds := Cursor.kinds_of_expectDotted hname
      simp_all [DottedName.words_kinds]
  | testPlain hnot hname _ _ ihargs =>
      have hstart := words_of_negates hnot
      have hkinds := Cursor.kinds_of_expectDotted hname
      simp_all [DottedName.words_kinds]
  | signedOperator hop _ ih =>
      have hkinds := Cursor.kinds_of_unaryOp? hop
      simp_all [UnaryOp.words_kind]
  | signedOperand _ _ ih => exact ih
  | operand _ _ _ ihhead ihaccess ihfilters => exact (ihhead.trans ihaccess).trans ihfilters
  | word hnext hword =>
      have hkinds := Cursor.kinds_of_next? hnext
      simp [hkinds, Expr.words_of_ofWord? hword]
  | number hnext =>
      have hkinds := Cursor.kinds_of_next? hnext
      simp [hkinds, Literal.word]
  | str hnext hmore =>
      obtain ⟨texts, hmoreKinds, rfl, hrest⟩ := Cursor.kinds_of_moreStrings hmore
      have hkinds := Cursor.kinds_of_next? hnext
      simp [hkinds, hmoreKinds, LexemeKind.words_strs _ _ hrest, Literal.word]
  | group hopen _ ih =>
      have hkinds := Cursor.kinds_of_next? hopen
      simp_all
  | list hopen _ ih =>
      have hkinds := Cursor.kinds_of_next? hopen
      simp_all [Item.flatMap_words_expr]
  | dict hopen _ ih =>
      have hkinds := Cursor.kinds_of_next? hopen
      simp_all [Item.flatMap_words_entry]
  | accessStop => rfl
  | accessAttribute hdot hname _ ihtail =>
      have hkinds := Cursor.kinds_of_take? hdot
      obtain ⟨kind, rfl | rfl, hnameKinds⟩ := Cursor.kinds_of_attributeName hname <;>
        simp_all
  | accessSubscript _ hopen _ hclose _ ihindex ihtail =>
      have hkinds := Cursor.kinds_of_take? hopen
      have hcloseKinds := Cursor.kinds_of_take? hclose
      simp_all
  | accessCall _ _ hopen _ _ ihargs ihtail =>
      have hkinds := Cursor.kinds_of_take? hopen
      simp_all [Item.flatMap_words_argument]
  | filterStop => rfl
  | filterNext hbar _ _ ihcall ihtail =>
      have hkinds := Cursor.kinds_of_take? hbar
      simp_all
  | filterCall hname _ ihargs =>
      have hkinds := Cursor.kinds_of_expectDotted hname
      simp_all [DottedName.words_kinds]
  | argumentsNone => rfl
  | argumentsSome hopen _ ih =>
      have hkinds := Cursor.kinds_of_take? hopen
      simp_all [Item.flatMap_words_argument]
  | index _ _ _ ih => exact ih
  | sliceFromStart hcolon _ ih =>
      have hkinds := Cursor.kinds_of_take? hcolon
      simp_all
  | sliceFrom _ _ hcolon _ ihstart ihtail =>
      have hkinds := Cursor.kinds_of_take? hcolon
      simp_all
  | sliceStep _ hcolon _ ihstop ihstep =>
      have hkinds := Cursor.kinds_of_take? hcolon
      simp_all
  | sliceStop _ _ ihstop => simp_all
  | partNone => rfl
  | partSome _ _ ih => exact ih
  | groupEmpty hclose =>
      have hkinds := Cursor.kinds_of_take? hclose
      simp_all
  | groupTuple _ _ _ _ hclose ihfirst ihothers =>
      have hkinds := Cursor.kinds_of_take? hclose
      simp_all
  | groupSingle _ _ _ hclose ih =>
      have hkinds := Cursor.kinds_of_take? hclose
      simp_all
  | groupTailStop => rfl
  | groupTailComma hcomma _ =>
      have hkinds := Cursor.kinds_of_take? hcomma
      simp_all
  | groupTailItem hcomma _ _ _ ihfirst ihothers =>
      have hkinds := Cursor.kinds_of_take? hcomma
      simp_all
  | seriesEmpty _ hclose =>
      have hkinds := Cursor.kinds_of_take? hclose
      simp_all
  | series _ _ _ _ hclose ihfirst ihothers =>
      have hkinds := Cursor.kinds_of_take? hclose
      simp_all
  | seriesTailStop => rfl
  | seriesTailComma _ hcomma _ =>
      have hkinds := Cursor.kinds_of_take? hcomma
      simp_all
  | seriesTailItem _ hcomma _ _ _ ihfirst ihothers =>
      have hkinds := Cursor.kinds_of_take? hcomma
      simp_all
  | itemExpr _ ih => exact ih
  | itemSplat hstar _ ih =>
      obtain ⟨mark, -, hkinds⟩ := Cursor.kinds_of_star hstar
      simp_all
  | itemKeyword _ hword _ ih =>
      have hkinds := Cursor.kinds_of_keyword? hword
      simp_all
  | itemPositional _ _ _ ih => exact ih
  | itemEntry _ hcolon _ ihkey ihvalue =>
      have hkinds := Cursor.kinds_of_take? hcolon
      simp_all
  | tupleSingle _ _ ih => exact ih
  | tuple _ _ _ ihfirst ihothers => simp_all
  | tupleTailStop => rfl
  | tupleTailComma hcomma _ =>
      have hkinds := Cursor.kinds_of_take? hcomma
      simp_all
  | tupleTailItem hcomma _ _ _ ihfirst ihothers =>
      have hkinds := Cursor.kinds_of_take? hcomma
      simp_all

end Parser

theorem exists_eq_ok_of_isOk {α : Type} {reading : Except ParseError α}
    (hisOk : reading.isOk = true) : ∃ value, reading = .ok value := by
  cases reading with
  | error error => cases hisOk
  | ok value => exact ⟨value, rfl⟩

/-- The words of an expression are those of the lexemes that spell it. -/
theorem Expr.words_of_ofLexemes {lexemes : List Lexeme} {tagEnd : Span} {expr : Expr}
    (hok : Expr.ofLexemes lexemes tagEnd = .ok expr) :
    expr.words = LexemeKind.words (lexemes.map Lexeme.kind) := by
  obtain ⟨next, hend, hreads⟩ := (Expr.ofLexemes_follows lexemes tagEnd).of_ok expr hok
  have hwords : LexemeKind.words (lexemes.map Lexeme.kind) =
      expr.words ++ LexemeKind.words next.kinds := hreads.words
  rw [hwords, hend]
  exact (List.append_nil _).symm

/-- The text `x is not divisible.by "a" "b" if True else -rows[1:]`. -/
theorem Expr.words_of_ofLexemes_conditional :
    ∃ expr,
      Expr.ofLexemes
        (([.name "x", .name "is", .name "not", .name "divisible", .punct .dot, .name "by",
          .str "a", .str "b", .name "if", .name "True", .name "else", .punct .minus,
          .name "rows", .punct .lbracket, .number "1", .punct .colon,
          .punct .rbracket] : List LexemeKind).map fun kind => ⟨kind, default⟩) default =
        .ok expr ∧
      expr.words =
        [.written "x", .written "is", .written "not", .written "divisible", .written "by",
          .str "ab", .written "if", .written "true", .written "else", .written "rows",
          .written "1"] := by
  refine (exists_eq_ok_of_isOk ?_).imp fun expr hok => ⟨hok, ?_⟩
  · decide +kernel
  · exact (Expr.words_of_ofLexemes hok).trans (by decide +kernel)

end TemplateVariables
