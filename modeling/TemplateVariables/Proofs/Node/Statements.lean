import TemplateVariables.Proofs.Node.Segments
import TemplateVariables.Proofs.Node.Targets

/-!
# Statements are read as they are written

The arguments of a block tag are a sequence of segments for each statement.  Every
reader of arguments succeeds in front of the segments it is made for and leaves the
ones behind them; a statement is read back when they are those of a whole tag.
-/

namespace TemplateVariables

open Segment (Spell Begins)

/-! ## How statements are written -/

namespace Segment

/-- The pieces with commas between them. -/
def joined : List (List Segment) → List Segment
  | [] => []
  | first :: rest => first ++ rest.flatMap fun piece => punct .comma :: piece

def target : SetTarget → List Segment
  | .name name => [word name]
  | .attribute space name => [word space, punct .dot, word name]

/-- Several targets stand in parentheses each. -/
def targets : List SetTarget → List Segment
  | [single] => target single
  | several => joined (several.map fun one => punct .lparen :: (target one ++ [punct .rparen]))

def parameter (param : Parameter) : List Segment :=
  word param.name ::
    match param.default with
    | none => []
    | some value => [punct .assign, .expr value]

/-- A parameter list with its brackets. -/
def parameters (params : List Parameter) : List Segment :=
  punct .lparen :: (joined (params.map parameter) ++ [punct .rparen])

def binding (pair : String × Expr) : List Segment :=
  [word pair.1, punct .assign, .expr pair.2]

/-- Filter calls, each behind a bar. -/
def pipeline (filters : List FilterCall) : List Segment :=
  filters.flatMap fun filter => [punct .pipe, .filter filter]

def importedName (imported : ImportedName) : List Segment :=
  word imported.name ::
    match imported.otherName with
    | none => []
    | some other => [word "as", word other]

/-- Whether a loop is recursive is said at the end of its tag. -/
def recursion (recursive : Bool) : List Segment :=
  if recursive then [word "recursive"] else []

/-- What stands behind the iterable of a loop. -/
def loopEnd (condition : Option Expr) (recursive : Bool) : List Segment :=
  match condition with
  | none => recursion recursive
  | some condition => word "if" :: .expr condition :: recursion recursive

/-- Words that may stand at a place. -/
def optional (words : List String) : Segment :=
  .choice [[], words.map .name]

/-- The ways to write a context modifier. -/
def contexts : List (List LexemeKind) :=
  [[], [.name "with", .name "context"], [.name "without", .name "context"]]

/-- The context modifier of an import, which may be left out. -/
def context : Segment :=
  .choice contexts

end Segment

open Segment (word punct joined target targets parameter parameters binding pipeline importedName
  optional contexts context recursion loopEnd)

def PlainHeader.segments : PlainHeader → List Segment
  | .setBlock name filters => word "set" :: word name :: pipeline filters
  | .macroBlock name params => word "macro" :: word name :: parameters params
  | .callBlock params callee => word "call" :: (parameters params ++ [.call callee])
  | .withBlock bindings => word "with" :: joined (bindings.map binding)
  | .filterBlock [] => [word "filter"]
  | .filterBlock (first :: others) => word "filter" :: .filter first :: pipeline others
  | .block name => [word "block", word name, optional ["scoped"], optional ["required"]]

def Header.segments : Header → List Segment
  | .conditional condition => [word "if", .expr condition]
  | .loop names iterable condition recursive =>
      word "for" :: (targets (names.map .name) ++
        word "in" :: .expr iterable :: loopEnd condition recursive)
  | .plain header => header.segments

def LoopControl.word : LoopControl → String
  | .break => "break"
  | .continue => "continue"

/-- How the node is written if it is a single tag. -/
def Node.segments : Node → List Segment
  | .evaluate expr _ => [word "do", .expr expr]
  | .set setTargets value _ =>
      word "set" :: (targets setTargets ++ [punct .assign, .expr value])
  | .extendTemplate template _ => [word "extends", .expr template]
  | .includeTemplate template _ =>
      [word "include", .expr template, optional ["ignore", "missing"], context]
  | .importTemplate template name _ =>
      [word "import", .expr template, word "as", word name, context]
  | .importNames template names _ =>
      word "from" :: .expr template :: word "import" ::
        (joined (names.map importedName) ++ [context])
  | .loopControl kind _ => [word kind.word]
  | _ => []

/-! ## Which statements can be written -/

/-- There are targets, and they are all names that are not reserved. -/
def TargetNames (names : List String) : Prop :=
  names ≠ [] ∧ ∀ name ∈ names, name ∉ reservedWords

def Expr.IsCall (expr : Expr) : Prop :=
  ∃ callee args span, expr = .call callee args span

def PlainHeader.WellFormed : PlainHeader → Prop
  | .setBlock name _ => name ∉ reservedWords
  | .callBlock _ call => call.IsCall
  | .filterBlock filters => filters ≠ []
  | _ => True

def Header.WellFormed : Header → Prop
  | .conditional _ => True
  | .loop names _ _ _ => TargetNames names
  | .plain header => header.WellFormed

namespace Statement

variable (tagEnd : Span) {cursor : Cursor} {segments : List Segment} {head : Option LexemeKind}

/-! ## Targets -/

theorem readsTarget_name {name : String} (hname : name ∉ reservedWords)
    (hspell : Spell (word name :: segments) cursor.rest) :
    ∃ next, ReadsTargets .one cursor [name] next ∧ Spell segments next.rest := by
  obtain ⟨span, next, hsize, hword, hnext⟩ := Cursor.name?_spelled hspell
  exact ⟨next, .name hword hname, hnext⟩

/-- A single name in parentheses. -/
theorem readsTarget_group {name : String} (hname : name ∉ reservedWords)
    (hspell : Spell (punct .lparen :: word name :: punct .rparen :: segments) cursor.rest) :
    ∃ next, ReadsTargets .one cursor [name] next ∧ Spell segments next.rest := by
  obtain ⟨opened, inside, hinsideSize, hlparen, hinside⟩ := Cursor.take?_spelled hspell
  obtain ⟨afterName, hreads, hafterName⟩ := readsTarget_name hname hinside
  have hstop : afterName.take? (.punct .comma) = none :=
    Cursor.take?_none_spelled hafterName (.lexeme _ _) (by simp)
  obtain ⟨closed, next, hsize, hrparen, hnext⟩ := Cursor.take?_spelled hafterName
  exact ⟨next, .group hlparen (.last hreads hstop) hrparen, hnext⟩

theorem readsTargets_groups {names : List String} (hnames : names ≠ [])
    (hreserved : ∀ name ∈ names, name ∉ reservedWords)
    (hspell : Spell (joined (names.map fun name =>
      [punct .lparen, word name, punct .rparen]) ++ segments) cursor.rest)
    (hbegins : Begins segments head) (hcomma : head ≠ some (.punct .comma)) :
    ∃ next, ReadsTargets .several cursor names next ∧ Spell segments next.rest := by
  induction names generalizing cursor with
  | nil => contradiction
  | cons name others ih =>
      obtain ⟨hname, hothers⟩ := List.forall_mem_cons.1 hreserved
      obtain ⟨afterTarget, htarget, hafterTarget⟩ := readsTarget_group hname hspell
      cases others with
      | nil =>
          have hstop := Cursor.take?_none_spelled hafterTarget hbegins hcomma
          exact ⟨afterTarget, .last htarget hstop, hafterTarget⟩
      | cons other others =>
          obtain ⟨_, afterComma, _, htake, hafterComma⟩ := Cursor.take?_spelled hafterTarget
          have hkind := Cursor.kind?_spelled hafterComma (.lexeme _ _)
          have hmore : ¬afterComma.AtTargetsEnd := by
            simp [Cursor.AtTargetsEnd, Cursor.atListEnd, hkind]
          obtain ⟨next, hreads, hnext⟩ := ih (List.cons_ne_nil _ _) hothers hafterComma
          exact ⟨next, .more htarget htake hmore hreads, hnext⟩

theorem readTargets_arrives {names : List String} (hnames : TargetNames names)
    (hspell : Spell (targets (names.map .name) ++ segments) cursor.rest)
    (hbegins : Begins segments head) (hcomma : head ≠ some (.punct .comma)) :
    Arrives (readTargets tagEnd cursor) (· = names) segments := by
  have hreads : ∃ next, ReadsTargets .several cursor names next ∧ Spell segments next.rest := by
    obtain ⟨hsome, hreserved⟩ := hnames
    match names with
    | [name] =>
        obtain ⟨next, htarget, hnext⟩ := readsTarget_name (hreserved name List.mem_cons_self) hspell
        exact ⟨next, .last htarget (Cursor.take?_none_spelled hnext hbegins hcomma), hnext⟩
    | first :: second :: others =>
        apply readsTargets_groups hsome hreserved _ hbegins hcomma
        simpa [targets, target, Function.comp_def] using hspell
  obtain ⟨next, hreads, hnext⟩ := hreads
  obtain ⟨hsize, hok⟩ := readTargets_gives tagEnd hreads
  exact ⟨names, next, hsize, hok, rfl, hnext⟩

/-! ## Parameters and bindings -/

/-- Behind a piece stands a comma or what stands behind all of them. -/
theorem begins_after_piece (pieces : List (List Segment)) (hbegins : Begins segments head) :
    ∃ after, (after = some (.punct .comma) ∨ after = head) ∧
      Begins ((pieces.flatMap fun piece => punct .comma :: piece) ++ segments) after := by
  cases pieces with
  | nil => exact ⟨head, .inr rfl, hbegins⟩
  | cons piece pieces => exact ⟨some (.punct .comma), .inl rfl, .lexeme _ _⟩

theorem readParameter_arrives {param : Parameter}
    (hspell : Spell (parameter param ++ segments) cursor.rest) (hbegins : Begins segments head)
    (hhead : head = some (.punct .comma) ∨ head = some (.punct .rparen)) :
    Arrives (readParameter tagEnd cursor)
      (fun value => value.spanless = param.spanless) segments := by
  obtain ⟨name, default⟩ := param
  unfold readParameter
  cases default with
  | none =>
      apply (Cursor.expectName_arrives tagEnd .parameter hspell).bind
      rintro ⟨text, span⟩ afterName hsize rfl hafterName
      have hassign : afterName.take? (.punct .assign) = none := by
        apply Cursor.take?_none_spelled hafterName hbegins
        rcases hhead with rfl | rfl <;> decide
      simp only [hassign]
      exact Arrives.ok rfl hafterName
  | some value =>
      apply (Cursor.expectName_arrives tagEnd .parameter hspell).bind
      rintro ⟨text, span⟩ afterName hsize rfl hafterName
      obtain ⟨_, afterAssign, hassignSize, hassign, hafterAssign⟩ :=
        Cursor.take?_spelled hafterName
      simp only [hassign]
      apply (Expr.read_arrives tagEnd hafterAssign hbegins ?_ ?_).bind
      · intro result next hnextSize hresult hnext
        exact Arrives.ok (by simp [Parameter.spanless, hresult]) hnext
      · rcases hhead with rfl | rfl <;> decide
      · rintro -
        rcases hhead with rfl | rfl <;> decide

theorem readParametersTail_arrives {params : List Parameter}
    (hspell : Spell (((params.map parameter).flatMap fun piece => punct .comma :: piece) ++
      punct .rparen :: segments) cursor.rest) :
    Arrives (readParametersTail tagEnd cursor)
      (fun values => values.map Parameter.spanless = params.map Parameter.spanless)
      segments := by
  induction params generalizing cursor with
  | nil =>
      obtain ⟨_, next, hsize, hrparen, hnext⟩ := Cursor.take?_spelled hspell
      rw [readParametersTail, hrparen]
      exact Arrives.ok rfl hnext
  | cons param params ih =>
      have hrparen : cursor.take? (.punct .rparen) = none :=
        Cursor.take?_none_spelled hspell (.lexeme _ _) (by simp)
      rw [List.map_cons, List.flatMap_cons, List.append_assoc] at hspell
      rw [readParametersTail, hrparen]
      apply (Cursor.expect_arrives tagEnd hspell).bind
      intro _ afterComma hcommaSize _ hafterComma
      have hmore : afterComma.take? (.punct .rparen) = none :=
        Cursor.take?_none_spelled hafterComma (.lexeme _ _) (by simp)
      obtain ⟨after, hafter, hbegins⟩ :=
        begins_after_piece (params.map parameter) (.lexeme (.punct .rparen) segments)
      simp only [hmore]
      apply (readParameter_arrives tagEnd hafterComma hbegins hafter).bind
      intro first afterFirst hfirstSize hfirst hafterFirst
      apply (ih hafterFirst).bind
      intro others next hnextSize hothers hnext
      exact Arrives.ok (by rw [List.map_cons, List.map_cons, hfirst, hothers]) hnext

theorem readParameters_arrives {params : List Parameter}
    (hspell : Spell (parameters params ++ segments) cursor.rest) :
    Arrives (readParameters tagEnd cursor)
      (fun values => values.map Parameter.spanless = params.map Parameter.spanless)
      segments := by
  unfold readParameters
  rw [parameters, List.cons_append, List.append_assoc, List.singleton_append] at hspell
  apply (Cursor.expect_arrives tagEnd hspell).bind
  intro _ inside hinsideSize _ hinside
  cases params with
  | nil =>
      obtain ⟨_, next, hsize, hrparen, hnext⟩ := Cursor.take?_spelled hinside
      simp only [hrparen]
      exact Arrives.ok rfl hnext
  | cons param params =>
      have hrparen : inside.take? (.punct .rparen) = none :=
        Cursor.take?_none_spelled hinside (.lexeme _ _) (by simp)
      obtain ⟨after, hafter, hbegins⟩ :=
        begins_after_piece (params.map parameter) (.lexeme (.punct .rparen) segments)
      rw [List.map_cons, joined, List.append_assoc] at hinside
      simp only [hrparen]
      apply (readParameter_arrives tagEnd hinside hbegins hafter).bind
      intro first afterFirst hfirstSize hfirst hafterFirst
      apply (readParametersTail_arrives tagEnd hafterFirst).bind
      intro others next hnextSize hothers hnext
      exact Arrives.ok (by rw [List.map_cons, List.map_cons, hfirst, hothers]) hnext

theorem readBinding_arrives {pair : String × Expr}
    (hspell : Spell (binding pair ++ segments) cursor.rest) (hbegins : Begins segments head)
    (hhead : head = some (.punct .comma) ∨ head = none) :
    Arrives (readBinding tagEnd cursor)
      (fun value => bindingSpanless value = bindingSpanless pair) segments := by
  apply (Cursor.expectName_arrives tagEnd .variableName hspell).bind
  rintro ⟨name, span⟩ afterName hnameSize hname hafterName
  apply (Cursor.expect_arrives tagEnd hafterName).bind
  intro _ afterAssign hassignSize _ hafterAssign
  apply (Expr.read_arrives tagEnd hafterAssign hbegins ?_ ?_).bind
  · intro result next hnextSize hresult hnext
    exact Arrives.ok (by simp_all [bindingSpanless]) hnext
  · rcases hhead with rfl | rfl <;> decide
  · rintro -
    rcases hhead with rfl | rfl <;> decide

theorem readBindingsTail_succeeds {pairs : List (String × Expr)}
    (hspell : Spell ((pairs.map binding).flatMap fun piece => punct .comma :: piece)
      cursor.rest) :
    Succeeds (readBindingsTail tagEnd cursor)
      (fun values => values.map bindingSpanless = pairs.map bindingSpanless) := by
  induction pairs generalizing cursor with
  | nil =>
      rw [readBindingsTail, if_pos hspell.eq_nil]
      exact Succeeds.ok rfl
  | cons pair pairs ih =>
      rw [readBindingsTail, if_neg hspell.ne_nil]
      apply (Cursor.expect_arrives tagEnd hspell).bind_succeeds
      intro _ afterComma hcommaSize _ hafterComma
      obtain ⟨after, hafter, hbegins⟩ := begins_after_piece (pairs.map binding) .nil
      rw [List.append_nil] at hbegins
      apply (readBinding_arrives tagEnd hafterComma hbegins hafter).bind_succeeds
      intro first afterFirst hfirstSize hfirst hafterFirst
      apply (ih hafterFirst).bind
      intro others hothers
      exact Succeeds.ok (by rw [List.map_cons, List.map_cons, hfirst, hothers])

theorem readBindings_succeeds {pairs : List (String × Expr)}
    (hspell : Spell (joined (pairs.map binding)) cursor.rest) :
    Succeeds (readBindings tagEnd cursor)
      (fun values => values.map bindingSpanless = pairs.map bindingSpanless) := by
  unfold readBindings
  cases pairs with
  | nil =>
      rw [if_pos hspell.eq_nil]
      exact Succeeds.ok rfl
  | cons pair pairs =>
      rw [if_neg hspell.ne_nil]
      obtain ⟨after, hafter, hbegins⟩ := begins_after_piece (pairs.map binding) .nil
      rw [List.append_nil] at hbegins
      apply (readBinding_arrives tagEnd hspell hbegins hafter).bind_succeeds
      intro first afterFirst hfirstSize hfirst hafterFirst
      apply (readBindingsTail_succeeds tagEnd hafterFirst).bind
      intro others hothers
      exact Succeeds.ok (by rw [List.map_cons, List.map_cons, hfirst, hothers])

/-! ## Filters -/

theorem begins_pipeline (filters : List FilterCall) :
    ∃ head, (∀ kind ∈ head, kind = .punct .pipe) ∧ Begins (pipeline filters) head := by
  cases filters with
  | nil => exact ⟨none, by simp, .nil⟩
  | cons filter filters => exact ⟨some (.punct .pipe), by simp, .lexeme _ _⟩

theorem readFilters_arrives {filters : List FilterCall}
    (hspell : Spell (pipeline filters) cursor.rest) :
    Arrives (readFilters tagEnd cursor)
      (fun values => values.map FilterCall.spanless = filters.map FilterCall.spanless) [] := by
  induction filters generalizing cursor with
  | nil =>
      have hbar : cursor.take? (.punct .pipe) = none :=
        Cursor.take?_none_spelled hspell .nil (by simp)
      rw [readFilters, hbar]
      exact Arrives.ok rfl hspell
  | cons filter filters ih =>
      obtain ⟨_, afterBar, hbarSize, hbar, hafterBar⟩ := Cursor.take?_spelled hspell
      obtain ⟨head, hhead, hbegins⟩ := begins_pipeline filters
      rw [readFilters, hbar]
      apply (Expr.readFilter_arrives tagEnd hafterBar hbegins hhead).bind
      intro first afterFirst hfirstSize hfirst hafterFirst
      apply (ih hafterFirst).bind
      intro others next hnextSize hothers hnext
      exact Arrives.ok (by rw [List.map_cons, List.map_cons, hfirst, hothers]) hnext

/-! ## Words that may be left out -/

theorem skipWord_spelled {text : String} {option : List LexemeKind}
    (hoption : option ∈ [[], [.name text]])
    (hspell : Spell (option.map .lexeme ++ segments) cursor.rest)
    (hbegins : Begins segments head) (hhead : head ≠ some (.name text)) :
    Spell segments (skipWord text cursor).next.rest := by
  simp only [List.mem_cons, List.not_mem_nil, or_false] at hoption
  unfold skipWord
  rcases hoption with rfl | rfl
  · rw [Cursor.take?_none_spelled hspell hbegins hhead]
    exact hspell
  · obtain ⟨_, next, hsize, htake, hnext⟩ := Cursor.take?_spelled hspell
    rw [htake]
    exact hnext

theorem atContext_eq_false {name : String} (hspell : Spell (word name :: segments) cursor.rest)
    (hbegins : Begins segments head) (hhead : head ≠ some (.name "context")) :
    atContext cursor = false := by
  obtain ⟨lexemes, lastStop⟩ := cursor
  cases hspell with
  | lexeme span hrest =>
      rename_i rest
      cases rest with
      | nil => rfl
      | cons lexeme rest =>
          have hkind := hrest.head?_kinds hbegins
          obtain ⟨kind, lexemeSpan⟩ := lexeme
          cases kind with
          | name text =>
              have htext : text ≠ "context" := by
                rintro rfl
                exact hhead hkind.symm
              simp [atContext, htext]
          | _ => rfl

theorem skipContext_spelled {option : List LexemeKind} (hoption : option ∈ contexts)
    (hspell : Spell (option.map .lexeme) cursor.rest) :
    Spell [] (skipContext cursor).next.rest := by
  obtain ⟨lexemes, lastStop⟩ := cursor
  simp only [contexts, List.mem_cons, List.not_mem_nil, or_false] at hoption
  rcases hoption with rfl | rfl | rfl
  · cases hspell
    exact .nil
  all_goals
    cases hspell with
    | lexeme firstSpan hrest =>
        cases hrest with
        | lexeme secondSpan hrest =>
            cases hrest
            exact .nil

/-! ## Imported names -/

theorem readImportedName_arrives {imported : ImportedName}
    (hspell : Spell (importedName imported ++ segments) cursor.rest)
    (hbegins : Begins segments head) (hhead : head ≠ some (.name "as")) :
    Arrives (readImportedName tagEnd cursor) (· = imported) segments := by
  obtain ⟨name, otherName⟩ := imported
  unfold readImportedName
  cases otherName with
  | none =>
      apply (Cursor.expectName_arrives tagEnd .importedName hspell).bind
      rintro ⟨text, span⟩ afterName hnameSize rfl hafterName
      simp only [Cursor.take?_none_spelled hafterName hbegins hhead]
      exact Arrives.ok rfl hafterName
  | some other =>
      apply (Cursor.expectName_arrives tagEnd .importedName hspell).bind
      rintro ⟨text, span⟩ afterName hnameSize rfl hafterName
      obtain ⟨_, afterAs, hasSize, has, hafterAs⟩ := Cursor.take?_spelled hafterName
      simp only [has]
      apply (Cursor.expectName_arrives tagEnd .importAlias hafterAs).bind
      rintro ⟨otherText, otherSpan⟩ next hnextSize rfl hnext
      exact Arrives.ok rfl hnext

/-- A name to import is not taken for a context modifier. -/
theorem atContext_importedName {imported : ImportedName}
    (hspell : Spell (importedName imported ++ segments) cursor.rest)
    (hbegins : Begins segments head) (hhead : head ≠ some (.name "context")) :
    atContext cursor = false := by
  obtain ⟨name, otherName⟩ := imported
  cases otherName with
  | none => exact atContext_eq_false hspell hbegins hhead
  | some other => exact atContext_eq_false hspell (.lexeme _ _) (by simp)

theorem readImportedNames_arrives {names : List ImportedName} (hnames : names ≠ [])
    (hspell : Spell (joined (names.map importedName) ++ segments) cursor.rest)
    (hbegins : Begins segments head)
    (hhead : head ≠ some (.name "as") ∧ head ≠ some (.name "context") ∧
      head ≠ some (.punct .comma)) :
    Arrives (readImportedNames tagEnd cursor) (· = names) segments := by
  obtain ⟨has, hcontext, hcomma⟩ := hhead
  induction names generalizing cursor with
  | nil => contradiction
  | cons imported others ih =>
      rw [List.map_cons, joined, List.append_assoc] at hspell
      obtain ⟨after, hafter, hbeginsAfter⟩ :=
        begins_after_piece (others.map importedName) hbegins
      have hafterAs : after ≠ some (.name "as") := by
        rcases hafter with rfl | rfl
        · simp
        · exact has
      have hafterContext : after ≠ some (.name "context") := by
        rcases hafter with rfl | rfl
        · simp
        · exact hcontext
      rw [readImportedNames, atContext_importedName hspell hbeginsAfter hafterContext]
      apply (readImportedName_arrives tagEnd hspell hbeginsAfter hafterAs).bind
      rintro _ afterFirst hfirstSize rfl hafterFirst
      cases others with
      | nil =>
          simp only [Cursor.take?_none_spelled hafterFirst hbegins hcomma]
          exact Arrives.ok rfl hafterFirst
      | cons second others =>
          obtain ⟨_, afterComma, hcommaSize, htake, hafterComma⟩ :=
            Cursor.take?_spelled hafterFirst
          simp only [htake]
          apply (ih (List.cons_ne_nil _ _) hafterComma).bind
          rintro _ next hnextSize rfl hnext
          exact Arrives.ok rfl hnext

/-! ## Statements -/

variable {tag : Tag}

theorem arguments_spelled {text : String} (htag : Spell (word text :: segments) tag.lexemes) :
    Spell segments tag.arguments.rest := by
  rw [Tag.arguments, Cursor.ofLexemes]
  generalize tag.lexemes = lexemes at htag
  cases htag with
  | lexeme span hrest => exact hrest

theorem condition_succeeds {condition : Expr}
    (hspell : Spell [.expr condition] tag.arguments.rest) :
    Succeeds tag.condition (fun value => value.spanless = condition.spanless) := by
  apply (Expr.readTuple_arrives tag.endSpan hspell .nil (by decide) (by simp)
    (by simp)).bind_succeeds
  intro value next hsize hvalue hnext
  apply (Cursor.expectEnd_succeeds hnext).bind
  intro _ _
  exact Succeeds.ok hvalue

theorem readIf_succeeds {condition : Expr}
    (hspell : Spell [.expr condition] tag.arguments.rest) :
    Succeeds (readIf tag)
      (fun read => read.spanless = (Statement.opens (.conditional condition)).spanless) := by
  apply (condition_succeeds hspell).bind
  intro value hvalue
  exact Succeeds.ok (by simp [Statement.spanless, Header.spanless, hvalue])

theorem recursion_spelled {recursive : Bool} (hspell : Spell (recursion recursive) cursor.rest) :
    decide (cursor.kind? = some (.name "recursive")) = recursive ∧
      Spell [] (skipWord "recursive" cursor).next.rest := by
  cases recursive with
  | false =>
      refine ⟨by simp [Cursor.kind?_spelled hspell .nil], ?_⟩
      exact skipWord_spelled List.mem_cons_self hspell .nil (by simp)
  | true =>
      refine ⟨by simp [Cursor.kind?_spelled hspell (.lexeme _ _)], ?_⟩
      exact skipWord_spelled (List.mem_cons_of_mem _ List.mem_cons_self) hspell .nil (by simp)

theorem begins_recursion (recursive : Bool) :
    ∃ head, (head = none ∨ head = some (.name "recursive")) ∧
      Begins (recursion recursive) head := by
  cases recursive with
  | false => exact ⟨none, .inl rfl, .nil⟩
  | true => exact ⟨_, .inr rfl, .lexeme _ _⟩

theorem begins_loopEnd (condition : Option Expr) (recursive : Bool) :
    ∃ head, (head = none ∨ head = some (.name "recursive") ∨ head = some (.name "if")) ∧
      Begins (loopEnd condition recursive) head := by
  cases condition with
  | none =>
      obtain ⟨head, hhead, hbegins⟩ := begins_recursion recursive
      exact ⟨head, hhead.imp_right .inl, hbegins⟩
  | some condition => exact ⟨_, .inr (.inr rfl), .lexeme _ _⟩

theorem readLoop_succeeds {names : List String} {iterable : Expr} {condition : Option Expr}
    {recursive : Bool} (hnames : TargetNames names)
    (hspell : Spell (targets (names.map .name) ++
      word "in" :: .expr iterable :: loopEnd condition recursive) tag.arguments.rest) :
    Succeeds (readLoop tag) (fun read =>
      read.spanless = (Statement.opens (.loop names iterable condition recursive)).spanless) := by
  apply (readTargets_arrives tag.endSpan hnames hspell (.lexeme _ _) (by simp)).bind_succeeds
  rintro _ afterNames hnamesSize rfl hafterNames
  apply (Cursor.expect_arrives tag.endSpan hafterNames).bind_succeeds
  intro _ afterIn hinSize _ hafterIn
  obtain ⟨head, hhead, hbegins⟩ := begins_loopEnd condition recursive
  have hends : LexemeKind.endsOperation head := by
    rcases hhead with rfl | rfl | rfl <;> decide
  have hcomma : head ≠ some (.punct .comma) := by
    rcases hhead with rfl | rfl | rfl <;> simp
  apply (Expr.readTuple_arrives tag.endSpan hafterIn hbegins hends (by simp)
    hcomma).bind_succeeds
  intro iterableRead afterIterable hiterableSize hiterable hafterIterable
  cases condition with
  | none =>
      obtain ⟨head, hhead, hbegins⟩ := begins_recursion recursive
      have hif : afterIterable.take? (.name "if") = none := by
        apply Cursor.take?_none_spelled hafterIterable hbegins
        rcases hhead with rfl | rfl <;> simp
      obtain ⟨hrecursive, hnext⟩ := recursion_spelled hafterIterable
      simp only [hif]
      apply (Cursor.expectEnd_succeeds hnext).bind
      intro _ _
      exact Succeeds.ok
        (by simp [Statement.spanless, Header.spanless, hiterable, hrecursive])
  | some condition =>
      obtain ⟨_, afterIf, hifSize, hif, hafterIf⟩ := Cursor.take?_spelled hafterIterable
      obtain ⟨head, hhead, hbegins⟩ := begins_recursion recursive
      have hends : LexemeKind.endsOperation head := by
        rcases hhead with rfl | rfl <;> decide
      have hnoIf : head ≠ some (.name "if") := by
        rcases hhead with rfl | rfl <;> simp
      simp only [hif]
      apply (Expr.read_arrives tag.endSpan hafterIf hbegins hends fun _ => hnoIf).bind_succeeds
      intro conditionRead afterCondition hconditionSize hcondition hafterCondition
      obtain ⟨hrecursive, hnext⟩ := recursion_spelled hafterCondition
      dsimp only
      apply (Cursor.expectEnd_succeeds hnext).bind
      intro _ _
      exact Succeeds.ok
        (by simp [Statement.spanless, Header.spanless, hiterable, hcondition, hrecursive])

/-! ### Assignments -/

theorem readSetTargets_names {names : List String} (hnames : TargetNames names)
    (hspell : Spell (targets (names.map .name) ++ segments) cursor.rest)
    (hbegins : Begins segments head) (hcomma : head ≠ some (.punct .comma))
    (hdot : head ≠ some (.punct .dot)) :
    Arrives (readSetTargets tagEnd cursor) (· = names.map .name) segments := by
  have htargets : Arrives (readTargets tagEnd cursor >>= fun step =>
      .ok ⟨step.value.map SetTarget.name, step.next, step.shorter⟩) (· = names.map .name)
      segments := by
    apply (readTargets_arrives tagEnd hnames hspell hbegins hcomma).bind
    rintro _ next hsize rfl hnext
    exact Arrives.ok rfl hnext
  unfold readSetTargets
  cases names with
  | nil => exact absurd rfl hnames.1
  | cons first others =>
      cases others with
      | nil =>
          obtain ⟨_, afterName, hnameSize, hname, hafterName⟩ := Cursor.name?_spelled hspell
          simp only [hname, Cursor.take?_none_spelled hafterName hbegins hdot]
          exact htargets
      | cons second others =>
          simp only [Cursor.name?_none_spelled hspell (.lexeme _ _) (by simp)]
          exact htargets

theorem readSetTargets_attribute {space name : String}
    (hspell : Spell (targets [.attribute space name] ++ segments) cursor.rest) :
    Arrives (readSetTargets tagEnd cursor) (· = [.attribute space name]) segments := by
  obtain ⟨_, afterSpace, hspaceSize, hspace, hafterSpace⟩ := Cursor.name?_spelled hspell
  obtain ⟨_, afterDot, hdotSize, hdot, hafterDot⟩ := Cursor.take?_spelled hafterSpace
  unfold readSetTargets
  simp only [hspace, hdot]
  apply (Cursor.expectName_arrives tagEnd .attributeName hafterDot).bind
  rintro ⟨text, span⟩ next hsize rfl hnext
  exact Arrives.ok rfl hnext

theorem readSet_succeeds {setTargets : List SetTarget} {value : Expr}
    (hspell : Spell (targets setTargets ++ [punct .assign, .expr value]) tag.arguments.rest)
    (htargets : (∃ names, TargetNames names ∧ setTargets = names.map .name) ∨
      ∃ space name, setTargets = [.attribute space name]) (span : Span) :
    Succeeds (readSet tag) (fun read =>
      read.spanless = (Statement.complete (.set setTargets value span)).spanless) := by
  have hread : Arrives (readSetTargets tag.endSpan tag.arguments) (· = setTargets)
      [punct .assign, .expr value] := by
    rcases htargets with ⟨names, hnames, rfl⟩ | ⟨space, name, rfl⟩
    · exact readSetTargets_names tag.endSpan hnames hspell (.lexeme _ _) (by simp) (by simp)
    · exact readSetTargets_attribute tag.endSpan hspell
  apply hread.bind_succeeds
  rintro _ afterTargets htargetsSize rfl hafterTargets
  obtain ⟨_, afterAssign, hassignSize, hassign, hafterAssign⟩ :=
    Cursor.take?_spelled hafterTargets
  simp only [hassign]
  apply (Expr.readTuple_arrives tag.endSpan hafterAssign .nil (by decide) (by simp)
    (by simp)).bind_succeeds
  intro valueRead next hnextSize hvalue hnext
  apply (Cursor.expectEnd_succeeds hnext).bind
  intro _ _
  exact Succeeds.ok (by simp [Statement.spanless, Node.spanless, hvalue])

theorem readSet_succeeds_block {name : String} {filters : List FilterCall}
    (hname : name ∉ reservedWords)
    (hspell : Spell (word name :: pipeline filters) tag.arguments.rest) :
    Succeeds (readSet tag) (fun read =>
      read.spanless = (Statement.opens (.plain (.setBlock name filters))).spanless) := by
  obtain ⟨head, hhead, hbegins⟩ := begins_pipeline filters
  have hother : ∀ mark, mark ≠ .pipe → head ≠ some (.punct mark) := by
    rintro mark hmark rfl
    exact hmark (LexemeKind.punct.inj (hhead _ rfl))
  have hnames : TargetNames [name] := ⟨by simp, by simpa using hname⟩
  have hread := readSetTargets_names tag.endSpan hnames hspell hbegins
    (hother .comma (by decide)) (hother .dot (by decide))
  apply hread.bind_succeeds
  rintro _ afterName hnameSize rfl hafterName
  simp only [Cursor.take?_none_spelled hafterName hbegins (hother .assign (by decide))]
  apply (readFilters_arrives tag.endSpan hafterName).bind_succeeds
  intro filtersRead next hnextSize hfilters hnext
  apply (Cursor.expectEnd_succeeds hnext).bind
  intro _ _
  exact Succeeds.ok
    (by simp [Statement.spanless, Header.spanless, PlainHeader.spanless, hfilters])

/-! ### Openers of blocks -/

theorem readMacro_succeeds {name : String} {params : List Parameter}
    (hspell : Spell (word name :: parameters params) tag.arguments.rest) :
    Succeeds (readMacro tag) (fun read =>
      read.spanless = (Statement.opens (.plain (.macroBlock name params))).spanless) := by
  apply (Cursor.expectName_arrives tag.endSpan .macroName hspell).bind_succeeds
  rintro ⟨text, span⟩ afterName hnameSize rfl hafterName
  rw [← List.append_nil (parameters params)] at hafterName
  apply (readParameters_arrives tag.endSpan hafterName).bind_succeeds
  intro paramsRead next hnextSize hparams hnext
  apply (Cursor.expectEnd_succeeds hnext).bind
  intro _ _
  exact Succeeds.ok
    (by simp [Statement.spanless, Header.spanless, PlainHeader.spanless, hparams])

theorem readCall_succeeds {params : List Parameter} {callee : Expr} (hcall : callee.IsCall)
    (hspell : Spell (parameters params ++ [.call callee]) tag.arguments.rest) :
    Succeeds (readCall tag) (fun read =>
      read.spanless = (Statement.opens (.plain (.callBlock params callee))).spanless) := by
  have hparen : tag.arguments.kind? = some (.punct .lparen) :=
    Cursor.kind?_spelled hspell (.lexeme _ _)
  rw [readCall, if_pos hparen]
  apply (readParameters_arrives tag.endSpan hspell).bind_succeeds
  intro paramsRead afterParams hparamsSize hparams hafterParams
  generalize hlexemes : afterParams.rest = lexemes at hafterParams
  cases hafterParams with
  | call haccepted =>
      obtain ⟨value, next, hsize, hread, ⟨hvalue, callee, args, span, rfl⟩, hnext⟩ :=
        haccepted.leaves_read hcall hlexemes tag.endSpan
      have hend := Cursor.expectEnd_eq_ok ((Cursor.rest_eq_nil_iff next).1 hnext)
      refine ⟨.opens (.plain (.callBlock paramsRead (.call callee args span))), ?_, ?_⟩
      · simp only [readBlockCall, hread, bind, Except.bind, hend]
        rfl
      · simp [Statement.spanless, Header.spanless, PlainHeader.spanless, hparams, hvalue]

theorem readWith_succeeds {bindings : List (String × Expr)}
    (hspell : Spell (joined (bindings.map binding)) tag.arguments.rest) :
    Succeeds (readWith tag) (fun read =>
      read.spanless = (Statement.opens (.plain (.withBlock bindings))).spanless) := by
  apply (readBindings_succeeds tag.endSpan hspell).bind
  intro bindingsRead hbindings
  exact Succeeds.ok
    (by simp [Statement.spanless, Header.spanless, PlainHeader.spanless, hbindings])

theorem readFilterBlock_succeeds {first : FilterCall} {others : List FilterCall}
    (hspell : Spell (.filter first :: pipeline others) tag.arguments.rest) :
    Succeeds (readFilterBlock tag) (fun read =>
      read.spanless = (Statement.opens (.plain (.filterBlock (first :: others)))).spanless) := by
  obtain ⟨head, hhead, hbegins⟩ := begins_pipeline others
  apply (Expr.readFilter_arrives tag.endSpan hspell hbegins hhead).bind_succeeds
  intro firstRead afterFirst hfirstSize hfirst hafterFirst
  apply (readFilters_arrives tag.endSpan hafterFirst).bind_succeeds
  intro othersRead next hnextSize hothers hnext
  apply (Cursor.expectEnd_succeeds hnext).bind
  intro _ _
  exact Succeeds.ok
    (by simp [Statement.spanless, Header.spanless, PlainHeader.spanless, hfirst, hothers])

theorem readBlock_succeeds {name : String}
    (hspell : Spell [word name, optional ["scoped"], optional ["required"]]
      tag.arguments.rest) :
    Succeeds (readBlock tag) (fun read =>
      read.spanless = (Statement.opens (.plain (.block name))).spanless) := by
  apply (Cursor.expectName_arrives tag.endSpan .blockName hspell).bind_succeeds
  rintro ⟨text, span⟩ afterName hnameSize rfl hafterName
  obtain ⟨first, hfirst, hafterName⟩ := hafterName.exists_option []
  obtain ⟨second, hsecond, hafterName⟩ := hafterName.exists_option (first.map .lexeme)
  rw [List.append_nil] at hafterName
  have hscoped : second.head? ≠ some (.name "scoped") := by
    simp only [List.mem_cons, List.not_mem_nil, or_false] at hsecond
    rcases hsecond with rfl | rfl <;> simp
  have hafterScoped :=
    skipWord_spelled hfirst hafterName (Segment.begins_kinds second) hscoped
  rw [← List.append_nil (second.map Segment.lexeme)] at hafterScoped
  have hnext := skipWord_spelled hsecond hafterScoped .nil (by simp)
  dsimp only
  apply (Cursor.expectEnd_succeeds hnext).bind
  intro _ _
  exact Succeeds.ok rfl

/-! ### Other templates -/

theorem readExtends_succeeds {template : Expr} (hspell : Spell [.expr template] tag.arguments.rest)
    (span : Span) :
    Succeeds (readExtends tag) (fun read =>
      read.spanless = (Statement.complete (.extendTemplate template span)).spanless) := by
  apply (Expr.read_arrives tag.endSpan hspell .nil (by decide) (by simp)).bind_succeeds
  intro templateRead next hsize htemplate hnext
  apply (Cursor.expectEnd_succeeds hnext).bind
  intro _ _
  exact Succeeds.ok (by simp [Statement.spanless, Node.spanless, htemplate])

theorem readInclude_succeeds {template : Expr}
    (hspell : Spell [.expr template, optional ["ignore", "missing"], context]
      tag.arguments.rest) (span : Span) :
    Succeeds (readInclude tag) (fun read =>
      read.spanless = (Statement.complete (.includeTemplate template span)).spanless) := by
  obtain ⟨ignore, hignore, hspell⟩ := hspell.exists_option [.expr template]
  obtain ⟨modifier, hmodifier, hspell⟩ :=
    hspell.exists_option (.expr template :: ignore.map .lexeme)
  rw [List.append_nil] at hspell
  simp only [List.mem_cons, List.not_mem_nil, or_false] at hignore
  rcases hignore with rfl | rfl
  · have hhead : LexemeKind.endsOperation modifier.head? ∧
        modifier.head? ≠ some (.name "if") ∧ modifier.head? ≠ some (.name "ignore") := by
      simp only [contexts, List.mem_cons, List.not_mem_nil, or_false] at hmodifier
      rcases hmodifier with rfl | rfl | rfl <;> decide
    obtain ⟨hends, hif, hignore⟩ := hhead
    apply (Expr.read_arrives tag.endSpan hspell (Segment.begins_kinds modifier) hends
      fun _ => hif).bind_succeeds
    intro templateRead afterTemplate htemplateSize htemplate hafterTemplate
    have hnext := skipContext_spelled hmodifier hafterTemplate
    simp only [Cursor.take?_none_spelled hafterTemplate (Segment.begins_kinds modifier) hignore]
    apply (Cursor.expectEnd_succeeds hnext).bind
    intro _ _
    exact Succeeds.ok (by simp [Statement.spanless, Node.spanless, htemplate])
  · apply (Expr.read_arrives tag.endSpan hspell (.lexeme _ _) (by decide)
      (by simp)).bind_succeeds
    intro templateRead afterTemplate htemplateSize htemplate hafterTemplate
    obtain ⟨_, afterIgnore, hignoreSize, htake, hafterIgnore⟩ :=
      Cursor.take?_spelled hafterTemplate
    simp only [htake]
    apply (Cursor.expect_arrives tag.endSpan hafterIgnore).bind_succeeds
    intro _ afterMissing hmissingSize _ hafterMissing
    have hnext := skipContext_spelled hmodifier hafterMissing
    dsimp only
    apply (Cursor.expectEnd_succeeds hnext).bind
    intro _ _
    exact Succeeds.ok (by simp [Statement.spanless, Node.spanless, htemplate])

theorem readImport_succeeds {template : Expr} {name : String}
    (hspell : Spell [.expr template, word "as", word name, context] tag.arguments.rest)
    (span : Span) :
    Succeeds (readImport tag) (fun read =>
      read.spanless = (Statement.complete (.importTemplate template name span)).spanless) := by
  apply (Expr.read_arrives tag.endSpan hspell (.lexeme _ _) (by decide)
    (by simp)).bind_succeeds
  intro templateRead afterTemplate htemplateSize htemplate hafterTemplate
  apply (Cursor.expect_arrives tag.endSpan hafterTemplate).bind_succeeds
  intro _ afterAs hasSize _ hafterAs
  apply (Cursor.expectName_arrives tag.endSpan .importAlias hafterAs).bind_succeeds
  rintro ⟨text, textSpan⟩ afterName hnameSize rfl hafterName
  obtain ⟨modifier, hmodifier, hafterName⟩ := hafterName.exists_option []
  rw [List.nil_append, List.append_nil] at hafterName
  have hnext := skipContext_spelled hmodifier hafterName
  dsimp only
  apply (Cursor.expectEnd_succeeds hnext).bind
  intro _ _
  exact Succeeds.ok (by simp [Statement.spanless, Node.spanless, htemplate])

theorem readFrom_succeeds {template : Expr} {names : List ImportedName} (hnames : names ≠ [])
    (hspell : Spell (.expr template :: word "import" ::
      (joined (names.map importedName) ++ [context])) tag.arguments.rest) (span : Span) :
    Succeeds (readFrom tag) (fun read =>
      read.spanless = (Statement.complete (.importNames template names span)).spanless) := by
  apply (Expr.read_arrives tag.endSpan hspell (.lexeme _ _) (by decide)
    (by simp)).bind_succeeds
  intro templateRead afterTemplate htemplateSize htemplate hafterTemplate
  apply (Cursor.expect_arrives tag.endSpan hafterTemplate).bind_succeeds
  intro _ afterImport himportSize _ hafterImport
  obtain ⟨modifier, hmodifier, hafterImport⟩ := hafterImport.exists_option _
  rw [List.append_nil] at hafterImport
  have hhead : modifier.head? ≠ some (.name "as") ∧ modifier.head? ≠ some (.name "context") ∧
      modifier.head? ≠ some (.punct .comma) := by
    simp only [contexts, List.mem_cons, List.not_mem_nil, or_false] at hmodifier
    rcases hmodifier with rfl | rfl | rfl <;> simp
  apply (readImportedNames_arrives tag.endSpan hnames hafterImport
    (Segment.begins_kinds modifier) hhead).bind_succeeds
  rintro found afterNames hnamesSize rfl hafterNames
  have hsome : ¬found.isEmpty = true := by simpa using hnames
  have hnext := skipContext_spelled hmodifier hafterNames
  simp only [hsome]
  apply (Cursor.expectEnd_succeeds hnext).bind
  intro _ _
  exact Succeeds.ok (by simp [Statement.spanless, Node.spanless, htemplate])

theorem readDo_succeeds {expr : Expr} (hspell : Spell [.expr expr] tag.arguments.rest)
    (span : Span) :
    Succeeds (readDo tag) (fun read =>
      read.spanless = (Statement.complete (.evaluate expr span)).spanless) := by
  apply (Expr.readTuple_arrives tag.endSpan hspell .nil (by decide) (by simp)
    (by simp)).bind_succeeds
  intro exprRead next hsize hexpr hnext
  apply (Cursor.expectEnd_succeeds hnext).bind
  intro _ _
  exact Succeeds.ok (by simp [Statement.spanless, Node.spanless, hexpr])

end Statement

/-! ## Headers -/

theorem PlainHeader.segments_eq (header : PlainHeader) :
    ∃ segments, header.segments = word header.tagName :: segments := by
  cases header with
  | filterBlock filters => cases filters <;> exact ⟨_, rfl⟩
  | _ => exact ⟨_, rfl⟩

theorem PlainHeader.WellFormed.ofTag_succeeds {header : PlainHeader} {tag : Tag}
    (hheader : header.WellFormed) (htag : Spell header.segments tag.lexemes) :
    Succeeds (Statement.ofTag tag header.tagName)
      (fun read => read.spanless = (Statement.opens (.plain header)).spanless) := by
  cases header with
  | setBlock name filters =>
      exact Statement.readSet_succeeds_block hheader (Statement.arguments_spelled htag)
  | macroBlock name params =>
      exact Statement.readMacro_succeeds (Statement.arguments_spelled htag)
  | callBlock params callee =>
      exact Statement.readCall_succeeds hheader (Statement.arguments_spelled htag)
  | withBlock bindings => exact Statement.readWith_succeeds (Statement.arguments_spelled htag)
  | filterBlock filters =>
      cases filters with
      | nil => exact absurd rfl hheader
      | cons first others =>
          exact Statement.readFilterBlock_succeeds (Statement.arguments_spelled htag)
  | block name => exact Statement.readBlock_succeeds (Statement.arguments_spelled htag)

theorem Header.segments_eq (header : Header) :
    ∃ segments, header.segments = word header.tagName :: segments := by
  cases header with
  | plain header => exact header.segments_eq
  | _ => exact ⟨_, rfl⟩

theorem Header.tagName_mem (header : Header) :
    header.tagName ∈ ["if", "for", "set", "macro", "call", "with", "filter", "block"] := by
  cases header with
  | plain header => cases header <;> simp [Header.tagName, PlainHeader.tagName]
  | _ => simp [Header.tagName]

/-- The opener of a block is read back. -/
theorem Header.WellFormed.ofTag_succeeds {header : Header} {tag : Tag}
    (hheader : header.WellFormed) (htag : Spell header.segments tag.lexemes) :
    Succeeds (Statement.ofTag tag header.tagName)
      (fun read => read.spanless = (Statement.opens header).spanless) := by
  cases header with
  | conditional condition => exact Statement.readIf_succeeds (Statement.arguments_spelled htag)
  | loop names iterable condition recursive =>
      exact Statement.readLoop_succeeds hheader (Statement.arguments_spelled htag)
  | plain header => exact PlainHeader.WellFormed.ofTag_succeeds hheader htag

end TemplateVariables
