import TemplateVariables.Proofs.Expr.Context
import TemplateVariables.Proofs.Node.Targets

/-!
# Patterns of targets

The targets of a `for` or `set` tag are nested, but only their names are kept.  A list of
targets is read as the names at the leaves of its pattern, from left to right, and nothing
but a pattern is read as a list of targets.
-/

namespace TemplateVariables

/-! ## Patterns -/

mutual

/-- A name, or a pattern in parentheses. -/
inductive TargetItem where
  | name (word : String)
  | group (inside : TargetPattern)

/-- Items with commas between them; the last one may have a comma behind it too. -/
inductive TargetPattern where
  | last (item : TargetItem) (comma : Bool)
  | more (item : TargetItem) (others : TargetPattern)

end

mutual

def TargetItem.kinds : TargetItem → List LexemeKind
  | .name word => [.name word]
  | .group inside => .punct .lparen :: (inside.kinds ++ [.punct .rparen])

/-- How the pattern is written. -/
def TargetPattern.kinds : TargetPattern → List LexemeKind
  | .last item comma => item.kinds ++ (if comma then [.punct .comma] else [])
  | .more item others => item.kinds ++ .punct .comma :: others.kinds

end

mutual

def TargetItem.names : TargetItem → List String
  | .name word => [word]
  | .group inside => inside.names

/-- The names at the leaves of the pattern, from left to right. -/
def TargetPattern.names : TargetPattern → List String
  | .last item _ => item.names
  | .more item others => item.names ++ others.names

end

/-- The word ends no list of targets and is no word of the language. -/
def IsTargetName (word : String) : Prop :=
  word ∉ reservedWords ∧ word ≠ "recursive"
deriving Decidable

/-- What may stand behind a list of targets. -/
def EndsTargets (rest : List LexemeKind) : Prop :=
  ∀ kind ∈ rest.head?, kind = .name "in" ∨ kind = .punct .assign ∨ kind = .punct .rparen

section

variable {rest : List LexemeKind} {cursor : Cursor}

theorem EndsTargets.not_comma (hends : EndsTargets rest) : rest.head? ≠ some (.punct .comma) := by
  intro hcomma
  simpa using hends _ hcomma

theorem EndsTargets.atTargetsEnd (hends : EndsTargets rest) (hkinds : cursor.kinds = rest) :
    cursor.AtTargetsEnd := by
  rw [Cursor.AtTargetsEnd, Cursor.atListEnd, Cursor.kind?_eq_head?, hkinds]
  cases hhead : rest.head? with
  | none => exact .inr rfl
  | some kind =>
      obtain rfl | rfl | rfl := hends kind hhead
      · exact .inl rfl
      · exact .inr rfl
      · exact .inr rfl

theorem Cursor.not_atTargetsEnd_of_name {word : String} (hword : IsTargetName word)
    (hkinds : cursor.kinds.head? = some (.name word)) : ¬cursor.AtTargetsEnd := by
  rw [AtTargetsEnd, atListEnd, kind?_eq_head?, hkinds]
  obtain ⟨hreserved, hrecursive⟩ := hword
  simp only [reservedWords, List.mem_cons, not_or] at hreserved
  simp [hreserved, hrecursive]

theorem Cursor.not_atTargetsEnd_of_lparen (hkinds : cursor.kinds.head? = some (.punct .lparen)) :
    ¬cursor.AtTargetsEnd := by
  rw [AtTargetsEnd, atListEnd, kind?_eq_head?, hkinds]
  simp

end

theorem TargetItem.not_atTargetsEnd {item : TargetItem} {rest : List LexemeKind}
    {cursor : Cursor} (hnames : ∀ name ∈ item.names, IsTargetName name)
    (hkinds : cursor.kinds = item.kinds ++ rest) : ¬cursor.AtTargetsEnd := by
  cases item with
  | name word =>
      rw [TargetItem.names, List.forall_mem_singleton] at hnames
      exact Cursor.not_atTargetsEnd_of_name hnames (by rw [hkinds, TargetItem.kinds]; rfl)
  | group inside =>
      exact Cursor.not_atTargetsEnd_of_lparen (by rw [hkinds, TargetItem.kinds]; rfl)

theorem TargetPattern.not_atTargetsEnd {pattern : TargetPattern} {rest : List LexemeKind}
    {cursor : Cursor} (hnames : ∀ name ∈ pattern.names, IsTargetName name)
    (hkinds : cursor.kinds = pattern.kinds ++ rest) : ¬cursor.AtTargetsEnd := by
  cases pattern with
  | last item comma =>
      rw [TargetPattern.kinds, List.append_assoc] at hkinds
      exact TargetItem.not_atTargetsEnd hnames hkinds
  | more item others =>
      rw [TargetPattern.kinds, List.append_assoc] at hkinds
      rw [TargetPattern.names, List.forall_mem_append] at hnames
      exact TargetItem.not_atTargetsEnd hnames.1 hkinds

/-! ## Every pattern is read -/

mutual

theorem TargetItem.reads (item : TargetItem) {cursor : Cursor} {rest : List LexemeKind}
    (hnames : ∀ name ∈ item.names, IsTargetName name)
    (hkinds : cursor.kinds = item.kinds ++ rest) :
    ∃ next, ReadsTargets .one cursor item.names next ∧ next.kinds = rest := by
  cases item with
  | name word =>
      rw [TargetItem.kinds, List.singleton_append] at hkinds
      rw [TargetItem.names, List.forall_mem_singleton] at hnames
      obtain ⟨span, next, hnext, hword, hrest⟩ := Cursor.name?_eq_some hkinds
      rw [TargetItem.names]
      exact ⟨next, .name hword hnames.1, hrest⟩
  | group inside =>
      rw [TargetItem.kinds, List.cons_append, List.append_assoc] at hkinds
      rw [TargetItem.names] at hnames ⊢
      obtain ⟨opened, afterParen, hafterParen, hparen, hinside⟩ := Cursor.take?_eq_some hkinds
      have hends : EndsTargets ([.punct .rparen] ++ rest) := by
        rintro kind ⟨⟩
        exact .inr (.inr rfl)
      obtain ⟨afterNames, hreads, hclose⟩ := inside.reads hnames hinside hends
      obtain ⟨closed, next, hnext, htake, hrest⟩ := Cursor.take?_eq_some hclose
      exact ⟨next, .group hparen hreads htake, hrest⟩
termination_by structural item

/-- In front of what ends a list of targets, a pattern is read as its names. -/
theorem TargetPattern.reads (pattern : TargetPattern) {cursor : Cursor} {rest : List LexemeKind}
    (hnames : ∀ name ∈ pattern.names, IsTargetName name)
    (hkinds : cursor.kinds = pattern.kinds ++ rest) (hends : EndsTargets rest) :
    ∃ next, ReadsTargets .several cursor pattern.names next ∧ next.kinds = rest := by
  cases pattern with
  | last item comma =>
      rw [TargetPattern.kinds, List.append_assoc] at hkinds
      obtain ⟨afterItem, hitem, hafterItem⟩ := item.reads hnames hkinds
      rw [TargetPattern.names]
      cases comma with
      | false =>
          have hstop : afterItem.take? (.punct .comma) = none := by
            apply Cursor.take?_eq_none
            rw [hafterItem]
            exact hends.not_comma
          exact ⟨afterItem, .last hitem hstop, hafterItem⟩
      | true =>
          obtain ⟨_, next, hnext, hcomma, hrest⟩ := Cursor.take?_eq_some hafterItem
          exact ⟨next, .trailing hitem hcomma (hends.atTargetsEnd hrest), hrest⟩
  | more item others =>
      rw [TargetPattern.kinds, List.append_assoc] at hkinds
      rw [TargetPattern.names, List.forall_mem_append] at hnames
      obtain ⟨afterItem, hitem, hafterItem⟩ := item.reads hnames.1 hkinds
      obtain ⟨_, afterComma, _, hcomma, hothers⟩ := Cursor.take?_eq_some hafterItem
      obtain ⟨next, hreads, hrest⟩ := others.reads hnames.2 hothers hends
      have hend := others.not_atTargetsEnd hnames.2 hothers
      rw [TargetPattern.names]
      exact ⟨next, .more hitem hcomma hend hreads, hrest⟩
termination_by structural pattern

end

/-! ## Only patterns are read -/

/-- The rule reads a pattern without words of the language, whose names are these. -/
def TargetRule.Fringe (cursor : Cursor) (names : List String) (next : Cursor) :
    TargetRule → Prop
  | .one => ∃ item : TargetItem, (∀ name ∈ item.names, name ∉ reservedWords) ∧
      cursor.kinds = item.kinds ++ next.kinds ∧ names = item.names
  | .several => ∃ pattern : TargetPattern, (∀ name ∈ pattern.names, name ∉ reservedWords) ∧
      cursor.kinds = pattern.kinds ++ next.kinds ∧ names = pattern.names

theorem ReadsTargets.fringe {rule : TargetRule} {cursor next : Cursor} {names : List String}
    (hreads : ReadsTargets rule cursor names next) : rule.Fringe cursor names next := by
  induction hreads with
  | name hname hword =>
      exact ⟨.name _, List.forall_mem_singleton.2 hword, Cursor.kinds_of_name? hname, rfl⟩
  | group hopen _ hclose ih =>
      obtain ⟨pattern, hnames, hkinds, rfl⟩ := ih
      refine ⟨.group pattern, hnames, ?_, rfl⟩
      rw [Cursor.kinds_of_take? hopen, hkinds, Cursor.kinds_of_take? hclose, TargetItem.kinds,
        List.cons_append, List.append_assoc]
      rfl
  | last _ _ ih =>
      obtain ⟨item, hnames, hkinds, rfl⟩ := ih
      refine ⟨.last item false, hnames, ?_, rfl⟩
      rw [hkinds, TargetPattern.kinds, List.append_assoc]
      rfl
  | trailing _ hcomma _ ih =>
      obtain ⟨item, hnames, hkinds, rfl⟩ := ih
      refine ⟨.last item true, hnames, ?_, rfl⟩
      rw [hkinds, Cursor.kinds_of_take? hcomma, TargetPattern.kinds, List.append_assoc]
      rfl
  | more _ hcomma _ _ ih ihOthers =>
      obtain ⟨item, hnames, hkinds, rfl⟩ := ih
      obtain ⟨pattern, hmore, hafter, rfl⟩ := ihOthers
      refine ⟨.more item pattern, List.forall_mem_append.2 ⟨hnames, hmore⟩, ?_, rfl⟩
      rw [hkinds, Cursor.kinds_of_take? hcomma, hafter, TargetPattern.kinds, List.append_assoc]
      rfl

namespace Statement

/-! ## Targets are the fringe of their pattern -/

/-- Lists of targets are exactly the nested patterns, and what is read is the fringe of the
pattern, duplicates included.  No more than the pattern is used up. -/
theorem readTargets_fringe :
    (∀ (pattern : TargetPattern) (tagEnd : Span) (lexemes extra : List Lexeme) (cursor : Cursor),
      (∀ name ∈ pattern.names, IsTargetName name) →
      lexemes.map (·.kind) = pattern.kinds → cursor.rest = lexemes ++ extra →
      EndsTargets (extra.map (·.kind)) →
        Leaves (readTargets tagEnd cursor) (· = pattern.names) extra) ∧
    (∀ (tagEnd : Span) (cursor : Cursor) (step : Step (List String) cursor.size),
      readTargets tagEnd cursor = .ok step →
        ∃ (pattern : TargetPattern) (taken : List Lexeme),
          (∀ name ∈ pattern.names, name ∉ reservedWords) ∧
          taken.map (·.kind) = pattern.kinds ∧ cursor.rest = taken ++ step.next.rest ∧
          step.value = pattern.names) := by
  have hsuffix {tagEnd : Span} {cursor : Cursor} {step : Step (List String) cursor.size}
      (hok : readTargets tagEnd cursor = .ok step) : step.next.rest <:+ cursor.rest :=
    ((readTargets_reads tagEnd cursor).of_ok step hok).advances.suffix
  constructor
  · intro pattern tagEnd lexemes extra cursor hnames hwritten hrest hends
    have hkinds : cursor.kinds = pattern.kinds ++ extra.map (·.kind) := by
      rw [Cursor.kinds, hrest, List.map_append, hwritten]
    obtain ⟨next, hreads, hnext⟩ := pattern.reads hnames hkinds hends
    obtain ⟨hsize, hok⟩ := readTargets_gives tagEnd hreads
    refine ⟨pattern.names, next, hsize, hok, rfl, ?_⟩
    -- Both are ends of the same lexemes, and they are equally long.
    have hlength : next.rest.length = extra.length := by
      simpa [Cursor.kinds] using congrArg List.length hnext
    have hextra : extra <:+ cursor.rest := hrest ▸ List.suffix_append lexemes extra
    exact (List.suffix_of_suffix_length_le (hsuffix hok) hextra
      (Nat.le_of_eq hlength)).eq_of_length hlength
  · intro tagEnd cursor step hok
    obtain ⟨pattern, hnames, hkinds, hvalue⟩ :=
      ((readTargets_reads tagEnd cursor).of_ok step hok).fringe
    obtain ⟨taken, htaken⟩ := hsuffix hok
    refine ⟨pattern, taken, hnames, ?_, htaken.symm, hvalue⟩
    rw [Cursor.kinds, ← htaken, List.map_append] at hkinds
    exact List.append_cancel_right hkinds

/-- `((a, (b, a,),)), c,` in front of `in`. -/
theorem readTargets_fringe_nested :
    let at0 (kind : LexemeKind) : Lexeme := ⟨kind, Span.ofBounds 0 0⟩
    let lexemes := [.punct .lparen, .punct .lparen, .name "a", .punct .comma, .punct .lparen,
      .name "b", .punct .comma, .name "a", .punct .comma, .punct .rparen, .punct .comma,
      .punct .rparen, .punct .rparen, .punct .comma, .name "c", .punct .comma].map at0
    let extra := [.name "in", .name "rows"].map at0
    ∃ step, readTargets (Span.ofBounds 0 0) (.ofLexemes (lexemes ++ extra)) = .ok step ∧
      step.value = ["a", "b", "a", "c"] ∧ step.next.rest = extra ∧
      ∃ (pattern : TargetPattern) (taken : List Lexeme),
        (∀ name ∈ pattern.names, name ∉ reservedWords) ∧
        taken.map (·.kind) = pattern.kinds ∧ lexemes ++ extra = taken ++ step.next.rest ∧
        step.value = pattern.names := by
  intro at0 lexemes extra
  obtain ⟨names, next, hsize, hok, hnames, hnext⟩ := readTargets_fringe.1
    (.more (.group (.last (.group (.more (.name "a") (.last (.group
      (.more (.name "b") (.last (.name "a") true))) true))) false)) (.last (.name "c") true))
    (Span.ofBounds 0 0) lexemes extra (.ofLexemes (lexemes ++ extra))
    (by decide) rfl rfl (by rintro _ ⟨⟩; exact .inl rfl)
  exact ⟨_, hok, hnames, hnext, readTargets_fringe.2 _ _ _ hok⟩

end Statement

end TemplateVariables
