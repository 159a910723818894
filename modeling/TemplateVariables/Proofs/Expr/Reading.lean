import TemplateVariables.Expr.Parser

/-!
# Readers and the kinds of lexemes

Which lexemes a reader accepts depends on their kinds alone; spans only end up
in the tree and in errors.  The lemmas of this file describe every reader of a
cursor by the kinds that are left before and after it, so that a proof about
readers never mentions a span.
-/

namespace TemplateVariables

namespace Cursor

/-- The kinds of the lexemes that are left. -/
def kinds (cursor : Cursor) : List LexemeKind :=
  cursor.rest.map (·.kind)

@[simp] theorem kinds_ofLexemes (lexemes : List Lexeme) :
    (ofLexemes lexemes).kinds = lexemes.map (·.kind) := rfl

theorem kind?_eq_head? (cursor : Cursor) : cursor.kind? = cursor.kinds.head? := by
  rw [kind?, kinds, List.head?_map]

theorem rest_eq_nil_iff (cursor : Cursor) : cursor.rest = [] ↔ cursor.kinds = [] := by
  rw [kinds, List.map_eq_nil_iff]

variable {cursor : Cursor} {kind : LexemeKind} {rest : List LexemeKind}

theorem next?_eq_none (hkinds : cursor.kinds = []) : cursor.next? = none := by
  obtain ⟨lexemes, lastStop⟩ := cursor
  obtain rfl : lexemes = [] := by simpa [kinds] using hkinds
  rfl

theorem next?_eq_some (hkinds : cursor.kinds = kind :: rest) :
    ∃ span next hnext,
      cursor.next? = some ⟨⟨kind, span⟩, next, hnext⟩ ∧ next.kinds = rest := by
  obtain ⟨lexemes, lastStop⟩ := cursor
  obtain ⟨lexeme, others, rfl, rfl, rfl⟩ : ∃ lexeme others,
      lexemes = lexeme :: others ∧ lexeme.kind = kind ∧ others.map (·.kind) = rest := by
    simpa [kinds, List.map_eq_cons_iff] using hkinds
  exact ⟨lexeme.span, _, _, rfl, rfl⟩

theorem take?_eq_some (hkinds : cursor.kinds = kind :: rest) :
    ∃ span next hnext, cursor.take? kind = some ⟨span, next, hnext⟩ ∧ next.kinds = rest := by
  obtain ⟨span, next, hnext, hcursor, hrest⟩ := next?_eq_some hkinds
  exact ⟨span, next, hnext, by simp [take?, hcursor], hrest⟩

theorem take?_eq_none (hkind : cursor.kinds.head? ≠ some kind) : cursor.take? kind = none := by
  cases hkinds : cursor.kinds with
  | nil => simp [take?, next?_eq_none hkinds]
  | cons first rest =>
      obtain ⟨span, next, hnext, hcursor, _⟩ := next?_eq_some hkinds
      rw [hkinds] at hkind
      simpa [take?, hcursor] using hkind

theorem name?_eq_some {text : String} (hkinds : cursor.kinds = .name text :: rest) :
    ∃ span next hnext,
      cursor.name? = some ⟨(text, span), next, hnext⟩ ∧ next.kinds = rest := by
  obtain ⟨span, next, hnext, hcursor, hrest⟩ := next?_eq_some hkinds
  exact ⟨span, next, hnext, by simp [name?, hcursor], hrest⟩

theorem name?_eq_none (hkind : ∀ text, cursor.kinds.head? ≠ some (.name text)) :
    cursor.name? = none := by
  cases hkinds : cursor.kinds with
  | nil => simp [name?, next?_eq_none hkinds]
  | cons first rest =>
      obtain ⟨span, next, hnext, hcursor, _⟩ := next?_eq_some hkinds
      rw [hkinds] at hkind
      cases first <;> simp_all [name?]

theorem keyword?_eq_some {word : String}
    (hkinds : cursor.kinds = .name word :: .punct .assign :: rest) :
    ∃ next hnext, cursor.keyword? = some ⟨word, next, hnext⟩ ∧ next.kinds = rest := by
  obtain ⟨span, afterWord, hafterWord, hname, hwordKinds⟩ := name?_eq_some hkinds
  obtain ⟨_, next, hnext, htake, hrest⟩ := take?_eq_some hwordKinds
  have hsize : next.size < cursor.size := by omega
  exact ⟨next, hsize, by simp [keyword?, hname, htake], hrest⟩

theorem keyword?_eq_none (hkind : ∀ text, cursor.kinds.head? ≠ some (.name text)) :
    cursor.keyword? = none := by
  rw [keyword?, name?_eq_none hkind]

theorem kinds_of_next? {lexeme : Lexeme} {next : Cursor} {hnext : next.size < cursor.size}
    (hcursor : cursor.next? = some ⟨lexeme, next, hnext⟩) :
    cursor.kinds = lexeme.kind :: next.kinds := by
  obtain ⟨lexemes, lastStop⟩ := cursor
  cases lexemes with
  | nil => contradiction
  | cons first others =>
      cases hcursor
      rfl

theorem kinds_of_take? {span : Span} {next : Cursor} {hnext : next.size < cursor.size}
    (htake : cursor.take? kind = some ⟨span, next, hnext⟩) :
    cursor.kinds = kind :: next.kinds := by
  cases hcursor : cursor.next? with
  | none => simp [take?, hcursor] at htake
  | some step =>
      obtain ⟨lexeme, after, hafter⟩ := step
      by_cases hkind : lexeme.kind = kind
      · obtain ⟨rfl, rfl⟩ : lexeme.span = span ∧ after = next := by
          simpa [take?, hcursor, hkind] using htake
        rw [kinds_of_next? hcursor, hkind]
      · simp [take?, hcursor, hkind] at htake

theorem kinds_of_name? {text : String} {span : Span} {next : Cursor}
    {hnext : next.size < cursor.size} (hname : cursor.name? = some ⟨(text, span), next, hnext⟩) :
    cursor.kinds = .name text :: next.kinds := by
  cases hcursor : cursor.next? with
  | none => simp [name?, hcursor] at hname
  | some step =>
      obtain ⟨⟨kind, lexemeSpan⟩, after, hafter⟩ := step
      have hkinds := kinds_of_next? hcursor
      cases kind with
      | name word =>
          obtain ⟨⟨rfl, rfl⟩, rfl⟩ : (word = text ∧ lexemeSpan = span) ∧ after = next := by
            simpa [name?, hcursor] using hname
          exact hkinds
      | _ => simp [name?, hcursor] at hname

end Cursor

/-! ## What a reading yields -/

/-- The reading succeeds with a value of which `holds` is true, and leaves
lexemes of the kinds `rest`. -/
def Yields {α : Type} {bound : Nat} (reading : Reading α bound) (holds : α → Prop)
    (rest : List LexemeKind) : Prop :=
  ∃ value next hnext, reading = .ok ⟨value, next, hnext⟩ ∧ holds value ∧ next.kinds = rest

section Yields

variable {α β : Type} {bound bound' : Nat} {reading : Reading α bound}
  {holds : α → Prop} {rest : List LexemeKind}

theorem Yields.pure {value : α} {next : Cursor} {hnext : next.size < bound}
    (hvalue : holds value) (hrest : next.kinds = rest) :
    Yields (Except.ok ⟨value, next, hnext⟩ : Reading α bound) holds rest :=
  ⟨value, next, hnext, rfl, hvalue, hrest⟩

theorem Yields.bind {middle : List LexemeKind} {after : β → Prop}
    {continuation : Step α bound → Reading β bound'}
    (hreading : Yields reading holds middle)
    (hcontinuation : ∀ value next hnext, holds value → next.kinds = middle →
      Yields (continuation ⟨value, next, hnext⟩) after rest) :
    Yields (reading >>= continuation) after rest := by
  obtain ⟨value, next, hnext, rfl, hvalue, hmiddle⟩ := hreading
  exact hcontinuation value next hnext hvalue hmiddle

theorem Yields.mono {weaker : α → Prop} (hreading : Yields reading holds rest)
    (hweaker : ∀ value, holds value → weaker value) : Yields reading weaker rest := by
  obtain ⟨value, next, hnext, hok, hvalue, hrest⟩ := hreading
  exact ⟨value, next, hnext, hok, hweaker value hvalue, hrest⟩

end Yields

/-- If the reading succeeds at all, `holds` is true of the value. -/
structure Ensures {α : Type} (reading : Except ParseError α) (holds : α → Prop) : Prop where
  of_ok : ∀ value, reading = .ok value → holds value

section Ensures

variable {α β : Type} {reading : Except ParseError α} {holds : α → Prop}

theorem Ensures.ok {value : α} (hvalue : holds value) : Ensures (.ok value) holds := by
  constructor
  rintro _ ⟨⟩
  exact hvalue

theorem Ensures.error {error : ParseError} : Ensures (.error error) holds := by
  constructor
  rintro _ ⟨⟩

theorem Ensures.trivial : Ensures reading (fun _ => True) :=
  ⟨fun _ _ => True.intro⟩

theorem Ensures.bind {after : β → Prop} {continuation : α → Except ParseError β}
    (hreading : Ensures reading holds)
    (hcontinuation : ∀ value, holds value → Ensures (continuation value) after) :
    Ensures (reading >>= continuation) after := by
  cases reading with
  | error error => exact Ensures.error
  | ok value => exact hcontinuation value (hreading.of_ok value rfl)

theorem Ensures.and {others : α → Prop} (hreading : Ensures reading holds)
    (hothers : Ensures reading others) :
    Ensures reading (fun value => holds value ∧ others value) :=
  ⟨fun value hok => ⟨hreading.of_ok value hok, hothers.of_ok value hok⟩⟩

theorem Ensures.bind_congr {continuation other : α → Except ParseError β}
    (hreading : Ensures reading holds)
    (heq : ∀ value, holds value → continuation value = other value) :
    reading >>= continuation = reading >>= other := by
  cases reading with
  | error error => rfl
  | ok value => exact heq value (hreading.of_ok value rfl)

end Ensures

/-- The reading gives a value that `good` holds of, or an error that `bad` holds of. -/
structure Settles {α : Type} (reading : Except ParseError α) (good : α → Prop)
    (bad : ParseError → Prop) : Prop where
  of_ok : ∀ value, reading = .ok value → good value
  of_error : ∀ error, reading = .error error → bad error

namespace Settles

variable {α β : Type} {reading : Except ParseError α} {good good' : α → Prop}
  {bad bad' : ParseError → Prop}

theorem ok {value : α} (hvalue : good value) : Settles (.ok value) good bad where
  of_ok := by
    rintro _ ⟨⟩
    exact hvalue
  of_error := by
    rintro error ⟨⟩

theorem error {error : ParseError} (herror : bad error) : Settles (.error error) good bad where
  of_ok := by
    rintro value ⟨⟩
  of_error := by
    rintro _ ⟨⟩
    exact herror

theorem bind {after : β → Prop} {continuation : α → Except ParseError β}
    (hreading : Settles reading good bad)
    (hcontinuation : ∀ value, good value → Settles (continuation value) after bad) :
    Settles (reading >>= continuation) after bad := by
  cases reading with
  | ok value => exact hcontinuation value (hreading.of_ok value rfl)
  | error failure => exact error (hreading.of_error failure rfl)

theorem mono (hreading : Settles reading good bad) (hgood : ∀ value, good value → good' value)
    (hbad : ∀ error, bad error → bad' error) : Settles reading good' bad' where
  of_ok value hok := hgood value (hreading.of_ok value hok)
  of_error failure hfailure := hbad failure (hreading.of_error failure hfailure)

theorem and {more : α → Prop} (hreading : Settles reading good bad)
    (hmore : ∀ value, reading = .ok value → more value) :
    Settles reading (fun value => good value ∧ more value) bad where
  of_ok value hok := ⟨hreading.of_ok value hok, hmore value hok⟩
  of_error := hreading.of_error

theorem map {f : α → β} (hreading : Settles reading good bad) :
    Settles (reading.map f) (fun _ => True) bad := by
  cases reading with
  | ok value => exact ok trivial
  | error failure => exact error (hreading.of_error failure rfl)

end Settles

namespace Cursor

variable {cursor : Cursor} {kind : LexemeKind} {rest : List LexemeKind} (tagEnd : Span)

theorem expect_yields (hkinds : cursor.kinds = kind :: rest) :
    Yields (cursor.expect tagEnd kind) (fun _ => True) rest := by
  obtain ⟨span, next, hnext, htake, hrest⟩ := take?_eq_some hkinds
  exact ⟨span, next, hnext, by simp [expect, htake], trivial, hrest⟩

theorem expectInside_yields {mark : Punct} (bracket : Punct) (opened : Span)
    (hkinds : cursor.kinds = .punct mark :: rest) :
    Yields (cursor.expectInside tagEnd bracket opened mark) (fun _ => True) rest := by
  have hsome : cursor.rest ≠ [] := by
    rw [ne_eq, rest_eq_nil_iff, hkinds]
    exact List.cons_ne_nil _ _
  rw [expectInside, if_neg hsome]
  exact expect_yields tagEnd hkinds

theorem expectName_yields (role : NameRole) {text : String}
    (hkinds : cursor.kinds = .name text :: rest) :
    Yields (cursor.expectName tagEnd role) (fun name => name.1 = text) rest := by
  obtain ⟨span, next, hnext, hname, hrest⟩ := name?_eq_some hkinds
  exact ⟨(text, span), next, hnext, by simp [expectName, hname], rfl, hrest⟩

theorem moreWords_yields {words : List String}
    (hkinds : cursor.kinds =
      (words.flatMap fun word => [.punct .dot, .name word]) ++ rest)
    (hrest : rest.head? ≠ some (.punct .dot)) :
    (moreWords cursor).value = words ∧ (moreWords cursor).next.kinds = rest := by
  induction words generalizing cursor with
  | nil =>
      have hdot : cursor.take? (.punct .dot) = none := by
        apply take?_eq_none
        rw [hkinds]
        exact hrest
      rw [moreWords, hdot]
      exact ⟨rfl, hkinds⟩
  | cons word words ih =>
      rw [List.flatMap_cons, List.append_assoc] at hkinds
      obtain ⟨_, afterDot, hafterDot, hdot, hdotKinds⟩ := take?_eq_some hkinds
      obtain ⟨_, afterWord, hafterWord, hword, hwordKinds⟩ := name?_eq_some hdotKinds
      obtain ⟨hwords, hnext⟩ := ih hwordKinds
      rw [moreWords, hdot]
      simp only [hword]
      exact ⟨congrArg (List.cons word) hwords, hnext⟩

theorem expectDotted_yields (role : NameRole) {word : String} {words : List String}
    (hkinds : cursor.kinds =
      .name word :: ((words.flatMap fun word => [.punct .dot, .name word]) ++ rest))
    (hrest : rest.head? ≠ some (.punct .dot)) :
    Yields (cursor.expectDotted tagEnd role) (fun name => name.1 = word :: words) rest := by
  apply (expectName_yields tagEnd role hkinds).bind
  rintro ⟨text, span⟩ afterWord hafterWord rfl hafterKinds
  obtain ⟨hwords, hnext⟩ := moreWords_yields hafterKinds hrest
  exact Yields.pure (by simp [hwords]) hnext

theorem expectEnd_eq_ok (hkinds : cursor.kinds = []) : cursor.expectEnd = .ok () := by
  have hrest : cursor.rest = [] := (rest_eq_nil_iff cursor).mpr hkinds
  simp [expectEnd, hrest]

/-! ## Readings that end well -/

theorem expectName_ensures (role : NameRole) : Ensures (cursor.expectName tagEnd role)
    (fun step => cursor.name? = some step ∧
      cursor.kinds = .name step.value.1 :: step.next.kinds) := by
  constructor
  intro step hstep
  cases hname : cursor.name? with
  | none => simp [expectName, hname] at hstep
  | some named =>
      obtain rfl : named = step := by simpa [expectName, hname] using hstep
      exact ⟨rfl, kinds_of_name? hname⟩

theorem expectEnd_ensures : Ensures cursor.expectEnd (fun _ => cursor.kinds = []) := by
  constructor
  intro _ hend
  obtain ⟨lexemes, lastStop⟩ := cursor
  cases lexemes with
  | nil => rfl
  | cons lexeme others => contradiction

end Cursor

end TemplateVariables
