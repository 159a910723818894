import TemplateVariables.Proofs.Expr.Rules

/-!
# Readers of single lexemes

What the readers below the rules use up, and that they do the same where further
lexemes come behind the ones that are left.  A reader looks at most one lexeme
past what it uses up, and that lexeme stays the same when lexemes are added
behind a closing bracket.
-/

namespace TemplateVariables

/-! ## What the readers of single lexemes use up -/

/-- How a connective is written. -/
def Connective.kinds : Connective → List LexemeKind
  | .operator op => op.kinds
  | .test => [.name "is"]

theorem Connective.kinds_of_ofKind? {kind : LexemeKind} {connective : Connective}
    (hkind : Connective.ofKind? kind = some connective) : connective.kinds = [kind] := by
  unfold Connective.ofKind? at hkind
  split at hkind <;> cases hkind <;> rfl

theorem UnaryOp.kind_of_ofKind? {kind : LexemeKind} {op : UnaryOp}
    (hkind : UnaryOp.ofKind? kind = some op) : op.kind = kind := by
  unfold UnaryOp.ofKind? at hkind
  split at hkind <;> cases hkind <;> rfl

namespace Cursor

variable {cursor next : Cursor}

theorem kinds_of_keyword? {word : String} {hsize : next.size < cursor.size}
    (hword : cursor.keyword? = some ⟨word, next, hsize⟩) :
    cursor.kinds = .name word :: .punct .assign :: next.kinds := by
  unfold keyword? at hword
  split at hword
  · cases hword
  next hname =>
  split at hword
  · cases hword
  next hassign =>
  cases hword
  rw [kinds_of_name? hname, kinds_of_take? hassign]

theorem kinds_of_unaryOp? {op : UnaryOp} {span : Span} {hsize : next.size < cursor.size}
    (hop : cursor.unaryOp? = some ⟨(op, span), next, hsize⟩) :
    cursor.kinds = op.kind :: next.kinds := by
  unfold unaryOp? at hop
  split at hop
  · cases hop
  next hnext =>
  obtain ⟨_, hkind, hstep⟩ := Option.map_eq_some_iff.1 hop
  cases hstep
  rw [UnaryOp.kind_of_ofKind? hkind]
  exact kinds_of_next? hnext

theorem kinds_of_connective {connective : Connective} {hsize : next.size < cursor.size}
    (hconnective : cursor.connective = .ok (some ⟨connective, next, hsize⟩)) :
    cursor.kinds = connective.kinds ++ next.kinds := by
  unfold Cursor.connective at hconnective
  split at hconnective
  · cases hconnective
  next hnext =>
  split at hconnective
  · next hnot =>
      split at hconnective
      · next hin =>
          cases hconnective
          rw [kinds_of_next? hnext, hnot, kinds_of_take? hin]
          rfl
      · cases hconnective
  · obtain ⟨_, hkind, hstep⟩ := Option.map_eq_some_iff.1 (Except.ok.inj hconnective)
    cases hstep
    rw [Connective.kinds_of_ofKind? hkind]
    exact kinds_of_next? hnext

theorem kinds_of_moreWords (cursor : Cursor) :
    cursor.kinds = ((moreWords cursor).value.flatMap fun word => [.punct .dot, .name word]) ++
      (moreWords cursor).next.kinds := by
  fun_induction moreWords cursor with
  | case1 => rfl
  | case2 => rfl
  | case3 cursor _ afterDot _ hdot word _ afterWord _ hword words after _ hmore ih =>
      rw [hmore] at ih
      rw [kinds_of_take? hdot, kinds_of_name? hword, ih]
      rfl

theorem kinds_of_expectDotted {tagEnd : Span} {role : NameRole} {name : DottedName}
    {span : Span} {hsize : next.size < cursor.size}
    (hname : cursor.expectDotted tagEnd role = .ok ⟨(name, span), next, hsize⟩) :
    cursor.kinds = DottedName.kinds name ++ next.kinds := by
  have hdotted : Ensures (cursor.expectDotted tagEnd role)
      (fun step => cursor.kinds = DottedName.kinds step.value.1 ++ step.next.kinds) := by
    unfold expectDotted
    apply (expectName_ensures tagEnd role).bind
    rintro ⟨⟨word, _⟩, afterWord, hwordSize⟩ ⟨-, hword⟩
    apply Ensures.ok
    rw [hword, kinds_of_moreWords afterWord]
    rfl
  exact hdotted.of_ok _ hname

theorem kinds_of_attributeName {tagEnd : Span} {name : String}
    {hsize : next.size < cursor.size}
    (hname : Parser.attributeName tagEnd cursor = .ok ⟨name, next, hsize⟩) :
    ∃ kind, (kind = .name name ∨ kind = .number name) ∧ cursor.kinds = kind :: next.kinds := by
  unfold Parser.attributeName at hname
  split at hname
  · cases hname
  next lexeme after hafterSize hnext =>
  obtain ⟨kind, span⟩ := lexeme
  dsimp only at hname
  split at hname <;> cases hname
  · exact ⟨_, .inl rfl, kinds_of_next? hnext⟩
  · exact ⟨_, .inr rfl, kinds_of_next? hnext⟩

theorem kinds_of_star {span : Span} {hsize : next.size < cursor.size}
    (hstar : (cursor.take? (.punct .star) <|> cursor.take? (.punct .power)) =
      some ⟨span, next, hsize⟩) :
    ∃ mark ∈ [Punct.star, .power], cursor.kinds = .punct mark :: next.kinds := by
  cases htake : cursor.take? (.punct .star) with
  | some step =>
      rw [htake] at hstar
      cases hstar
      exact ⟨.star, by decide, kinds_of_take? htake⟩
  | none =>
      rw [htake] at hstar
      exact ⟨.power, by decide, kinds_of_take? hstar⟩

theorem kinds_of_negates {negated : Bool} (hnot : Parser.Negates cursor negated next) :
    cursor.kinds = (if negated then [.name "not"] else []) ++ next.kinds := by
  cases negated with
  | true =>
      obtain ⟨span, hsize, hnot⟩ := hnot
      exact kinds_of_take? hnot
  | false =>
      obtain ⟨-, rfl⟩ := hnot
      rfl

/-- Adjacent strings are used up together, and no further one follows. -/
theorem kinds_of_moreStrings {text whole : String} {span wholeSpan : Span}
    {hsize : next.size < cursor.size + 1}
    (hmore : cursor.moreStrings text span = ⟨(whole, wholeSpan), next, hsize⟩) :
    ∃ texts : List String, cursor.kinds = texts.map .str ++ next.kinds ∧
      whole = texts.foldl (· ++ ·) text ∧ ∀ value, next.kinds.head? ≠ some (.str value) := by
  fun_induction moreStrings text span cursor generalizing next with
  | case1 text span cursor more moreSpan afterMore hmoreSize hnext result after hafter hrec ih =>
      cases hmore
      obtain ⟨texts, hkinds, hwhole, hhead⟩ := ih hrec
      refine ⟨more :: texts, ?_, hwhole, hhead⟩
      rw [kinds_of_next? hnext, hkinds]
      rfl
  | case2 text span cursor hnone =>
      cases hmore
      refine ⟨[], rfl, rfl, ?_⟩
      intro value hvalue
      obtain ⟨rest, hrest⟩ := List.head?_eq_some_iff.1 hvalue
      obtain ⟨valueSpan, after, hafter, hnext, -⟩ := next?_eq_some hrest
      exact hnone _ _ _ _ hnext

end Cursor

/-! ## Further lexemes behind -/

/-- Lexemes of the given kinds, with no places of their own. -/
def Lexeme.ofKinds (kinds : List LexemeKind) : List Lexeme :=
  kinds.map fun kind => ⟨kind, default⟩

@[simp] theorem Lexeme.map_kind_ofKinds (kinds : List LexemeKind) :
    (ofKinds kinds).map (·.kind) = kinds := by
  simp [ofKinds, Function.comp_def]

namespace Cursor

/-- The cursor with further lexemes behind the ones that are left. -/
def extend (cursor : Cursor) (extra : List Lexeme) : Cursor :=
  { cursor with rest := cursor.rest ++ extra }

theorem extend_nil (cursor : Cursor) : cursor.extend [] = cursor := by
  rw [extend, List.append_nil]

theorem kinds_extend (cursor : Cursor) (extra : List Lexeme) :
    (cursor.extend extra).kinds = cursor.kinds ++ extra.map (·.kind) :=
  List.map_append

end Cursor

/-- Nothing comes behind the lexemes, or a closing bracket is among them.  What comes
behind is then no part of what is read before the bracket. -/
def Shielded (extra : List Lexeme) (kinds : List LexemeKind) : Prop :=
  extra = [] ∨ ∃ mark : Punct, mark.opening?.isSome = true ∧ .punct mark ∈ kinds

/-- Nor does a further word of a dotted name come behind the lexemes. -/
def EndsName (extra : List Lexeme) (kinds : List LexemeKind) : Prop :=
  Shielded extra kinds ∨
    kinds = [] ∧ (extra.map (·.kind)).head? ≠ some (.punct .dot)

theorem Shielded.nil (kinds : List LexemeKind) : Shielded [] kinds :=
  .inl rfl

theorem Shielded.closing {mark : Punct} (hmark : mark.opening?.isSome = true)
    (extra : List Lexeme) (kinds : List LexemeKind) : Shielded extra (.punct mark :: kinds) :=
  .inr ⟨mark, hmark, List.mem_cons_self⟩

theorem Shielded.of_suffix {extra : List Lexeme} {kinds rest : List LexemeKind}
    (hshield : Shielded extra rest) (hsuffix : rest <:+ kinds) : Shielded extra kinds := by
  rcases hshield with rfl | ⟨mark, hmark, hmem⟩
  · exact .inl rfl
  · exact .inr ⟨mark, hmark, hsuffix.subset hmem⟩

theorem Shielded.of_cons {extra : List Lexeme} {kind : LexemeKind} {kinds : List LexemeKind}
    (hshield : Shielded extra (kind :: kinds))
    (hkind : ∀ mark, kind = .punct mark → mark.opening? = none) : Shielded extra kinds := by
  rcases hshield with rfl | ⟨mark, hmark, hmem⟩
  · exact .inl rfl
  · right
    rcases List.mem_cons.1 hmem with heq | hmem
    · rw [hkind mark heq.symm] at hmark
      contradiction
    · exact ⟨mark, hmark, hmem⟩

theorem Shielded.head?_append {extra : List Lexeme} {kinds : List LexemeKind}
    (hshield : Shielded extra kinds) :
    (kinds ++ extra.map (·.kind)).head? = kinds.head? := by
  rcases hshield with rfl | ⟨mark, -, hmem⟩
  · rw [List.map_nil, List.append_nil]
  · cases kinds with
    | nil => contradiction
    | cons kind rest => rfl

namespace Cursor

variable {cursor next : Cursor} {extra : List Lexeme} {kind : LexemeKind}

theorem head?_extend (hshield : Shielded extra cursor.kinds) :
    (cursor.extend extra).kinds.head? = cursor.kinds.head? := by
  rw [kinds_extend, hshield.head?_append]

theorem kind?_extend (hshield : Shielded extra cursor.kinds) :
    (cursor.extend extra).kind? = cursor.kind? := by
  rw [kind?_eq_head?, kind?_eq_head?, head?_extend hshield]

theorem atBareArgument_extend (hshield : Shielded extra cursor.kinds) :
    (cursor.extend extra).atBareArgument = cursor.atBareArgument := by
  rw [atBareArgument, kind?_extend hshield, atBareArgument]

theorem atListEnd_extend (hshield : Shielded extra cursor.kinds) :
    (cursor.extend extra).atListEnd = cursor.atListEnd := by
  rw [atListEnd, kind?_extend hshield, atListEnd]

theorem next?_extend (extra : List Lexeme) {lexeme : Lexeme} {hsize : next.size < cursor.size}
    (hnext : cursor.next? = some ⟨lexeme, next, hsize⟩) :
    ∃ hsize', (cursor.extend extra).next? = some ⟨lexeme, next.extend extra, hsize'⟩ := by
  obtain ⟨lexemes, lastStop⟩ := cursor
  cases lexemes with
  | nil => contradiction
  | cons first others =>
      cases hnext
      exact ⟨Nat.lt_succ_self _, rfl⟩

theorem next?_of_take? {span : Span} {hsize : next.size < cursor.size}
    (htake : cursor.take? kind = some ⟨span, next, hsize⟩) :
    cursor.next? = some ⟨⟨kind, span⟩, next, hsize⟩ := by
  unfold take? at htake
  split at htake
  · next hnext =>
      split at htake
      · next hkind =>
          cases htake
          rw [hnext, ← hkind]
      · contradiction
  · contradiction

theorem take?_extend (extra : List Lexeme) {span : Span} {hsize : next.size < cursor.size}
    (htake : cursor.take? kind = some ⟨span, next, hsize⟩) :
    ∃ hsize', (cursor.extend extra).take? kind = some ⟨span, next.extend extra, hsize'⟩ := by
  obtain ⟨hsize', hnext⟩ := next?_extend extra (next?_of_take? htake)
  exact ⟨hsize', by simp [take?, hnext]⟩

theorem head?_ne_of_take? (htake : cursor.take? kind = none) :
    cursor.kinds.head? ≠ some kind := by
  intro hkind
  obtain ⟨rest, hkinds⟩ := List.head?_eq_some_iff.1 hkind
  obtain ⟨_, _, _, hsome, -⟩ := take?_eq_some hkinds
  rw [htake] at hsome
  contradiction

theorem take?_extend_none (hshield : Shielded extra cursor.kinds)
    (htake : cursor.take? kind = none) : (cursor.extend extra).take? kind = none := by
  apply take?_eq_none
  rw [head?_extend hshield]
  exact head?_ne_of_take? htake

theorem next?_of_name? {text : String} {span : Span} {hsize : next.size < cursor.size}
    (hname : cursor.name? = some ⟨(text, span), next, hsize⟩) :
    cursor.next? = some ⟨⟨.name text, span⟩, next, hsize⟩ := by
  unfold name? at hname
  split at hname
  · next hnext =>
      cases hname
      exact hnext
  · contradiction

theorem name?_extend (extra : List Lexeme) {text : String} {span : Span}
    {hsize : next.size < cursor.size}
    (hname : cursor.name? = some ⟨(text, span), next, hsize⟩) :
    ∃ hsize', (cursor.extend extra).name? = some ⟨(text, span), next.extend extra, hsize'⟩ := by
  obtain ⟨hsize', hnext⟩ := next?_extend extra (next?_of_name? hname)
  exact ⟨hsize', by simp [name?, hnext]⟩

theorem name?_extend_none (hshield : Shielded extra cursor.kinds) (hname : cursor.name? = none) :
    (cursor.extend extra).name? = none := by
  apply name?_eq_none
  intro text htext
  rw [head?_extend hshield] at htext
  obtain ⟨rest, hkinds⟩ := List.head?_eq_some_iff.1 htext
  obtain ⟨_, _, _, hsome, -⟩ := name?_eq_some hkinds
  rw [hname] at hsome
  contradiction

theorem keyword?_extend (extra : List Lexeme) {word : String} {hsize : next.size < cursor.size}
    (hword : cursor.keyword? = some ⟨word, next, hsize⟩) :
    ∃ hsize', (cursor.extend extra).keyword? = some ⟨word, next.extend extra, hsize'⟩ := by
  unfold keyword? at hword
  split at hword
  · contradiction
  next hname =>
  split at hword
  · contradiction
  next hassign =>
  cases hword
  obtain ⟨hnameSize, hname⟩ := name?_extend extra hname
  obtain ⟨hassignSize, hassign⟩ := take?_extend extra hassign
  exact ⟨by omega, by simp [keyword?, hname, hassign]⟩

theorem keyword?_extend_none (hshield : Shielded extra cursor.kinds)
    (hword : cursor.keyword? = none) : (cursor.extend extra).keyword? = none := by
  unfold keyword? at hword
  split at hword
  · next hname => rw [keyword?, name?_extend_none hshield hname]
  next hname =>
  split at hword
  · next hassign =>
      have hkinds := kinds_of_name? hname
      rw [hkinds] at hshield
      obtain ⟨hnameSize, hname⟩ := name?_extend extra hname
      have hnone := take?_extend_none (hshield.of_cons (by simp)) hassign
      simp [keyword?, hname, hnone]
  · contradiction

theorem unaryOp?_extend (extra : List Lexeme) {op : UnaryOp} {span : Span}
    {hsize : next.size < cursor.size}
    (hop : cursor.unaryOp? = some ⟨(op, span), next, hsize⟩) :
    ∃ hsize', (cursor.extend extra).unaryOp? = some ⟨(op, span), next.extend extra, hsize'⟩ := by
  unfold unaryOp? at hop
  split at hop
  · contradiction
  next hnext =>
  obtain ⟨_, hkind, hstep⟩ := Option.map_eq_some_iff.1 hop
  cases hstep
  obtain ⟨hsize', hnext⟩ := next?_extend extra hnext
  exact ⟨hsize', by simp [unaryOp?, hnext, hkind]⟩

theorem unaryOp?_extend_none (hshield : Shielded extra cursor.kinds)
    (hop : cursor.unaryOp? = none) : (cursor.extend extra).unaryOp? = none := by
  rcases hshield with rfl | ⟨mark, -, hmem⟩
  · rw [extend_nil, hop]
  unfold unaryOp? at hop
  split at hop
  · next hnext =>
      cases hkinds : cursor.kinds with
      | nil => simp [hkinds] at hmem
      | cons kind rest =>
          obtain ⟨_, _, _, hsome, -⟩ := next?_eq_some hkinds
          rw [hnext] at hsome
          contradiction
  · next hnext =>
      obtain ⟨hsize', hnext⟩ := next?_extend extra hnext
      have hkind := Option.map_eq_none_iff.1 hop
      simp [unaryOp?, hnext, hkind]

theorem connective_extend (extra : List Lexeme) {connective : Connective}
    {hsize : next.size < cursor.size}
    (hconnective : cursor.connective = .ok (some ⟨connective, next, hsize⟩)) :
    ∃ hsize',
      (cursor.extend extra).connective = .ok (some ⟨connective, next.extend extra, hsize'⟩) := by
  unfold Cursor.connective at hconnective
  split at hconnective
  · cases hconnective
  next hnext =>
  split at hconnective
  · next hnot =>
      split at hconnective
      · next hin =>
          cases hconnective
          obtain ⟨hnextSize, hnext⟩ := next?_extend extra hnext
          obtain ⟨hinSize, hin⟩ := take?_extend extra hin
          exact ⟨by omega, by simp [Cursor.connective, hnext, hnot, hin]⟩
      · cases hconnective
  · next hnot =>
      obtain ⟨_, hkind, hstep⟩ := Option.map_eq_some_iff.1 (Except.ok.inj hconnective)
      cases hstep
      obtain ⟨hsize', hnext⟩ := next?_extend extra hnext
      exact ⟨hsize', by simp [Cursor.connective, hnext, hnot, hkind]⟩

theorem connective_extend_none (hshield : Shielded extra cursor.kinds)
    (hconnective : cursor.connective = .ok none) :
    (cursor.extend extra).connective = .ok none := by
  apply connective_eq_none
  rw [head?_extend hshield]
  intro kind hkind
  obtain ⟨rest, hkinds⟩ := List.head?_eq_some_iff.1 hkind
  obtain ⟨span, after, hafter, hnext, -⟩ := next?_eq_some hkinds
  unfold Cursor.connective at hconnective
  simp only [hnext] at hconnective
  split at hconnective
  · split at hconnective <;> cases hconnective
  · next hnot =>
      exact ⟨Option.map_eq_none_iff.1 (Except.ok.inj hconnective), hnot⟩

theorem star_extend (extra : List Lexeme) {span : Span} {hsize : next.size < cursor.size}
    (hstar : (cursor.take? (.punct .star) <|> cursor.take? (.punct .power)) =
      some ⟨span, next, hsize⟩) :
    ∃ hsize', ((cursor.extend extra).take? (.punct .star) <|>
      (cursor.extend extra).take? (.punct .power)) = some ⟨span, next.extend extra, hsize'⟩ := by
  obtain ⟨mark, hmark, hkinds⟩ := kinds_of_star hstar
  cases htake : cursor.take? (.punct .star) with
  | some step =>
      rw [htake] at hstar
      cases hstar
      obtain ⟨hsize', htake⟩ := take?_extend extra htake
      exact ⟨hsize', by rw [htake]; rfl⟩
  | none =>
      rw [htake] at hstar
      have hpower := kinds_of_take? hstar
      obtain ⟨hsize', hstar⟩ := take?_extend extra hstar
      have hnone : (cursor.extend extra).take? (.punct .star) = none := by
        apply take?_eq_none
        rw [kinds_extend, hpower]
        simp
      exact ⟨hsize', by rw [hnone, hstar]; rfl⟩

theorem star_extend_none (hshield : Shielded extra cursor.kinds)
    (hstar : (cursor.take? (.punct .star) <|> cursor.take? (.punct .power)) = none) :
    ((cursor.extend extra).take? (.punct .star) <|>
      (cursor.extend extra).take? (.punct .power)) = none := by
  cases htake : cursor.take? (.punct .star) with
  | some step =>
      rw [htake] at hstar
      contradiction
  | none =>
      rw [htake] at hstar
      rw [take?_extend_none hshield htake, take?_extend_none hshield hstar]
      rfl

theorem moreWords_extend {words : List String} {hsize : next.size < cursor.size + 1}
    (hends : EndsName extra next.kinds) (hwords : moreWords cursor = ⟨words, next, hsize⟩) :
    ∃ hsize', moreWords (cursor.extend extra) = ⟨words, next.extend extra, hsize'⟩ := by
  fun_induction moreWords cursor generalizing words next with
  | case1 cursor hdot =>
      cases hwords
      have hnone : (cursor.extend extra).take? (.punct .dot) = none := by
        rcases hends with hshield | ⟨hnil, hextra⟩
        · exact take?_extend_none hshield hdot
        · apply take?_eq_none
          rw [kinds_extend, hnil]
          exact hextra
      refine ⟨Nat.lt_succ_self _, ?_⟩
      rw [moreWords, hnone]
  | case2 cursor span afterDot hdotSize hdot hname =>
      cases hwords
      have hkinds := kinds_of_take? hdot
      have hshield : Shielded extra (.punct .dot :: afterDot.kinds) := by
        rcases hends with hshield | ⟨hnil, -⟩
        · rwa [hkinds] at hshield
        · rw [hkinds] at hnil
          contradiction
      refine ⟨Nat.lt_succ_self _, ?_⟩
      obtain ⟨hdotSize, hdot⟩ := take?_extend extra hdot
      have hnone := name?_extend_none (hshield.of_cons (by simp [Punct.opening?])) hname
      rw [moreWords, hdot]
      simp only [hnone]
  | case3 cursor span afterDot hdotSize hdot word wordSpan afterWord hwordSize hword others after
      hafter hmore ih =>
      cases hwords
      obtain ⟨hdotSize, hdot⟩ := take?_extend extra hdot
      obtain ⟨hwordSize, hword⟩ := name?_extend extra hword
      obtain ⟨hafterSize, hothers⟩ := ih hends hmore
      refine ⟨by omega, ?_⟩
      rw [moreWords, hdot]
      simp only [hword, hothers]

theorem expectDotted_extend (tagEnd' : Span) {tagEnd : Span} {role : NameRole}
    {name : DottedName} {span : Span} {hsize : next.size < cursor.size}
    (hends : EndsName extra next.kinds)
    (hname : cursor.expectDotted tagEnd role = .ok ⟨(name, span), next, hsize⟩) :
    ∃ hsize', (cursor.extend extra).expectDotted tagEnd' role =
      .ok ⟨(name, span), next.extend extra, hsize'⟩ := by
  have hdotted : Ensures (cursor.expectDotted tagEnd role) (fun step =>
      EndsName extra step.next.kinds → ∃ hsize', (cursor.extend extra).expectDotted tagEnd' role =
        .ok ⟨step.value, step.next.extend extra, hsize'⟩) := by
    unfold expectDotted
    apply (expectName_ensures tagEnd role).bind
    rintro ⟨⟨word, wordSpan⟩, afterWord, hwordSize⟩ ⟨hword, -⟩
    apply Ensures.ok
    intro hends
    obtain ⟨hwordSize, hword⟩ := name?_extend extra hword
    obtain ⟨hwordsSize, hwords⟩ := moreWords_extend hends rfl
    refine ⟨by omega, ?_⟩
    rw [expectName, hword]
    simp only [bind, Except.bind, hwords]
    rfl
  exact hdotted.of_ok _ hname hends

theorem attributeName_extend (extra : List Lexeme) {tagEnd tagEnd' : Span} {name : String}
    {hsize : next.size < cursor.size}
    (hname : Parser.attributeName tagEnd cursor = .ok ⟨name, next, hsize⟩) :
    ∃ hsize', Parser.attributeName tagEnd' (cursor.extend extra) =
      .ok ⟨name, next.extend extra, hsize'⟩ := by
  unfold Parser.attributeName at hname
  split at hname
  · cases hname
  next lexeme after hafterSize hnext =>
  obtain ⟨kind, span⟩ := lexeme
  obtain ⟨hsize', hnext⟩ := next?_extend extra hnext
  dsimp only at hname
  split at hname <;> cases hname <;>
    exact ⟨hsize', by simp [Parser.attributeName, hnext]⟩

theorem moreStrings_extend {text whole : String} {span wholeSpan : Span}
    {hsize : next.size < cursor.size + 1}
    (hhead : ∀ value, (next.extend extra).kinds.head? ≠ some (.str value))
    (hmore : cursor.moreStrings text span = ⟨(whole, wholeSpan), next, hsize⟩) :
    ∃ hsize', (cursor.extend extra).moreStrings text span =
      ⟨(whole, wholeSpan), next.extend extra, hsize'⟩ := by
  fun_induction moreStrings text span cursor generalizing next with
  | case1 text span cursor more moreSpan afterMore hmoreSize hnext result after hafter hrec ih =>
      cases hmore
      obtain ⟨hafterSize, hresult⟩ := ih hhead hrec
      obtain ⟨hnextSize, hnext⟩ := next?_extend extra hnext
      refine ⟨by omega, ?_⟩
      rw [moreStrings, hnext]
      simp only [hresult]
  | case2 text span cursor hnone =>
      cases hmore
      refine ⟨Nat.lt_succ_self _, ?_⟩
      rw [moreStrings]
      split
      · next hnext =>
          have hkinds := kinds_of_next? hnext
          rw [hkinds] at hhead
          exact absurd rfl (hhead _)
      · rfl

end Cursor

theorem Parser.Negates.extend {cursor start : Cursor} {negated : Bool} {extra : List Lexeme}
    (hshield : Shielded extra start.kinds) (hnot : Negates cursor negated start) :
    Negates (cursor.extend extra) negated (start.extend extra) := by
  cases negated with
  | true =>
      obtain ⟨span, hsize, hnot⟩ := hnot
      obtain ⟨hsize', hnot⟩ := Cursor.take?_extend extra hnot
      exact ⟨span, hsize', hnot⟩
  | false =>
      obtain ⟨hnot, rfl⟩ := hnot
      exact ⟨Cursor.take?_extend_none hshield hnot, rfl⟩

end TemplateVariables
