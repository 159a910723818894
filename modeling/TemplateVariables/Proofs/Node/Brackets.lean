import TemplateVariables.Proofs.Expr.Words
import TemplateVariables.Proofs.Node.TreeSteps

/-!
# Brackets in the tags of a template

A tag ends at a closer that may stand inside brackets: what is open there is counted, but
only an open brace keeps an expression tag going.  It is the readers of the tag that see to
its brackets.  As each of them closes what it opens and none leaves a lexeme behind, the
brackets of a tag are in pairs once the template has been read.
-/

namespace TemplateVariables

namespace LexemeKind

def isBracket : LexemeKind → Bool
  | .punct mark => mark.isOpening || mark.opening?.isSome
  | _ => false

/-- The brackets are in pairs, each pair around brackets that are in pairs themselves. -/
inductive Matched : List LexemeKind → Prop where
  | nil : Matched []
  | plain {kind : LexemeKind} {rest : List LexemeKind} (hplain : kind.isBracket = false)
      (hrest : Matched rest) : Matched (kind :: rest)
  | pair {opening closing : Punct} {inside rest : List LexemeKind}
      (hpair : closing.opening? = some opening) (hinside : Matched inside)
      (hrest : Matched rest) : Matched (.punct opening :: (inside ++ .punct closing :: rest))

/-- The lexemes close the open brackets, innermost first, and the brackets before, between
and behind these are in pairs. -/
def Answers : List Punct → List LexemeKind → Prop
  | [], kinds => Matched kinds
  | opening :: outer, kinds =>
      ∃ inside closing rest, kinds = inside ++ .punct closing :: rest ∧ Matched inside ∧
        closing.opening? = some opening ∧ Answers outer rest

variable {opened closed : List Punct} {kind : LexemeKind} {kinds rest : List LexemeKind}

theorem Answers.plain (hplain : kind.isBracket = false) (hrest : Answers opened rest) :
    Answers opened (kind :: rest) := by
  cases opened with
  | nil => exact Matched.plain hplain hrest
  | cons opening outer =>
      obtain ⟨inside, closing, behind, rfl, hinside, hpair, hbehind⟩ := hrest
      exact ⟨kind :: inside, closing, behind, rfl, .plain hplain hinside, hpair, hbehind⟩

theorem Answers.opening {mark : Punct} (hrest : Answers (mark :: opened) rest) :
    Answers opened (.punct mark :: rest) := by
  obtain ⟨inside, closing, behind, rfl, hinside, hpair, hbehind⟩ := hrest
  cases opened with
  | nil => exact Matched.pair hpair hinside hbehind
  | cons opening outer =>
      obtain ⟨more, closing', behind, rfl, hmore, hpair', hbehind⟩ := hbehind
      refine ⟨_, closing', behind, ?_, .pair hpair hinside hmore, hpair', hbehind⟩
      simp only [List.cons_append, List.append_assoc]

theorem answers_of_brackets? (hkinds : brackets? opened kinds = some []) :
    Answers opened kinds := by
  fun_induction brackets? opened kinds with
  | case1 opened =>
      obtain rfl := Option.some.inj hkinds
      exact Matched.nil
  | case2 opened mark rest hopening ih => exact (ih hkinds).opening
  | case3 opened mark rest hopening hclosing ih =>
      apply (ih hkinds).plain
      simp only [isBracket, hopening, hclosing, Option.isSome_none, Bool.or_false]
  | case4 => cases hkinds
  | case5 mark rest hopening opening outer hclosing ih =>
      exact ⟨[], mark, rest, rfl, .nil, hclosing, ih hkinds⟩
  | case6 => cases hkinds
  | case7 opened kind rest hkind ih =>
      apply (ih hkinds).plain
      cases kind with
      | punct mark => exact absurd rfl (hkind mark)
      | _ => rfl

theorem balanced_of_matched (hmatched : Matched kinds) : Balanced kinds := by
  induction hmatched with
  | nil => rfl
  | @plain kind rest hplain _ ih =>
      cases kind with
      | punct mark => cases mark <;> first | exact ih | cases hplain
      | _ => exact ih
  | @pair opening closing inside rest hpair _ _ hinside hrest =>
      have hopening : opening.isOpening = true := by
        cases closing <;> cases hpair <;> rfl
      have hclosing : brackets? [opening] (.punct closing :: rest) = some [] := by
        cases closing <;> cases hpair <;> exact hrest
      have hinside : brackets? [opening] inside = some [opening] :=
        brackets?_frame hinside [opening]
      unfold Balanced
      rw [brackets?, if_pos hopening, brackets?_append, hinside]
      exact hclosing

/-- A stack of brackets finds out whether they are in pairs. -/
theorem balanced_iff_matched : Balanced kinds ↔ Matched kinds :=
  ⟨answers_of_brackets?, balanced_of_matched⟩

instance (kinds : List LexemeKind) : Decidable (Matched kinds) :=
  decidable_of_iff (brackets? [] kinds = some []) balanced_iff_matched

/-- Brackets that answer each other are counted as they are. -/
theorem foldl_bracketsAfter (hkinds : brackets? opened kinds = some closed) :
    kinds.foldl bracketsAfter opened = closed := by
  fun_induction brackets? opened kinds <;> simp_all [bracketsAfter]

end LexemeKind

/-! ## Tags that are read -/

open LexemeKind

theorem balanced_of_takesAll {tagEnd : Span} {cursor : Cursor} {trees : List Subtree}
    (htakes : Statement.TakesAll tagEnd cursor trees) : Balanced cursor.kinds := by
  obtain ⟨next, hnext, htakes⟩ := htakes
  obtain ⟨used, hkinds, hused⟩ := htakes.closes
  have hend : next.kinds = [] := (Cursor.rest_eq_nil_iff next).1 hnext
  rw [hkinds, hend, List.append_nil]
  exact hused

theorem Token.Holds.balanced {token : Token} {trees : List Subtree}
    (hholds : token.Holds trees) : Balanced token.kinds := by
  cases token with
  | expression tag => exact balanced_of_takesAll hholds
  | block tag =>
      obtain ⟨⟨word, hname⟩, htakes⟩ := hholds
      rw [Tag.kinds_of_expectName hname]
      exact balanced_of_takesAll htakes
  | _ => rfl

namespace Building

theorem Steps.balanced {token : Token} {building next : Building}
    (hstep : Steps token building next) : Balanced token.kinds := by
  cases hstep with
  | add hholds => exact hholds.balanced
  | opens _ hholds => exact hholds.balanced
  | divide hholds => exact hholds.balanced
  | complete hholds => exact hholds.balanced

theorem Runs.balanced {building : Building} {tokens : List Token} {nodes : List Node}
    (hruns : Runs building tokens nodes) : ∀ token ∈ tokens, Balanced token.kinds := by
  induction hruns with
  | stop => exact List.forall_mem_nil _
  | step hstep _ ih => exact List.forall_mem_cons.2 ⟨hstep.balanced, ih⟩

end Building

/-- The tag closes what it opens, and no bracket is open where its closer stands. -/
structure Tag.Closed (tag : Tag) : Prop where
  matched : Matched (tag.lexemes.map Lexeme.kind)
  depth : (tag.lexemes.map Lexeme.kind).foldl bracketsAfter [] = []

theorem Token.closed_of_balanced {token : Token} (hkinds : Balanced token.kinds) :
    ∀ tag ∈ token.tag?, tag.Closed := by
  intro tag htag
  have hlexemes : token.kinds = tag.lexemes.map Lexeme.kind := by
    cases token <;> cases htag <;> rfl
  rw [hlexemes] at hkinds
  exact ⟨balanced_iff_matched.1 hkinds, foldl_bracketsAfter hkinds⟩

theorem Node.closed_of_ofSource {source : List Char} {nodes : List Node}
    (hok : Node.ofSource source = .ok nodes) :
    ∃ tokens, Token.ofChars source = .ok tokens ∧
      ∀ token ∈ tokens, ∀ tag ∈ token.tag?, tag.Closed := by
  rcases Node.exists_runs_of_ofSource hok with ⟨hblank, -⟩ | ⟨body, offset, htokens, hruns⟩
  · obtain ⟨tokens, htokens, hnone⟩ := Token.exists_of_blank (List.all_eq_true.1 hblank) 0 false
    refine ⟨tokens, htokens, fun token htoken tag htag => ?_⟩
    rw [hnone token htoken] at htag
    cases htag
  · refine ⟨_, htokens, List.forall_mem_append.2 ⟨?_, ?_⟩⟩
    · intro token htoken
      exact Token.closed_of_balanced (hruns.balanced token htoken)
    · intro token htoken tag htag
      obtain rfl := List.mem_singleton.1 htoken
      cases htag

/-- The closer of a block tag ends it whatever is open, and that of an expression tag ends it
unless a brace is the innermost open bracket. -/
theorem Delimiter.ending?_closer {delimiter : Delimiter} {brackets : List Punct}
    (hopen : delimiter ≠ .expression ∨ brackets.head? ≠ some .lbrace) (rest : List Char) :
    delimiter.ending? brackets (delimiter.closer ++ rest) = some (.preserve, rest) := by
  unfold Delimiter.ending?
  rw [if_neg (not_and_or.2 hopen)]
  cases delimiter <;> rfl

/-- In a template that is read the brackets of every tag are in pairs, and none is open at its
closer.  So a template with any other tag is rejected, although the tag itself may end inside
brackets: a block tag inside any, an expression tag inside all but braces. -/
theorem Node.ofSource_brackets (source : List Char) :
    (∀ nodes, Node.ofSource source = .ok nodes →
      ∃ tokens, Token.ofChars source = .ok tokens ∧
        ∀ token ∈ tokens, ∀ tag ∈ token.tag?, tag.Closed) ∧
    (∀ tokens, Token.ofChars source = .ok tokens →
      (∃ token ∈ tokens, ∃ tag ∈ token.tag?, ¬Matched (tag.lexemes.map Lexeme.kind)) →
        ∃ error, Node.ofSource source = .error error) ∧
    ∀ (delimiter : Delimiter) (brackets : List Punct) (rest : List Char),
      delimiter ≠ .expression ∨ brackets.head? ≠ some .lbrace →
        delimiter.ending? brackets (delimiter.closer ++ rest) = some (.preserve, rest) := by
  refine ⟨fun _ hok => Node.closed_of_ofSource hok, ?_, ?_⟩
  · rintro tokens htokens ⟨token, htoken, tag, htag, hcrossed⟩
    cases hsource : Node.ofSource source with
    | error error => exact ⟨error, rfl⟩
    | ok nodes =>
        obtain ⟨tokens', htokens', hclosed⟩ := Node.closed_of_ofSource hsource
        obtain rfl := Except.ok.inj (htokens.symm.trans htokens')
        exact absurd (hclosed token htoken tag htag).matched hcrossed
  · intro delimiter brackets rest hopen
    exact Delimiter.ending?_closer hopen rest

/-- A template that is read, with brackets in targets, calls, filters and literals; and two that
are not, though their tags are found: one tag ends inside a parenthesis, the brackets of the
other cross. -/
theorem Node.ofSource_brackets_crossed :
    let accepted := "\x7b% for a, (b, c) in d(\x7b'k': [1]\x7d)|f(2) %\x7d\x7b% endfor %\x7d".toList
    let ended := "\x7b% do (1 %\x7d".toList
    let crossed := "\x7b\x7b([)]\x7d\x7d".toList
    let endedTag : Tag :=
      { lexemes := [⟨.name "do", ⟨3, 2⟩⟩, ⟨.punct .lparen, ⟨6, 1⟩⟩, ⟨.number "1", ⟨7, 1⟩⟩]
        span := ⟨0, 11⟩
        inside := ⟨3, 5⟩
        left := .preserve
        right := .preserve }
    let crossedTag : Tag :=
      { lexemes := [⟨.punct .lparen, ⟨2, 1⟩⟩, ⟨.punct .lbracket, ⟨3, 1⟩⟩,
          ⟨.punct .rparen, ⟨4, 1⟩⟩, ⟨.punct .rbracket, ⟨5, 1⟩⟩]
        span := ⟨0, 8⟩
        inside := ⟨2, 4⟩
        left := .preserve
        right := .preserve }
    (∃ nodes, Node.ofSource accepted = .ok nodes) ∧
    (∃ tokens, Token.ofChars accepted = .ok tokens ∧
      ∀ token ∈ tokens, ∀ tag ∈ token.tag?, tag.Closed) ∧
    Token.ofChars ended = .ok [.block endedTag, .eof 11] ∧
    (∃ error, Node.ofSource ended = .error error) ∧
    Token.ofChars crossed = .ok [.expression crossedTag, .eof 8] ∧
    ∃ error, Node.ofSource crossed = .error error := by
  intro accepted ended crossed endedTag crossedTag
  have haccepted : ∃ nodes, Node.ofSource accepted = .ok nodes := by
    apply exists_eq_ok_of_isOk
    rw [Node.ofSource_eq_build]
    decide +kernel
  have hended : Token.ofChars ended = .ok [.block endedTag, .eof 11] := by decide +kernel
  have hcrossed : Token.ofChars crossed = .ok [.expression crossedTag, .eof 8] := by
    decide +kernel
  obtain ⟨nodes, hnodes⟩ := haccepted
  refine ⟨⟨nodes, hnodes⟩, (Node.ofSource_brackets accepted).1 nodes hnodes, hended, ?_,
    hcrossed, ?_⟩
  · exact (Node.ofSource_brackets ended).2.1 _ hended
      ⟨_, List.mem_cons_self, endedTag, rfl, by decide⟩
  · exact (Node.ofSource_brackets crossed).2.1 _ hcrossed
      ⟨_, List.mem_cons_self, crossedTag, rfl, by decide⟩

end TemplateVariables
