import TemplateVariables.Proofs.ExtractedNames
import TemplateVariables.Proofs.Token.Coverage

/-!
# Blank templates are no exception

A blank template is not cut into tokens at all.  Nobody can tell: cut into tokens it
gives one text, in which there is nothing to be wrong and no name to be read.  So an
extraction is the direct reading of a template, its tokens first, then their nodes and
then the free variables of these, or the message of the error that stops it, which is
never empty.
-/

namespace TemplateVariables

open Text

/-! ## Messages -/

theorem append_ne_empty {first : String} (hfirst : first ≠ "") (second : String) :
    first ++ second ≠ "" := by
  rw [Ne, String.append_eq_empty_iff]
  exact fun hboth => hfirst hboth.1

/-- Every message begins with a text of its own, whatever is quoted behind it. -/
theorem Fault.message_ne_empty (fault : Fault) : fault.message ≠ "" := by
  fun_cases Fault.message fault <;> (repeat apply append_ne_empty) <;> decide

theorem ParseError.message_ne_empty (error : ParseError) : error.message ≠ "" := by
  fun_cases ParseError.message error with
  | case7 fault => exact fault.message_ne_empty
  | _ =>
      repeat apply append_ne_empty
      decide

/-! ## Templates without delimiters -/

theorem Delimiter.ofChars?_eq_none {source : List Char}
    (hnone : ∀ delimiter : Delimiter, ¬delimiter.opener <+: source) :
    Delimiter.ofChars? source = none := by
  rw [Option.eq_none_iff_forall_ne_some]
  intro delimiter hdelimiter
  apply hnone delimiter
  rw [Delimiter.ofChars?_eq_some hdelimiter]
  exact List.prefix_append _ _

theorem Piece.plainRun_of_not_opener {source : List Char}
    (hnone : ∀ delimiter : Delimiter, ¬delimiter.opener <:+: source) :
    plainRun source = (source, []) := by
  induction source with
  | nil => rfl
  | cons c rest ih =>
      have hdelimiter := Delimiter.ofChars?_eq_none fun delimiter hprefix =>
        hnone delimiter hprefix.isInfix
      have hrest := ih fun delimiter hinfix => hnone delimiter (List.infix_cons hinfix)
      rw [plainRun, hdelimiter, hrest]

/-- Lone braces and signs are text like any other. -/
theorem Token.ofChars_of_not_opener {source : List Char} (hsource : source ≠ [])
    (hnone : ∀ delimiter : Delimiter, ¬delimiter.opener <:+: source) :
    Token.ofChars source =
      .ok [.text (String.ofList source) (Span.ofParts 0 (byteLength source)),
        .eof (Span.clamp (byteLength source))] := by
  have hdelimiter := Delimiter.ofChars?_eq_none fun delimiter hprefix =>
    hnone delimiter hprefix.isInfix
  have hpiece : Piece.ofChars 0 false source =
      .ok { token := some (.text (String.ofList source) (Span.ofParts 0 (byteLength source)))
            stop := byteLength source
            trimsNext := false
            rest := [] } := by
    rw [Piece.ofChars, hdelimiter, Piece.text, Piece.plainRun_of_not_opener hnone]
    simp [Piece.trimsPrevious, Piece.trimmed, hsource]
  rw [ofChars, ofCharsFrom_of_ne_nil hsource, hpiece]
  change (ofCharsFrom (byteLength source) false []).map _ = _
  rw [ofCharsFrom]
  rfl

/-- The nodes of a template by way of its tokens, blank or not. -/
def Node.ofMarkup (source : List Char) : Except ParseError (List Node) := do
  Node.ofTokens (← Token.ofChars source)

/-- Text alone is read without an error, and nothing in it is free. -/
theorem Node.ofMarkup_of_not_opener {source : List Char}
    (hnone : ∀ delimiter : Delimiter, ¬delimiter.opener <:+: source) :
    ∃ nodes, Node.ofMarkup source = .ok nodes ∧
      ∀ globals, freeVariables globals nodes = NameSet.empty := by
  by_cases hsource : source = []
  · subst hsource
    refine ⟨[], ?_, fun globals => rfl⟩
    rw [ofMarkup, Token.ofChars, Token.ofCharsFrom]
    change Node.ofTokens _ = _
    rw [Node.ofTokens_eq_build]
    rfl
  · refine ⟨[.text (String.ofList source) (Span.ofParts 0 (byteLength source))], ?_,
      fun globals => rfl⟩
    rw [ofMarkup, Token.ofChars_of_not_opener hsource hnone]
    change Node.ofTokens _ = _
    rw [Node.ofTokens_eq_build]
    rfl

theorem Delimiter.not_opener_of_blank {source : List Char} (hblank : source.all isBlank = true)
    (delimiter : Delimiter) : ¬delimiter.opener <:+: source := by
  intro hinfix
  have hbrace : '{' ∈ source := by
    apply hinfix.subset
    cases delimiter <;> decide
  exact absurd (List.all_eq_true.1 hblank '{' hbrace) (by decide)

/-! ## Extractions -/

theorem Node.ofSource_of_not_blank {source : List Char} (hblank : source.all isBlank = false) :
    Node.ofSource source = Node.ofMarkup source := by
  rw [ofSource, hblank]
  rfl

theorem Node.ofSource_of_blank {source : List Char} (hblank : source.all isBlank = true) :
    Node.ofSource source = .ok [] :=
  if_pos hblank

section Direct

variable {template : String}

/-- An error in the tokens or in the nodes is the error of the extraction. -/
theorem extractWith_of_ofMarkup_error {error : ParseError}
    (herror : Node.ofMarkup template.toList = .error error) (globals : Globals) :
    extractWith globals template = ⟨NameSet.empty, some error.message⟩ := by
  cases hblank : template.toList.all isBlank with
  | true =>
      obtain ⟨nodes, hnodes, -⟩ :=
        Node.ofMarkup_of_not_opener (Delimiter.not_opener_of_blank hblank)
      rw [hnodes] at herror
      cases herror
  | false =>
      rw [← Node.ofSource_of_not_blank hblank] at herror
      exact extractWith_of_error herror globals

theorem extractWith_of_ofMarkup_ok {nodes : List Node}
    (hok : Node.ofMarkup template.toList = .ok nodes) (globals : Globals) :
    extractWith globals template = ⟨freeVariables globals nodes, none⟩ := by
  cases hblank : template.toList.all isBlank with
  | true =>
      -- The nodes of a blank template are not those of its tokens, but neither have variables.
      obtain ⟨texts, htexts, hnone⟩ :=
        Node.ofMarkup_of_not_opener (Delimiter.not_opener_of_blank hblank)
      obtain rfl : texts = nodes := Except.ok.inj (htexts.symm.trans hok)
      rw [extractWith_of_ok (Node.ofSource_of_blank hblank), hnone globals]
      rfl
  | false =>
      rw [← Node.ofSource_of_not_blank hblank] at hok
      exact extractWith_of_ok hok globals

end Direct

/-- Extraction is direct reading: it has the message of the error that stops the reading,
which is not empty, or else the free variables of the nodes.  That blank templates are not
read conceals neither an error nor a variable, and no other template has other nodes for it.
A template without openers has no variables. -/
theorem extractWith_ofMarkup (globals : Globals) (template : String) :
    (∀ error, Node.ofMarkup template.toList = .error error →
      extractWith globals template = { names := NameSet.empty, error := some error.message } ∧
        error.message ≠ "") ∧
    (∀ nodes, Node.ofMarkup template.toList = .ok nodes →
      extractWith globals template = { names := freeVariables globals nodes, error := none }) ∧
    (template.toList.all isBlank = true → ∃ nodes, Node.ofMarkup template.toList = .ok nodes ∧
      freeVariables globals nodes = NameSet.empty) ∧
    (template.toList.all isBlank = false →
      Node.ofSource template.toList = Node.ofMarkup template.toList) ∧
    ((∀ delimiter : Delimiter, ¬delimiter.opener <:+: template.toList) →
      extractWith globals template = { names := NameSet.empty, error := none }) := by
  refine ⟨fun error herror => ?_, fun nodes hok => extractWith_of_ofMarkup_ok hok globals,
    fun hblank => ?_, Node.ofSource_of_not_blank, fun hnone => ?_⟩
  · exact ⟨extractWith_of_ofMarkup_error herror globals, error.message_ne_empty⟩
  · obtain ⟨nodes, hnodes, hempty⟩ :=
      Node.ofMarkup_of_not_opener (Delimiter.not_opener_of_blank hblank)
    exact ⟨nodes, hnodes, hempty globals⟩
  · obtain ⟨nodes, hnodes, hempty⟩ := Node.ofMarkup_of_not_opener hnone
    rw [extractWith_of_ofMarkup_ok hnodes globals, hempty globals]

/-- An unknown tag behind white space, a promised name, white space alone, and lone braces. -/
theorem extractWith_ofMarkup_lookalikes :
    let globals := Globals.ofNames ["site"]
    (∃ error, Node.ofMarkup " \x7b%x%\x7d".toList = .error error ∧
      extractWith globals " \x7b%x%\x7d" =
        { names := NameSet.empty, error := some error.message } ∧ error.message ≠ "") ∧
    (∃ nodes, Node.ofMarkup "\x7b\x7bsite.a+b\x7d\x7d".toList = .ok nodes ∧
      extractWith globals "\x7b\x7bsite.a+b\x7d\x7d" =
        { names := freeVariables globals nodes, error := none }) ∧
    (" \u3000\n".toList.all isBlank = true ∧
      ∃ nodes, Node.ofMarkup " \u3000\n".toList = .ok nodes ∧
        freeVariables globals nodes = NameSet.empty) ∧
    (" \x7b%x%\x7d".toList.all isBlank = false ∧
      Node.ofSource " \x7b%x%\x7d".toList = Node.ofMarkup " \x7b%x%\x7d".toList) ∧
    ((∀ delimiter : Delimiter, ¬delimiter.opener <:+: "\x7b \x7d\x7d \x7b".toList) ∧
      extractWith globals "\x7b \x7d\x7d \x7b" =
        { names := NameSet.empty, error := none }) := by
  intro globals
  obtain ⟨hunknown, -, -, hmarked, -⟩ := extractWith_ofMarkup globals " \x7b%x%\x7d"
  obtain ⟨-, hread, -⟩ := extractWith_ofMarkup globals "\x7b\x7bsite.a+b\x7d\x7d"
  obtain ⟨-, -, hwhite, -⟩ := extractWith_ofMarkup globals " \u3000\n"
  obtain ⟨-, -, -, -, hbraces⟩ := extractWith_ofMarkup globals "\x7b \x7d\x7d \x7b"
  have hfails : (Node.ofMarkup " \x7b%x%\x7d".toList).isOk = false := by
    simp only [Node.ofMarkup, Node.ofTokens_eq_build]
    decide +kernel
  have hsucceeds : (Node.ofMarkup "\x7b\x7bsite.a+b\x7d\x7d".toList).isOk = true := by
    simp only [Node.ofMarkup, Node.ofTokens_eq_build]
    decide +kernel
  have hblank : " \u3000\n".toList.all isBlank = true := by decide
  have htag : " \x7b%x%\x7d".toList.all isBlank = false := by decide
  have hlone : ∀ delimiter : Delimiter,
      ¬delimiter.opener <:+: "\x7b \x7d\x7d \x7b".toList := by
    rintro (_ | _ | _) <;> decide
  refine ⟨?_, ?_, ⟨hblank, hwhite hblank⟩, ⟨htag, hmarked htag⟩, ⟨hlone, hbraces hlone⟩⟩
  · cases herror : Node.ofMarkup " \x7b%x%\x7d".toList with
    | error error => exact ⟨error, rfl, hunknown error herror⟩
    | ok nodes =>
        rw [herror] at hfails
        cases hfails
  · cases hok : Node.ofMarkup "\x7b\x7bsite.a+b\x7d\x7d".toList with
    | error error =>
        rw [hok] at hsucceeds
        cases hsucceeds
    | ok nodes => exact ⟨nodes, rfl, hread nodes hok⟩

end TemplateVariables
