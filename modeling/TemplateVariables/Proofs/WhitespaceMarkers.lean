import TemplateVariables.Extraction
import TemplateVariables.Proofs.Node.Lockstep

/-!
# Whitespace markers do not change what a template says

A marker put at a side of a tag or of a comment trims or keeps white space and does
nothing else.  The template can still be cut into the same tokens, and it has the same
variables in the same order, or is refused with the same message.
-/

namespace TemplateVariables

open Text

/-- Markers neither make a blank source nor stand in one. -/
theorem Remarked.all_isBlank {source source' : List Char} (hmarks : Remarked source source') :
    source.all isBlank = source'.all isBlank := by
  have hopener (delimiter : Delimiter) (text : List Char) :
      (delimiter.opener ++ text).all isBlank = false := by
    cases delimiter <;> rfl
  induction hmarks with
  | nil => rfl
  | text hne hrun hrest ih => rw [List.all_append, List.all_append, ih]
  | comment => rw [hopener, hopener]
  | tag => rw [hopener, hopener]
  | raw => rw [hopener, hopener]

/-- Markers leave the tokens of a source their outlines. -/
theorem Remarked.exists_tokens {source source' : List Char} {tokens : List Token}
    (htokens : Token.ofChars source = .ok tokens) (hmarks : Remarked source source') :
    ∃ tokens', Token.ofChars source' = .ok tokens' ∧
      tokens'.filterMap Token.outline? = tokens.filterMap Token.outline? := by
  obtain ⟨outlines, hsource, hsource'⟩ := hmarks.exists_outlines
  obtain ⟨same, hsame, rfl⟩ := hsource 0 false
  obtain rfl : tokens = same := Except.ok.inj (htokens.symm.trans hsame)
  exact hsource' 0 false

theorem Node.ofSource_remarked {source source' : List Char} {tokens : List Token}
    (htokens : Token.ofChars source = .ok tokens) (hmarks : Remarked source source') :
    Agree (fun nodes nodes' => Node.collectAll nodes = Node.collectAll nodes')
      (Node.ofSource source') (Node.ofSource source) := by
  obtain ⟨tokens', htokens', houtlines⟩ := hmarks.exists_tokens htokens
  unfold Node.ofSource
  apply Agree.ite (by rw [hmarks.all_isBlank])
  · intro _
    exact Agree.ok rfl
  · intro _
    rw [htokens, htokens']
    exact Node.ofTokens_alike houtlines

theorem Extraction.ofResult_alike {reading reading' : Except ParseError (List Node)}
    (hreading : Agree (fun nodes nodes' => Node.collectAll nodes = Node.collectAll nodes')
      reading reading') (globals : Globals) :
    ofResult (reading >>= fun nodes => pure (freeVariables globals nodes)) =
      ofResult (reading' >>= fun nodes => pure (freeVariables globals nodes)) := by
  cases hreading with
  | @ok nodes nodes' hnodes =>
      have hfree : freeVariables globals nodes = freeVariables globals nodes' := by
        rw [freeVariables, freeVariables, hnodes]
      exact congrArg (fun names => ofResult (.ok names)) hfree
  | error hmessage => exact congrArg (Extraction.mk NameSet.empty) (congrArg some hmessage)

/-- Wherever markers are put at sides of tags that have none, and at sides of comments, the
tokens are the same but for text, what raw blocks contain, markers and spans, and so is what is
extracted. -/
theorem extractWith_remarked {source : List Char} {tokens : List Token}
    (htokens : Token.ofChars source = .ok tokens) :
    Remarked source source ∧
    ∀ source', Remarked source source' →
      (∃ tokens', Token.ofChars source' = .ok tokens' ∧
        tokens'.filterMap Token.outline? = tokens.filterMap Token.outline?) ∧
      ∀ globals, extractWith globals (String.ofList source') =
        extractWith globals (String.ofList source) := by
  refine ⟨Remarked.of_ofCharsFrom htokens, fun source' hmarks => ?_⟩
  refine ⟨hmarks.exists_tokens htokens, fun globals => ?_⟩
  unfold extractWith freeVariablesOf
  rw [String.toList_ofList, String.toList_ofList]
  exact Extraction.ofResult_alike (Node.ofSource_remarked htokens hmarks) globals

/-- Markers beside a brace, a number with a letter behind it, nothing at all, and the tags of a
raw block that contains an opener. -/
theorem extractWith_remarked_lookalikes :
    let tags := "\x7b\x7b\x7bb:1\x7d\x7d\x7d\x7b\x7b1e\x7d\x7d\x7b\x7b\x7d\x7d".toList
    let tags' := "\x7b\x7b-\x7bb:1\x7d+\x7d\x7d\x7b\x7b1e-\x7d\x7d\x7b\x7b-+\x7d\x7d".toList
    let source := " \x7b#-#\x7d\x7b%raw%\x7d \x7b\x7b\x7b%endraw%\x7d".toList ++ tags
    let source' := " \x7b#--#\x7d\x7b%+raw-%\x7d \x7b\x7b\x7b%endraw+%\x7d".toList ++ tags'
    ∃ tokens, Token.ofChars source = .ok tokens ∧ Remarked source source' ∧
      tokens.filterMap Token.outline? =
        [.comment, .raw,
          .expression [.punct .lbrace, .name "b", .punct .colon, .number "1", .punct .rbrace],
          .expression [.number "1", .name "e"], .expression [], .eof] ∧
      (∃ tokens', Token.ofChars source' = .ok tokens' ∧
        tokens'.filterMap Token.outline? = tokens.filterMap Token.outline?) ∧
      ∀ globals, extractWith globals (String.ofList source') =
        extractWith globals (String.ofList source) := by
  intro tags tags' source source'
  have hempty : Remarked "\x7b\x7b\x7d\x7d".toList "\x7b\x7b-+\x7d\x7d".toList := by
    have hscan : Tag.scan .expression 0 "\x7d\x7d".toList =
        .ok ⟨⟨[], ⟨0, 4⟩, ⟨2, 0⟩, .preserve, .preserve⟩, 4, []⟩ := by
      decide +kernel
    exact .tag (by decide) hscan (by decide) ⟨[], .trim, .keep, rfl, rfl, .inr rfl, .inr rfl⟩ .nil
  have hnumber : Remarked "\x7b\x7b1e\x7d\x7d\x7b\x7b\x7d\x7d".toList
      "\x7b\x7b1e-\x7d\x7d\x7b\x7b-+\x7d\x7d".toList := by
    have hscan : Tag.scan .expression 0 "1e\x7d\x7d\x7b\x7b\x7d\x7d".toList =
        .ok ⟨⟨[⟨.number "1", ⟨2, 1⟩⟩, ⟨.name "e", ⟨3, 1⟩⟩], ⟨0, 6⟩, ⟨2, 2⟩, .preserve, .preserve⟩,
          6, "\x7b\x7b\x7d\x7d".toList⟩ := by
      decide +kernel
    exact .tag (by decide) hscan (by decide)
      ⟨"1e".toList, .preserve, .trim, rfl, rfl, .inr rfl, .inr rfl⟩ hempty
  have hbrace : Remarked tags tags' := by
    have hscan : Tag.scan .expression 0
          "\x7bb:1\x7d\x7d\x7d\x7b\x7b1e\x7d\x7d\x7b\x7b\x7d\x7d".toList =
        .ok ⟨⟨[⟨.punct .lbrace, ⟨2, 1⟩⟩, ⟨.name "b", ⟨3, 1⟩⟩, ⟨.punct .colon, ⟨4, 1⟩⟩,
          ⟨.number "1", ⟨5, 1⟩⟩, ⟨.punct .rbrace, ⟨6, 1⟩⟩], ⟨0, 9⟩, ⟨2, 5⟩, .preserve, .preserve⟩,
          9, "\x7b\x7b1e\x7d\x7d\x7b\x7b\x7d\x7d".toList⟩ := by
      decide +kernel
    exact .tag (by decide) hscan (by decide)
      ⟨"\x7bb:1\x7d".toList, .trim, .keep, rfl, rfl, .inr rfl, .inr rfl⟩ hnumber
  have hraw : Remarked ("\x7b%raw%\x7d \x7b\x7b\x7b%endraw%\x7d".toList ++ tags)
      ("\x7b%+raw-%\x7d \x7b\x7b\x7b%endraw+%\x7d".toList ++ tags') := by
    have hopened : Tag.scan .block 0 ("raw%\x7d \x7b\x7b\x7b%endraw%\x7d".toList ++ tags) =
        .ok ⟨⟨[⟨.name "raw", ⟨2, 3⟩⟩], ⟨0, 7⟩, ⟨2, 3⟩, .preserve, .preserve⟩, 7,
          " \x7b\x7b\x7b%endraw%\x7d".toList ++ tags⟩ := by
      decide +kernel
    have hbreak : Piece.breakRaw? (" \x7b\x7b\x7b%endraw%\x7d".toList ++ tags) =
        some (" \x7b\x7b".toList, .preserve, .preserve, tags) := by
      decide +kernel
    have hmarks : Delimiter.block.Remarks .preserve .preserve
        ("raw%\x7d \x7b\x7b\x7b%endraw%\x7d".toList ++ tags)
        (" \x7b\x7b\x7b%endraw%\x7d".toList ++ tags)
        ("+raw-%\x7d \x7b\x7b\x7b%endraw+%\x7d".toList ++ tags')
        (" \x7b\x7b".toList ++ (Delimiter.block.opener ++ ("endraw+%\x7d".toList ++ tags'))) :=
      ⟨"raw".toList, .keep, .trim, rfl, rfl, .inr rfl, .inr rfl⟩
    have hclosing : Delimiter.block.Remarks .preserve .preserve
        ("endraw%\x7d".toList ++ tags) tags ("endraw+%\x7d".toList ++ tags') tags' :=
      ⟨"endraw".toList, .preserve, .keep, rfl, rfl, .inr rfl, .inr rfl⟩
    exact .raw hopened rfl hbreak rfl hmarks hclosing hbrace
  have hcomment : Remarked
      ("\x7b#-#\x7d\x7b%raw%\x7d \x7b\x7b\x7b%endraw%\x7d".toList ++ tags)
      ("\x7b#--#\x7d\x7b%+raw-%\x7d \x7b\x7b\x7b%endraw+%\x7d".toList ++ tags') :=
    @Remarked.comment ['-'] _ _ .preserve .trim (by decide +kernel) hraw
  have hmarks : Remarked source source' :=
    @Remarked.text [' '] _ _ (by decide) (by decide +kernel) hcomment
  have htokens : Token.ofChars source = .ok
      [.comment ⟨1, 5⟩, .raw " \x7b\x7b" ⟨6, 20⟩,
        .expression ⟨[⟨.punct .lbrace, ⟨28, 1⟩⟩, ⟨.name "b", ⟨29, 1⟩⟩, ⟨.punct .colon, ⟨30, 1⟩⟩,
          ⟨.number "1", ⟨31, 1⟩⟩, ⟨.punct .rbrace, ⟨32, 1⟩⟩], ⟨26, 9⟩, ⟨28, 5⟩, .preserve,
          .preserve⟩,
        .expression ⟨[⟨.number "1", ⟨37, 1⟩⟩, ⟨.name "e", ⟨38, 1⟩⟩], ⟨35, 6⟩, ⟨37, 2⟩, .preserve,
          .preserve⟩,
        .expression ⟨[], ⟨41, 4⟩, ⟨43, 0⟩, .preserve, .preserve⟩, .eof 45] := by
    decide +kernel
  obtain ⟨htokens', hextract⟩ := (extractWith_remarked htokens).2 source' hmarks
  exact ⟨_, htokens, hmarks, rfl, htokens', hextract⟩

end TemplateVariables
