import TemplateVariables.Proofs.Token.RawBlocks
import TemplateVariables.Proofs.Token.Shifting

/-!
# Sources one behind the other

A tag, a comment or a raw block is cut from its source without a look at what stands
behind it.  A source that ends in one of them, without a dash there, can therefore be
cut by itself: what follows it gives the tokens that it gives alone, moved behind it.
-/

namespace TemplateVariables

open Text

/-! ## Pieces in front of more text -/

theorem Text.strip?_append_eq_none {piece text : List Char} (hstrip : strip? piece text = none)
    (hlength : piece.length ≤ text.length) (more : List Char) :
    strip? piece (text ++ more) = none := by
  rw [Option.eq_none_iff_forall_ne_some]
  intro rest hmore
  have hsplit := strip?_eq_some_iff.1 hmore
  obtain ⟨others, hothers⟩ : piece <+: text :=
    List.prefix_of_prefix_length_le ⟨rest, hsplit.symm⟩ ⟨more, rfl⟩ hlength
  rw [strip?_eq_some_iff.2 hothers.symm] at hstrip
  cases hstrip

theorem Text.breakOn?_append_more {piece text before after : List Char}
    (hbreak : breakOn? piece text = some (before, after)) (more : List Char) :
    breakOn? piece (text ++ more) = some (before, after ++ more) := by
  induction text generalizing before with
  | nil =>
      obtain ⟨_, hstrip, hpair⟩ := Option.map_eq_some_iff.1 hbreak
      cases hpair
      obtain ⟨rfl, rfl⟩ := List.append_eq_nil_iff.1 (strip?_eq_some_iff.1 hstrip).symm
      cases more <;> rfl
  | cons c text ih =>
      have hlength := congrArg List.length (breakOn?_append hbreak)
      simp only [List.length_append] at hlength
      simp only [breakOn?] at hbreak
      split at hbreak
      · next hstrip =>
          cases hbreak
          rw [List.cons_append, breakOn?, ← List.cons_append, strip?_eq_some_iff.1 hstrip,
            List.append_assoc, strip?_eq_some_iff.2 rfl]
      · next hstrip =>
          obtain ⟨⟨_, _⟩, hrest, hpair⟩ := Option.map_eq_some_iff.1 hbreak
          cases hpair
          rw [List.cons_append, breakOn?, ← List.cons_append,
            strip?_append_eq_none hstrip (by omega), ih hrest]
          rfl

namespace Delimiter

theorem ofChars?_cons_cons (c d : Char) (rest rest' : List Char) :
    ofChars? (c :: d :: rest) = ofChars? (c :: d :: rest') := by
  unfold ofChars?
  split <;> simp_all

end Delimiter

namespace Piece

theorem breakRaw?_append {source content rest : List Char} {left right : Marker}
    (hbreak : breakRaw? source = some (content, left, right, rest)) (more : List Char) :
    breakRaw? (source ++ more) = some (content, left, right, rest ++ more) := by
  obtain ⟨text, rfl, hend, hnone⟩ := breakRaw?_eq_some_iff.1 hbreak
  obtain ⟨body, hname, rfl⟩ := rawEnd?_eq_some_iff.1 hend
  have hmore : Delimiter.block.opener ++ body.written .block left right rest ++ more =
      Delimiter.block.opener ++ body.written .block left right (rest ++ more) := by
    simp [TagBody.written, Delimiter.tail]
  refine breakRaw?_eq_some_iff.2 ⟨_, ?_, rawEnd?_eq_some_iff.2 ⟨body, hname, rfl⟩, ?_⟩
  · rw [List.append_assoc, hmore]
  · rw [List.append_assoc]
    exact noneBefore_append_brace hnone _

theorem plainRun_append_more {source : List Char} (hsource : (plainRun source).2 ≠ [])
    (more : List Char) :
    plainRun (source ++ more) = ((plainRun source).1, (plainRun source).2 ++ more) := by
  induction source with
  | nil => exact absurd rfl hsource
  | cons c rest ih =>
      cases hdelimiter : Delimiter.ofChars? (c :: rest) with
      | some delimiter =>
          have hmore : Delimiter.ofChars? (c :: (rest ++ more)) = some delimiter := by
            rw [← List.cons_append, Delimiter.ofChars?_eq_some hdelimiter, List.append_assoc,
              Delimiter.ofChars?_opener_append]
          simp only [List.cons_append, plainRun, hdelimiter, hmore]
      | none =>
          simp only [plainRun, hdelimiter] at hsource
          have hmore : Delimiter.ofChars? (c :: (rest ++ more)) = none := by
            cases rest with
            | nil => exact absurd rfl hsource
            | cons d rest => rw [← hdelimiter, List.cons_append, Delimiter.ofChars?_cons_cons]
          simp only [List.cons_append, plainRun, hdelimiter, hmore, ih hsource]

theorem piece_append {delimiter : Delimiter} {scanned : Scanned} {piece : Piece}
    (hpiece : scanned.piece delimiter = .ok piece) (more : List Char) :
    Scanned.piece { scanned with rest := scanned.rest ++ more } delimiter =
      .ok { piece with rest := piece.rest ++ more } := by
  unfold Scanned.piece at hpiece ⊢
  split at hpiece
  · next hopens =>
      rw [if_pos hopens]
      unfold raw at hpiece ⊢
      split at hpiece
      · cases hpiece
      · next hbreak =>
          cases hpiece
          dsimp only
          rw [breakRaw?_append hbreak]
          simp only [byteLength_append, Nat.add_sub_add_right]
  · next hopens =>
      rw [if_neg hopens]
      cases hpiece
      rfl

theorem trimsNext_piece {delimiter : Delimiter} {scanned : Scanned} {piece : Piece}
    (hpiece : scanned.piece delimiter = .ok piece) {tag : Tag}
    (htag : piece.token = some (.block tag) ∨ piece.token = some (.expression tag)) :
    piece.trimsNext = (tag.right == .trim) := by
  unfold Scanned.piece at hpiece
  split at hpiece
  · unfold raw at hpiece
    split at hpiece <;> cases hpiece
    rcases htag with htag | htag <;> cases htag
  · cases hpiece
    cases delimiter <;> rcases htag with htag | htag <;> cases htag <;> rfl

theorem trimsNext_of_tag {start : Nat} {trimsStart : Bool} {source : List Char} {piece : Piece}
    (hpiece : ofChars start trimsStart source = .ok piece) {tag : Tag}
    (htag : piece.token = some (.block tag) ∨ piece.token = some (.expression tag)) :
    piece.trimsNext = (tag.right == .trim) := by
  cases hdelimiter : Delimiter.ofChars? source with
  | none =>
      unfold ofChars at hpiece
      rw [hdelimiter] at hpiece
      cases hpiece
      simp [text] at htag
  | some delimiter =>
      obtain ⟨inside, rfl⟩ : ∃ inside, source = delimiter.opener ++ inside :=
        ⟨_, Delimiter.ofChars?_eq_some hdelimiter⟩
      by_cases hcomment : delimiter = .comment
      · subst hcomment
        change comment start inside = _ at hpiece
        unfold comment at hpiece
        split at hpiece <;> cases hpiece
        rcases htag with htag | htag <;> cases htag
      · rw [ofChars_markup hcomment] at hpiece
        obtain ⟨scanned, -, hscanned⟩ := exists_of_bind_eq_ok hpiece
        exact trimsNext_piece hscanned htag

/-- Markup is cut in the same way whatever follows it. -/
theorem ofChars_append_markup {start : Nat} {trimsStart : Bool} {source : List Char}
    {delimiter : Delimiter} {piece : Piece}
    (hdelimiter : Delimiter.ofChars? source = some delimiter)
    (hpiece : ofChars start trimsStart source = .ok piece) (more : List Char) :
    ofChars start trimsStart (source ++ more) = .ok { piece with rest := piece.rest ++ more } := by
  obtain ⟨inside, hsource⟩ : ∃ inside, source = delimiter.opener ++ inside :=
    ⟨_, Delimiter.ofChars?_eq_some hdelimiter⟩
  subst hsource
  rw [List.append_assoc]
  by_cases hcomment : delimiter = .comment
  · subst hcomment
    change comment start inside = _ at hpiece
    change comment start (inside ++ more) = _
    unfold comment at hpiece ⊢
    split at hpiece
    · cases hpiece
    · next hbreak =>
        cases hpiece
        rw [breakOn?_append_more hbreak]
  · rw [ofChars_markup hcomment] at hpiece ⊢
    obtain ⟨scanned, hscan, hscanned⟩ := exists_of_bind_eq_ok hpiece
    obtain ⟨front, hinside, -, hagain⟩ := Tag.exists_scan_append hscan
    rw [hinside, List.append_assoc, hagain]
    exact piece_append hscanned more

/-- So is text in front of markup. -/
theorem ofChars_append_text {start : Nat} {trimsStart : Bool} {source : List Char} {piece : Piece}
    (hnone : Delimiter.ofChars? source = none)
    (hpiece : ofChars start trimsStart source = .ok piece)
    (hrest : Delimiter.width < piece.rest.length) (more : List Char) :
    ofChars start trimsStart (source ++ more) = .ok { piece with rest := piece.rest ++ more } := by
  unfold ofChars at hpiece
  rw [hnone] at hpiece
  cases hpiece
  change Delimiter.width < (plainRun source).2.length at hrest
  have hne : (plainRun source).2 ≠ [] := List.ne_nil_of_length_pos (by omega)
  have hrun := plainRun_append_more hne more
  have hmore : Delimiter.ofChars? (source ++ more) = none := by
    match source with
    | [] => exact absurd rfl hne
    | [c] => simp [plainRun, hnone] at hne
    | c :: d :: rest =>
        rw [← hnone, List.cons_append, List.cons_append, Delimiter.ofChars?_cons_cons]
  have htrims :
      trimsPrevious ((plainRun source).2 ++ more) = trimsPrevious (plainRun source).2 := by
    unfold trimsPrevious
    rw [List.drop_append_of_le_length (Nat.le_of_lt hrest)]
    cases hdrop : (plainRun source).2.drop Delimiter.width with
    | nil =>
        have hlength := congrArg List.length hdrop
        rw [List.length_drop, List.length_nil] at hlength
        omega
    | cons c others => rfl
  unfold ofChars
  rw [hmore]
  simp only [text, hrun, htrims]

end Piece

/-! ## Whole sources -/

namespace Token

/-- The token trims the text behind it: a dash stands in front of its closer. -/
def TrimsNext (source : List Char) : Token → Prop
  | .expression tag => tag.right = .trim
  | .block tag => tag.right = .trim
  | .comment span => RightDash source (.comment span)
  | .raw content span => RightDash source (.raw content span)
  | .text .. => False
  | .eof _ => False

/-- The source ends in markup, given by `last`, that leaves the text behind it as it is. -/
structure EndsSource (source : List Char) (last : Token) : Prop where
  markup : last.delimiter?.isSome = true
  stop : last.span.stop = byteLength source
  keeps : ¬last.TrimsNext source

/-- A piece is never the end of the template. -/
theorem ne_eof_of_piece {start : Nat} {trimsStart : Bool} {source : List Char} {piece : Piece}
    (hpiece : Piece.ofChars start trimsStart source = .ok piece) (offset : UInt32) :
    piece.token ≠ some (.eof offset) := by
  intro htoken
  unfold Piece.ofChars at hpiece
  split at hpiece
  · unfold Piece.comment at hpiece
    split at hpiece
    · cases hpiece
    · cases hpiece
      cases htoken
  · obtain ⟨interior, -, hpiece⟩ := exists_of_bind_eq_ok hpiece
    dsimp only at hpiece
    split at hpiece
    · unfold Piece.raw at hpiece
      split at hpiece
      · cases hpiece
      · cases hpiece
        cases htoken
    · cases hpiece
      dsimp only at htoken
      split at htoken <;> cases htoken
  · cases hpiece
    dsimp only [Piece.text] at htoken
    split at htoken <;> cases htoken

/-- The tokens of a source are its end behind tokens that are not. -/
theorem exists_body_of_ofCharsFrom {start : Nat} {trimsStart : Bool} {source : List Char}
    {tokens : List Token} (htokens : Token.ofCharsFrom start trimsStart source = .ok tokens) :
    ∃ body offset, tokens = body ++ [.eof offset] ∧ ∀ offset, .eof offset ∉ body := by
  cases source with
  | nil =>
      rw [Token.ofCharsFrom] at htokens
      cases htokens
      exact ⟨[], _, rfl, fun _ => List.not_mem_nil⟩
  | cons c rest =>
      obtain ⟨piece, others, hpiece, hshorter, hothers, rfl⟩ :=
        exists_piece (List.cons_ne_nil c rest) htokens
      obtain ⟨body, offset, rfl, hbody⟩ := exists_body_of_ofCharsFrom hothers
      refine ⟨piece.token.toList ++ body, offset, (List.append_assoc ..).symm, ?_⟩
      intro offset hmem
      rcases List.mem_append.1 hmem with hmem | hmem
      · exact ne_eof_of_piece hpiece offset (Option.mem_toList.1 hmem)
      · exact hbody offset hmem
termination_by source.length

/-- A tag, a comment or a raw block whose piece trims the text behind it has a dash there. -/
theorem trimsNext_of_piece {source before rest written : List Char} {trimsStart : Bool}
    {piece : Piece} {token : Token}
    (hpiece : Piece.ofChars (byteLength before) trimsStart rest = .ok piece)
    (hmarkup : piece.IsMarkup (byteLength before) rest token written)
    (hsource : source = before ++ rest) (hlimit : byteLength source ≤ Span.limit)
    (htrims : piece.trimsNext = true) : token.TrimsNext source := by
  have hright : RightDash source token := by
    have hspan : token.span = Span.ofParts (byteLength before) (byteLength written) := by
      rw [hmarkup.span, hmarkup.stop, Span.ofBounds, Nat.add_sub_cancel_left]
    rw [hmarkup.append] at hsource
    exact ⟨written, (Span.covers_of_append hlimit hsource hspan).1, hmarkup.trims_iff.1 htrims⟩
  have htag {tag : Tag} (hgives : piece.token = some (.block tag) ∨
      piece.token = some (.expression tag)) : tag.right = .trim := by
    have hmarker := Piece.trimsNext_of_tag hpiece hgives
    rw [htrims] at hmarker
    exact beq_iff_eq.1 hmarker.symm
  cases token with
  | block tag => exact htag (.inl hmarkup.gives)
  | expression tag => exact htag (.inr hmarkup.gives)
  | comment span => exact hright
  | raw content span => exact hright
  | text content span =>
      obtain ⟨_, _, _, hdelimiter, _⟩ := hright
      cases hdelimiter
  | eof offset =>
      obtain ⟨_, _, _, hdelimiter, _⟩ := hright
      cases hdelimiter

theorem ne_nil_of_ofCharsFrom {start : Nat} {trimsStart : Bool} {rest : List Char}
    {body : List Token} {offset : UInt32}
    (hfrom : Token.ofCharsFrom start trimsStart rest = .ok (body ++ [.eof offset]))
    (hbody : body ≠ []) : rest ≠ [] := by
  rintro rfl
  rw [Token.ofCharsFrom] at hfrom
  have hlength := congrArg List.length (Except.ok.inj hfrom)
  simp only [List.length_append, List.length_singleton] at hlength
  exact hbody (List.length_eq_zero_iff.1 (by omega))

/-- Text is followed by nothing or by markup with its opener and more. -/
theorem width_lt_of_text {start : Nat} {trimsStart : Bool} {rest : List Char} {piece : Piece}
    {below : List Token} {offset : UInt32} (hnone : Delimiter.ofChars? rest = none)
    (hpiece : Piece.ofChars start trimsStart rest = .ok piece) (hstop : piece.stop ≤ Span.limit)
    (hbelow : Token.ofCharsFrom piece.stop piece.trimsNext piece.rest =
      .ok (below ++ [.eof offset]))
    (hne : below ≠ []) : Delimiter.width < piece.rest.length := by
  have hrest := ne_nil_of_ofCharsFrom hbelow hne
  obtain ⟨next, _, hnext, -⟩ := exists_piece hrest hbelow
  have hopens : Delimiter.ofChars? piece.rest ≠ none := by
    unfold Piece.ofChars at hpiece
    rw [hnone] at hpiece
    cases hpiece
    exact Piece.ofChars?_plainRun_snd rest hrest
  obtain ⟨delimiter, hdelimiter⟩ := Option.ne_none_iff_exists'.1 hopens
  obtain ⟨token, written, hmarkup⟩ := Piece.ofChars_isMarkup hstop hdelimiter hnext
  have hlength := hmarkup.length
  rw [hmarkup.append, List.length_append]
  omega

/-- Markup that ends its source is the last piece of it, and does not trim what follows. -/
theorem ends_of_piece {source before rest written : List Char} {trimsStart : Bool} {piece : Piece}
    {token : Token} (hpiece : Piece.ofChars (byteLength before) trimsStart rest = .ok piece)
    (hmarkup : piece.IsMarkup (byteLength before) rest token written)
    (hsource : source = before ++ rest) (hlimit : byteLength source ≤ Span.limit)
    (hends : EndsSource source token) :
    piece.rest = [] ∧ piece.stop = byteLength source ∧ piece.trimsNext = false := by
  have hlength := congrArg byteLength hsource
  rw [hmarkup.append] at hlength
  simp only [byteLength_append] at hlength
  have hstop := hmarkup.stop
  have hspan : token.span.stop = piece.stop := by
    rw [hmarkup.span]
    exact Span.stop_ofBounds (by omega) (by omega)
  rw [hends.stop] at hspan
  have hrest : piece.rest = [] := by
    by_contra hne
    have hpos := byteLength_pos hne
    omega
  refine ⟨hrest, hspan.symm, Bool.eq_false_iff.2 fun htrims => ?_⟩
  exact hends.keeps (trimsNext_of_piece hpiece hmarkup hsource hlimit htrims)

theorem delimiter?_of_text {start : Nat} {trimsStart : Bool} {rest : List Char} {piece : Piece}
    (hnone : Delimiter.ofChars? rest = none)
    (hpiece : Piece.ofChars start trimsStart rest = .ok piece) :
    ∀ token ∈ piece.token, token.delimiter? = none := by
  unfold Piece.ofChars at hpiece
  rw [hnone] at hpiece
  cases hpiece
  intro token htoken
  simp only [Piece.text, Option.mem_def, Option.ite_none_left_eq_some, Option.some.injEq] at htoken
  rw [← htoken.2]
  rfl

/-- A piece in front of more text, and what is cut from the rest. -/
theorem ofCharsFrom_of_piece {start : Nat} {trimsStart : Bool} {rest more : List Char}
    {piece : Piece} {below : List Token} {after : Except ParseError (List Token)}
    (hrest : rest ≠ [])
    (hpiece : Piece.ofChars start trimsStart (rest ++ more) =
      .ok { piece with rest := piece.rest ++ more })
    (hbelow : Token.ofCharsFrom piece.stop piece.trimsNext (piece.rest ++ more) =
      after.map (below ++ ·)) :
    Token.ofCharsFrom start trimsStart (rest ++ more) =
      after.map (piece.token.toList ++ below ++ ·) := by
  rw [ofCharsFrom_of_ne_nil (List.append_ne_nil_of_left_ne_nil hrest more), hpiece]
  change Except.map _ (Token.ofCharsFrom piece.stop piece.trimsNext (piece.rest ++ more)) = _
  rw [hbelow]
  cases after with
  | error error => rfl
  | ok tokens => exact congrArg Except.ok (List.append_assoc ..).symm

/-- What stands behind the last markup of a source is cut as if it began there. -/
theorem ofCharsFrom_append {source before rest : List Char} {trimsStart : Bool}
    {body : List Token} {offset : UInt32} {last : Token}
    (hfrom : Token.ofCharsFrom (byteLength before) trimsStart rest =
      .ok (body ++ [.eof offset]))
    (hsource : source = before ++ rest) (hlimit : byteLength source ≤ Span.limit)
    (hlast : body.getLast? = some last) (hends : EndsSource source last) (more : List Char) :
    Token.ofCharsFrom (byteLength before) trimsStart (rest ++ more) =
      (Token.ofCharsFrom (byteLength source) false more).map (body ++ ·) := by
  have hbody : body ≠ [] := by
    rintro rfl
    cases hlast
  have hrest := ne_nil_of_ofCharsFrom hfrom hbody
  have hlength := congrArg byteLength hsource
  rw [byteLength_append] at hlength
  obtain ⟨piece, others, hpiece, hshorter, hothers, hsplit⟩ := exists_piece hrest hfrom
  obtain ⟨below, offset', rfl, -⟩ := exists_body_of_ofCharsFrom hothers
  rw [← List.append_assoc] at hsplit
  obtain ⟨rfl, hoffset⟩ := List.append_inj' hsplit rfl
  obtain ⟨written, hwritten, hstop⟩ := Piece.exists_written (by omega) hpiece
  have hwrittenLength := congrArg byteLength hwritten
  rw [byteLength_append] at hwrittenLength
  have hbelow (hne : below ≠ []) :
      Token.ofCharsFrom piece.stop piece.trimsNext (piece.rest ++ more) =
        (Token.ofCharsFrom (byteLength source) false more).map (below ++ ·) := by
    have hstopBefore : piece.stop = byteLength (before ++ written) := by
      rw [hstop, byteLength_append]
    rw [List.getLast?_append_of_ne_nil _ hne] at hlast
    rw [hstopBefore] at hothers ⊢
    refine ofCharsFrom_append hothers ?_ hlimit hlast hends more
    rw [hsource, List.append_assoc, ← hwritten]
  cases hdelimiter : Delimiter.ofChars? rest with
  | some delimiter =>
      apply ofCharsFrom_of_piece hrest (Piece.ofChars_append_markup hdelimiter hpiece more)
      by_cases hne : below = []
      · obtain ⟨token, _, hmarkup⟩ := Piece.ofChars_isMarkup (by omega) hdelimiter hpiece
        subst hne
        obtain rfl : token = last := by
          rw [hmarkup.gives] at hlast
          exact Option.some.inj hlast
        obtain ⟨hnil, hend, htrims⟩ := ends_of_piece hpiece hmarkup hsource hlimit hends
        rw [hnil, hend, htrims, List.nil_append]
        cases Token.ofCharsFrom (byteLength source) false more <;> rfl
      · exact hbelow hne
  | none =>
      have hne : below ≠ [] := by
        rintro rfl
        rw [List.append_nil] at hlast
        have hmem : last ∈ piece.token := by
          simpa using List.mem_of_getLast? hlast
        have hmarkup := hends.markup
        rw [delimiter?_of_text hdelimiter hpiece last hmem] at hmarkup
        cases hmarkup
      have hwidth := width_lt_of_text hdelimiter hpiece (by omega) hothers hne
      exact ofCharsFrom_of_piece hrest
        (Piece.ofChars_append_text hdelimiter hpiece hwidth more) (hbelow hne)
termination_by rest.length

/-- A source that ends in markup without a dash behind it is cut as if it stood alone, and so
is what follows. -/
theorem ofChars_join {first second : List Char} {body : List Token} {offset : UInt32}
    (hsize : byteLength (first ++ second) < 2 ^ 32)
    (hfirst : Token.ofChars first = .ok (body ++ [.eof offset]))
    (hends : first = [] ∨ ∃ last, body.getLast? = some last ∧ EndsSource first last) :
    (∀ tokens, Token.ofChars second = .ok tokens →
      Token.ofChars (first ++ second) =
        .ok (body ++ tokens.map (Token.shift (byteLength first)))) ∧
    ∀ error, Token.ofChars second = .error error →
      Token.ofChars (first ++ second) = .error (error.shift (byteLength first)) := by
  have hlimit : byteLength first + byteLength second ≤ Span.limit := by
    rw [byteLength_append] at hsize
    unfold Span.limit
    omega
  have hjoined : Token.ofChars (first ++ second) =
      (Token.ofCharsFrom (byteLength first) false second).map (body ++ ·) := by
    rcases hends with rfl | ⟨last, hlast, hends⟩
    · rw [Token.ofChars, Token.ofCharsFrom] at hfirst
      have hbody : body = [] := by
        have hlength := congrArg List.length (Except.ok.inj hfirst)
        simp only [List.length_append, List.length_singleton] at hlength
        exact List.length_eq_zero_iff.1 (by omega)
      rw [hbody]
      change Token.ofCharsFrom 0 false second = (Token.ofCharsFrom 0 false second).map id
      cases Token.ofCharsFrom 0 false second <;> rfl
    · have hstart : Token.ofCharsFrom (byteLength []) false first = .ok (body ++ [.eof offset]) :=
        hfirst
      exact ofCharsFrom_append hstart (List.nil_append _).symm (by omega) hlast hends second
  have hshift : Token.ofCharsFrom (byteLength first) false second =
      shiftResult (List.map (Token.shift (byteLength first))) (byteLength first)
        (Token.ofChars second) := by
    have hfits : 0 + byteLength second + byteLength first ≤ Span.limit := by omega
    have hmoved := ofCharsFrom_shift false hfits
    rwa [Nat.zero_add] at hmoved
  rw [hjoined, hshift]
  constructor
  · intro tokens hsecond
    rw [hsecond]
    rfl
  · intro error hsecond
    rw [hsecond]
    rfl

/-- The second source trims at its start, and cannot be cut at all. -/
theorem ofChars_join_raw :
    let first := "é \x7b%- raw -%\x7d \x7b\x7b \x7b%- endraw %\x7d".toList
    let last : Token := .raw "\x7b\x7b" ⟨3, 28⟩
    byteLength (first ++ " \n\x7b\x7b- b -\x7d\x7d c".toList) < 2 ^ 32 ∧
    byteLength (first ++ " \x7b\x7b '".toList) < 2 ^ 32 ∧
    Token.ofChars first = .ok ([.text "é" ⟨0, 2⟩, last] ++ [.eof 31]) ∧ EndsSource first last ∧
    Token.ofChars (first ++ " \n\x7b\x7b- b -\x7d\x7d c".toList) =
      .ok [.text "é" ⟨0, 2⟩, last,
        .expression ⟨[⟨.name "b", ⟨37, 1⟩⟩], ⟨33, 9⟩, ⟨37, 1⟩, .trim, .trim⟩,
        .text "c" ⟨43, 1⟩, .eof 44] ∧
    Token.ofChars (first ++ " \x7b\x7b '".toList) =
      .error (.invalidSyntax .unterminatedString ⟨35, 1⟩) := by
  intro first last
  have hfirst : Token.ofChars first = .ok ([.text "é" ⟨0, 2⟩, last] ++ [.eof 31]) := by
    decide +kernel
  have hends : EndsSource first last := by
    refine ⟨rfl, by decide +kernel, ?_⟩
    rintro ⟨written, hwritten, delimiter, hdelimiter, hdash⟩
    have hraw : last.span.Covers first
        "\x7b%- raw -%\x7d \x7b\x7b \x7b%- endraw %\x7d".toList :=
      ⟨"é ".toList, [], by decide, by decide, by decide⟩
    cases hdelimiter
    rw [hwritten.unique hraw] at hdash
    exact absurd hdash (by decide)
  have hjoin (second : List Char) (hsize : byteLength (first ++ second) < 2 ^ 32) :=
    ofChars_join hsize hfirst (.inr ⟨last, rfl, hends⟩)
  have hsize : byteLength (first ++ " \n\x7b\x7b- b -\x7d\x7d c".toList) < 2 ^ 32 := by
    decide +kernel
  have hsize' : byteLength (first ++ " \x7b\x7b '".toList) < 2 ^ 32 := by
    decide +kernel
  have htokens := (hjoin _ hsize).1
    [.expression ⟨[⟨.name "b", ⟨6, 1⟩⟩], ⟨2, 9⟩, ⟨6, 1⟩, .trim, .trim⟩, .text "c" ⟨12, 1⟩, .eof 13]
    (by decide +kernel)
  have herror := (hjoin _ hsize').2 (.invalidSyntax .unterminatedString ⟨4, 1⟩) (by decide +kernel)
  exact ⟨hsize, hsize', hfirst, hends, htokens, herror⟩

end Token

end TemplateVariables
