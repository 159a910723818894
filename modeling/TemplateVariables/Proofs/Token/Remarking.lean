import TemplateVariables.Proofs.Token.Joining

/-!
# Other whitespace markers

A marker only says what happens to the white space beside a tag.  Put at sides of tags
that have none, and at sides of comments, markers leave a source one that can be cut, into
the same tokens but for text and what raw blocks contain.

The source is walked piece by piece, as it is cut.  A piece does not depend on the
markers of the others, so it is enough to look at one of each kind.
-/

namespace TemplateVariables

open Text

/-! ## What markers leave alone -/

/-- A token without its spans, its whitespace markers and what a raw block contains. -/
inductive Outline where
  | expression (kinds : List LexemeKind)
  | block (kinds : List LexemeKind)
  | comment
  | raw
  | eof
deriving DecidableEq, Repr

/-- The outline of a token that is not text. -/
def Token.outline? : Token → Option Outline
  | .text .. => none
  | .expression tag => some (.expression (tag.lexemes.map Lexeme.kind))
  | .block tag => some (.block (tag.lexemes.map Lexeme.kind))
  | .comment _ => some .comment
  | .raw .. => some .raw
  | .eof _ => some .eof

/-! ## Sources with other markers -/

/-- Behind the opener of a tag that stands between the markers `left` and `right` and in
front of `rest`, markers are put at sides that have none, and `rest'` follows the tag. -/
def Delimiter.Remarks (delimiter : Delimiter) (left right : Marker)
    (source rest source' rest' : List Char) : Prop :=
  ∃ (inside : List Char) (left' right' : Marker),
    source = left.chars ++ (inside ++ delimiter.tail right rest) ∧
    source' = left'.chars ++ (inside ++ delimiter.tail right' rest') ∧
    left'.Fills left ∧ right'.Fills right

/-- The second source is the first with markers put at sides of its tags that have none, and
at sides of its comments. -/
inductive Remarked : List Char → List Char → Prop where
  | nil : Remarked [] []
  | text {run rest rest' : List Char} (hne : run ≠ [])
      (hrun : Piece.plainRun (run ++ rest) = (run, rest)) (hrest : Remarked rest rest') :
      Remarked (run ++ rest) (run ++ rest')
  | comment {content rest rest' : List Char} {left right : Marker}
      (hcontent : breakOn? Delimiter.comment.closer (content ++ Delimiter.comment.closer ++ rest) =
        some (content, rest))
      (hrest : Remarked rest rest') :
      Remarked (Delimiter.comment.opener ++ (content ++ Delimiter.comment.closer ++ rest))
        (Delimiter.comment.opener ++
          (left.chars ++ content ++ right.chars ++ Delimiter.comment.closer ++ rest'))
  | tag {delimiter : Delimiter} {start : Nat} {source source' rest' : List Char}
      {scanned : Scanned} (hdelimiter : delimiter ≠ .comment)
      (hscan : Tag.scan delimiter start source = .ok scanned)
      (hraw : delimiter = .block → scanned.kinds ≠ [.name "raw"])
      (hmarks : delimiter.Remarks scanned.tag.left scanned.tag.right source scanned.rest
        source' rest')
      (hrest : Remarked scanned.rest rest') :
      Remarked (delimiter.opener ++ source) (delimiter.opener ++ source')
  | raw {start : Nat} {source source' content closing closing' rest rest' : List Char}
      {opened : Scanned} {left right : Marker}
      (hopened : Tag.scan .block start source = .ok opened)
      (hraw : opened.kinds = [.name "raw"])
      (hbreak : Piece.breakRaw? opened.rest = some (content, left, right, rest))
      (hcontent : opened.rest = content ++ (Delimiter.block.opener ++ closing))
      (hmarks : Delimiter.block.Remarks opened.tag.left opened.tag.right source opened.rest
        source' (content ++ (Delimiter.block.opener ++ closing')))
      (hclosing : Delimiter.block.Remarks left right closing rest closing' rest')
      (hrest : Remarked rest rest') :
      Remarked (Delimiter.block.opener ++ source) (Delimiter.block.opener ++ source')

/-! ## Tags -/

section Tags

variable {delimiter : Delimiter} {left right : Marker}
  {source rest source' rest' : List Char}

theorem Delimiter.Remarks.refl (hmarks : delimiter.Remarks left right source rest source' rest') :
    delimiter.Remarks left right source rest source rest := by
  obtain ⟨inside, _, _, hsource, -⟩ := hmarks
  exact ⟨inside, left, right, hsource, hsource, .refl left, .refl right⟩

theorem Tag.remarks_of_scan {start : Nat} {scanned : Scanned}
    (hscan : Tag.scan delimiter start source = .ok scanned) :
    delimiter.Remarks scanned.tag.left scanned.tag.right source scanned.rest source
      scanned.rest := by
  obtain ⟨body, hsource, -⟩ := Tag.exists_body hscan
  exact ⟨body.chars, _, _, hsource, hsource, .refl _, .refl _⟩

/-- With other markers the tag is read again, with lexemes of the same kinds. -/
theorem Tag.exists_scan_remarked {start : Nat} {scanned : Scanned}
    (hscan : Tag.scan delimiter start source = .ok scanned)
    (hmarks : delimiter.Remarks scanned.tag.left scanned.tag.right source scanned.rest
      source' rest') (start' : Nat) :
    ∃ scanned', Tag.scan delimiter start' source' = .ok scanned' ∧ scanned'.rest = rest' ∧
      scanned'.kinds = scanned.kinds := by
  obtain ⟨body, hbody, hhead, hreads, hscanned⟩ := Tag.exists_body hscan
  obtain ⟨inside, left', right', hsource, rfl, hleft, hright⟩ := hmarks
  obtain rfl : body.chars = inside := by
    rw [hsource] at hbody
    exact (List.append_cancel_right (List.append_cancel_left hbody)).symm
  rw [hbody] at hhead
  obtain ⟨first, last, hagain⟩ := hreads.scan_fills hhead hleft hright start' rest'
  refine ⟨_, hagain, rfl, ?_⟩
  rw [hscanned, TagBody.kinds_scanned, TagBody.kinds_scanned]

/-- The first end tag of a raw block is still the first one. -/
theorem Piece.breakRaw?_remarked {content closing closing' : List Char}
    (hbreak : breakRaw? (content ++ (Delimiter.block.opener ++ closing)) =
      some (content, left, right, rest))
    (hclosing : Delimiter.block.Remarks left right closing rest closing' rest') :
    ∃ left' right', breakRaw? (content ++ (Delimiter.block.opener ++ closing')) =
      some (content, left', right', rest') := by
  obtain ⟨text, htext, hend, hnone⟩ := breakRaw?_eq_some_iff.1 hbreak
  obtain rfl := List.append_cancel_left htext
  obtain ⟨inside, scanned, hinside, hscan, hkinds, rfl, rfl, rfl⟩ := (rawEnd?_iff_scan 0).1 hend
  obtain rfl := List.append_cancel_left hinside
  obtain ⟨scanned', hscan', hrest, hkinds'⟩ := Tag.exists_scan_remarked hscan hclosing 0
  refine ⟨_, _, breakRaw?_eq_some_iff.2 ⟨_, rfl, (rawEnd?_iff_scan 0).2
    ⟨closing', scanned', rfl, hscan', hkinds'.trans hkinds, rfl, rfl, hrest⟩, ?_⟩⟩
  exact noneBefore_append_brace hnone _

end Tags

/-! ## Comments -/

theorem Text.breakOn?_cons {piece text before after : List Char} {c : Char}
    (hstrip : strip? piece (c :: text) = none)
    (hbreak : breakOn? piece text = some (before, after)) :
    breakOn? piece (c :: text) = some (c :: before, after) := by
  rw [breakOn?, hstrip, hbreak]
  rfl

theorem Text.strip?_comment_eq_none {c : Char} {content rest : List Char}
    (hnone : strip? Delimiter.comment.closer (c :: (content ++ Delimiter.comment.closer ++ rest)) =
      none)
    (right : Marker) (rest' : List Char) :
    strip? Delimiter.comment.closer
      (c :: (content ++ right.chars ++ Delimiter.comment.closer ++ rest')) = none := by
  rw [Option.eq_none_iff_forall_ne_some]
  intro after hstrip
  obtain ⟨rfl, hclose⟩ := List.cons.inj (strip?_eq_some_iff.1 hstrip)
  cases content with
  | nil => cases right <;> cases hclose
  | cons d content =>
      obtain rfl : d = '\x7d' := (List.cons.inj hclose).1
      cases hnone

/-- A marker on either side does not close the comment earlier. -/
theorem Text.breakOn?_comment {content rest : List Char}
    (hcontent : breakOn? Delimiter.comment.closer (content ++ Delimiter.comment.closer ++ rest) =
      some (content, rest))
    (left right : Marker) (rest' : List Char) :
    breakOn? Delimiter.comment.closer
        (left.chars ++ content ++ right.chars ++ Delimiter.comment.closer ++ rest') =
      some (left.chars ++ content ++ right.chars, rest') := by
  have hbehind : breakOn? Delimiter.comment.closer
      (content ++ right.chars ++ Delimiter.comment.closer ++ rest') =
        some (content ++ right.chars, rest') := by
    induction content with
    | nil => cases right <;> rfl
    | cons c content ih =>
        simp only [List.cons_append, breakOn?] at hcontent
        split at hcontent
        · cases hcontent
        · next hnone =>
            obtain ⟨_, hinner, hpair⟩ := Option.map_eq_some_iff.1 hcontent
            cases hpair
            exact breakOn?_cons (strip?_comment_eq_none hnone right rest') (ih hinner)
  cases left with
  | preserve => exact hbehind
  | trim => exact breakOn?_cons rfl hbehind
  | keep => exact breakOn?_cons rfl hbehind

/-! ## Text -/

theorem Delimiter.opener_append_ne_nil (delimiter : Delimiter) (text : List Char) :
    delimiter.opener ++ text ≠ [] := by
  cases delimiter <;> exact List.cons_ne_nil _ _

theorem Delimiter.ofChars?_cons_of_head? {c : Char} {text text' : List Char}
    (hhead : text.head? = text'.head?) : ofChars? (c :: text) = ofChars? (c :: text') := by
  cases text with
  | nil =>
      rw [List.head?_nil, eq_comm, List.head?_eq_none_iff] at hhead
      rw [hhead]
  | cons d text =>
      obtain ⟨text', rfl⟩ := List.head?_eq_some_iff.1 hhead.symm
      exact ofChars?_cons_cons c d text text'

/-- What a source begins with is the same under other markers. -/
theorem Remarked.begins_eq {source source' : List Char} (hmarks : Remarked source source') :
    source.head? = source'.head? ∧ Delimiter.ofChars? source = Delimiter.ofChars? source' := by
  induction hmarks with
  | nil => exact ⟨rfl, rfl⟩
  | @text run rest rest' hne hrun hrest ih =>
      have hnext (run : List Char) : (run ++ rest).head? = (run ++ rest').head? := by
        rw [List.head?_append, List.head?_append, ih.1]
      obtain ⟨c, run, rfl⟩ := List.exists_cons_of_ne_nil hne
      exact ⟨rfl, Delimiter.ofChars?_cons_of_head? (hnext run)⟩
  | comment hcontent hrest ih => exact ⟨rfl, rfl⟩
  | @tag delimiter => cases delimiter <;> exact ⟨rfl, rfl⟩
  | raw => exact ⟨rfl, rfl⟩

/-- A text run ends where it did when what follows begins with the same opener. -/
theorem Piece.plainRun_remarked {run rest rest' : List Char}
    (hrun : plainRun (run ++ rest) = (run, rest)) (hmarks : Remarked rest rest') :
    plainRun (run ++ rest') = (run, rest') := by
  induction run with
  | nil =>
      obtain ⟨hhead, hdelimiter⟩ := hmarks.begins_eq
      cases rest' with
      | nil => rfl
      | cons c rest' =>
          obtain ⟨rest, rfl⟩ := List.head?_eq_some_iff.1 hhead
          rw [List.nil_append] at hrun ⊢
          rw [plainRun] at hrun ⊢
          rw [← hdelimiter]
          split at hrun
          · rfl
          · cases hrun
  | cons c run ih =>
      have hnext : (run ++ rest).head? = (run ++ rest').head? := by
        rw [List.head?_append, List.head?_append, hmarks.begins_eq.1]
      rw [List.cons_append, plainRun] at hrun ⊢
      rw [← Delimiter.ofChars?_cons_of_head? hnext]
      split at hrun
      · cases hrun
      · obtain ⟨hfirst, hsecond⟩ := Prod.mk.inj hrun
        rw [ih (Prod.ext (List.cons.inj hfirst).2 hsecond)]

/-! ## Pieces -/

/-- Wherever the source stands, its first piece has the given outline and leaves `rest`. -/
def Piece.Begins (source : List Char) (outline : Option Outline) (rest : List Char) : Prop :=
  ∀ start trimsStart, ∃ piece, Piece.ofChars start trimsStart source = .ok piece ∧
    piece.rest = rest ∧ piece.token.bind Token.outline? = outline

namespace Piece

variable {source rest : List Char}

theorem begins_text {run : List Char} (hne : run ≠ [])
    (hrun : plainRun (run ++ rest) = (run, rest)) : Begins (run ++ rest) none rest := by
  intro start trimsStart
  have hnone : Delimiter.ofChars? (run ++ rest) = none := by
    obtain ⟨c, run, rfl⟩ := List.exists_cons_of_ne_nil hne
    rw [List.cons_append, plainRun] at hrun
    split at hrun
    · cases hrun
    · next hnone => exact hnone
  refine ⟨text start trimsStart (run ++ rest), ?_, congrArg Prod.snd hrun, ?_⟩
  · rw [ofChars, hnone]
  · simp only [text]
    split <;> rfl

theorem begins_comment {content : List Char}
    (hcontent : breakOn? Delimiter.comment.closer source = some (content, rest)) :
    Begins (Delimiter.comment.opener ++ source) (some .comment) rest := by
  intro start trimsStart
  change ∃ piece, comment start source = .ok piece ∧ _
  rw [comment, hcontent]
  exact ⟨_, rfl, rfl, rfl⟩

theorem begins_tag {delimiter : Delimiter} {scanned : Scanned} {start : Nat}
    {source' rest' : List Char} (hdelimiter : delimiter ≠ .comment)
    (hscan : Tag.scan delimiter start source = .ok scanned)
    (hraw : delimiter = .block → scanned.kinds ≠ [.name "raw"])
    (hmarks : delimiter.Remarks scanned.tag.left scanned.tag.right source scanned.rest
      source' rest') :
    Begins (delimiter.opener ++ source')
      (some (if delimiter = .block then .block scanned.kinds else .expression scanned.kinds))
      rest' := by
  intro start' trimsStart
  obtain ⟨scanned', hscan', hrest, hkinds⟩ := Tag.exists_scan_remarked hscan hmarks start'
  have hopens : ¬(delimiter = .block ∧ opensRaw scanned'.tag = true) := by
    rintro ⟨hblock, hopens⟩
    exact hraw hblock (hkinds.symm.trans (beq_iff_eq.1 hopens))
  rw [ofChars_markup hdelimiter, hscan', ← hkinds]
  change ∃ piece, scanned'.piece delimiter = .ok piece ∧ _
  rw [Scanned.piece, if_neg hopens]
  refine ⟨_, rfl, hrest, ?_⟩
  cases delimiter <;> rfl

theorem begins_raw {opened : Scanned} {start : Nat} {left right : Marker}
    {source' content closing closing' rest' : List Char}
    (hopened : Tag.scan .block start source = .ok opened) (hraw : opened.kinds = [.name "raw"])
    (hbreak : breakRaw? (content ++ (Delimiter.block.opener ++ closing)) =
      some (content, left, right, rest))
    (hmarks : Delimiter.block.Remarks opened.tag.left opened.tag.right source opened.rest
      source' (content ++ (Delimiter.block.opener ++ closing')))
    (hclosing : Delimiter.block.Remarks left right closing rest closing' rest') :
    Begins (Delimiter.block.opener ++ source') (some .raw) rest' := by
  intro start' trimsStart
  obtain ⟨opened', hopened', hrest, hkinds⟩ := Tag.exists_scan_remarked hopened hmarks start'
  obtain ⟨left', right', hbreak'⟩ := breakRaw?_remarked hbreak hclosing
  have hopens : opensRaw opened'.tag = true := beq_iff_eq.2 (hkinds.trans hraw)
  rw [ofChars_markup (by decide), hopened']
  change ∃ piece, opened'.piece .block = .ok piece ∧ _
  rw [Scanned.piece, if_pos ⟨rfl, hopens⟩, raw, hrest, hbreak']
  exact ⟨_, rfl, rfl, rfl⟩

end Piece

/-! ## Whole sources -/

/-- Wherever the source stands, it can be cut, into tokens with the given outlines. -/
def Token.Outlines (source : List Char) (outlines : List Outline) : Prop :=
  ∀ start trimsStart, ∃ tokens, Token.ofCharsFrom start trimsStart source = .ok tokens ∧
    tokens.filterMap Token.outline? = outlines

theorem Piece.Begins.outlines {source rest : List Char} {outline : Option Outline}
    {outlines : List Outline} (hbegins : Piece.Begins source outline rest) (hsource : source ≠ [])
    (hrest : Token.Outlines rest outlines) :
    Token.Outlines source (outline.toList ++ outlines) := by
  intro start trimsStart
  obtain ⟨piece, hpiece, rfl, rfl⟩ := hbegins start trimsStart
  obtain ⟨others, hothers, rfl⟩ := hrest piece.stop piece.trimsNext
  refine ⟨piece.token.toList ++ others, ?_, ?_⟩
  · rw [Token.ofCharsFrom_of_ne_nil hsource, hpiece]
    change Except.map _ (Token.ofCharsFrom piece.stop piece.trimsNext piece.rest) = _
    rw [hothers]
    rfl
  · rw [List.filterMap_append]
    congr 1
    cases piece.token with
    | none => rfl
    | some token => cases token <;> rfl

/-- Markers change neither that a source can be cut nor the outlines of its tokens. -/
theorem Remarked.exists_outlines {source source' : List Char} (hmarks : Remarked source source') :
    ∃ outlines, Token.Outlines source outlines ∧ Token.Outlines source' outlines := by
  induction hmarks with
  | nil =>
      have hend : Token.Outlines [] [.eof] := by
        intro start trimsStart
        rw [Token.ofCharsFrom]
        exact ⟨_, rfl, rfl⟩
      exact ⟨_, hend, hend⟩
  | text hne hrun hrest ih =>
      obtain ⟨outlines, hsource, hsource'⟩ := ih
      have hrun' := Piece.plainRun_remarked hrun hrest
      exact ⟨_,
        (Piece.begins_text hne hrun).outlines (List.append_ne_nil_of_left_ne_nil hne _) hsource,
        (Piece.begins_text hne hrun').outlines (List.append_ne_nil_of_left_ne_nil hne _) hsource'⟩
  | @comment content rest rest' left right hcontent hrest ih =>
      obtain ⟨outlines, hsource, hsource'⟩ := ih
      have hcontent' := breakOn?_comment hcontent left right rest'
      exact ⟨_, (Piece.begins_comment hcontent).outlines (List.cons_ne_nil _ _) hsource,
        (Piece.begins_comment hcontent').outlines (List.cons_ne_nil _ _) hsource'⟩
  | tag hdelimiter hscan hraw hmarks hrest ih =>
      obtain ⟨outlines, hsource, hsource'⟩ := ih
      exact ⟨_,
        (Piece.begins_tag hdelimiter hscan hraw hmarks.refl).outlines
          (Delimiter.opener_append_ne_nil _ _) hsource,
        (Piece.begins_tag hdelimiter hscan hraw hmarks).outlines
          (Delimiter.opener_append_ne_nil _ _) hsource'⟩
  | raw hopened hraw hbreak hcontent hmarks hclosing hrest ih =>
      obtain ⟨outlines, hsource, hsource'⟩ := ih
      rw [hcontent] at hbreak
      have hagain := hmarks.refl
      nth_rewrite 2 [hcontent] at hagain
      exact ⟨_,
        (Piece.begins_raw hopened hraw hbreak hagain hclosing.refl).outlines
          (List.cons_ne_nil _ _) hsource,
        (Piece.begins_raw hopened hraw hbreak hmarks hclosing).outlines
          (List.cons_ne_nil _ _) hsource'⟩

/-! ## No markers put anywhere -/

namespace Remarked

variable {start : Nat} {trimsStart : Bool} {source : List Char} {piece : Piece}

theorem of_text (hsource : source ≠ []) (hnone : Delimiter.ofChars? source = none)
    (hrest : Remarked (Piece.plainRun source).2 (Piece.plainRun source).2) :
    Remarked source source := by
  have happend := Piece.plainRun_append source
  have hrun : (Piece.plainRun source).1 ≠ [] := by
    obtain ⟨c, inside, rfl⟩ := List.exists_cons_of_ne_nil hsource
    simp [Piece.plainRun, hnone]
  have hmarks := Remarked.text hrun (by rw [happend]) hrest
  rwa [happend] at hmarks

theorem of_comment (hpiece : Piece.comment start source = .ok piece)
    (hrest : Remarked piece.rest piece.rest) :
    Remarked (Delimiter.comment.opener ++ source) (Delimiter.comment.opener ++ source) := by
  unfold Piece.comment at hpiece
  split at hpiece
  · cases hpiece
  next content rest hbreak =>
  cases hpiece
  have hcontent := breakOn?_append hbreak
  rw [hcontent] at hbreak ⊢
  have hmarks := @Remarked.comment content rest rest .preserve .preserve hbreak hrest
  rwa [Marker.chars, List.nil_append, List.append_nil] at hmarks

theorem of_scan {delimiter : Delimiter} {scanned : Scanned} (hdelimiter : delimiter ≠ .comment)
    (hscan : Tag.scan delimiter start source = .ok scanned)
    (hpiece : scanned.piece delimiter = .ok piece) (hrest : Remarked piece.rest piece.rest) :
    Remarked (delimiter.opener ++ source) (delimiter.opener ++ source) := by
  have hmarks := Tag.remarks_of_scan hscan
  unfold Scanned.piece at hpiece
  split at hpiece
  · next hopens =>
      obtain ⟨rfl, hraw⟩ := hopens
      unfold Piece.raw at hpiece
      split at hpiece
      · cases hpiece
      next content left right rest hbreak =>
      cases hpiece
      obtain ⟨text, hcontent, hend, -⟩ := Piece.breakRaw?_eq_some_iff.1 hbreak
      obtain ⟨body, -, rfl⟩ := Piece.rawEnd?_eq_some_iff.1 hend
      have hclosing : Delimiter.block.Remarks left right (body.written .block left right rest)
          rest (body.written .block left right rest) rest :=
        ⟨body.chars, left, right, rfl, rfl, .refl left, .refl right⟩
      nth_rewrite 2 [hcontent] at hmarks
      exact .raw hscan (beq_iff_eq.1 hraw) hbreak hcontent hmarks hclosing hrest
  · next hopens =>
      cases hpiece
      refine .tag hdelimiter hscan (fun hblock hkinds => ?_) hmarks hrest
      exact hopens ⟨hblock, beq_iff_eq.2 hkinds⟩

/-- Every source that can be cut is one with no markers put anywhere. -/
theorem of_ofCharsFrom {start : Nat} {trimsStart : Bool} {source : List Char}
    {tokens : List Token}
    (htokens : Token.ofCharsFrom start trimsStart source = .ok tokens) :
    Remarked source source := by
  by_cases hnil : source = []
  · rw [hnil]
    exact .nil
  obtain ⟨piece, others, hpiece, hshorter, hothers, -⟩ := Token.exists_piece hnil htokens
  have hrest : Remarked piece.rest piece.rest := of_ofCharsFrom hothers
  cases hdelimiter : Delimiter.ofChars? source with
  | none =>
      rw [Piece.ofChars, hdelimiter] at hpiece
      cases hpiece
      exact of_text hnil hdelimiter hrest
  | some delimiter =>
      have hsource := Delimiter.ofChars?_eq_some hdelimiter
      rw [hsource] at hpiece ⊢
      by_cases hcomment : delimiter = .comment
      · subst hcomment
        exact of_comment hpiece hrest
      · rw [Piece.ofChars_markup hcomment] at hpiece
        obtain ⟨scanned, hscan, hscanned⟩ := exists_of_bind_eq_ok hpiece
        exact of_scan hcomment hscan hscanned hrest
termination_by source.length

end Remarked

end TemplateVariables
