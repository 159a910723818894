import TemplateVariables.Proofs.SpanOrder
import TemplateVariables.Proofs.Token.Scanning

/-!
# Where lexemes are written

The lexemes of a tag are written one behind the other between its opener and its closer,
and those of a whole source one behind the other from its start to its end.  Their offsets
here are those in the source, however far they go; as long as the source is within the
limit, they are the ends of the spans.
-/

namespace TemplateVariables

open Text

/-! ## Lexemes in a source -/

/-- The lexemes are written one behind the other in the source, between the two offsets. -/
inductive Lexeme.Laid (source : List Char) : Nat → List Lexeme → Nat → Prop where
  | nil {start stop : Nat} (hle : start ≤ stop) : Laid source start [] stop
  | cons {start stop : Nat} {lexeme : Lexeme} {lexemes : List Lexeme}
      {before used after : List Char} (hsource : source = before ++ (used ++ after))
      (hstart : start ≤ byteLength before) (hused : used ≠ [])
      (hname : ∀ word, lexeme.kind = .name word → used = word.toList)
      (hspan : lexeme.span = Span.ofBounds (byteLength before) (byteLength (before ++ used)))
      (hrest : Laid source (byteLength (before ++ used)) lexemes stop) :
      Laid source start (lexeme :: lexemes) stop

namespace Lexeme.Laid

variable {source : List Char} {start start' middle stop stop' : Nat} {lexemes others : List Lexeme}

theorem mono_low (hlaid : Laid source start lexemes stop) (hle : start' ≤ start) :
    Laid source start' lexemes stop := by
  cases hlaid with
  | nil hstop => exact .nil (Nat.le_trans hle hstop)
  | cons hsource hstart hused hname hspan hrest =>
      exact .cons hsource (Nat.le_trans hle hstart) hused hname hspan hrest

theorem append (hlaid : Laid source start lexemes middle)
    (hothers : Laid source middle others stop) :
    Laid source start (lexemes ++ others) stop := by
  induction hlaid with
  | nil hle => exact hothers.mono_low hle
  | cons hsource hstart hused hname hspan _ ih =>
      exact .cons hsource hstart hused hname hspan (ih hothers)

theorem mono_high (hlaid : Laid source start lexemes stop) (hle : stop ≤ stop') :
    Laid source start lexemes stop' := by
  have hall := hlaid.append (.nil hle)
  rwa [List.append_nil] at hall

/-- Within the limit the spans of the lexemes stand in a row. -/
theorem marks (hlaid : Laid source start lexemes stop) (hlimit : byteLength source ≤ Span.limit) :
    (∀ lexeme ∈ lexemes, lexeme.span.Marks source) ∧
      Span.InOrder start (lexemes.map Lexeme.span) stop := by
  induction hlaid with
  | nil hle => exact ⟨List.forall_mem_nil _, hle⟩
  | @cons start stop lexeme lexemes before used after hsource hstart hused _ hspan _ ih =>
      have hparts : lexeme.span = Span.ofParts (byteLength before) (byteLength used) := by
        rw [hspan, Span.ofBounds, byteLength_append, Nat.add_sub_cancel_left]
      obtain ⟨hcovers, hspanStart, hspanStop⟩ := Span.covers_of_append hlimit hsource hparts
      refine ⟨List.forall_mem_cons.2 ⟨⟨used, hused, hcovers⟩, ih.1⟩, ?_, ?_⟩
      · rwa [hspanStart]
      · rw [hspanStop]
        exact ih.2

end Lexeme.Laid

/-- The lexemes inside a tag are written in front of its end. -/
theorem Interior.ofChars_laid {delimiter : Delimiter} {brackets : List Punct} {afterDot : Bool}
    {opened start : Nat} {text source before : List Char} {interior : Interior}
    (hinterior : Interior.ofChars delimiter opened start brackets afterDot text = .ok interior)
    (hsource : source = before ++ text) (hstart : start = byteLength before) :
    ∃ front, text = front ++ delimiter.tail interior.right interior.rest ∧
      Lexeme.Laid source start interior.lexemes (byteLength (before ++ front)) ∧
      interior.stop =
        byteLength (before ++ front) + interior.right.width + Delimiter.width := by
  fun_induction Interior.ofChars delimiter opened start brackets afterDot text
      generalizing interior before with
  | case1 => cases hinterior
  | case2 start _ _ text first c inside hinside right rest =>
      rename_i hending
      cases hinterior
      obtain ⟨htail, -⟩ := Delimiter.ending?_eq_some hending
      have hsplit := trimStart_append text
      rw [hinside, htail] at hsplit
      refine ⟨_, hsplit.symm, .nil ?_, ?_⟩
      · rw [hstart, byteLength_append]
        exact Nat.le_add_right _ _
      · rw [byteLength_append, ← hstart]
  | case3 => cases hinterior
  | case4 => cases hinterior
  | case5 start _ _ text first c inside hinside _ cut hcut stop below =>
      rename_i hbelow ih
      cases hinterior
      have hsplit := trimStart_append text
      rw [hinside, ← Cut.ofChars_append hcut] at hsplit
      have hfirst : first = byteLength (before ++ text.takeWhile isBlank) := by
        rw [byteLength_append, ← hstart]
      have hstop : stop = byteLength ((before ++ text.takeWhile isBlank) ++ cut.used) := by
        rw [byteLength_append, ← hfirst]
      have hinner : source = (before ++ text.takeWhile isBlank) ++ (cut.used ++ cut.rest) := by
        rw [hsource, List.append_assoc, hsplit]
      obtain ⟨front, hrest, hlaid, hbelowStop⟩ :=
        ih hbelow (hinner.trans (List.append_assoc ..).symm) hstop
      have hall : ((before ++ text.takeWhile isBlank) ++ cut.used) ++ front =
          before ++ (text.takeWhile isBlank ++ (cut.used ++ front)) := by
        simp only [List.append_assoc]
      rw [hall] at hlaid hbelowStop
      refine ⟨text.takeWhile isBlank ++ (cut.used ++ front), ?_, ?_, hbelowStop⟩
      · refine hsplit.symm.trans ?_
        rw [hrest]
        simp only [List.append_assoc]
      · have hle : start ≤ byteLength (before ++ text.takeWhile isBlank) := by
          rw [← hfirst]
          exact Nat.le_add_right _ _
        rw [hstop] at hlaid
        refine .cons hinner hle (Cut.ofChars_used_ne_nil hcut)
          (fun word hkind => Cut.used_of_name hcut hkind) ?_ hlaid
        rw [hfirst, hstop]

/-! ## Tags in a source -/

/-- The tag is written in the source between the two offsets, with its lexemes inside. -/
structure Tag.Written (source : List Char) (start : Nat) (tag : Tag) (stop : Nat) : Prop where
  edge_start : Edge source start
  edge_stop : Edge source stop
  lt : start < stop
  span : tag.span = Span.ofBounds start stop
  lexemes : Lexeme.Laid source start tag.lexemes stop
  inside : ∃ first, Edge source first ∧ start < first ∧ first ≤ stop ∧
    tag.inside =
      Span.ofBounds ((tag.lexemes.head?.map (·.span.start.toNat)).getD first)
        ((tag.lexemes.getLast?.map (·.span.stop)).getD first)

theorem Text.edge_append {source before rest : List Char} (hsource : source = before ++ rest) :
    Edge source (byteLength before) :=
  ⟨before, rest, hsource, rfl⟩

theorem Tag.written_of_scan {delimiter : Delimiter} {start : Nat}
    {source before text : List Char} {scanned : Scanned}
    (hscan : Tag.scan delimiter start text = .ok scanned)
    (hsource : source = before ++ (delimiter.opener ++ text)) (hstart : start = byteLength before) :
    ∃ written, delimiter.opener ++ text = written ++ scanned.rest ∧
      scanned.stop = byteLength (before ++ written) ∧
      scanned.tag.Written source start scanned.stop := by
  obtain ⟨interior, hinterior, rfl⟩ := exists_of_map_eq_ok hscan
  let left := Marker.ofChar? text.head?
  let content := before ++ (delimiter.opener ++ left.chars)
  have hcontent : start + Delimiter.width + left.width = byteLength content := by
    simp only [content, byteLength_append, Delimiter.byteLength_opener, Marker.byteLength_chars,
      hstart]
    omega
  have hinside : source = content ++ text.drop left.width := by
    rw [hsource]
    simp only [content, List.append_assoc]
    rw [Marker.chars_append_drop]
  obtain ⟨front, htext, hlaid, hstop⟩ := Interior.ofChars_laid hinterior hinside hcontent
  let written := delimiter.opener ++
    (left.chars ++ (front ++ (interior.right.chars ++ delimiter.closer)))
  have hwritten : delimiter.opener ++ text = written ++ interior.rest := by
    rw [← Marker.chars_append_drop text, htext]
    simp only [written, left, Delimiter.tail, List.append_assoc]
  have hwrittenStop : interior.stop = byteLength (before ++ written) := by
    rw [hstop]
    simp only [written, content, byteLength_append, Marker.byteLength_chars,
      Delimiter.byteLength_closer]
    omega
  have hwidth : Delimiter.width = 2 := rfl
  have hcontentStop : byteLength content + 2 ≤ interior.stop := by
    rw [hstop, byteLength_append content front]
    omega
  refine ⟨written, hwritten, hwrittenStop, ?_⟩
  rw [hwritten] at hsource
  constructor
  · rw [hstart]
    exact Text.edge_append hsource
  · change Edge source interior.stop
    rw [hwrittenStop]
    exact Text.edge_append (hsource.trans (List.append_assoc ..).symm)
  · change start < interior.stop
    omega
  · rfl
  · refine (hlaid.mono_low ?_).mono_high ?_
    · omega
    · change _ ≤ interior.stop
      omega
  · refine ⟨byteLength content, Text.edge_append hinside, ?_, ?_, ?_⟩
    · omega
    · change _ ≤ interior.stop
      omega
    · rw [← hcontent]
      rfl

/-! ## Tokens of a source -/

namespace Token

/-- The tag that the token is. -/
def tag? : Token → Option Tag
  | .expression tag => some tag
  | .block tag => some tag
  | _ => none

/-- The lexemes of a tag; other tokens have none. -/
def lexemes (token : Token) : List Lexeme :=
  (token.tag?.map Tag.lexemes).getD []

end Token

theorem Piece.raw_written {tag : Tag} {start : Nat} {before text : List Char} {piece : Piece}
    (hraw : Piece.raw tag start text = .ok piece) (hstart : start = byteLength before) :
    piece.token.bind Token.tag? = none ∧
      ∃ written, text = written ++ piece.rest ∧ piece.stop = byteLength (before ++ written) := by
  unfold Piece.raw at hraw
  split at hraw
  · cases hraw
  · next content left right rest hbreak =>
      obtain ⟨front, htext, -, -⟩ := Piece.breakRaw?_front hbreak
      cases hraw
      refine ⟨rfl, content ++ (front ++ Delimiter.block.closer), ?_, ?_⟩
      · rw [htext]
        simp only [List.append_assoc]
      · have hlength := congrArg byteLength htext
        simp only [byteLength_append] at hlength ⊢
        omega

theorem Piece.comment_written {start : Nat} {before text : List Char} {piece : Piece}
    (hcomment : Piece.comment start text = .ok piece) (hstart : start = byteLength before) :
    piece.token.bind Token.tag? = none ∧
      ∃ written, Delimiter.comment.opener ++ text = written ++ piece.rest ∧
        piece.stop = byteLength (before ++ written) := by
  obtain ⟨token, written, hmarkup⟩ := Piece.comment_isMarkup hcomment
  refine ⟨?_, written, hmarkup.append, ?_⟩
  · unfold Piece.comment at hcomment
    split at hcomment
    · cases hcomment
    · cases hcomment
      rfl
  · rw [hmarkup.stop, byteLength_append, hstart]

theorem Scanned.piece_written {delimiter : Delimiter} {scanned : Scanned} {start : Nat}
    {source before written : List Char} {piece : Piece}
    (hpiece : scanned.piece delimiter = .ok piece)
    (hstop : scanned.stop = byteLength (before ++ written))
    (htag : scanned.tag.Written source start scanned.stop) :
    ∃ more, scanned.rest = more ++ piece.rest ∧
      piece.stop = byteLength (before ++ (written ++ more)) ∧
      ∀ tag ∈ piece.token.bind Token.tag?, tag.Written source start piece.stop := by
  unfold Scanned.piece at hpiece
  split at hpiece
  · obtain ⟨hnone, more, hrest, hmore⟩ := Piece.raw_written hpiece hstop
    refine ⟨more, hrest, ?_, ?_⟩
    · rw [hmore, List.append_assoc]
    · rw [hnone]
      rintro tag ⟨⟩
  · cases hpiece
    refine ⟨[], rfl, ?_, ?_⟩
    · rw [List.append_nil]
      exact hstop
    · intro tag hmem
      obtain rfl : scanned.tag = tag := by
        dsimp only [Option.bind] at hmem
        split at hmem <;> exact Option.some.inj hmem
      exact htag

/-- A piece ends where the next begins, and a tag that it gives is written in it. -/
theorem Piece.ofChars_written {start : Nat} {trimsStart : Bool} {source before text : List Char}
    {piece : Piece} (hpiece : Piece.ofChars start trimsStart text = .ok piece)
    (hsource : source = before ++ text) (hstart : start = byteLength before) :
    ∃ written, text = written ++ piece.rest ∧ piece.stop = byteLength (before ++ written) ∧
      ∀ tag ∈ piece.token.bind Token.tag?, tag.Written source start piece.stop := by
  cases hdelimiter : Delimiter.ofChars? text with
  | none =>
      unfold Piece.ofChars at hpiece
      rw [hdelimiter] at hpiece
      cases hpiece
      refine ⟨(Piece.plainRun text).1, (Piece.plainRun_append text).symm, ?_, ?_⟩
      · rw [byteLength_append, hstart]
        rfl
      · intro tag hmem
        dsimp only [Piece.text] at hmem
        split at hmem <;> cases hmem
  | some delimiter =>
      have htext := Delimiter.ofChars?_eq_some hdelimiter
      by_cases hcomment : delimiter = .comment
      · rw [hcomment] at hdelimiter htext
        unfold Piece.ofChars at hpiece
        rw [hdelimiter] at hpiece
        obtain ⟨hnone, written, hwritten, hstop⟩ := Piece.comment_written hpiece hstart
        refine ⟨written, htext.trans hwritten, hstop, ?_⟩
        rw [hnone]
        rintro tag ⟨⟩
      · rw [htext] at hpiece hsource ⊢
        rw [Piece.ofChars_markup hcomment] at hpiece
        obtain ⟨scanned, hscan, hscanned⟩ := exists_of_bind_eq_ok hpiece
        obtain ⟨written, hwritten, hstop, htag⟩ := Tag.written_of_scan hscan hsource hstart
        obtain ⟨more, hrest, hmore, htags⟩ := Scanned.piece_written hscanned hstop htag
        refine ⟨written ++ more, ?_, hmore, htags⟩
        rw [hwritten, hrest, List.append_assoc]

/-- The lexemes of a source are written one behind the other, and each of its tags is written
in it. -/
theorem Token.ofCharsFrom_written {start : Nat} {trimsStart : Bool}
    {source before text : List Char} {tokens : List Token}
    (htokens : Token.ofCharsFrom start trimsStart text = .ok tokens)
    (hsource : source = before ++ text) (hstart : start = byteLength before) :
    Lexeme.Laid source start (tokens.flatMap Token.lexemes) (byteLength source) ∧
      ∀ token ∈ tokens, ∀ tag ∈ token.tag?, ∃ start stop, tag.Written source start stop := by
  by_cases htext : text = []
  · rw [htext, Token.ofCharsFrom] at htokens
    cases htokens
    refine ⟨.nil ?_, ?_⟩
    · rw [hsource, byteLength_append, hstart]
      exact Nat.le_add_right _ _
    · intro token hmem tag htag
      obtain rfl := List.mem_singleton.1 hmem
      cases htag
  · obtain ⟨piece, others, hpiece, hshorter, hothers, rfl⟩ := Token.exists_piece htext htokens
    obtain ⟨written, hwritten, hstop, htags⟩ := Piece.ofChars_written hpiece hsource hstart
    rw [hwritten, ← List.append_assoc] at hsource
    obtain ⟨hlaid, hrest⟩ := Token.ofCharsFrom_written hothers hsource hstop
    have hle : start ≤ piece.stop := by
      rw [hstop, hstart, byteLength_append]
      exact Nat.le_add_right _ _
    cases htoken : piece.token with
    | none => exact ⟨hlaid.mono_low hle, hrest⟩
    | some token =>
        rw [htoken] at htags
        refine ⟨?_, List.forall_mem_cons.2 ⟨fun tag htag => ⟨_, _, htags tag htag⟩, hrest⟩⟩
        have hfirst : Lexeme.Laid source start token.lexemes piece.stop := by
          cases htag : token.tag? with
          | none =>
              rw [Token.lexemes, htag]
              exact .nil hle
          | some tag =>
              rw [Token.lexemes, htag]
              exact (htags tag htag).lexemes
        exact hfirst.append hlaid
termination_by text.length

/-- A blank source can be cut into tokens, and has no tags. -/
theorem Token.exists_of_blank {text : List Char} (hblank : ∀ c ∈ text, isBlank c = true)
    (start : Nat) (trimsStart : Bool) :
    ∃ tokens, Token.ofCharsFrom start trimsStart text = .ok tokens ∧
      ∀ token ∈ tokens, token.tag? = none := by
  by_cases htext : text = []
  · refine ⟨[.eof (Span.clamp start)], ?_, ?_⟩
    · rw [htext, Token.ofCharsFrom]
    · rintro token hmem
      obtain rfl := List.mem_singleton.1 hmem
      rfl
  · have hdelimiter : Delimiter.ofChars? text = none := by
      cases hdelimiter : Delimiter.ofChars? text with
      | none => rfl
      | some delimiter =>
          have hbrace : '\x7b' ∈ text := by
            rw [Delimiter.ofChars?_eq_some hdelimiter]
            cases delimiter <;> exact List.mem_cons_self
          exact absurd (hblank _ hbrace) (by decide)
    have hpiece : Piece.ofChars start trimsStart text =
        .ok (Piece.text start trimsStart text) := by
      unfold Piece.ofChars
      rw [hdelimiter]
    have hshorter : (Piece.plainRun text).2.length < text.length := by
      obtain ⟨c, rest, rfl⟩ := List.exists_cons_of_ne_nil htext
      exact Piece.ofChars_rest_length_lt hpiece
    have hrest : ∀ c ∈ (Piece.plainRun text).2, isBlank c = true := by
      intro c hc
      apply hblank
      rw [← Piece.plainRun_append text]
      exact List.mem_append_right _ hc
    obtain ⟨others, hothers, hnone⟩ := Token.exists_of_blank hrest
      (Piece.text start trimsStart text).stop false
    refine ⟨(Piece.text start trimsStart text).token.toList ++ others, ?_, ?_⟩
    · rw [Token.ofCharsFrom_of_ne_nil htext, hpiece]
      change Except.map _ (Token.ofCharsFrom _ false (Piece.plainRun text).2) = _
      rw [hothers]
      rfl
    · rw [List.forall_mem_append]
      refine ⟨?_, hnone⟩
      intro token hmem
      dsimp only [Piece.text] at hmem
      split at hmem
      · cases hmem
      · obtain rfl := List.mem_singleton.1 hmem
        rfl
termination_by text.length

end TemplateVariables
