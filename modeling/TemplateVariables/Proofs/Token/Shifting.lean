import TemplateVariables.Proofs.Token.Scanning

/-!
# Templates that begin further on

Where a template begins is only seen in the spans of its tokens and of its errors.  The
same template read from an offset further on gives the same tokens, moved by as many
bytes, as long as all of them are within the limit of a span.
-/

namespace TemplateVariables

open Text

/-! ## Moving spans -/

def Span.shift (count : Nat) (span : Span) : Span :=
  { span with start := clamp (span.start.toNat + count) }

def Lexeme.shift (count : Nat) (lexeme : Lexeme) : Lexeme :=
  { lexeme with span := lexeme.span.shift count }

def Tag.shift (count : Nat) (tag : Tag) : Tag where
  lexemes := tag.lexemes.map (Lexeme.shift count)
  span := tag.span.shift count
  inside := tag.inside.shift count
  left := tag.left
  right := tag.right

def Token.shift (count : Nat) : Token → Token
  | .text content span => .text content (span.shift count)
  | .expression tag => .expression (tag.shift count)
  | .block tag => .block (tag.shift count)
  | .comment span => .comment (span.shift count)
  | .raw content span => .raw content (span.shift count)
  | .eof offset => .eof (Span.clamp (offset.toNat + count))

/-- The error with all its spans changed. -/
def ParseError.mapSpans (f : Span → Span) : ParseError → ParseError
  | .unclosedTag tag expected span => .unclosedTag tag expected (f span)
  | .unexpectedTag tag span => .unexpectedTag tag (f span)
  | .mismatchedTag tag expected opener openerSpan span =>
      .mismatchedTag tag expected opener (f openerSpan) (f span)
  | .unknownTag tag span => .unknownTag tag (f span)
  | .emptyTag span => .emptyTag (f span)
  | .emptyExpression span => .emptyExpression (f span)
  | .invalidSyntax fault span => .invalidSyntax fault (f span)
  | .unclosedDelimiter delimiter span => .unclosedDelimiter delimiter (f span)

def ParseError.shift (count : Nat) (error : ParseError) : ParseError :=
  error.mapSpans (Span.shift count)

/-- A result with the value or the error moved. -/
def shiftResult {α : Type} (move : α → α) (count : Nat) :
    Except ParseError α → Except ParseError α
  | .ok value => .ok (move value)
  | .error error => .error (error.shift count)

/-- What is read in two steps is moved when each step is. -/
theorem shiftResult_bind {α β : Type} {move : α → α} {moveNext : β → β} {count : Nat}
    {first moved : Except ParseError α} {next nextMoved : α → Except ParseError β}
    (hfirst : moved = shiftResult move count first)
    (hnext : ∀ value, first = .ok value →
      nextMoved (move value) = shiftResult moveNext count (next value)) :
    moved >>= nextMoved = shiftResult moveNext count (first >>= next) := by
  subst hfirst
  cases first with
  | error error => rfl
  | ok value => exact hnext value rfl

theorem shiftResult_map {α β : Type} {move : α → α} {moveNext : β → β} {count : Nat}
    {first moved : Except ParseError α} {f fMoved : α → β}
    (hfirst : moved = shiftResult move count first)
    (hnext : ∀ value, first = .ok value → fMoved (move value) = moveNext (f value)) :
    moved.map fMoved = shiftResult moveNext count (first.map f) := by
  subst hfirst
  cases first with
  | error error => rfl
  | ok value => exact congrArg Except.ok (hnext value rfl)

section Spans

variable {count start length stop : Nat}

theorem Span.shift_ofParts (hlimit : start + length + count ≤ limit) :
    ofParts (start + count) length = (ofParts start length).shift count := by
  have hlength : length ≤ limit := by omega
  unfold shift ofParts
  simp only [if_pos hlength, toNat_clamp]
  rw [Nat.min_eq_left (by omega)]

theorem Span.shift_ofBounds (hstart : start + count ≤ limit) (hstop : stop + count ≤ limit) :
    ofBounds (start + count) (stop + count) = (ofBounds start stop).shift count := by
  unfold ofBounds
  rw [Nat.add_sub_add_right, shift_ofParts (by omega)]

/-- The span can be moved by so many bytes. -/
def Span.Movable (count : Nat) (span : Span) : Prop :=
  span.start.toNat + span.length.toNat + count ≤ limit

theorem Span.movable_ofBounds (hstart : start + count ≤ limit) (hstop : stop + count ≤ limit) :
    (ofBounds start stop).Movable count := by
  unfold Movable
  rw [toNat_start_ofBounds (by omega), toNat_length_ofBounds (by omega)]
  omega

theorem Span.Movable.toNat_start {span : Span} (hspan : span.Movable count) :
    (span.shift count).start.toNat = span.start.toNat + count := by
  unfold Movable at hspan
  unfold shift
  rw [toNat_clamp, Nat.min_eq_left (by omega)]

theorem Span.Movable.stop_shift {span : Span} (hspan : span.Movable count) :
    (span.shift count).stop = span.stop + count := by
  have hstart := hspan.toNat_start
  unfold Movable at hspan
  unfold Span.stop
  rw [hstart]
  change min (span.start.toNat + count + span.length.toNat) limit = _
  omega

end Spans

/-! ## Tags -/

theorem Cut.ofChars_shift {count start : Nat} {c : Char} {rest : List Char} (afterDot : Bool)
    (hlimit : start + byteLength (c :: rest) + count ≤ Span.limit) :
    Cut.ofChars afterDot (start + count) c rest =
      shiftResult id count (Cut.ofChars afterDot start c rest) := by
  unfold Cut.ofChars
  split
  · rfl
  split
  · rfl
  split
  · split
    · rfl
    · rw [Span.shift_ofParts hlimit]
      rfl
  · split
    · rfl
    · rw [byteLength_cons] at hlimit
      rw [Span.shift_ofParts (by omega)]
      rfl

def Interior.shift (count : Nat) (interior : Interior) : Interior :=
  { interior with
    lexemes := interior.lexemes.map (Lexeme.shift count)
    stop := interior.stop + count }

theorem Interior.ofCut_shift {delimiter : Delimiter} {opened first count : Nat}
    {brackets : List Punct} {cut : Cut}
    (hlimit : first + byteLength cut.used + count ≤ Span.limit)
    (hbelow : Interior.ofChars delimiter (opened + count) (first + byteLength cut.used + count)
        (bracketsAfter brackets cut.kind) (cut.kind == .punct .dot) cut.rest =
      shiftResult (Interior.shift count) count
        (Interior.ofChars delimiter opened (first + byteLength cut.used)
          (bracketsAfter brackets cut.kind) (cut.kind == .punct .dot) cut.rest)) :
    ofCut delimiter (opened + count) (first + count) brackets cut =
      shiftResult (Interior.shift count) count (ofCut delimiter opened first brackets cut) := by
  have hstop : first + count + byteLength cut.used = first + byteLength cut.used + count := by
    omega
  unfold ofCut
  dsimp only
  rw [hstop, hbelow, Span.shift_ofBounds (by omega) hlimit]
  cases Interior.ofChars delimiter opened (first + byteLength cut.used)
    (bracketsAfter brackets cut.kind) (cut.kind == .punct .dot) cut.rest <;> rfl

theorem Interior.ofChars_shift {delimiter : Delimiter} {opened start count : Nat}
    {text : List Char} (brackets : List Punct) (afterDot : Bool)
    (hopened : opened + Delimiter.width ≤ start)
    (hlimit : start + byteLength text + count ≤ Span.limit) :
    Interior.ofChars delimiter (opened + count) (start + count) brackets afterDot text =
      shiftResult (Interior.shift count) count
        (Interior.ofChars delimiter opened start brackets afterDot text) := by
  have hsplit := trimStart_append text
  cases htrim : trimStart text with
  | nil =>
      rw [ofChars_of_nil htrim, ofChars_of_nil htrim, Span.shift_ofParts (by omega)]
      rfl
  | cons c inside =>
      let blank := text.takeWhile isBlank
      have hlength : byteLength blank + byteLength (c :: inside) = byteLength text := by
        rw [← byteLength_append, ← htrim, hsplit]
      have hfirst : start + count + byteLength blank = start + byteLength blank + count := by
        omega
      cases hending : delimiter.ending? brackets (c :: inside) with
      | some ends =>
          obtain ⟨right, rest⟩ := ends
          have hstop : start + byteLength blank + count + right.width + Delimiter.width =
              start + byteLength blank + right.width + Delimiter.width + count := by
            omega
          rw [ofChars_of_ending htrim hending, ofChars_of_ending htrim hending, hfirst, hstop]
          rfl
      | none =>
          rw [ofChars_of_none htrim hending, ofChars_of_none htrim hending]
          change Cut.ofChars afterDot (start + count + byteLength blank) c inside >>= ofCut
            delimiter (opened + count) (start + count + byteLength blank) brackets = _
          rw [hfirst]
          refine shiftResult_bind (Cut.ofChars_shift afterDot (by omega)) fun cut hcut => ?_
          have hcutLength := congrArg byteLength (Cut.ofChars_append hcut)
          rw [byteLength_append] at hcutLength
          have hshorter : cut.rest.length < text.length := by
            have hrest := Cut.ofChars_rest_length_lt hcut
            have htrimmed := length_trimStart_le text
            rw [htrim] at htrimmed
            omega
          rw [id_eq]
          refine ofCut_shift (by omega) (Interior.ofChars_shift _ _ (by omega) (by omega))
termination_by text.length

theorem TagBody.movable_of_mem_place {start count : Nat} {lexemes : List WrittenLexeme}
    (hlimit : start + byteLength (lexemes.flatMap fun lexeme => lexeme.blank ++ lexeme.used) +
      count ≤ Span.limit) :
    ∀ lexeme ∈ place start lexemes, lexeme.span.Movable count := by
  induction lexemes generalizing start with
  | nil => exact fun _ hmem => absurd hmem List.not_mem_nil
  | cons lexeme lexemes ih =>
      simp only [List.flatMap_cons, byteLength_append] at hlimit
      intro placed hmem
      rcases List.mem_cons.1 hmem with rfl | hmem
      · exact Span.movable_ofBounds (by omega) (by omega)
      · exact ih (by omega) placed hmem

theorem Interior.movable_of_ofChars {delimiter : Delimiter} {opened start count : Nat}
    {brackets : List Punct} {afterDot : Bool} {text : List Char} {interior : Interior}
    (hinterior : Interior.ofChars delimiter opened start brackets afterDot text = .ok interior)
    (hlimit : start + byteLength text + count ≤ Span.limit) :
    interior.stop + count ≤ Span.limit ∧
      ∀ lexeme ∈ interior.lexemes, lexeme.span.Movable count := by
  obtain ⟨body, htext, hbody⟩ := Interior.exists_body hinterior
  have hinside := Interior.eq_of_body hinterior htext hbody
  rw [htext, Delimiter.tail] at hlimit
  simp only [byteLength_append, Marker.byteLength_chars, Delimiter.byteLength_closer] at hlimit
  rw [hinside]
  constructor
  · change start + byteLength body.chars + interior.right.width + Delimiter.width + count ≤ _
    omega
  · apply TagBody.movable_of_mem_place
    rw [TagBody.chars, byteLength_append] at hlimit
    omega

def Scanned.shift (count : Nat) (scanned : Scanned) : Scanned :=
  { scanned with
    tag := scanned.tag.shift count
    stop := scanned.stop + count }

/-- The start of a lexeme, or another offset where there is none. -/
theorem Lexeme.start_shift {count offset : Nat} {found : Option Lexeme}
    (hfound : ∀ lexeme ∈ found, lexeme.span.Movable count) (hoffset : offset + count ≤ Span.limit) :
    ((found.map (Lexeme.shift count)).map (·.span.start.toNat)).getD (offset + count) =
        (found.map (·.span.start.toNat)).getD offset + count ∧
      (found.map (·.span.start.toNat)).getD offset + count ≤ Span.limit := by
  cases found with
  | none => exact ⟨rfl, hoffset⟩
  | some lexeme =>
      have hmovable := hfound lexeme rfl
      refine ⟨hmovable.toNat_start, ?_⟩
      unfold Span.Movable at hmovable
      change lexeme.span.start.toNat + count ≤ Span.limit
      omega

theorem Lexeme.stop_shift {count offset : Nat} {found : Option Lexeme}
    (hfound : ∀ lexeme ∈ found, lexeme.span.Movable count) (hoffset : offset + count ≤ Span.limit) :
    ((found.map (Lexeme.shift count)).map (·.span.stop)).getD (offset + count) =
        (found.map (·.span.stop)).getD offset + count ∧
      (found.map (·.span.stop)).getD offset + count ≤ Span.limit := by
  cases found with
  | none => exact ⟨rfl, hoffset⟩
  | some lexeme =>
      have hmovable := hfound lexeme rfl
      refine ⟨hmovable.stop_shift, ?_⟩
      unfold Span.Movable at hmovable
      change min _ Span.limit + count ≤ Span.limit
      omega

theorem Scanned.ofInterior_shift {start count : Nat} {left : Marker} {interior : Interior}
    (hstart : start + Delimiter.width + left.width + count ≤ Span.limit)
    (hstop : interior.stop + count ≤ Span.limit)
    (hlexemes : ∀ lexeme ∈ interior.lexemes, lexeme.span.Movable count) :
    ofInterior (start + count) left (interior.shift count) =
      (ofInterior start left interior).shift count := by
  obtain ⟨hfirst, hfirstLimit⟩ := Lexeme.start_shift
    (fun lexeme hmem => hlexemes lexeme (List.mem_of_head? hmem)) hstart
  obtain ⟨hlast, hlastLimit⟩ := Lexeme.stop_shift
    (fun lexeme hmem => hlexemes lexeme (List.mem_of_getLast? hmem)) hstart
  have hcontent : start + count + Delimiter.width + left.width =
      start + Delimiter.width + left.width + count := by
    omega
  unfold ofInterior
  simp only [Interior.shift, List.head?_map, List.getLast?_map, hcontent, hfirst, hlast]
  rw [Span.shift_ofBounds (by omega) hstop, Span.shift_ofBounds hfirstLimit hlastLimit]
  rfl

theorem Tag.scan_shift {delimiter : Delimiter} {start count : Nat} {source : List Char}
    (hlimit : start + Delimiter.width + byteLength source + count ≤ Span.limit) :
    Tag.scan delimiter (start + count) source =
      shiftResult (Scanned.shift count) count (Tag.scan delimiter start source) := by
  have hsource := Marker.chars_append_drop source
  unfold Tag.scan
  generalize Marker.ofChar? source.head? = left at hsource ⊢
  dsimp only
  have hlength := congrArg byteLength hsource
  rw [byteLength_append, Marker.byteLength_chars] at hlength
  have hcontent : start + count + Delimiter.width + left.width =
      start + Delimiter.width + left.width + count := by
    omega
  have hinside : start + Delimiter.width + left.width + byteLength (source.drop left.width) +
      count ≤ Span.limit := by
    omega
  rw [hcontent]
  refine shiftResult_map (Interior.ofChars_shift [] false (by omega) hinside)
    fun interior hinterior => ?_
  obtain ⟨hstop, hlexemes⟩ := Interior.movable_of_ofChars hinterior hinside
  exact Scanned.ofInterior_shift (by omega) hstop hlexemes

/-! ## Pieces -/

namespace Piece

variable {start count : Nat} {source : List Char}

def shift (count : Nat) (piece : Piece) : Piece :=
  { piece with
    token := piece.token.map (Token.shift count)
    stop := piece.stop + count }

theorem text_shift (trimsStart : Bool)
    (hlimit : start + byteLength source + count ≤ Span.limit) :
    text (start + count) trimsStart source = (text start trimsStart source).shift count := by
  obtain ⟨lead, trail, htrims, hlead⟩ :=
    trims_trimmed trimsStart (trimsPrevious (plainRun source).2) (plainRun source).1
  have hsource := congrArg byteLength (plainRun_append source)
  have hrun := congrArg byteLength htrims.append
  simp only [byteLength_append] at hsource hrun
  unfold text
  dsimp only
  rw [← hlead, Nat.add_right_comm start count (byteLength lead), Span.shift_ofParts (by omega),
    Nat.add_right_comm start count]
  unfold shift
  dsimp only
  split <;> rfl

theorem comment_shift
    (hlimit : start + Delimiter.width + byteLength source + count ≤ Span.limit) :
    comment (start + count) source = shiftResult (shift count) count (comment start source) := by
  unfold comment
  split
  · rw [Span.shift_ofParts (by omega)]
    rfl
  · next content rest hbreak =>
      have hlength := congrArg byteLength (breakOn?_append hbreak)
      simp only [byteLength_append, Delimiter.byteLength_closer] at hlength
      have hstop : start + count + Delimiter.width + byteLength content + Delimiter.width =
          start + Delimiter.width + byteLength content + Delimiter.width + count := by
        omega
      rw [hstop]
      dsimp only
      rw [Span.shift_ofBounds (by omega) (by omega)]
      rfl

theorem raw_shift {tag : Tag} (htag : tag.span.Movable count)
    (hlimit : start + byteLength source + count ≤ Span.limit) :
    raw (tag.shift count) (start + count) source =
      shiftResult (shift count) count (raw tag start source) := by
  have hstart : tag.span.start.toNat + count ≤ Span.limit := by
    unfold Span.Movable at htag
    omega
  unfold raw
  split
  · rfl
  · next content left right rest hbreak =>
      have hspan : (tag.shift count).span.start.toNat = tag.span.start.toNat + count :=
        htag.toNat_start
      dsimp only
      rw [Nat.add_right_comm start count, hspan, Span.shift_ofBounds hstart (by omega)]
      rfl

theorem opensRaw_shift (tag : Tag) : opensRaw (tag.shift count) = opensRaw tag := by
  have hkinds : (tag.shift count).lexemes.map Lexeme.kind = tag.lexemes.map Lexeme.kind := by
    simp [Tag.shift, Lexeme.shift, Function.comp_def]
  unfold opensRaw
  rw [hkinds]

theorem shift_piece (delimiter : Delimiter) {scanned : Scanned}
    (hspan : scanned.tag.span.Movable count)
    (hlimit : scanned.stop + byteLength scanned.rest + count ≤ Span.limit) :
    (scanned.shift count).piece delimiter =
      shiftResult (shift count) count (scanned.piece delimiter) := by
  unfold Scanned.piece
  rw [show (scanned.shift count).tag = scanned.tag.shift count from rfl, opensRaw_shift]
  split
  · exact raw_shift hspan hlimit
  · cases delimiter <;> rfl

theorem markup_shift (delimiter : Delimiter)
    (hlimit : start + Delimiter.width + byteLength source + count ≤ Span.limit) :
    (Tag.scan delimiter (start + count) source >>= fun scanned => scanned.piece delimiter) =
      shiftResult (shift count) count
        (Tag.scan delimiter start source >>= fun scanned => scanned.piece delimiter) := by
  refine shiftResult_bind (Tag.scan_shift hlimit) fun scanned hscan => ?_
  obtain ⟨front, hsource, hstop, -⟩ := Tag.exists_scan_append hscan
  have hlength := congrArg byteLength hsource
  rw [byteLength_append] at hlength
  apply shift_piece
  · rw [Tag.span_of_scan hscan]
    exact Span.movable_ofBounds (by omega) (by omega)
  · omega

theorem ofChars_shift (trimsStart : Bool)
    (hlimit : start + byteLength source + count ≤ Span.limit) :
    ofChars (start + count) trimsStart source =
      shiftResult (shift count) count (ofChars start trimsStart source) := by
  cases hdelimiter : Delimiter.ofChars? source with
  | none =>
      unfold ofChars
      rw [hdelimiter]
      exact congrArg Except.ok (text_shift trimsStart hlimit)
  | some delimiter =>
      have hsource := Delimiter.ofChars?_eq_some hdelimiter
      have hlength := congrArg byteLength hsource
      rw [byteLength_append, Delimiter.byteLength_opener] at hlength
      by_cases hcomment : delimiter = .comment
      · subst hcomment
        unfold ofChars
        rw [hdelimiter]
        exact comment_shift (by omega)
      · rw [hsource, ofChars_markup hcomment, ofChars_markup hcomment]
        exact markup_shift delimiter (by omega)

theorem exists_written {trimsStart : Bool} {piece : Piece} (hstart : start ≤ Span.limit)
    (hpiece : ofChars start trimsStart source = .ok piece) :
    ∃ written, source = written ++ piece.rest ∧ piece.stop = start + byteLength written := by
  cases hdelimiter : Delimiter.ofChars? source with
  | none =>
      unfold ofChars at hpiece
      rw [hdelimiter] at hpiece
      cases hpiece
      exact ⟨(plainRun source).1, (plainRun_append source).symm, rfl⟩
  | some delimiter =>
      obtain ⟨token, written, hmarkup⟩ := ofChars_isMarkup hstart hdelimiter hpiece
      exact ⟨written, hmarkup.append, hmarkup.stop⟩

end Piece

/-- The tokens of a template that begins further on. -/
theorem Token.ofCharsFrom_shift {start count : Nat} {source : List Char} (trimsStart : Bool)
    (hlimit : start + byteLength source + count ≤ Span.limit) :
    Token.ofCharsFrom (start + count) trimsStart source =
      shiftResult (List.map (Token.shift count)) count
        (Token.ofCharsFrom start trimsStart source) := by
  cases source with
  | nil =>
      rw [byteLength_nil] at hlimit
      have hend : (Span.clamp start).toNat = start := by
        rw [Span.toNat_clamp, Nat.min_eq_left (by omega)]
      rw [ofCharsFrom, ofCharsFrom]
      change _ = Except.ok [Token.eof (Span.clamp ((Span.clamp start).toNat + count))]
      rw [hend]
  | cons c rest =>
      rw [ofCharsFrom_of_ne_nil (List.cons_ne_nil c rest),
        ofCharsFrom_of_ne_nil (List.cons_ne_nil c rest)]
      refine shiftResult_bind (Piece.ofChars_shift trimsStart hlimit) fun piece hpiece => ?_
      have hshorter := Piece.ofChars_rest_length_lt hpiece
      obtain ⟨written, hwritten, hstop⟩ := Piece.exists_written (by omega) hpiece
      have hbelow : piece.stop + byteLength piece.rest + count ≤ Span.limit := by
        rw [hwritten, byteLength_append] at hlimit
        omega
      refine shiftResult_map (Token.ofCharsFrom_shift piece.trimsNext hbelow) fun tokens _ => ?_
      rw [List.map_append, ← Option.toList_map]
      rfl
termination_by source.length

end TemplateVariables
