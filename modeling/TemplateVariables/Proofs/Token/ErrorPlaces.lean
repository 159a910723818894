import TemplateVariables.Proofs.Expr.ErrorPlaces
import TemplateVariables.Proofs.Token.Places

/-!
# Where errors in the text of a tag point

A source that cannot be cut into tokens has an opener without its closer, or a tag with a
character or a string that is no lexeme.  The error points to the opener, to the whole tag
that opens a raw block, to the character, or to all that follows the opening quote.
-/

namespace TemplateVariables

open Text

variable {source before : List Char} {start : Nat} (hlimit : byteLength source ≤ Span.limit)

include hlimit

theorem Cut.ofChars_points {afterDot : Bool} {c : Char} {rest : List Char}
    (hsource : source = before ++ (c :: rest)) (hstart : start = byteLength before) :
    Points source (Cut.ofChars afterDot start c rest) := by
  unfold Cut.ofChars
  rw [hstart]
  split
  · exact Settles.ok trivial
  split
  · exact Settles.ok trivial
  split
  · split
    · exact Settles.ok trivial
    · apply Settles.invalid
      apply Span.fits_ofParts hlimit
      rw [List.append_nil]
      exact hsource
  · split
    · exact Settles.ok trivial
    · have hwidth : c.utf8Size = byteLength [c] := by
        rw [byteLength_cons, byteLength_nil, Nat.add_zero]
      apply Settles.invalid
      rw [hwidth]
      exact Span.fits_ofParts hlimit hsource

/-- Inside a tag the opener is blamed for a missing closer, and what is no lexeme for itself. -/
theorem Interior.ofChars_points {delimiter : Delimiter} {opened : Nat}
    (hopened : (Span.ofParts opened Delimiter.width).Fits source) {brackets : List Punct}
    {afterDot : Bool} {text : List Char} (hsource : source = before ++ text)
    (hstart : start = byteLength before) :
    Points source (Interior.ofChars delimiter opened start brackets afterDot text) := by
  fun_induction Interior.ofChars delimiter opened start brackets afterDot text
      generalizing before with
  | case1 => exact Settles.error ⟨hopened, rfl⟩
  | case2 => exact Settles.ok trivial
  | case3 start _ _ text first c inside hinside _ error =>
      rename_i hcut
      have hsplit := trimStart_append text
      rw [hinside] at hsplit
      have hfirst : first = byteLength (before ++ text.takeWhile isBlank) := by
        rw [byteLength_append, ← hstart]
      have hinner : source = (before ++ text.takeWhile isBlank) ++ (c :: inside) := by
        rw [hsource, List.append_assoc, hsplit]
      exact Settles.error ((Cut.ofChars_points hlimit hinner hfirst).of_error error hcut)
  | case4 start _ _ text first c inside hinside _ cut hcut stop error =>
      rename_i hbelow ih
      have hsplit := trimStart_append text
      rw [hinside, ← Cut.ofChars_append hcut] at hsplit
      have hfirst : first = byteLength (before ++ text.takeWhile isBlank) := by
        rw [byteLength_append, ← hstart]
      have hstop : stop = byteLength ((before ++ text.takeWhile isBlank) ++ cut.used) := by
        rw [byteLength_append, ← hfirst]
      have hinner : source = ((before ++ text.takeWhile isBlank) ++ cut.used) ++ cut.rest := by
        rw [hsource, List.append_assoc, List.append_assoc, hsplit]
      exact Settles.error ((ih hinner hstop).of_error error hbelow)
  | case5 => exact Settles.ok trivial

theorem Delimiter.opener_fits {delimiter : Delimiter} {text : List Char}
    (hsource : source = before ++ (delimiter.opener ++ text)) :
    (Span.ofParts (byteLength before) Delimiter.width).Fits source := by
  rw [← delimiter.byteLength_opener]
  exact Span.fits_ofParts hlimit hsource

theorem Tag.scan_points {delimiter : Delimiter} {text : List Char}
    (hsource : source = before ++ (delimiter.opener ++ text)) (hstart : start = byteLength before) :
    Points source (Tag.scan delimiter start text) := by
  have hopened := Delimiter.opener_fits hlimit hsource
  have hcontent : start + Delimiter.width + (Marker.ofChar? text.head?).width =
      byteLength (before ++ (delimiter.opener ++ (Marker.ofChar? text.head?).chars)) := by
    simp only [byteLength_append, Delimiter.byteLength_opener, Marker.byteLength_chars, hstart]
    omega
  have hinside : source = (before ++ (delimiter.opener ++ (Marker.ofChar? text.head?).chars)) ++
      text.drop (Marker.ofChar? text.head?).width := by
    simp only [List.append_assoc]
    rw [Marker.chars_append_drop]
    exact hsource
  rw [← hstart] at hopened
  exact (Interior.ofChars_points hlimit hopened hinside hcontent).map

theorem Scanned.piece_points {delimiter : Delimiter} {scanned : Scanned}
    (htag : scanned.tag.Written source start scanned.stop) :
    Points source (scanned.piece delimiter) := by
  unfold Scanned.piece
  split
  · unfold Piece.raw
    split
    · refine Settles.error ⟨?_, rfl⟩
      change Span.Fits source scanned.tag.span
      rw [htag.span]
      exact (Span.marks_ofBounds hlimit htag.edge_start htag.edge_stop htag.lt).1.fits hlimit
    · exact Settles.ok trivial
  · exact Settles.ok trivial

theorem Piece.ofChars_points {trimsStart : Bool} {text : List Char}
    (hsource : source = before ++ text) (hstart : start = byteLength before) :
    Points source (Piece.ofChars start trimsStart text) := by
  cases hdelimiter : Delimiter.ofChars? text with
  | none =>
      unfold Piece.ofChars
      rw [hdelimiter]
      exact Settles.ok trivial
  | some delimiter =>
      have htext := Delimiter.ofChars?_eq_some hdelimiter
      by_cases hcomment : delimiter = .comment
      · rw [htext, hcomment] at hsource
        rw [hcomment] at hdelimiter
        unfold Piece.ofChars
        rw [hdelimiter]
        dsimp only
        unfold Piece.comment
        split
        · rw [hstart]
          exact Settles.error ⟨Delimiter.opener_fits hlimit hsource, rfl⟩
        · exact Settles.ok trivial
      · rw [htext] at hsource
        rw [htext, Piece.ofChars_markup hcomment]
        have hscan := Tag.scan_points hlimit hsource hstart
        apply (hscan.and (fun scanned hok => (Tag.written_of_scan hok hsource hstart))).bind
        rintro scanned ⟨-, written, -, -, htag⟩
        exact Scanned.piece_points hlimit htag

/-- A source that cannot be cut into tokens has the error at one of its places. -/
theorem Token.ofCharsFrom_points {start : Nat} {trimsStart : Bool} {before text : List Char}
    (hsource : source = before ++ text) (hstart : start = byteLength before) :
    Points source (Token.ofCharsFrom start trimsStart text) := by
  by_cases htext : text = []
  · rw [htext, Token.ofCharsFrom]
    exact Settles.ok trivial
  · rw [Token.ofCharsFrom_of_ne_nil htext]
    cases hpiece : Piece.ofChars start trimsStart text with
    | error error =>
        exact Settles.error ((Piece.ofChars_points hlimit hsource hstart).of_error error hpiece)
    | ok piece =>
        obtain ⟨written, hwritten, hstop, -⟩ := Piece.ofChars_written hpiece hsource hstart
        have hshorter : piece.rest.length < text.length := by
          obtain ⟨c, more, rfl⟩ := List.exists_cons_of_ne_nil htext
          exact Piece.ofChars_rest_length_lt hpiece
        rw [hwritten, ← List.append_assoc] at hsource
        exact (Token.ofCharsFrom_points hsource hstop).map
termination_by text.length

end TemplateVariables
