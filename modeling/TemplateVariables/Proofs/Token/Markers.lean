import TemplateVariables.Proofs.SpanArithmetic
import TemplateVariables.Token.Piece
import Mathlib.Data.List.DropRight

/-!
# Markers as they are written

Whether a tag, a comment or a raw block trims the text beside it can be read off
its characters: the first one behind its opener, and the last one in front of its
closer.  Where a tag ends is decided lexeme by lexeme, so the second half has to
be carried through its inside: no lexeme that stands right before the closer ends
in a dash.
-/

namespace TemplateVariables

open Text

/-! ## Closers behind a marker -/

/-- How a marker is written. -/
def Marker.chars : Marker → List Char
  | .preserve => []
  | .trim => ['-']
  | .keep => ['+']

theorem Marker.chars_append_drop (text : List Char) :
    (Marker.ofChar? text.head?).chars ++ text.drop (Marker.ofChar? text.head?).width = text := by
  unfold Marker.ofChar?
  split <;> cases text <;> simp_all [Marker.chars, Marker.width]

theorem Delimiter.closing?_append {delimiter : Delimiter} {text rest : List Char}
    {marker : Marker} (hclosing : delimiter.closing? text = some (marker, rest)) :
    text = marker.chars ++ (delimiter.closer ++ rest) := by
  have hmarker := Delimiter.closing?_eq_some hclosing
  rw [← hmarker.2, hmarker.1, Marker.chars_append_drop]

/-! ## Last characters -/

/-- The last character of the text, if it has one, has the property. -/
def Text.EndsIn (p : Char → Prop) (text : List Char) : Prop :=
  ∀ c ∈ text.getLast?, p c

theorem Text.EndsIn.append {p : Char → Prop} {before after : List Char}
    (hbefore : EndsIn p before) (hafter : EndsIn p after) : EndsIn p (before ++ after) := by
  intro c hc
  rw [List.getLast?_append] at hc
  cases hlast : after.getLast? with
  | none => exact hbefore c (by simpa [hlast] using hc)
  | some last => exact hafter c (by simpa [hlast] using hc)

theorem Text.endsIn_of_forall {p : Char → Prop} {text : List Char}
    (htext : ∀ c ∈ text, p c) : EndsIn p text :=
  fun c hc => htext c (List.mem_of_getLast? hc)

theorem Text.endsIn_takeWhile (p : Char → Bool) (text : List Char) :
    EndsIn (p · = true) (text.takeWhile p) :=
  endsIn_of_forall fun _ hc => List.mem_takeWhile_imp hc

theorem Text.EndsIn.append_left {p : Char → Prop} {after : List Char} (hafter : EndsIn p after)
    (hne : after ≠ []) (before : List Char) : EndsIn p (before ++ after) := by
  intro c hc
  rw [List.getLast?_append_of_ne_nil _ hne] at hc
  exact hafter c hc

theorem Text.EndsIn.cons {p : Char → Prop} {text : List Char} (htext : EndsIn p text)
    (hne : text ≠ []) (c : Char) : EndsIn p (c :: text) :=
  htext.append_left hne [c]

namespace Cut

theorem endsIn_fraction (text : List Char) :
    EndsIn (isDigitPart · = true) (fraction text).1 := by
  unfold fraction
  split
  · next c rest =>
      split
      · next hdigit =>
          have hpart : isDigitPart c = true := by simp [isDigitPart, hdigit]
          apply EndsIn.cons (endsIn_takeWhile isDigitPart (c :: rest))
          simp [hpart]
      · simp [EndsIn]
  · simp [EndsIn]

theorem endsIn_exponent (text : List Char) :
    EndsIn (isDigitPart · = true) (exponent text).1 := by
  cases text with
  | nil => simp [exponent, EndsIn]
  | cons mark rest =>
      simp only [exponent]
      split
      · split
        · next hdigit =>
            have hdigits : (sign rest).2.takeWhile isDigitPart ≠ [] := by
              cases hrest : (sign rest).2 with
              | nil => simp [hrest] at hdigit
              | cons c others =>
                  have hc : c.isDigit = true := by simpa [hrest] using hdigit
                  simp [isDigitPart, hc]
            have hlast := endsIn_takeWhile isDigitPart (sign rest).2
            apply (hlast.append_left hdigits (sign rest).1).cons
            simp [hdigits]
        · simp [EndsIn]
      · simp [EndsIn]

theorem endsIn_numeral (afterDot : Bool) (text : List Char) :
    EndsIn (isDigitPart · = true) (numeral afterDot text).1 := by
  have hwhole := endsIn_takeWhile isDigitPart text
  unfold numeral
  dsimp only
  split
  · exact hwhole
  · exact (hwhole.append (endsIn_fraction _)).append (endsIn_exponent _)

theorem endsIn_quoted {quote : Char} {text value used rest : List Char}
    (hquoted : quoted? quote text = some (value, used, rest)) :
    used ≠ [] ∧ EndsIn (· = quote) used := by
  fun_induction quoted? quote text generalizing value used rest with
  | case1 => cases hquoted
  | case2 c hquote =>
      cases hquoted
      simpa [EndsIn] using hquote
  | case3 => cases hquoted
  | case4 c next others hquote =>
      cases hquoted
      simpa [EndsIn] using hquote
  | case5 c next others _ _ ih =>
      obtain ⟨⟨inner, innerUsed, innerRest⟩, hinner, hpair⟩ := Option.map_eq_some_iff.1 hquoted
      cases hpair
      have hbelow := ih hinner
      refine ⟨List.cons_ne_nil _ _, EndsIn.cons (EndsIn.cons hbelow.2 hbelow.1 next) ?_ c⟩
      exact List.cons_ne_nil _ _
  | case6 c next others _ _ ih =>
      obtain ⟨⟨inner, innerUsed, innerRest⟩, hinner, hpair⟩ := Option.map_eq_some_iff.1 hquoted
      cases hpair
      have hbelow := ih hinner
      exact ⟨List.cons_ne_nil _ _, EndsIn.cons hbelow.2 hbelow.1 c⟩

theorem punct?_used {text : List Char} {cut : Cut} (hcut : punct? text = some cut) :
    ∃ mark, cut.kind = .punct mark ∧ cut.used = mark.chars := by
  unfold punct? at hcut
  split at hcut
  · next mark hdouble =>
      cases hcut
      refine ⟨mark, rfl, ?_⟩
      unfold double? at hdouble
      split at hdouble <;> cases hdouble <;> rfl
  · obtain ⟨mark, hsingle, rfl⟩ := Option.map_eq_some_iff.1 hcut
    obtain ⟨c, hhead, hmark⟩ := Option.bind_eq_some_iff.1 hsingle
    obtain ⟨others, rfl⟩ := List.head?_eq_some_iff.1 hhead
    refine ⟨mark, rfl, ?_⟩
    unfold single? at hmark
    split at hmark <;> cases hmark <;> rfl

/-- Only a minus sign ends in a dash. -/
theorem eq_minus_of_getLast? {afterDot : Bool} {start : Nat} {c : Char} {rest : List Char}
    {cut : Cut} (hcut : Cut.ofChars afterDot start c rest = .ok cut)
    (hlast : cut.used.getLast? = some '-') :
    cut.kind = .punct .minus ∧ cut.used = ['-'] := by
  unfold Cut.ofChars at hcut
  split at hcut
  · cases hcut
    have hpart := endsIn_takeWhile isNamePart (c :: rest) '-' hlast
    exact absurd hpart (by decide +kernel)
  split at hcut
  · cases hcut
    have hpart := endsIn_numeral afterDot (c :: rest) '-' hlast
    exact absurd hpart (by decide)
  split at hcut
  · next hquote =>
      split at hcut
      · next hstring =>
          cases hcut
          obtain ⟨⟨value, used, left⟩, hquoted, rfl⟩ := Option.map_eq_some_iff.1 hstring
          have hused := endsIn_quoted hquoted
          have hdash : '-' = c := hused.2.cons hused.1 c '-' hlast
          rw [← hdash] at hquote
          exact absurd hquote (by decide)
      · cases hcut
  · split at hcut
    · next hpunct =>
        cases hcut
        obtain ⟨mark, hkind, hused⟩ := punct?_used hpunct
        rw [hkind, hused]
        rw [hused] at hlast
        cases mark <;> simp_all [Punct.chars]
    · cases hcut

end Cut

/-! ## The inside of a tag -/

theorem Text.trimStart_append (text : List Char) :
    text.takeWhile isBlank ++ trimStart text = text :=
  List.takeWhile_append_dropWhile

theorem Text.ne_dash_of_isBlank {c : Char} (hc : isBlank c = true) : c ≠ '-' := by
  rintro rfl
  exact absurd hc (by decide)

/-- Before a marker stands no dash of its own. -/
theorem Marker.getLast?_append_chars {before : List Char} (hbefore : EndsIn (· ≠ '-') before)
    (marker : Marker) : (before ++ marker.chars).getLast? = some '-' ↔ marker = .trim := by
  cases marker with
  | preserve =>
      have hlast : before.getLast? ≠ some '-' := fun hdash => hbefore '-' hdash rfl
      simpa [Marker.chars] using hlast
  | trim => simp [Marker.chars]
  | keep => simp [Marker.chars]

/-- What a tag holds in front of its closer, and how its end shows there. -/
structure Interior.Front (delimiter : Delimiter) (start : Nat) (brackets : List Punct)
    (text front : List Char) (interior : Interior) : Prop where
  append : text = front ++ (delimiter.closer ++ interior.rest)
  stop : interior.stop = start + byteLength front + Delimiter.width
  trims_iff : interior.right = .trim ↔ front.getLast? = some '-'
  ends : front = [] → (delimiter.ending? brackets text).isSome = true

theorem Delimiter.byteLength_closer (delimiter : Delimiter) :
    byteLength delimiter.closer = Delimiter.width := by
  cases delimiter <;> rfl

theorem Marker.byteLength_chars (marker : Marker) : byteLength marker.chars = marker.width := by
  cases marker <;> rfl

theorem Text.endsIn_takeWhile_isBlank (text : List Char) :
    EndsIn (· ≠ '-') (text.takeWhile isBlank) :=
  fun c hc => ne_dash_of_isBlank (endsIn_takeWhile isBlank text c hc)

/-- A dash in front of the closer is its marker, unless the closer does not count there. -/
theorem Delimiter.ending?_dash {delimiter : Delimiter} {brackets : List Punct}
    {rest : List Char}
    (hends : (delimiter.ending? brackets (delimiter.closer ++ rest)).isSome = true) :
    (delimiter.ending? brackets ('-' :: (delimiter.closer ++ rest))).isSome = true := by
  have hcounts : ¬(delimiter = .expression ∧ brackets.head? = some .lbrace) := by
    intro hbrace
    simp [Delimiter.ending?, hbrace] at hends
  have hstrip : strip? delimiter.closer (delimiter.closer ++ rest) = some rest :=
    strip?_eq_some_iff.2 rfl
  unfold Delimiter.ending?
  rw [if_neg hcounts]
  simp [Delimiter.closing?, Marker.ofChar?, Marker.width, hstrip]

section Front

variable {delimiter : Delimiter} {start : Nat} {brackets : List Punct} {text inside : List Char}
  {c : Char}

/-- A lexeme right in front of the closer does not end in a dash: a minus sign there would have
been the marker of the closer. -/
theorem Interior.Front.getLast?_used_ne {afterDot : Bool} {cutStart stop : Nat} {cut : Cut}
    {interior : Interior} (hnone : delimiter.ending? brackets (c :: inside) = none)
    (hcut : Cut.ofChars afterDot cutStart c inside = .ok cut)
    (hfront : interior.Front delimiter stop (bracketsAfter brackets cut.kind) cut.rest []) :
    cut.used.getLast? ≠ some '-' := by
  intro hlast
  have hends := hfront.ends rfl
  have hrest := hfront.append
  rw [List.nil_append] at hrest
  have hminus := Cut.eq_minus_of_getLast? hcut hlast
  have hbrackets : bracketsAfter brackets cut.kind = brackets := by
    rw [hminus.1]
    rfl
  rw [hbrackets, hrest] at hends
  have hdash := Delimiter.ending?_dash hends
  have hcons : '-' :: cut.rest = c :: inside := by
    rw [← Cut.ofChars_append hcut, hminus.2]
    rfl
  rw [← hrest, hcons, hnone] at hdash
  contradiction

variable (hinside : trimStart text = c :: inside)

include hinside

/-- White space in front of the closer. -/
theorem Interior.Front.of_ending {rest : List Char} {right : Marker}
    (hending : delimiter.ending? brackets (c :: inside) = some (right, rest)) :
    Interior.Front delimiter start brackets text (text.takeWhile isBlank ++ right.chars)
      { lexemes := []
        right
        stop := start + byteLength (text.takeWhile isBlank) + right.width + Delimiter.width
        rest } := by
  have hclosing : delimiter.closing? (c :: inside) = some (right, rest) := by
    unfold Delimiter.ending? at hending
    split at hending
    · cases hending
    · exact hending
  have hsplit := trimStart_append text
  rw [hinside, Delimiter.closing?_append hclosing] at hsplit
  constructor
  · rw [List.append_assoc]
    exact hsplit.symm
  · simp only [byteLength_append, Marker.byteLength_chars]
    omega
  · exact (Marker.getLast?_append_chars (endsIn_takeWhile_isBlank text) right).symm
  · intro hfront
    have hblank := (List.append_eq_nil_iff.1 hfront).1
    have hchars := (List.append_eq_nil_iff.1 hfront).2
    rw [hblank, List.nil_append, hchars, List.nil_append] at hsplit
    have htext : text = c :: inside := by
      rw [← hsplit, Delimiter.closing?_append hclosing, hchars, List.nil_append]
    rw [htext, hending]
    rfl

/-- A lexeme in front of what the rest of the tag holds. -/
theorem Interior.Front.behind {afterDot : Bool} {cut : Cut} {interior : Interior}
    {front : List Char} (hnone : delimiter.ending? brackets (c :: inside) = none)
    (hcut : Cut.ofChars afterDot (start + byteLength (text.takeWhile isBlank)) c inside =
      .ok cut)
    (hfront : interior.Front delimiter
      (start + byteLength (text.takeWhile isBlank) + byteLength cut.used)
      (bracketsAfter brackets cut.kind) cut.rest front) (lexemes : List Lexeme) :
    Interior.Front delimiter start brackets text (text.takeWhile isBlank ++ (cut.used ++ front))
      { interior with lexemes } := by
  have hsplit := trimStart_append text
  rw [hinside, ← Cut.ofChars_append hcut] at hsplit
  have hused := Cut.ofChars_used_ne_nil hcut
  constructor
  · rw [hfront.append] at hsplit
    simpa only [List.append_assoc] using hsplit.symm
  · simp only [hfront.stop, byteLength_append]
    omega
  · rw [hfront.trims_iff]
    by_cases hempty : front = []
    · subst hempty
      have hdash := getLast?_used_ne hnone hcut hfront
      simpa [List.getLast?_append_of_ne_nil _ hused] using hdash
    · rw [List.getLast?_append_of_ne_nil _ (by simp [hempty]),
        List.getLast?_append_of_ne_nil _ hempty]
  · intro hnil
    simp [hused] at hnil

end Front

theorem Interior.ofChars_front {delimiter : Delimiter} {opened start : Nat}
    {brackets : List Punct} {afterDot : Bool} {text : List Char} {interior : Interior}
    (hinterior : Interior.ofChars delimiter opened start brackets afterDot text =
      .ok interior) :
    ∃ front, interior.Front delimiter start brackets text front := by
  fun_induction Interior.ofChars delimiter opened start brackets afterDot text
      generalizing interior with
  | case1 => cases hinterior
  | case2 _ _ _ _ _ _ _ hinside _ _ =>
      rename_i hending
      cases hinterior
      exact ⟨_, .of_ending hinside hending⟩
  | case3 => cases hinterior
  | case4 => cases hinterior
  | case5 _ _ _ _ _ _ _ hinside hnone _ hcut _ _ hbelow =>
      rename_i ih
      cases hinterior
      obtain ⟨front, hfront⟩ := ih hbelow
      exact ⟨_, hfront.behind hinside hnone hcut _⟩

/-! ## The two sides of a token -/

namespace Token

/-- The delimiter that a token begins with.  Text and the end of a template have none. -/
def delimiter? : Token → Option Delimiter
  | .comment _ => some .comment
  | .expression _ => some .expression
  | .block _ => some .block
  | .raw .. => some .block
  | .text .. => none
  | .eof _ => none

/-- What is written of a token behind its opener and the marker there.  A comment has no
markers, its first and last characters take their part. -/
def inside (token : Token) (written : List Char) : List Char :=
  match token with
  | .comment _ => written.drop Delimiter.width
  | _ =>
      (written.drop Delimiter.width).drop
        (Marker.ofChar? (written.drop Delimiter.width).head?).width

/-- The token is a tag, a comment or a raw block whose left side carries a dash. -/
def OpensWithDash (token : Token) (written : List Char) : Prop :=
  token.delimiter?.isSome = true ∧ (written.drop Delimiter.width).head? = some '-'

/-- The token is a tag, a comment or a raw block whose right side carries a dash. -/
def ClosesWithDash (token : Token) (written : List Char) : Prop :=
  ∃ delimiter ∈ token.delimiter?, '-' :: delimiter.closer <:+ token.inside written

def span : Token → Span
  | .text _ span => span
  | .expression tag => tag.span
  | .block tag => tag.span
  | .comment span => span
  | .raw _ span => span
  | .eof offset => { start := offset, length := 0 }

end Token

theorem Text.dash_suffix_iff (front closer : List Char) :
    '-' :: closer <:+ front ++ closer ↔ front.getLast? = some '-' := by
  rw [List.getLast?_eq_some_iff]
  constructor
  · rintro ⟨before, hbefore⟩
    refine ⟨before, ?_⟩
    have hsplit : (before ++ ['-']) ++ closer = front ++ closer := by
      simpa using hbefore
    exact (List.append_cancel_right hsplit).symm
  · rintro ⟨before, rfl⟩
    exact ⟨before, by simp⟩

theorem Delimiter.ofChars?_eq_some {delimiter : Delimiter} {source : List Char}
    (hdelimiter : Delimiter.ofChars? source = some delimiter) :
    source = delimiter.opener ++ source.drop Delimiter.width := by
  unfold Delimiter.ofChars? at hdelimiter
  split at hdelimiter <;> cases hdelimiter <;> rfl

theorem Marker.inside_eq (front closer rest : List Char) (hcloser : closer ≠ [])
    {marker : Marker}
    (hmarker : marker = Marker.ofChar? (marker.chars ++ (front ++ (closer ++ rest))).head?) :
    (marker.chars ++ (front ++ closer)).drop
        (Marker.ofChar? (marker.chars ++ (front ++ closer)).head?).width =
      front ++ closer := by
  have hhead : (marker.chars ++ (front ++ closer)).head? =
      (marker.chars ++ (front ++ (closer ++ rest))).head? := by
    cases marker.chars <;> cases front <;> cases closer <;> simp_all
  rw [hhead, ← hmarker]
  cases marker <;> rfl

theorem Token.closesWithDash_iff {token : Token} {delimiter : Delimiter}
    {written front : List Char} (hdelimiter : token.delimiter? = some delimiter)
    (hinside : token.inside written = front ++ delimiter.closer) :
    token.ClosesWithDash written ↔ front.getLast? = some '-' := by
  unfold Token.ClosesWithDash
  rw [hdelimiter, hinside]
  simp [Text.dash_suffix_iff]

theorem Delimiter.byteLength_opener (delimiter : Delimiter) :
    byteLength delimiter.opener = Delimiter.width := by
  cases delimiter <;> rfl

theorem Delimiter.length_opener (delimiter : Delimiter) :
    delimiter.opener.length = Delimiter.width := by
  cases delimiter <;> rfl

theorem Delimiter.closer_ne_nil (delimiter : Delimiter) : delimiter.closer ≠ [] := by
  cases delimiter <;> exact List.cons_ne_nil _ _

theorem Delimiter.ofChars?_opener_append (delimiter : Delimiter) (rest : List Char) :
    Delimiter.ofChars? (delimiter.opener ++ rest) = some delimiter := by
  cases delimiter <;> rfl

theorem Delimiter.drop_opener_append (delimiter : Delimiter) (rest : List Char) :
    (delimiter.opener ++ rest).drop Delimiter.width = rest := by
  cases delimiter <;> rfl

theorem Token.inside_of_marker {token : Token} (htoken : token.delimiter? ≠ some .comment)
    (delimiter : Delimiter) {marker : Marker} {front closer rest : List Char}
    (hcloser : closer ≠ [])
    (hmarker : marker = Marker.ofChar? (marker.chars ++ (front ++ (closer ++ rest))).head?) :
    token.inside (delimiter.opener ++ (marker.chars ++ (front ++ closer))) = front ++ closer := by
  have hinside := Marker.inside_eq front closer rest hcloser hmarker
  cases token with
  | comment span => exact absurd rfl htoken
  | _ =>
      unfold Token.inside
      rw [Delimiter.drop_opener_append]
      exact hinside

/-! ## Pieces -/

namespace Piece

/-- The piece is a tag, a comment or a raw block, of which `written` is written. -/
structure IsMarkup (start : Nat) (source : List Char) (piece : Piece) (token : Token)
    (written : List Char) : Prop where
  gives : piece.token = some token
  append : source = written ++ piece.rest
  stop : piece.stop = start + byteLength written
  span : token.span = Span.ofBounds start piece.stop
  delimiter : token.delimiter? = Delimiter.ofChars? source
  length : Delimiter.width < written.length
  trims_iff : piece.trimsNext = true ↔ token.ClosesWithDash written

theorem comment_isMarkup {start : Nat} {source : List Char} {piece : Piece}
    (hcomment : comment start source = .ok piece) :
    ∃ token written,
      piece.IsMarkup start (Delimiter.comment.opener ++ source) token written := by
  unfold comment at hcomment
  split at hcomment
  · cases hcomment
  · next content rest hbreak =>
      cases hcomment
      have hsource := breakOn?_append hbreak
      let span := Span.ofBounds start
        (start + Delimiter.width + byteLength content + Delimiter.width)
      let written := Delimiter.comment.opener ++ (content ++ Delimiter.comment.closer)
      refine ⟨.comment span, written, ?_⟩
      have hinside : Token.inside (.comment span) written = content ++ Delimiter.comment.closer :=
        rfl
      constructor
      · rfl
      · simp [hsource, written]
      · simp only [written, byteLength_append, Delimiter.byteLength_opener,
          Delimiter.byteLength_closer]
        omega
      · rfl
      · rfl
      · simp [written, Delimiter.opener, Delimiter.closer, Delimiter.width]
      · rw [Token.closesWithDash_iff rfl hinside]
        simp

/-- The end tag of a raw block. -/
theorem rawEnd?_front {text rest : List Char} {left right : Marker}
    (hend : rawEnd? text = some (left, right, rest)) :
    ∃ front, text = front ++ (Delimiter.block.closer ++ rest) ∧ front ≠ [] ∧
      (right = .trim ↔ front.getLast? = some '-') := by
  simp only [rawEnd?, Option.bind_eq_bind, Option.bind_eq_some_iff] at hend
  obtain ⟨inside, hinside, after, hafter, ⟨marker, left⟩, hclosing, hpair⟩ := hend
  cases hpair
  have htext := strip?_eq_some_iff.1 hinside
  have hname := strip?_eq_some_iff.1 hafter
  have hafterLeft := trimStart_append (inside.drop (Marker.ofChar? inside.head?).width)
  have hafterName := trimStart_append after
  rw [hname] at hafterLeft
  rw [Delimiter.closing?_append hclosing] at hafterName
  let name := ['e', 'n', 'd', 'r', 'a', 'w'] ++ after.takeWhile isBlank
  let front := Delimiter.block.opener ++ ((Marker.ofChar? inside.head?).chars ++
    ((inside.drop (Marker.ofChar? inside.head?).width).takeWhile isBlank ++ name))
  have hname : EndsIn (· ≠ '-') name := by
    apply EndsIn.append
    · simp [EndsIn]
    · exact endsIn_takeWhile_isBlank after
  have hfront : EndsIn (· ≠ '-') front := by
    have hne : name ≠ [] := by simp [name]
    have hblank := hname.append_left hne
      ((inside.drop (Marker.ofChar? inside.head?).width).takeWhile isBlank)
    have hmarker := hblank.append_left (by simp [name]) (Marker.ofChar? inside.head?).chars
    exact hmarker.append_left (by simp [name]) Delimiter.block.opener
  refine ⟨front ++ marker.chars, ?_, ?_, ?_⟩
  · simp only [front, name, List.append_assoc]
    rw [hafterName, hafterLeft, Marker.chars_append_drop]
    exact htext
  · simp [front, Delimiter.opener]
  · exact (Marker.getLast?_append_chars hfront marker).symm

theorem breakRaw?_front {text content rest : List Char} {left right : Marker}
    (hbreak : breakRaw? text = some (content, left, right, rest)) :
    ∃ front, text = content ++ (front ++ (Delimiter.block.closer ++ rest)) ∧ front ≠ [] ∧
      (right = .trim ↔ front.getLast? = some '-') := by
  induction text generalizing content with
  | nil => cases hbreak
  | cons c text ih =>
      simp only [breakRaw?] at hbreak
      split at hbreak
      · next hend =>
          cases hbreak
          exact rawEnd?_front hend
      · obtain ⟨⟨inner, _, _, _⟩, hrest, hpair⟩ := Option.map_eq_some_iff.1 hbreak
        cases hpair
        obtain ⟨front, hfront⟩ := ih hrest
        refine ⟨front, ?_, hfront.2⟩
        rw [hfront.1]
        rfl

theorem raw_isMarkup {tag : Tag} {start stop : Nat} {marker : Marker}
    {front source : List Char} {piece : Piece} (htag : tag.span.start.toNat = start)
    (hmarker : marker = Marker.ofChar?
      (marker.chars ++ (front ++ (Delimiter.block.closer ++ source))).head?)
    (hstop : stop = start + byteLength (Delimiter.block.opener ++
      (marker.chars ++ (front ++ Delimiter.block.closer))))
    (hraw : raw tag stop source = .ok piece) :
    ∃ token written, piece.IsMarkup start (Delimiter.block.opener ++
      (marker.chars ++ (front ++ (Delimiter.block.closer ++ source)))) token written := by
  unfold raw at hraw
  split at hraw
  · cases hraw
  · next content left right rest hbreak =>
      obtain ⟨close, hsource, hclose, hright⟩ := breakRaw?_front hbreak
      let inner := front ++ (Delimiter.block.closer ++ (content ++ close))
      let written := Delimiter.block.opener ++
        (marker.chars ++ (inner ++ Delimiter.block.closer))
      have happend : Delimiter.block.opener ++
          (marker.chars ++ (front ++ (Delimiter.block.closer ++ source))) = written ++ rest := by
        simp [written, inner, hsource]
      cases hraw
      let kept := trimmed (tag.right == .trim) (left == .trim) content
      let span := Span.ofBounds tag.span.start.toNat
        (stop + (byteLength source - byteLength rest))
      refine ⟨.raw (String.ofList kept) span, written, ?_⟩
      constructor
      · rfl
      · exact happend
      · have hlength := congrArg byteLength hsource
        simp only [written, inner, byteLength_append] at hlength hstop ⊢
        omega
      · rw [← htag]
        rfl
      · rw [Delimiter.ofChars?_opener_append]
        rfl
      · simp only [written, List.length_append, Delimiter.length_opener]
        have hpos := List.length_pos_iff.2 Delimiter.block.closer_ne_nil
        omega
      · have hinner : marker = Marker.ofChar?
            (marker.chars ++ (inner ++ (Delimiter.block.closer ++ rest))).head? := by
          have hsame : marker.chars ++ (inner ++ (Delimiter.block.closer ++ rest)) =
              marker.chars ++ (front ++ (Delimiter.block.closer ++ source)) := by
            simp [inner, hsource]
          rw [hsame]
          exact hmarker
        have hinside : Token.inside (.raw (String.ofList kept) span) written =
            inner ++ Delimiter.block.closer :=
          Token.inside_of_marker (by simp [Token.delimiter?]) .block
            Delimiter.block.closer_ne_nil hinner
        rw [Token.closesWithDash_iff rfl hinside]
        have hlast : inner.getLast? = close.getLast? := by
          simp only [inner, ← List.append_assoc]
          exact List.getLast?_append_of_ne_nil _ hclose
        rw [hlast, ← hright]
        exact beq_iff_eq

theorem tag_isMarkup {delimiter : Delimiter} {start : Nat} {source : List Char} {piece : Piece}
    (hdelimiter : delimiter ≠ .comment) (hstart : start ≤ Span.limit)
    (htag : tag delimiter start source = .ok piece) :
    ∃ token written, piece.IsMarkup start (delimiter.opener ++ source) token written := by
  simp only [tag, bind, Except.bind] at htag
  split at htag
  · cases htag
  · next interior hinterior =>
      obtain ⟨front, hfront⟩ := Interior.ofChars_front hinterior
      have hsource := Marker.chars_append_drop source
      rw [hfront.append] at hsource
      have hmarker : Marker.ofChar? source.head? = Marker.ofChar?
          ((Marker.ofChar? source.head?).chars ++
            (front ++ (delimiter.closer ++ interior.rest))).head? := by
        rw [hsource]
      let written := delimiter.opener ++
        ((Marker.ofChar? source.head?).chars ++ (front ++ delimiter.closer))
      have hstop : interior.stop = start + byteLength written := by
        simp only [hfront.stop, written, byteLength_append, Delimiter.byteLength_opener,
          Delimiter.byteLength_closer, Marker.byteLength_chars]
        omega
      have hspan : (Span.ofBounds start interior.stop).start.toNat = start :=
        Span.toNat_start_ofBounds hstart interior.stop
      rw [← hsource]
      split at htag
      · next hopens =>
          obtain ⟨rfl, -⟩ := hopens
          exact raw_isMarkup hspan hmarker hstop htag
      · have hpiece := Except.ok.inj htag
        have htoken : ∃ token, piece.token = some token ∧ token.delimiter? = some delimiter ∧
            token.span = Span.ofBounds start interior.stop := by
          rw [← hpiece]
          cases delimiter with
          | comment => contradiction
          | expression => exact ⟨_, rfl, rfl, rfl⟩
          | block => exact ⟨_, rfl, rfl, rfl⟩
        obtain ⟨token, hgives, hkind, htokenSpan⟩ := htoken
        have hrest : piece.rest = interior.rest := by rw [← hpiece]
        have hpieceStop : piece.stop = interior.stop := by rw [← hpiece]
        have htrims : piece.trimsNext = (interior.right == .trim) := by rw [← hpiece]
        refine ⟨token, written, ?_⟩
        constructor
        · exact hgives
        · simp [written, hrest]
        · rw [hpieceStop, hstop]
        · rw [hpieceStop, htokenSpan]
        · rw [Delimiter.ofChars?_opener_append, hkind]
        · simp only [written, List.length_append, Delimiter.length_opener]
          have hpos := List.length_pos_iff.2 delimiter.closer_ne_nil
          omega
        · have hinside : token.inside written = front ++ delimiter.closer := by
            apply Token.inside_of_marker _ delimiter delimiter.closer_ne_nil hmarker
            rw [hkind]
            simpa using hdelimiter
          rw [Token.closesWithDash_iff hkind hinside, ← hfront.trims_iff, htrims]
          exact beq_iff_eq

/-- Whatever does not begin with text begins with a tag, a comment or a raw block. -/
theorem ofChars_isMarkup {start : Nat} {trimsStart : Bool} {source : List Char}
    {delimiter : Delimiter} {piece : Piece} (hstart : start ≤ Span.limit)
    (hdelimiter : Delimiter.ofChars? source = some delimiter)
    (hpiece : ofChars start trimsStart source = .ok piece) :
    ∃ token written, piece.IsMarkup start source token written := by
  rw [Delimiter.ofChars?_eq_some hdelimiter]
  unfold ofChars at hpiece
  rw [hdelimiter] at hpiece
  cases delimiter with
  | comment => exact comment_isMarkup hpiece
  | expression => exact tag_isMarkup (by decide) hstart hpiece
  | block => exact tag_isMarkup (by decide) hstart hpiece

end Piece

end TemplateVariables
