import TemplateVariables.Proofs.Lexeme.Ending
import TemplateVariables.Proofs.Lexeme.Writing
import TemplateVariables.Proofs.Token.Coverage

/-!
# Tags in other surroundings

A tag is read up to its closer without a look at what follows, and its lexemes do not
depend on the place where it stands nor on a marker at its closer.  So a tag that has
been read once is known wherever the same characters stand, also with a marker put
where there was none.
-/

namespace TemplateVariables

open Text

/-- The marker can be put in the place of the other: it is the same, or there was none. -/
def Marker.Fills (marker written : Marker) : Prop :=
  marker = written ∨ written = .preserve

instance (marker written : Marker) : Decidable (marker.Fills written) :=
  inferInstanceAs (Decidable (_ ∨ _))

theorem Marker.Fills.refl (marker : Marker) : marker.Fills marker :=
  .inl rfl

namespace Delimiter

theorem exists_cons_tail (delimiter : Delimiter) (marker : Marker) (rest : List Char) :
    ∃ c inside, delimiter.tail marker rest = c :: inside ∧ isBlank c = false := by
  obtain ⟨c, hhead, hmem⟩ := delimiter.head?_tail marker rest
  obtain ⟨inside, htail⟩ := List.head?_eq_some_iff.1 hhead
  exact ⟨c, inside, htail, isBlank_tail c hmem⟩

variable {delimiter : Delimiter} {marker marker' : Marker} {rest : List Char}

theorem closing?_tail (delimiter : Delimiter) (marker : Marker) (rest : List Char) :
    delimiter.closing? (delimiter.tail marker rest) = some (marker, rest) := by
  cases marker <;> cases delimiter <;> rfl

theorem closing?_eq_some_iff {text : List Char} :
    delimiter.closing? text = some (marker, rest) ↔ text = delimiter.tail marker rest :=
  ⟨closing?_append, fun htext => htext ▸ closing?_tail delimiter marker rest⟩

theorem eq_preserve_of_tail_eq {left right : List Char} (hleft : left ≠ [])
    (hsuffix : left <:+ delimiter.closer) (htail : delimiter.tail marker rest = left ++ right) :
    marker = .preserve := by
  obtain ⟨c, others, rfl⟩ := List.exists_cons_of_ne_nil hleft
  have hc : c ∈ delimiter.closer := hsuffix.subset List.mem_cons_self
  cases marker with
  | preserve => rfl
  | trim =>
      obtain rfl : '-' = c := (List.cons.inj htail).1
      cases delimiter <;> exact absurd hc (by decide)
  | keep =>
      obtain rfl : '+' = c := (List.cons.inj htail).1
      cases delimiter <;> exact absurd hc (by decide)

/-- Where characters of a tag stand in front of its end, the tag does not end before them,
whatever follows it. -/
theorem closing?_append_tail_eq_none {written : List Char} (hwritten : written ≠ [])
    (hfills : marker'.Fills marker)
    (hnone : delimiter.closing? (written ++ delimiter.tail marker rest) = none)
    (rest' : List Char) :
    delimiter.closing? (written ++ delimiter.tail marker' rest') = none := by
  rw [Option.eq_none_iff_forall_ne_some]
  rintro ⟨early, after⟩ hclosing
  have hends (after : List Char) :
      written ++ delimiter.tail marker rest ≠ delimiter.tail early after := by
    intro htext
    rw [htext, closing?_tail] at hnone
    cases hnone
  have hsplit : written ++ delimiter.tail marker' rest' =
      (early.chars ++ delimiter.closer) ++ after := by
    rw [closing?_eq_some_iff.1 hclosing, tail, List.append_assoc]
  rcases List.append_eq_append_iff.1 hsplit with ⟨left, hearly, hleft⟩ | ⟨within, hwithin, -⟩
  · have hlengths := congrArg List.length hearly
    have hwrittenLength := List.length_pos_iff.2 hwritten
    have hcharsLength : early.chars.length ≤ 1 := by cases early <;> decide
    simp only [List.length_append] at hlengths
    have hsuffix : left <:+ delimiter.closer :=
      List.suffix_of_suffix_length_le ⟨written, hearly.symm⟩ ⟨early.chars, rfl⟩ (by omega)
    by_cases hnil : left = []
    · subst hnil
      apply hends (delimiter.tail marker rest)
      rw [← List.append_nil written, ← hearly, List.append_assoc]
      rfl
    -- A part of the closer that stands at the end of the tag leaves no room for a marker.
    · have hpreserve : marker' = .preserve := eq_preserve_of_tail_eq hnil hsuffix hleft
      have hmarker : marker = .preserve := hfills.elim (fun heq => heq ▸ hpreserve) id
      subst hpreserve hmarker
      obtain ⟨others, hothers⟩ : left <+: delimiter.closer :=
        List.prefix_of_prefix_length_le ⟨after, hleft.symm⟩ ⟨rest', rfl⟩ (by omega)
      apply hends (others ++ rest)
      change written ++ (delimiter.closer ++ rest) = _
      rw [← hothers, tail, ← List.append_assoc early.chars, hearly]
      simp only [List.append_assoc]
  · apply hends (within ++ delimiter.tail marker rest)
    rw [hwithin, List.append_assoc, List.append_assoc]
    rfl

theorem ending?_append_tail_eq_none {brackets : List Punct} {written : List Char}
    (hwritten : written ≠ []) (hfills : marker'.Fills marker)
    (hnone : delimiter.ending? brackets (written ++ delimiter.tail marker rest) = none)
    (rest' : List Char) :
    delimiter.ending? brackets (written ++ delimiter.tail marker' rest') = none := by
  unfold ending? at hnone ⊢
  split at hnone
  · next hbrace => rw [if_pos hbrace]
  · next hbrace =>
      rw [if_neg hbrace]
      exact closing?_append_tail_eq_none hwritten hfills hnone rest'

/-- Whether a tag may end at a place is a question of the open brackets alone. -/
theorem ending?_eq_some {brackets : List Punct} {text : List Char}
    (hending : delimiter.ending? brackets text = some (marker, rest)) :
    text = delimiter.tail marker rest ∧ ∀ marker rest,
      delimiter.ending? brackets (delimiter.tail marker rest) = some (marker, rest) := by
  unfold ending? at hending ⊢
  split at hending
  · cases hending
  · next hbrace =>
      refine ⟨closing?_eq_some_iff.1 hending, fun marker rest => ?_⟩
      rw [if_neg hbrace, closing?_tail]

end Delimiter

theorem Cut.used_of_name {afterDot : Bool} {start : Nat} {c : Char} {rest : List Char}
    {cut : Cut} (hcut : Cut.ofChars afterDot start c rest = .ok cut) {word : String}
    (hkind : cut.kind = .name word) : cut.used = word.toList := by
  unfold Cut.ofChars at hcut
  split at hcut
  · cases hcut
    cases hkind
    exact (String.toList_ofList ..).symm
  split at hcut
  · cases hcut
    cases hkind
  split at hcut
  · split at hcut
    · next hstring =>
        cases hcut
        obtain ⟨_, -, rfl⟩ := Option.map_eq_some_iff.1 hstring
        cases hkind
    · cases hcut
  · split at hcut
    · next hpunct =>
        cases hcut
        obtain ⟨mark, hmark, -⟩ := Cut.punct?_used hpunct
        rw [hmark] at hkind
        cases hkind
    · cases hcut

/-! ## What is written in a tag -/

theorem Text.isBlank_takeWhile (text : List Char) :
    ∀ c ∈ text.takeWhile isBlank, isBlank c = true :=
  fun _ hc => List.mem_takeWhile_imp hc

/-- A lexeme as it stands in a tag, behind white space. -/
structure WrittenLexeme where
  blank : List Char
  kind : LexemeKind
  used : List Char
  isBlank_of_mem : ∀ c ∈ blank, isBlank c = true
  used_of_name : ∀ word, kind = .name word → used = word.toList

/-- What stands in a tag between its markers. -/
structure TagBody where
  lexemes : List WrittenLexeme
  blank : List Char
  isBlank_of_mem : ∀ c ∈ blank, isBlank c = true

namespace TagBody

def chars (body : TagBody) : List Char :=
  (body.lexemes.flatMap fun lexeme => lexeme.blank ++ lexeme.used) ++ body.blank

/-- Nothing but white space. -/
def ofBlank (blank : List Char) (hblank : ∀ c ∈ blank, isBlank c = true) : TagBody where
  lexemes := []
  blank
  isBlank_of_mem := hblank

/-- A lexeme in front of a body. -/
def cons (lexeme : WrittenLexeme) (body : TagBody) : TagBody :=
  { body with lexemes := lexeme :: body.lexemes }

theorem chars_cons (lexeme : WrittenLexeme) (body : TagBody) :
    (body.cons lexeme).chars = lexeme.blank ++ (lexeme.used ++ body.chars) := by
  simp [chars, cons]

/-- The lexemes of a tag whose inside begins at `start`. -/
def place : Nat → List WrittenLexeme → List Lexeme
  | _, [] => []
  | start, lexeme :: rest =>
      let first := start + byteLength lexeme.blank
      let stop := first + byteLength lexeme.used
      { kind := lexeme.kind, span := Span.ofBounds first stop } :: place stop rest

/-- What is read from `start` on, when `marker` stands at the closer. -/
def interior (body : TagBody) (start : Nat) (marker : Marker) (rest : List Char) : Interior where
  lexemes := place start body.lexemes
  right := marker
  stop := start + byteLength body.chars + marker.width + Delimiter.width
  rest

/-- The same is read wherever the tag stands, also with a marker in the place of none. -/
def ReadsAs (body : TagBody) (delimiter : Delimiter) (brackets : List Punct) (afterDot : Bool)
    (right : Marker) : Prop :=
  ∀ marker : Marker, marker.Fills right → ∀ opened start rest,
    Interior.ofChars delimiter opened start brackets afterDot
      (body.chars ++ delimiter.tail marker rest) = .ok (body.interior start marker rest)

end TagBody

section Interior

variable {delimiter : Delimiter} {brackets : List Punct} {afterDot : Bool} {opened start : Nat}
  {blank text inside : List Char} {c : Char}

theorem Interior.ofChars_of_nil (htrim : trimStart text = []) :
    Interior.ofChars delimiter opened start brackets afterDot text =
      .error (.unclosedDelimiter delimiter (Span.ofParts opened Delimiter.width)) := by
  rw [Interior.ofChars]
  split
  · rfl
  · next hcons =>
      rw [htrim] at hcons
      cases hcons

theorem Interior.ofChars_of_ending {right : Marker} {rest : List Char}
    (htrim : trimStart text = c :: inside)
    (hending : delimiter.ending? brackets (c :: inside) = some (right, rest)) :
    Interior.ofChars delimiter opened start brackets afterDot text =
      .ok { lexemes := []
            right
            stop := start + byteLength (text.takeWhile isBlank) + right.width + Delimiter.width
            rest } := by
  rw [Interior.ofChars]
  split
  · next hnil =>
      rw [htrim] at hnil
      cases hnil
  · next hcons =>
      rw [htrim] at hcons
      cases hcons
      rw [hending]

/-- The inside of a tag behind a lexeme that has been cut from it. -/
def Interior.ofCut (delimiter : Delimiter) (opened first : Nat) (brackets : List Punct)
    (cut : Cut) : Except ParseError Interior :=
  let stop := first + byteLength cut.used
  (Interior.ofChars delimiter opened stop (bracketsAfter brackets cut.kind)
    (cut.kind == .punct .dot) cut.rest).map fun interior =>
      { interior with
        lexemes := { kind := cut.kind, span := Span.ofBounds first stop } :: interior.lexemes }

theorem Interior.ofChars_of_none (htrim : trimStart text = c :: inside)
    (hnone : delimiter.ending? brackets (c :: inside) = none) :
    let first := start + byteLength (text.takeWhile isBlank)
    Interior.ofChars delimiter opened start brackets afterDot text =
      Cut.ofChars afterDot first c inside >>= Interior.ofCut delimiter opened first brackets := by
  intro first
  rw [Interior.ofChars]
  split
  · next hnil =>
      rw [htrim] at hnil
      cases hnil
  · next hcons =>
      rw [htrim] at hcons
      cases hcons
      rw [hnone]
      dsimp only
      split
      · next herror =>
          rw [herror]
          rfl
      · next cut hok =>
          rw [hok]
          change _ = Interior.ofCut delimiter opened first brackets cut
          rw [Interior.ofCut]
          split <;> next hrest => rw [hrest]; rfl

theorem Text.trimStart_blank_append (hblank : ∀ c ∈ blank, isBlank c = true)
    (hc : isBlank c = false) (inside : List Char) :
    (blank ++ c :: inside).takeWhile isBlank = blank ∧
      trimStart (blank ++ c :: inside) = c :: inside :=
  takeWhile_append_of_head? hblank (by simpa using hc)

/-! ## Reading it again -/

namespace TagBody

theorem readsAs_ofBlank (hblank : ∀ c ∈ blank, isBlank c = true)
    (hends : ∀ marker rest,
      delimiter.ending? brackets (delimiter.tail marker rest) = some (marker, rest))
    (right : Marker) :
    (ofBlank blank hblank).ReadsAs delimiter brackets afterDot right := by
  intro marker _ opened start rest
  obtain ⟨c, inside, htail, hc⟩ := delimiter.exists_cons_tail marker rest
  have htrim := trimStart_blank_append hblank hc inside
  have hending := hends marker rest
  change Interior.ofChars delimiter opened start brackets afterDot
    (blank ++ delimiter.tail marker rest) = _
  rw [htail] at hending ⊢
  rw [Interior.ofChars_of_ending htrim.2 hending, htrim.1]
  rfl

theorem ReadsAs.cons {below : TagBody} {lexeme : WrittenLexeme} {cut : Cut}
    {used rest : List Char} {right : Marker}
    (hbelow : below.ReadsAs delimiter (bracketsAfter brackets cut.kind)
      (cut.kind == .punct .dot) right)
    (hkind : lexeme.kind = cut.kind) (hlexeme : lexeme.used = c :: used)
    (hused : cut.used = c :: used) (hc : isBlank c = false)
    (hcut : Cut.ofChars afterDot start c (used ++ (below.chars ++ delimiter.tail right rest)) =
      .ok cut)
    (hnone : delimiter.ending? brackets
      (c :: (used ++ (below.chars ++ delimiter.tail right rest))) = none) :
    (below.cons lexeme).ReadsAs delimiter brackets afterDot right := by
  intro marker hfills opened start' rest'
  have hassoc (marker : Marker) (rest : List Char) :
      c :: (used ++ (below.chars ++ delimiter.tail marker rest)) =
        (c :: (used ++ below.chars)) ++ delimiter.tail marker rest := by
    rw [List.cons_append, List.append_assoc]
  have hnone' : delimiter.ending? brackets
      (c :: (used ++ (below.chars ++ delimiter.tail marker rest'))) = none := by
    rw [hassoc] at hnone ⊢
    exact Delimiter.ending?_append_tail_eq_none (List.cons_ne_nil _ _) hfills hnone rest'
  have hcut' := Cut.ofChars_append_tail hcut hused (start' + byteLength lexeme.blank) marker rest'
  have htext : (below.cons lexeme).chars ++ delimiter.tail marker rest' =
      lexeme.blank ++ c :: (used ++ (below.chars ++ delimiter.tail marker rest')) := by
    rw [chars_cons, hlexeme]
    simp only [List.append_assoc, List.cons_append]
  have htrim := trimStart_blank_append lexeme.isBlank_of_mem hc
    (used ++ (below.chars ++ delimiter.tail marker rest'))
  rw [← htrim.1] at hcut'
  rw [htext, Interior.ofChars_of_none htrim.2 hnone', hcut', htrim.1]
  change Interior.ofCut delimiter opened (start' + byteLength lexeme.blank) brackets _ = _
  rw [Interior.ofCut]
  dsimp only
  rw [hbelow marker hfills]
  simp only [interior, chars_cons, byteLength_append, ← hkind, hused, ← hlexeme, Except.map,
    ← Nat.add_assoc]
  rfl

end TagBody

/-- The inside of a tag is a body in front of the end of the tag. -/
theorem Interior.exists_body {interior : Interior}
    (hinterior : Interior.ofChars delimiter opened start brackets afterDot text = .ok interior) :
    ∃ body : TagBody, text = body.chars ++ delimiter.tail interior.right interior.rest ∧
      body.ReadsAs delimiter brackets afterDot interior.right := by
  fun_induction Interior.ofChars delimiter opened start brackets afterDot text
      generalizing interior with
  | case1 => cases hinterior
  | case2 _ _ _ text _ c inside hinside right rest =>
      rename_i hending
      cases hinterior
      obtain ⟨htail, hends⟩ := Delimiter.ending?_eq_some hending
      have hsplit := trimStart_append text
      rw [hinside, htail] at hsplit
      exact ⟨.ofBlank _ (isBlank_takeWhile text), hsplit.symm, TagBody.readsAs_ofBlank _ hends _⟩
  | case3 => cases hinterior
  | case4 => cases hinterior
  | case5 _ _ _ text _ c inside hinside hnone cut hcut _ below hbelow =>
      rename_i ih
      cases hinterior
      obtain ⟨body, hrest, hbody⟩ := ih hbelow
      have hsplit := trimStart_append text
      have hinner := Cut.ofChars_append hcut
      rw [hinside, ← hinner] at hsplit
      obtain ⟨d, used, hused⟩ := List.exists_cons_of_ne_nil (Cut.ofChars_used_ne_nil hcut)
      rw [hused, hrest, List.cons_append] at hinner
      obtain ⟨rfl, rfl⟩ := List.cons.inj hinner
      have hd : isBlank d = false := startsUnblank_trimStart text d (by rw [hinside]; rfl)
      let lexeme : WrittenLexeme :=
        { blank := text.takeWhile isBlank
          kind := cut.kind
          used := cut.used
          isBlank_of_mem := isBlank_takeWhile text
          used_of_name := fun word hkind => Cut.used_of_name hcut hkind }
      refine ⟨body.cons lexeme, ?_, hbody.cons rfl hused hused hd hcut hnone⟩
      rw [TagBody.chars_cons, ← hsplit, hrest]
      simp only [List.append_assoc]
      rfl

theorem Interior.eq_of_body {interior : Interior} {body : TagBody}
    (hinterior : Interior.ofChars delimiter opened start brackets afterDot text = .ok interior)
    (htext : text = body.chars ++ delimiter.tail interior.right interior.rest)
    (hbody : body.ReadsAs delimiter brackets afterDot interior.right) :
    interior = body.interior start interior.right interior.rest := by
  have hsame := hbody _ (.refl _) opened start interior.rest
  rw [← htext, hinterior] at hsame
  exact Except.ok.inj hsame

end Interior

/-! ## Whole tags -/

theorem exists_of_bind_eq_ok {α β ε : Type} {first : Except ε α} {next : α → Except ε β}
    {result : β} (hbind : first >>= next = .ok result) :
    ∃ value, first = .ok value ∧ next value = .ok result := by
  cases first with
  | error error => cases hbind
  | ok value => exact ⟨value, rfl, hbind⟩

theorem exists_of_map_eq_ok {α β ε : Type} {first : Except ε α} {f : α → β} {result : β}
    (hmap : first.map f = .ok result) : ∃ value, first = .ok value ∧ f value = result := by
  cases first with
  | error error => cases hmap
  | ok value => exact ⟨value, rfl, Except.ok.inj hmap⟩

/-- A tag that has been read, the offset just past it, and the text behind it. -/
structure Scanned where
  tag : Tag
  stop : Nat
  rest : List Char
deriving DecidableEq, Repr

namespace Scanned

/-- The tag whose opener stands at `start`, with what is read behind its left marker. -/
def ofInterior (start : Nat) (left : Marker) (interior : Interior) : Scanned :=
  let contentStart := start + Delimiter.width + left.width
  let firstStart := (interior.lexemes.head?.map (·.span.start.toNat)).getD contentStart
  let lastStop := (interior.lexemes.getLast?.map (·.span.stop)).getD contentStart
  { tag :=
      { lexemes := interior.lexemes
        span := Span.ofBounds start interior.stop
        inside := Span.ofBounds firstStart lastStop
        left
        right := interior.right }
    stop := interior.stop
    rest := interior.rest }

def kinds (scanned : Scanned) : List LexemeKind :=
  scanned.tag.lexemes.map Lexeme.kind

end Scanned

/-- Reads a tag like any other, whatever its lexemes are.  Its opener stands at `start`, and
`source` follows the opener. -/
def Tag.scan (delimiter : Delimiter) (start : Nat) (source : List Char) :
    Except ParseError Scanned :=
  let left := Marker.ofChar? source.head?
  (Interior.ofChars delimiter start (start + Delimiter.width + left.width) [] false
    (source.drop left.width)).map (Scanned.ofInterior start left)

/-- The piece that begins with a tag: the tag itself, unless it opens a raw block. -/
def Scanned.piece (scanned : Scanned) (delimiter : Delimiter) : Except ParseError Piece :=
  if delimiter = .block ∧ Piece.opensRaw scanned.tag = true then
    Piece.raw scanned.tag scanned.stop scanned.rest
  else
    .ok
      { token := some (if delimiter = .block then .block scanned.tag else .expression scanned.tag)
        stop := scanned.stop
        trimsNext := scanned.tag.right == .trim
        rest := scanned.rest }

theorem Piece.tag_eq (delimiter : Delimiter) (start : Nat) (source : List Char) :
    Piece.tag delimiter start source =
      Tag.scan delimiter start source >>= fun scanned => scanned.piece delimiter := by
  unfold Piece.tag Tag.scan
  dsimp only
  cases Interior.ofChars delimiter start
    (start + Delimiter.width + (Marker.ofChar? source.head?).width) [] false
    (source.drop (Marker.ofChar? source.head?).width) <;> rfl

namespace TagBody

variable {body : TagBody} {delimiter : Delimiter} {left right left' right' : Marker}

/-- The tag with this body between two markers. -/
def scanned (body : TagBody) (start : Nat) (left right : Marker) (rest : List Char) : Scanned :=
  Scanned.ofInterior start left
    (body.interior (start + Delimiter.width + left.width) right rest)

/-- The tag as it is written behind its opener. -/
def written (body : TagBody) (delimiter : Delimiter) (left right : Marker)
    (rest : List Char) : List Char :=
  left.chars ++ (body.chars ++ delimiter.tail right rest)

theorem kinds_scanned (start : Nat) (rest : List Char) :
    (body.scanned start left right rest).kinds = body.lexemes.map WrittenLexeme.kind := by
  have hplace (start : Nat) (lexemes : List WrittenLexeme) :
      (place start lexemes).map Lexeme.kind = lexemes.map WrittenLexeme.kind := by
    induction lexemes generalizing start with
    | nil => rfl
    | cons lexeme lexemes ih => exact congrArg (lexeme.kind :: ·) (ih _)
  exact hplace _ _

theorem drop_width_chars (left : Marker) (text : List Char) :
    (left.chars ++ text).drop left.width = text := by
  cases left <;> rfl

theorem ofChar?_chars_append (hleft : left ≠ .preserve) (text : List Char) :
    Marker.ofChar? (left.chars ++ text).head? = left := by
  cases left
  · exact absurd rfl hleft
  · rfl
  · rfl

/-- The first character behind the opener does not depend on what follows the tag. -/
theorem head?_written (rest rest' : List Char) :
    (body.written delimiter left right rest).head? =
      (body.written delimiter left right rest').head? := by
  unfold written Delimiter.tail
  cases left
  · cases body.chars <;> cases right <;> cases delimiter <;> rfl
  · rfl
  · rfl

theorem ReadsAs.scan (hbody : body.ReadsAs delimiter [] false right) (hright : right'.Fills right)
    {rest : List Char}
    (hleft : Marker.ofChar? (body.written delimiter left right' rest).head? = left)
    (start : Nat) :
    Tag.scan delimiter start (body.written delimiter left right' rest) =
      .ok (body.scanned start left right' rest) := by
  unfold Tag.scan
  rw [hleft]
  dsimp only
  rw [written, drop_width_chars, hbody right' hright]
  rfl

/-- With markers in the places of none the same tag is read.  In an empty tag the marker in
front of the closer is taken for the one behind the opener. -/
theorem ReadsAs.scan_fills {rest : List Char}
    (hbody : body.ReadsAs delimiter [] false right)
    (hhead : Marker.ofChar? (body.written delimiter left right rest).head? = left)
    (hleft : left'.Fills left) (hright : right'.Fills right) (start : Nat) (rest' : List Char) :
    ∃ first last, Tag.scan delimiter start (body.written delimiter left' right' rest') =
      .ok (body.scanned start first last rest') := by
  by_cases hmarked : Marker.ofChar? (body.written delimiter left' right' rest').head? = left'
  · exact ⟨left', right', hbody.scan hright hmarked start⟩
  have hpreserve' : left' = .preserve := by
    by_contra hne
    exact hmarked (ofChar?_chars_append hne _)
  have hpreserve : left = .preserve := hleft.elim (fun heq => heq ▸ hpreserve') id
  subst hpreserve' hpreserve
  change Marker.ofChar? (body.chars ++ delimiter.tail right rest).head? = .preserve at hhead
  change Marker.ofChar? (body.chars ++ delimiter.tail right' rest').head? ≠ .preserve at hmarked
  have hempty : body.chars = [] := by
    by_contra hne
    obtain ⟨c, others, hchars⟩ := List.exists_cons_of_ne_nil hne
    rw [hchars] at hhead hmarked
    exact hmarked hhead
  rw [hempty, List.nil_append] at hhead
  have hplain : right = .preserve := by
    by_contra hne
    rw [Delimiter.tail, ofChar?_chars_append hne] at hhead
    exact hne hhead
  subst hplain
  have hwritten : body.written delimiter .preserve right' rest' =
      body.written delimiter right' .preserve rest' := by
    simp only [written, hempty]
    rfl
  have hnone : right' ≠ .preserve := by
    rintro rfl
    rw [hempty, List.nil_append] at hmarked
    exact hmarked (by cases delimiter <;> rfl)
  rw [hwritten]
  exact ⟨right', .preserve, hbody.scan (.refl _) (ofChar?_chars_append hnone _) start⟩

end TagBody

/-- A tag that has been read is a body between its markers. -/
theorem Tag.exists_body {delimiter : Delimiter} {start : Nat} {source : List Char}
    {scanned : Scanned} (hscan : Tag.scan delimiter start source = .ok scanned) :
    ∃ body : TagBody,
      source = body.written delimiter scanned.tag.left scanned.tag.right scanned.rest ∧
      Marker.ofChar? source.head? = scanned.tag.left ∧
      body.ReadsAs delimiter [] false scanned.tag.right ∧
      scanned = body.scanned start scanned.tag.left scanned.tag.right scanned.rest := by
  obtain ⟨interior, hinterior, rfl⟩ := exists_of_map_eq_ok hscan
  obtain ⟨body, htext, hbody⟩ := Interior.exists_body hinterior
  have hsource := Marker.chars_append_drop source
  rw [htext] at hsource
  exact ⟨body, hsource.symm, rfl, hbody,
    congrArg (Scanned.ofInterior start _) (Interior.eq_of_body hinterior htext hbody)⟩

theorem Tag.span_of_scan {delimiter : Delimiter} {start : Nat} {source : List Char}
    {scanned : Scanned} (hscan : Tag.scan delimiter start source = .ok scanned) :
    scanned.tag.span = Span.ofBounds start scanned.stop := by
  obtain ⟨body, -, -, -, hscanned⟩ := Tag.exists_body hscan
  rw [hscanned]
  rfl

/-- What follows a tag does not change how it is read. -/
theorem Tag.exists_scan_append {delimiter : Delimiter} {start : Nat} {source : List Char}
    {scanned : Scanned} (hscan : Tag.scan delimiter start source = .ok scanned) :
    ∃ front, source = front ++ scanned.rest ∧
      scanned.stop = start + Delimiter.width + byteLength front ∧
      ∀ rest, Tag.scan delimiter start (front ++ rest) = .ok { scanned with rest } := by
  obtain ⟨body, hsource, hhead, hbody, hscanned⟩ := Tag.exists_body hscan
  have hassoc (rest : List Char) :
      body.written delimiter scanned.tag.left scanned.tag.right rest =
        body.written delimiter scanned.tag.left scanned.tag.right [] ++ rest := by
    simp [TagBody.written, Delimiter.tail]
  refine ⟨_, hsource.trans (hassoc _), ?_, ?_⟩
  · rw [hscanned]
    simp only [TagBody.scanned, TagBody.written, Delimiter.tail, Scanned.ofInterior,
      TagBody.interior, byteLength_append, Marker.byteLength_chars, Delimiter.byteLength_closer,
      byteLength_nil]
    omega
  · intro rest
    rw [hsource, TagBody.head?_written _ rest] at hhead
    rw [← hassoc, hbody.scan (.refl _) hhead, hscanned]
    rfl

/-! ## Pieces -/

theorem Piece.ofChars_markup {delimiter : Delimiter} (hcomment : delimiter ≠ .comment)
    (start : Nat) (trimsStart : Bool) (source : List Char) :
    Piece.ofChars start trimsStart (delimiter.opener ++ source) =
      Tag.scan delimiter start source >>= fun scanned => scanned.piece delimiter := by
  cases delimiter with
  | comment => exact absurd rfl hcomment
  | block => exact Piece.tag_eq .block start source
  | expression => exact Piece.tag_eq .expression start source

theorem Token.ofCharsFrom_of_ne_nil {source : List Char} (hsource : source ≠ []) (start : Nat)
    (trimsStart : Bool) :
    Token.ofCharsFrom start trimsStart source =
      Piece.ofChars start trimsStart source >>= fun piece =>
        (Token.ofCharsFrom piece.stop piece.trimsNext piece.rest).map
          (piece.token.toList ++ ·) := by
  obtain ⟨c, rest, rfl⟩ := List.exists_cons_of_ne_nil hsource
  rw [Token.ofCharsFrom]
  split
  · next herror =>
      rw [herror]
      rfl
  · next piece hpiece =>
      rw [hpiece]
      change _ = (Token.ofCharsFrom piece.stop piece.trimsNext piece.rest).map _
      split <;> next hrest => rw [hrest]; rfl

theorem Token.exists_piece {start : Nat} {trimsStart : Bool} {source : List Char}
    {tokens : List Token} (hsource : source ≠ [])
    (htokens : Token.ofCharsFrom start trimsStart source = .ok tokens) :
    ∃ piece others, Piece.ofChars start trimsStart source = .ok piece ∧
      piece.rest.length < source.length ∧
      Token.ofCharsFrom piece.stop piece.trimsNext piece.rest = .ok others ∧
      tokens = piece.token.toList ++ others := by
  rw [ofCharsFrom_of_ne_nil hsource] at htokens
  obtain ⟨piece, hpiece, hrest⟩ := exists_of_bind_eq_ok htokens
  obtain ⟨others, hothers, rfl⟩ := exists_of_map_eq_ok hrest
  obtain ⟨c, more, rfl⟩ := List.exists_cons_of_ne_nil hsource
  exact ⟨piece, others, hpiece, Piece.ofChars_rest_length_lt hpiece, hothers, rfl⟩

end TemplateVariables
