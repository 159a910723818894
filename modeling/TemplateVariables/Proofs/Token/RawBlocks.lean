import TemplateVariables.Proofs.Token.Scanning

/-!
# Where a raw block ends

The end of a raw block is looked for in its text, by a search that knows nothing of
lexemes.  It finds the first place where a block tag stands that, read like any other,
would have the name `endraw` as its only lexeme.  What is in front of that place is the
content of the block, whatever it looks like.
-/

namespace TemplateVariables

open Text

/-! ## Tags of a single name -/

namespace TagBody

/-- The tag has a name as its only lexeme. -/
def IsName (body : TagBody) (word : String) : Prop :=
  body.lexemes.map WrittenLexeme.kind = [.name word]

/-- A name between white space. -/
def ofName (word : String) (before after : List Char) (hbefore : ∀ c ∈ before, isBlank c = true)
    (hafter : ∀ c ∈ after, isBlank c = true) : TagBody :=
  (ofBlank after hafter).cons
    { blank := before
      kind := .name word
      used := word.toList
      isBlank_of_mem := hbefore
      used_of_name := fun _ hkind => by cases hkind; rfl }

variable {body : TagBody} {word : String} {left right : Marker}

theorem IsName.eq_ofName (hname : body.IsName word) :
    ∃ before after hbefore hafter, body = ofName word before after hbefore hafter := by
  obtain ⟨lexemes, blank, hblank⟩ := body
  obtain ⟨lexeme, rfl, hkind⟩ := List.map_eq_singleton_iff.1 hname
  obtain ⟨before, kind, used, hbefore, hused⟩ := lexeme
  subst hkind
  obtain rfl := hused word rfl
  exact ⟨before, blank, hbefore, hblank, rfl⟩

theorem chars_ofName {before after : List Char} (hbefore : ∀ c ∈ before, isBlank c = true)
    (hafter : ∀ c ∈ after, isBlank c = true) :
    (ofName word before after hbefore hafter).chars = before ++ (word.toList ++ after) :=
  chars_cons _ _

end TagBody

/-! ## The end tag -/

theorem Text.ofChar?_of_isBlank {c : Char} (hc : isBlank c = true) (text : List Char) :
    Marker.ofChar? (c :: text).head? = .preserve := by
  have hdash : c ≠ '-' := ne_of_isBlank hc (by decide)
  have hplus : c ≠ '+' := ne_of_isBlank hc (by decide)
  unfold Marker.ofChar?
  split <;> simp_all

/-- The name is not taken for a marker. -/
theorem TagBody.IsName.ofChar?_written {body : TagBody} (hname : body.IsName "endraw")
    (left right : Marker) (rest : List Char) :
    Marker.ofChar? (body.written .block left right rest).head? = left := by
  obtain ⟨before, after, hbefore, hafter, rfl⟩ := hname.eq_ofName
  rw [TagBody.written, TagBody.chars_ofName]
  by_cases hleft : left = .preserve
  · subst hleft
    cases before with
    | nil => rfl
    | cons c before => exact ofChar?_of_isBlank (hbefore c List.mem_cons_self) _
  · exact TagBody.ofChar?_chars_append hleft _

namespace Piece

variable {text rest : List Char} {left right : Marker}

theorem rawEnd?_eq_some_iff :
    rawEnd? text = some (left, right, rest) ↔
      ∃ body : TagBody, body.IsName "endraw" ∧
        text = Delimiter.block.opener ++ body.written .block left right rest := by
  simp only [rawEnd?, Option.bind_eq_bind, Option.bind_eq_some_iff]
  constructor
  · rintro ⟨inside, hinside, after, hafter, ⟨_, _⟩, hclosing, hpair⟩
    cases hpair
    have hmarker := Marker.chars_append_drop inside
    have hinner := trimStart_append (inside.drop (Marker.ofChar? inside.head?).width)
    have houter := trimStart_append after
    rw [Delimiter.closing?_eq_some_iff.1 hclosing] at houter
    rw [strip?_eq_some_iff.1 hafter, ← houter] at hinner
    let before := (inside.drop (Marker.ofChar? inside.head?).width).takeWhile isBlank
    let body := TagBody.ofName "endraw" before (after.takeWhile isBlank)
      (isBlank_takeWhile _) (isBlank_takeWhile _)
    refine ⟨body, rfl, ?_⟩
    have hchars : body.chars = before ++ (['e', 'n', 'd', 'r', 'a', 'w'] ++
        after.takeWhile isBlank) := TagBody.chars_ofName _ _
    rw [strip?_eq_some_iff.1 hinside, TagBody.written, hchars]
    conv_lhs => rw [← hmarker, ← hinner]
    simp only [List.append_assoc]
    rfl
  · rintro ⟨body, hname, rfl⟩
    obtain ⟨before, after, hbefore, hafter, rfl⟩ := hname.eq_ofName
    have hhead := hname.ofChar?_written left right rest
    have hinner : trimStart (before ++ ("endraw".toList ++ (after ++
        Delimiter.block.tail right rest))) =
          "endraw".toList ++ (after ++ Delimiter.block.tail right rest) :=
      (trimStart_blank_append hbefore (by decide) _).2
    have houter : trimStart (after ++ Delimiter.block.tail right rest) =
        Delimiter.block.tail right rest := by
      obtain ⟨c, inside, htail, hc⟩ := Delimiter.block.exists_cons_tail right rest
      rw [htail]
      exact (trimStart_blank_append hafter hc inside).2
    refine ⟨_, strip?_eq_some_iff.2 rfl, after ++ Delimiter.block.tail right rest, ?_, ?_⟩
    · rw [hhead, TagBody.written, TagBody.drop_width_chars, TagBody.chars_ofName]
      simp only [List.append_assoc]
      rw [hinner]
      exact strip?_eq_some_iff.2 rfl
    · exact ⟨(right, rest), by rw [houter, Delimiter.closing?_tail], by rw [hhead]; rfl⟩

end Piece

namespace TagBody

variable {body : TagBody} {right : Marker}

/-- The name ends where white space or the end of the tag begins. -/
theorem cut_endraw {after : List Char} (hafter : ∀ c ∈ after, isBlank c = true)
    (delimiter : Delimiter) (right : Marker) (rest : List Char) :
    Cut.ofChars false 0 'e' (['n', 'd', 'r', 'a', 'w'] ++ (after ++ delimiter.tail right rest)) =
      .ok { kind := .name "endraw"
            used := ['e', 'n', 'd', 'r', 'a', 'w']
            rest := after ++ delimiter.tail right rest } := by
  have hstop : ∀ c ∈ (after ++ delimiter.tail right rest).head?, isNamePart c = false := by
    intro c hc
    cases after with
    | nil =>
        obtain ⟨d, hhead, hmem⟩ := delimiter.head?_tail right rest
        obtain rfl : d = c := Option.some.inj (hhead.symm.trans hc)
        exact isNamePart_tail d hmem
    | cons d after =>
        obtain rfl : d = c := Option.some.inj hc
        exact isNamePart_of_isBlank (hafter d List.mem_cons_self)
  have hword : ∀ c ∈ ['e', 'n', 'd', 'r', 'a', 'w'], isNamePart c = true :=
    List.all_eq_true.1 (by decide +kernel)
  have hrun := takeWhile_append_of_head? hword hstop
  have hstart : isNameStart 'e' = true := by decide +kernel
  have hcut : Cut.name (['e', 'n', 'd', 'r', 'a', 'w'] ++ (after ++ delimiter.tail right rest)) =
      { kind := .name "endraw"
        used := ['e', 'n', 'd', 'r', 'a', 'w']
        rest := after ++ delimiter.tail right rest } := by
    unfold Cut.name
    rw [hrun.1, hrun.2]
  unfold Cut.ofChars
  rw [if_pos hstart]
  exact congrArg Except.ok hcut

theorem IsName.readsAs (hname : body.IsName "endraw") (right : Marker) :
    body.ReadsAs .block [] false right := by
  obtain ⟨before, after, hbefore, hafter, rfl⟩ := hname.eq_ofName
  have hends (marker : Marker) (rest : List Char) :
      Delimiter.block.ending? [] (Delimiter.block.tail marker rest) = some (marker, rest) :=
    Delimiter.closing?_tail .block marker rest
  have hbelow : (ofBlank after hafter).ReadsAs .block [] false right :=
    readsAs_ofBlank hafter hends right
  exact hbelow.cons rfl rfl rfl (by decide) (cut_endraw hafter .block right []) rfl

end TagBody

/-- The search for the end of a raw block and the reading of tags agree on what its end tag
is. -/
theorem Piece.rawEnd?_iff_scan {text rest : List Char} {left right : Marker} (start : Nat) :
    rawEnd? text = some (left, right, rest) ↔
      ∃ source closing, text = Delimiter.block.opener ++ source ∧
        Tag.scan .block start source = .ok closing ∧ closing.kinds = [.name "endraw"] ∧
        closing.tag.left = left ∧ closing.tag.right = right ∧ closing.rest = rest := by
  rw [rawEnd?_eq_some_iff]
  constructor
  · rintro ⟨body, hname, htext⟩
    have hscan := (hname.readsAs right).scan (.refl _) (hname.ofChar?_written left right rest) start
    refine ⟨_, _, htext, hscan, ?_, rfl, rfl, rfl⟩
    rw [TagBody.kinds_scanned]
    exact hname
  · rintro ⟨source, closing, htext, hscan, hkinds, rfl, rfl, rfl⟩
    obtain ⟨body, hsource, -, -, hclosing⟩ := Tag.exists_body hscan
    refine ⟨body, ?_, htext.trans (congrArg _ hsource)⟩
    rw [hclosing, TagBody.kinds_scanned] at hkinds
    exact hkinds

/-- An end tag has no brace but that of its opener. -/
theorem TagBody.IsName.not_mem_brace {body : TagBody} (hname : body.IsName "endraw")
    (left right : Marker) : '\x7b' ∉ '%' :: body.written .block left right [] := by
  obtain ⟨before, after, hbefore, hafter, rfl⟩ := hname.eq_ofName
  have hblank {text : List Char} (htext : ∀ c ∈ text, isBlank c = true) : '\x7b' ∉ text :=
    fun hmem => absurd (htext _ hmem) (by decide)
  have hword : '\x7b' ∉ "endraw".toList := by decide
  have hmarker (marker : Marker) : '\x7b' ∉ marker.chars := by cases marker <;> decide
  have hcloser : '\x7b' ∉ Delimiter.block.closer ++ [] := by decide
  rw [written, chars_ofName, Delimiter.tail]
  simp only [List.mem_cons, List.mem_append, not_or]
  exact ⟨by decide, hmarker left, ⟨hblank hbefore, hword, hblank hafter⟩, hmarker right,
    by simpa using hcloser⟩

/-! ## The first end tag -/

namespace Piece

/-- No end tag begins within the first characters of the text. -/
def NoneBefore (count : Nat) (source : List Char) : Prop :=
  ∀ before after, source = before ++ after → before.length < count → rawEnd? after = none

theorem noneBefore_zero (source : List Char) : NoneBefore 0 source :=
  fun _ _ _ hlt => absurd hlt (Nat.not_lt_zero _)

theorem noneBefore_succ {c : Char} {source : List Char} {count : Nat} :
    NoneBefore (count + 1) (c :: source) ↔
      rawEnd? (c :: source) = none ∧ NoneBefore count source := by
  constructor
  · intro hnone
    refine ⟨hnone [] _ rfl (Nat.zero_lt_succ _), fun before after hsource hlt => ?_⟩
    exact hnone (c :: before) after (congrArg (c :: ·) hsource) (Nat.succ_lt_succ hlt)
  · rintro ⟨hfirst, hnone⟩ before after hsource hlt
    cases before with
    | nil =>
        rw [List.nil_append] at hsource
        rwa [← hsource]
    | cons d before =>
        obtain ⟨rfl, htail⟩ := List.cons.inj hsource
        exact hnone before after htail (Nat.lt_of_succ_lt_succ hlt)

/-- The text is broken at the first place where an end tag begins. -/
theorem breakRaw?_eq_some_iff {source content rest : List Char} {left right : Marker} :
    breakRaw? source = some (content, left, right, rest) ↔
      ∃ text, source = content ++ text ∧ rawEnd? text = some (left, right, rest) ∧
        NoneBefore content.length source := by
  induction source generalizing content with
  | nil =>
      constructor
      · intro hbreak
        cases hbreak
      · rintro ⟨text, hsource, hend, -⟩
        rw [(List.append_eq_nil_iff.1 hsource.symm).2] at hend
        cases hend
  | cons c source ih =>
      rw [breakRaw?]
      split
      · next left' right' rest' hend =>
          constructor
          · intro hbreak
            cases hbreak
            exact ⟨_, rfl, hend, noneBefore_zero _⟩
          · rintro ⟨text, hsource, htext, hnone⟩
            cases content with
            | nil =>
                rw [List.nil_append] at hsource
                rw [← hsource, hend] at htext
                cases htext
                rfl
            | cons d content =>
                have hfirst := (noneBefore_succ.1 hnone).1
                rw [hend] at hfirst
                cases hfirst
      · next hend =>
          constructor
          · intro hbreak
            obtain ⟨⟨content', _, _, _⟩, hrest, hpair⟩ := Option.map_eq_some_iff.1 hbreak
            cases hpair
            obtain ⟨text, hsource, htext, hnone⟩ := ih.1 hrest
            exact ⟨text, congrArg (c :: ·) hsource, htext, noneBefore_succ.2 ⟨hend, hnone⟩⟩
          · rintro ⟨text, hsource, htext, hnone⟩
            cases content with
            | nil =>
                rw [List.nil_append] at hsource
                rw [← hsource, hend] at htext
                cases htext
            | cons d content =>
                obtain ⟨rfl, htail⟩ := List.cons.inj hsource
                rw [ih.2 ⟨text, htail, htext, (noneBefore_succ.1 hnone).2⟩]
                rfl

theorem breakRaw?_eq_none_iff {source : List Char} :
    breakRaw? source = none ↔ NoneBefore (source.length + 1) source := by
  induction source with
  | nil =>
      refine ⟨fun _ before after hsource _ => ?_, fun _ => rfl⟩
      rw [(List.append_eq_nil_iff.1 hsource.symm).2]
      rfl
  | cons c source ih =>
      rw [breakRaw?, List.length_cons, noneBefore_succ]
      split
      · next hend => simp [hend]
      · next hend => simp [hend, ih]

/-- Behind the brace of a later opener nothing matters for an end tag. -/
theorem rawEnd?_append_brace {front text : List Char} (hfront : front ≠ [])
    (hnone : rawEnd? (front ++ '\x7b' :: text) = none) (text' : List Char) :
    rawEnd? (front ++ '\x7b' :: text') = none := by
  rw [Option.eq_none_iff_forall_ne_some]
  rintro ⟨left, right, rest⟩ hend
  obtain ⟨body, hname, hsplit⟩ := rawEnd?_eq_some_iff.1 hend
  have hbrace := hname.not_mem_brace left right
  let tag := '%' :: body.written .block left right []
  have hwritten (rest : List Char) :
      ('\x7b' :: tag) ++ rest = Delimiter.block.opener ++ body.written .block left right rest := by
    simp [tag, TagBody.written, Delimiter.tail, Delimiter.opener]
  have hends (more : List Char) (hmore : front = ('\x7b' :: tag) ++ more) : False := by
    have hearly : rawEnd? (front ++ '\x7b' :: text) =
        some (left, right, more ++ '\x7b' :: text) := by
      refine rawEnd?_eq_some_iff.2 ⟨body, hname, ?_⟩
      rw [← hwritten, hmore, List.append_assoc]
    rw [hearly] at hnone
    cases hnone
  rw [← hwritten] at hsplit
  rcases List.append_eq_append_iff.1 hsplit with ⟨within, htag, hwithin⟩ | ⟨more, hmore, -⟩
  · cases within with
    | nil =>
        rw [List.append_nil] at htag
        exact hends [] (by rw [← htag, List.append_nil])
    | cons c within =>
        -- The brace would stand within the tag.
        obtain rfl : '\x7b' = c := (List.cons.inj hwithin).1
        obtain ⟨d, front, rfl⟩ := List.exists_cons_of_ne_nil hfront
        have htail : tag = front ++ '\x7b' :: within := (List.cons.inj htag).2
        apply hbrace
        change '\x7b' ∈ tag
        rw [htail]
        exact List.mem_append_right front List.mem_cons_self
  · exact hends more hmore

theorem noneBefore_append_brace {content text : List Char}
    (hnone : NoneBefore content.length (content ++ '\x7b' :: text)) (text' : List Char) :
    NoneBefore content.length (content ++ '\x7b' :: text') := by
  intro before after hsplit hlt
  obtain ⟨front, rfl⟩ : before <+: content :=
    List.prefix_of_prefix_length_le ⟨after, hsplit.symm⟩ ⟨_, rfl⟩ (Nat.le_of_lt hlt)
  have hfront : front ≠ [] := by
    rintro rfl
    simp at hlt
  rw [List.append_assoc] at hsplit
  rw [← List.append_cancel_left hsplit]
  exact rawEnd?_append_brace hfront (hnone before _ (List.append_assoc ..) hlt) text'

end Piece

/-! ## The whole block -/

/-- Behind `content` stands a block tag that, read like any other, has the name `endraw` as
its only lexeme. -/
def EndsRaw (start : Nat) (source content : List Char) (closing : Scanned) : Prop :=
  ∃ inside, source = content ++ (Delimiter.block.opener ++ inside) ∧
    Tag.scan .block (start + byteLength content) inside = .ok closing ∧
    closing.kinds = [.name "endraw"]

theorem EndsRaw.rawEnd? {start : Nat} {source content : List Char} {closing : Scanned}
    (hends : EndsRaw start source content closing) :
    ∃ text, source = content ++ text ∧
      Piece.rawEnd? text = some (closing.tag.left, closing.tag.right, closing.rest) := by
  obtain ⟨inside, hsource, hscan, hkinds⟩ := hends
  exact ⟨_, hsource, (Piece.rawEnd?_iff_scan _).2
    ⟨inside, closing, rfl, hscan, hkinds, rfl, rfl, rfl⟩⟩

theorem exists_endsRaw {source content text rest : List Char} {left right : Marker}
    (hsource : source = content ++ text)
    (hend : Piece.rawEnd? text = some (left, right, rest)) (start : Nat) :
    ∃ closing, EndsRaw start source content closing ∧ closing.tag.left = left ∧
      closing.tag.right = right ∧ closing.rest = rest := by
  obtain ⟨inside, closing, rfl, hscan, hkinds, hmarks⟩ :=
    (Piece.rawEnd?_iff_scan (start + byteLength content)).1 hend
  exact ⟨closing, ⟨inside, hsource, hscan, hkinds⟩, hmarks⟩

/-- The end tag that stands first. -/
def FirstEndsRaw (start : Nat) (source content : List Char) (closing : Scanned) : Prop :=
  EndsRaw start source content closing ∧
    ∀ before other, EndsRaw start source before other → byteLength content ≤ byteLength before

/-- The search breaks the text at the first place where the tag stands. -/
theorem FirstEndsRaw.breakRaw? {start : Nat} {source content : List Char} {closing : Scanned}
    (hfirst : FirstEndsRaw start source content closing) :
    Piece.breakRaw? source =
      some (content, closing.tag.left, closing.tag.right, closing.rest) := by
  obtain ⟨text, hsource, hend⟩ := hfirst.1.rawEnd?
  refine Piece.breakRaw?_eq_some_iff.2 ⟨text, hsource, hend, ?_⟩
  intro before after hsplit hlt
  rw [Option.eq_none_iff_forall_ne_some]
  rintro ⟨left, right, rest⟩ hearly
  obtain ⟨other, hother, -⟩ := exists_endsRaw hsplit hearly start
  have hle := hfirst.2 before other hother
  -- A part of the text with fewer characters than another has fewer bytes.
  rw [hsource] at hsplit
  obtain ⟨more, rfl⟩ : before <+: content :=
    List.prefix_of_prefix_length_le ⟨after, hsplit.symm⟩ ⟨text, rfl⟩ (Nat.le_of_lt hlt)
  have hmore : more ≠ [] := by
    rintro rfl
    simp at hlt
  have hpos := byteLength_pos hmore
  rw [byteLength_append] at hle
  omega

theorem exists_firstEndsRaw {source content rest : List Char} {left right : Marker}
    (hbreak : Piece.breakRaw? source = some (content, left, right, rest)) (start : Nat) :
    ∃ closing, FirstEndsRaw start source content closing ∧ closing.tag.left = left ∧
      closing.tag.right = right ∧ closing.rest = rest := by
  obtain ⟨text, hsource, hend, hnone⟩ := Piece.breakRaw?_eq_some_iff.1 hbreak
  obtain ⟨closing, hends, hmarks⟩ := exists_endsRaw hsource hend start
  refine ⟨closing, ⟨hends, fun before other hother => ?_⟩, hmarks⟩
  obtain ⟨after, hsplit, hafter⟩ := hother.rawEnd?
  have hle : content.length ≤ before.length := by
    by_contra hlt
    rw [hnone before after hsplit (Nat.lt_of_not_le hlt)] at hafter
    cases hafter
  rw [hsource] at hsplit
  obtain ⟨more, rfl⟩ : content <+: before :=
    List.prefix_of_prefix_length_le ⟨text, rfl⟩ ⟨after, hsplit.symm⟩ hle
  rw [byteLength_append]
  exact Nat.le_add_right _ _

theorem breakRaw?_eq_none_iff_endsRaw {source : List Char} (start : Nat) :
    Piece.breakRaw? source = none ↔ ∀ content closing, ¬EndsRaw start source content closing := by
  constructor
  · intro hbreak content closing hends
    obtain ⟨text, hsource, hend⟩ := hends.rawEnd?
    have hlength := congrArg List.length hsource
    rw [List.length_append] at hlength
    rw [Piece.breakRaw?_eq_none_iff.1 hbreak content text hsource (by omega)] at hend
    cases hend
  · intro hnone
    rw [Option.eq_none_iff_forall_ne_some]
    rintro ⟨content, left, right, rest⟩ hbreak
    obtain ⟨closing, hfirst, -⟩ := exists_firstEndsRaw hbreak start
    exact hnone content closing hfirst.1

theorem EndsRaw.stop_eq {start : Nat} {source content : List Char} {closing : Scanned}
    (hends : EndsRaw start source content closing) :
    start + (byteLength source - byteLength closing.rest) = closing.stop := by
  obtain ⟨inside, rfl, hscan, -⟩ := hends
  obtain ⟨front, rfl, hstop, -⟩ := Tag.exists_scan_append hscan
  simp only [hstop, byteLength_append, Delimiter.byteLength_opener]
  omega

/-- A raw block goes on up to the first place where its end tag stands, which the lexer reads
like any other tag.  Without such a place it is reported as not closed. -/
theorem Token.ofCharsFrom_raw {start : Nat} {source : List Char} {opened : Scanned}
    (hopened : Tag.scan .block start source = .ok opened) (hraw : opened.kinds = [.name "raw"])
    (trimsStart : Bool) :
    (∀ content closing, FirstEndsRaw opened.stop opened.rest content closing →
      Token.ofCharsFrom start trimsStart (Delimiter.block.opener ++ source) =
        (Token.ofCharsFrom closing.stop (closing.tag.right == .trim) closing.rest).map
          (Token.raw
            (String.ofList
              (Piece.trimmed (opened.tag.right == .trim) (closing.tag.left == .trim) content))
            (Span.ofBounds opened.tag.span.start.toNat closing.stop) :: ·)) ∧
    ((∀ content closing, ¬EndsRaw opened.stop opened.rest content closing) →
      Token.ofCharsFrom start trimsStart (Delimiter.block.opener ++ source) =
        .error (.unclosedTag "raw" "endraw" opened.tag.span)) := by
  have hopens : Piece.opensRaw opened.tag = true := beq_iff_eq.2 hraw
  have hpiece : Piece.ofChars start trimsStart (Delimiter.block.opener ++ source) =
      Piece.raw opened.tag opened.stop opened.rest := by
    rw [Piece.ofChars_markup (by decide), hopened]
    exact if_pos ⟨rfl, hopens⟩
  have hne : Delimiter.block.opener ++ source ≠ [] := List.cons_ne_nil _ _
  rw [Token.ofCharsFrom_of_ne_nil hne, hpiece]
  constructor
  · intro content closing hfirst
    rw [Piece.raw, hfirst.breakRaw?]
    dsimp only
    rw [hfirst.1.stop_eq]
    rfl
  · intro hnone
    rw [Piece.raw, (breakRaw?_eq_none_iff_endsRaw opened.stop).2 hnone]
    rfl

/-- A quote, open braces, a tag with a longer name and one with a second marker stand in front
of the end tag of the block. -/
theorem Token.ofCharsFrom_raw_lookalikes :
    let content := " \x7b\x7b '\x7b% endrawx %\x7d\x7b%--endraw%\x7d\x7b"
    let source := "-raw -%\x7d".toList ++ (content ++ "\x7b%- endraw\n-%\x7d b").toList
    ∃ opened closing,
      Tag.scan .block 0 source = .ok opened ∧ opened.kinds = [.name "raw"] ∧
      FirstEndsRaw opened.stop opened.rest content.toList closing ∧
      Token.ofCharsFrom 0 false (Delimiter.block.opener ++ source) =
        .ok [.raw (String.ofList (content.toList.drop 1)) ⟨0, 55⟩, .text "b" ⟨56, 1⟩, .eof 57] := by
  intro content source
  let opened : Scanned :=
    { tag := ⟨[⟨.name "raw", ⟨3, 3⟩⟩], ⟨0, 10⟩, ⟨3, 3⟩, .trim, .trim⟩
      stop := 10
      rest := (content ++ "\x7b%- endraw\n-%\x7d b").toList }
  let closing : Scanned :=
    { tag := ⟨[⟨.name "endraw", ⟨45, 6⟩⟩], ⟨41, 14⟩, ⟨45, 6⟩, .trim, .trim⟩
      stop := 55
      rest := [' ', 'b'] }
  have hopened : Tag.scan .block 0 source = .ok opened := by decide +kernel
  have hbreak : Piece.breakRaw? opened.rest = some (content.toList, .trim, .trim, [' ', 'b']) := by
    decide +kernel
  have hends : EndsRaw opened.stop opened.rest content.toList closing :=
    ⟨"- endraw\n-%\x7d b".toList, by decide +kernel, by decide +kernel, rfl⟩
  obtain ⟨_, hleast, -⟩ := exists_firstEndsRaw hbreak opened.stop
  have hfirst : FirstEndsRaw opened.stop opened.rest content.toList closing := ⟨hends, hleast.2⟩
  have htokens := (Token.ofCharsFrom_raw hopened rfl false).1 content.toList closing hfirst
  refine ⟨opened, closing, hopened, rfl, hfirst, htokens.trans ?_⟩
  decide +kernel

end TemplateVariables
