import Mathlib.Algebra.Group.Nat.Defs
import TemplateVariables.Proofs.Token.Markers

/-!
# What the tokens of a template cover

The tokens lose nothing of a template but white space beside a dash, and invent
nothing.  A run of text may be trimmed at its start, because of the token before
it, and at its end, because of the token behind it, and is left out when nothing
remains, so that a gap has to be carried from one token to the next.  `Place`
says how the reader stands in the source with such a gap behind it, and `Layout`
how its tokens follow each other.  What is covered and what is not is then read
off the layout by induction.
-/

namespace TemplateVariables

open Text

/-! ## Plain runs -/

namespace Piece

theorem plainRun_append (source : List Char) :
    (plainRun source).1 ++ (plainRun source).2 = source := by
  induction source with
  | nil => rfl
  | cons c rest ih =>
      simp only [plainRun]
      split
      · rfl
      · rw [List.cons_append, ih]

/-- A run ends where a delimiter stands or at the end of the source. -/
theorem ofChars?_plainRun_snd (source : List Char) (hsource : (plainRun source).2 ≠ []) :
    Delimiter.ofChars? (plainRun source).2 ≠ none := by
  induction source with
  | nil => contradiction
  | cons c rest ih =>
      simp only [plainRun] at hsource ⊢
      split
      · next hdelimiter => simp [hdelimiter]
      · next hdelimiter =>
          simp only [hdelimiter] at hsource
          exact ih hsource

theorem not_opener_infix_plainRun (source : List Char) (delimiter : Delimiter) :
    ¬delimiter.opener <:+: (plainRun source).1 := by
  induction source with
  | nil => cases delimiter <;> simp [plainRun, Delimiter.opener]
  | cons c rest ih =>
      simp only [plainRun]
      split
      · cases delimiter <;> simp [Delimiter.opener]
      · next hdelimiter =>
          have happend := plainRun_append rest
          rw [List.infix_cons_iff, not_or]
          refine ⟨?_, ih⟩
          rintro ⟨after, hafter⟩
          have hopener : c :: rest = delimiter.opener ++ (after ++ (plainRun rest).2) := by
            rw [← List.append_assoc, hafter, List.cons_append, happend]
          rw [hopener, Delimiter.ofChars?_opener_append] at hdelimiter
          contradiction

end Piece

/-! ## Trimming -/

theorem Text.trimEnd_append (text : List Char) :
    trimEnd text ++ text.rtakeWhile isBlank = text :=
  List.rdropWhile_append_rtakeWhile

/-- The first character of the text, if it has one, is not blank. -/
def Text.StartsUnblank (text : List Char) : Prop :=
  ∀ c ∈ text.head?, isBlank c = false

def Text.EndsUnblank (text : List Char) : Prop :=
  EndsIn (isBlank · = false) text

theorem Text.startsUnblank_trimStart (text : List Char) : StartsUnblank (trimStart text) := by
  intro c hc
  have hhead := List.head?_dropWhile_not isBlank text
  rw [trimStart] at hc
  rw [hc] at hhead
  simpa using hhead

theorem Text.endsUnblank_trimEnd (text : List Char) : EndsUnblank (trimEnd text) := by
  intro c hc
  rw [trimEnd, List.getLast?_reverse] at hc
  exact startsUnblank_trimStart text.reverse c hc

theorem Text.StartsUnblank.trimEnd {text : List Char} (htext : StartsUnblank text) :
    StartsUnblank (trimEnd text) := by
  intro c hc
  have hsplit := trimEnd_append text
  have hhead : text.head? = some c := by
    rw [← hsplit, List.head?_append, hc]
    rfl
  exact htext c hhead

/-- A run is its kept part between the white space that is removed on its two sides. -/
structure Piece.Trims (trimsStart trimsEnd : Bool) (run lead kept trail : List Char) : Prop where
  append : run = lead ++ (kept ++ trail)
  lead_blank : ∀ c ∈ lead, isBlank c = true
  trail_blank : ∀ c ∈ trail, isBlank c = true
  lead_eq_nil : trimsStart = false → lead = []
  trail_eq_nil : trimsEnd = false → trail = []
  starts : trimsStart = true → StartsUnblank kept
  ends : trimsEnd = true → EndsUnblank kept

theorem Piece.trims_trimmed (trimsStart trimsEnd : Bool) (run : List Char) :
    ∃ lead trail, Trims trimsStart trimsEnd run lead (trimmed trimsStart trimsEnd run) trail ∧
      byteLength lead = if trimsStart then byteLength (run.takeWhile isBlank) else 0 := by
  let lead := if trimsStart then run.takeWhile isBlank else []
  let inner := if trimsStart then trimStart run else run
  let trail := if trimsEnd then inner.rtakeWhile isBlank else []
  have hinner : lead ++ inner = run := by
    cases trimsStart
    · rfl
    · exact trimStart_append run
  have hkept : trimmed trimsStart trimsEnd run ++ trail = inner := by
    cases trimsEnd
    · exact List.append_nil _
    · exact trimEnd_append inner
  have hstarts : trimsStart = true → StartsUnblank inner := by
    rintro rfl
    exact startsUnblank_trimStart run
  refine ⟨lead, trail, ?_, ?_⟩
  · constructor
    · rw [hkept, hinner]
    · intro c hc
      cases trimsStart
      · simp [lead] at hc
      · exact List.mem_takeWhile_imp hc
    · intro c hc
      cases trimsEnd
      · simp [trail] at hc
      · exact List.mem_rtakeWhile_imp hc
    · rintro rfl
      rfl
    · rintro rfl
      rfl
    · intro htrims
      cases trimsEnd
      · exact hstarts htrims
      · exact (hstarts htrims).trimEnd
    · rintro rfl
      exact endsUnblank_trimEnd inner
  · cases trimsStart <;> rfl

/-! ## The layout of a source -/

/-- Between the two offsets stands nothing but white space. -/
def Text.BlankBetween (source : List Char) (start stop : Nat) : Prop :=
  ∃ before gap after, source = before ++ (gap ++ after) ∧ byteLength before = start ∧
    byteLength (before ++ gap) = stop ∧ ∀ c ∈ gap, isBlank c = true

namespace Token

/-- The token before a place, with what is written of it. -/
abbrev Previous := Option (Token × List Char)

def Previous.ClosesWithDash (previous : Previous) : Prop :=
  ∃ entry ∈ previous, entry.1.ClosesWithDash entry.2

/-- How a token stands in a source behind the one before it, which ends at `start`. -/
structure Placed (source : List Char) (previous : Previous) (start : Nat) (token : Token)
    (written : List Char) : Prop where
  covers : token.span.Covers source written
  written_ne_nil : written ≠ []
  start_le : start ≤ token.span.start.toNat
  gap_blank : BlankBetween source start token.span.start.toNat
  gap_trimmed : start < token.span.start.toNat →
    previous.ClosesWithDash ∨ token.OpensWithDash written
  text : token.delimiter? = none →
    token = .text (String.ofList written) token.span ∧
      (∀ delimiter : Delimiter, ¬delimiter.opener <:+: written) ∧
      (∀ entry ∈ previous, entry.1.delimiter?.isSome = true) ∧
      (previous.ClosesWithDash → StartsUnblank written)
  markup : token.OpensWithDash written →
    ∀ entry ∈ previous, entry.1.delimiter? = none → EndsUnblank entry.2

/-- The tokens of a source from `start` on. -/
inductive Layout (source : List Char) : Previous → Nat → List Token → Prop where
  | stop {previous : Previous} {start : Nat}
      (hblank : BlankBetween source start (byteLength source))
      (htrimmed : start < byteLength source → previous.ClosesWithDash) :
      Layout source previous start []
  | token {previous : Previous} {start : Nat} {token : Token} {written : List Char}
      {tokens : List Token} (hplaced : Placed source previous start token written)
      (hrest : Layout source (some (token, written)) token.span.stop tokens) :
      Layout source previous start (token :: tokens)

/-- The place in a source where its next piece begins: behind `before`, where the token
before it ends, and a gap. -/
structure Place (source : List Char) (previous : Previous) (before gap : List Char)
    (trimsStart : Bool) (rest : List Char) : Prop where
  append : source = before ++ (gap ++ rest)
  blank : ∀ c ∈ gap, isBlank c = true
  trimmed : gap ≠ [] → previous.ClosesWithDash ∨ Piece.trimsPrevious rest = true
  text : rest ≠ [] → Delimiter.ofChars? rest = none →
    gap = [] ∧ (∀ entry ∈ previous, entry.1.delimiter?.isSome = true) ∧
      (trimsStart = true ↔ previous.ClosesWithDash)
  markup : Piece.trimsPrevious rest = true →
    ∀ entry ∈ previous, entry.1.delimiter? = none → EndsUnblank entry.2

variable {source before gap rest run lead kept trail written : List Char}
  {previous : Previous} {trimsStart : Bool} {token : Token}

theorem place_start (source : List Char) : Place source none [] [] false source := by
  constructor
  · rfl
  · simp
  · simp
  · simp [Previous.ClosesWithDash]
  · simp

theorem Place.blankBetween (hplace : Place source previous before gap trimsStart rest) :
    BlankBetween source (byteLength before) (byteLength (before ++ gap)) :=
  ⟨before, gap, rest, hplace.append, rfl, rfl, hplace.blank⟩

theorem gap_ne_nil_of_lt (hlt : byteLength before < byteLength (before ++ gap)) : gap ≠ [] := by
  rintro rfl
  simp at hlt

/-! ### Tags, comments and raw blocks -/

section Markup

variable {piece : Piece}

theorem opensWithDash_iff {start : Nat} (hmarkup : piece.IsMarkup start rest token written)
    (hdelimiter : Delimiter.ofChars? rest ≠ none) :
    token.OpensWithDash written ↔ Piece.trimsPrevious rest = true := by
  have hisSome : token.delimiter?.isSome = true := by
    rw [hmarkup.delimiter]
    exact Option.isSome_iff_ne_none.2 hdelimiter
  have hhead : (written.drop Delimiter.width).head? =
      (rest.drop Delimiter.width).head? := by
    have hlength := hmarkup.length
    have hne : written.drop Delimiter.width ≠ [] := by
      simpa using hlength
    rw [hmarkup.append, List.drop_append_of_le_length hlength.le,
      List.head?_append_of_ne_nil _ hne]
  simp [OpensWithDash, Piece.trimsPrevious, hisSome, hhead]

theorem Place.placed_markup (hplace : Place source previous before gap trimsStart rest)
    (hlimit : byteLength source ≤ Span.limit)
    (hmarkup : piece.IsMarkup (byteLength (before ++ gap)) rest token written)
    (hdelimiter : Delimiter.ofChars? rest ≠ none) :
    Placed source previous (byteLength before) token written ∧
      token.span.stop = piece.stop ∧
      Place source (some (token, written)) (before ++ (gap ++ written)) [] piece.trimsNext
        piece.rest := by
  have hopens := opensWithDash_iff hmarkup hdelimiter
  have happend : source = (before ++ gap) ++ (written ++ piece.rest) := by
    rw [hplace.append, hmarkup.append, List.append_assoc]
  have hspan : token.span = Span.ofParts (byteLength (before ++ gap)) (byteLength written) := by
    rw [hmarkup.span, hmarkup.stop, Span.ofBounds, Nat.add_sub_cancel_left]
  obtain ⟨hcovers, hstart, hstop⟩ := Span.covers_of_append hlimit happend hspan
  refine ⟨?_, ?_, ?_⟩
  · constructor
    · exact hcovers
    · have hlength := hmarkup.length
      rintro rfl
      simp at hlength
    · rw [hstart, byteLength_append]
      omega
    · rw [hstart]
      exact hplace.blankBetween
    · intro hlt
      rw [hstart] at hlt
      rw [hopens]
      exact hplace.trimmed (gap_ne_nil_of_lt hlt)
    · intro hnone
      rw [hmarkup.delimiter] at hnone
      contradiction
    · intro hdash
      exact hplace.markup (hopens.1 hdash)
  · rw [hstop, hmarkup.stop, byteLength_append]
  · have hisSome : token.delimiter?.isSome = true := by
      rw [hmarkup.delimiter]
      exact Option.isSome_iff_ne_none.2 hdelimiter
    constructor
    · simpa using happend
    · simp
    · simp
    · intro _ _
      refine ⟨rfl, ?_, ?_⟩
      · simpa using hisSome
      · simpa [Previous.ClosesWithDash] using hmarkup.trims_iff
    · intro _ entry hentry hnone
      cases hentry
      simp [hnone] at hisSome

end Markup

/-! ### Plain runs -/

section Text

variable (htrims : Piece.Trims trimsStart (Piece.trimsPrevious rest) run lead kept trail)
  (hends : rest ≠ [] → Delimiter.ofChars? rest ≠ none)
  (hmarkup : ∀ entry ∈ previous, entry.1.delimiter?.isSome = true)
  (hcloses : trimsStart = true ↔ previous.ClosesWithDash)
  (happend : source = before ++ (run ++ rest))

include htrims hends happend in
theorem place_kept (span : Span) :
    Place source (some (.text (String.ofList kept) span, kept)) (before ++ (lead ++ kept)) trail
      false rest := by
  constructor
  · simp [happend, htrims.append]
  · exact htrims.trail_blank
  · intro htrail
    right
    by_contra hkeeps
    exact htrail (htrims.trail_eq_nil (by simpa using hkeeps))
  · intro hne hnone
    exact absurd hnone (hends hne)
  · intro hdash entry hentry _
    cases hentry
    exact htrims.ends hdash

include htrims hends hmarkup hcloses happend in
theorem place_dropped (hkept : kept = []) (hrun : run ≠ []) :
    Place source previous before run false rest := by
  have hsplit : run = lead ++ trail := by
    rw [htrims.append, hkept, List.nil_append]
  constructor
  · exact happend
  · intro c hc
    rw [hsplit, List.mem_append] at hc
    exact hc.elim (htrims.lead_blank c) (htrims.trail_blank c)
  · intro _
    by_cases hstarts : trimsStart = true
    · exact .inl (hcloses.1 hstarts)
    · right
      have hlead : lead = [] := htrims.lead_eq_nil (by simpa using hstarts)
      have htrail : trail ≠ [] := by simpa [hsplit, hlead] using hrun
      by_contra hkeeps
      exact htrail (htrims.trail_eq_nil (by simpa using hkeeps))
  · intro hne hnone
    exact absurd hnone (hends hne)
  · intro _ entry hentry hnone
    have hsome := hmarkup entry hentry
    simp [hnone] at hsome

include htrims hmarkup hcloses happend in
theorem placed_text (hlimit : byteLength source ≤ Span.limit) (hkept : kept ≠ [])
    (hplain : ∀ delimiter : Delimiter, ¬delimiter.opener <:+: run) {span : Span}
    (hspan : span = Span.ofParts (byteLength (before ++ lead)) (byteLength kept)) :
    Placed source previous (byteLength before) (.text (String.ofList kept) span) kept ∧
      span.stop = byteLength (before ++ (lead ++ kept)) := by
  have hinfix : kept <:+: run := ⟨lead, trail, by rw [htrims.append, List.append_assoc]⟩
  have hsplit : source = (before ++ lead) ++ (kept ++ (trail ++ rest)) := by
    simp [happend, htrims.append]
  obtain ⟨hcovers, hstart, hstop⟩ := Span.covers_of_append hlimit hsplit hspan
  refine ⟨?_, by rw [hstop, List.append_assoc]⟩
  constructor
  · exact hcovers
  · exact hkept
  · simp only [Token.span, hstart, byteLength_append]
    omega
  · refine ⟨before, lead, kept ++ (trail ++ rest), ?_, rfl, hstart.symm, htrims.lead_blank⟩
    simpa using hsplit
  · intro hlt
    simp only [Token.span, hstart] at hlt
    left
    rw [← hcloses]
    by_contra hkeeps
    exact gap_ne_nil_of_lt hlt (htrims.lead_eq_nil (by simpa using hkeeps))
  · intro _
    refine ⟨rfl, ?_, hmarkup, ?_⟩
    · intro delimiter hopener
      exact hplain delimiter (hopener.trans hinfix)
    · intro hdash
      exact htrims.starts (hcloses.2 hdash)
  · intro hdash
    simp [OpensWithDash, delimiter?] at hdash

end Text

/-- Tokens that end with the end of the source, laid out in it from `start` on. -/
def LaysOut (source : List Char) (previous : Previous) (start : Nat) (tokens : List Token) :
    Prop :=
  ∃ body, tokens = body ++ [.eof (Span.clamp (byteLength source))] ∧
    Layout source previous start body

theorem LaysOut.cons {tokens : List Token} {start : Nat}
    (hplaced : Placed source previous start token written)
    (htokens : LaysOut source (some (token, written)) token.span.stop tokens) :
    LaysOut source previous start (token :: tokens) := by
  obtain ⟨body, rfl, hbody⟩ := htokens
  exact ⟨token :: body, rfl, .token hplaced hbody⟩

/-- A plain run gives a text, or nothing when all of it is trimmed. -/
theorem Place.laysOut_text (hplace : Place source previous before [] trimsStart rest)
    (hlimit : byteLength source ≤ Span.limit) (hrest : rest ≠ [])
    (hdelimiter : Delimiter.ofChars? rest = none) {tokens : List Token}
    (htokens : ∀ (previous : Previous) (inner gap : List Char),
      Place source previous inner gap false
          (Piece.text (byteLength before) trimsStart rest).rest →
        (Piece.text (byteLength before) trimsStart rest).stop = byteLength (inner ++ gap) →
          LaysOut source previous (byteLength inner) tokens) :
    LaysOut source previous (byteLength before)
      ((Piece.text (byteLength before) trimsStart rest).token.toList ++ tokens) := by
  obtain ⟨-, hmarkup, hcloses⟩ := hplace.text hrest hdelimiter
  have hsource := hplace.append
  have happend := Piece.plainRun_append rest
  have hplain := Piece.not_opener_infix_plainRun rest
  have hends := Piece.ofChars?_plainRun_snd rest
  have hrun : (Piece.plainRun rest).1 ≠ [] := by
    obtain ⟨c, others, rfl⟩ := List.exists_cons_of_ne_nil hrest
    simp [Piece.plainRun, hdelimiter]
  rw [List.nil_append, ← happend] at hsource
  unfold Piece.text at htokens ⊢
  generalize Piece.plainRun rest = parts at hsource hplain hends hrun htokens ⊢
  obtain ⟨run, others⟩ := parts
  dsimp only at hsource hplain hends hrun htokens ⊢
  obtain ⟨lead, trail, htrims, hremoved⟩ :=
    Piece.trims_trimmed trimsStart (Piece.trimsPrevious others) run
  generalize Piece.trimmed trimsStart (Piece.trimsPrevious others) run = kept at htrims ⊢
  rw [← hremoved]
  by_cases hkept : kept = []
  · have hdropped := place_dropped htrims hends hmarkup hcloses hsource hkept hrun
    rw [if_pos hkept]
    exact htokens previous before run hdropped (byteLength_append _ _).symm
  · rw [if_neg hkept, ← byteLength_append]
    have hplaced := placed_text htrims hmarkup hcloses hsource hlimit hkept hplain rfl
    refine LaysOut.cons hplaced.1 ?_
    have hstop : byteLength before + byteLength run =
        byteLength (before ++ (lead ++ kept) ++ trail) := by
      rw [htrims.append]
      simp only [byteLength_append]
      omega
    have hlayout := htokens _ _ trail (place_kept htrims hends hsource
      (Span.ofParts (byteLength (before ++ lead)) (byteLength kept))) hstop
    rw [← hplaced.2] at hlayout
    exact hlayout

/-! ### Whole sources -/

theorem Place.laysOut {start : Nat} {tokens : List Token}
    (hplace : Place source previous before gap trimsStart rest)
    (hlimit : byteLength source ≤ Span.limit) (hstart : start = byteLength (before ++ gap))
    (hok : ofCharsFrom start trimsStart rest = .ok tokens) :
    LaysOut source previous (byteLength before) tokens := by
  fun_induction ofCharsFrom start trimsStart rest
      generalizing tokens previous before gap with
  | case1 start trimsStart =>
      cases hok
      have hsource : source = before ++ gap := by
        simpa using hplace.append
      refine ⟨[], by rw [hstart, ← hsource]; rfl, Layout.stop ?_ ?_⟩
      · rw [hsource]
        rw [hsource] at hplace
        exact hplace.blankBetween
      · intro hlt
        rw [hsource] at hlt
        exact (hplace.trimmed (gap_ne_nil_of_lt hlt)).resolve_right (by simp [Piece.trimsPrevious])
  | case2 => cases hok
  | case3 => cases hok
  | case4 start trimsStart c others piece hpiece below hbelow ih =>
      cases hok
      cases hdelimiter : Delimiter.ofChars? (c :: others) with
      | some delimiter =>
          have hlength := congrArg byteLength hplace.append
          rw [← List.append_assoc, byteLength_append] at hlength
          have hne : Delimiter.ofChars? (c :: others) ≠ none := by simp [hdelimiter]
          obtain ⟨token, written, hmarkup⟩ :=
            Piece.ofChars_isMarkup (by omega) hdelimiter hpiece
          rw [hstart] at hmarkup
          obtain ⟨hplaced, hstop, hnext⟩ := hplace.placed_markup hlimit hmarkup hne
          have hnextStart : piece.stop = byteLength (before ++ (gap ++ written) ++ []) := by
            rw [hmarkup.stop]
            simp only [byteLength_append, byteLength_nil]
            omega
          have hbelow := ih hnext hnextStart hbelow
          rw [List.append_nil] at hnextStart
          rw [← hnextStart, ← hstop] at hbelow
          rw [hmarkup.gives]
          exact LaysOut.cons hplaced hbelow
      | none =>
          have hpieceText : piece = Piece.text start trimsStart (c :: others) := by
            unfold Piece.ofChars at hpiece
            rw [hdelimiter] at hpiece
            exact (Except.ok.inj hpiece).symm
          have hrest : c :: others ≠ [] := List.cons_ne_nil _ _
          obtain ⟨rfl, -⟩ := hplace.text hrest hdelimiter
          rw [List.append_nil] at hstart
          subst hstart hpieceText
          refine hplace.laysOut_text hlimit hrest hdelimiter ?_
          intro previous inner gap hnext hstop
          exact ih hnext hstop hbelow

/-! ### Every token of a layout -/

section Layout

variable {start : Nat} {body : List Token} {next : Token}

theorem Placed.isPrevious {previous : Previous}
    (hplaced : Placed source previous start token written) :
    ∀ entry ∈ (some (token, written) : Previous), entry.1.span.Covers source entry.2 ∧
      entry.1.span.stop = token.span.stop := by
  intro entry hentry
  cases hentry
  exact ⟨hplaced.covers, rfl⟩

theorem Layout.placed (hlayout : Layout source previous start body) (htoken : token ∈ body) :
    ∃ previous start written, Placed source previous start token written := by
  induction hlayout with
  | stop => cases htoken
  | token hplaced _ ih =>
      cases htoken with
      | head => exact ⟨_, _, _, hplaced⟩
      | tail _ hmem => exact ih hmem

/-- A token stands where the token before it ends, with nothing but the gap between them. -/
theorem Layout.placed_next (hlayout : Layout source previous start body)
    (hprevious : ∀ entry ∈ previous, entry.1.span.Covers source entry.2 ∧
      entry.1.span.stop = start)
    (hnext : [token, next] <:+: (previous.map Prod.fst).toList ++ body) :
    ∃ written nextWritten, token.span.Covers source written ∧
      Placed source (some (token, written)) token.span.stop next nextWritten := by
  induction hlayout with
  | @stop previous start =>
      have hlength := hnext.length_le
      cases previous <;> simp at hlength
  | @token previous start first written tokens hplaced _ ih =>
      cases previous with
      | none => exact ih hplaced.isPrevious hnext
      | some entry =>
          obtain ⟨hcovers, hstop⟩ := hprevious entry rfl
          rcases List.infix_cons_iff.1 hnext with hprefix | hinfix
          · have hsame := List.cons_prefix_cons.1 hprefix
            obtain ⟨rfl, -⟩ := List.cons_prefix_cons.1 hsame.2
            rw [hsame.1]
            rw [← hstop] at hplaced
            exact ⟨entry.2, written, hcovers, hplaced⟩
          · exact ih hplaced.isPrevious hinfix

theorem Layout.start_le (hlayout : Layout source previous start body)
    (hlimit : byteLength source ≤ Span.limit) (htoken : token ∈ body) :
    start ≤ token.span.start.toNat := by
  induction hlayout with
  | stop => cases htoken
  | token hplaced _ ih =>
      have hstart := hplaced.start_le
      cases htoken with
      | head => exact hstart
      | tail _ hmem =>
          have hlt := hplaced.covers.start_lt_stop hplaced.written_ne_nil hlimit
          have hbelow := ih hmem
          omega

theorem Layout.pairwise (hlayout : Layout source previous start body)
    (hlimit : byteLength source ≤ Span.limit) :
    body.Pairwise fun token next => token.span.stop ≤ next.span.start.toNat := by
  induction hlayout with
  | stop => exact .nil
  | token _ hrest ih => exact .cons (fun _ hnext => hrest.start_le hlimit hnext) ih

end Layout

/-! ## What is covered and what is not -/

/-- The token is a tag, a comment or a raw block of the source whose left side carries a
dash. -/
def LeftDash (source : List Char) (token : Token) : Prop :=
  ∃ written, token.span.Covers source written ∧ token.OpensWithDash written

/-- The token is a tag, a comment or a raw block of the source whose right side carries a
dash. -/
def RightDash (source : List Char) (token : Token) : Prop :=
  ∃ written, token.span.Covers source written ∧ token.ClosesWithDash written

def Uncovered (tokens : List Token) (offset : Nat) : Prop :=
  ∀ token ∈ tokens, ¬(token.span.start.toNat ≤ offset ∧ offset < token.span.stop)

/-- The bytes from `start` to `stop` are covered by no span, and the ones next to them in
the range from `low` to `high` are. -/
structure MaximalGap (tokens : List Token) (low high start stop : Nat) : Prop where
  low_le : low ≤ start
  lt : start < stop
  le_high : stop ≤ high
  uncovered : ∀ offset, start ≤ offset → offset < stop → Uncovered tokens offset
  covered_before : low < start → ¬Uncovered tokens (start - 1)
  covered_after : stop < high → ¬Uncovered tokens stop

/-- The spans stand one behind the other from `start` to `stop`. -/
def Tile (start : Nat) (spans : List Span) (stop : Nat) : Prop :=
  match spans with
  | [] => start = stop
  | span :: rest => span.start.toNat = start ∧ Tile span.stop rest stop

/-- The tokens of a source, without its end, lose and invent nothing but white space beside
a dash. -/
structure Faithful (source : List Char) (tokens : List Token) : Prop where
  ne_eof : ∀ token ∈ tokens, ∀ offset, token ≠ .eof offset
  covers : ∀ token ∈ tokens, ∃ written, written ≠ [] ∧ token.span.Covers source written
  increasing : tokens.Pairwise fun token next =>
    token.span.start < next.span.start ∧ token.span.stop ≤ next.span.start.toNat
  text : ∀ content span, .text content span ∈ tokens →
    span.Covers source content.toList ∧
      ∀ delimiter : Delimiter, ¬delimiter.opener <:+: content.toList
  texts_apart : ∀ content span content' span',
    ¬[.text content span, .text content' span'] <:+: tokens
  gap : ∀ start stop, MaximalGap tokens 0 (byteLength source) start stop →
    BlankBetween source start stop ∧
      ((∃ token ∈ tokens, token.span.stop = start ∧ RightDash source token) ∨
        ∃ token ∈ tokens, token.span.start.toNat = stop ∧ LeftDash source token)
  text_after : ∀ token content span, [token, .text content span] <:+: tokens →
    RightDash source token → StartsUnblank content.toList
  text_before : ∀ token content span, [.text content span, token] <:+: tokens →
    LeftDash source token → EndsUnblank content.toList
  tile : (∀ token ∈ tokens, ¬LeftDash source token ∧ ¬RightDash source token) →
    Tile 0 (tokens.map Token.span) (byteLength source)

section Faithful

variable {start : Nat} {body : List Token}

theorem Previous.ClosesWithDash.rightDash {previous : Previous}
    (hdash : previous.ClosesWithDash)
    (hprevious : ∀ entry ∈ previous, entry.1.span.Covers source entry.2 ∧
      entry.1.span.stop = start) :
    ∃ token ∈ (previous.map Prod.fst).toList, token.span.stop = start ∧
      RightDash source token := by
  obtain ⟨entry, hentry, hcloses⟩ := hdash
  obtain ⟨hcovers, hstop⟩ := hprevious entry hentry
  refine ⟨entry.1, ?_, hstop, entry.2, hcovers, hcloses⟩
  rw [Option.mem_def.1 hentry]
  exact List.mem_singleton_self _

/-- A gap that begins at the low end of its range or behind it, in front of a token, ends
where the token begins. -/
theorem MaximalGap.eq_of_lt {low high stop : Nat} {tokens : List Token}
    (hgap : MaximalGap (token :: tokens) low high start stop)
    (hhigh : token.span.start.toNat ≤ high)
    (hbelow : ∀ next ∈ tokens, token.span.start.toNat ≤ next.span.start.toNat)
    (hstart : start ≤ token.span.start.toNat)
    (hlt : token.span.start.toNat < token.span.stop) :
    start = low ∧ stop = token.span.start.toNat := by
  have hfree : ∀ offset, offset < token.span.start.toNat →
      Uncovered (token :: tokens) offset := by
    intro offset hoffset next hnext hinside
    cases hnext with
    | head => omega
    | tail _ hmem =>
        have hle := hbelow next hmem
        omega
  have hstop : stop ≤ token.span.start.toNat := by
    by_contra hover
    have huncovered := hgap.uncovered token.span.start.toNat hstart (by omega)
    exact huncovered token (List.mem_cons_self ..) ⟨Nat.le_refl _, hlt⟩
  have hpos := hgap.lt
  constructor
  · by_contra hne
    have hlowStart := hgap.low_le
    exact hgap.covered_before (by omega) (hfree _ (by omega))
  · by_contra hne
    exact hgap.covered_after (by omega) (hfree _ (by omega))

theorem MaximalGap.tail {low high stop : Nat} {tokens : List Token}
    (hgap : MaximalGap (token :: tokens) low high start stop)
    (hlow : low ≤ token.span.stop) (hstart : token.span.start.toNat < start) :
    MaximalGap tokens token.span.stop high start stop := by
  have hpos := hgap.lt
  have hlowStop : token.span.stop ≤ start := by
    by_contra hinside
    have huncovered := hgap.uncovered start (Nat.le_refl _) hpos
    exact huncovered token (List.mem_cons_self ..) ⟨hstart.le, by omega⟩
  have hcons : ∀ offset, token.span.stop ≤ offset → Uncovered tokens offset →
      Uncovered (token :: tokens) offset := by
    intro offset hoffset huncovered next hnext
    cases hnext with
    | head => omega
    | tail _ hmem => exact huncovered next hmem
  constructor
  · exact hlowStop
  · exact hpos
  · exact hgap.le_high
  · intro offset hoffset hlt next hnext
    exact hgap.uncovered offset hoffset hlt next (List.mem_cons_of_mem _ hnext)
  · intro hlt huncovered
    exact hgap.covered_before (by omega) (hcons _ (by omega) huncovered)
  · intro hlt huncovered
    exact hgap.covered_after hlt (hcons _ (by omega) huncovered)

theorem Layout.maximalGap {gapStart gapStop : Nat} (hlayout : Layout source previous start body)
    (hlimit : byteLength source ≤ Span.limit)
    (hprevious : ∀ entry ∈ previous, entry.1.span.Covers source entry.2 ∧
      entry.1.span.stop = start)
    (hgap : MaximalGap body start (byteLength source) gapStart gapStop) :
    BlankBetween source gapStart gapStop ∧
      ((∃ token ∈ (previous.map Prod.fst).toList ++ body, token.span.stop = gapStart ∧
          RightDash source token) ∨
        ∃ token ∈ body, token.span.start.toNat = gapStop ∧ LeftDash source token) := by
  induction hlayout with
  | @stop previous start hblank htrimmed =>
      have hpos := hgap.lt
      have hhigh := hgap.le_high
      have hstart : gapStart = start := by
        by_contra hne
        have hlow := hgap.low_le
        exact hgap.covered_before (by omega) (by simp [Uncovered])
      have hstop : gapStop = byteLength source := by
        by_contra hne
        exact hgap.covered_after (by omega) (by simp [Uncovered])
      subst hstart hstop
      refine ⟨hblank, .inl ?_⟩
      simpa using (htrimmed hpos).rightDash hprevious
  | @token previous start token written tokens hplaced hrest ih =>
      have hlt := hplaced.covers.start_lt_stop hplaced.written_ne_nil hlimit
      have hbelow : ∀ next ∈ tokens, token.span.start.toNat ≤ next.span.start.toNat := by
        intro next hnext
        have hle := hrest.start_le hlimit hnext
        omega
      have hinside := hplaced.covers.stop_le hlimit
      by_cases hstart : gapStart ≤ token.span.start.toNat
      · obtain ⟨rfl, rfl⟩ :=
          hgap.eq_of_lt (by omega) hbelow hstart hlt
        refine ⟨hplaced.gap_blank, ?_⟩
        rcases hplaced.gap_trimmed hgap.lt with hcloses | hopens
        · obtain ⟨first, hfirst, hdash⟩ := hcloses.rightDash hprevious
          exact .inl ⟨first, List.mem_append_left _ hfirst, hdash⟩
        · exact .inr ⟨token, List.mem_cons_self .., rfl, written, hplaced.covers, hopens⟩
      · have htail := hgap.tail (by have hle := hplaced.start_le; omega) (by omega)
        obtain ⟨hblank, hdash⟩ := ih hplaced.isPrevious htail
        refine ⟨hblank, hdash.imp ?_ ?_⟩
        · rintro ⟨first, hfirst, hdash⟩
          exact ⟨first, List.mem_append_right _ hfirst, hdash⟩
        · rintro ⟨next, hnext, hdash⟩
          exact ⟨next, List.mem_cons_of_mem _ hnext, hdash⟩

theorem Layout.tile (hlayout : Layout source previous start body)
    (hprevious : ¬previous.ClosesWithDash)
    (hbody : ∀ token ∈ body, ¬LeftDash source token ∧ ¬RightDash source token)
    (hle : start ≤ byteLength source) (hlimit : byteLength source ≤ Span.limit) :
    Tile start (body.map Token.span) (byteLength source) := by
  induction hlayout with
  | @stop previous start _ htrimmed =>
      by_contra hne
      exact hprevious (htrimmed (by simp only [Tile, List.map_nil] at hne; omega))
  | @token previous start token written tokens hplaced hrest ih =>
      obtain ⟨hleft, hright⟩ := hbody token (List.mem_cons_self ..)
      constructor
      · by_contra hne
        have hstart := hplaced.start_le
        rcases hplaced.gap_trimmed (by omega) with hcloses | hopens
        · exact hprevious hcloses
        · exact hleft ⟨written, hplaced.covers, hopens⟩
      · apply ih
        · rintro ⟨entry, hentry, hcloses⟩
          cases hentry
          exact hright ⟨written, hplaced.covers, hcloses⟩
        · intro next hnext
          exact hbody next (List.mem_cons_of_mem _ hnext)
        · exact hplaced.covers.stop_le hlimit

theorem Layout.faithful (hlayout : Layout source none 0 body)
    (hlimit : byteLength source ≤ Span.limit) : Faithful source body := by
  have hnone : ∀ entry ∈ (none : Previous), entry.1.span.Covers source entry.2 ∧
      entry.1.span.stop = 0 := by
    simp
  constructor
  · rintro token htoken offset rfl
    obtain ⟨previous, start, written, hplaced⟩ := hlayout.placed htoken
    have htext := (hplaced.text rfl).1
    contradiction
  · intro token htoken
    obtain ⟨previous, start, written, hplaced⟩ := hlayout.placed htoken
    exact ⟨written, hplaced.written_ne_nil, hplaced.covers⟩
  · have hpairwise := hlayout.pairwise hlimit
    refine hpairwise.imp_of_mem ?_
    intro token next htoken _ hle
    obtain ⟨previous, start, written, hplaced⟩ := hlayout.placed htoken
    have hlt := hplaced.covers.start_lt_stop hplaced.written_ne_nil hlimit
    exact ⟨UInt32.lt_iff_toNat_lt.2 (by omega), hle⟩
  · intro content span htoken
    obtain ⟨previous, start, written, hplaced⟩ := hlayout.placed htoken
    obtain ⟨htext, hplain, -⟩ := hplaced.text rfl
    have hcontent : content.toList = written := by
      injection htext with hcontent
      rw [hcontent, String.toList_ofList]
    rw [hcontent]
    exact ⟨hplaced.covers, hplain⟩
  · intro content span content' span' hinfix
    obtain ⟨written, next, -, hplaced⟩ := hlayout.placed_next hnone hinfix
    have hmarkup := (hplaced.text rfl).2.2.1 _ rfl
    simp [delimiter?] at hmarkup
  · intro start stop hgap
    exact hlayout.maximalGap hlimit hnone hgap
  · rintro token content span hinfix ⟨dashed, hdashed, hcloses⟩
    obtain ⟨written, next, hcovers, hplaced⟩ := hlayout.placed_next hnone hinfix
    obtain rfl := hcovers.unique hdashed
    obtain ⟨htext, -, -, hstarts⟩ := hplaced.text rfl
    have hcontent : content.toList = next := by
      injection htext with hcontent
      rw [hcontent, String.toList_ofList]
    rw [hcontent]
    exact hstarts ⟨_, rfl, hcloses⟩
  · rintro token content span hinfix ⟨dashed, hdashed, hopens⟩
    obtain ⟨written, next, hcovers, hplaced⟩ := hlayout.placed_next hnone hinfix
    obtain rfl := hplaced.covers.unique hdashed
    have hmem : Token.text content span ∈ body := hinfix.subset (List.mem_cons_self ..)
    obtain ⟨previous, start, textWritten, htextPlaced⟩ := hlayout.placed hmem
    have hcontent : content.toList = textWritten := by
      injection (htextPlaced.text rfl).1 with hcontent
      rw [hcontent, String.toList_ofList]
    rw [hcontent, htextPlaced.covers.unique hcovers]
    exact hplaced.markup hopens _ rfl rfl
  · intro hdash
    exact hlayout.tile (by simp [Previous.ClosesWithDash]) hdash (Nat.zero_le _) hlimit

end Faithful

theorem ofChars_faithful {tokens : List Token} (hsize : byteLength source < 2 ^ 32)
    (hok : ofChars source = .ok tokens) :
    ∃ body offset, tokens = body ++ [.eof offset] ∧ offset.toNat = byteLength source ∧
      Faithful source body := by
  have hlimit : byteLength source ≤ Span.limit := by
    unfold Span.limit
    omega
  obtain ⟨body, rfl, hlayout⟩ := (place_start source).laysOut hlimit rfl hok
  refine ⟨body, _, rfl, ?_, hlayout.faithful hlimit⟩
  rw [Span.toNat_clamp, Nat.min_eq_left hlimit]

/-- The blanks beside the dashes of a comment, a tag and a raw block are trimmed, and the
text between the first two is left out. -/
theorem ofChars_faithful_dashes :
    ∃ source, source =
        ("é\u3000\x7b#- c -#\x7d \x7b\x7b- x -\x7d\x7d\n" ++
          "\x7b%- raw %\x7d\x7b\x7b \x7b% endraw -%\x7d  b").toList ∧
      ∃ body offset,
        [.text "é" ⟨0, 2⟩, .comment ⟨5, 9⟩,
            .expression ⟨[⟨.name "x", ⟨19, 1⟩⟩], ⟨15, 9⟩, ⟨19, 1⟩, .trim, .trim⟩,
            .raw "\x7b\x7b " ⟨25, 26⟩, .text "b" ⟨53, 1⟩, .eof 54] =
          body ++ [.eof offset] ∧
        offset.toNat = byteLength source ∧ Faithful source body :=
  ⟨_, rfl, ofChars_faithful (by decide +kernel) (by decide +kernel)⟩

end Token

end TemplateVariables
