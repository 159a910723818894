import TemplateVariables.Lexeme.Interior
import TemplateVariables.Proofs.Token.Markers

/-!
# Writing lexemes

Lexemes that are written with white space before, between and after them are
read back as they are.  White space is in no lexeme but a string, so that each
one ends where it was written to end; and since no lexeme in front of white
space looks like a closer, the tag ends behind the last one.
-/

namespace TemplateVariables

open Text

/-! ## Characters -/

/-- The code points of the ranges. -/
def Text.CodeRanges.codes (ranges : CodeRanges) : List Nat :=
  ranges.flatMap fun range => List.range' range.1 (range.2 + 1 - range.1)

theorem Text.CodeRanges.mem_codes {ranges : CodeRanges} {code : Nat}
    (hcontains : ranges.contains code = true) : code ∈ ranges.codes := by
  induction ranges with
  | nil => cases hcontains
  | cons range rest ih =>
      rw [codes, List.flatMap_cons, List.mem_append, List.mem_range'_1]
      simp only [contains] at hcontains
      split at hcontains
      · cases hcontains
      split at hcontains
      · left
        omega
      · exact .inr (ih hcontains)

/-- What holds of each character of the ranges, checked one by one. -/
theorem Text.CodeRanges.forall_of_codes {p : Char → Bool} {ranges : CodeRanges}
    (hcodes : (ranges.codes.all fun code => p (Char.ofNat code)) = true) {c : Char}
    (hc : ranges.contains c.toNat = true) : p c = true := by
  have hcode := List.all_eq_true.1 hcodes c.toNat (mem_codes hc)
  rwa [Char.ofNat_toNat] at hcode

theorem Text.isNamePart_of_isBlank {c : Char} (hc : isBlank c = true) :
    isNamePart c = false := by
  have hnot : (!isNamePart c) = true :=
    CodeRanges.forall_of_codes (p := fun c => !isNamePart c) (by decide +kernel) hc
  simpa using hnot

/-- White space is none of the marks that could go on after a mark. -/
theorem Text.ne_of_isBlank {c d : Char} (hc : isBlank c = true) (hd : isBlank d = false) :
    c ≠ d := by
  rintro rfl
  rw [hc] at hd
  contradiction

theorem Text.isNamePart_of_isDigit {c : Char} (hc : c.isDigit = true) :
    isNamePart c = true ∧ isNameStart c = false := by
  have hrange : CodeRanges.contains [(48, 57)] c.toNat = true := by
    have hbounds : 48 ≤ c.toNat ∧ c.toNat ≤ 57 := by
      simpa [Char.isDigit, UInt32.le_iff_toNat_le] using hc
    simp [CodeRanges.contains, hbounds]
  have hboth : (isNamePart c && !isNameStart c) = true :=
    CodeRanges.forall_of_codes (p := fun c => isNamePart c && !isNameStart c)
      (by decide +kernel) hrange
  simpa using hboth

theorem Text.isDigit_of_isBlank {c : Char} (hc : isBlank c = true) : c.isDigit = false := by
  by_contra hdigit
  have hpart := (isNamePart_of_isDigit (by simpa using hdigit)).1
  rw [isNamePart_of_isBlank hc] at hpart
  contradiction

theorem Text.isDigitPart_of_isBlank {c : Char} (hc : isBlank c = true) :
    isDigitPart c = false := by
  have hunderscore : c ≠ '_' := ne_of_isBlank hc (by decide)
  simp [isDigitPart, isDigit_of_isBlank hc, hunderscore]

/-- A run of characters with a property, in front of one that does not have it. -/
theorem Text.takeWhile_append_of_head? {p : Char → Bool} {run rest : List Char}
    (hrun : ∀ c ∈ run, p c = true) (hrest : ∀ c ∈ rest.head?, p c = false) :
    (run ++ rest).takeWhile p = run ∧ (run ++ rest).dropWhile p = rest := by
  have hstop : rest.takeWhile p = [] ∧ rest.dropWhile p = rest := by
    cases rest with
    | nil => exact ⟨rfl, rfl⟩
    | cons c others =>
        have hc := hrest c rfl
        simp [hc]
  rw [List.takeWhile_append_of_pos hrun, List.dropWhile_append_of_pos hrun, hstop.1, hstop.2]
  exact ⟨List.append_nil run, rfl⟩

/-! ## How a lexeme is written -/

namespace Text

/-- At least one digit, and nothing else. -/
def Digits (text : List Char) : Prop :=
  text ≠ [] ∧ ∀ c ∈ text, c.isDigit = true

/-- Nothing, or a point and digits. -/
def Fraction (text : List Char) : Prop :=
  text = [] ∨ ∃ digits, text = '.' :: digits ∧ Digits digits

/-- Nothing, or a mark, perhaps a sign, and digits. -/
def Exponent (text : List Char) : Prop :=
  text = [] ∨ ∃ mark sign digits, text = mark :: (sign ++ digits) ∧ mark ∈ ['e', 'E'] ∧
    sign ∈ [[], ['+'], ['-']] ∧ Digits digits

/-- A number without underscores; only digits after a dot. -/
def Numeral (afterDot : Bool) (text : List Char) : Prop :=
  ∃ whole fraction exponent, text = whole ++ (fraction ++ exponent) ∧ Digits whole ∧
    Fraction fraction ∧ Exponent exponent ∧ (afterDot = true → fraction = [] ∧ exponent = [])

/-- The characters of a string with a backslash before every backslash and every quote. -/
def escape (quote : Char) (value : List Char) : List Char :=
  value.flatMap fun c => if c = '\x5c' ∨ c = quote then ['\x5c', c] else [c]

end Text

/-- The text that stands for a lexeme; `afterDot` says whether it follows a dot. -/
inductive LexemeKind.Writes (afterDot : Bool) : LexemeKind → List Char → Prop where
  | name {c : Char} {rest : List Char} (hstart : isNameStart c = true)
      (hrest : ∀ d ∈ rest, isNamePart d = true) :
      Writes afterDot (.name (String.ofList (c :: rest))) (c :: rest)
  | number {text : List Char} (htext : Numeral afterDot text) :
      Writes afterDot (.number (String.ofList text)) text
  | str {quote : Char} (value : String) (hquote : quote ∈ ['\x27', '\x22']) :
      Writes afterDot (.str value) (quote :: (escape quote value.toList ++ [quote]))
  | punct (mark : Punct) : Writes afterDot (.punct mark) mark.chars

def Text.Blank (text : List Char) : Prop :=
  text ≠ [] ∧ ∀ c ∈ text, isBlank c = true

/-- Lexemes that are written from `start` on, with white space before, between and after
them. -/
inductive Lexeme.Spaced : Bool → Nat → List Lexeme → List Char → Prop where
  | nil {afterDot : Bool} {start : Nat} {blank : List Char} (hblank : Blank blank) :
      Spaced afterDot start [] blank
  | cons {afterDot : Bool} {start : Nat} {kind : LexemeKind} {lexemes : List Lexeme}
      {blank written text : List Char} (hblank : Blank blank)
      (hwritten : kind.Writes afterDot written)
      (hrest : Spaced (kind == .punct .dot) (start + byteLength blank + byteLength written)
        lexemes text) :
      Spaced afterDot start
        (⟨kind, Span.ofBounds (start + byteLength blank)
          (start + byteLength blank + byteLength written)⟩ :: lexemes)
        (blank ++ (written ++ text))

/-! ## Reading one lexeme -/

namespace Cut

section Numbers

variable {digits fraction exponent text more : List Char} {b : Char}

theorem isDigitPart_of_digits (hdigits : Digits digits) : ∀ c ∈ digits, isDigitPart c = true := by
  intro c hc
  simp [isDigitPart, hdigits.2 c hc]

theorem exponent_written (hexponent : Exponent exponent) (hb : isBlank b = true) :
    Cut.exponent (exponent ++ b :: more) = (exponent, b :: more) := by
  have hstop : ∀ c ∈ (b :: more).head?, isDigitPart c = false := by
    intro c hc
    cases hc
    exact isDigitPart_of_isBlank hb
  rcases hexponent with rfl | ⟨mark, sign, digits, rfl, hmark, hsign, hdigits⟩
  · have hne : ¬(b = 'e' ∨ b = 'E') := by
      rintro (rfl | rfl) <;> exact absurd hb (by decide)
    simp [Cut.exponent, hne]
  · have hrun := takeWhile_append_of_head? (isDigitPart_of_digits hdigits) hstop
    obtain ⟨d, others, rfl⟩ := List.exists_cons_of_ne_nil hdigits.1
    have hd := hdigits.2 d (List.mem_cons_self ..)
    have hne : d ≠ '+' ∧ d ≠ '-' := by
      constructor <;> (rintro rfl; exact absurd hd (by decide))
    have hsigned : Cut.sign (sign ++ (d :: others ++ b :: more)) =
        (sign, d :: others ++ b :: more) := by
      simp only [List.mem_cons, List.not_mem_nil, or_false] at hsign
      rcases hsign with rfl | rfl | rfl
      · unfold Cut.sign
        split <;> simp_all
      · rfl
      · rfl
    have hmarks : (mark == 'e' || mark == 'E') = true := by
      simpa using hmark
    rw [List.cons_append, List.append_assoc]
    simp only [Cut.exponent, hmarks, if_true, hsigned, hrun.1, hrun.2]
    simp [hd]

theorem fraction_written (hfraction : Fraction fraction)
    (hstop : ∀ c ∈ text.head?, isDigitPart c = false ∧ c ≠ '.') :
    Cut.fraction (fraction ++ text) = (fraction, text) := by
  rcases hfraction with rfl | ⟨digits, rfl, hdigits⟩
  · unfold Cut.fraction
    split
    · next c rest hpoint =>
        rw [List.nil_append] at hpoint
        have hdot := hstop '.' (by rw [hpoint]; rfl)
        exact absurd rfl hdot.2
    · rfl
  · have hrun := takeWhile_append_of_head? (isDigitPart_of_digits hdigits)
      (fun c hc => (hstop c hc).1)
    obtain ⟨d, others, rfl⟩ := List.exists_cons_of_ne_nil hdigits.1
    have hd := hdigits.2 d (List.mem_cons_self ..)
    rw [List.cons_append] at hrun
    simp only [List.cons_append, Cut.fraction, hd, if_true, hrun.1, hrun.2]

theorem head?_exponent (more : List Char) (hexponent : Exponent exponent)
    (hb : isBlank b = true) :
    ∀ c ∈ (exponent ++ b :: more).head?, isDigitPart c = false ∧ c ≠ '.' := by
  intro c hc
  rcases hexponent with rfl | ⟨mark, sign, digits, rfl, hmark, -, -⟩
  · cases hc
    exact ⟨isDigitPart_of_isBlank hb, ne_of_isBlank hb (by decide)⟩
  · cases hc
    simp only [List.mem_cons, List.not_mem_nil, or_false] at hmark
    rcases hmark with rfl | rfl <;> decide

theorem head?_fraction (hfraction : Fraction fraction)
    (hstop : ∀ c ∈ text.head?, isDigitPart c = false ∧ c ≠ '.') :
    ∀ c ∈ (fraction ++ text).head?, isDigitPart c = false := by
  intro c hc
  rcases hfraction with rfl | ⟨digits, rfl, -⟩
  · exact (hstop c hc).1
  · cases hc
    decide

theorem numeral_written {afterDot : Bool} (hnumeral : Numeral afterDot text)
    (hb : isBlank b = true) :
    numeral afterDot (text ++ b :: more) = (text, b :: more) := by
  obtain ⟨whole, fraction, exponent, rfl, hwhole, hfraction, hexponent, hdot⟩ := hnumeral
  have hstop := head?_exponent more hexponent hb
  have hrun := takeWhile_append_of_head? (isDigitPart_of_digits hwhole)
    (head?_fraction hfraction hstop)
  rw [List.append_assoc, List.append_assoc]
  simp only [numeral, hrun.1, hrun.2]
  cases afterDot with
  | true =>
      obtain ⟨rfl, rfl⟩ := hdot rfl
      simp
  | false => simp [fraction_written hfraction hstop, exponent_written hexponent hb]

theorem not_mem_underscore {afterDot : Bool} (hnumeral : Numeral afterDot text) :
    '_' ∉ text := by
  obtain ⟨whole, fraction, exponent, rfl, hwhole, hfraction, hexponent, -⟩ := hnumeral
  have hdigits : ∀ digits, Digits digits → '_' ∉ digits :=
    fun digits hdigits hmem => absurd (hdigits.2 '_' hmem) (by decide)
  have hfractionPart : '_' ∉ fraction := by
    rcases hfraction with rfl | ⟨digits, rfl, hpart⟩
    · simp
    · simp [hdigits digits hpart]
  have hexponentPart : '_' ∉ exponent := by
    rcases hexponent with rfl | ⟨mark, sign, digits, rfl, hmark, hsign, hpart⟩
    · simp
    · simp only [List.mem_cons, List.not_mem_nil, or_false] at hmark hsign
      rcases hmark with rfl | rfl <;> rcases hsign with rfl | rfl | rfl <;>
        simp [hdigits digits hpart]
  simp [hdigits whole hwhole, hfractionPart, hexponentPart]

end Numbers

/-- Reading a string undoes its escapes. -/
theorem quoted?_escape {quote : Char} (hquote : quote ∈ ['\x27', '\x22'])
    (value rest : List Char) :
    quoted? quote (escape quote value ++ quote :: rest) =
      some (value, escape quote value ++ [quote], rest) := by
  induction value with
  | nil => cases rest <;> simp [escape, quoted?]
  | cons c others ih =>
      have hslash : ('\x5c' == quote) = false := by
        simp only [List.mem_cons, List.not_mem_nil, or_false] at hquote
        rcases hquote with rfl | rfl <;> rfl
      have hcons : escape quote (c :: others) =
          (if c = '\x5c' ∨ c = quote then ['\x5c', c] else [c]) ++ escape quote others :=
        List.flatMap_cons
      rw [hcons]
      by_cases hescaped : c = '\x5c' ∨ c = quote
      · have hunescape : unescape c = [c] := by
          simp only [List.mem_cons, List.not_mem_nil, or_false] at hquote
          rcases hescaped with rfl | rfl
          · rfl
          · rcases hquote with rfl | rfl <;> rfl
        rw [if_pos hescaped]
        simp [quoted?, hslash, ih, hunescape]
      · obtain ⟨next, tail, htail⟩ :=
          List.exists_cons_of_ne_nil (l := escape quote others ++ quote :: rest) (by simp)
        rw [if_neg hescaped, List.append_assoc, htail, List.singleton_append]
        rw [htail] at ih
        rw [not_or] at hescaped
        simp [quoted?, hescaped, ih]

theorem punct?_written (mark : Punct) {b : Char} (hb : isBlank b = true) (more : List Char) :
    punct? (mark.chars ++ b :: more) = some ⟨.punct mark, mark.chars, b :: more⟩ := by
  have hstar : b ≠ '*' := ne_of_isBlank hb (by decide)
  have hslash : b ≠ '/' := ne_of_isBlank hb (by decide)
  have hequals : b ≠ '=' := ne_of_isBlank hb (by decide)
  cases mark <;> simp [punct?, double?, single?, Punct.chars, hstar, hslash, hequals]

/-- A lexeme in front of white space is read off as it was written. -/
theorem ofChars_written {afterDot : Bool} {kind : LexemeKind} {written : List Char} {b : Char}
    (hwritten : kind.Writes afterDot written) (hb : isBlank b = true) (more : List Char)
    (start : Nat) :
    ∃ c used, written = c :: used ∧
      Cut.ofChars afterDot start c (used ++ b :: more) = .ok ⟨kind, written, b :: more⟩ := by
  cases hwritten with
  | @name c rest hstart hrest =>
      have hrun : ∀ d ∈ c :: rest, isNamePart d = true := by
        intro d hd
        cases hd with
        | head => exact isNamePart_of_isNameStart hstart
        | tail _ hmem => exact hrest d hmem
      have hstop : ∀ d ∈ (b :: more).head?, isNamePart d = false := by
        intro d hd
        cases hd
        exact isNamePart_of_isBlank hb
      have hsplit := takeWhile_append_of_head? hrun hstop
      rw [List.cons_append] at hsplit
      refine ⟨c, rest, rfl, ?_⟩
      rw [Cut.ofChars, if_pos hstart, Cut.name, hsplit.1, hsplit.2]
  | number hnumeral =>
      have hread : numeral afterDot (written ++ b :: more) = (written, b :: more) :=
        numeral_written hnumeral hb
      have hunderscore := not_mem_underscore hnumeral
      obtain ⟨whole, fraction, exponent, rfl, hwhole, -⟩ := hnumeral
      obtain ⟨d, others, rfl⟩ := List.exists_cons_of_ne_nil hwhole.1
      have hd := hwhole.2 d (List.mem_cons_self ..)
      have hfilter : (d :: others ++ (fraction ++ exponent)).filter (· != '_') =
          d :: others ++ (fraction ++ exponent) := by
        rw [List.filter_eq_self]
        intro c hc
        rw [bne_iff_ne]
        rintro rfl
        exact hunderscore hc
      refine ⟨d, others ++ (fraction ++ exponent), rfl, ?_⟩
      rw [Cut.ofChars, if_neg (by simp [(isNamePart_of_isDigit hd).2]), if_pos hd, Cut.number]
      rw [List.cons_append, List.cons_append] at hread
      rw [hread]
      dsimp only
      rw [← List.cons_append, hfilter]
  | @str quote value hquote =>
      have hread := quoted?_escape hquote value.toList (b :: more)
      have hkind : isNameStart quote = false ∧ quote.isDigit = false ∧
          (quote == '\x27' || quote == '\x22') = true := by
        simp only [List.mem_cons, List.not_mem_nil, or_false] at hquote
        rcases hquote with rfl | rfl <;> decide +kernel
      refine ⟨quote, _, rfl, ?_⟩
      rw [List.append_assoc, List.singleton_append, Cut.ofChars, if_neg (by simp [hkind.1]),
        if_neg (by simp [hkind.2.1]), if_pos hkind.2.2, Cut.string?, hread]
      simp
  | punct mark =>
      have hread := punct?_written mark hb more
      have hkind : ∃ c used, mark.chars = c :: used ∧ isNameStart c = false ∧
          c.isDigit = false ∧ (c == '\x27' || c == '\x22') = false := by
        cases mark <;> exact ⟨_, _, rfl, by decide +kernel⟩
      obtain ⟨c, used, hchars, hname, hdigit, hquote⟩ := hkind
      refine ⟨c, used, hchars, ?_⟩
      rw [hchars, List.cons_append] at hread
      rw [Cut.ofChars, if_neg (by simp [hname]), if_neg (by simp [hdigit]),
        if_neg (by simp [hquote]), hread, hchars]

end Cut

/-! ## Reading lexemes between white space -/

namespace LexemeKind.Writes

variable {afterDot : Bool} {kind : LexemeKind} {written : List Char}

/-- The first character of a lexeme is not blank, and it is all of the lexeme when a marker
or a closer could begin with it. -/
theorem head?_spec (hwritten : kind.Writes afterDot written) :
    ∀ c ∈ written.head?, isBlank c = false ∧
      (c ∈ ['-', '+', '%', '}', '#'] → written = [c]) := by
  have hpart : ∀ c, isNamePart c = true → isBlank c = false := by
    intro c hc
    by_contra hblank
    rw [isNamePart_of_isBlank (by simpa using hblank)] at hc
    contradiction
  have hmark : ∀ c, isNamePart c = true → c ∉ ['-', '+', '%', '}', '#'] := by
    intro c hc hmem
    have hnone : ['-', '+', '%', '}', '#'].all (fun d => !isNamePart d) = true := by
      decide +kernel
    have hother := List.all_eq_true.1 hnone c hmem
    simp [hc] at hother
  intro c hc
  cases hwritten with
  | name hstart _ =>
      cases hc
      have hname := isNamePart_of_isNameStart hstart
      exact ⟨hpart c hname, fun hmem => absurd hmem (hmark c hname)⟩
  | number hnumeral =>
      obtain ⟨whole, fraction, exponent, rfl, hwhole, -⟩ := hnumeral
      obtain ⟨d, others, rfl⟩ := List.exists_cons_of_ne_nil hwhole.1
      cases hc
      have hname := (isNamePart_of_isDigit (hwhole.2 c (List.mem_cons_self ..))).1
      exact ⟨hpart c hname, fun hmem => absurd hmem (hmark c hname)⟩
  | str value hquote =>
      cases hc
      simp only [List.mem_cons, List.not_mem_nil, or_false] at hquote
      rcases hquote with rfl | rfl <;> simp <;> decide
  | punct mark =>
      cases mark <;> cases hc <;> exact ⟨by decide, by decide⟩

/-- No lexeme in front of white space looks like the end of the tag. -/
theorem closing?_eq_none (hwritten : kind.Writes afterDot written) (delimiter : Delimiter)
    {b : Char} (hb : isBlank b = true) (more : List Char) :
    delimiter.closing? (written ++ b :: more) = none := by
  by_contra hsome
  obtain ⟨⟨marker, rest⟩, hclosing⟩ := Option.ne_none_iff_exists'.1 hsome
  have happend := Delimiter.closing?_append hclosing
  obtain ⟨c, used, rfl, -⟩ := Cut.ofChars_written hwritten hb more 0
  have hhead : c ∈ ['-', '+', '%', '}', '#'] := by
    cases marker <;> cases delimiter <;> simp_all [Marker.chars, Delimiter.closer]
  have halone := (hwritten.head?_spec c rfl).2 hhead
  rw [halone] at happend
  have hnext : b ∈ ['%', '}', '#'] := by
    cases marker <;> cases delimiter <;> simp_all [Marker.chars, Delimiter.closer]
  have hnone : ['%', '}', '#'].all (fun d => !isBlank d) = true := by decide
  have hother := List.all_eq_true.1 hnone b hnext
  simp [hb] at hother

end LexemeKind.Writes

theorem Text.Blank.trimStart_append {blank text : List Char} (hblank : Blank blank)
    (htext : ∀ c ∈ text.head?, isBlank c = false) :
    (blank ++ text).takeWhile isBlank = blank ∧ trimStart (blank ++ text) = text :=
  takeWhile_append_of_head? hblank.2 htext

section Spaced

variable {delimiter : Delimiter} {opened start : Nat} {brackets : List Punct} {afterDot : Bool}
  {blank written text more rest : List Char}

theorem Lexeme.Spaced.exists_cons {lexemes : List Lexeme}
    (htext : Spaced afterDot start lexemes text) :
    ∃ b more, text = b :: more ∧ isBlank b = true := by
  cases htext with
  | nil hblank =>
      obtain ⟨b, more, rfl⟩ := List.exists_cons_of_ne_nil hblank.1
      exact ⟨b, more, rfl, hblank.2 b (List.mem_cons_self ..)⟩
  | cons hblank _ _ =>
      obtain ⟨b, more, rfl⟩ := List.exists_cons_of_ne_nil hblank.1
      exact ⟨b, _, rfl, hblank.2 b (List.mem_cons_self ..)⟩

theorem Interior.ofChars_cons {kind : LexemeKind} {b : Char} {interior : Interior}
    (hblank : Blank blank) (hwritten : kind.Writes afterDot written) (hb : isBlank b = true)
    (hrest : Interior.ofChars delimiter opened (start + byteLength blank + byteLength written)
      (bracketsAfter brackets kind) (kind == .punct .dot) (b :: more) = .ok interior) :
    Interior.ofChars delimiter opened start brackets afterDot
        (blank ++ (written ++ b :: more)) =
      .ok { interior with
        lexemes :=
          ⟨kind, Span.ofBounds (start + byteLength blank)
            (start + byteLength blank + byteLength written)⟩ :: interior.lexemes } := by
  have hclosing := hwritten.closing?_eq_none delimiter hb more
  have hending : delimiter.ending? brackets (written ++ b :: more) = none := by
    unfold Delimiter.ending?
    rw [hclosing, ite_self]
  obtain ⟨c, used, rfl, hcut⟩ :=
    Cut.ofChars_written hwritten hb more (start + byteLength blank)
  have hunblank : ∀ d ∈ (c :: used ++ b :: more).head?, isBlank d = false :=
    fun d hd => (hwritten.head?_spec d hd).1
  have htrim := hblank.trimStart_append hunblank
  unfold Interior.ofChars
  rw [htrim.1]
  split
  · next hnil =>
      rw [htrim.2] at hnil
      contradiction
  · next d inside hinside =>
      rw [htrim.2, List.cons_append] at hinside
      obtain ⟨rfl, rfl⟩ := List.cons.inj hinside
      rw [List.cons_append] at hending
      rw [hending]
      dsimp only
      split
      · next herror =>
          rw [hcut] at herror
          contradiction
      · next cut hok =>
          rw [hcut] at hok
          obtain rfl := Except.ok.inj hok
          rw [hrest]

theorem Delimiter.closing?_chars (delimiter : Delimiter) (right : Marker) (rest : List Char) :
    delimiter.closing? (right.chars ++ (delimiter.closer ++ rest)) = some (right, rest) := by
  cases right <;> cases delimiter <;> rfl

theorem Interior.ofChars_nil {right : Marker} (hblank : Blank blank)
    (hopen : delimiter = .expression → brackets.head? ≠ some .lbrace) :
    Interior.ofChars delimiter opened start brackets afterDot
        (blank ++ (right.chars ++ (delimiter.closer ++ rest))) =
      .ok { lexemes := []
            right
            stop := start + byteLength blank + right.width + Delimiter.width
            rest } := by
  have hending : delimiter.ending? brackets (right.chars ++ (delimiter.closer ++ rest)) =
      some (right, rest) := by
    unfold Delimiter.ending?
    rw [if_neg (fun hbrace => hopen hbrace.1 hbrace.2), Delimiter.closing?_chars]
  have hunblank : ∀ c ∈ (right.chars ++ (delimiter.closer ++ rest)).head?,
      isBlank c = false := by
    intro c hc
    cases right <;> cases delimiter <;> cases hc <;> decide
  have htrim := hblank.trimStart_append hunblank
  unfold Interior.ofChars
  rw [htrim.1]
  split
  · next hnil =>
      rw [htrim.2, List.append_eq_nil_iff, List.append_eq_nil_iff] at hnil
      exact absurd hnil.2.1 delimiter.closer_ne_nil
  · next c inside hinside =>
      rw [htrim.2] at hinside
      rw [← hinside, hending]

/-- The inside of a tag reads back what is written there, up to the closer behind it. -/
theorem Lexeme.Spaced.ofChars {lexemes : List Lexeme} {right : Marker}
    (htext : Spaced afterDot start lexemes text)
    (hopen : delimiter = .expression →
      ((lexemes.map Lexeme.kind).foldl bracketsAfter brackets).head? ≠ some .lbrace) :
    Interior.ofChars delimiter opened start brackets afterDot
        (text ++ (right.chars ++ (delimiter.closer ++ rest))) =
      .ok { lexemes
            right
            stop := start + byteLength text + right.width + Delimiter.width
            rest } := by
  induction htext generalizing brackets with
  | nil hblank => exact Interior.ofChars_nil hblank hopen
  | @cons afterDot start kind lexemes blank written text hblank hwritten hrest ih =>
      obtain ⟨b, more, rfl, hb⟩ := hrest.exists_cons
      have hbelow := @ih (bracketsAfter brackets kind) hopen
      rw [List.cons_append] at hbelow
      rw [List.append_assoc, List.append_assoc, List.cons_append,
        Interior.ofChars_cons hblank hwritten hb hbelow]
      simp only [byteLength_append, Nat.add_assoc]

end Spaced

theorem Interior.ofChars_spaced {delimiter : Delimiter} {lexemes : List Lexeme}
    {text : List Char} {start : Nat} {right : Marker}
    (htext : Lexeme.Spaced false start lexemes text)
    (hopen : delimiter = .expression →
      ((lexemes.map Lexeme.kind).foldl bracketsAfter []).head? ≠ some .lbrace)
    (opened : Nat) (rest : List Char) :
    Interior.ofChars delimiter opened start [] false
        (text ++ (right.chars ++ (delimiter.closer ++ rest))) =
      .ok { lexemes
            right
            stop := start + byteLength text + right.width + Delimiter.width
            rest } :=
  htext.ofChars hopen

/-- A string that holds the closer of its tag, and marks that would be a closer if they were
not apart. -/
theorem Interior.ofChars_spaced_closers :
    ∃ lexemes text,
      lexemes.map Lexeme.kind =
        [.punct .lbrace, .str "\x7d\x7d'\x5c", .punct .colon, .name "x", .punct .dot,
          .number "0", .punct .rbrace, .punct .minus, .punct .rbrace, .punct .rbrace] ∧
      text = " \x7b '\x7d\x7d\x5c'\x5c\x5c' : x . 0 \x7d - \x7d \x7d ".toList ∧
      Interior.ofChars .expression 0 2 [] false (text ++ ['\x7d', '\x7d', 'z']) =
        .ok { lexemes, right := .preserve, stop := 32, rest := ['z'] } := by
  have hblank : Blank [' '] := ⟨List.cons_ne_nil _ _, List.forall_mem_singleton.2 rfl⟩
  have hzero : Numeral true ['0'] := by
    have hdigits : Digits ['0'] := ⟨List.cons_ne_nil _ _, List.forall_mem_singleton.2 rfl⟩
    exact ⟨['0'], [], [], rfl, hdigits, .inl rfl, .inl rfl, fun _ => ⟨rfl, rfl⟩⟩
  have hname : isNameStart 'x' = true := by decide +kernel
  have htext : Lexeme.Spaced false 2 _ _ := .cons hblank (.punct .lbrace)
    (.cons hblank (.str "\x7d\x7d'\x5c" (List.mem_cons_self ..))
    (.cons hblank (.punct .colon)
    (.cons hblank (.name hname (List.forall_mem_nil _))
    (.cons hblank (.punct .dot)
    (.cons hblank (.number hzero)
    (.cons hblank (.punct .rbrace)
    (.cons hblank (.punct .minus)
    (.cons hblank (.punct .rbrace)
    (.cons hblank (.punct .rbrace)
    (.nil hblank))))))))))
  have hread := @Interior.ofChars_spaced .expression _ _ _ .preserve htext (by decide +kernel)
    0 ['z']
  exact ⟨_, _, by decide +kernel, by decide +kernel, hread⟩

end TemplateVariables
