import Mathlib.Computability.Language
import TemplateVariables.Proofs.Lexeme.Writing
import TemplateVariables.Proofs.SpanArithmetic
import TemplateVariables.Proofs.Token.Scanning

/-!
# Numbers are longest matches

What a number may look like is a language: a run of digits, perhaps a fraction,
perhaps an exponent, and only the run after a dot.  The number that is cut off a
text is the longest word of its language at the front of the text.

A product of languages is matched greedily part by part when no word of the
second part begins with a character of what the first part has used.  This
covers all products here, so that a longest word of a product is put together
from longest words of its factors.  The last part follows the scanner from the
opener of a tag to the number, which decides whether the number is after a dot.
-/

namespace TemplateVariables

open Text

/-! ## Longest words -/

/-- What the words of the language begin with. -/
def Starts (language : Language Char) (p : Char → Prop) : Prop :=
  ∀ c rest, c :: rest ∈ language → p c

namespace Starts

variable {first second language : Language Char} {p q : Char → Prop}

theorem mono (hlanguage : Starts language p) (hle : ∀ c, p c → q c) : Starts language q := by
  intro c rest hword
  exact hle c (hlanguage c rest hword)

theorem optional (hlanguage : Starts language p) : Starts (1 + language) p := by
  intro c rest hword
  rw [Language.mem_add, Language.mem_one] at hword
  rcases hword with hnil | hword
  · contradiction
  · exact hlanguage c rest hword

theorem mul (hfirst : Starts first p) (hsecond : [] ∈ first → Starts second p) :
    Starts (first * second) p := by
  intro c rest hword
  rcases Language.mem_mul.1 hword with ⟨front, hfront, other, hother, heq⟩
  cases front with
  | nil => exact hsecond hfront c rest (by simpa [← heq] using hother)
  | cons d front =>
      have hd : d = c := by simp_all
      rw [hd] at hfront
      exact hfirst c front hfront

end Starts

/-- The longest word of the language at the front of a text. -/
structure Longest (language : Language Char) (used text : List Char) : Prop where
  mem : used ∈ language
  begins : used <+: text
  length_le : ∀ other ∈ language, other <+: text → other.length ≤ used.length

namespace Longest

variable {first second language : Language Char} {used tail rest text : List Char}

theorem unique {other : List Char} (hused : Longest language used text)
    (hother : Longest language other text) : used = other := by
  have hle := hother.length_le used hused.mem hused.begins
  have hge := hused.length_le other hother.mem hother.begins
  have hlength : used.length = other.length := by omega
  have hbegins := List.prefix_of_prefix_length_le hused.begins hother.begins hle
  exact hbegins.eq_of_length hlength

theorem optional (hused : Longest language used text) : Longest (1 + language) used text := by
  constructor
  · simp [Language.mem_add, hused.mem]
  · exact hused.begins
  · intro other hother hbegins
    rw [Language.mem_add, Language.mem_one] at hother
    rcases hother with hnil | hother
    · simp [hnil]
    · exact hused.length_le other hother hbegins

theorem optional_nil (hnone : ∀ word ∈ language, ¬ word <+: text) :
    Longest (1 + language) [] text := by
  constructor
  · simp [Language.mem_add]
  · simp
  · intro other hother hbegins
    rw [Language.mem_add, Language.mem_one] at hother
    rcases hother with hnil | hother
    · simp [hnil]
    · exact absurd hbegins (hnone other hother)

/-- A word of the second part cannot begin inside what the first part has used, and
so a shorter first part leaves nothing for the second. -/
theorem mul {p : Char → Prop} (happend : used ++ rest = text) (hused : Longest first used text)
    (htail : Longest second tail rest) (hstarts : Starts second p)
    (hapart : ∀ c ∈ used, ¬ p c) : Longest (first * second) (used ++ tail) text := by
  subst happend
  constructor
  · exact Language.mem_mul.2 ⟨used, hused.mem, tail, htail.mem, rfl⟩
  · simpa using htail.begins
  · intro word hword hbegins
    rcases Language.mem_mul.1 hword with ⟨front, hfront, other, hother, rfl⟩
    have hfrontBegins : front <+: used ++ rest := (List.prefix_append front other).trans hbegins
    have hle := hused.length_le front hfront hfrontBegins
    rcases List.prefix_of_prefix_length_le hfrontBegins hused.begins hle with ⟨more, hmore⟩
    have hotherBegins : other <+: more ++ rest := by
      rw [← hmore, List.append_assoc, List.prefix_append_right_inj] at hbegins
      exact hbegins
    have hlength := congrArg List.length hmore
    simp only [List.length_append] at hlength ⊢
    cases more with
    | nil =>
        have hshort := htail.length_le other hother (by simpa using hotherBegins)
        simp only [List.length_nil] at hlength
        omega
    | cons c more =>
        cases other with
        | nil =>
            simp only [List.length_cons, List.length_nil] at hlength ⊢
            omega
        | cons d other =>
            have hd : d = c := by simp_all
            have hc : c ∈ used := by simp [← hmore]
            rw [hd] at hother
            exact absurd (hstarts c other hother) (hapart c hc)

end Longest

/-! ## What a number looks like -/

/-- One of the characters. -/
def oneOf (chars : List Char) : Language Char :=
  {word | ∃ c ∈ chars, word = [c]}

/-- A digit, and any digits and underscores behind it. -/
def digitRuns : Language Char :=
  {run | ∃ first rest, run = first :: rest ∧ first.isDigit = true ∧
    ∀ c ∈ rest, c.isDigit = true ∨ c = '_'}

/-- A point in front of a run. -/
def fractions : Language Char :=
  oneOf ['.'] * digitRuns

/-- A mark, perhaps a sign, and a run. -/
def exponents : Language Char :=
  oneOf ['e', 'E'] * ((1 + oneOf ['+', '-']) * digitRuns)

def numerals : Language Char :=
  digitRuns * ((1 + fractions) * (1 + exponents))

/-- What a number may look like, after a dot or not. -/
def numeralsAfter (afterDot : Bool) : Language Char :=
  if afterDot then digitRuns else numerals

section Words

variable {chars word rest : List Char} {c : Char}

@[simp] theorem mem_oneOf : word ∈ oneOf chars ↔ ∃ c ∈ chars, word = [c] :=
  Iff.rfl

theorem starts_oneOf (chars : List Char) : Starts (oneOf chars) (· ∈ chars) := by
  intro c rest hword
  simp_all

theorem longest_oneOf (hc : c ∈ chars) (rest : List Char) :
    Longest (oneOf chars) [c] (c :: rest) := by
  constructor
  · simp [hc]
  · simp
  · rintro other ⟨d, -, rfl⟩ -
    simp

theorem cons_mem_digitRuns :
    c :: rest ∈ digitRuns ↔ c.isDigit = true ∧ ∀ d ∈ rest, isDigitPart d = true := by
  constructor
  · rintro ⟨first, others, heq, hfirst, hothers⟩
    cases heq
    refine ⟨hfirst, fun d hd => ?_⟩
    simpa [isDigitPart] using hothers d hd
  · intro hrun
    refine ⟨c, rest, rfl, hrun.1, fun d hd => ?_⟩
    simpa [isDigitPart] using hrun.2 d hd

theorem nil_notMem_digitRuns : [] ∉ digitRuns := by
  rintro ⟨first, rest, heq, -⟩
  contradiction

theorem isDigitPart_of_mem (hword : word ∈ digitRuns) : ∀ c ∈ word, isDigitPart c = true := by
  cases word with
  | nil => simp
  | cons first rest =>
      have hrun := cons_mem_digitRuns.1 hword
      have hfirst : isDigitPart first = true := by simp [isDigitPart, hrun.1]
      simpa [hfirst] using hrun.2

theorem starts_digitRuns : Starts digitRuns (·.isDigit = true) := by
  intro c rest hword
  exact (cons_mem_digitRuns.1 hword).1

theorem starts_fractions : Starts fractions (· ∈ ['.']) :=
  (starts_oneOf _).mul (by simp)

theorem starts_exponents : Starts exponents (· ∈ ['e', 'E']) :=
  (starts_oneOf _).mul (by simp)

theorem starts_signed :
    Starts ((1 + oneOf ['+', '-']) * digitRuns) fun c => c ∈ ['+', '-'] ∨ c.isDigit = true :=
  ((starts_oneOf _).optional.mono fun _ => .inl).mul fun _ =>
    starts_digitRuns.mono fun _ => .inr

theorem starts_options :
    Starts ((1 + fractions) * (1 + exponents)) (· ∈ ['.', 'e', 'E']) :=
  (starts_fractions.optional.mono (by simp_all)).mul fun _ =>
    starts_exponents.optional.mono (by simp_all)

theorem notMem_of_isDigitPart (hc : isDigitPart c = true) : c ∉ ['.', 'e', 'E'] := by
  intro hmem
  simp only [List.mem_cons, List.not_mem_nil, or_false] at hmem
  rcases hmem with rfl | rfl | rfl <;> exact absurd hc (by decide)

theorem notMem_of_mem_fractions (hword : word ∈ 1 + fractions) : ∀ c ∈ word, c ∉ ['e', 'E'] := by
  rw [Language.mem_add, Language.mem_one] at hword
  rcases hword with rfl | hword
  · simp
  · rcases Language.mem_mul.1 hword with ⟨_, ⟨point, hpoint, rfl⟩, run, hrun, rfl⟩
    intro c hc
    rcases List.mem_cons.1 hc with rfl | hc
    · simp_all
    · have hpart := notMem_of_isDigitPart (isDigitPart_of_mem hrun c hc)
      simp_all

theorem exists_of_mem_fractions (hword : word ∈ fractions) :
    ∃ d more, word = '.' :: d :: more ∧ d.isDigit = true := by
  rcases Language.mem_mul.1 hword with ⟨_, ⟨point, hpoint, rfl⟩, run, hrun, rfl⟩
  cases run with
  | nil => exact absurd hrun nil_notMem_digitRuns
  | cons d more =>
      have hdot : point = '.' := by simpa using hpoint
      exact ⟨d, more, by simp [hdot], starts_digitRuns d more hrun⟩

theorem exists_of_mem_exponents (hword : word ∈ exponents) :
    ∃ mark sign d more, word = mark :: (sign ++ d :: more) ∧ mark ∈ ['e', 'E'] ∧
      sign ∈ 1 + oneOf ['+', '-'] ∧ d.isDigit = true := by
  rcases Language.mem_mul.1 hword with ⟨_, ⟨mark, hmark, rfl⟩, after, hafter, rfl⟩
  rcases Language.mem_mul.1 hafter with ⟨sign, hsign, run, hrun, rfl⟩
  cases run with
  | nil => exact absurd hrun nil_notMem_digitRuns
  | cons d more =>
      exact ⟨mark, sign, d, more, rfl, hmark, hsign, starts_digitRuns d more hrun⟩

end Words

/-! ## What is cut off -/

namespace Cut

variable {text rest : List Char} {c : Char}

theorem digits_longest (hc : c.isDigit = true) :
    Longest digitRuns ((c :: rest).takeWhile isDigitPart) (c :: rest) := by
  have hpart : isDigitPart c = true := by simp [isDigitPart, hc]
  constructor
  · rw [List.takeWhile_cons_of_pos hpart, cons_mem_digitRuns]
    exact ⟨hc, fun d hd => List.mem_takeWhile_imp hd⟩
  · exact List.takeWhile_prefix _
  · rintro other hother ⟨more, hmore⟩
    rw [← hmore, List.takeWhile_append_of_pos (isDigitPart_of_mem hother), List.length_append]
    omega

theorem fraction_longest (text : List Char) : Longest (1 + fractions) (fraction text).1 text := by
  have hnone : (∀ c rest, text = '.' :: c :: rest → c.isDigit = false) →
      Longest (1 + fractions) [] text := by
    intro hshape
    apply Longest.optional_nil
    rintro word hword ⟨more, hmore⟩
    rcases exists_of_mem_fractions hword with ⟨d, others, rfl, hd⟩
    have hother := hshape d (others ++ more) (by simp [← hmore])
    simp [hd] at hother
  unfold fraction
  split
  · next c rest =>
      split
      · next hc =>
          have hpoint : Longest (oneOf ['.']) ['.'] ('.' :: c :: rest) :=
            longest_oneOf (by simp) _
          exact (hpoint.mul rfl (digits_longest hc) starts_digitRuns (by simp)).optional
      · next hc => exact hnone (by simp_all)
  · next hshape =>
      apply hnone
      intro d others heq
      exact absurd heq (hshape d others)

theorem sign_longest (text : List Char) :
    Longest (1 + oneOf ['+', '-']) (sign text).1 text := by
  unfold sign
  split
  · next rest => exact (longest_oneOf (by simp) rest).optional
  · next rest => exact (longest_oneOf (by simp) rest).optional
  · next hplus hminus =>
      apply Longest.optional_nil
      rintro word ⟨c, hc, rfl⟩ ⟨more, hmore⟩
      rcases List.mem_pair.1 hc with rfl | rfl
      · exact hplus more hmore.symm
      · exact hminus more hmore.symm

theorem sign_of_digit {written : List Char} (hwritten : written ∈ 1 + oneOf ['+', '-'])
    (hc : c.isDigit = true) (rest : List Char) :
    sign (written ++ c :: rest) = (written, c :: rest) := by
  have hne : c ≠ '+' ∧ c ≠ '-' := by
    constructor <;> (rintro rfl; exact absurd hc (by decide))
  rw [Language.mem_add, Language.mem_one] at hwritten
  rcases hwritten with rfl | ⟨mark, hmark, rfl⟩
  · unfold sign
    split <;> simp_all
  · rcases List.mem_pair.1 hmark with rfl | rfl <;> rfl

/-- What stands behind the mark of an exponent. -/
theorem signed_longest (hdigit : (sign text).2.head?.any Char.isDigit = true) :
    Longest ((1 + oneOf ['+', '-']) * digitRuns)
      ((sign text).1 ++ (sign text).2.takeWhile isDigitPart) text := by
  have hsign := sign_longest text
  have hapart : ∀ c ∈ (sign text).1, ¬ c.isDigit = true := by
    unfold sign
    split <;> simp
  rcases hsplit : sign text with ⟨written, rest⟩
  have happend := sign_append text
  simp only [hsplit] at happend hsign hapart hdigit ⊢
  cases rest with
  | nil => simp at hdigit
  | cons c rest =>
      have hrun : Longest digitRuns _ (c :: rest) := digits_longest (by simpa using hdigit)
      exact hsign.mul happend hrun starts_digitRuns hapart

theorem exponent_longest (text : List Char) : Longest (1 + exponents) (exponent text).1 text := by
  have hnone : (∀ mark rest, text = mark :: rest → mark ∈ ['e', 'E'] →
      (sign rest).2.head?.any Char.isDigit = false) → Longest (1 + exponents) [] text := by
    intro hshape
    apply Longest.optional_nil
    rintro word hword ⟨more, hmore⟩
    rcases exists_of_mem_exponents hword with ⟨mark, written, d, others, rfl, hmark, hsign, hd⟩
    have hother := hshape mark (written ++ d :: (others ++ more)) (by simp [← hmore]) hmark
    simp [sign_of_digit hsign hd, hd] at hother
  cases text with
  | nil => exact hnone (by simp)
  | cons mark rest =>
      by_cases hmark : mark ∈ ['e', 'E']
      · have htest : (mark == 'e' || mark == 'E') = true := by simpa using hmark
        by_cases hdigit : (sign rest).2.head?.any Char.isDigit = true
        · have hapart : ∀ c ∈ [mark], ¬ (c ∈ ['+', '-'] ∨ c.isDigit = true) := by
            simp only [List.mem_singleton, forall_eq]
            rcases List.mem_pair.1 hmark with rfl | rfl <;> decide
          have hboth : Longest exponents _ (mark :: rest) :=
            (longest_oneOf hmark rest).mul rfl (signed_longest hdigit) starts_signed hapart
          simpa [exponent, htest, hdigit] using hboth.optional
        · have hempty := hnone (by simp_all)
          simpa [exponent, htest, hdigit] using hempty
      · have htest : (mark == 'e' || mark == 'E') = false := by simpa using hmark
        have hempty := hnone (by simp_all)
        simpa [exponent, htest] using hempty

/-- A number is the longest word that begins the text, of the words that it may be. -/
theorem numeral_longest (afterDot : Bool) (hc : c.isDigit = true) (rest : List Char) :
    Longest (numeralsAfter afterDot) (numeral afterDot (c :: rest)).1 (c :: rest) := by
  have hwhole : Longest digitRuns _ (c :: rest) := digits_longest hc
  cases afterDot with
  | true => simpa [numeralsAfter, numeral] using hwhole
  | false =>
      let behind := (c :: rest).dropWhile isDigitPart
      have hfraction := fraction_longest behind
      have hexponent := exponent_longest (fraction behind).2
      have hoptions := hfraction.mul (fraction_append behind) hexponent starts_exponents.optional
        (notMem_of_mem_fractions hfraction.mem)
      have hapart : ∀ d ∈ (c :: rest).takeWhile isDigitPart, d ∉ ['.', 'e', 'E'] :=
        fun d hd => notMem_of_isDigitPart (List.mem_takeWhile_imp hd)
      have hall : Longest numerals _ (c :: rest) :=
        hwhole.mul List.takeWhile_append_dropWhile hoptions starts_options hapart
      simpa [numeralsAfter, numeral] using hall

/-- A point, a mark and a sign without a digit behind them are left. -/
example :
    (["1.", "1.e5", "1e", "1e+", "1_0.5e-7."].map fun text => (numeral false text.toList).2) =
      [".", ".e5", "e", "e+", "."].map String.toList := by
  decide

theorem ofChars_of_digit (hc : c.isDigit = true) (afterDot : Bool) (start : Nat)
    (rest : List Char) :
    Cut.ofChars afterDot start c rest = .ok (Cut.number afterDot (c :: rest)) := by
  simp [Cut.ofChars, (isNamePart_of_isDigit hc).2, hc]

end Cut

/-! ## The scanner on its way to a number -/

/-- Where the scanner of a tag stands: the offset, the open brackets, whether it has just read
a dot, and what is left of the text. -/
structure Scan where
  offset : Nat
  brackets : List Punct
  afterDot : Bool
  text : List Char

namespace Scan

/-- Behind the opener of a tag. -/
def opened (offset : Nat) (text : List Char) : Scan where
  offset
  brackets := []
  afterDot := false
  text

/-- Where the next lexeme begins. -/
def first (scan : Scan) : Nat :=
  scan.offset + byteLength (scan.text.takeWhile isBlank)

def lexeme (scan : Scan) (cut : Cut) : Lexeme where
  kind := cut.kind
  span := Span.ofBounds scan.first (scan.first + byteLength cut.used)

def behind (scan : Scan) (cut : Cut) : Scan where
  offset := scan.first + byteLength cut.used
  brackets := bracketsAfter scan.brackets cut.kind
  afterDot := cut.kind == .punct .dot
  text := cut.rest

/-- What is read of the tag from there on. -/
def interior (delimiter : Delimiter) (opener : Nat) (scan : Scan) : Except ParseError Interior :=
  Interior.ofChars delimiter opener scan.offset scan.brackets scan.afterDot scan.text

/-- The tag does not end here, and this is the next lexeme. -/
def Cuts (delimiter : Delimiter) (scan : Scan) (cut : Cut) : Prop :=
  ∃ c inside, trimStart scan.text = c :: inside ∧
    delimiter.ending? scan.brackets (c :: inside) = none ∧
    Cut.ofChars scan.afterDot scan.first c inside = .ok cut

/-- The lexemes that are read on the way from one place to another. -/
inductive Reads (delimiter : Delimiter) (start : Scan) : List Lexeme → Scan → Prop where
  | refl : Reads delimiter start [] start
  | snoc {lexemes : List Lexeme} {scan : Scan} {cut : Cut}
      (hreads : Reads delimiter start lexemes scan) (hcuts : Cuts delimiter scan cut) :
      Reads delimiter start (lexemes ++ [scan.lexeme cut]) (scan.behind cut)

end Scan

/-- The same inside with the lexemes in front. -/
def Interior.behindLexemes (lexemes : List Lexeme) (interior : Interior) : Interior :=
  { interior with lexemes := lexemes ++ interior.lexemes }

namespace Scan

variable {delimiter : Delimiter} {start scan : Scan} {lexemes : List Lexeme} {cut : Cut}
  {c : Char} {inside : List Char}

theorem Cuts.interior_eq (hcuts : scan.Cuts delimiter cut) (opener : Nat) :
    scan.interior delimiter opener =
      ((scan.behind cut).interior delimiter opener).map
        (Interior.behindLexemes [scan.lexeme cut]) := by
  rcases hcuts with ⟨c, inside, htrim, hnone, hcut⟩
  unfold interior
  rw [Interior.ofChars_of_none htrim hnone]
  change Cut.ofChars scan.afterDot scan.first c inside >>= _ = _
  rw [hcut]
  rfl

theorem Cuts.exists_before (hcuts : scan.Cuts delimiter cut) :
    ∃ before, scan.text = before ++ (scan.behind cut).text ∧
      (scan.behind cut).offset = scan.offset + byteLength before := by
  rcases hcuts with ⟨c, inside, htrim, -, hcut⟩
  have htext := trimStart_append scan.text
  rw [htrim, ← Cut.ofChars_append hcut] at htext
  refine ⟨scan.text.takeWhile isBlank ++ cut.used, ?_, ?_⟩
  · rw [List.append_assoc]
    exact htext.symm
  · simp [behind, first, Nat.add_assoc]

/-- A digit is never the end of a tag. -/
theorem cuts_of_digit (htrim : trimStart scan.text = c :: inside) (hc : c.isDigit = true) :
    scan.Cuts delimiter (Cut.number scan.afterDot (c :: inside)) := by
  refine ⟨c, inside, htrim, ?_, Cut.ofChars_of_digit hc _ _ _⟩
  cases hending : delimiter.ending? scan.brackets (c :: inside) with
  | none => rfl
  | some ending =>
      have htail := (Delimiter.ending?_eq_some hending).1
      rcases delimiter.head?_tail ending.1 ending.2 with ⟨d, hd, hmem⟩
      have hsame : c = d := by simpa [← htail] using hd
      have hpart := isDigitPart_tail d hmem
      simp [isDigitPart, ← hsame, hc] at hpart

namespace Reads

theorem interior_eq (hreads : start.Reads delimiter lexemes scan) (opener : Nat) :
    start.interior delimiter opener =
      (scan.interior delimiter opener).map (Interior.behindLexemes lexemes) := by
  induction hreads with
  | refl => cases start.interior delimiter opener <;> rfl
  | @snoc lexemes scan cut hreads hcuts ih =>
      rw [ih, hcuts.interior_eq]
      cases (scan.behind cut).interior delimiter opener with
      | error error => rfl
      | ok interior => simp [Except.map, Interior.behindLexemes]

theorem exists_before (hreads : start.Reads delimiter lexemes scan) :
    ∃ before, start.text = before ++ scan.text ∧
      scan.offset = start.offset + byteLength before := by
  induction hreads with
  | refl => exact ⟨[], by simp⟩
  | @snoc lexemes scan cut hreads hcuts ih =>
      rcases ih with ⟨before, htext, hoffset⟩
      rcases hcuts.exists_before with ⟨between, hbetween, hbehind⟩
      refine ⟨before ++ between, ?_, ?_⟩
      · rw [htext, hbetween, List.append_assoc]
      · simp [hbehind, hoffset, Nat.add_assoc]

theorem cons (hcuts : start.Cuts delimiter cut)
    (hreads : (start.behind cut).Reads delimiter lexemes scan) :
    start.Reads delimiter (start.lexeme cut :: lexemes) scan := by
  induction hreads with
  | refl => simpa using Reads.refl.snoc hcuts
  | snoc hreads hbelow ih => simpa using ih.snoc hbelow

/-- Every tag that is read is read in such steps up to its end. -/
theorem of_interior {opener offset : Nat} {brackets : List Punct} {afterDot : Bool}
    {text : List Char} {interior : Interior}
    (hinterior : Interior.ofChars delimiter opener offset brackets afterDot text = .ok interior) :
    ∃ last : Scan, Reads delimiter ⟨offset, brackets, afterDot, text⟩ interior.lexemes last ∧
      delimiter.ending? last.brackets (trimStart last.text) =
        some (interior.right, interior.rest) := by
  fun_induction Interior.ofChars delimiter opener offset brackets afterDot text
      generalizing interior with
  | case1 => cases hinterior
  | case2 =>
      rename_i hinside _ _ hending
      cases hinterior
      exact ⟨_, .refl, by rw [hinside, hending]⟩
  | case3 => cases hinterior
  | case4 => cases hinterior
  | case5 =>
      rename_i hinside hending _ hcut _ _ hbelow ih
      cases hinterior
      rcases ih hbelow with ⟨last, hreads, hlast⟩
      exact ⟨last, cons ⟨_, _, hinside, hending, hcut⟩ hreads, hlast⟩

/-- The flag always tells whether the last lexeme is a dot. -/
theorem afterDot_eq (hreads : start.Reads delimiter lexemes scan)
    (hstart : start.afterDot = false) :
    scan.afterDot = (lexemes.getLast?.map Lexeme.kind == some (.punct .dot)) := by
  cases hreads with
  | refl => simpa using hstart
  | snoc => simp [behind, lexeme]

theorem number_longest {offset : Nat} {text : List Char}
    (hreads : (opened offset text).Reads delimiter lexemes scan)
    (htrim : trimStart scan.text = c :: inside) (hc : c.isDigit = true) :
    ∃ before used left, text = before ++ (used ++ left) ∧ used ++ left = c :: inside ∧
      Longest
        (if lexemes.getLast?.map Lexeme.kind = some (.punct .dot) then digitRuns else numerals)
        used (c :: inside) ∧
      let first := offset + byteLength before
      let last := offset + byteLength (before ++ used)
      let number : Lexeme :=
        ⟨.number (String.ofList (used.filter (· != '_'))), Span.ofBounds first last⟩
      (opened offset text).Reads delimiter (lexemes ++ [number])
          ⟨last, scan.brackets, false, left⟩ ∧
        (∀ opener, Interior.ofChars delimiter opener offset [] false text =
          (Interior.ofChars delimiter opener last scan.brackets false left).map
            (Interior.behindLexemes (lexemes ++ [number]))) ∧
        (offset + byteLength text ≤ Span.limit →
          number.span.start.toNat = first ∧ number.span.stop = last) := by
  let cut := Cut.number scan.afterDot (c :: inside)
  have happend : cut.used ++ cut.rest = c :: inside := Cut.numeral_append _ _
  have hlongest : Longest (numeralsAfter scan.afterDot) cut.used (c :: inside) :=
    Cut.numeral_longest _ hc inside
  rcases hreads.exists_before with ⟨before, htext, hoffset⟩
  let front := before ++ scan.text.takeWhile isBlank
  have hfirst : scan.first = offset + byteLength front := by
    simp [front, first, hoffset, opened, Nat.add_assoc]
  have hlast : scan.first + byteLength cut.used = offset + byteLength (front ++ cut.used) := by
    simp [hfirst, Nat.add_assoc]
  have hwhole : text = front ++ (cut.used ++ cut.rest) := by
    have hsplit := trimStart_append scan.text
    rw [htrim] at hsplit
    rw [happend, List.append_assoc]
    exact htext.trans (congrArg (before ++ ·) hsplit.symm)
  have hlexeme : scan.lexeme cut =
      ⟨.number (String.ofList (cut.used.filter (· != '_'))),
        Span.ofBounds (offset + byteLength front) (offset + byteLength (front ++ cut.used))⟩ := by
    rw [← hfirst, ← hlast]
    rfl
  have hbehind : scan.behind cut =
      ⟨offset + byteLength (front ++ cut.used), scan.brackets, false, cut.rest⟩ := by
    rw [← hlast]
    rfl
  have hnumber := hreads.snoc (cuts_of_digit htrim hc)
  rw [hlexeme, hbehind] at hnumber
  refine ⟨front, cut.used, cut.rest, hwhole, happend, ?_, hnumber, hnumber.interior_eq, ?_⟩
  · simpa [numeralsAfter, hreads.afterDot_eq rfl] using hlongest
  · intro hlimit
    rw [hwhole] at hlimit
    simp only [byteLength_append] at hlimit ⊢
    constructor
    · exact Span.toNat_start_ofBounds (by omega) _
    · exact Span.stop_ofBounds (by omega) (by omega)

/-- An attribute ends in front of a mark that another number would go on with. -/
theorem number_longest_attribute :
    let lexemes : List Lexeme :=
      [⟨.name "a", Span.ofBounds 2 3⟩, ⟨.punct .dot, Span.ofBounds 3 4⟩,
        ⟨.number "0", Span.ofBounds 4 5⟩, ⟨.punct .dot, Span.ofBounds 5 6⟩]
    let start := opened 2 "a.0.1_0e5\x7d\x7d".toList
    start.Reads .expression lexemes ⟨6, [], true, "1_0e5\x7d\x7d".toList⟩ ∧ '1'.isDigit = true ∧
      Longest digitRuns "1_0".toList "1_0e5\x7d\x7d".toList ∧
      start.Reads .expression (lexemes ++ [⟨.number "10", Span.ofBounds 6 9⟩])
        ⟨9, [], false, "e5\x7d\x7d".toList⟩ := by
  have hreads : (opened 2 "a.0.1_0e5\x7d\x7d".toList).Reads .expression _ _ :=
    (((Reads.refl.snoc ⟨'a', _, rfl, rfl, rfl⟩).snoc ⟨'.', _, rfl, rfl, rfl⟩).snoc
      ⟨'0', _, rfl, rfl, rfl⟩).snoc ⟨'.', _, rfl, rfl, rfl⟩
  have hrun : Longest digitRuns "1_0".toList "1_0e5\x7d\x7d".toList :=
    @Cut.digits_longest "_0e5\x7d\x7d".toList '1' rfl
  obtain ⟨before, used, left, htext, happend, hlongest, hnumber, -⟩ :=
    hreads.number_longest (c := '1') rfl rfl
  have hused : used = "1_0".toList := hlongest.unique hrun
  subst hused
  have hleft : left = "e5\x7d\x7d".toList := List.append_cancel_left happend
  subst hleft
  have hbefore : before = "a.0.".toList := (List.append_cancel_right htext).symm
  subst hbefore
  exact ⟨hreads, rfl, hrun, hnumber⟩

end Reads

end Scan

end TemplateVariables
