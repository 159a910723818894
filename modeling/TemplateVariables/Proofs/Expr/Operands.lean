import TemplateVariables.Proofs.Expr.Agreement
import TemplateVariables.Proofs.Expr.Context

/-!
# Operands in front of other lexemes

An operand without filters is read wherever it stands as it is read by itself, if the lexeme
behind it does not go on with it.
-/

namespace TemplateVariables

/-- Where all the lexemes are used up, what comes behind does not go on with an operand. -/
def KeepsOperand (extra : List Lexeme) (kinds : List LexemeKind) : Prop :=
  kinds = [] → EndsOperand (extra.map (·.kind))

theorem KeepsOperand.head?_extend_ne {extra : List Lexeme} {cursor : Cursor} {kind : LexemeKind}
    (hkeeps : KeepsOperand extra cursor.kinds) (hextends : kind.extendsOperand = true)
    (hhead : cursor.kinds.head? ≠ some kind) : (cursor.extend extra).kinds.head? ≠ some kind := by
  rw [Cursor.kinds_extend]
  cases hkinds : cursor.kinds with
  | nil => exact (hkeeps hkinds).head?_ne hextends
  | cons first rest => rwa [hkinds] at hhead

theorem KeepsOperand.take?_extend {extra : List Lexeme} {cursor : Cursor} {kind : LexemeKind}
    (hkeeps : KeepsOperand extra cursor.kinds) (hextends : kind.extendsOperand = true)
    (htake : cursor.take? kind = none) : (cursor.extend extra).take? kind = none :=
  Cursor.take?_eq_none (hkeeps.head?_extend_ne hextends (Cursor.head?_ne_of_take? htake))

namespace Parser

variable {tagEnd : Span} {cursor next : Cursor} {value : Expr}

theorem reader_follows (tagEnd : Span) (bound : Nat) : (reader tagEnd bound).Follows tagEnd :=
  fun level cursor _ => Expr.read_follows tagEnd level cursor

/-! ## The parts of an operand -/

section Extend

variable (tagEnd' : Span) {extra : List Lexeme} (hkeeps : KeepsOperand extra next.kinds)

include hkeeps

theorem Reads.primary_extend (hreads : Reads tagEnd (.primary value) cursor next) :
    Reads tagEnd' (.primary value) (cursor.extend extra) (next.extend extra) := by
  cases hreads with
  | word hnext hword =>
      obtain ⟨_, hnext⟩ := Cursor.next?_extend extra hnext
      exact .word hnext hword
  | number hnext =>
      obtain ⟨_, hnext⟩ := Cursor.next?_extend extra hnext
      exact .number hnext
  | str hnext hmore =>
      obtain ⟨_, -, -, hhead⟩ := Cursor.kinds_of_moreStrings hmore
      obtain ⟨_, hnext⟩ := Cursor.next?_extend extra hnext
      obtain ⟨_, hmore⟩ := Cursor.moreStrings_extend
        (fun value => hkeeps.head?_extend_ne rfl (hhead value)) hmore
      exact .str hnext hmore
  | group hopen hgroup =>
      obtain ⟨_, hopen⟩ := Cursor.next?_extend extra hopen
      exact .group hopen (hgroup.extend tagEnd' extra (.closing rfl _ _))
  | list hopen hitems =>
      obtain ⟨_, hopen⟩ := Cursor.next?_extend extra hopen
      exact .list hopen (hitems.extend tagEnd' extra (.closing rfl _ _))
  | dict hopen hentries =>
      obtain ⟨_, hopen⟩ := Cursor.next?_extend extra hopen
      exact .dict hopen (hentries.extend tagEnd' extra (.closing rfl _ _))

/-- Only the last access meets what comes behind; the others meet lexemes that were there. -/
theorem Reads.accessTail_extend {base : Expr}
    (hreads : Reads tagEnd (.accessTail base value) cursor next) :
    Reads tagEnd' (.accessTail base value) (cursor.extend extra) (next.extend extra) := by
  generalize hform : Form.accessTail base value = form at hreads
  induction hreads generalizing base with
  | accessStop hdot hlbracket hlparen =>
      cases hform
      exact .accessStop (hkeeps.take?_extend rfl hdot) (hkeeps.take?_extend rfl hlbracket)
        (hkeeps.take?_extend rfl hlparen)
  | accessAttribute hdot hname _ ih =>
      cases hform
      obtain ⟨_, hdot⟩ := Cursor.take?_extend extra hdot
      obtain ⟨_, hname⟩ := Cursor.attributeName_extend extra hname
      exact .accessAttribute hdot hname (ih hkeeps rfl)
  | accessSubscript hdot hopen hindex hclose _ _ ih =>
      cases hform
      have hshield := shielded_of_close hclose (.closing rfl extra _)
      have hinside := shielded_of_take? hopen (hindex.shielded hshield)
      obtain ⟨_, hopen⟩ := Cursor.take?_extend extra hopen
      obtain ⟨_, hclose⟩ := Cursor.take?_extend extra hclose
      exact .accessSubscript (Cursor.take?_extend_none hinside hdot) hopen
        (hindex.extend tagEnd' extra hshield) hclose (ih hkeeps rfl)
  | accessCall hdot hlbracket hopen hargs _ _ ih =>
      cases hform
      have hinside := shielded_of_take? hopen
        (Shielded.of_suffix (.closing rfl extra _) hargs.closing_suffix)
      obtain ⟨_, hopen⟩ := Cursor.take?_extend extra hopen
      exact .accessCall (Cursor.take?_extend_none hinside hdot)
        (Cursor.take?_extend_none hinside hlbracket) hopen
        (hargs.extend tagEnd' extra (.closing rfl _ _)) (ih hkeeps rfl)
  | _ => cases hform

end Extend

section Alike

variable (tagEnd' : Span) {cursor' : Cursor} (hkinds : cursor.kinds = cursor'.kinds)

include hkinds

theorem Reads.primary_alike (hreads : Reads tagEnd (.primary value) cursor next) :
    ∃ value' next', Reads tagEnd' (.primary value') cursor' next' ∧
      value'.spanless = value.spanless ∧ next'.kinds = next.kinds := by
  have hnested := reader_alike tagEnd tagEnd' cursor.size cursor'.size
  obtain ⟨_, hfound⟩ := hreads.found cursor.size (Nat.le_refl _)
  obtain ⟨step, hok, hvalue, hnext⟩ :=
    Agree.of_ok (Parser.primary_alike hnested hkinds _ (Nat.le_refl _)) hfound
  exact ⟨_, _, (primary_follows (reader_follows tagEnd' _) cursor' _).of_ok step hok,
    hvalue.symm, hnext.symm⟩

theorem Reads.accessTail_alike {base base' : Expr} (hbase : base.spanless = base'.spanless)
    (hreads : Reads tagEnd (.accessTail base value) cursor next) :
    ∃ value' next', Reads tagEnd' (.accessTail base' value') cursor' next' ∧
      value'.spanless = value.spanless ∧ next'.kinds = next.kinds := by
  have hnested := reader_alike tagEnd tagEnd' (cursor.size + 1) (cursor'.size + 1)
  obtain ⟨_, hfound⟩ := hreads.found (cursor.size + 1) (Nat.lt_succ_self _)
  obtain ⟨step, hok, hvalue, hnext⟩ :=
    Agree.of_ok (Parser.accessTail_alike hnested hbase hkinds _ (Nat.lt_succ_self _)) hfound
  exact ⟨_, _, (accessTail_follows (reader_follows tagEnd' _) base' cursor' _).of_ok step hok,
    hvalue.symm, hnext.symm⟩

end Alike

/-- The rules by which an operand without filters is read. -/
def ReadsPlain (tagEnd : Span) (value : Expr) (cursor next : Cursor) : Prop :=
  ∃ head middle, Reads tagEnd (.primary head) cursor middle ∧
    Reads tagEnd (.accessTail head value) middle next

/-- A word in front of an equals sign is no operand that ends elsewhere. -/
theorem ReadsPlain.keyword?_eq_none (hplain : ReadsPlain tagEnd value cursor next)
    (hnext : next.kinds.head? ≠ some (.punct .assign)) : cursor.keyword? = none := by
  obtain ⟨head, middle, hhead, haccess⟩ := hplain
  cases hword : cursor.keyword? with
  | none => rfl
  | some step =>
      have hkinds := Cursor.kinds_of_keyword? hword
      -- Only a single word can be the head here, and no access begins with an equals sign.
      have hmiddle : middle.kinds = .punct .assign :: step.next.kinds := by
        cases hhead with
        | word hnext =>
            rw [Cursor.kinds_of_next? hnext] at hkinds
            exact (List.cons.inj hkinds).2
        | number hnext => cases (Cursor.kinds_of_next? hnext).symm.trans hkinds
        | str hnext => cases (Cursor.kinds_of_next? hnext).symm.trans hkinds
        | group hopen => cases (Cursor.kinds_of_next? hopen).symm.trans hkinds
        | list hopen => cases (Cursor.kinds_of_next? hopen).symm.trans hkinds
        | dict hopen => cases (Cursor.kinds_of_next? hopen).symm.trans hkinds
      obtain ⟨-, rfl⟩ := haccess.accessTail_stop (by simp [hmiddle])
      rw [hmiddle] at hnext
      exact absurd rfl hnext

theorem ReadsPlain.signed (hplain : ReadsPlain tagEnd value cursor next)
    (hop : cursor.unaryOp? = none) (hends : EndsOperand next.kinds) :
    Reads tagEnd (.signed value) cursor next := by
  obtain ⟨head, middle, hhead, haccess⟩ := hplain
  exact .signedOperand hop
    (.operand hhead haccess (.filterStop (Cursor.take?_eq_none (hends.head?_ne rfl))))

end Parser

/-- By themselves the lexemes are read as the operand, a primary expression with its accesses. -/
def Expr.PlainFrom (expr : Expr) (lexemes : List Lexeme) : Prop :=
  ∃ (tagEnd : Span) (bound : Nat) (head value : Expr) (middle next : Cursor)
    (hbound : (Cursor.ofLexemes lexemes).size ≤ bound) (hmiddle : middle.size < bound),
    Gives (Parser.primary tagEnd (Parser.reader tagEnd bound) (.ofLexemes lexemes) hbound)
      head middle ∧
    Gives (Parser.accessTail tagEnd (Parser.reader tagEnd bound) head middle hmiddle)
      value next ∧
    next.rest = [] ∧ value.spanless = expr.spanless

theorem Expr.PlainFrom.readsPlain_alone {expr : Expr} {lexemes : List Lexeme}
    (hplain : expr.PlainFrom lexemes) :
    ∃ tagEnd value next, Parser.ReadsPlain tagEnd value (.ofLexemes lexemes) next ∧
      next.kinds = [] ∧ value.spanless = expr.spanless := by
  obtain ⟨tagEnd, bound, head, value, middle, next, hbound, hmiddle, ⟨_, hhead⟩, ⟨_, haccess⟩,
    hrest, hvalue⟩ := hplain
  have hfollows := Parser.reader_follows tagEnd bound
  exact ⟨tagEnd, value, next, ⟨head, middle,
    (Parser.primary_follows hfollows _ hbound).of_ok _ hhead,
    (Parser.accessTail_follows hfollows head middle hmiddle).of_ok _ haccess⟩,
    (Cursor.rest_eq_nil_iff next).1 hrest, hvalue⟩

/-- In front of anything that does not go on with it the operand is read like by itself. -/
theorem Expr.PlainFrom.readsPlain {expr : Expr} {lexemes : List Lexeme}
    (hplain : expr.PlainFrom lexemes) (tagEnd : Span) {cursor : Cursor} {rest : List LexemeKind}
    (hkinds : cursor.kinds = lexemes.map (·.kind) ++ rest) (hends : EndsOperand rest) :
    ∃ value next, Parser.ReadsPlain tagEnd value cursor next ∧
      value.spanless = expr.spanless ∧ next.kinds = rest := by
  obtain ⟨extra, rfl⟩ : ∃ extra : List Lexeme, extra.map (·.kind) = rest :=
    ⟨_, Lexeme.map_kind_ofKinds rest⟩
  obtain ⟨plainEnd, value, next, ⟨head, middle, hhead, haccess⟩, hnext, hvalue⟩ :=
    hplain.readsPlain_alone
  have hsame : ((Cursor.ofLexemes lexemes).extend extra).kinds = cursor.kinds := by
    rw [Cursor.kinds_extend, Cursor.kinds_ofLexemes, hkinds]
  obtain ⟨head', middle', hhead', hheadSame, hmiddleSame⟩ :=
    (hhead.primary_extend plainEnd fun _ => hends).primary_alike tagEnd hsame
  obtain ⟨value', next', haccess', hvalueSame, hnextSame⟩ :=
    (haccess.accessTail_extend plainEnd fun _ => hends).accessTail_alike tagEnd
      hmiddleSame.symm hheadSame.symm
  refine ⟨value', next', ⟨head', middle', hhead', haccess'⟩, hvalueSame.trans hvalue, ?_⟩
  rw [hnextSame, Cursor.kinds_extend, hnext, List.nil_append]

end TemplateVariables
