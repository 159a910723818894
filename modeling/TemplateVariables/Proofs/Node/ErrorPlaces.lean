import TemplateVariables.Proofs.Expr.ErrorPlaces
import TemplateVariables.Proofs.Node.Nesting

/-!
# Where errors in tags point

The readers of a tag point to one of its lexemes, to the end behind them, to the whole tag,
or to an expression that should have been a call.  Only a tag that does not close the
innermost block is reported with a second place: the opener of this block, which stands in
front of it.
-/

namespace TemplateVariables

open Text

variable {source : List Char} {high : Nat} (hlimit : byteLength source ≤ Span.limit)

/-! ## Places of a tag -/

/-- The tag and the end behind its lexemes are places of the source, and its lexemes stand in
a row between the ends of the tag. -/
structure Tag.Fits (source : List Char) (tag : Tag) : Prop where
  span : tag.span.Fits source
  endSpan : tag.endSpan.Fits source
  marks : ∀ lexeme ∈ tag.lexemes, lexeme.span.Marks source
  inOrder : Span.InOrder tag.span.start.toNat (tag.lexemes.map Lexeme.span) tag.span.stop

include hlimit in
theorem Tag.Written.endSpan_fits {tag : Tag} {start stop : Nat}
    (hwritten : tag.Written source start stop) : tag.endSpan.Fits source := by
  obtain ⟨hmarks, hinOrder⟩ := hwritten.inOrder hlimit
  obtain ⟨first, hfirst, -, -, hinside⟩ := hwritten.inside
  apply Span.fits_point hlimit
  rw [hinside]
  cases hlexemes : tag.lexemes with
  | nil =>
      have hle := hfirst.le
      change Edge source (Span.ofBounds first first).stop
      rwa [Span.stop_ofBounds (Nat.le_refl first) (by omega)]
  | cons lexeme lexemes =>
      rw [hlexemes] at hmarks hinOrder
      let last := (lexeme :: lexemes).getLast (List.cons_ne_nil _ _)
      have hmem : last ∈ lexeme :: lexemes := List.getLast_mem _
      have hlast := (hmarks last hmem).edge_stop hlimit
      have hlastOrder : Span.InOrder lexeme.span.start.toNat
          ((lexeme :: lexemes).map Lexeme.span) tag.span.stop := ⟨Nat.le_refl _, hinOrder.2⟩
      have hstart := (hlastOrder.bounds_of_mem (List.mem_map_of_mem hmem)).1
      have hlastLe := last.span.start_le_stop
      have hle := hlast.le
      rw [List.getLast?_eq_some_getLast (List.cons_ne_nil lexeme lexemes)]
      change Edge source (Span.ofBounds lexeme.span.start.toNat last.span.stop).stop
      rwa [Span.stop_ofBounds (by omega) (by omega)]

include hlimit in
theorem Tag.Written.fits {tag : Tag} {start stop : Nat}
    (hwritten : tag.Written source start stop) : tag.Fits source := by
  obtain ⟨hmarks, hinOrder⟩ := hwritten.inOrder hlimit
  have hspan :=
    (Span.marks_ofBounds hlimit hwritten.edge_start hwritten.edge_stop hwritten.lt).1.fits hlimit
  rw [← hwritten.span] at hspan
  exact ⟨hspan, hwritten.endSpan_fits hlimit, hmarks, hinOrder⟩

theorem Tag.Fits.arguments {tag : Tag} (htag : tag.Fits source) :
    tag.arguments.Laid source tag.span.stop := by
  have hinOrder := htag.inOrder.tail
  rw [← List.map_tail] at hinOrder
  exact Cursor.laid_ofLexemes
    (fun lexeme hlexeme => htag.marks lexeme (List.mem_of_mem_tail hlexeme)) hinOrder

/-! ## Readers of the parts of statements -/

namespace Statement

section Readers

variable {tagEnd : Span} (htagEnd : tagEnd.Fits source)

include hlimit

theorem skipWord_laid (word : String) {cursor : Cursor} (hlaid : cursor.Laid source high) :
    (skipWord word cursor).next.Laid source high :=
  hlaid.advances hlimit (skipWord_takes default word cursor).advances

theorem skipContext_laid {cursor : Cursor} (hlaid : cursor.Laid source high) :
    (skipContext cursor).next.Laid source high :=
  hlaid.advances hlimit (skipContext_takes default cursor).advances

include htagEnd

theorem TargetsFail.fits {cursor : Cursor} {error : ParseError} (hlaid : cursor.Laid source high)
    (hfail : TargetsFail tagEnd cursor error) : error.Fits source := by
  cases hfail with
  | name hplace hname =>
      have hplaceLaid := hlaid.advances hlimit hplace
      exact (Cursor.expectName_stays hlimit htagEnd hplaceLaid _).of_error _ hname
  | reserved hplace hname =>
      have hmarks := (hlaid.advances hlimit hplace).marks_of_next? (Cursor.next?_of_name? hname)
      exact ⟨hmarks.fits hlimit, rfl⟩
  | unclosed houtside hopen hplace hclose =>
      have houtsideLaid := hlaid.advances hlimit houtside
      have hopened := (houtsideLaid.marks_of_next? (Cursor.next?_of_take? hopen)).fits hlimit
      have hplaceLaid :=
        houtsideLaid.advances hlimit ((Cursor.advances_of_take? hopen).trans hplace)
      exact (Cursor.expectInside_stays hlimit htagEnd hplaceLaid _ hopened _).of_error _ hclose

theorem readTargets_stays {cursor : Cursor} (hlaid : cursor.Laid source high) :
    Stays source high (readTargets tagEnd cursor) :=
  (readTargets_follows tagEnd cursor).mono
    (fun _ hreads => hlaid.advances hlimit hreads.advances)
    (fun _ hfail => hfail.fits hlimit htagEnd hlaid)

theorem readSetTargets_stays {cursor : Cursor} (hlaid : cursor.Laid source high) :
    Stays source high (readSetTargets tagEnd cursor) := by
  have hnames : Stays source high
      (readTargets tagEnd cursor >>= fun step =>
        .ok ⟨step.value.map .name, step.next, step.shorter⟩ :
          Reading (List SetTarget) cursor.size) := by
    apply (readTargets_stays hlimit htagEnd hlaid).bind
    rintro ⟨names, next, hnext⟩ hlaid
    exact Settles.ok hlaid
  unfold readSetTargets
  cases hname : cursor.name? with
  | none => exact hnames
  | some step =>
      obtain ⟨⟨space, span⟩, afterSpace, hspace⟩ := step
      cases hdot : afterSpace.take? (.punct .dot) with
      | none =>
          simp only [hdot]
          exact hnames
      | some step =>
          obtain ⟨_, afterDot, hafterDot⟩ := step
          have hafter := (hlaid.advances hlimit (Cursor.advances_of_name? hname)).advances hlimit
            (Cursor.advances_of_take? hdot)
          simp only [hdot]
          apply (Cursor.expectName_stays hlimit htagEnd hafter .attributeName).bind
          rintro ⟨⟨name, _⟩, next, hnext⟩ hattribute
          exact Settles.ok hattribute

theorem readParameter_stays {cursor : Cursor} (hlaid : cursor.Laid source high) :
    Stays source high (readParameter tagEnd cursor) := by
  unfold readParameter
  apply (Cursor.expectName_stays hlimit htagEnd hlaid .parameter).bind
  rintro ⟨⟨name, _⟩, afterName, hafterName⟩ hname
  dsimp only
  split
  · exact Settles.ok hname
  · next hassign =>
      have hafter := hname.advances hlimit (Cursor.advances_of_take? hassign)
      apply (Expr.read_stays hlimit htagEnd .full hafter).bind
      rintro ⟨value, next, hnext⟩ hvalue
      exact Settles.ok hvalue

theorem readParametersTail_stays {cursor : Cursor} (hlaid : cursor.Laid source high) :
    Stays source high (readParametersTail tagEnd cursor) := by
  rw [readParametersTail]
  split
  · next hclose => exact Settles.ok (hlaid.advances hlimit (Cursor.advances_of_take? hclose))
  apply (Cursor.expect_stays hlimit htagEnd hlaid (.punct .comma)).bind
  rintro ⟨_, afterComma, hafterComma⟩ hcomma
  dsimp only
  split
  · next hclose => exact Settles.ok (hcomma.advances hlimit (Cursor.advances_of_take? hclose))
  apply (readParameter_stays hlimit htagEnd hcomma).bind
  rintro ⟨first, afterFirst, hafterFirst⟩ (hfirst : afterFirst.Laid source high)
  apply (readParametersTail_stays hfirst).bind
  rintro ⟨others, next, hnext⟩ hothers
  exact Settles.ok hothers
termination_by cursor.size
decreasing_by exact Cursor.lt_trans hafterComma hafterFirst

theorem readParameters_stays {cursor : Cursor} (hlaid : cursor.Laid source high) :
    Stays source high (readParameters tagEnd cursor) := by
  unfold readParameters
  apply (Cursor.expect_stays hlimit htagEnd hlaid (.punct .lparen)).bind
  rintro ⟨_, inside, hinside⟩ hopen
  dsimp only
  split
  · next hclose => exact Settles.ok (hopen.advances hlimit (Cursor.advances_of_take? hclose))
  apply (readParameter_stays hlimit htagEnd hopen).bind
  rintro ⟨first, afterFirst, hafterFirst⟩ hfirst
  apply (readParametersTail_stays hlimit htagEnd hfirst).bind
  rintro ⟨others, next, hnext⟩ hothers
  exact Settles.ok hothers

theorem readBinding_stays {cursor : Cursor} (hlaid : cursor.Laid source high) :
    Stays source high (readBinding tagEnd cursor) := by
  unfold readBinding
  apply (Cursor.expectName_stays hlimit htagEnd hlaid .variableName).bind
  rintro ⟨⟨name, _⟩, afterName, hafterName⟩ hname
  apply (Cursor.expect_stays hlimit htagEnd hname (.punct .assign)).bind
  rintro ⟨_, afterAssign, hafterAssign⟩ hassign
  apply (Expr.read_stays hlimit htagEnd .full hassign).bind
  rintro ⟨value, next, hnext⟩ hvalue
  exact Settles.ok hvalue

theorem readBindingsTail_points {cursor : Cursor} (hlaid : cursor.Laid source high) :
    Points source (readBindingsTail tagEnd cursor) := by
  rw [readBindingsTail]
  split
  · exact Settles.ok trivial
  apply (Cursor.expect_stays hlimit htagEnd hlaid (.punct .comma)).bind
  rintro ⟨_, afterComma, hafterComma⟩ hcomma
  apply (readBinding_stays hlimit htagEnd hcomma).bind
  rintro ⟨first, afterFirst, hafterFirst⟩ (hfirst : afterFirst.Laid source high)
  apply (readBindingsTail_points hfirst).bind
  intro others _
  exact Settles.ok trivial
termination_by cursor.size
decreasing_by exact Cursor.lt_trans hafterComma hafterFirst

theorem readBindings_points {cursor : Cursor} (hlaid : cursor.Laid source high) :
    Points source (readBindings tagEnd cursor) := by
  unfold readBindings
  split
  · exact Settles.ok trivial
  apply (readBinding_stays hlimit htagEnd hlaid).bind
  rintro ⟨first, afterFirst, hafterFirst⟩ hfirst
  apply (readBindingsTail_points hlimit htagEnd hfirst).bind
  intro others _
  exact Settles.ok trivial

theorem readFilters_stays {cursor : Cursor} (hlaid : cursor.Laid source high) :
    Stays source high (readFilters tagEnd cursor) := by
  rw [readFilters]
  cases hbar : cursor.take? (.punct .pipe) with
  | none => exact Settles.ok hlaid
  | some step =>
      obtain ⟨_, afterBar, hafterBar⟩ := step
      have hafter := hlaid.advances hlimit (Cursor.advances_of_take? hbar)
      apply (Expr.readFilter_stays hlimit htagEnd hafter).bind
      rintro ⟨first, afterFirst, hafterFirst⟩ (hfirst : afterFirst.Laid source high)
      apply (readFilters_stays hfirst).bind
      rintro ⟨others, next, hnext⟩ hothers
      exact Settles.ok hothers
termination_by cursor.size
decreasing_by exact Cursor.lt_trans hafterBar hafterFirst

theorem readImportedName_stays {cursor : Cursor} (hlaid : cursor.Laid source high) :
    Stays source high (readImportedName tagEnd cursor) := by
  unfold readImportedName
  apply (Cursor.expectName_stays hlimit htagEnd hlaid .importedName).bind
  rintro ⟨⟨name, _⟩, afterName, hafterName⟩ hname
  dsimp only
  split
  · exact Settles.ok hname
  · next has =>
      have hafter := hname.advances hlimit (Cursor.advances_of_take? has)
      apply (Cursor.expectName_stays hlimit htagEnd hafter .importAlias).bind
      rintro ⟨⟨other, _⟩, next, hnext⟩ hother
      exact Settles.ok hother

theorem readImportedNames_stays {cursor : Cursor} (hlaid : cursor.Laid source high) :
    Stays source high (readImportedNames tagEnd cursor) := by
  rw [readImportedNames]
  split
  · exact Settles.ok hlaid
  apply (readImportedName_stays hlimit htagEnd hlaid).bind
  rintro ⟨first, afterFirst, hafterFirst⟩ (hfirst : afterFirst.Laid source high)
  cases hcomma : afterFirst.take? (.punct .comma) with
  | none =>
      simp only [hcomma]
      exact Settles.ok hfirst
  | some step =>
      obtain ⟨_, afterComma, hafterComma⟩ := step
      have hafter := hfirst.advances hlimit (Cursor.advances_of_take? hcomma)
      simp only [hcomma]
      apply (readImportedNames_stays hafter).bind
      rintro ⟨others, next, hnext⟩ hothers
      exact Settles.ok hothers
termination_by cursor.size
decreasing_by exact Cursor.lt_trans hafterFirst hafterComma

end Readers

/-! ## Statements -/

section Tags

variable {tag : Tag} (htag : tag.Fits source)

include hlimit htag

/-- The argument that a tag should not have is one of its lexemes. -/
theorem noArguments_fits (name : String) : (tag.noArguments name).Fits source := by
  refine ⟨?_, rfl⟩
  change Span.Fits source ((tag.lexemes[1]?.map (·.span)).getD tag.span)
  cases hsecond : tag.lexemes[1]? with
  | none => exact htag.span
  | some lexeme => exact (htag.marks lexeme (List.mem_of_getElem? hsecond)).fits hlimit

theorem expectBare_points : Points source tag.expectBare := by
  unfold Tag.expectBare
  split
  · exact Settles.error (noArguments_fits hlimit htag _)
  · exact Settles.ok trivial

theorem condition_points : Points source tag.condition := by
  unfold Tag.condition
  apply (Expr.readTuple_stays hlimit htag.endSpan (.above 0) htag.arguments).bind
  rintro ⟨condition, next, hnext⟩ hcondition
  apply (Cursor.expectEnd_points hlimit hcondition).bind
  intro _ _
  exact Settles.ok trivial

theorem readIf_points : Points source (readIf tag) := by
  apply (condition_points hlimit htag).bind
  intro condition _
  exact Settles.ok trivial

theorem readLoop_points : Points source (readLoop tag) := by
  apply (readTargets_stays hlimit htag.endSpan htag.arguments).bind
  rintro ⟨names, afterNames, hafterNames⟩ hnames
  apply (Cursor.expect_stays hlimit htag.endSpan hnames (.name "in")).bind
  rintro ⟨_, afterIn, hafterIn⟩ hin
  apply (Expr.readTuple_stays hlimit htag.endSpan (.above 0) hin).bind
  rintro ⟨iterable, afterIterable, hafterIterable⟩ hiterable
  cases hif : afterIterable.take? (.name "if") with
  | none =>
      simp only [hif]
      apply (Cursor.expectEnd_points hlimit (skipWord_laid hlimit "recursive" hiterable)).bind
      intro _ _
      exact Settles.ok trivial
  | some step =>
      have hafter := hiterable.advances hlimit (Cursor.advances_of_take? hif)
      simp only [hif]
      apply (Expr.read_stays hlimit htag.endSpan .full hafter).bind
      rintro ⟨condition, afterCondition, hafterCondition⟩ hcondition
      apply (Cursor.expectEnd_points hlimit (skipWord_laid hlimit "recursive" hcondition)).bind
      intro _ _
      exact Settles.ok trivial

theorem readSet_points : Points source (readSet tag) := by
  apply (readSetTargets_stays hlimit htag.endSpan htag.arguments).bind
  rintro ⟨targets, afterTargets, hafterTargets⟩ htargets
  cases hassign : afterTargets.take? (.punct .assign) with
  | some step =>
      have hafter := htargets.advances hlimit (Cursor.advances_of_take? hassign)
      simp only [hassign]
      apply (Expr.readTuple_stays hlimit htag.endSpan .full hafter).bind
      rintro ⟨value, next, hnext⟩ hvalue
      apply (Cursor.expectEnd_points hlimit hvalue).bind
      intro _ _
      exact Settles.ok trivial
  | none =>
      simp only [hassign]
      rcases targets with _ | ⟨⟨name⟩ | ⟨space, name⟩, _ | ⟨target, targets⟩⟩
      case cons.name.nil =>
        apply (readFilters_stays hlimit htag.endSpan htargets).bind
        rintro ⟨filters, next, hnext⟩ hfilters
        apply (Cursor.expectEnd_points hlimit hfilters).bind
        intro _ _
        exact Settles.ok trivial
      all_goals exact Settles.invalid htag.endSpan _

theorem readMacro_points : Points source (readMacro tag) := by
  apply (Cursor.expectName_stays hlimit htag.endSpan htag.arguments .macroName).bind
  rintro ⟨⟨name, _⟩, afterName, hafterName⟩ hname
  apply (readParameters_stays hlimit htag.endSpan hname).bind
  rintro ⟨params, next, hnext⟩ hparams
  apply (Cursor.expectEnd_points hlimit hparams).bind
  intro _ _
  exact Settles.ok trivial

/-- What should have been a call is an expression of the tag. -/
theorem readBlockCall_points (params : List Parameter) {cursor : Cursor}
    (hlaid : cursor.Laid source high) : Points source (readBlockCall tag params cursor) := by
  have hread : Settles (Expr.read tag.endSpan .full cursor)
      (fun step => step.next.Laid source high ∧ step.value.span.Fits source)
      (ParseError.Fits source) := by
    have hstays := Expr.read_stays hlimit htag.endSpan .full hlaid
    refine ⟨fun step hstep => ⟨hstays.of_ok step hstep, ?_⟩, hstays.of_error⟩
    have hreads := (Expr.read_follows tag.endSpan .full cursor).of_ok step hstep
    have hrow : Subtree.Row source cursor.lastStop [.expr step.value] step.next.lastStop :=
      hreads.nests hlimit hlaid hlaid.behind
    exact hrow.single.1.fits hlimit
  apply hread.bind
  rintro ⟨call, next, hnext⟩ ⟨hcall, hspan⟩
  cases call with
  | call callee args span =>
      apply (Cursor.expectEnd_points hlimit hcall).bind
      intro _ _
      exact Settles.ok trivial
  | _ => exact Settles.invalid hspan _

theorem readCall_points : Points source (readCall tag) := by
  unfold readCall
  split
  · apply (readParameters_stays hlimit htag.endSpan htag.arguments).bind
    rintro ⟨params, afterParams, hafterParams⟩ hparams
    exact readBlockCall_points hlimit htag params hparams
  · exact readBlockCall_points hlimit htag [] htag.arguments

theorem readWith_points : Points source (readWith tag) := by
  apply (readBindings_points hlimit htag.endSpan htag.arguments).bind
  intro bindings _
  exact Settles.ok trivial

theorem readFilterBlock_points : Points source (readFilterBlock tag) := by
  apply (Expr.readFilter_stays hlimit htag.endSpan htag.arguments).bind
  rintro ⟨first, afterFirst, hafterFirst⟩ hfirst
  apply (readFilters_stays hlimit htag.endSpan hfirst).bind
  rintro ⟨others, next, hnext⟩ hothers
  apply (Cursor.expectEnd_points hlimit hothers).bind
  intro _ _
  exact Settles.ok trivial

theorem readBlock_points : Points source (readBlock tag) := by
  apply (Cursor.expectName_stays hlimit htag.endSpan htag.arguments .blockName).bind
  rintro ⟨⟨name, _⟩, afterName, hafterName⟩ hname
  have hscoped := skipWord_laid hlimit "scoped" hname
  apply (Cursor.expectEnd_points hlimit (skipWord_laid hlimit "required" hscoped)).bind
  intro _ _
  exact Settles.ok trivial

theorem readExtends_points : Points source (readExtends tag) := by
  apply (Expr.read_stays hlimit htag.endSpan .full htag.arguments).bind
  rintro ⟨template, next, hnext⟩ htemplate
  apply (Cursor.expectEnd_points hlimit htemplate).bind
  intro _ _
  exact Settles.ok trivial

theorem readInclude_points : Points source (readInclude tag) := by
  apply (Expr.read_stays hlimit htag.endSpan .full htag.arguments).bind
  rintro ⟨template, afterTemplate, hafterTemplate⟩ htemplate
  cases hignore : afterTemplate.take? (.name "ignore") with
  | none =>
      simp only [hignore]
      apply (Cursor.expectEnd_points hlimit (skipContext_laid hlimit htemplate)).bind
      intro _ _
      exact Settles.ok trivial
  | some step =>
      have hafter := htemplate.advances hlimit (Cursor.advances_of_take? hignore)
      simp only [hignore]
      apply (Cursor.expect_stays hlimit htag.endSpan hafter (.name "missing")).bind
      rintro ⟨_, afterMissing, hafterMissing⟩ hmissing
      apply (Cursor.expectEnd_points hlimit (skipContext_laid hlimit hmissing)).bind
      intro _ _
      exact Settles.ok trivial

theorem readImport_points : Points source (readImport tag) := by
  apply (Expr.read_stays hlimit htag.endSpan .full htag.arguments).bind
  rintro ⟨template, afterTemplate, hafterTemplate⟩ htemplate
  apply (Cursor.expect_stays hlimit htag.endSpan htemplate (.name "as")).bind
  rintro ⟨_, afterAs, hafterAs⟩ has
  apply (Cursor.expectName_stays hlimit htag.endSpan has .importAlias).bind
  rintro ⟨⟨name, _⟩, afterName, hafterName⟩ hname
  apply (Cursor.expectEnd_points hlimit (skipContext_laid hlimit hname)).bind
  intro _ _
  exact Settles.ok trivial

theorem readFrom_points : Points source (readFrom tag) := by
  apply (Expr.read_stays hlimit htag.endSpan .full htag.arguments).bind
  rintro ⟨template, afterTemplate, hafterTemplate⟩ htemplate
  apply (Cursor.expect_stays hlimit htag.endSpan htemplate (.name "import")).bind
  rintro ⟨_, afterImport, hafterImport⟩ himport
  apply (readImportedNames_stays hlimit htag.endSpan himport).bind
  rintro ⟨names, afterNames, hafterNames⟩ hnames
  cases names with
  | nil => exact Settles.invalid htag.endSpan _
  | cons name names =>
      apply (Cursor.expectEnd_points hlimit (skipContext_laid hlimit hnames)).bind
      intro _ _
      exact Settles.ok trivial

theorem readDo_points : Points source (readDo tag) := by
  apply (Expr.readTuple_stays hlimit htag.endSpan .full htag.arguments).bind
  rintro ⟨expr, next, hnext⟩ hexpr
  apply (Cursor.expectEnd_points hlimit hexpr).bind
  intro _ _
  exact Settles.ok trivial

theorem ofTag_points (word : String) : Points source (ofTag tag word) := by
  unfold ofTag
  split
  · exact readIf_points hlimit htag
  · exact readLoop_points hlimit htag
  · exact readSet_points hlimit htag
  · exact readMacro_points hlimit htag
  · exact readCall_points hlimit htag
  · exact readWith_points hlimit htag
  · exact readFilterBlock_points hlimit htag
  · exact readBlock_points hlimit htag
  · exact readExtends_points hlimit htag
  · exact readInclude_points hlimit htag
  · exact readImport_points hlimit htag
  · exact readFrom_points hlimit htag
  · exact readDo_points hlimit htag
  · apply (expectBare_points hlimit htag).bind
    intro _ _
    exact Settles.ok trivial
  · apply (expectBare_points hlimit htag).bind
    intro _ _
    exact Settles.ok trivial
  · exact Settles.error (noArguments_fits hlimit htag _)
  · exact Settles.error ⟨htag.span, rfl⟩

theorem expectName_points : Points source tag.expectName := by
  unfold Tag.expectName
  split
  · exact Settles.error ⟨htag.span, rfl⟩
  · exact Settles.ok trivial
  · next lexeme others _ hlexemes =>
      have hmem : lexeme ∈ tag.lexemes := by
        rw [hlexemes]
        exact List.mem_cons_self
      exact Settles.invalid ((htag.marks lexeme hmem).fits hlimit) _

theorem expressionNode_points : Points source (Parser.expressionNode tag) := by
  unfold Parser.expressionNode
  split
  · exact Settles.error ⟨htag.span, rfl⟩
  have hread : Points source (Expr.ofLexemes tag.lexemes tag.endSpan) := by
    unfold Expr.ofLexemes
    apply (Expr.readTuple_stays hlimit htag.endSpan .full
      (Cursor.laid_ofLexemes htag.marks htag.inOrder)).bind
    rintro ⟨value, next, hnext⟩ hvalue
    apply (Cursor.expectEnd_points hlimit hvalue).bind
    intro _ _
    exact Settles.ok trivial
  apply hread.bind
  intro expr _
  exact Settles.ok trivial

end Tags

end Statement

/-! ## Tags among open blocks -/

/-- The error points to a place of the source that is not in front of the offset.  A second
place is the opener of an open block. -/
structure ParseError.Blames (source : List Char) (blocks : List OpenBlock) (low : Nat)
    (error : ParseError) : Prop where
  span : error.span.Fits source
  related : ∀ opener ∈ error.relatedSpan,
    (∃ block ∈ blocks, block.span = opener) ∧ low ≤ error.span.start.toNat

theorem ParseError.Fits.blames {error : ParseError} (herror : error.Fits source)
    (blocks : List OpenBlock) (low : Nat) : error.Blames source blocks low where
  span := herror.span
  related := by
    rw [herror.alone]
    rintro opener ⟨⟩

namespace OpenBlock

variable {tag : Tag} (htag : tag.Fits source) (block : OpenBlock) (below : List OpenBlock)

theorem blames_mismatched {span : Span} (hspan : span.Fits source)
    (hlow : tag.span.start.toNat ≤ span.start.toNat) (word expected opener : String) :
    (ParseError.mismatchedTag word expected opener block.span span).Blames source
      (block :: below) tag.span.start.toNat where
  span := hspan
  related := by
    rintro _ ⟨⟩
    exact ⟨⟨block, List.mem_cons_self, rfl⟩, hlow⟩

include hlimit htag

theorem expectRepeatedName_blames (name : String) :
    Settles (Parser.expectRepeatedName block.toOpenTag name tag) (fun _ => True)
      (ParseError.Blames source (block :: below) tag.span.start.toNat) := by
  unfold Parser.expectRepeatedName
  split
  · exact Settles.ok trivial
  · next lexeme next hsize hnext =>
      split
      · have hend := Cursor.expectEnd_points hlimit (htag.arguments.step hnext hlimit)
        exact hend.mono (fun _ _ => trivial) (fun error herror => herror.blames _ _)
      · have hmem : lexeme ∈ tag.lexemes := by
          have hrest := (Cursor.rest_of_next? hnext).1
          apply List.mem_of_mem_tail
          change lexeme ∈ tag.arguments.rest
          rw [hrest]
          exact List.mem_cons_self
        have hspan := (htag.marks lexeme hmem).fits hlimit
        have hlow := (htag.inOrder.bounds_of_mem (List.mem_map_of_mem hmem)).1
        exact Settles.error (blames_mismatched block below hspan hlow _ _ _)

theorem close_blames (body : List Node) :
    Settles (block.close below body tag) (fun _ => True)
      (ParseError.Blames source (block :: below) tag.span.start.toNat) := by
  have hweaken {α : Type} {reading : Except ParseError α} (hreading : Points source reading) :
      Settles reading (fun _ => True)
        (ParseError.Blames source (block :: below) tag.span.start.toNat) :=
    hreading.mono (fun _ _ => trivial) (fun error herror => herror.blames _ _)
  have hbare := hweaken (Statement.expectBare_points hlimit htag)
  unfold OpenBlock.close
  cases hunfinished : block.unfinished with
  | branch earlier condition =>
      dsimp only
      split
      · apply (hweaken (Statement.condition_points hlimit htag)).bind
        intro next _
        exact Settles.ok trivial
      · apply hbare.bind
        intro _ _
        split <;> exact Settles.ok trivial
  | otherwise branches =>
      apply hbare.bind
      intro _ _
      exact Settles.ok trivial
  | loop names iterable condition recursive =>
      apply hbare.bind
      intro _ _
      split <;> exact Settles.ok trivial
  | loopOtherwise names iterable condition recursive first =>
      apply hbare.bind
      intro _ _
      exact Settles.ok trivial
  | plain header =>
      have hend : Settles (Parser.expectPlainEnd block.toOpenTag header tag) (fun _ => True)
          (ParseError.Blames source (block :: below) tag.span.start.toNat) := by
        unfold Parser.expectPlainEnd
        split
        · exact expectRepeatedName_blames hlimit htag block below _
        · exact hbare
      apply hend.bind
      intro _ _
      exact Settles.ok trivial

end OpenBlock

namespace Building

include hlimit

theorem statement_blames {tag : Tag} (htag : tag.Fits source) (blocks : List OpenBlock)
    (word : String) :
    Settles (Parser.statement (blocks.map OpenBlock.toOpenTag) word tag) (fun _ => True)
      (ParseError.Blames source blocks tag.span.start.toNat) := by
  have hweaken {error : ParseError} (herror : error.Fits source) :
      error.Blames source blocks tag.span.start.toNat := herror.blames _ _
  unfold Parser.statement
  split
  · cases blocks with
    | nil => exact Settles.error (hweaken ⟨htag.span, rfl⟩)
    | cons block below =>
        exact Settles.error
          (block.blames_mismatched below htag.span (Nat.le_refl _) _ _ _)
  split
  · exact Settles.error (hweaken ⟨htag.span, rfl⟩)
  · exact (Statement.ofTag_points hlimit htag word).mono (fun _ _ => trivial)
      (fun error herror => hweaken herror)

theorem blockTag_blames {tag : Tag} (htag : tag.Fits source) (building : Building) :
    Settles (building.blockTag tag) (fun _ => True)
      (ParseError.Blames source building.blocks tag.span.start.toNat) := by
  cases hname : tag.expectName with
  | error error =>
      rw [blockTag_of_error hname]
      have herror := (Statement.expectName_points hlimit htag).of_error error hname
      exact Settles.error (herror.blames _ _)
  | ok word =>
      by_cases hword : word ∈ building.awaited
      · obtain ⟨_ | ⟨block, below⟩, nodes⟩ := building
        · exact absurd hword List.not_mem_nil
        rw [blockTag_of_mem hname hword]
        exact block.close_blames hlimit htag below nodes
      · rw [blockTag_of_not_mem hname hword]
        apply (statement_blames hlimit htag building.blocks word).bind
        intro statement _
        exact Settles.ok trivial

/-- A token that is not accepted points to itself, and to an open block at most. -/
theorem step_blames {token : Token} (htoken : ∀ tag ∈ token.tag?, tag.Fits source)
    (building : Building) :
    Settles (building.step token) (fun _ => True)
      (ParseError.Blames source building.blocks token.span.start.toNat) := by
  cases token with
  | expression tag =>
      have hnode := Statement.expressionNode_points hlimit (htoken tag rfl)
      apply Settles.bind (hnode.mono (fun _ _ => trivial) fun error herror => herror.blames _ _)
      intro node _
      exact Settles.ok trivial
  | block tag => exact blockTag_blames hlimit (htoken tag rfl) building
  | _ => exact Settles.ok trivial

end Building

end TemplateVariables
