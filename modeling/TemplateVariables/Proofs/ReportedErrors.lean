import TemplateVariables.Diagnostic
import TemplateVariables.Proofs.Node.ErrorPlaces
import TemplateVariables.Proofs.Token.ErrorPlaces

/-!
# Where reported errors point

An error of a template points into its source, and so does the opener that it may point to
as well.  So a diagnostic highlights the spans of the error as they are: they are cut at the
end of the source, but nothing of them lies behind it.
-/

namespace TemplateVariables

open Text

variable {source : List Char} {tokens body : List Token} {start stop : Nat}

/-! ## Openers -/

/-- Every open block was opened by a block tag that begins in front of the offset. -/
def Building.OpenedIn (source : List Char) (tokens : List Token) (stop : Nat)
    (building : Building) : Prop :=
  ∀ block ∈ building.blocks, block.span.Fits source ∧ block.span.start.toNat < stop ∧
    ∃ tag, .block tag ∈ tokens ∧ tag.span = block.span

namespace Building

theorem OpenedIn.mono_high {building : Building} (hopened : building.OpenedIn source tokens start)
    (hle : start ≤ stop) : building.OpenedIn source tokens stop := by
  intro block hblock
  obtain ⟨hfits, hlt, htag⟩ := hopened block hblock
  exact ⟨hfits, Nat.lt_of_lt_of_le hlt hle, htag⟩

variable (hlimit : byteLength source ≤ Span.limit)

include hlimit

theorem Steps.openedIn {token : Token} {building next : Building}
    (hstep : Steps token building next) (hopened : building.OpenedIn source tokens stop)
    (htoken : token ∈ tokens) (hmarks : token.span.Marks source)
    (hle : stop ≤ token.span.start.toNat) : next.OpenedIn source tokens token.span.stop := by
  have hlt := hmarks.start_lt_stop hlimit
  have hopened := hopened.mono_high (Nat.le_trans hle (Nat.le_of_lt hlt))
  cases hstep with
  | add => exact hopened
  | @opens _ block tag htag _ hspan =>
      refine List.forall_mem_cons.2 ⟨?_, hopened⟩
      rw [hspan]
      refine ⟨hmarks.fits hlimit, hlt, tag, htag ▸ htoken, ?_⟩
      rw [htag]
      rfl
  | divide =>
      obtain ⟨hblock, hbelow⟩ := List.forall_mem_cons.1 hopened
      exact List.forall_mem_cons.2 ⟨hblock, hbelow⟩
  | complete => exact (List.forall_mem_cons.1 hopened).2

end Building

/-! ## Errors -/

/-- The error points to a place of the source, and a second place is a block tag in front of
the first. -/
structure ParseError.Located (source : List Char) (tokens : List Token) (error : ParseError) :
    Prop where
  span : error.span.Fits source
  related : ∀ opener ∈ error.relatedSpan, opener.Fits source ∧
    opener.start.toNat < error.span.start.toNat ∧ ∃ tag, .block tag ∈ tokens ∧ tag.span = opener

theorem ParseError.Blames.located {error : ParseError} {building : Building}
    (herror : error.Blames source building.blocks start)
    (hopened : building.OpenedIn source tokens stop) (hle : stop ≤ start) :
    error.Located source tokens where
  span := herror.span
  related := by
    intro opener hopener
    obtain ⟨⟨block, hblock, rfl⟩, hstart⟩ := herror.related opener hopener
    obtain ⟨hfits, hlt, htag⟩ := hopened block hblock
    exact ⟨hfits, by omega, htag⟩

theorem ParseError.Fits.located {error : ParseError} (herror : error.Fits source)
    (tokens : List Token) : error.Located source tokens where
  span := herror.span
  related := by
    rw [herror.alone]
    rintro opener ⟨⟩

namespace Building

variable (hlimit : byteLength source ≤ Span.limit)

theorem finish_located {building : Building} (hopened : building.OpenedIn source tokens stop) :
    Settles building.finish (fun _ => True) (ParseError.Located source tokens) := by
  obtain ⟨_ | ⟨block, below⟩, nodes⟩ := building
  · exact Settles.ok trivial
  · have hfits := (hopened block List.mem_cons_self).1
    exact Settles.error (ParseError.Fits.located ⟨hfits, rfl⟩ tokens)

include hlimit

/-- Tokens in a row give a tree, or an error at one of them. -/
theorem run_located (hbody : ∀ offset, .eof offset ∉ body) (hsub : body ⊆ tokens)
    (hwritten : ∀ token ∈ body, ∀ tag ∈ token.tag?, ∃ start stop, tag.Written source start stop)
    {previous : Token.Previous} (hlayout : Token.Layout source previous stop body)
    {building : Building} (hopened : building.OpenedIn source tokens stop) (offset : UInt32) :
    Settles (building.run (body ++ [.eof offset])) (fun _ => True)
      (ParseError.Located source tokens) := by
  induction body generalizing building previous stop with
  | nil => exact finish_located hopened
  | cons token rest ih =>
      have htoken : ∀ offset, token ≠ .eof offset := fun offset heq =>
        hbody offset (heq ▸ List.mem_cons_self)
      have hrest : ∀ offset, .eof offset ∉ rest := fun offset hmem =>
        hbody offset (List.mem_cons_of_mem token hmem)
      obtain ⟨hhead, htail⟩ := List.forall_mem_cons.1 hwritten
      obtain ⟨hmem, hothers⟩ := List.cons_subset.1 hsub
      cases hlayout with
      | token hplaced hlayout =>
          have hmarks : token.span.Marks source := ⟨_, hplaced.written_ne_nil, hplaced.covers⟩
          have htag : ∀ tag ∈ token.tag?, tag.Fits source := by
            intro tag htag
            obtain ⟨start, stop, hwritten⟩ := hhead tag htag
            exact hwritten.fits hlimit
          rw [List.cons_append, run_cons htoken]
          cases hstep : building.step token with
          | error error =>
              have hblames := (step_blames hlimit htag building).of_error error hstep
              exact Settles.error (hblames.located hopened hplaced.start_le)
          | ok next =>
              have hsteps := (step_steps htoken building).of_ok next hstep
              exact ih hrest hothers htail hlayout
                (hsteps.openedIn hlimit hopened hmem hmarks hplaced.start_le)

end Building

/-! ## Reported errors -/

theorem Node.exists_located {error : ParseError} (hlimit : byteLength source ≤ Span.limit)
    (herror : Node.ofSource source = .error error) :
    error.Fits source ∨
      ∃ tokens, Token.ofChars source = .ok tokens ∧ error.Located source tokens := by
  have hsource : source = [] ++ source := rfl
  rw [Node.ofSource_eq_build] at herror
  split at herror
  · cases herror
  cases htokens : Token.ofChars source with
  | error failure =>
      rw [htokens] at herror
      cases herror
      exact .inl ((Token.ofCharsFrom_points hlimit hsource rfl).of_error _ htokens)
  | ok tokens =>
      rw [htokens] at herror
      obtain ⟨body, offset, rfl, hbody⟩ := Token.exists_body_of_ofCharsFrom htokens
      obtain ⟨body', hsplit, hlayout⟩ := (Token.place_start source).laysOut hlimit rfl htokens
      obtain ⟨rfl, -⟩ := List.append_inj' hsplit rfl
      obtain ⟨-, hwritten⟩ := Token.ofCharsFrom_written htokens hsource rfl
      have hopened : Building.empty.OpenedIn source (body ++ [.eof offset]) 0 :=
        List.forall_mem_nil _
      have hrun := Building.run_located hlimit hbody (List.subset_append_left _ _)
        (List.forall_mem_append.1 hwritten).1 hlayout hopened offset
      exact .inr ⟨_, rfl, hrun.of_error error herror⟩

theorem Span.within_bounds (span : Span) (length : Nat) :
    (span.within length).1 ≤ (span.within length).2 ∧ (span.within length).2 ≤ length := by
  unfold within
  dsimp only
  omega

theorem Span.Fits.within {span : Span} (hspan : span.Fits source) :
    span.within (byteLength source) = (span.start.toNat, span.stop) := by
  have hstart := hspan.start.le
  have hstop := hspan.stop.le
  have hle := span.start_le_stop
  unfold Span.within
  dsimp only
  rw [Nat.min_eq_left hstart, Nat.min_eq_left hstop, Nat.max_eq_right hle]

/-- The error of a template within the limit points between characters of its source.  Only a
tag that does not close the innermost block comes with a second place: a block tag of the
source that begins in front of it.  So a diagnostic marks both spans as they are; and whatever
span and source it is given, the part that it marks lies in the source. -/
theorem Node.ofSource_error_located (source : List Char) :
    (byteLength source < 2 ^ 32 → ∀ error, Node.ofSource source = .error error →
      (error.span.start.toNat ≤ error.span.stop ∧ error.span.stop ≤ byteLength source ∧
        Edge source error.span.start.toNat ∧ Edge source error.span.stop) ∧
      (error.relatedSpan.isSome = true ↔
        ∃ tag expected opener openerSpan span,
          error = .mismatchedTag tag expected opener openerSpan span) ∧
      (∀ opener ∈ error.relatedSpan, ∃ tokens tag, Token.ofChars source = .ok tokens ∧
        .block tag ∈ tokens ∧ tag.span = opener ∧
          opener.start.toNat < error.span.start.toNat) ∧
      ∀ path, ∀ highlight ∈ (Diagnostic.ofParseError source path error).highlights,
        highlight.span.within (byteLength source) =
          (highlight.span.start.toNat, highlight.span.stop)) ∧
    ∀ span : Span, (span.within (byteLength source)).1 ≤ (span.within (byteLength source)).2 ∧
      (span.within (byteLength source)).2 ≤ byteLength source := by
  refine ⟨fun hsize error herror => ?_, fun span => span.within_bounds _⟩
  have hlimit : byteLength source ≤ Span.limit := Nat.le_sub_one_of_lt hsize
  have hspan : error.span.Fits source := by
    obtain hfits | ⟨tokens, -, hlocated⟩ := Node.exists_located hlimit herror
    · exact hfits.span
    · exact hlocated.span
  have hrelated : ∀ opener ∈ error.relatedSpan, opener.Fits source ∧ ∃ tokens tag,
      Token.ofChars source = .ok tokens ∧ .block tag ∈ tokens ∧ tag.span = opener ∧
        opener.start.toNat < error.span.start.toNat := by
    intro opener hopener
    obtain hfits | ⟨tokens, htokens, hlocated⟩ := Node.exists_located hlimit herror
    · rw [hfits.alone] at hopener
      cases hopener
    · obtain ⟨hopener, hlt, tag, htag, heq⟩ := hlocated.related opener hopener
      exact ⟨hopener, tokens, tag, htokens, htag, heq, hlt⟩
  refine ⟨⟨error.span.start_le_stop, hspan.stop.le, hspan.start, hspan.stop⟩, ?_,
    fun opener hopener => (hrelated opener hopener).2, ?_⟩
  · cases error with
    | mismatchedTag tag expected opener openerSpan span =>
        exact ⟨fun _ => ⟨_, _, _, _, _, rfl⟩, fun _ => rfl⟩
    | _ => exact ⟨nofun, nofun⟩
  · intro path highlight hhighlight
    rcases List.mem_cons.1 hhighlight with rfl | hopened
    · exact hspan.within
    · obtain ⟨opener, hopener, rfl⟩ := List.mem_map.1 hopened
      exact (hrelated opener (Option.mem_toList.1 hopener)).1.within

/-- A tag that closes another block than the innermost one, behind a character of two bytes. -/
theorem Node.ofSource_error_located_mismatched :
    let source := "é\x7b% if a %\x7d\x7b% endfor %\x7d".toList
    let error : ParseError := .mismatchedTag "endfor" "endif" "if" ⟨2, 10⟩ ⟨12, 12⟩
    byteLength source < 2 ^ 32 ∧ Node.ofSource source = .error error ∧
      Edge source 12 ∧ Edge source 24 ∧
      (∃ tokens tag, Token.ofChars source = .ok tokens ∧ .block tag ∈ tokens ∧
        tag.span = ⟨2, 10⟩) ∧
      ∀ path, ∀ highlight ∈ (Diagnostic.ofParseError source path error).highlights,
        highlight.span.within 24 = (highlight.span.start.toNat, highlight.span.stop) := by
  intro source error
  have hsize : byteLength source < 2 ^ 32 := by decide +kernel
  have hfails : (Node.ofSource source).map (fun _ => ()) = .error error := by
    rw [Node.ofSource_eq_build]
    decide +kernel
  have herror : Node.ofSource source = .error error := by
    cases hread : Node.ofSource source with
    | ok nodes =>
        rw [hread] at hfails
        cases hfails
    | error found =>
        rw [hread] at hfails
        exact congrArg Except.error (Except.error.inj hfails)
  obtain ⟨⟨-, -, hstart, hstop⟩, -, hopener, hmarked⟩ :=
    (Node.ofSource_error_located source).1 hsize error herror
  obtain ⟨tokens, tag, htokens, htag, hspan, -⟩ := hopener ⟨2, 10⟩ rfl
  exact ⟨hsize, herror, hstart, hstop, ⟨tokens, tag, htokens, htag, hspan⟩, hmarked⟩

end TemplateVariables
