import TemplateVariables.Proofs.Token.Coverage
import TemplateVariables.Proofs.Token.Scanning
import Mathlib.Data.List.Chain

/-!
# Texts among the tokens

A plain run that is trimmed to nothing gives no token, so no text is empty.  A run goes on up to
the next opener, so what comes behind a text is not text again, whatever length the source has.
-/

namespace TemplateVariables

namespace Token

def isText : Token → Bool
  | .text .. => true
  | _ => false

/-- If the token is a text, then it is not empty. -/
def Filled : Token → Prop
  | .text content _ => content ≠ ""
  | _ => True

/-- No two neighbours are both texts. -/
def TextsApart (tokens : List Token) : Prop :=
  tokens.IsChain fun token next => token.isText = true → next.isText = false

theorem filled_of_not_text {token : Token} (htoken : token.isText = false) : token.Filled := by
  cases token with
  | text content span => cases htoken
  | _ => trivial

end Token

namespace Piece

variable {start : Nat} {trimsStart : Bool} {source : List Char} {piece : Piece}

/-- Where an opener stands, the piece gives a token that is no text. -/
theorem exists_token_of_delimiter (hdelimiter : Delimiter.ofChars? source ≠ none)
    (hpiece : ofChars start trimsStart source = .ok piece) :
    ∃ token, piece.token = some token ∧ token.isText = false := by
  unfold ofChars at hpiece
  split at hpiece
  · unfold comment at hpiece
    split at hpiece
    · cases hpiece
    · cases hpiece
      exact ⟨_, rfl, rfl⟩
  · obtain ⟨interior, -, hpiece⟩ := exists_of_bind_eq_ok hpiece
    dsimp only at hpiece
    split at hpiece
    · unfold raw at hpiece
      split at hpiece
      · cases hpiece
      · cases hpiece
        exact ⟨_, rfl, rfl⟩
    · cases hpiece
      refine ⟨_, rfl, ?_⟩
      split <;> rfl
  · next hnone => exact absurd hnone hdelimiter

/-- A plain run gives a text that is not empty, if any. -/
theorem filled_of_plain (hdelimiter : Delimiter.ofChars? source = none)
    (hpiece : ofChars start trimsStart source = .ok piece) :
    ∀ token ∈ piece.token, token.Filled := by
  unfold ofChars at hpiece
  rw [hdelimiter] at hpiece
  cases hpiece
  intro token htoken
  rw [text, Option.mem_def, Option.ite_none_left_eq_some] at htoken
  obtain ⟨hcontent, hsome⟩ := htoken
  cases hsome
  exact mt String.ofList_eq_empty_iff.1 hcontent

/-- Behind a plain run there is an opener, unless the source ends. -/
theorem delimiter_of_plain (hdelimiter : Delimiter.ofChars? source = none)
    (hpiece : ofChars start trimsStart source = .ok piece) (hrest : piece.rest ≠ []) :
    Delimiter.ofChars? piece.rest ≠ none := by
  unfold ofChars at hpiece
  rw [hdelimiter] at hpiece
  cases hpiece
  exact ofChars?_plainRun_snd source hrest

end Piece

namespace Token

/-- The texts among the tokens of a source are not empty and lie apart.  None comes first if the
source begins with an opener. -/
structure SetApart (source : List Char) (tokens : List Token) : Prop where
  filled : ∀ token ∈ tokens, token.Filled
  apart : TextsApart tokens
  head : (source ≠ [] → Delimiter.ofChars? source ≠ none) →
    ∀ token ∈ tokens.head?, token.isText = false

theorem setApart_of_ofCharsFrom {start : Nat} {trimsStart : Bool} {source : List Char}
    {tokens : List Token} (htokens : ofCharsFrom start trimsStart source = .ok tokens) :
    SetApart source tokens := by
  by_cases hsource : source = []
  · subst hsource
    rw [ofCharsFrom] at htokens
    cases htokens
    exact ⟨List.forall_mem_singleton.2 trivial, List.isChain_singleton _, by simp [isText]⟩
  obtain ⟨piece, others, hpiece, hshorter, hothers, rfl⟩ := exists_piece hsource htokens
  have hrest := setApart_of_ofCharsFrom hothers
  by_cases hdelimiter : Delimiter.ofChars? source = none
  -- A run ends at an opener, so the rest gives no text first, also where the run gives nothing.
  · have hfilled := Piece.filled_of_plain hdelimiter hpiece
    have hhead := hrest.head (Piece.delimiter_of_plain hdelimiter hpiece)
    cases htoken : piece.token with
    | none => exact ⟨hrest.filled, hrest.apart, fun hopens => absurd hdelimiter (hopens hsource)⟩
    | some token =>
        refine ⟨List.forall_mem_cons.2 ⟨hfilled token htoken, hrest.filled⟩, ?_,
          fun hopens => absurd hdelimiter (hopens hsource)⟩
        exact List.isChain_cons.2 ⟨fun next hnext _ => hhead next hnext, hrest.apart⟩
  · obtain ⟨token, htoken, hnot⟩ := Piece.exists_token_of_delimiter hdelimiter hpiece
    rw [htoken]
    refine ⟨List.forall_mem_cons.2 ⟨filled_of_not_text hnot, hrest.filled⟩, ?_, fun _ => ?_⟩
    · refine List.isChain_cons.2 ⟨fun next _ htext => ?_, hrest.apart⟩
      rw [hnot] at htext
      cases htext
    · rintro first ⟨⟩
      exact hnot
termination_by source.length

end Token

end TemplateVariables
