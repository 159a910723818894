import TemplateVariables.Proofs.Expr.Occurrences
import TemplateVariables.Proofs.Node.TreeSteps

/-!
# Variables of a template in reading order

Every token puts the variables of its trees behind those that have been read before it.  So the
variables of a template stand in its tree in the order in which their names are written, each
with the span of its name.  The offsets at which they are written increase.
-/

namespace TemplateVariables

open TemplateVariables.Parser Statement Subtree Text

/-! ## Variables of a token -/

theorem Takes.meets {tagEnd : Span} {opened : List Punct} {trees : List Subtree}
    {cursor next : Cursor} (htakes : Takes tagEnd opened cursor trees next) :
    Meets [] cursor trees next := by
  induction htakes with
  | stop => exact .refl _ _
  | lexeme hnext _ _ ih => exact (Meets.skip _ (Cursor.advances_of_next? hnext)).trans ih
  | @read form _ _ _ _ _ hform hreads _ ih =>
      have hfront : form.front = [] := by
        cases form <;> first | rfl | cases hform
      have hmeets := hreads.meets
      rw [hfront] at hmeets
      exact hmeets.trans (ih.behind _)

namespace Token

def occurrences (token : Token) : List Occurrence :=
  token.lexemes.filterMap Lexeme.occurrence?

theorem Holds.sublist {token : Token} {trees : List Subtree} (hholds : token.Holds trees) :
    List.Sublist (trees.flatMap Subtree.occurrences) token.occurrences := by
  have hempty (htrees : trees = []) :
      List.Sublist (trees.flatMap Subtree.occurrences) token.occurrences := by
    rw [htrees]
    exact List.nil_sublist _
  cases token with
  | expression tag =>
      obtain ⟨next, -, htakes⟩ := hholds
      exact htakes.meets.sublist
  | block tag =>
      obtain ⟨-, next, -, htakes⟩ := hholds
      -- The first word of a block tag is read before its arguments.
      exact htakes.meets.sublist.trans ((List.tail_sublist _).filterMap _)
  | _ => exact hempty hholds

end Token

/-! ## Variables of a state -/

namespace Building

def occurrences (building : Building) : List Occurrence :=
  building.trees.flatMap Subtree.occurrences

theorem Steps.occurrences {token : Token} {building next : Building}
    (hstep : Steps token building next) :
    ∃ trees, token.Holds trees ∧
      next.occurrences = building.occurrences ++ trees.flatMap Subtree.occurrences := by
  obtain ⟨trees, hholds, hnext | ⟨earlier, node, hearlier, hnext, -⟩⟩ := hstep.trees
  · refine ⟨trees, hholds, ?_⟩
    rw [Building.occurrences, hnext, List.flatMap_append]
    rfl
  · have hnode : (Subtree.node node).occurrences = node.children.flatMap Subtree.occurrences :=
      occurrences_of_children rfl rfl
    refine ⟨trees, hholds, ?_⟩
    rw [Building.occurrences, Building.occurrences, hnext, List.flatMap_append,
      List.flatMap_singleton, hnode, ← List.flatMap_append, ← hearlier, List.flatMap_append]

/-- The variables of the tree are those that have been read, and behind them others that the
tokens hold, each of them once. -/
theorem Runs.sublist {building : Building} {tokens : List Token} {nodes : List Node}
    (hruns : Runs building tokens nodes) :
    List.Sublist ((nodes.map Subtree.node).flatMap Subtree.occurrences)
      (building.occurrences ++ tokens.flatMap Token.occurrences) := by
  induction hruns with
  | stop nodes =>
      rw [List.flatMap_nil, List.append_nil]
      exact List.Sublist.refl _
  | step hstep _ ih =>
      obtain ⟨trees, hholds, heq⟩ := hstep.occurrences
      rw [heq, List.append_assoc] at ih
      rw [List.flatMap_cons]
      exact ih.trans ((hholds.sublist.append_right _).append_left _)

end Building

/-! ## Variables of a source -/

/-- The name of the variable is written in the source at the offset, and its span marks it. -/
def Occurrence.WrittenAt (source : List Char) (occurrence : Occurrence) (offset : Nat) : Prop :=
  ∃ before after, source = before ++ (occurrence.1.toList ++ after) ∧
    offset = byteLength before ∧
      occurrence.2 = Span.ofBounds offset (offset + byteLength occurrence.1.toList)

/-- The variables are written in the source in this order, each at an offset of its own. -/
def Occurrence.Ascend (source : List Char) (occurrences : List Occurrence) : Prop :=
  ∃ places : List (Occurrence × Nat), places.map Prod.fst = occurrences ∧
    (∀ place ∈ places, Occurrence.WrittenAt source place.1 place.2) ∧
      places.Pairwise fun first second => first.2 < second.2

namespace Occurrence

variable {source : List Char} {occurrences others : List Occurrence} {start stop : Nat}

theorem Ascend.sublist (hascend : Ascend source occurrences)
    (hsublist : List.Sublist others occurrences) : Ascend source others := by
  obtain ⟨places, rfl, hwritten, hpairwise⟩ := hascend
  obtain ⟨kept, hkept, rfl⟩ := List.sublist_map_iff.1 hsublist
  exact ⟨kept, rfl, fun place hplace => hwritten place (hkept.subset hplace),
    hpairwise.sublist hkept⟩

/-- Within the limit the offsets are the starts of the spans. -/
theorem Ascend.starts (hascend : Ascend source occurrences)
    (hlimit : byteLength source ≤ Span.limit) :
    occurrences.Pairwise fun first second => first.2.start.toNat < second.2.start.toNat := by
  obtain ⟨places, rfl, hwritten, hpairwise⟩ := hascend
  have hstart : ∀ place ∈ places, place.1.2.start.toNat = place.2 := by
    intro place hplace
    obtain ⟨before, after, hsource, hoffset, hspan⟩ := hwritten place hplace
    rw [Span.ofBounds, Nat.add_sub_cancel_left, hoffset] at hspan
    rw [hoffset]
    exact (Span.covers_of_append hlimit hsource hspan).2.1
  rw [List.pairwise_map]
  apply hpairwise.imp_of_mem
  intro first second hfirst hsecond hlt
  rwa [hstart first hfirst, hstart second hsecond]

/-- The variables among lexemes in a row are written in the order of the lexemes. -/
theorem ascend_of_laid {lexemes : List Lexeme} (hlaid : Lexeme.Laid source start lexemes stop) :
    Ascend source (lexemes.filterMap Lexeme.occurrence?) := by
  suffices hplaces : ∃ places : List (Occurrence × Nat),
      places.map Prod.fst = lexemes.filterMap Lexeme.occurrence? ∧
        (∀ place ∈ places, WrittenAt source place.1 place.2 ∧ start ≤ place.2) ∧
          places.Pairwise fun first second => first.2 < second.2 by
    obtain ⟨places, hnames, hwritten, hpairwise⟩ := hplaces
    exact ⟨places, hnames, fun place hplace => (hwritten place hplace).1, hpairwise⟩
  induction hlaid with
  | nil => exact ⟨[], rfl, List.forall_mem_nil _, List.Pairwise.nil⟩
  | @cons start stop lexeme lexemes before used after hsource hstart hused hname hspan _ ih =>
      obtain ⟨places, hnames, hwritten, hpairwise⟩ := ih
      have hlt : byteLength before < byteLength (before ++ used) := by
        have hpos := byteLength_pos hused
        rw [byteLength_append]
        omega
      have hbehind : ∀ place ∈ places, byteLength before < place.2 := fun place hplace =>
        Nat.lt_of_lt_of_le hlt (hwritten place hplace).2
      have hothers : ∀ place ∈ places, WrittenAt source place.1 place.2 ∧ start ≤ place.2 :=
        fun place hplace => ⟨(hwritten place hplace).1,
          Nat.le_trans hstart (Nat.le_of_lt (hbehind place hplace))⟩
      cases hlexeme : lexeme.occurrence? with
      | none =>
          rw [List.filterMap_cons_none hlexeme]
          exact ⟨places, hnames, hothers, hpairwise⟩
      | some occurrence =>
          rw [List.filterMap_cons_some hlexeme]
          refine ⟨(occurrence, byteLength before) :: places, ?_, ?_, ?_⟩
          · rw [List.map_cons, hnames]
          · refine List.forall_mem_cons.2 ⟨⟨?_, hstart⟩, hothers⟩
            rw [Lexeme.eq_of_occurrence? hlexeme] at hname hspan
            obtain rfl := hname occurrence.1 rfl
            rw [byteLength_append] at hspan
            exact ⟨before, after, hsource, rfl, hspan⟩
          · exact List.pairwise_cons.2 ⟨hbehind, hpairwise⟩

end Occurrence

/-- The walk over a template comes to names among the lexemes of its tokens, in the order of
these, and so in the order in which they are written. -/
theorem Node.exists_occurrences_of_ofSource {source : List Char} {nodes : List Node}
    (hok : Node.ofSource source = .ok nodes) :
    (∃ tokens, Token.ofChars source = .ok tokens ∧
      List.Sublist (((TemplateVariables.visits nodes).filterMap Visit.identifier?).map
        Occurrence.lexeme) (tokens.flatMap Token.lexemes)) ∧
      Occurrence.Ascend source
        ((TemplateVariables.visits nodes).filterMap Visit.identifier?) := by
  have hplaces {tokens : List Token} (htokens : Token.ofChars source = .ok tokens)
      (hsublist : List.Sublist ((nodes.map Subtree.node).flatMap Subtree.occurrences)
        (tokens.flatMap Token.occurrences)) :
      (∃ tokens, Token.ofChars source = .ok tokens ∧
        List.Sublist (((nodes.map Subtree.node).flatMap Subtree.occurrences).map
          Occurrence.lexeme) (tokens.flatMap Token.lexemes)) ∧
        Occurrence.Ascend source ((nodes.map Subtree.node).flatMap Subtree.occurrences) := by
    have hoccurrences : tokens.flatMap Token.occurrences =
        (tokens.flatMap Token.lexemes).filterMap Lexeme.occurrence? :=
      List.filterMap_flatMap.symm
    rw [hoccurrences] at hsublist
    have hsource : source = [] ++ source := rfl
    obtain ⟨hlaid, -⟩ := Token.ofCharsFrom_written htokens hsource rfl
    exact ⟨⟨tokens, htokens, (hsublist.map _).trans (Lexeme.map_lexeme_sublist _)⟩,
      (Occurrence.ascend_of_laid hlaid).sublist hsublist⟩
  rw [filterMap_identifier?_visits]
  rcases Node.exists_runs_of_ofSource hok with ⟨hblank, rfl⟩ | ⟨body, offset, htokens, hruns⟩
  · obtain ⟨tokens, htokens, -⟩ := Token.exists_of_blank (List.all_eq_true.1 hblank) 0 false
    exact hplaces htokens (List.nil_sublist _)
  · apply hplaces htokens
    rw [List.flatMap_append]
    exact hruns.sublist.trans (List.sublist_append_left _ _)

end TemplateVariables
