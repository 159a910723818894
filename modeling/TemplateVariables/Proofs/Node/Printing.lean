import Mathlib.Data.List.Forall2
import TemplateVariables.Proofs.Node.Siblings

/-!
# Templates are read as they are written

A tree of nodes is written as tokens: a block is its opener, its body and its end
tag.  Expressions stand in parentheses, and several targets too.  The rest of a
tag is left open where the syntax is: `elif` or `elseif`, the name of the block in
its end tag, the words that nothing depends on.  Whatever is chosen, the tokens
are read as the tree they were written from.
-/

namespace TemplateVariables

open Segment (Spell word)

/-! ## How nodes are written -/

/-- A token of a written template. -/
inductive Pattern where
  | text (content : String)
  | raw (content : String)
  | comment
  | expression (expr : Expr)
  | block (segments : List Segment)

/-- The token is written by the pattern. -/
inductive Token.Matches : Token → Pattern → Prop where
  | text (content : String) (span : Span) : Matches (.text content span) (.text content)
  | raw (content : String) (span : Span) : Matches (.raw content span) (.raw content)
  | comment (span : Span) : Matches (.comment span) .comment
  | expression {expr : Expr} {tag : Tag} (hexpr : expr.WrittenAs tag.lexemes) :
      Matches (.expression tag) (.expression expr)
  | block {segments : List Segment} {tag : Tag} (htag : Spell segments tag.lexemes) :
      Matches (.block tag) (.block segments)

namespace Pattern

/-- A tag without arguments. -/
def bare (text : String) : Pattern :=
  .block [word text]

/-- The end tag of a plain block, which may repeat the name of the block. -/
def plainEnd (header : PlainHeader) : Pattern :=
  match header.repeatedName? with
  | some name => .block [word ("end" ++ header.tagName), .choice [[], [.name name]]]
  | none => bare ("end" ++ header.tagName)

end Pattern

/-- A plain block around its written body. -/
def PlainHeader.print (header : PlainHeader) (body : List Pattern) : List Pattern :=
  .block header.segments :: (body ++ [.plainEnd header])

mutual

def Node.print : Node → List Pattern
  | .text content _ => [.text content]
  | .raw content _ => [.raw content]
  | .comment _ => [.comment]
  | .expression expr _ => [.expression expr]
  | .conditional branches otherwise _ =>
      Branch.printAll ["if"] branches ++ (Node.printElse otherwise ++ [.bare "endif"])
  | .loop names iterable condition recursive body otherwise _ =>
      .block (Header.loop names iterable condition recursive).segments ::
        (Node.printAll body ++ (Node.printElse otherwise ++ [.bare "endfor"]))
  | .setBlock name filters body _ => (PlainHeader.setBlock name filters).print (Node.printAll body)
  | .macroBlock name params body _ =>
      (PlainHeader.macroBlock name params).print (Node.printAll body)
  | .callBlock params call body _ => (PlainHeader.callBlock params call).print (Node.printAll body)
  | .withBlock bindings body _ => (PlainHeader.withBlock bindings).print (Node.printAll body)
  | .filterBlock filters body _ => (PlainHeader.filterBlock filters).print (Node.printAll body)
  | .block name body _ => (PlainHeader.block name).print (Node.printAll body)
  | node => [.block node.segments]

def Node.printAll : List Node → List Pattern
  | [] => []
  | node :: rest => node.print ++ Node.printAll rest

/-- The `else` part of a conditional or a loop. -/
def Node.printElse : Option (List Node) → List Pattern
  | none => []
  | some nodes => .bare "else" :: Node.printAll nodes

/-- Branches of which the first begins with one of the words. -/
def Branch.printAll (openers : List String) : List Branch → List Pattern
  | [] => []
  | ⟨condition, body⟩ :: rest =>
      .block [.choice (openers.map fun text => [.name text]), .expr condition] ::
        (Node.printAll body ++ Branch.printAll ["elif", "elseif"] rest)

end

theorem PlainHeader.print_node (header : PlainHeader) (body : List Node) (span : Span) :
    (header.node body span).print = header.print (Node.printAll body) := by
  cases header <;> rfl

/-! ## Which nodes can be written -/

/-- All targets are names, or the only one is an attribute. -/
def SetTarget.WellFormed (setTargets : List SetTarget) : Prop :=
  (∃ names, TargetNames names ∧ setTargets = names.map .name) ∨
    ∃ space name, setTargets = [.attribute space name]

/-- What every tree satisfies that a template can spell.  A loop control stands in a loop. -/
inductive Node.WellFormed : Bool → Node → Prop where
  | text {inLoop : Bool} (content : String) (span : Span) :
      Node.WellFormed inLoop (.text content span)
  | raw {inLoop : Bool} (content : String) (span : Span) :
      Node.WellFormed inLoop (.raw content span)
  | comment {inLoop : Bool} (span : Span) : Node.WellFormed inLoop (.comment span)
  | expression {inLoop : Bool} (expr : Expr) (span : Span) :
      Node.WellFormed inLoop (.expression expr span)
  | evaluate {inLoop : Bool} (expr : Expr) (span : Span) :
      Node.WellFormed inLoop (.evaluate expr span)
  | conditional {inLoop : Bool} {branches : List Branch} {otherwise : Option (List Node)}
      (hsome : branches ≠ [])
      (hbranches : ∀ branch ∈ branches, ∀ node ∈ branch.body, Node.WellFormed inLoop node)
      (hotherwise : ∀ nodes ∈ otherwise, ∀ node ∈ nodes, Node.WellFormed inLoop node)
      (span : Span) : Node.WellFormed inLoop (.conditional branches otherwise span)
  | loop {inLoop : Bool} {names : List String} (hnames : TargetNames names) (iterable : Expr)
      (condition : Option Expr) (recursive : Bool) {body : List Node}
      {otherwise : Option (List Node)} (hbody : ∀ node ∈ body, Node.WellFormed true node)
      (hotherwise : ∀ nodes ∈ otherwise, ∀ node ∈ nodes, Node.WellFormed true node)
      (span : Span) :
      Node.WellFormed inLoop (.loop names iterable condition recursive body otherwise span)
  | set {inLoop : Bool} {setTargets : List SetTarget}
      (htargets : SetTarget.WellFormed setTargets) (value : Expr) (span : Span) :
      Node.WellFormed inLoop (.set setTargets value span)
  | plain {inLoop : Bool} {header : PlainHeader} (hheader : header.WellFormed)
      {body : List Node} (hbody : ∀ node ∈ body, Node.WellFormed inLoop node) (span : Span) :
      Node.WellFormed inLoop (header.node body span)
  | extendTemplate {inLoop : Bool} (template : Expr) (span : Span) :
      Node.WellFormed inLoop (.extendTemplate template span)
  | includeTemplate {inLoop : Bool} (template : Expr) (span : Span) :
      Node.WellFormed inLoop (.includeTemplate template span)
  | importTemplate {inLoop : Bool} (template : Expr) (name : String) (span : Span) :
      Node.WellFormed inLoop (.importTemplate template name span)
  | importNames {inLoop : Bool} (template : Expr) {names : List ImportedName}
      (hnames : names ≠ []) (span : Span) :
      Node.WellFormed inLoop (.importNames template names span)
  | loopControl (kind : LoopControl) (span : Span) :
      Node.WellFormed true (.loopControl kind span)

/-! ## Nodes -/

open TemplateVariables.Parser (ReadsNodes Admits)

section Written

variable {tokens : List Token} {front back : List Pattern} {pattern : Pattern}
  {segments : List Segment}

theorem exists_append_of_matches (htokens : List.Forall₂ Token.Matches tokens (front ++ back)) :
    ∃ first second, tokens = first ++ second ∧ List.Forall₂ Token.Matches first front ∧
      List.Forall₂ Token.Matches second back :=
  ⟨tokens.take front.length, tokens.drop front.length, (List.take_append_drop _ _).symm,
    List.forall₂_take_append tokens front back htokens,
    List.forall₂_drop_append tokens front back htokens⟩

theorem exists_singleton_of_matches (htokens : List.Forall₂ Token.Matches tokens [pattern]) :
    ∃ token, tokens = [token] ∧ token.Matches pattern := by
  obtain ⟨token, rest, htoken, hrest, rfl⟩ := List.forall₂_cons_right_iff.1 htokens
  obtain rfl := List.forall₂_nil_right_iff.1 hrest
  exact ⟨token, rfl, htoken⟩

theorem exists_tag_of_matches
    (htokens : List.Forall₂ Token.Matches tokens (.block segments :: back)) :
    ∃ tag rest, tokens = .block tag :: rest ∧ Spell segments tag.lexemes ∧
      List.Forall₂ Token.Matches rest back := by
  obtain ⟨token, rest, htoken, hrest, rfl⟩ := List.forall₂_cons_right_iff.1 htokens
  cases htoken with
  | @block _ tag htag => exact ⟨tag, rest, rfl, htag, hrest⟩

theorem exists_tag_of_matches_singleton
    (htokens : List.Forall₂ Token.Matches tokens [.block segments]) :
    ∃ tag, tokens = [.block tag] ∧ Spell segments tag.lexemes := by
  obtain ⟨tag, rest, rfl, htag, hrest⟩ := exists_tag_of_matches htokens
  obtain rfl := List.forall₂_nil_right_iff.1 hrest
  exact ⟨tag, rfl, htag⟩

end Written

/-- Wherever the written node stands, it is read back in front of what comes after it. -/
def Node.ReadsBack (inLoop : Bool) (node : Node) : Prop :=
  ∀ {tokens : List Token}, List.Forall₂ Token.Matches tokens node.print →
    ∀ {closers opened rest nodes ending}, Admits closers opened inLoop →
      ReadsNodes closers opened rest nodes ending →
        ReadsNodes closers opened (tokens ++ rest) (node :: nodes) ending

section Nodes

variable {inLoop : Bool} {body : List Node} {tokens : List Token}

theorem Node.readsNodes_append {closers : List String} {opened : List OpenTag}
    {rest : List Token} {nodes : List Node} {ending : Option (Tag × List Token)}
    (hbody : ∀ node ∈ body, node.ReadsBack inLoop)
    (htokens : List.Forall₂ Token.Matches tokens (Node.printAll body))
    (hadmits : Admits closers opened inLoop)
    (hrest : ReadsNodes closers opened rest nodes ending) :
    ReadsNodes closers opened (tokens ++ rest) (body ++ nodes) ending := by
  induction body generalizing tokens with
  | nil =>
      obtain rfl := List.forall₂_nil_right_iff.1 htokens
      exact hrest
  | cons node body ih =>
      rw [Node.printAll] at htokens
      obtain ⟨first, others, rfl, hfirst, hothers⟩ := exists_append_of_matches htokens
      rw [List.append_assoc]
      apply hbody node List.mem_cons_self hfirst hadmits
      exact ih (fun other hother => hbody other (List.mem_cons_of_mem _ hother)) hothers

/-- A written body in front of the tag that closes it. -/
theorem Node.readsNodes_closing {closers : List String} {opened : List OpenTag} {tag : Tag}
    {text : String} {segments : List Segment} (hbody : ∀ node ∈ body, node.ReadsBack inLoop)
    (htokens : List.Forall₂ Token.Matches tokens (Node.printAll body))
    (hadmits : Admits closers opened inLoop)
    (htag : Spell (word text :: segments) tag.lexemes) (htext : text ∈ closers)
    (rest : List Token) :
    ReadsNodes closers opened (tokens ++ .block tag :: rest) body (some (tag, rest)) := by
  have hclosing : ReadsNodes closers opened (.block tag :: rest) [] (some (tag, rest)) :=
    ReadsNodes.closing htag htext
  have happend := readsNodes_append hbody htokens hadmits hclosing
  rwa [List.append_nil] at happend

theorem isClosingWord_end (text : String) : isClosingWord ("end" ++ text) = true := by
  have hprefix : "end".toList.isPrefixOf ("end" ++ text).toList = true := by
    rw [String.toList_append, List.isPrefixOf_iff_prefix]
    exact List.prefix_append _ _
  rw [isClosingWord, hprefix]
  rfl

/-- The end tag of a plain block, with or without the name of the block. -/
theorem Token.Matches.plainEnd {token : Token} {header : PlainHeader}
    (hmatches : token.Matches (.plainEnd header)) :
    ∃ tag segments, token = .block tag ∧
      Spell (word ("end" ++ header.tagName) :: segments) tag.lexemes ∧
      ∀ innermost, Parser.expectPlainEnd innermost header tag = .ok () := by
  unfold Pattern.plainEnd at hmatches
  unfold Parser.expectPlainEnd
  cases hname : header.repeatedName? with
  | none =>
      rw [hname] at hmatches
      cases hmatches with
      | @block _ tag htag =>
          exact ⟨tag, [], rfl, htag, fun _ => Tag.expectBare_spelled htag⟩
  | some name =>
      rw [hname] at hmatches
      cases hmatches with
      | @block _ tag htag =>
          refine ⟨tag, _, rfl, htag, fun innermost => ?_⟩
          have harguments := Statement.arguments_spelled htag
          obtain ⟨option, hoption, hspell⟩ := harguments.exists_option []
          simp only [List.mem_cons, List.not_mem_nil, or_false] at hoption
          rcases hoption with rfl | rfl
          · have hnone := Cursor.next?_eq_none ((Cursor.rest_eq_nil_iff _).1 hspell.eq_nil)
            simp only [Parser.expectRepeatedName, hnone]
          · obtain ⟨_, next, _, hnext, hrest⟩ := Cursor.next?_spelled hspell
            obtain ⟨_, hend, -⟩ := Cursor.expectEnd_succeeds hrest
            simp only [Parser.expectRepeatedName, hnext, if_true]
            exact hend

theorem PlainHeader.readsBack_node {header : PlainHeader} (hheader : header.WellFormed)
    (hbody : ∀ node ∈ body, node.ReadsBack inLoop) (span : Span) :
    (header.node body span).ReadsBack inLoop := by
  intro tokens htokens closers opened rest nodes ending hadmits hrest
  rw [PlainHeader.print_node, PlainHeader.print] at htokens
  obtain ⟨tag, inside, rfl, htag, hinside⟩ := exists_tag_of_matches htokens
  obtain ⟨bodyTokens, endTokens, rfl, hbodyTokens, hend⟩ := exists_append_of_matches hinside
  obtain ⟨endToken, rfl, hendToken⟩ := exists_singleton_of_matches hend
  obtain ⟨endTag, endSegments, rfl, hendTag, hplainEnd⟩ := hendToken.plainEnd
  rw [List.cons_append, List.append_assoc, List.singleton_append]
  apply ReadsNodes.opens (show (Header.plain header).WellFormed from hheader) htag hadmits _ hrest
  intro read hread
  cases read with
  | plain read =>
      have hspanless : read.spanless = header.spanless := by
        simpa [Header.spanless] using hread
      have hinner : Admits ["end" ++ header.tagName] (⟨read.tagName, tag.span⟩ :: opened) inLoop :=
        hadmits.inside _ (List.forall_mem_singleton.2 (isClosingWord_end _))
      have hnodes := Node.readsNodes_closing hbody hbodyTokens hinner hendTag
        (List.mem_singleton.2 rfl) rest
      have hrepeated := hplainEnd ⟨read.tagName, tag.span⟩
      rw [← PlainHeader.tagName_of_spanless hspanless] at hnodes
      rw [Parser.expectPlainEnd, ← PlainHeader.repeatedName?_of_spanless hspanless] at hrepeated
      apply Parser.block_plain hnodes hrepeated
      intro readBody readSpan hreadBody
      exact PlainHeader.spanless_node hspanless hreadBody readSpan span
  | _ => simp [Header.spanless] at hread

variable {opened : List OpenTag} {rest : List Token} {otherwise : Option (List Node)}

/-- The written `else` part and the end tag behind it. -/
theorem Node.readsElse {closer : String}
    (hotherwise : ∀ nodes ∈ otherwise, ∀ node ∈ nodes, node.ReadsBack inLoop)
    (htokens : List.Forall₂ Token.Matches tokens (Node.printElse otherwise ++ [.bare closer]))
    (hadmits : Admits [closer] opened inLoop) (rest : List Token) :
    ∃ closing middle text, tokens ++ rest = .block closing :: middle ∧
      (text = "else" ∨ text = closer) ∧ Spell [word text] closing.lexemes ∧
      Parser.ReadsElse closer opened closing middle otherwise rest := by
  cases otherwise with
  | none =>
      obtain ⟨endTag, rfl, hendTag⟩ := exists_tag_of_matches_singleton htokens
      exact ⟨endTag, rest, closer, rfl, .inr rfl, hendTag, .none (Tag.name?_spelled hendTag)⟩
  | some nodes =>
      rw [Node.printElse, List.cons_append] at htokens
      obtain ⟨elseTag, inside, rfl, helseTag, hinside⟩ := exists_tag_of_matches htokens
      obtain ⟨nodeTokens, endTokens, rfl, hnodeTokens, hend⟩ := exists_append_of_matches hinside
      obtain ⟨endTag, rfl, hendTag⟩ := exists_tag_of_matches_singleton hend
      have hnodes := readsNodes_closing (hotherwise nodes rfl) hnodeTokens hadmits hendTag
        List.mem_cons_self rest
      refine ⟨elseTag, nodeTokens ++ .block endTag :: rest, "else", ?_, .inl rfl, helseTag, ?_⟩
      · rw [List.cons_append, List.append_assoc, List.singleton_append]
      · exact .some (Tag.name?_spelled helseTag) hnodes (Tag.expectBare_spelled hendTag)

theorem Node.readsBack_loop {names : List String} (hnames : TargetNames names)
    (iterable : Expr) (condition : Option Expr) (recursive : Bool)
    (hbody : ∀ node ∈ body, node.ReadsBack true)
    (hotherwise : ∀ nodes ∈ otherwise, ∀ node ∈ nodes, node.ReadsBack true) (span : Span) :
    (Node.loop names iterable condition recursive body otherwise span).ReadsBack inLoop := by
  intro tokens htokens closers opened rest nodes ending hadmits hrest
  rw [Node.print] at htokens
  obtain ⟨tag, inside, rfl, htag, hinside⟩ := exists_tag_of_matches htokens
  obtain ⟨bodyTokens, elseTokens, rfl, hbodyTokens, helseTokens⟩ :=
    exists_append_of_matches hinside
  have hinner : Admits ["else", "endfor"] (⟨"for", tag.span⟩ :: opened) true :=
    { closing := by decide
      loop := fun _ => ⟨_, List.mem_cons_self, rfl⟩ }
  have hend : Admits ["endfor"] (⟨"for", tag.span⟩ :: opened) true :=
    { hinner with closing := by decide }
  obtain ⟨closing, middle, text, hmiddle, htext, hclosing, helse⟩ :=
    Node.readsElse hotherwise helseTokens hend rest
  have hnodes := Node.readsNodes_closing hbody hbodyTokens hinner hclosing
    (by simpa using htext) middle
  rw [List.cons_append, List.append_assoc, hmiddle]
  have hheader : (Header.loop names iterable condition recursive).WellFormed := hnames
  apply ReadsNodes.opens hheader htag hadmits _ hrest
  intro read hread
  cases read with
  | loop readNames readIterable readCondition readRecursive =>
      simp only [Header.spanless, Header.loop.injEq] at hread
      obtain ⟨rfl, hiterable, hcondition, rfl⟩ := hread
      exact Parser.block_loop (Tag.expectBare_spelled hclosing) hiterable hcondition hnodes
        helse span
  | _ => simp [Header.spanless] at hread

theorem Branch.exists_opener {openers : List String} {condition : Expr} {tag : Tag}
    (htag : Spell [.choice (openers.map fun text => [.name text]), .expr condition] tag.lexemes) :
    ∃ text ∈ openers, Spell [word text, .expr condition] tag.lexemes := by
  obtain ⟨option, hoption, hspell⟩ := htag.exists_option []
  obtain ⟨text, htext, rfl⟩ := List.mem_map.1 hoption
  exact ⟨text, htext, hspell⟩

/-- The branches of a conditional from the body of one of them on. -/
theorem Branch.reaches_branches {branches : List Branch} (written : Branch) {condition : Expr}
    {span : Span} (hcondition : condition.spanless = written.condition.spanless)
    (hwritten : ∀ node ∈ written.body, node.ReadsBack inLoop)
    (hbranches : ∀ branch ∈ branches, ∀ node ∈ branch.body, node.ReadsBack inLoop)
    (hotherwise : ∀ nodes ∈ otherwise, ∀ node ∈ nodes, node.ReadsBack inLoop)
    (htokens : List.Forall₂ Token.Matches tokens
      (Node.printAll written.body ++ (Branch.printAll ["elif", "elseif"] branches ++
        (Node.printElse otherwise ++ [.bare "endif"]))))
    {closers : List String} (hadmits : Admits closers opened inLoop) :
    Parser.Reaches (Parser.branches ⟨"if", span⟩ opened condition (tokens ++ rest))
      (Parser.MatchesBranches (written :: branches) otherwise) rest := by
  have hinner : Admits ["elif", "elseif", "else", "endif"] (⟨"if", span⟩ :: opened) inLoop :=
    hadmits.inside _ (by decide)
  induction branches generalizing written condition tokens with
  | nil =>
      obtain ⟨bodyTokens, elseTokens, rfl, hbodyTokens, helseTokens⟩ :=
        exists_append_of_matches htokens
      obtain ⟨closing, middle, text, hmiddle, htext, hclosing, helse⟩ :=
        Node.readsElse hotherwise helseTokens (hadmits.inside _ (by decide)) rest
      have hnodes := Node.readsNodes_closing hwritten hbodyTokens hinner hclosing
        (by rcases htext with rfl | rfl <;> decide) middle
      rw [List.append_assoc, hmiddle]
      exact Parser.branches_last (Tag.expectBare_spelled hclosing) hcondition hnodes helse
  | cons branch branches ih =>
      obtain ⟨bodyTokens, others, rfl, hbodyTokens, hothers⟩ :=
        exists_append_of_matches htokens
      obtain ⟨next, body⟩ := branch
      rw [Branch.printAll, List.cons_append, List.append_assoc] at hothers
      obtain ⟨tag, inside, rfl, htag, hinside⟩ := exists_tag_of_matches hothers
      obtain ⟨text, htext, htag⟩ := Branch.exists_opener htag
      obtain ⟨readNext, hreadNext, hspanless⟩ :=
        Statement.condition_succeeds (Statement.arguments_spelled htag)
      have hnodes := Node.readsNodes_closing hwritten hbodyTokens hinner htag
        (by rcases List.mem_pair.1 htext with rfl | rfl <;> decide) (inside ++ rest)
      have hname : tag.name? = some "elif" ∨ tag.name? = some "elseif" := by
        simpa [Tag.name?_spelled htag] using htext
      rw [List.append_assoc, List.cons_append]
      apply Parser.branches_more hcondition hnodes hname hreadNext
      exact ih ⟨next, body⟩ hspanless (hbranches _ List.mem_cons_self)
        (fun branch hbranch => hbranches branch (List.mem_cons_of_mem _ hbranch)) hinside

theorem Node.readsBack_conditional {branches : List Branch} (hsome : branches ≠ [])
    (hbranches : ∀ branch ∈ branches, ∀ node ∈ branch.body, node.ReadsBack inLoop)
    (hotherwise : ∀ nodes ∈ otherwise, ∀ node ∈ nodes, node.ReadsBack inLoop) (span : Span) :
    (Node.conditional branches otherwise span).ReadsBack inLoop := by
  intro tokens htokens closers opened rest nodes ending hadmits hrest
  cases branches with
  | nil => contradiction
  | cons written branches =>
      obtain ⟨condition, body⟩ := written
      rw [Node.print, Branch.printAll, List.cons_append, List.append_assoc] at htokens
      obtain ⟨tag, inside, rfl, htag, hinside⟩ := exists_tag_of_matches htokens
      obtain ⟨text, htext, htag⟩ := Branch.exists_opener htag
      obtain rfl := List.mem_singleton.1 htext
      have hheader : (Header.conditional condition).WellFormed := trivial
      rw [List.cons_append]
      apply ReadsNodes.opens hheader htag hadmits _ hrest
      intro read hread
      cases read with
      | conditional readCondition =>
          have hcondition : readCondition.spanless = condition.spanless := by
            simpa [Header.spanless] using hread
          apply Parser.block_conditional
          exact Branch.reaches_branches ⟨condition, body⟩ hcondition
            (hbranches _ List.mem_cons_self)
            (fun branch hbranch => hbranches branch (List.mem_cons_of_mem _ hbranch))
            hotherwise hinside hadmits
      | _ => simp [Header.spanless] at hread

/-- An expression that is accepted at the end of some tag is accepted at the end of any. -/
theorem Expr.WrittenAs.ofLexemes_succeeds {expr : Expr} {lexemes : List Lexeme}
    (hexpr : expr.WrittenAs lexemes) (tagEnd : Span) :
    Succeeds (Expr.ofLexemes lexemes tagEnd) (fun value => value.spanless = expr.spanless) := by
  have hspell : Spell [.expr expr] (Cursor.ofLexemes lexemes).rest := by
    rw [Cursor.ofLexemes, ← List.append_nil lexemes]
    exact .expr hexpr .nil
  apply (Expr.readTuple_arrives tagEnd hspell .nil (by decide) (by simp) (by simp)).bind_succeeds
  intro value next hsize hvalue hnext
  apply (Cursor.expectEnd_succeeds hnext).bind
  intro _ _
  exact Succeeds.ok hvalue

/-- A node that is a single token. -/
theorem Node.ReadsBack.single {node : Node} {pattern : Pattern} (hprint : node.print = [pattern])
    (hread : ∀ token : Token, token.Matches pattern →
      ∀ {closers opened rest nodes ending}, Admits closers opened inLoop →
        ReadsNodes closers opened rest nodes ending →
          ReadsNodes closers opened (token :: rest) (node :: nodes) ending) :
    node.ReadsBack inLoop := by
  intro tokens htokens closers opened rest nodes ending hadmits hrest
  rw [hprint] at htokens
  obtain ⟨token, rfl, htoken⟩ := exists_singleton_of_matches htokens
  exact hread token htoken hadmits hrest

theorem Node.readsBack_text (content : String) (span : Span) :
    (Node.text content span).ReadsBack inLoop := by
  apply ReadsBack.single rfl
  intro token htoken closers opened rest nodes ending hadmits hrest
  cases htoken with
  | text _ tokenSpan =>
      apply hrest.prepend (Nat.le_succ _) (.text content tokenSpan) _ rfl
      rw [Parser.nodes]

theorem Node.readsBack_raw (content : String) (span : Span) :
    (Node.raw content span).ReadsBack inLoop := by
  apply ReadsBack.single rfl
  intro token htoken closers opened rest nodes ending hadmits hrest
  cases htoken with
  | raw _ tokenSpan =>
      apply hrest.prepend (Nat.le_succ _) (.raw content tokenSpan) _ rfl
      rw [Parser.nodes]

theorem Node.readsBack_comment (span : Span) : (Node.comment span).ReadsBack inLoop := by
  apply ReadsBack.single rfl
  intro token htoken closers opened rest nodes ending hadmits hrest
  cases htoken with
  | comment tokenSpan =>
      apply hrest.prepend (Nat.le_succ _) (.comment tokenSpan) _ rfl
      rw [Parser.nodes]

theorem Node.readsBack_expression (expr : Expr) (span : Span) :
    (Node.expression expr span).ReadsBack inLoop := by
  apply ReadsBack.single rfl
  intro token htoken closers opened rest nodes ending hadmits hrest
  cases htoken with
  | @expression _ tag hexpr =>
      obtain ⟨value, hvalue, hspanless⟩ := hexpr.ofLexemes_succeeds tag.endSpan
      have hsome : tag.lexemes ≠ [] := by
        obtain ⟨inner, opener, closer, hlexemes, -⟩ := hexpr.parenthesised
        simp [hlexemes]
      apply hrest.prepend (Nat.le_succ _) (.expression value tag.span)
      · rw [Parser.nodes, Parser.expressionNode, if_neg hsome, hvalue]
        rfl
      · simp [Node.spanless, hspanless]

/-- A node that is a single block tag. -/
theorem Node.ReadsBack.complete {node : Node} {text : String} {segments : List Segment}
    (hprint : node.print = [.block (word text :: segments)])
    (hword : isClosingWord text = false)
    (hloop : text = "break" ∨ text = "continue" → inLoop = true)
    (hread : ∀ tag : Tag, Spell (word text :: segments) tag.lexemes →
      Succeeds (Statement.ofTag tag text)
        (fun read => read.spanless = (Statement.complete node).spanless)) :
    node.ReadsBack inLoop := by
  apply ReadsBack.single hprint
  intro token htoken closers opened rest nodes ending hadmits hrest
  cases htoken with
  | @block _ tag htag =>
      exact ReadsNodes.complete htag hadmits hword hloop (hread tag htag) hrest

theorem Node.readsBack_loopControl (kind : LoopControl) (span : Span) :
    (Node.loopControl kind span).ReadsBack true := by
  apply ReadsBack.complete rfl (by cases kind <;> decide) (by simp)
  intro tag htag
  have hbare : Succeeds tag.expectBare (fun _ => True) :=
    ⟨(), Tag.expectBare_spelled htag, trivial⟩
  cases kind with
  | «break» =>
      apply hbare.bind
      intro _ _
      exact Succeeds.ok rfl
  | «continue» =>
      apply hbare.bind
      intro _ _
      exact Succeeds.ok rfl

theorem Node.WellFormed.readsBack {node : Node} (hnode : node.WellFormed inLoop) :
    node.ReadsBack inLoop := by
  induction hnode with
  | text content span => exact Node.readsBack_text content span
  | raw content span => exact Node.readsBack_raw content span
  | comment span => exact Node.readsBack_comment span
  | expression expr span => exact Node.readsBack_expression expr span
  | evaluate expr span =>
      apply Node.ReadsBack.complete rfl (by decide) (by simp)
      intro tag htag
      exact Statement.readDo_succeeds (Statement.arguments_spelled htag) span
  | conditional hsome hbranches hotherwise span ihBranches ihOtherwise =>
      exact Node.readsBack_conditional hsome ihBranches ihOtherwise span
  | loop hnames iterable condition recursive hbody hotherwise span ihBody ihOtherwise =>
      exact Node.readsBack_loop hnames iterable condition recursive ihBody ihOtherwise span
  | set htargets value span =>
      apply Node.ReadsBack.complete rfl (by decide) (by simp)
      intro tag htag
      exact Statement.readSet_succeeds (Statement.arguments_spelled htag) htargets span
  | plain hheader hbody span ihBody => exact PlainHeader.readsBack_node hheader ihBody span
  | extendTemplate template span =>
      apply Node.ReadsBack.complete rfl (by decide) (by simp)
      intro tag htag
      exact Statement.readExtends_succeeds (Statement.arguments_spelled htag) span
  | includeTemplate template span =>
      apply Node.ReadsBack.complete rfl (by decide) (by simp)
      intro tag htag
      exact Statement.readInclude_succeeds (Statement.arguments_spelled htag) span
  | importTemplate template name span =>
      apply Node.ReadsBack.complete rfl (by decide) (by simp)
      intro tag htag
      exact Statement.readImport_succeeds (Statement.arguments_spelled htag) span
  | importNames template hnames span =>
      apply Node.ReadsBack.complete rfl (by decide) (by simp)
      intro tag htag
      exact Statement.readFrom_succeeds hnames (Statement.arguments_spelled htag) span
  | loopControl kind span => exact Node.readsBack_loopControl kind span

end Nodes

/-- A written template is read back up to spans. -/
theorem Node.ofTokens_print {nodes : List Node} (hnodes : ∀ node ∈ nodes, node.WellFormed false)
    {tokens : List Token} (htokens : List.Forall₂ Token.Matches tokens (Node.printAll nodes))
    (offset : UInt32) :
    ∃ read, Node.ofTokens (tokens ++ [.eof offset]) = .ok read ∧
      read.map Node.spanless = nodes.map Node.spanless := by
  have hadmits : Admits [] [] false :=
    { closing := by simp
      loop := by simp }
  obtain ⟨siblings, hsiblings, hread, -⟩ :=
    Node.readsNodes_append (fun node hnode => (hnodes node hnode).readsBack) htokens hadmits
      (ReadsNodes.eof offset)
  refine ⟨siblings.nodes, ?_, ?_⟩
  · rw [Node.ofTokens, hsiblings]
    rfl
  · rwa [List.append_nil] at hread

/-! ## A template

Two targets, both ways out of a loop body, an `elif` branch, a macro whose end tag repeats its
name, and a call block:

    {% for (row), (x) in (x) if (x) recursive %}
      {% if (x) %}{% break %}{% elif (x) %}{% do (x) %}{% else %}last{% endif %}
    {% else %}{% set (a), (b) = (x) %}{% endfor %}
    {% macro m(p, q=(x)) %}{% from (x) import a as b, c with context %}{% endmacro m %}
    {% call(p) m(x) %}{% filter upper %}{% endfilter %}{% endcall %}
-/

namespace Sample

def lexemes (kinds : List LexemeKind) : List Lexeme :=
  kinds.map fun kind => ⟨kind, default⟩

def block (kinds : List LexemeKind) : Token :=
  .block
    { lexemes := lexemes kinds
      span := default
      inside := default
      left := .preserve
      right := .preserve }

def group : List LexemeKind :=
  [.punct .lparen, .name "x", .punct .rparen]

def value : Expr :=
  .identifier "x" default

def call : Expr :=
  .call (.identifier "m" default) [⟨none, value⟩] default

def upper : FilterCall where
  name := ["upper"]
  args := []
  span := default

def nodes : List Node :=
  [.loop ["row", "x"] value (some value) true
      [.conditional [⟨value, [.loopControl .break default]⟩, ⟨value, [.evaluate value default]⟩]
        (some [.text "last" default]) default]
      (some [.set [.name "a", .name "b"] value default]) default,
    (PlainHeader.macroBlock "m" [⟨"p", none⟩, ⟨"q", some value⟩]).node
      [.importNames value [⟨"a", some "b"⟩, ⟨"c", none⟩] default] default,
    (PlainHeader.callBlock [⟨"p", none⟩] call).node
      [(PlainHeader.filterBlock [upper]).node [] default] default]

def loopTag : List LexemeKind :=
  [.name "for", .punct .lparen, .name "row", .punct .rparen, .punct .comma, .punct .lparen,
    .name "x", .punct .rparen, .name "in"] ++ group ++ .name "if" :: group ++ [.name "recursive"]

def setTag : List LexemeKind :=
  [.name "set", .punct .lparen, .name "a", .punct .rparen, .punct .comma, .punct .lparen,
    .name "b", .punct .rparen, .punct .assign] ++ group

def macroTag : List LexemeKind :=
  [.name "macro", .name "m", .punct .lparen, .name "p", .punct .comma, .name "q",
    .punct .assign] ++ group ++ [.punct .rparen]

def importTag : List LexemeKind :=
  .name "from" :: group ++ [.name "import", .name "a", .name "as", .name "b", .punct .comma,
    .name "c", .name "with", .name "context"]

def callTag : List LexemeKind :=
  [.name "call", .punct .lparen, .name "p", .punct .rparen, .name "m", .punct .lparen,
    .name "x", .punct .rparen]

def tokens : List Token :=
  [block loopTag, block (.name "if" :: group), block [.name "break"],
    block (.name "elif" :: group), block (.name "do" :: group), block [.name "else"],
    .text "last" default, block [.name "endif"], block [.name "else"], block setTag,
    block [.name "endfor"], block macroTag, block importTag,
    block [.name "endmacro", .name "m"], block callTag, block [.name "filter", .name "upper"],
    block [.name "endfilter"], block [.name "endcall"]]

theorem value_writtenAs : value.WrittenAs (lexemes group) where
  parenthesised := ⟨lexemes [.name "x"], default, default, rfl, rfl⟩
  accepted := ⟨default, value, by with_unfolding_all rfl, rfl⟩

theorem call_acceptedFrom :
    call.AcceptedFrom (lexemes [.name "m", .punct .lparen, .name "x", .punct .rparen]) :=
  ⟨default, call, by with_unfolding_all rfl, rfl⟩

theorem upper_acceptedFrom : upper.AcceptedFrom (lexemes [.name "upper"]) :=
  ⟨default, upper, ⟨[], _⟩, Nat.zero_lt_succ _, by with_unfolding_all rfl, rfl, rfl⟩

theorem nodes_wellFormed : ∀ node ∈ nodes, node.WellFormed false := by
  have hbreak : (Node.loopControl .break default).WellFormed true := .loopControl _ _
  have hevaluate : (Node.evaluate value default).WellFormed true := .evaluate _ _
  have hlast : (Node.text "last" default).WellFormed true := .text _ _
  have hconditional : (Node.conditional
      [⟨value, [.loopControl .break default]⟩, ⟨value, [.evaluate value default]⟩]
      (some [.text "last" default]) default).WellFormed true :=
    .conditional (List.cons_ne_nil _ _) (by simp [hbreak, hevaluate]) (by simpa using hlast) _
  have hset : (Node.set [.name "a", .name "b"] value default).WellFormed true :=
    .set (.inl ⟨["a", "b"], ⟨List.cons_ne_nil _ _, by decide⟩, rfl⟩) _ _
  have himport :
      (Node.importNames value [⟨"a", some "b"⟩, ⟨"c", none⟩] default).WellFormed false :=
    .importNames _ (List.cons_ne_nil _ _) _
  have hmacro : (PlainHeader.macroBlock "m" [⟨"p", none⟩, ⟨"q", some value⟩]).WellFormed :=
    trivial
  have hcall : (PlainHeader.callBlock [⟨"p", none⟩] call).WellFormed := ⟨_, _, _, rfl⟩
  have hupper : (PlainHeader.filterBlock [upper]).WellFormed := List.cons_ne_nil _ _
  have hfilter : ((PlainHeader.filterBlock [upper]).node [] default).WellFormed false :=
    .plain hupper (by simp) _
  intro node hnode
  simp only [nodes, List.mem_cons, List.not_mem_nil, or_false] at hnode
  rcases hnode with rfl | rfl | rfl
  · exact .loop ⟨List.cons_ne_nil _ _, by decide⟩ _ _ _ (by simpa using hconditional)
      (by simpa using hset) _
  · exact .plain hmacro (List.forall_mem_singleton.2 himport) _
  · exact .plain hcall (List.forall_mem_singleton.2 hfilter) _

theorem tokens_match : List.Forall₂ Token.Matches tokens (Node.printAll nodes) := by
  have hbare (text : String) : (block [.name text]).Matches (.bare text) :=
    .block (.lexeme _ .nil)
  have hchosen {options : List (List LexemeKind)} {segments : List Segment} {rest : List Lexeme}
      (kinds : List LexemeKind) (hkinds : kinds ∈ options) (hrest : Spell segments rest) :
      Spell (.choice options :: segments) (lexemes kinds ++ rest) :=
    .choice (by simpa [lexemes, Function.comp_def] using hkinds) hrest
  refine .cons (.block ?_) <| .cons (.block ?_) <| .cons (hbare _) <| .cons (.block ?_) <|
    .cons (.block ?_) <| .cons (hbare _) <| .cons (.text _ _) <| .cons (hbare _) <|
    .cons (hbare _) <| .cons (.block ?_) <| .cons (hbare _) <| .cons (.block ?_) <|
    .cons (.block ?_) <| .cons (.block ?_) <| .cons (.block ?_) <| .cons (.block ?_) <|
    .cons (hbare _) <| .cons (hbare _) .nil
  · iterate 9 refine .lexeme _ ?_
    exact .expr value_writtenAs (.lexeme _ (.expr value_writtenAs (.lexeme _ .nil)))
  · exact hchosen [.name "if"] (by simp) (.expr value_writtenAs .nil)
  · exact hchosen [.name "elif"] (by simp) (.expr value_writtenAs .nil)
  · exact .lexeme _ (.expr value_writtenAs .nil)
  · iterate 9 refine .lexeme _ ?_
    exact .expr value_writtenAs .nil
  · iterate 7 refine .lexeme _ ?_
    exact .expr value_writtenAs (.lexeme _ .nil)
  · refine .lexeme _ (.expr value_writtenAs ?_)
    iterate 6 refine .lexeme _ ?_
    exact hchosen [.name "with", .name "context"] (by simp [Segment.contexts]) .nil
  · exact .lexeme _ (hchosen [.name "m"] (by simp) .nil)
  · iterate 4 refine .lexeme _ ?_
    exact .call call_acceptedFrom
  · exact .lexeme _ (.filter upper_acceptedFrom .nil)

end Sample

/-- A loop with a conditional in it, a macro and a call block. -/
theorem Node.ofTokens_print_nested :
    (∀ node ∈ Sample.nodes, node.WellFormed false) ∧
    List.Forall₂ Token.Matches Sample.tokens (Node.printAll Sample.nodes) ∧
    ∃ read, Node.ofTokens (Sample.tokens ++ [.eof 0]) = .ok read ∧
      read.map Node.spanless = Sample.nodes.map Node.spanless :=
  ⟨Sample.nodes_wellFormed, Sample.tokens_match,
    Node.ofTokens_print Sample.nodes_wellFormed Sample.tokens_match 0⟩

end TemplateVariables
