import TemplateVariables.Node.Statement
import TemplateVariables.Proofs.Expr.Completeness
import TemplateVariables.Proofs.Expr.Progress

/-!
# Lists of targets

A target is a name or a list of targets in parentheses, and a comma stands between two
targets.  What the reader of targets accepts is said once, as a relation between the places
in front of the targets and behind them, and so are the ways in which it fails.  What a list
of targets is like is then proved of the relation.
-/

namespace TemplateVariables

/-- A comma in front of the cursor is the trailing one of a list of targets. -/
def Cursor.AtTargetsEnd (cursor : Cursor) : Prop :=
  cursor.kind? = some (.name "in") ∨ cursor.atListEnd = true

/-- What is read: one target, or several with commas between them. -/
inductive TargetRule where
  | one
  | several

/-- Between the two places there are targets with these names. -/
inductive ReadsTargets : TargetRule → Cursor → List String → Cursor → Prop where
  | name {word : String} {span : Span} {cursor next : Cursor} {hsize : next.size < cursor.size}
      (hname : cursor.name? = some ⟨(word, span), next, hsize⟩) (hword : word ∉ reservedWords) :
      ReadsTargets .one cursor [word] next
  | group {names : List String} {opened closed : Span} {cursor inside afterNames next : Cursor}
      {hinside : inside.size < cursor.size} {hsize : next.size < afterNames.size}
      (hopen : cursor.take? (.punct .lparen) = some ⟨opened, inside, hinside⟩)
      (hnames : ReadsTargets .several inside names afterNames)
      (hclose : afterNames.take? (.punct .rparen) = some ⟨closed, next, hsize⟩) :
      ReadsTargets .one cursor names next
  | last {names : List String} {cursor next : Cursor}
      (htarget : ReadsTargets .one cursor names next)
      (hcomma : next.take? (.punct .comma) = none) : ReadsTargets .several cursor names next
  | trailing {names : List String} {span : Span} {cursor afterTarget next : Cursor}
      {hsize : next.size < afterTarget.size}
      (htarget : ReadsTargets .one cursor names afterTarget)
      (hcomma : afterTarget.take? (.punct .comma) = some ⟨span, next, hsize⟩)
      (hend : next.AtTargetsEnd) : ReadsTargets .several cursor names next
  | more {names others : List String} {span : Span} {cursor afterTarget afterComma next : Cursor}
      {hsize : afterComma.size < afterTarget.size}
      (htarget : ReadsTargets .one cursor names afterTarget)
      (hcomma : afterTarget.take? (.punct .comma) = some ⟨span, afterComma, hsize⟩)
      (hend : ¬afterComma.AtTargetsEnd)
      (hothers : ReadsTargets .several afterComma others next) :
      ReadsTargets .several cursor (names ++ others) next

namespace Statement

variable (tagEnd : Span)

/-- Behind the cursor a name is missing or reserved, or a list is not closed. -/
inductive TargetsFail (cursor : Cursor) : ParseError → Prop where
  | name {place : Cursor} {error : ParseError} (hplace : cursor.Advances place)
      (hname : place.expectName tagEnd .variableName = .error error) : TargetsFail cursor error
  | reserved {word : String} {span : Span} {place next : Cursor} {hsize : next.size < place.size}
      (hplace : cursor.Advances place)
      (hname : place.name? = some ⟨(word, span), next, hsize⟩) :
      TargetsFail cursor (.invalidSyntax (.reservedTarget word) span)
  | unclosed {opened : Span} {outside inside place : Cursor} {error : ParseError}
      {hinside : inside.size < outside.size} (houtside : cursor.Advances outside)
      (hopen : outside.take? (.punct .lparen) = some ⟨opened, inside, hinside⟩)
      (hplace : inside.Advances place)
      (hclose : place.expectInside tagEnd .lparen opened .rparen = .error error) :
      TargetsFail cursor error

/-- Reads one target. -/
def readTarget (cursor : Cursor) : Reading (List String) cursor.size :=
  match cursor.take? (.punct .lparen) with
  | some ⟨opened, inside, hinside⟩ => do
      let ⟨names, afterNames, hnames⟩ ← readTargets tagEnd inside
      let ⟨_, next, hnext⟩ ← afterNames.expectInside tagEnd .lparen opened .rparen
      return ⟨names, next, Cursor.lt_trans_trans hinside hnames hnext⟩
  | none => do
      let ⟨(name, span), next, hnext⟩ ← cursor.expectName tagEnd .variableName
      if reservedWords.contains name then
        throw (.invalidSyntax (.reservedTarget name) span)
      return ⟨[name], next, hnext⟩

def readRule (rule : TargetRule) (cursor : Cursor) : Reading (List String) cursor.size :=
  match rule with
  | .one => readTarget tagEnd cursor
  | .several => readTargets tagEnd cursor

end Statement

namespace ReadsTargets

variable {rule : TargetRule} {cursor next : Cursor} {names : List String}

theorem advances (hreads : ReadsTargets rule cursor names next) : cursor.Advances next := by
  induction hreads with
  | name hname => exact Cursor.advances_of_name? hname
  | group hopen _ hclose ih =>
      have hclosed := ih.trans (Cursor.advances_of_take? hclose)
      exact (Cursor.advances_of_take? hopen).trans hclosed
  | last _ _ ih => exact ih
  | trailing _ hcomma _ ih => exact ih.trans (Cursor.advances_of_take? hcomma)
  | more _ hcomma _ _ ih ihOthers =>
      exact ih.trans ((Cursor.advances_of_take? hcomma).trans ihOthers)

end ReadsTargets

namespace Statement

variable {tagEnd : Span} {cursor : Cursor}

/-! ## The reader follows the rules -/

theorem TargetsFail.advances {later : Cursor} {error : ParseError}
    (hadvances : cursor.Advances later) (hfail : TargetsFail tagEnd later error) :
    TargetsFail tagEnd cursor error := by
  cases hfail with
  | name hplace hname => exact .name (hadvances.trans hplace) hname
  | reserved hplace hname => exact .reserved (hadvances.trans hplace) hname
  | unclosed houtside hopen hplace hclose =>
      exact .unclosed (hadvances.trans houtside) hopen hplace hclose

/-- The reading follows the rule, or fails as targets do. -/
abbrev FollowsRule (tagEnd : Span) (rule : TargetRule) (cursor : Cursor) : Prop :=
  Settles (readRule tagEnd rule cursor)
    (fun step => ReadsTargets rule cursor step.value step.next) (TargetsFail tagEnd cursor)

/-- Where targets fail later on, they fail behind the cursor. -/
theorem FollowsRule.behind {rule : TargetRule} {later : Cursor}
    (hfollows : FollowsRule tagEnd rule later) (hadvances : cursor.Advances later) :
    Settles (readRule tagEnd rule later)
      (fun step => ReadsTargets rule later step.value step.next) (TargetsFail tagEnd cursor) :=
  hfollows.mono (fun _ hreads => hreads) fun _ hfail => hfail.advances hadvances

theorem readTarget_follows
    (hinside : ∀ inside : Cursor, inside.size < cursor.size →
      FollowsRule tagEnd .several inside) : FollowsRule tagEnd .one cursor := by
  change Settles (readTarget tagEnd cursor) _ _
  unfold readTarget
  cases hopen : cursor.take? (.punct .lparen) with
  | some opened =>
      have hopened := Cursor.advances_of_take? hopen
      refine Settles.bind ((hinside opened.next opened.shorter).behind hopened) ?_
      rintro ⟨names, afterNames, hafterNames⟩ hnames
      dsimp only at hnames ⊢
      cases hclose : afterNames.expectInside tagEnd .lparen opened.value .rparen with
      | error error =>
          have hfail := TargetsFail.unclosed (.refl cursor) hopen hnames.advances hclose
          exact Settles.error hfail
      | ok closed =>
          have htake := (Parser.expectInside_takes afterNames _ _ _).of_ok _ hclose
          have hgroup := ReadsTargets.group hopen hnames htake
          exact Settles.ok hgroup
  | none =>
      cases hname : cursor.expectName tagEnd .variableName with
      | error error => exact Settles.error (.name (.refl cursor) hname)
      | ok named =>
          obtain ⟨⟨word, span⟩, next, hnext⟩ := named
          have hword := ((Cursor.expectName_ensures tagEnd _).of_ok _ hname).1
          change Settles (ite _ _ _) _ _
          by_cases hreserved : reservedWords.contains word = true
          · simp only [hreserved, if_true]
            exact Settles.error (.reserved (.refl cursor) hword)
          · simp only [hreserved]
            rw [List.contains_iff_mem] at hreserved
            exact Settles.ok (.name hword hreserved)

theorem readTargets_follows (tagEnd : Span) (cursor : Cursor) :
    FollowsRule tagEnd .several cursor := by
  have htarget : FollowsRule tagEnd .one cursor :=
    readTarget_follows fun inside _ => readTargets_follows tagEnd inside
  change Settles (readTargets tagEnd cursor) _ _
  rw [readTargets]
  refine Settles.bind htarget ?_
  rintro ⟨names, afterTarget, hsize⟩ hnames
  cases hcomma : afterTarget.take? (.punct .comma) with
  | none =>
      simp only [hcomma]
      exact Settles.ok (.last hnames hcomma)
  | some comma =>
      simp only [hcomma]
      split
      · next hend => exact Settles.ok (.trailing hnames hcomma hend)
      · next hend =>
        have hadvances := hnames.advances.trans (Cursor.advances_of_take? hcomma)
        refine Settles.bind ((readTargets_follows tagEnd comma.next).behind hadvances) ?_
        rintro ⟨others, next, hnext⟩ hothers
        exact Settles.ok (.more hnames hcomma hend hothers)
termination_by cursor.size
decreasing_by
  · assumption
  · exact Cursor.lt_trans hsize comma.shorter

/-- What a successful reading consists of. -/
theorem readTargets_reads (tagEnd : Span) (cursor : Cursor) :
    Ensures (readTargets tagEnd cursor)
      (fun step => ReadsTargets .several cursor step.value step.next) :=
  ⟨(readTargets_follows tagEnd cursor).of_ok⟩

/-! ## What the rules allow is read -/

theorem gives_of_reads {rule : TargetRule} {names : List String} {next : Cursor}
    (hreads : ReadsTargets rule cursor names next) :
    Gives (readRule tagEnd rule cursor) names next := by
  induction hreads with
  | @name word span cursor next hsize hname hword =>
      have hparen : cursor.take? (.punct .lparen) = none := by
        apply Cursor.take?_eq_none
        rw [Cursor.kinds_of_name? hname]
        simp
      have hreserved : ¬reservedWords.contains word = true := by
        simpa using hword
      rw [readRule, readTarget, hparen]
      dsimp only
      rw [Cursor.expectName, hname]
      change Gives (ite _ _ _) _ _
      rw [if_neg hreserved]
      exact Gives.ok
  | group hopen _ hclose ih =>
      rw [readRule, readTarget, hopen]
      refine Gives.bind ih fun _ => ?_
      refine Gives.bind (Gives.of_expectInside hclose) fun _ => ?_
      exact Gives.ok
  | last _ hcomma ih =>
      rw [readRule, readTargets]
      refine Gives.bind ih fun _ => ?_
      simp only [hcomma]
      exact Gives.ok
  | trailing _ hcomma hend ih =>
      rw [readRule, readTargets]
      refine Gives.bind ih fun _ => ?_
      rw [Cursor.AtTargetsEnd] at hend
      simp only [hcomma, hend, if_true]
      exact Gives.ok
  | more _ hcomma hend _ ih ihOthers =>
      rw [readRule, readTargets]
      refine Gives.bind ih fun _ => ?_
      rw [Cursor.AtTargetsEnd] at hend
      simp only [hcomma, hend, if_false]
      refine Gives.bind ihOthers fun _ => ?_
      exact Gives.ok

theorem readTargets_gives (tagEnd : Span) {names : List String} {next : Cursor}
    (hreads : ReadsTargets .several cursor names next) :
    Gives (readTargets tagEnd cursor) names next :=
  gives_of_reads hreads

/-! ## What is assigned to -/

/-- What a `set` tag assigns to: names, or an attribute behind its namespace and a dot. -/
inductive SetTargets (tagEnd : Span) (cursor : Cursor) : List SetTarget → Cursor → Prop where
  | ofNames {names : List String} {next : Cursor} {hsize : next.size < cursor.size}
      (hnames : readTargets tagEnd cursor = .ok ⟨names, next, hsize⟩) :
      SetTargets tagEnd cursor (names.map .name) next
  | ofAttribute {space name : String} {spaceSpan dotSpan nameSpan : Span}
      {afterSpace afterDot next : Cursor} {hafterSpace : afterSpace.size < cursor.size}
      {hafterDot : afterDot.size < afterSpace.size} {hnext : next.size < afterDot.size}
      (hspace : cursor.name? = some ⟨(space, spaceSpan), afterSpace, hafterSpace⟩)
      (hdot : afterSpace.take? (.punct .dot) = some ⟨dotSpan, afterDot, hafterDot⟩)
      (hname : afterDot.expectName tagEnd .attributeName = .ok ⟨(name, nameSpan), next, hnext⟩) :
      SetTargets tagEnd cursor [.attribute space name] next

theorem readSetTargets_follows (tagEnd : Span) (cursor : Cursor) :
    Ensures (readSetTargets tagEnd cursor)
      (fun step => SetTargets tagEnd cursor step.value step.next) := by
  have hnames : Ensures
      (readTargets tagEnd cursor >>= fun step =>
        .ok ⟨step.value.map .name, step.next, step.shorter⟩)
      (fun step : Step (List SetTarget) cursor.size =>
        SetTargets tagEnd cursor step.value step.next) := by
    apply (Parser.Ensures.refl _).bind
    rintro ⟨names, next, hnext⟩ hread
    exact Ensures.ok (.ofNames hread)
  unfold readSetTargets
  cases hspace : cursor.name? with
  | none => exact hnames
  | some step =>
      obtain ⟨⟨space, span⟩, afterSpace, hafterSpace⟩ := step
      cases hdot : afterSpace.take? (.punct .dot) with
      | none =>
          simp only [hdot]
          exact hnames
      | some step =>
          obtain ⟨_, afterDot, hafterDot⟩ := step
          simp only [hdot]
          apply (Parser.Ensures.refl _).bind
          rintro ⟨⟨name, _⟩, next, hnext⟩ hname
          exact Ensures.ok (.ofAttribute hspace hdot hname)

end Statement

end TemplateVariables
