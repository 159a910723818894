import TemplateVariables.Proofs.Expr.Printing

/-!
# How expressions are read

Each reader is described by the rules of one relation, which says from which
cursor to which cursor it gets and what it makes of the lexemes between them.
What holds of every expression that is read is proved by induction on the rules,
without opening a reader again.
-/

namespace TemplateVariables

namespace Parser

/-- An item of a bracketed series. -/
inductive Item where
  | expr (value : Expr)
  | argument (arg : Argument)
  | entry (pair : Expr × Expr)

/-- What a reader is asked for, together with its result.  A tail is given the value that
stands before it. -/
inductive Form where
  | expression (level : Level) (value : Expr)
  | operation (power : Nat) (value : Expr)
  | operatorTail (power : Nat) (left value : Expr)
  | conditionalTail (head value : Expr)
  | test (tested value : Expr)
  | signed (value : Expr)
  | operand (value : Expr)
  | primary (value : Expr)
  | accessTail (base value : Expr)
  | filterTail (base value : Expr)
  | filterCall (call : FilterCall)
  | arguments? (args : Option (List Argument))
  | subscriptIndex (value : Expr)
  | sliceTail (start : Option Expr) (opened : Span) (value : Expr)
  | slicePart (part : Option Expr)
  | group (opened : Span) (value : Expr)
  | groupTail (items : List Expr)
  | series (closing : Punct) (items : List Item)
  | seriesTail (closing : Punct) (items : List Item)
  | item (value : Item)
  | tuple (level : Level) (value : Expr)
  | tupleTail (level : Level) (items : List Expr)

/-- Whether `not` stands at a cursor, and where the name of the test begins. -/
def Negates (cursor : Cursor) : Bool → Cursor → Prop
  | true, start => ∃ span hsize, cursor.take? (.name "not") = some ⟨span, start, hsize⟩
  | false, start => cursor.take? (.name "not") = none ∧ start = cursor

/-- The rules by which readers get from one cursor to another. -/
inductive Reads (tagEnd : Span) : Form → Cursor → Cursor → Prop where
  | above {power : Nat} {value : Expr} {cursor next : Cursor}
      (hoperation : Reads tagEnd (.operation power value) cursor next) :
      Reads tagEnd (.expression (.above power) value) cursor next
  | full {head value : Expr} {cursor middle next : Cursor}
      (hoperation : Reads tagEnd (.operation 0 head) cursor middle)
      (htail : Reads tagEnd (.conditionalTail head value) middle next) :
      Reads tagEnd (.expression .full value) cursor next
  | operation {power : Nat} {left value : Expr} {cursor middle next : Cursor}
      (hsigned : Reads tagEnd (.signed left) cursor middle)
      (htail : Reads tagEnd (.operatorTail power left value) middle next) :
      Reads tagEnd (.operation power value) cursor next
  -- Operators
  | operatorStop {power : Nat} {left : Expr} {cursor : Cursor}
      (hstop : cursor.connective = .ok none) :
      Reads tagEnd (.operatorTail power left left) cursor cursor
  | operatorLoose {power : Nat} {left : Expr} {cursor afterOp : Cursor}
      {connective : Connective} {hsize : afterOp.size < cursor.size}
      (hconnective : cursor.connective = .ok (some ⟨connective, afterOp, hsize⟩))
      (hloose : connective.leftPower < power) :
      Reads tagEnd (.operatorTail power left left) cursor cursor
  | operatorTest {power : Nat} {left tested value : Expr}
      {cursor afterOp afterTest next : Cursor} {hsize : afterOp.size < cursor.size}
      (hconnective : cursor.connective = .ok (some ⟨.test, afterOp, hsize⟩))
      (htight : ¬Connective.test.leftPower < power)
      (htest : Reads tagEnd (.test left tested) afterOp afterTest)
      (htail : Reads tagEnd (.operatorTail power tested value) afterTest next) :
      Reads tagEnd (.operatorTail power left value) cursor next
  | operatorJoin {power : Nat} {left right value : Expr} {op : BinaryOp}
      {cursor afterOp afterRight next : Cursor} {hsize : afterOp.size < cursor.size}
      (hconnective : cursor.connective = .ok (some ⟨.operator op, afterOp, hsize⟩))
      (htight : ¬(Connective.operator op).leftPower < power)
      (hright : Reads tagEnd (.expression (.above op.powers.2) right) afterOp afterRight)
      (htail : Reads tagEnd
        (.operatorTail power (.binary op left right (left.span.cover right.span)) value)
        afterRight next) :
      Reads tagEnd (.operatorTail power left value) cursor next
  | conditionalStop {head : Expr} {cursor : Cursor}
      (hif : cursor.take? (.name "if") = none) :
      Reads tagEnd (.conditionalTail head head) cursor cursor
  | conditionalThen {head condition value : Expr} {span : Span}
      {cursor afterIf afterCondition next : Cursor} {hsize : afterIf.size < cursor.size}
      (hif : cursor.take? (.name "if") = some ⟨span, afterIf, hsize⟩)
      (hcondition : Reads tagEnd (.expression (.above 0) condition) afterIf afterCondition)
      (helse : afterCondition.take? (.name "else") = none)
      (htail : Reads tagEnd
        (.conditionalTail
          (.conditional head condition none (afterCondition.spanFrom head.span)) value)
        afterCondition next) :
      Reads tagEnd (.conditionalTail head value) cursor next
  | conditionalElse {head condition otherwise value : Expr} {span elseSpan : Span}
      {cursor afterIf afterCondition afterElse afterOther next : Cursor}
      {hsize : afterIf.size < cursor.size} {hsize' : afterElse.size < afterCondition.size}
      (hif : cursor.take? (.name "if") = some ⟨span, afterIf, hsize⟩)
      (hcondition : Reads tagEnd (.expression (.above 0) condition) afterIf afterCondition)
      (helse : afterCondition.take? (.name "else") = some ⟨elseSpan, afterElse, hsize'⟩)
      (hotherwise : Reads tagEnd (.expression .full otherwise) afterElse afterOther)
      (htail : Reads tagEnd
        (.conditionalTail
          (.conditional head condition (some otherwise) (afterOther.spanFrom head.span)) value)
        afterOther next) :
      Reads tagEnd (.conditionalTail head value) cursor next
  -- Tests
  | testArguments {value : Expr} {name : DottedName} {args : List Argument} {negated : Bool}
      {span : Span} {cursor start afterName next : Cursor} {hsize : afterName.size < start.size}
      (hnot : Negates cursor negated start)
      (hname : start.expectDotted tagEnd .test = .ok ⟨(name, span), afterName, hsize⟩)
      (hargs : Reads tagEnd (.arguments? (some args)) afterName next) :
      Reads tagEnd
        (.test value (.test value name args negated (next.spanFrom value.span))) cursor next
  | testBare {value head arg : Expr} {name : DottedName} {negated : Bool} {span : Span}
      {cursor start afterName afterArgs afterHead next : Cursor}
      {hsize : afterName.size < start.size}
      (hnot : Negates cursor negated start)
      (hname : start.expectDotted tagEnd .test = .ok ⟨(name, span), afterName, hsize⟩)
      (hargs : Reads tagEnd (.arguments? none) afterName afterArgs)
      (hbare : afterArgs.atBareArgument = true)
      (hhead : Reads tagEnd (.primary head) afterArgs afterHead)
      (htail : Reads tagEnd (.accessTail head arg) afterHead next) :
      Reads tagEnd
        (.test value (.test value name [{ name := none, value := arg }] negated
          (next.spanFrom value.span))) cursor next
  | testPlain {value : Expr} {name : DottedName} {negated : Bool} {span : Span}
      {cursor start afterName next : Cursor} {hsize : afterName.size < start.size}
      (hnot : Negates cursor negated start)
      (hname : start.expectDotted tagEnd .test = .ok ⟨(name, span), afterName, hsize⟩)
      (hargs : Reads tagEnd (.arguments? none) afterName next)
      (hbare : ¬next.atBareArgument = true) :
      Reads tagEnd
        (.test value (.test value name [] negated (next.spanFrom value.span))) cursor next
  -- Operands
  | signedOperator {op : UnaryOp} {inner : Expr} {start : Span} {cursor afterOp next : Cursor}
      {hsize : afterOp.size < cursor.size}
      (hop : cursor.unaryOp? = some ⟨(op, start), afterOp, hsize⟩)
      (hinner : Reads tagEnd (.expression (.above op.power) inner) afterOp next) :
      Reads tagEnd (.signed (.unary op inner (start.cover inner.span))) cursor next
  | signedOperand {value : Expr} {cursor next : Cursor} (hop : cursor.unaryOp? = none)
      (hoperand : Reads tagEnd (.operand value) cursor next) :
      Reads tagEnd (.signed value) cursor next
  | operand {head accessed value : Expr} {cursor afterHead afterAccess next : Cursor}
      (hhead : Reads tagEnd (.primary head) cursor afterHead)
      (haccess : Reads tagEnd (.accessTail head accessed) afterHead afterAccess)
      (hfilters : Reads tagEnd (.filterTail accessed value) afterAccess next) :
      Reads tagEnd (.operand value) cursor next
  | word {word : String} {span : Span} {value : Expr} {cursor next : Cursor}
      {hsize : next.size < cursor.size}
      (hnext : cursor.next? = some ⟨⟨.name word, span⟩, next, hsize⟩)
      (hword : Expr.ofWord? word span = some value) :
      Reads tagEnd (.primary value) cursor next
  | number {text : String} {span : Span} {cursor next : Cursor}
      {hsize : next.size < cursor.size}
      (hnext : cursor.next? = some ⟨⟨.number text, span⟩, next, hsize⟩) :
      Reads tagEnd (.primary (.literal (.number text) span)) cursor next
  | str {text whole : String} {span wholeSpan : Span} {cursor afterFirst next : Cursor}
      {hsize : afterFirst.size < cursor.size} {hmoreSize : next.size < afterFirst.size + 1}
      (hnext : cursor.next? = some ⟨⟨.str text, span⟩, afterFirst, hsize⟩)
      (hmore : afterFirst.moreStrings text span = ⟨(whole, wholeSpan), next, hmoreSize⟩) :
      Reads tagEnd (.primary (.literal (.str whole) wholeSpan)) cursor next
  | group {value : Expr} {opened : Span} {cursor inside next : Cursor}
      {hsize : inside.size < cursor.size}
      (hopen : cursor.next? = some ⟨⟨.punct .lparen, opened⟩, inside, hsize⟩)
      (hgroup : Reads tagEnd (.group opened value) inside next) :
      Reads tagEnd (.primary value) cursor next
  | list {items : List Expr} {opened : Span} {cursor inside next : Cursor}
      {hsize : inside.size < cursor.size}
      (hopen : cursor.next? = some ⟨⟨.punct .lbracket, opened⟩, inside, hsize⟩)
      (hitems : Reads tagEnd (.series .rbracket (items.map .expr)) inside next) :
      Reads tagEnd (.primary (.list items (next.spanFrom opened))) cursor next
  | dict {entries : List (Expr × Expr)} {opened : Span} {cursor inside next : Cursor}
      {hsize : inside.size < cursor.size}
      (hopen : cursor.next? = some ⟨⟨.punct .lbrace, opened⟩, inside, hsize⟩)
      (hentries : Reads tagEnd (.series .rbrace (entries.map .entry)) inside next) :
      Reads tagEnd (.primary (.dict entries (next.spanFrom opened))) cursor next
  -- Accesses and filters
  | accessStop {base : Expr} {cursor : Cursor} (hdot : cursor.take? (.punct .dot) = none)
      (hlbracket : cursor.take? (.punct .lbracket) = none)
      (hlparen : cursor.take? (.punct .lparen) = none) :
      Reads tagEnd (.accessTail base base) cursor cursor
  | accessAttribute {base value : Expr} {name : String} {span : Span}
      {cursor afterDot afterName next : Cursor} {hsize : afterDot.size < cursor.size}
      {hsize' : afterName.size < afterDot.size}
      (hdot : cursor.take? (.punct .dot) = some ⟨span, afterDot, hsize⟩)
      (hname : attributeName tagEnd afterDot = .ok ⟨name, afterName, hsize'⟩)
      (htail : Reads tagEnd
        (.accessTail (.attribute base name (afterName.spanFrom base.span)) value)
        afterName next) :
      Reads tagEnd (.accessTail base value) cursor next
  | accessSubscript {base index value : Expr} {opened span : Span}
      {cursor inside afterIndex closed next : Cursor} {hsize : inside.size < cursor.size}
      {hsize' : closed.size < afterIndex.size} (hdot : cursor.take? (.punct .dot) = none)
      (hopen : cursor.take? (.punct .lbracket) = some ⟨opened, inside, hsize⟩)
      (hindex : Reads tagEnd (.subscriptIndex index) inside afterIndex)
      (hclose : afterIndex.take? (.punct .rbracket) = some ⟨span, closed, hsize'⟩)
      (htail : Reads tagEnd
        (.accessTail (.subscript base index (closed.spanFrom base.span)) value) closed next) :
      Reads tagEnd (.accessTail base value) cursor next
  | accessCall {base value : Expr} {args : List Argument} {opened : Span}
      {cursor inside closed next : Cursor} {hsize : inside.size < cursor.size}
      (hdot : cursor.take? (.punct .dot) = none)
      (hlbracket : cursor.take? (.punct .lbracket) = none)
      (hopen : cursor.take? (.punct .lparen) = some ⟨opened, inside, hsize⟩)
      (hargs : Reads tagEnd (.series .rparen (args.map .argument)) inside closed)
      (htail : Reads tagEnd
        (.accessTail (.call base args (closed.spanFrom base.span)) value) closed next) :
      Reads tagEnd (.accessTail base value) cursor next
  | filterStop {base : Expr} {cursor : Cursor} (hbar : cursor.take? (.punct .pipe) = none) :
      Reads tagEnd (.filterTail base base) cursor cursor
  | filterNext {base value : Expr} {call : FilterCall} {span : Span}
      {cursor afterBar afterFilter next : Cursor} {hsize : afterBar.size < cursor.size}
      (hbar : cursor.take? (.punct .pipe) = some ⟨span, afterBar, hsize⟩)
      (hcall : Reads tagEnd (.filterCall call) afterBar afterFilter)
      (htail : Reads tagEnd
        (.filterTail (.filter base call (base.span.cover call.span)) value) afterFilter next) :
      Reads tagEnd (.filterTail base value) cursor next
  | filterCall {name : DottedName} {args : Option (List Argument)} {start : Span}
      {cursor afterName next : Cursor} {hsize : afterName.size < cursor.size}
      (hname : cursor.expectDotted tagEnd .filter = .ok ⟨(name, start), afterName, hsize⟩)
      (hargs : Reads tagEnd (.arguments? args) afterName next) :
      Reads tagEnd
        (.filterCall { name, args := args.getD [], span := next.spanFrom start }) cursor next
  | argumentsNone {cursor : Cursor} (hopen : cursor.take? (.punct .lparen) = none) :
      Reads tagEnd (.arguments? none) cursor cursor
  | argumentsSome {args : List Argument} {opened : Span} {cursor inside next : Cursor}
      {hsize : inside.size < cursor.size}
      (hopen : cursor.take? (.punct .lparen) = some ⟨opened, inside, hsize⟩)
      (hargs : Reads tagEnd (.series .rparen (args.map .argument)) inside next) :
      Reads tagEnd (.arguments? (some args)) cursor next
  -- Subscripts
  | index {value : Expr} {cursor next : Cursor} (hstart : cursor.take? (.punct .colon) = none)
      (hvalue : Reads tagEnd (.expression .full value) cursor next)
      (hcolon : next.take? (.punct .colon) = none) :
      Reads tagEnd (.subscriptIndex value) cursor next
  | sliceFromStart {value : Expr} {span : Span} {cursor afterColon next : Cursor}
      {hsize : afterColon.size < cursor.size}
      (hcolon : cursor.take? (.punct .colon) = some ⟨span, afterColon, hsize⟩)
      (htail : Reads tagEnd
        (.sliceTail none ((cursor.rest.head?.map (·.span)).getD tagEnd) value)
        afterColon next) :
      Reads tagEnd (.subscriptIndex value) cursor next
  | sliceFrom {start value : Expr} {span : Span} {cursor afterStart afterColon next : Cursor}
      {hsize : afterColon.size < afterStart.size}
      (hnone : cursor.take? (.punct .colon) = none)
      (hstart : Reads tagEnd (.expression .full start) cursor afterStart)
      (hcolon : afterStart.take? (.punct .colon) = some ⟨span, afterColon, hsize⟩)
      (htail : Reads tagEnd
        (.sliceTail (some start) ((cursor.rest.head?.map (·.span)).getD tagEnd) value)
        afterColon next) :
      Reads tagEnd (.subscriptIndex value) cursor next
  | sliceStep {start stop step : Option Expr} {opened span : Span}
      {cursor afterStop afterColon next : Cursor} {hsize : afterColon.size < afterStop.size}
      (hstop : Reads tagEnd (.slicePart stop) cursor afterStop)
      (hcolon : afterStop.take? (.punct .colon) = some ⟨span, afterColon, hsize⟩)
      (hstep : Reads tagEnd (.slicePart step) afterColon next) :
      Reads tagEnd
        (.sliceTail start opened (.slice start stop step (next.spanFrom opened))) cursor next
  | sliceStop {start stop : Option Expr} {opened : Span} {cursor next : Cursor}
      (hstop : Reads tagEnd (.slicePart stop) cursor next)
      (hcolon : next.take? (.punct .colon) = none) :
      Reads tagEnd
        (.sliceTail start opened (.slice start stop none (next.spanFrom opened))) cursor next
  | partNone {cursor : Cursor}
      (hkind : cursor.kind? = none ∨ cursor.kind? = some (.punct .colon) ∨
        cursor.kind? = some (.punct .rbracket)) :
      Reads tagEnd (.slicePart none) cursor cursor
  | partSome {value : Expr} {cursor next : Cursor}
      (hkind : ¬(cursor.kind? = none ∨ cursor.kind? = some (.punct .colon) ∨
        cursor.kind? = some (.punct .rbracket)))
      (hvalue : Reads tagEnd (.expression .full value) cursor next) :
      Reads tagEnd (.slicePart (some value)) cursor next
  -- Brackets
  | groupEmpty {opened span : Span} {cursor next : Cursor} {hsize : next.size < cursor.size}
      (hclose : cursor.take? (.punct .rparen) = some ⟨span, next, hsize⟩) :
      Reads tagEnd (.group opened (.tuple [] (next.spanFrom opened))) cursor next
  | groupTuple {first : Expr} {others : List Expr} {opened span : Span}
      {cursor afterFirst afterItems next : Cursor} {hsize : next.size < afterItems.size}
      (hnone : cursor.take? (.punct .rparen) = none)
      (hfirst : Reads tagEnd (.expression .full first) cursor afterFirst)
      (hcomma : afterFirst.kind? = some (.punct .comma))
      (hothers : Reads tagEnd (.groupTail others) afterFirst afterItems)
      (hclose : afterItems.take? (.punct .rparen) = some ⟨span, next, hsize⟩) :
      Reads tagEnd (.group opened (.tuple (first :: others) (next.spanFrom opened))) cursor next
  | groupSingle {value : Expr} {opened span : Span} {cursor afterValue next : Cursor}
      {hsize : next.size < afterValue.size}
      (hnone : cursor.take? (.punct .rparen) = none)
      (hvalue : Reads tagEnd (.expression .full value) cursor afterValue)
      (hcomma : ¬afterValue.kind? = some (.punct .comma))
      (hclose : afterValue.take? (.punct .rparen) = some ⟨span, next, hsize⟩) :
      Reads tagEnd (.group opened value) cursor next
  | groupTailStop {cursor : Cursor} (hcomma : cursor.take? (.punct .comma) = none) :
      Reads tagEnd (.groupTail []) cursor cursor
  | groupTailComma {span : Span} {cursor next : Cursor} {hsize : next.size < cursor.size}
      (hcomma : cursor.take? (.punct .comma) = some ⟨span, next, hsize⟩)
      (hclose : next.kind? = some (.punct .rparen)) :
      Reads tagEnd (.groupTail []) cursor next
  | groupTailItem {first : Expr} {others : List Expr} {span : Span}
      {cursor afterComma afterFirst next : Cursor} {hsize : afterComma.size < cursor.size}
      (hcomma : cursor.take? (.punct .comma) = some ⟨span, afterComma, hsize⟩)
      (hmore : ¬afterComma.kind? = some (.punct .rparen))
      (hfirst : Reads tagEnd (.expression .full first) afterComma afterFirst)
      (hothers : Reads tagEnd (.groupTail others) afterFirst next) :
      Reads tagEnd (.groupTail (first :: others)) cursor next
  | seriesEmpty {closing : Punct} {span : Span} {cursor next : Cursor}
      {hsize : next.size < cursor.size} (hclosing : closing.opening?.isSome = true)
      (hclose : cursor.take? (.punct closing) = some ⟨span, next, hsize⟩) :
      Reads tagEnd (.series closing []) cursor next
  | series {closing : Punct} {first : Item} {others : List Item} {span : Span}
      {cursor afterFirst afterItems next : Cursor} {hsize : next.size < afterItems.size}
      (hclosing : closing.opening?.isSome = true)
      (hnone : ¬cursor.kind? = some (.punct closing))
      (hfirst : Reads tagEnd (.item first) cursor afterFirst)
      (hothers : Reads tagEnd (.seriesTail closing others) afterFirst afterItems)
      (hclose : afterItems.take? (.punct closing) = some ⟨span, next, hsize⟩) :
      Reads tagEnd (.series closing (first :: others)) cursor next
  | seriesTailStop {closing : Punct} {cursor : Cursor}
      (hclose : cursor.kind? = some (.punct closing)) :
      Reads tagEnd (.seriesTail closing []) cursor cursor
  | seriesTailComma {closing : Punct} {span : Span} {cursor next : Cursor}
      {hsize : next.size < cursor.size} (hnone : ¬cursor.kind? = some (.punct closing))
      (hcomma : cursor.take? (.punct .comma) = some ⟨span, next, hsize⟩)
      (hclose : next.kind? = some (.punct closing)) :
      Reads tagEnd (.seriesTail closing []) cursor next
  | seriesTailItem {closing : Punct} {first : Item} {others : List Item} {span : Span}
      {cursor afterComma afterFirst next : Cursor} {hsize : afterComma.size < cursor.size}
      (hnone : ¬cursor.kind? = some (.punct closing))
      (hcomma : cursor.take? (.punct .comma) = some ⟨span, afterComma, hsize⟩)
      (hmore : ¬afterComma.kind? = some (.punct closing))
      (hfirst : Reads tagEnd (.item first) afterComma afterFirst)
      (hothers : Reads tagEnd (.seriesTail closing others) afterFirst next) :
      Reads tagEnd (.seriesTail closing (first :: others)) cursor next
  | itemExpr {value : Expr} {cursor next : Cursor}
      (hvalue : Reads tagEnd (.expression .full value) cursor next) :
      Reads tagEnd (.item (.expr value)) cursor next
  | itemSplat {value : Expr} {span : Span} {cursor afterStar next : Cursor}
      {hsize : afterStar.size < cursor.size}
      (hstar : (cursor.take? (.punct .star) <|> cursor.take? (.punct .power)) =
        some ⟨span, afterStar, hsize⟩)
      (hvalue : Reads tagEnd (.expression .full value) afterStar next) :
      Reads tagEnd (.item (.argument { name := none, value })) cursor next
  | itemKeyword {word : String} {value : Expr} {cursor afterWord next : Cursor}
      {hsize : afterWord.size < cursor.size}
      (hstar : (cursor.take? (.punct .star) <|> cursor.take? (.punct .power)) = none)
      (hword : cursor.keyword? = some ⟨word, afterWord, hsize⟩)
      (hvalue : Reads tagEnd (.expression .full value) afterWord next) :
      Reads tagEnd (.item (.argument { name := some word, value })) cursor next
  | itemPositional {value : Expr} {cursor next : Cursor}
      (hstar : (cursor.take? (.punct .star) <|> cursor.take? (.punct .power)) = none)
      (hword : cursor.keyword? = none)
      (hvalue : Reads tagEnd (.expression .full value) cursor next) :
      Reads tagEnd (.item (.argument { name := none, value })) cursor next
  | itemEntry {key value : Expr} {span : Span} {cursor afterKey afterColon next : Cursor}
      {hsize : afterColon.size < afterKey.size}
      (hkey : Reads tagEnd (.expression .full key) cursor afterKey)
      (hcolon : afterKey.take? (.punct .colon) = some ⟨span, afterColon, hsize⟩)
      (hvalue : Reads tagEnd (.expression .full value) afterColon next) :
      Reads tagEnd (.item (.entry (key, value))) cursor next
  | tupleSingle {level : Level} {value : Expr} {cursor next : Cursor}
      (hvalue : Reads tagEnd (.expression level value) cursor next)
      (hcomma : ¬next.kind? = some (.punct .comma)) :
      Reads tagEnd (.tuple level value) cursor next
  | tuple {level : Level} {first : Expr} {others : List Expr} {cursor afterFirst next : Cursor}
      (hfirst : Reads tagEnd (.expression level first) cursor afterFirst)
      (hcomma : afterFirst.kind? = some (.punct .comma))
      (hothers : Reads tagEnd (.tupleTail level others) afterFirst next) :
      Reads tagEnd (.tuple level (.tuple (first :: others) (next.spanFrom first.span)))
        cursor next
  | tupleTailStop {level : Level} {cursor : Cursor}
      (hcomma : cursor.take? (.punct .comma) = none) :
      Reads tagEnd (.tupleTail level []) cursor cursor
  | tupleTailComma {level : Level} {span : Span} {cursor next : Cursor}
      {hsize : next.size < cursor.size}
      (hcomma : cursor.take? (.punct .comma) = some ⟨span, next, hsize⟩)
      (hend : next.atListEnd = true) :
      Reads tagEnd (.tupleTail level []) cursor next
  | tupleTailItem {level : Level} {first : Expr} {others : List Expr} {span : Span}
      {cursor afterComma afterFirst next : Cursor} {hsize : afterComma.size < cursor.size}
      (hcomma : cursor.take? (.punct .comma) = some ⟨span, afterComma, hsize⟩)
      (hmore : ¬afterComma.atListEnd = true)
      (hfirst : Reads tagEnd (.expression level first) afterComma afterFirst)
      (hothers : Reads tagEnd (.tupleTail level others) afterFirst next) :
      Reads tagEnd (.tupleTail level (first :: others)) cursor next

/-! ## The readers follow the rules -/

/-- The reader of the expressions inside a larger one follows the rules. -/
def Nested.Follows (tagEnd : Span) {bound : Nat} (nested : Nested bound) : Prop :=
  ∀ level cursor hbound, Ensures (nested level cursor hbound)
    (fun step => Reads tagEnd (.expression level step.value) cursor step.next)

variable {tagEnd : Span}

theorem Ensures.refl {α : Type} (reading : Except ParseError α) :
    Ensures reading (fun value => reading = .ok value) :=
  ⟨fun _ hok => hok⟩

theorem expect_takes (cursor : Cursor) (kind : LexemeKind) :
    Ensures (cursor.expect tagEnd kind) (fun step => cursor.take? kind = some step) := by
  unfold Cursor.expect
  split
  · next htake => exact Ensures.ok htake
  · exact Ensures.error

theorem expectInside_takes (cursor : Cursor) (bracket : Punct) (opened : Span) (mark : Punct) :
    Ensures (cursor.expectInside tagEnd bracket opened mark)
      (fun step => cursor.take? (.punct mark) = some step) := by
  unfold Cursor.expectInside
  split
  · exact Ensures.error
  · exact expect_takes cursor _

section Series

variable {α : Type} {bound : Nat} {toItem : α → Item}
  {item : (cursor : Cursor) → cursor.size < bound → Reading α cursor.size}
  (hitem : ∀ cursor hbound, Ensures (item cursor hbound)
    (fun step => Reads tagEnd (.item (toItem step.value)) cursor step.next))

include hitem in
theorem seriesTail_follows (opening closing : Punct) (opened : Span) (cursor : Cursor)
    (hbound : cursor.size < bound) :
    Ensures (seriesTail tagEnd item opening closing opened cursor hbound)
      (fun step =>
        Reads tagEnd (.seriesTail closing (step.value.map toItem)) cursor step.next) := by
  rw [seriesTail]
  split
  · next hclose => exact Ensures.ok (.seriesTailStop hclose)
  next hnone =>
  apply (expectInside_takes cursor opening opened .comma).bind
  rintro ⟨_, afterComma, hcommaSize⟩ hcomma
  dsimp only
  split
  · next hclose => exact Ensures.ok (.seriesTailComma hnone hcomma hclose)
  next hmore =>
  apply (hitem afterComma _).bind
  rintro ⟨first, afterFirst, hfirstSize⟩ hfirst
  apply (seriesTail_follows opening closing opened afterFirst _).bind
  rintro ⟨others, next, hnext⟩ hothers
  exact Ensures.ok (.seriesTailItem hnone hcomma hmore hfirst hothers)
termination_by cursor.size

include hitem in
theorem series_follows (opening : Punct) {closing : Punct}
    (hclosing : closing.opening?.isSome = true) (opened : Span) (cursor : Cursor)
    (hbound : cursor.size < bound) :
    Ensures (series tagEnd item opening closing opened cursor hbound)
      (fun step => Reads tagEnd (.series closing (step.value.map toItem)) cursor step.next) := by
  unfold series
  split
  · apply (expectInside_takes cursor opening opened closing).bind
    rintro ⟨_, next, hnext⟩ hclose
    exact Ensures.ok (.seriesEmpty hclosing hclose)
  next hnone =>
  apply (hitem cursor hbound).bind
  rintro ⟨first, afterFirst, hfirstSize⟩ hfirst
  apply (seriesTail_follows hitem opening closing opened afterFirst _).bind
  rintro ⟨others, afterItems, hitemsSize⟩ hothers
  apply (expectInside_takes afterItems opening opened closing).bind
  rintro ⟨_, next, hnext⟩ hclose
  exact Ensures.ok (.series hclosing hnone hfirst hothers hclose)

end Series

section Nested

variable {bound : Nat} {nested : Nested bound} (hnested : nested.Follows tagEnd)

include hnested

theorem groupTail_follows (cursor : Cursor) (hbound : cursor.size < bound) :
    Ensures (groupTail nested cursor hbound)
      (fun step => Reads tagEnd (.groupTail step.value) cursor step.next) := by
  rw [groupTail]
  split
  · next hcomma => exact Ensures.ok (.groupTailStop hcomma)
  · next afterComma hcommaSize hcomma =>
      split
      · next hclose => exact Ensures.ok (.groupTailComma hcomma hclose)
      next hmore =>
      apply (hnested .full afterComma _).bind
      rintro ⟨first, afterFirst, hfirstSize⟩ hfirst
      apply (groupTail_follows afterFirst _).bind
      rintro ⟨others, next, hnext⟩ hothers
      exact Ensures.ok (.groupTailItem hcomma hmore hfirst hothers)
termination_by cursor.size

theorem group_follows (opened : Span) (cursor : Cursor) (hbound : cursor.size < bound) :
    Ensures (group tagEnd nested opened cursor hbound)
      (fun step => Reads tagEnd (.group opened step.value) cursor step.next) := by
  unfold group
  split
  · next hclose => exact Ensures.ok (.groupEmpty hclose)
  next hnone =>
  apply (hnested .full cursor hbound).bind
  rintro ⟨first, afterFirst, hfirstSize⟩ hfirst
  dsimp only
  split
  · next hcomma =>
      apply (groupTail_follows hnested afterFirst _).bind
      rintro ⟨others, afterItems, hitemsSize⟩ hothers
      apply (expectInside_takes afterItems .lparen opened .rparen).bind
      rintro ⟨_, next, hnext⟩ hclose
      exact Ensures.ok (.groupTuple hnone hfirst hcomma hothers hclose)
  · next hcomma =>
      apply (expectInside_takes afterFirst .lparen opened .rparen).bind
      rintro ⟨_, next, hnext⟩ hclose
      exact Ensures.ok (.groupSingle hnone hfirst hcomma hclose)

theorem entry_follows (cursor : Cursor) (hbound : cursor.size < bound) :
    Ensures (entry tagEnd nested cursor hbound)
      (fun step => Reads tagEnd (.item (.entry step.value)) cursor step.next) := by
  unfold entry
  apply (hnested .full cursor hbound).bind
  rintro ⟨key, afterKey, hkeySize⟩ hkey
  apply (expect_takes afterKey (.punct .colon)).bind
  rintro ⟨_, afterColon, hcolonSize⟩ hcolon
  apply (hnested .full afterColon _).bind
  rintro ⟨value, next, hnext⟩ hvalue
  exact Ensures.ok (.itemEntry hkey hcolon hvalue)

theorem argument_follows (cursor : Cursor) (hbound : cursor.size < bound) :
    Ensures (argument nested cursor hbound)
      (fun step => Reads tagEnd (.item (.argument step.value)) cursor step.next) := by
  unfold argument
  split
  · next afterStar hstarSize hstar =>
      apply (hnested .full afterStar _).bind
      rintro ⟨value, next, hnext⟩ hvalue
      exact Ensures.ok (.itemSplat hstar hvalue)
  next hstar =>
  split
  · next word afterWord hwordSize hword =>
      apply (hnested .full afterWord _).bind
      rintro ⟨value, next, hnext⟩ hvalue
      exact Ensures.ok (.itemKeyword hstar hword hvalue)
  · next hword =>
      apply (hnested .full cursor hbound).bind
      rintro ⟨value, next, hnext⟩ hvalue
      exact Ensures.ok (.itemPositional hstar hword hvalue)

theorem arguments_follows (opened : Span) (cursor : Cursor) (hbound : cursor.size < bound) :
    Ensures (arguments tagEnd nested opened cursor hbound)
      (fun step => Reads tagEnd (.series .rparen (step.value.map .argument)) cursor step.next) :=
  series_follows (argument_follows hnested) .lparen rfl opened cursor hbound

theorem arguments?_follows (cursor : Cursor) (hbound : cursor.size < bound) :
    Ensures (arguments? tagEnd nested cursor hbound)
      (fun step => Reads tagEnd (.arguments? step.value) cursor step.next) := by
  unfold arguments?
  split
  · next opened inside hinsideSize hopen =>
      apply (arguments_follows hnested opened inside _).bind
      rintro ⟨args, next, hnext⟩ hargs
      exact Ensures.ok (.argumentsSome hopen hargs)
  · next hopen => exact Ensures.ok (.argumentsNone hopen)

theorem primary_follows (cursor : Cursor) (hbound : cursor.size ≤ bound) :
    Ensures (primary tagEnd nested cursor hbound)
      (fun step => Reads tagEnd (.primary step.value) cursor step.next) := by
  unfold primary
  split
  · exact Ensures.error
  next lexeme next hnextSize hnext =>
  obtain ⟨kind, span⟩ := lexeme
  dsimp only
  split
  · split
    · next hword => exact Ensures.ok (.word hnext hword)
    · exact Ensures.error
  · exact Ensures.ok (.number hnext)
  · exact Ensures.ok (.str hnext rfl)
  · apply (group_follows hnested span next _).bind
    rintro ⟨value, after, hafterSize⟩ hgroup
    exact Ensures.ok (.group hnext hgroup)
  · apply (series_follows (fun cursor hbound => ?_) .lbracket rfl span next _).bind
    · rintro ⟨items, after, hafterSize⟩ hitems
      exact Ensures.ok (.list hnext hitems)
    · constructor
      intro step hstep
      exact .itemExpr ((hnested .full cursor hbound).of_ok step hstep)
  · apply (series_follows (entry_follows hnested) .lbrace rfl span next _).bind
    rintro ⟨entries, after, hafterSize⟩ hentries
    exact Ensures.ok (.dict hnext hentries)
  · exact Ensures.error

theorem slicePart_follows (cursor : Cursor) (hbound : cursor.size < bound) :
    Ensures (slicePart nested cursor hbound)
      (fun step => Reads tagEnd (.slicePart step.value) cursor step.next) := by
  unfold slicePart
  split
  · next hkind => exact Ensures.ok (.partNone hkind)
  next hkind =>
  apply (hnested .full cursor hbound).bind
  rintro ⟨value, next, hnext⟩ hvalue
  exact Ensures.ok (.partSome hkind hvalue)

theorem sliceTail_follows (start : Option Expr) (opened : Span) (cursor : Cursor)
    (hbound : cursor.size < bound) :
    Ensures (sliceTail nested start opened cursor hbound)
      (fun step => Reads tagEnd (.sliceTail start opened step.value) cursor step.next) := by
  unfold sliceTail
  apply (slicePart_follows hnested cursor hbound).bind
  rintro ⟨stop, afterStop, hstopSize⟩ hstop
  dsimp only
  split
  · next afterColon hcolonSize hcolon =>
      apply (slicePart_follows hnested afterColon _).bind
      rintro ⟨step, next, hnext⟩ hstep
      exact Ensures.ok (.sliceStep hstop hcolon hstep)
  · next hcolon => exact Ensures.ok (.sliceStop hstop hcolon)

theorem subscriptIndex_follows (cursor : Cursor) (hbound : cursor.size < bound) :
    Ensures (subscriptIndex tagEnd nested cursor hbound)
      (fun step => Reads tagEnd (.subscriptIndex step.value) cursor step.next) := by
  unfold subscriptIndex
  dsimp only
  split
  · next afterColon hcolonSize hcolon =>
      apply (sliceTail_follows hnested none _ afterColon _).bind
      rintro ⟨value, next, hnext⟩ htail
      exact Ensures.ok (.sliceFromStart hcolon htail)
  next hnone =>
  apply (hnested .full cursor hbound).bind
  rintro ⟨index, afterIndex, hindexSize⟩ hindex
  dsimp only
  split
  · next hcolon => exact Ensures.ok (.index hnone hindex hcolon)
  · next afterColon hcolonSize hcolon =>
      apply (sliceTail_follows hnested (some index) _ afterColon _).bind
      rintro ⟨value, next, hnext⟩ htail
      exact Ensures.ok (.sliceFrom hnone hindex hcolon htail)

theorem accessTail_follows (base : Expr) (cursor : Cursor) (hbound : cursor.size < bound) :
    Ensures (accessTail tagEnd nested base cursor hbound)
      (fun step => Reads tagEnd (.accessTail base step.value) cursor step.next) := by
  rw [accessTail]
  split
  · next afterDot hdotSize hdot =>
      apply (Ensures.refl _).bind
      rintro ⟨name, afterName, hnameSize⟩ hname
      apply (accessTail_follows _ afterName _).bind
      rintro ⟨value, next, hnext⟩ htail
      exact Ensures.ok (.accessAttribute hdot hname htail)
  next hdot =>
  split
  · next opened inside hinsideSize hopen =>
      apply (subscriptIndex_follows hnested inside _).bind
      rintro ⟨index, afterIndex, hindexSize⟩ hindex
      apply (expectInside_takes afterIndex .lbracket opened .rbracket).bind
      rintro ⟨_, closed, hclosedSize⟩ hclose
      apply (accessTail_follows _ closed _).bind
      rintro ⟨value, next, hnext⟩ htail
      exact Ensures.ok (.accessSubscript hdot hopen hindex hclose htail)
  next hlbracket =>
  split
  · next opened inside hinsideSize hopen =>
      apply (arguments_follows hnested opened inside _).bind
      rintro ⟨args, closed, hclosedSize⟩ hargs
      apply (accessTail_follows _ closed _).bind
      rintro ⟨value, next, hnext⟩ htail
      exact Ensures.ok (.accessCall hdot hlbracket hopen hargs htail)
  · next hlparen => exact Ensures.ok (.accessStop hdot hlbracket hlparen)
termination_by cursor.size

theorem filterCall_follows (cursor : Cursor) (hbound : cursor.size < bound) :
    Ensures (filterCall tagEnd nested cursor hbound)
      (fun step => Reads tagEnd (.filterCall step.value) cursor step.next) := by
  unfold filterCall
  apply (Ensures.refl _).bind
  rintro ⟨⟨name, start⟩, afterName, hnameSize⟩ hname
  apply (arguments?_follows hnested afterName _).bind
  rintro ⟨args, next, hnext⟩ hargs
  exact Ensures.ok (.filterCall hname hargs)

theorem filterTail_follows (base : Expr) (cursor : Cursor) (hbound : cursor.size < bound) :
    Ensures (filterTail tagEnd nested base cursor hbound)
      (fun step => Reads tagEnd (.filterTail base step.value) cursor step.next) := by
  rw [filterTail]
  split
  · next hbar => exact Ensures.ok (.filterStop hbar)
  · next afterBar hbarSize hbar =>
      apply (filterCall_follows hnested afterBar _).bind
      rintro ⟨call, afterFilter, hfilterSize⟩ hcall
      apply (filterTail_follows _ afterFilter _).bind
      rintro ⟨value, next, hnext⟩ htail
      exact Ensures.ok (.filterNext hbar hcall htail)
termination_by cursor.size

theorem operand_follows (cursor : Cursor) (hbound : cursor.size ≤ bound) :
    Ensures (operand tagEnd nested cursor hbound)
      (fun step => Reads tagEnd (.operand step.value) cursor step.next) := by
  unfold operand
  apply (primary_follows hnested cursor hbound).bind
  rintro ⟨head, afterHead, hheadSize⟩ hhead
  apply (accessTail_follows hnested head afterHead _).bind
  rintro ⟨accessed, afterAccess, haccessSize⟩ haccess
  apply (filterTail_follows hnested accessed afterAccess _).bind
  rintro ⟨value, next, hnext⟩ hfilters
  exact Ensures.ok (.operand hhead haccess hfilters)

theorem test_follows (value : Expr) (cursor : Cursor) (hbound : cursor.size < bound) :
    Ensures (test tagEnd nested value cursor hbound)
      (fun step => Reads tagEnd (.test value step.value) cursor step.next) := by
  unfold test
  split
  next negated start hstartSize hstart =>
  have hnot : Negates cursor negated start := by
    split at hstart
    · next htake =>
        cases hstart
        exact ⟨_, _, htake⟩
    · next htake =>
        cases hstart
        exact ⟨htake, rfl⟩
  apply (Ensures.refl _).bind
  rintro ⟨⟨name, _⟩, afterName, hnameSize⟩ hname
  apply (arguments?_follows hnested afterName _).bind
  rintro ⟨args?, afterArgs, hargsSize⟩ hargs
  cases args? with
  | some args => exact Ensures.ok (.testArguments hnot hname hargs)
  | none =>
      dsimp only
      split
      · next hbare =>
          apply (primary_follows hnested afterArgs _).bind
          rintro ⟨head, afterHead, hheadSize⟩ hhead
          apply (accessTail_follows hnested head afterHead _).bind
          rintro ⟨arg, next, hnext⟩ htail
          exact Ensures.ok (.testBare hnot hname hargs hbare hhead htail)
      · next hbare => exact Ensures.ok (.testPlain hnot hname hargs hbare)

theorem operatorTail_follows (power : Nat) (left : Expr) (cursor : Cursor)
    (hbound : cursor.size < bound) :
    Ensures (operatorTail tagEnd nested power left cursor hbound)
      (fun step => Reads tagEnd (.operatorTail power left step.value) cursor step.next) := by
  rw [operatorTail]
  apply (Ensures.refl _).bind
  rintro (_ | ⟨connective, afterOp, hopSize⟩) hconnective
  · exact Ensures.ok (.operatorStop hconnective)
  dsimp only
  split
  · next hloose => exact Ensures.ok (.operatorLoose hconnective hloose)
  next htight =>
  cases connective with
  | test =>
      apply (test_follows hnested left afterOp _).bind
      rintro ⟨tested, afterTest, htestSize⟩ htest
      apply (operatorTail_follows power tested afterTest _).bind
      rintro ⟨value, next, hnext⟩ htail
      exact Ensures.ok (.operatorTest hconnective htight htest htail)
  | operator op =>
      apply (hnested (.above op.powers.2) afterOp _).bind
      rintro ⟨right, afterRight, hrightSize⟩ hright
      apply (operatorTail_follows power _ afterRight _).bind
      rintro ⟨value, next, hnext⟩ htail
      exact Ensures.ok (.operatorJoin hconnective htight hright htail)
termination_by cursor.size

theorem signed_follows (cursor : Cursor) (hbound : cursor.size ≤ bound) :
    Ensures (signed tagEnd nested cursor hbound)
      (fun step => Reads tagEnd (.signed step.value) cursor step.next) := by
  unfold signed
  split
  · next op start afterOp hopSize hop =>
      apply (hnested (.above op.power) afterOp _).bind
      rintro ⟨inner, next, hnext⟩ hinner
      exact Ensures.ok (.signedOperator hop hinner)
  · next hop =>
      constructor
      intro step hstep
      exact .signedOperand hop ((operand_follows hnested cursor hbound).of_ok step hstep)

theorem operation_follows (power : Nat) (cursor : Cursor) (hbound : cursor.size ≤ bound) :
    Ensures (operation tagEnd nested power cursor hbound)
      (fun step => Reads tagEnd (.operation power step.value) cursor step.next) := by
  unfold operation
  apply (signed_follows hnested cursor hbound).bind
  rintro ⟨left, afterLeft, hleftSize⟩ hsigned
  apply (operatorTail_follows hnested power left afterLeft _).bind
  rintro ⟨value, next, hnext⟩ htail
  exact Ensures.ok (.operation hsigned htail)

theorem conditionalTail_follows (head : Expr) (cursor : Cursor) (hbound : cursor.size < bound) :
    Ensures (conditionalTail nested head cursor hbound)
      (fun step => Reads tagEnd (.conditionalTail head step.value) cursor step.next) := by
  rw [conditionalTail]
  split
  · next hif => exact Ensures.ok (.conditionalStop hif)
  next afterIf hifSize hif =>
  apply (hnested (.above 0) afterIf _).bind
  rintro ⟨condition, afterCondition, hconditionSize⟩ hcondition
  dsimp only
  split
  · next helse =>
      apply (conditionalTail_follows _ afterCondition _).bind
      rintro ⟨value, next, hnext⟩ htail
      exact Ensures.ok (.conditionalThen hif hcondition helse htail)
  · next afterElse helseSize helse =>
      apply (hnested .full afterElse _).bind
      rintro ⟨otherwise, afterOther, hotherSize⟩ hotherwise
      apply (conditionalTail_follows _ afterOther _).bind
      rintro ⟨value, next, hnext⟩ htail
      exact Ensures.ok (.conditionalElse hif hcondition helse hotherwise htail)
termination_by cursor.size

end Nested

end Parser

theorem Expr.read_follows (tagEnd : Span) (level : Level) (cursor : Cursor) :
    Ensures (Expr.read tagEnd level cursor)
      (fun step => Parser.Reads tagEnd (.expression level step.value) cursor step.next) := by
  have hnested : (Parser.reader tagEnd cursor.size).Follows tagEnd :=
    fun level inner _hinner => read_follows tagEnd level inner
  cases level with
  | above power =>
      rw [Expr.read_above]
      constructor
      intro step hstep
      exact .above ((Parser.operation_follows hnested power cursor _).of_ok step hstep)
  | full =>
      rw [Expr.read]
      apply (Parser.operation_follows hnested 0 cursor _).bind
      rintro ⟨head, afterHead, hheadSize⟩ hoperation
      apply (Parser.conditionalTail_follows hnested head afterHead _).bind
      rintro ⟨value, next, hnext⟩ htail
      exact Ensures.ok (.full hoperation htail)
termination_by cursor.size

theorem Expr.readTupleTail_follows (tagEnd : Span) (level : Level) (cursor : Cursor) :
    Ensures (Expr.readTupleTail tagEnd level cursor)
      (fun step => Parser.Reads tagEnd (.tupleTail level step.value) cursor step.next) := by
  rw [Expr.readTupleTail]
  split
  · next hcomma => exact Ensures.ok (.tupleTailStop hcomma)
  next afterComma hcommaSize hcomma =>
  split
  · next hend => exact Ensures.ok (.tupleTailComma hcomma hend)
  next hmore =>
  apply (Expr.read_follows tagEnd level afterComma).bind
  rintro ⟨first, afterFirst, hfirstSize⟩ hfirst
  apply (readTupleTail_follows tagEnd level afterFirst).bind
  rintro ⟨others, next, hnext⟩ hothers
  exact Ensures.ok (.tupleTailItem hcomma hmore hfirst hothers)
termination_by cursor.size

theorem Expr.readTuple_follows (tagEnd : Span) (level : Level) (cursor : Cursor) :
    Ensures (Expr.readTuple tagEnd level cursor)
      (fun step => Parser.Reads tagEnd (.tuple level step.value) cursor step.next) := by
  unfold Expr.readTuple
  apply (Expr.read_follows tagEnd level cursor).bind
  rintro ⟨first, afterFirst, hfirstSize⟩ hfirst
  dsimp only
  split
  · next hcomma =>
      apply (Expr.readTupleTail_follows tagEnd level afterFirst).bind
      rintro ⟨others, next, hnext⟩ hothers
      exact Ensures.ok (.tuple hfirst hcomma hothers)
  · next hcomma => exact Ensures.ok (.tupleSingle hfirst hcomma)

theorem Expr.readFilter_follows (tagEnd : Span) (cursor : Cursor) :
    Ensures (Expr.readFilter tagEnd cursor)
      (fun step => Parser.Reads tagEnd (.filterCall step.value) cursor step.next) :=
  Parser.filterCall_follows (fun level inner _ => Expr.read_follows tagEnd level inner) cursor
    (Nat.lt_succ_self _)

theorem Expr.ofLexemes_follows (lexemes : List Lexeme) (tagEnd : Span) :
    Ensures (Expr.ofLexemes lexemes tagEnd)
      (fun value => ∃ next, next.kinds = [] ∧
        Parser.Reads tagEnd (.tuple .full value) (Cursor.ofLexemes lexemes) next) := by
  unfold Expr.ofLexemes
  apply (Expr.readTuple_follows tagEnd .full _).bind
  rintro ⟨value, next, hnext⟩ hvalue
  apply Cursor.expectEnd_ensures.bind
  intro _ hend
  exact Ensures.ok ⟨next, hend, hvalue⟩

end TemplateVariables
