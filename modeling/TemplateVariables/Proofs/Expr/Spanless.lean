import TemplateVariables.Expr

/-!
# Expressions without their spans

Two expressions are the same up to spans when they become equal once every span
in them has been replaced by one and the same span.
-/

namespace TemplateVariables

mutual

/-- The expression with the empty span at the start everywhere. -/
def Expr.spanless : Expr → Expr
  | .literal value _ => .literal value default
  | .identifier name _ => .identifier name default
  | .attribute base name _ => .attribute base.spanless name default
  | .subscript base index _ => .subscript base.spanless index.spanless default
  | .slice start stop step _ =>
      .slice (Expr.spanlessOption start) (Expr.spanlessOption stop)
        (Expr.spanlessOption step) default
  | .call callee args _ => .call callee.spanless (Argument.spanlessList args) default
  | .filter value filter _ => .filter value.spanless filter.spanless default
  | .test value name args negated _ =>
      .test value.spanless name (Argument.spanlessList args) negated default
  | .unary op operand _ => .unary op operand.spanless default
  | .binary op left right _ => .binary op left.spanless right.spanless default
  | .conditional value condition otherwise _ =>
      .conditional value.spanless condition.spanless (Expr.spanlessOption otherwise) default
  | .list items _ => .list (Expr.spanlessList items) default
  | .tuple items _ => .tuple (Expr.spanlessList items) default
  | .dict entries _ => .dict (Expr.spanlessEntries entries) default

def FilterCall.spanless : FilterCall → FilterCall
  | ⟨name, args, _⟩ => ⟨name, Argument.spanlessList args, default⟩

def Expr.spanlessOption : Option Expr → Option Expr
  | none => none
  | some expr => some expr.spanless

def Expr.spanlessList : List Expr → List Expr
  | [] => []
  | expr :: rest => expr.spanless :: Expr.spanlessList rest

def Argument.spanlessList : List Argument → List Argument
  | [] => []
  | ⟨name, value⟩ :: rest => ⟨name, value.spanless⟩ :: Argument.spanlessList rest

def Expr.spanlessEntries : List (Expr × Expr) → List (Expr × Expr)
  | [] => []
  | (key, value) :: rest => (key.spanless, value.spanless) :: Expr.spanlessEntries rest

end

def Argument.spanless (arg : Argument) : Argument where
  name := arg.name
  value := arg.value.spanless

def Expr.spanlessEntry (entry : Expr × Expr) : Expr × Expr :=
  (entry.1.spanless, entry.2.spanless)

@[simp] theorem Expr.spanlessOption_eq_map (option : Option Expr) :
    Expr.spanlessOption option = option.map Expr.spanless := by
  cases option <;> rfl

@[simp] theorem Expr.spanlessList_eq_map (exprs : List Expr) :
    Expr.spanlessList exprs = exprs.map Expr.spanless := by
  induction exprs with
  | nil => rfl
  | cons expr rest ih => rw [Expr.spanlessList, ih, List.map_cons]

@[simp] theorem Argument.spanlessList_eq_map (args : List Argument) :
    Argument.spanlessList args = args.map Argument.spanless := by
  induction args with
  | nil => rfl
  | cons arg rest ih =>
      obtain ⟨name, value⟩ := arg
      rw [Argument.spanlessList, ih, List.map_cons, Argument.spanless]

@[simp] theorem Expr.spanlessEntries_eq_map (entries : List (Expr × Expr)) :
    Expr.spanlessEntries entries = entries.map Expr.spanlessEntry := by
  induction entries with
  | nil => rfl
  | cons entry rest ih =>
      obtain ⟨key, value⟩ := entry
      rw [Expr.spanlessEntries, ih, List.map_cons, Expr.spanlessEntry]

end TemplateVariables
