import TemplateVariables.Proofs.LexicalScope

/-!
# Only root identifiers matter

A template is full of words that are no variables: attributes, filters, tests, keywords of
arguments, macros, blocks, the names that an import gives another name to.  The collector looks
at none of them, nor at literals, operators, flags, texts and spans.  They are erased here, and
what is left of a template, its shape with the variables and the bound names, has the same free
variables.
-/

namespace TemplateVariables

/-! ## Erasing what is no variable -/

mutual

/-- The expression with its variables and its shape, and nothing else of what it says. -/
def Expr.unlabelled : Expr → Expr
  | .literal _ _ => .literal .none default
  | .identifier name _ => .identifier name default
  | .attribute base _ _ => .attribute base.unlabelled "" default
  | .subscript base index _ => .subscript base.unlabelled index.unlabelled default
  | .slice start stop step _ =>
      .slice (Expr.unlabelledOption start) (Expr.unlabelledOption stop)
        (Expr.unlabelledOption step) default
  | .call callee args _ => .call callee.unlabelled (Argument.unlabelledList args) default
  | .filter value filter _ => .filter value.unlabelled filter.unlabelled default
  | .test value _ args _ _ =>
      .test value.unlabelled [] (Argument.unlabelledList args) false default
  | .unary _ operand _ => .unary .not operand.unlabelled default
  | .binary _ left right _ => .binary .or left.unlabelled right.unlabelled default
  | .conditional value condition otherwise _ =>
      .conditional value.unlabelled condition.unlabelled (Expr.unlabelledOption otherwise) default
  | .list items _ => .list (Expr.unlabelledList items) default
  | .tuple items _ => .tuple (Expr.unlabelledList items) default
  | .dict entries _ => .dict (Expr.unlabelledEntries entries) default

def FilterCall.unlabelled : FilterCall → FilterCall
  | ⟨_, args, _⟩ => ⟨[], Argument.unlabelledList args, default⟩

def Expr.unlabelledOption : Option Expr → Option Expr
  | none => none
  | some expr => some expr.unlabelled

def Expr.unlabelledList : List Expr → List Expr
  | [] => []
  | expr :: rest => expr.unlabelled :: Expr.unlabelledList rest

def Argument.unlabelledList : List Argument → List Argument
  | [] => []
  | ⟨_, value⟩ :: rest => ⟨none, value.unlabelled⟩ :: Argument.unlabelledList rest

def Expr.unlabelledEntries : List (Expr × Expr) → List (Expr × Expr)
  | [] => []
  | (key, value) :: rest =>
      (key.unlabelled, value.unlabelled) :: Expr.unlabelledEntries rest

end

def Parameter.unlabelled (param : Parameter) : Parameter where
  name := param.name
  default := Expr.unlabelledOption param.default

def SetTarget.unlabelled : SetTarget → SetTarget
  | .name target => .name target
  | .attribute space _ => .attribute space ""

/-- A name that is imported under another one is not bound itself. -/
def ImportedName.unlabelled : ImportedName → ImportedName
  | ⟨name, none⟩ => ⟨name, none⟩
  | ⟨_, some otherName⟩ => ⟨"", some otherName⟩

mutual

/-- The node with its variables, the names that it binds and its shape. -/
def Node.unlabelled : Node → Node
  | .text _ _ => .text "" default
  | .raw _ _ => .raw "" default
  | .comment _ => .comment default
  | .expression expr _ => .expression expr.unlabelled default
  | .evaluate expr _ => .evaluate expr.unlabelled default
  | .conditional branches otherwise _ =>
      .conditional (Branch.unlabelledList branches) (Node.unlabelledOption otherwise) default
  | .loop names iterable condition _ body otherwise _ =>
      .loop names iterable.unlabelled (Expr.unlabelledOption condition) false
        (Node.unlabelledList body) (Node.unlabelledOption otherwise) default
  | .set targets value _ => .set (targets.map SetTarget.unlabelled) value.unlabelled default
  | .setBlock name filters body _ =>
      .setBlock name (filters.map FilterCall.unlabelled) (Node.unlabelledList body) default
  | .macroBlock _ params body _ =>
      .macroBlock "" (params.map Parameter.unlabelled) (Node.unlabelledList body) default
  | .callBlock params call body _ =>
      .callBlock (params.map Parameter.unlabelled) call.unlabelled (Node.unlabelledList body)
        default
  | .withBlock bindings body _ =>
      .withBlock (bindings.map fun binding => (binding.1, binding.2.unlabelled))
        (Node.unlabelledList body) default
  | .filterBlock filters body _ =>
      .filterBlock (filters.map FilterCall.unlabelled) (Node.unlabelledList body) default
  | .block _ body _ => .block "" (Node.unlabelledList body) default
  | .extendTemplate template _ => .extendTemplate template.unlabelled default
  | .includeTemplate template _ => .includeTemplate template.unlabelled default
  | .importTemplate template name _ => .importTemplate template.unlabelled name default
  | .importNames template names _ =>
      .importNames template.unlabelled (names.map ImportedName.unlabelled) default
  | .loopControl _ _ => .loopControl .break default

def Node.unlabelledList : List Node → List Node
  | [] => []
  | node :: rest => node.unlabelled :: Node.unlabelledList rest

def Node.unlabelledOption : Option (List Node) → Option (List Node)
  | none => none
  | some nodes => some (Node.unlabelledList nodes)

def Branch.unlabelledList : List Branch → List Branch
  | [] => []
  | ⟨condition, body⟩ :: rest =>
      ⟨condition.unlabelled, Node.unlabelledList body⟩ :: Branch.unlabelledList rest

end

theorem Node.unlabelledList_eq_map (nodes : List Node) :
    Node.unlabelledList nodes = nodes.map Node.unlabelled := by
  induction nodes with
  | nil => rfl
  | cons node rest ih => rw [Node.unlabelledList, ih, List.map_cons]

/-! ## Names that are bound -/

theorem SetTarget.names_unlabelled (targets : List SetTarget) :
    SetTarget.names (targets.map SetTarget.unlabelled) = SetTarget.names targets := by
  induction targets with
  | nil => rfl
  | cons target rest ih =>
      cases target with
      | name target => exact congrArg (insert target) ih
      | «attribute» space name => exact ih

theorem ImportedName.bound_unlabelled (imported : ImportedName) :
    imported.unlabelled.bound = imported.bound := by
  obtain ⟨name, otherName⟩ := imported
  cases otherName <;> rfl

theorem Node.binds_unlabelled (node : Node) : node.unlabelled.binds = node.binds := by
  cases node with
  | set targets value span => exact SetTarget.names_unlabelled targets
  | importNames template names span =>
      rw [Node.unlabelled, Node.binds, Node.binds, List.map_map]
      congr 2
      funext imported
      exact imported.bound_unlabelled
  | _ => rfl

/-! ## Variables that are read -/

section Unbound

variable (bound : Finset String)

mutual

theorem Expr.unbound_unlabelled :
    (expr : Expr) → expr.unlabelled.unbound bound = expr.unbound bound
  | .literal value span => rfl
  | .identifier name span => rfl
  | .attribute base name span => base.unbound_unlabelled
  | .subscript base index span => by
      rw [Expr.unlabelled, Expr.unbound, Expr.unbound, base.unbound_unlabelled,
        index.unbound_unlabelled]
  | .slice start stop step span => by
      rw [Expr.unlabelled, Expr.unbound, Expr.unbound, Expr.unboundOption_unlabelled start,
        Expr.unboundOption_unlabelled stop, Expr.unboundOption_unlabelled step]
  | .call callee args span => by
      rw [Expr.unlabelled, Expr.unbound, Expr.unbound, callee.unbound_unlabelled,
        Expr.unboundArguments_unlabelled args]
  | .filter value filter span => by
      rw [Expr.unlabelled, Expr.unbound, Expr.unbound, value.unbound_unlabelled,
        filter.unbound_unlabelled]
  | .test value name args negated span => by
      rw [Expr.unlabelled, Expr.unbound, Expr.unbound, value.unbound_unlabelled,
        Expr.unboundArguments_unlabelled args]
  | .unary op operand span => operand.unbound_unlabelled
  | .binary op left right span => by
      rw [Expr.unlabelled, Expr.unbound, Expr.unbound, left.unbound_unlabelled,
        right.unbound_unlabelled]
  | .conditional value condition otherwise span => by
      rw [Expr.unlabelled, Expr.unbound, Expr.unbound, value.unbound_unlabelled,
        condition.unbound_unlabelled, Expr.unboundOption_unlabelled otherwise]
  | .list items span => Expr.unboundList_unlabelled items
  | .tuple items span => Expr.unboundList_unlabelled items
  | .dict entries span => Expr.unboundEntries_unlabelled entries

theorem FilterCall.unbound_unlabelled :
    (filter : FilterCall) → filter.unlabelled.unbound bound = filter.unbound bound
  | ⟨_, args, _⟩ => Expr.unboundArguments_unlabelled args

theorem Expr.unboundOption_unlabelled :
    (option : Option Expr) →
      Expr.unboundOption bound (Expr.unlabelledOption option) = Expr.unboundOption bound option
  | none => rfl
  | some expr => expr.unbound_unlabelled

theorem Expr.unboundList_unlabelled :
    (exprs : List Expr) →
      Expr.unboundList bound (Expr.unlabelledList exprs) = Expr.unboundList bound exprs
  | [] => rfl
  | expr :: rest => by
      rw [Expr.unlabelledList, Expr.unboundList, Expr.unboundList, expr.unbound_unlabelled,
        Expr.unboundList_unlabelled rest]

theorem Expr.unboundArguments_unlabelled :
    (args : List Argument) →
      Expr.unboundArguments bound (Argument.unlabelledList args) =
        Expr.unboundArguments bound args
  | [] => rfl
  | ⟨name, value⟩ :: rest => by
      rw [Argument.unlabelledList, Expr.unboundArguments, Expr.unboundArguments,
        value.unbound_unlabelled, Expr.unboundArguments_unlabelled rest]

theorem Expr.unboundEntries_unlabelled :
    (entries : List (Expr × Expr)) →
      Expr.unboundEntries bound (Expr.unlabelledEntries entries) =
        Expr.unboundEntries bound entries
  | [] => rfl
  | (key, value) :: rest => by
      rw [Expr.unlabelledEntries, Expr.unboundEntries, Expr.unboundEntries,
        key.unbound_unlabelled, value.unbound_unlabelled, Expr.unboundEntries_unlabelled rest]

end

theorem FilterCall.flatMap_unbound_unlabelled (filters : List FilterCall) :
    (filters.map FilterCall.unlabelled).flatMap (FilterCall.unbound bound) =
      filters.flatMap (FilterCall.unbound bound) := by
  rw [List.flatMap_map, funext (FilterCall.unbound_unlabelled bound)]

theorem Parameter.flatMap_unbound_unlabelled (params : List Parameter) :
    ((params.map Parameter.unlabelled).flatMap fun param =>
        Expr.unboundOption bound param.default) =
      params.flatMap fun param => Expr.unboundOption bound param.default := by
  rw [List.flatMap_map]
  congr 1
  funext param
  exact Expr.unboundOption_unlabelled bound param.default

theorem Parameter.map_name_unlabelled (params : List Parameter) :
    (params.map Parameter.unlabelled).map (·.name) = params.map (·.name) := by
  rw [List.map_map]
  rfl

end Unbound

theorem SetTarget.unboundAll_unlabelled (bound : Finset String) (targets : List SetTarget) :
    SetTarget.unboundAll bound (targets.map SetTarget.unlabelled) =
      SetTarget.unboundAll bound targets := by
  induction targets generalizing bound with
  | nil => rfl
  | cons target rest ih =>
      cases target with
      | name target => exact ih _
      | «attribute» space name =>
          rw [List.map_cons, SetTarget.unlabelled, SetTarget.unboundAll, SetTarget.unboundAll, ih]

mutual

/-- A node reads the same variables unbound when nothing but these and the bound names is left
of it, in whatever scope it stands. -/
theorem Node.unbound_unlabelled (bound : Finset String) :
    (node : Node) → node.unlabelled.unbound bound = node.unbound bound
  | .text content span => rfl
  | .raw content span => rfl
  | .comment span => rfl
  | .loopControl kind span => rfl
  | .expression expr span => expr.unbound_unlabelled bound
  | .evaluate expr span => expr.unbound_unlabelled bound
  | .extendTemplate template span => template.unbound_unlabelled bound
  | .includeTemplate template span => template.unbound_unlabelled bound
  | .importTemplate template name span => template.unbound_unlabelled bound
  | .importNames template names span => template.unbound_unlabelled bound
  | .conditional branches otherwise span => by
      rw [Node.unlabelled, Node.unbound, Node.unbound, Branch.unboundAll_unlabelled bound branches,
        Node.unboundOption_unlabelled bound otherwise]
  | .loop names iterable condition recursive body otherwise span => by
      rw [Node.unlabelled, Node.unbound, Node.unbound, iterable.unbound_unlabelled,
        Expr.unboundOption_unlabelled, Node.unboundAll_unlabelled _ body,
        Node.unboundOption_unlabelled bound otherwise]
  | .set targets value span => by
      rw [Node.unlabelled, Node.unbound, Node.unbound, value.unbound_unlabelled,
        SetTarget.unboundAll_unlabelled]
  | .setBlock name filters body span => by
      rw [Node.unlabelled, Node.unbound, Node.unbound, FilterCall.flatMap_unbound_unlabelled,
        Node.unboundAll_unlabelled bound body]
  | .macroBlock name params body span => by
      rw [Node.unlabelled, Node.unbound, Node.unbound, Parameter.flatMap_unbound_unlabelled,
        Parameter.map_name_unlabelled, Node.unboundAll_unlabelled _ body]
  | .callBlock params call body span => by
      rw [Node.unlabelled, Node.unbound, Node.unbound, call.unbound_unlabelled,
        Parameter.flatMap_unbound_unlabelled, Parameter.map_name_unlabelled,
        Node.unboundAll_unlabelled _ body]
  | .withBlock bindings body span => by
      rw [Node.unlabelled, Node.unbound, Node.unbound, List.map_map, List.flatMap_map,
        Node.unboundAll_unlabelled _ body]
      simp only [Expr.unbound_unlabelled]
      rfl
  | .filterBlock filters body span => by
      rw [Node.unlabelled, Node.unbound, Node.unbound, FilterCall.flatMap_unbound_unlabelled,
        Node.unboundAll_unlabelled bound body]
  | .block name body span => Node.unboundAll_unlabelled bound body

theorem Node.unboundAll_unlabelled (bound : Finset String) :
    (nodes : List Node) →
      Node.unboundAll bound (Node.unlabelledList nodes) = Node.unboundAll bound nodes
  | [] => rfl
  | node :: rest => by
      rw [Node.unlabelledList, Node.unboundAll, Node.unboundAll, node.unbound_unlabelled bound,
        Node.binds_unlabelled, Node.unboundAll_unlabelled _ rest]

theorem Node.unboundOption_unlabelled (bound : Finset String) :
    (option : Option (List Node)) →
      Node.unboundOption bound (Node.unlabelledOption option) = Node.unboundOption bound option
  | none => rfl
  | some nodes => Node.unboundAll_unlabelled bound nodes

theorem Branch.unboundAll_unlabelled (bound : Finset String) :
    (branches : List Branch) →
      Branch.unboundAll bound (Branch.unlabelledList branches) = Branch.unboundAll bound branches
  | [] => rfl
  | ⟨condition, body⟩ :: rest => by
      rw [Branch.unlabelledList, Branch.unboundAll, Branch.unboundAll,
        condition.unbound_unlabelled, Node.unboundAll_unlabelled bound body,
        Branch.unboundAll_unlabelled bound rest]

end

/-! ## Two templates -/

theorem freeVariables_unlabelled (globals : Globals) (nodes : List Node) :
    freeVariables globals (nodes.map Node.unlabelled) = freeVariables globals nodes := by
  rw [freeVariables_eq_ofList, freeVariables_eq_ofList, ← Node.unlabelledList_eq_map,
    Node.unboundAll_unlabelled]

/-- Templates that differ only in words that are no variables, in literals, operators, flags,
texts or spans have the same free variables, in the same order. -/
theorem freeVariables_eq_of_unlabelled_eq {nodes others : List Node}
    (hsame : nodes.map Node.unlabelled = others.map Node.unlabelled) (globals : Globals) :
    freeVariables globals nodes = freeVariables globals others := by
  rw [← freeVariables_unlabelled, hsame, freeVariables_unlabelled]

/-- Two templates that have no word in common but their variables and the names that they bind. -/
theorem freeVariables_eq_of_unlabelled_eq_other_words :
    let nodes : List Node :=
      let span : Span := ⟨0, 1⟩
      [.text "one" span,
        .set [.attribute "space" "first"] (.attribute (.identifier "x" span) "left" span) span,
        .macroBlock "m" [⟨"p", some (.literal (.number "1") span)⟩]
          [.expression (.test (.identifier "p" span) ["odd"] [⟨some "by", .identifier "y" span⟩]
            true span) span] span,
        .importNames (.identifier "lib" span) [⟨"helper", some "h"⟩] span,
        .loop ["i"] (.filter (.identifier "rows" span) ⟨["sort"], [], span⟩ span) none true
          [.loopControl .break span,
            .expression (.binary .add (.identifier "h" span) (.identifier "z" span) span) span]
          none span]
    let others : List Node :=
      let span : Span := ⟨2, 9⟩
      [.text "" span,
        .set [.attribute "space" "last"] (.attribute (.identifier "x" span) "y" span) span,
        .macroBlock "lib" [⟨"p", some (.literal (.str "z") span)⟩]
          [.expression (.test (.identifier "p" span) ["z", "rows"] [⟨none, .identifier "y" span⟩]
            false span) span] span,
        .importNames (.identifier "lib" span) [⟨"z", some "h"⟩] span,
        .loop ["i"] (.filter (.identifier "rows" span) ⟨["z"], [], span⟩ span) none false
          [.loopControl .continue span,
            .expression (.binary .pow (.identifier "h" span) (.identifier "z" span) span) span]
          none span]
    nodes.map Node.unlabelled = others.map Node.unlabelled ∧
      freeVariables (Globals.ofNames []) nodes = freeVariables (Globals.ofNames []) others ∧
      (freeVariables (Globals.ofNames []) nodes).toList =
        ["x", "space", "y", "lib", "rows", "z"] := by
  intro nodes others
  have hsame : nodes.map Node.unlabelled = others.map Node.unlabelled := rfl
  exact ⟨hsame, freeVariables_eq_of_unlabelled_eq hsame _, by decide +kernel⟩

end TemplateVariables
