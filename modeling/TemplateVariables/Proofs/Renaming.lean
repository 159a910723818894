import TemplateVariables.Proofs.Node.Site

/-!
# Renaming what a block binds

The names of a loop, a macro, a call block or a `with` block may be renamed together with
what the scope of the block says under them.  Outside, nothing tells the two templates apart:
they have the same free variables in the same order.

In the renamed scope the old name is bound nowhere that matters and the new one everywhere,
and the other names are bound where they were.  This is what the walk keeps, through every
binding inside the scope.
-/

namespace TemplateVariables

/-! ## Renamed trees -/

/-- The name that stands for `name` once `old` is called `new`. -/
def renamed (old new name : String) : String :=
  if name = old then new else name

section Rename

variable (f : String → String)

mutual

/-- The expression with every variable in it renamed. -/
def Expr.rename : Expr → Expr
  | .literal value span => .literal value span
  | .identifier name span => .identifier (f name) span
  | .attribute base name span => .attribute base.rename name span
  | .subscript base index span => .subscript base.rename index.rename span
  | .slice start stop step span =>
      .slice (Expr.renameOption start) (Expr.renameOption stop) (Expr.renameOption step) span
  | .call callee args span => .call callee.rename (Expr.renameArguments args) span
  | .filter value filter span => .filter value.rename filter.rename span
  | .test value name args negated span =>
      .test value.rename name (Expr.renameArguments args) negated span
  | .unary op operand span => .unary op operand.rename span
  | .binary op left right span => .binary op left.rename right.rename span
  | .conditional value condition otherwise span =>
      .conditional value.rename condition.rename (Expr.renameOption otherwise) span
  | .list items span => .list (Expr.renameList items) span
  | .tuple items span => .tuple (Expr.renameList items) span
  | .dict entries span => .dict (Expr.renameEntries entries) span

def FilterCall.rename : FilterCall → FilterCall
  | ⟨name, args, span⟩ => ⟨name, Expr.renameArguments args, span⟩

def Expr.renameOption : Option Expr → Option Expr
  | none => none
  | some expr => some expr.rename

def Expr.renameList : List Expr → List Expr
  | [] => []
  | expr :: rest => expr.rename :: Expr.renameList rest

def Expr.renameArguments : List Argument → List Argument
  | [] => []
  | ⟨name, value⟩ :: rest => ⟨name, value.rename⟩ :: Expr.renameArguments rest

def Expr.renameEntries : List (Expr × Expr) → List (Expr × Expr)
  | [] => []
  | (key, value) :: rest => (key.rename, value.rename) :: Expr.renameEntries rest

end

/-- Both a name that is assigned to and a namespace are renamed. -/
def SetTarget.rename : SetTarget → SetTarget
  | .name target => .name (f target)
  | .attribute space key => .attribute (f space) key

def Parameter.rename (param : Parameter) : Parameter where
  name := f param.name
  default := Expr.renameOption f param.default

/-- The parameter under another name, with the default that it has. -/
def Parameter.renameName (param : Parameter) : Parameter :=
  { param with name := f param.name }

/-- The name in the other template stays, and the import binds another one if it has to. -/
def ImportedName.rename (imported : ImportedName) : ImportedName :=
  if f imported.bound = imported.bound then imported
  else { imported with otherName := some (f imported.bound) }

mutual

/-- The node with every variable, every namespace and every bound name in it renamed.  The
names of macros and of blocks bind nothing. -/
def Node.rename : Node → Node
  | .text content span => .text content span
  | .raw content span => .raw content span
  | .comment span => .comment span
  | .expression expr span => .expression (expr.rename f) span
  | .evaluate expr span => .evaluate (expr.rename f) span
  | .conditional branches otherwise span =>
      .conditional (Branch.renameAll branches) (Node.renameOption otherwise) span
  | .loop names iterable condition recursive body otherwise span =>
      .loop (names.map f) (iterable.rename f) (Expr.renameOption f condition) recursive
        (Node.renameAll body) (Node.renameOption otherwise) span
  | .set targets value span => .set (targets.map (SetTarget.rename f)) (value.rename f) span
  | .setBlock name filters body span =>
      .setBlock (f name) (filters.map (FilterCall.rename f)) (Node.renameAll body) span
  | .macroBlock name params body span =>
      .macroBlock name (params.map (Parameter.rename f)) (Node.renameAll body) span
  | .callBlock params call body span =>
      .callBlock (params.map (Parameter.rename f)) (call.rename f) (Node.renameAll body) span
  | .withBlock bindings body span =>
      .withBlock (bindings.map (Prod.map f (Expr.rename f))) (Node.renameAll body) span
  | .filterBlock filters body span =>
      .filterBlock (filters.map (FilterCall.rename f)) (Node.renameAll body) span
  | .block name body span => .block name (Node.renameAll body) span
  | .extendTemplate template span => .extendTemplate (template.rename f) span
  | .includeTemplate template span => .includeTemplate (template.rename f) span
  | .importTemplate template name span => .importTemplate (template.rename f) (f name) span
  | .importNames template names span =>
      .importNames (template.rename f) (names.map (ImportedName.rename f)) span
  | .loopControl kind span => .loopControl kind span

def Node.renameAll : List Node → List Node
  | [] => []
  | node :: rest => node.rename :: Node.renameAll rest

def Node.renameOption : Option (List Node) → Option (List Node)
  | none => none
  | some nodes => some (Node.renameAll nodes)

def Branch.renameAll : List Branch → List Branch
  | [] => []
  | ⟨condition, body⟩ :: rest =>
      ⟨condition.rename f, Node.renameAll body⟩ :: Branch.renameAll rest

end

/-- The node with the names renamed that it binds in a scope of its own, together with that
scope: the condition and the body of a loop, and the body of a macro, a call block or a `with`
block.  What stands outside the scope is kept. -/
def Node.renameBound : Node → Node
  | .loop names iterable condition recursive body otherwise span =>
      .loop (names.map f) iterable (Expr.renameOption f condition) recursive
        (Node.renameAll f body) otherwise span
  | .macroBlock name params body span =>
      .macroBlock name (params.map (Parameter.renameName f)) (Node.renameAll f body) span
  | .callBlock params call body span =>
      .callBlock (params.map (Parameter.renameName f)) call (Node.renameAll f body) span
  | .withBlock bindings body span =>
      .withBlock (bindings.map (Prod.map f id)) (Node.renameAll f body) span
  | node => node

end Rename

/-- The names that a node binds in a scope of its own. -/
def Node.boundNames : Node → List String
  | .loop names _ _ _ _ _ _ => names
  | .macroBlock _ params _ _ => params.map (·.name)
  | .callBlock params _ _ _ => params.map (·.name)
  | .withBlock bindings _ _ => bindings.map Prod.fst
  | _ => []

/-- The names that are read in the scope of a node and that nothing in the scope binds. -/
def Node.scopeUnbound : Node → List String
  | .loop _ _ condition _ body _ _ => Expr.unboundOption ∅ condition ++ Node.unboundAll ∅ body
  | .macroBlock _ _ body _ => Node.unboundAll ∅ body
  | .callBlock _ _ body _ => Node.unboundAll ∅ body
  | .withBlock _ body _ => Node.unboundAll ∅ body
  | _ => []

/-! ## Bound names on both sides -/

/-- Names bound at some place, and those bound there once `old` is called `new`. -/
structure Renames (old new : String) (bound bound' : Finset String) : Prop where
  old_mem : old ∈ bound
  new_mem : new ∈ bound'
  other : ∀ name, name ≠ old → name ≠ new → (name ∈ bound' ↔ name ∈ bound)

variable {old new : String} {bound bound' : Finset String}

theorem mem_image_renamed {names : Finset String} {name : String} (hold : name ≠ old)
    (hnew : name ≠ new) : name ∈ names.image (renamed old new) ↔ name ∈ names := by
  rw [Finset.mem_image]
  constructor
  · rintro ⟨other, hother, rfl⟩
    by_cases heq : other = old
    · exact absurd (if_pos heq) hnew
    · rwa [renamed, if_neg heq]
  · intro hname
    exact ⟨name, hname, if_neg hold⟩

namespace Renames

theorem of_mem {names : Finset String} (hold : old ∈ names) (bound : Finset String) :
    Renames old new (bound ∪ names) (bound ∪ names.image (renamed old new)) where
  old_mem := Finset.mem_union_right bound hold
  new_mem := Finset.mem_union_right bound (Finset.mem_image.2 ⟨old, hold, if_pos rfl⟩)
  other name hne hne' := by
    rw [Finset.mem_union, Finset.mem_union, mem_image_renamed hne hne']

theorem union (hrenames : Renames old new bound bound') (names : Finset String) :
    Renames old new (bound ∪ names) (bound' ∪ names.image (renamed old new)) where
  old_mem := Finset.mem_union_left names hrenames.old_mem
  new_mem := Finset.mem_union_left _ hrenames.new_mem
  other name hne hne' := by
    rw [Finset.mem_union, Finset.mem_union, hrenames.other name hne hne',
      mem_image_renamed hne hne']

theorem insert (hrenames : Renames old new bound bound') (name : String) :
    Renames old new (insert name bound) (insert (renamed old new name) bound') := by
  have hunion := hrenames.union {name}
  rwa [Finset.image_singleton, Finset.union_singleton, Finset.union_singleton] at hunion

theorem union_same (hrenames : Renames old new bound bound') (names : Finset String) :
    Renames old new (bound ∪ names) (bound' ∪ names) where
  old_mem := Finset.mem_union_left names hrenames.old_mem
  new_mem := Finset.mem_union_left names hrenames.new_mem
  other name hne hne' := by
    rw [Finset.mem_union, Finset.mem_union, hrenames.other name hne hne']

/-- A reading of a variable that is unbound was of neither name, so it is kept. -/
theorem ite_mem (hrenames : Renames old new bound bound') {name : String}
    (hnew : new ∉ if name ∈ bound then [] else [name]) :
    (if renamed old new name ∈ bound' then [] else [renamed old new name]) =
      if name ∈ bound then [] else [name] := by
  by_cases hold : name = old
  · have hname : renamed old new name = new := if_pos hold
    rw [hname, if_pos hrenames.new_mem, hold, if_pos hrenames.old_mem]
  · have hname : renamed old new name = name := if_neg hold
    rw [hname]
    by_cases hnew' : name = new
    · rw [hnew'] at hnew ⊢
      rw [if_pos hrenames.new_mem]
      by_cases hbound : new ∈ bound
      · rw [if_pos hbound]
      · rw [if_neg hbound] at hnew
        exact absurd List.mem_cons_self hnew
    · simp only [hrenames.other name hold hnew']

end Renames

/-! ## What is read in a renamed tree -/

/-- Readings of parts one behind the other are kept when they are in every part. -/
theorem flatMap_map_of_notMem {α : Type} {rename : α → α} {finds finds' : α → List String}
    (hparts : ∀ part, new ∉ finds part → finds' (rename part) = finds part) {parts : List α}
    (hnew : new ∉ parts.flatMap finds) :
    (parts.map rename).flatMap finds' = parts.flatMap finds := by
  rw [List.flatMap_map]
  apply List.flatMap_congr
  intro part hpart
  apply hparts
  intro hmem
  exact hnew (List.mem_flatMap.2 ⟨part, hpart, hmem⟩)

mutual

theorem Expr.unbound_rename (hrenames : Renames old new bound bound') :
    (expr : Expr) → new ∉ expr.unbound bound →
      (expr.rename (renamed old new)).unbound bound' = expr.unbound bound
  | .literal value span, _ => rfl
  | .identifier name span, hnew => hrenames.ite_mem hnew
  | .attribute base name span, hnew => base.unbound_rename hrenames hnew
  | .subscript base index span, hnew => by
      rw [Expr.unbound, List.mem_append, not_or] at hnew
      rw [Expr.rename, Expr.unbound, Expr.unbound, base.unbound_rename hrenames hnew.1,
        index.unbound_rename hrenames hnew.2]
  | .slice start stop step span, hnew => by
      rw [Expr.unbound, List.mem_append, List.mem_append, not_or, not_or] at hnew
      rw [Expr.rename, Expr.unbound, Expr.unbound,
        Expr.unboundOption_rename hrenames start hnew.1.1,
        Expr.unboundOption_rename hrenames stop hnew.1.2,
        Expr.unboundOption_rename hrenames step hnew.2]
  | .call callee args span, hnew => by
      rw [Expr.unbound, List.mem_append, not_or] at hnew
      rw [Expr.rename, Expr.unbound, Expr.unbound, callee.unbound_rename hrenames hnew.1,
        Expr.unboundArguments_rename hrenames args hnew.2]
  | .filter value filter span, hnew => by
      rw [Expr.unbound, List.mem_append, not_or] at hnew
      rw [Expr.rename, Expr.unbound, Expr.unbound, value.unbound_rename hrenames hnew.1,
        filter.unbound_rename hrenames hnew.2]
  | .test value name args negated span, hnew => by
      rw [Expr.unbound, List.mem_append, not_or] at hnew
      rw [Expr.rename, Expr.unbound, Expr.unbound, value.unbound_rename hrenames hnew.1,
        Expr.unboundArguments_rename hrenames args hnew.2]
  | .unary op operand span, hnew => operand.unbound_rename hrenames hnew
  | .binary op left right span, hnew => by
      rw [Expr.unbound, List.mem_append, not_or] at hnew
      rw [Expr.rename, Expr.unbound, Expr.unbound, left.unbound_rename hrenames hnew.1,
        right.unbound_rename hrenames hnew.2]
  | .conditional value condition otherwise span, hnew => by
      rw [Expr.unbound, List.mem_append, List.mem_append, not_or, not_or] at hnew
      rw [Expr.rename, Expr.unbound, Expr.unbound, value.unbound_rename hrenames hnew.1.1,
        condition.unbound_rename hrenames hnew.1.2,
        Expr.unboundOption_rename hrenames otherwise hnew.2]
  | .list items span, hnew => Expr.unboundList_rename hrenames items hnew
  | .tuple items span, hnew => Expr.unboundList_rename hrenames items hnew
  | .dict entries span, hnew => Expr.unboundEntries_rename hrenames entries hnew

theorem FilterCall.unbound_rename (hrenames : Renames old new bound bound') :
    (filter : FilterCall) → new ∉ filter.unbound bound →
      (filter.rename (renamed old new)).unbound bound' = filter.unbound bound
  | ⟨_, args, _⟩, hnew => Expr.unboundArguments_rename hrenames args hnew

theorem Expr.unboundOption_rename (hrenames : Renames old new bound bound') :
    (option : Option Expr) → new ∉ Expr.unboundOption bound option →
      Expr.unboundOption bound' (Expr.renameOption (renamed old new) option) =
        Expr.unboundOption bound option
  | none, _ => rfl
  | some expr, hnew => expr.unbound_rename hrenames hnew

theorem Expr.unboundList_rename (hrenames : Renames old new bound bound') :
    (exprs : List Expr) → new ∉ Expr.unboundList bound exprs →
      Expr.unboundList bound' (Expr.renameList (renamed old new) exprs) =
        Expr.unboundList bound exprs
  | [], _ => rfl
  | expr :: rest, hnew => by
      rw [Expr.unboundList, List.mem_append, not_or] at hnew
      rw [Expr.renameList, Expr.unboundList, Expr.unboundList, expr.unbound_rename hrenames hnew.1,
        Expr.unboundList_rename hrenames rest hnew.2]

theorem Expr.unboundArguments_rename (hrenames : Renames old new bound bound') :
    (args : List Argument) → new ∉ Expr.unboundArguments bound args →
      Expr.unboundArguments bound' (Expr.renameArguments (renamed old new) args) =
        Expr.unboundArguments bound args
  | [], _ => rfl
  | ⟨name, value⟩ :: rest, hnew => by
      rw [Expr.unboundArguments, List.mem_append, not_or] at hnew
      rw [Expr.renameArguments, Expr.unboundArguments, Expr.unboundArguments,
        value.unbound_rename hrenames hnew.1, Expr.unboundArguments_rename hrenames rest hnew.2]

theorem Expr.unboundEntries_rename (hrenames : Renames old new bound bound') :
    (entries : List (Expr × Expr)) → new ∉ Expr.unboundEntries bound entries →
      Expr.unboundEntries bound' (Expr.renameEntries (renamed old new) entries) =
        Expr.unboundEntries bound entries
  | [], _ => rfl
  | (key, value) :: rest, hnew => by
      rw [Expr.unboundEntries, List.mem_append, List.mem_append, not_or, not_or] at hnew
      rw [Expr.renameEntries, Expr.unboundEntries, Expr.unboundEntries,
        key.unbound_rename hrenames hnew.1.1, value.unbound_rename hrenames hnew.1.2,
        Expr.unboundEntries_rename hrenames rest hnew.2]

end

/-! ## What renamed nodes bind -/

section Binds

variable (f : String → String)

theorem ImportedName.bound_rename (imported : ImportedName) :
    (imported.rename f).bound = f imported.bound := by
  rw [ImportedName.rename]
  by_cases hsame : f imported.bound = imported.bound
  · rw [if_pos hsame, hsame]
  · rw [if_neg hsame]
    rfl

theorem SetTarget.names_rename (targets : List SetTarget) :
    SetTarget.names (targets.map (SetTarget.rename f)) = (SetTarget.names targets).image f := by
  induction targets with
  | nil => rfl
  | cons target rest ih =>
      cases target with
      | name target =>
          rw [List.map_cons, SetTarget.rename, SetTarget.names, SetTarget.names, ih,
            Finset.image_insert]
      | «attribute» space name => exact ih

theorem toFinset_map_image (names : List String) :
    (names.map f).toFinset = names.toFinset.image f := by
  ext name
  simp

theorem toFinset_map_rename {α : Type} {key : α → String} {rename : α → α}
    (hkey : key ∘ rename = f ∘ key) (parts : List α) :
    ((parts.map rename).map key).toFinset = (parts.map key).toFinset.image f := by
  rw [← toFinset_map_image, List.map_map, List.map_map, hkey]

theorem Parameter.names_rename (params : List Parameter) :
    ((params.map (Parameter.rename f)).map (·.name)).toFinset =
      (params.map (·.name)).toFinset.image f :=
  toFinset_map_rename f (by rfl) params

theorem Parameter.names_renameName (params : List Parameter) :
    ((params.map (Parameter.renameName f)).map (·.name)).toFinset =
      (params.map (·.name)).toFinset.image f :=
  toFinset_map_rename f (by rfl) params

theorem toFinset_map_fst_rename (rename : Expr → Expr) (bindings : List (String × Expr)) :
    ((bindings.map (Prod.map f rename)).map Prod.fst).toFinset =
      (bindings.map Prod.fst).toFinset.image f :=
  toFinset_map_rename f (by rfl) bindings

theorem Node.binds_rename (node : Node) : (node.rename f).binds = node.binds.image f := by
  cases node with
  | set targets value span => exact SetTarget.names_rename f targets
  | importNames template names span =>
      exact toFinset_map_rename f (funext (ImportedName.bound_rename f)) names
  | _ => rfl

theorem Node.binds_renameBound (node : Node) : (node.renameBound f).binds = node.binds := by
  cases node <;> rfl

end Binds

/-! ## The renamed scope -/

theorem SetTarget.unboundAll_rename (hrenames : Renames old new bound bound')
    (targets : List SetTarget) (hnew : new ∉ SetTarget.unboundAll bound targets) :
    SetTarget.unboundAll bound' (targets.map (SetTarget.rename (renamed old new))) =
      SetTarget.unboundAll bound targets := by
  induction targets generalizing bound bound' with
  | nil => rfl
  | cons target rest ih =>
      cases target with
      | name target => exact ih (hrenames.insert target) hnew
      | «attribute» space key =>
          rw [SetTarget.unboundAll, List.mem_append, not_or] at hnew
          rw [List.map_cons, SetTarget.rename, SetTarget.unboundAll, SetTarget.unboundAll,
            hrenames.ite_mem hnew.1, ih hrenames hnew.2]

mutual

theorem Node.unbound_rename {bound bound' : Finset String}
    (hrenames : Renames old new bound bound') :
    (node : Node) → new ∉ node.unbound bound →
      (node.rename (renamed old new)).unbound bound' = node.unbound bound
  | .text .., _ | .raw .., _ | .comment _, _ | .loopControl .., _ => rfl
  | .expression expr span, hnew => expr.unbound_rename hrenames hnew
  | .evaluate expr span, hnew => expr.unbound_rename hrenames hnew
  | .extendTemplate template span, hnew => template.unbound_rename hrenames hnew
  | .includeTemplate template span, hnew => template.unbound_rename hrenames hnew
  | .importTemplate template name span, hnew => template.unbound_rename hrenames hnew
  | .importNames template names span, hnew => template.unbound_rename hrenames hnew
  | .conditional branches otherwise span, hnew => by
      rw [Node.unbound, List.mem_append, not_or] at hnew
      rw [Node.rename, Node.unbound, Node.unbound,
        Branch.unboundAll_rename hrenames branches hnew.1,
        Node.unboundOption_rename hrenames otherwise hnew.2]
  | .loop names iterable condition recursive body otherwise span, hnew => by
      -- The names of the loop are bound in its condition and its body alone.
      have hscope := hrenames.union names.toFinset
      rw [Node.unbound, List.mem_append, List.mem_append, List.mem_append, not_or, not_or,
        not_or] at hnew
      obtain ⟨⟨⟨hiterable, hcondition⟩, hbody⟩, hotherwise⟩ := hnew
      rw [Node.rename, Node.unbound, Node.unbound, toFinset_map_image,
        iterable.unbound_rename hrenames hiterable,
        Expr.unboundOption_rename hscope condition hcondition,
        Node.unboundAll_rename hscope body hbody,
        Node.unboundOption_rename hrenames otherwise hotherwise]
  | .set targets value span, hnew => by
      rw [Node.unbound, List.mem_append, not_or] at hnew
      rw [Node.rename, Node.unbound, Node.unbound, value.unbound_rename hrenames hnew.1,
        SetTarget.unboundAll_rename hrenames targets hnew.2]
  | .setBlock name filters body span, hnew => by
      rw [Node.unbound, List.mem_append, not_or] at hnew
      rw [Node.rename, Node.unbound, Node.unbound,
        flatMap_map_of_notMem (FilterCall.unbound_rename hrenames) hnew.1,
        Node.unboundAll_rename hrenames body hnew.2]
  | .macroBlock name params body span, hnew => by
      -- What every macro binds keeps its name, even when that is the old one.
      have hscope := (hrenames.union (params.map (·.name)).toFinset).union_same
        {"caller", "varargs", "kwargs"}
      rw [Node.unbound, List.mem_append, not_or] at hnew
      rw [Node.rename, Node.unbound, Node.unbound, Parameter.names_rename,
        flatMap_map_of_notMem (fun param => Expr.unboundOption_rename hrenames param.default)
          hnew.1,
        Node.unboundAll_rename hscope body hnew.2]
  | .callBlock params call body span, hnew => by
      have hscope := hrenames.union (params.map (·.name)).toFinset
      rw [Node.unbound, List.mem_append, List.mem_append, not_or, not_or] at hnew
      rw [Node.rename, Node.unbound, Node.unbound, Parameter.names_rename,
        call.unbound_rename hrenames hnew.1.1,
        flatMap_map_of_notMem (fun param => Expr.unboundOption_rename hrenames param.default)
          hnew.1.2,
        Node.unboundAll_rename hscope body hnew.2]
  | .withBlock bindings body span, hnew => by
      have hscope := hrenames.union (bindings.map Prod.fst).toFinset
      rw [Node.unbound, List.mem_append, not_or] at hnew
      rw [Node.rename, Node.unbound, Node.unbound, toFinset_map_fst_rename,
        flatMap_map_of_notMem (fun binding => binding.2.unbound_rename hrenames) hnew.1,
        Node.unboundAll_rename hscope body hnew.2]
  | .filterBlock filters body span, hnew => by
      rw [Node.unbound, List.mem_append, not_or] at hnew
      rw [Node.rename, Node.unbound, Node.unbound,
        flatMap_map_of_notMem (FilterCall.unbound_rename hrenames) hnew.1,
        Node.unboundAll_rename hrenames body hnew.2]
  | .block name body span, hnew => Node.unboundAll_rename hrenames body hnew

theorem Node.unboundAll_rename {bound bound' : Finset String}
    (hrenames : Renames old new bound bound') :
    (nodes : List Node) → new ∉ Node.unboundAll bound nodes →
      Node.unboundAll bound' (Node.renameAll (renamed old new) nodes) =
        Node.unboundAll bound nodes
  | [], _ => rfl
  | node :: rest, hnew => by
      rw [Node.unboundAll, List.mem_append, not_or] at hnew
      rw [Node.renameAll, Node.unboundAll, Node.unboundAll, Node.binds_rename,
        node.unbound_rename hrenames hnew.1,
        Node.unboundAll_rename (hrenames.union node.binds) rest hnew.2]

theorem Node.unboundOption_rename {bound bound' : Finset String}
    (hrenames : Renames old new bound bound') :
    (option : Option (List Node)) → new ∉ Node.unboundOption bound option →
      Node.unboundOption bound' (Node.renameOption (renamed old new) option) =
        Node.unboundOption bound option
  | none, _ => rfl
  | some nodes, hnew => Node.unboundAll_rename hrenames nodes hnew

theorem Branch.unboundAll_rename {bound bound' : Finset String}
    (hrenames : Renames old new bound bound') :
    (branches : List Branch) → new ∉ Branch.unboundAll bound branches →
      Branch.unboundAll bound' (Branch.renameAll (renamed old new) branches) =
        Branch.unboundAll bound branches
  | [], _ => rfl
  | ⟨condition, body⟩ :: rest, hnew => by
      rw [Branch.unboundAll, List.mem_append, List.mem_append, not_or, not_or] at hnew
      rw [Branch.renameAll, Branch.unboundAll, Branch.unboundAll,
        condition.unbound_rename hrenames hnew.1.1, Node.unboundAll_rename hrenames body hnew.1.2,
        Branch.unboundAll_rename hrenames rest hnew.2]

end

/-! ## The renamed block -/

theorem Node.notMem_unboundAll {nodes : List Node} (hnew : new ∉ Node.unboundAll ∅ nodes)
    (bound : Finset String) : new ∉ Node.unboundAll bound nodes :=
  fun hmem => hnew (Node.unboundAll_subset bound nodes hmem)

/-- A block reads the same names unbound when it and its scope call a name otherwise. -/
theorem Node.unbound_renameBound {node : Node} (hold : old ∈ node.boundNames)
    (hnew : new ∉ node.scopeUnbound) (bound : Finset String) :
    (node.renameBound (renamed old new)).unbound bound = node.unbound bound := by
  have hscope : Renames old new (bound ∪ node.boundNames.toFinset)
      (bound ∪ node.boundNames.toFinset.image (renamed old new)) :=
    Renames.of_mem (List.mem_toFinset.2 hold) bound
  cases node with
  | loop names iterable condition recursive body otherwise span =>
      rw [Node.scopeUnbound, List.mem_append, not_or] at hnew
      have hcondition (bound : Finset String) : new ∉ Expr.unboundOption bound condition :=
        fun hmem => hnew.1 (Expr.unboundOption_subset bound condition hmem)
      rw [Node.boundNames] at hscope
      rw [Node.renameBound, Node.unbound, Node.unbound, toFinset_map_image,
        Expr.unboundOption_rename hscope condition (hcondition _),
        Node.unboundAll_rename hscope body (Node.notMem_unboundAll hnew.2 _)]
  | macroBlock name params body span =>
      rw [Node.boundNames] at hscope
      rw [Node.renameBound, Node.unbound, Node.unbound, Parameter.names_renameName,
        List.flatMap_map,
        Node.unboundAll_rename (hscope.union_same _) body (Node.notMem_unboundAll hnew _)]
      rfl
  | callBlock params call body span =>
      rw [Node.boundNames] at hscope
      rw [Node.renameBound, Node.unbound, Node.unbound, Parameter.names_renameName,
        List.flatMap_map, Node.unboundAll_rename hscope body (Node.notMem_unboundAll hnew _)]
      rfl
  | withBlock bindings body span =>
      rw [Node.boundNames] at hscope
      rw [Node.renameBound, Node.unbound, Node.unbound, toFinset_map_fst_rename,
        List.flatMap_map, Node.unboundAll_rename hscope body (Node.notMem_unboundAll hnew _)]
      rfl
  | _ => rfl

/-- Every node stands at a site, and a loop, macro, call block or `with` block may call a name
that it binds otherwise, wherever it stands: when its scope says the new name wherever it said
the old one, the template has the same free variables.  The new name may be any that the scope
does not read unbound, such as one that does not occur in it. -/
theorem freeVariables_renameBound :
    (∀ (nodes : List Node) (node : Node), Visit.node node ∈ visits nodes →
      ∃ site : Site, site.fill node = nodes) ∧
    ∀ (site : Site) (node : Node) (old new : String), old ∈ node.boundNames →
      new ∉ node.scopeUnbound → ∀ globals : Globals,
        freeVariables globals (site.fill (node.renameBound (renamed old new))) =
          freeVariables globals (site.fill node) := by
  constructor
  · intro nodes node hmem
    exact Site.holds_of_mem nodes hmem
  · intro site node old new hold hnew globals
    have hunbound := Site.unboundAll_fill_congr (Node.unbound_renameBound hold hnew)
      (Node.binds_renameBound (renamed old new) node) site ∅
    rw [freeVariables_eq_ofList, freeVariables_eq_ofList, hunbound]

/-- A loop whose variable is named as what it goes over, assigned to by attribute, taken as
the default of a parameter of the same name and read by a condition. -/
theorem freeVariables_renameBound_shadowed :
    let span : Span := ⟨0, 1⟩
    let var (name : String) : Expr := .identifier name span
    let read (name : String) : Node := .expression (var name) span
    let scope (name : String) : List Node :=
      [.set [.attribute name "seen"] (var name) span,
        .macroBlock "m" [⟨name, some (var name)⟩] [read name, read "caller"] span,
        .set [.name "copy"] (var name) span, read "copy", read "total"]
    let loop (name : String) : Node :=
      .loop [name] (var "x") (some (var name)) false (scope name) none span
    let site : Site := .inside [] (.ifBody [] (var "shown") [] none span) (.here [] [read "x"]) []
    let globals := Globals.ofNames []
    Visit.node (loop "x") ∈ visits (site.fill (loop "x")) ∧
      (∃ place : Site, place.fill (loop "x") = site.fill (loop "x")) ∧
      "x" ∈ (loop "x").boundNames ∧ "y" ∉ (loop "x").scopeUnbound ∧
      (loop "x").renameBound (renamed "x" "y") = loop "y" ∧
      freeVariables globals (site.fill (loop "y")) = freeVariables globals (site.fill (loop "x")) ∧
      (freeVariables globals (site.fill (loop "x"))).toList = ["shown", "x", "total"] := by
  intro span var read scope loop site globals
  have hmem : Visit.node (loop "x") ∈ visits (site.fill (loop "x")) := by
    simp [visits, site, Site.fill, Holder.node, Node.listVisits, loop, Node.visits,
      Branch.listVisits]
  have hold : "x" ∈ (loop "x").boundNames := by simp [loop, Node.boundNames]
  have hnew : "y" ∉ (loop "x").scopeUnbound := by decide +kernel
  have hloop : (loop "x").renameBound (renamed "x" "y") = loop "y" := by rfl
  obtain ⟨hsites, hsame⟩ := freeVariables_renameBound
  have hsame := hsame site (loop "x") "x" "y" hold hnew globals
  rw [hloop] at hsame
  have hfree : (freeVariables globals (site.fill (loop "x"))).toList = ["shown", "x", "total"] := by
    decide +kernel
  exact ⟨hmem, hsites _ _ hmem, hold, hnew, hloop, hsame, hfree⟩

end TemplateVariables
