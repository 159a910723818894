import TemplateVariables.Proofs.FreeOccurrences
import TemplateVariables.Proofs.Node.Occurrences
import TemplateVariables.Proofs.Node.Site

/-!
# Where the variables of a template are written

What a template reads is a variable that the walk comes to, and so a name in one of its tags
that is not reserved; or it is the namespace of an assignment to an attribute, which alone is
not checked.  A namespace stands in the tag that becomes its node.
-/

namespace TemplateVariables

open TemplateVariables.Parser

/-- A name that can be a variable of a token: one of its names, and a reserved word only in
front of the first dot of an assignment. -/
def Token.Offers (token : Token) (name : String) : Prop :=
  .name name ∈ token.kinds ∧
    (name ∈ reservedWords → ∃ rest, token.kinds = .name "set" :: .name name :: .punct .dot :: rest)

theorem Token.map_kind_lexemes (token : Token) : token.lexemes.map Lexeme.kind = token.kinds := by
  cases token <;> rfl

theorem Token.offers_of_occurrence {token : Token} {occurrence : Occurrence}
    (hoccurrence : occurrence ∈ token.occurrences) : token.Offers occurrence.1 := by
  obtain ⟨lexeme, hlexeme, hsome⟩ := List.mem_filterMap.1 hoccurrence
  constructor
  · rw [← Token.map_kind_lexemes]
    rw [Lexeme.eq_of_occurrence? hsome] at hlexeme
    exact List.mem_map_of_mem hlexeme
  · exact fun hreserved => absurd hreserved (Lexeme.not_reserved_of_occurrence? hsome)

theorem Token.offers_of_assigns {token : Token} {space : String}
    (hassigns : token.Assigns space) : token.Offers space := by
  obtain ⟨rest, hkinds⟩ := hassigns
  refine ⟨?_, fun _ => ⟨rest, hkinds⟩⟩
  rw [hkinds]
  exact List.mem_cons_of_mem _ List.mem_cons_self

/-! ## Names that a walk comes to -/

/-- The names that are read at a visit. -/
def Visit.mentions : Visit → List String
  | .expr (.identifier name _) => [name]
  | .node inner => inner.spaces
  | _ => []

theorem Visit.unbound_subset (bound : Finset String) (visits : List Visit) :
    Visit.unbound bound visits ⊆ visits.flatMap Visit.mentions := by
  intro name hname
  obtain ⟨occurrence, hoccurrence, rfl⟩ := List.mem_map.1 (List.mem_of_mem_filter hname)
  obtain ⟨visit, hvisit, hsome⟩ := List.mem_filterMap.1 hoccurrence
  refine List.mem_flatMap.2 ⟨visit, hvisit, ?_⟩
  unfold Visit.identifier? at hsome
  split at hsome
  · cases hsome
    exact List.mem_singleton_self _
  · cases hsome

theorem SetTarget.unboundAll_subset (bound : Finset String) (targets : List SetTarget) :
    SetTarget.unboundAll bound targets ⊆ targets.filterMap SetTarget.space? := by
  induction targets generalizing bound with
  | nil => exact List.Subset.refl _
  | cons target rest ih =>
      cases target with
      | name target => exact ih _
      | «attribute» space name =>
          intro other hother
          rcases List.mem_append.1 hother with hhere | hrest
          · split at hhere
            · cases hhere
            · obtain rfl := List.mem_singleton.1 hhere
              exact List.mem_cons_self
          · exact List.mem_cons_of_mem _ (ih bound hrest)

theorem Expr.unbound_subset (bound : Finset String) (value : Expr) :
    value.unbound bound ⊆ value.visits.flatMap Visit.mentions := by
  rw [← Expr.unbound_visits]
  exact Visit.unbound_subset bound value.visits

theorem Expr.unboundOption_subset_mentions (bound : Finset String) (option : Option Expr) :
    Expr.unboundOption bound option ⊆ (Expr.optionVisits option).flatMap Visit.mentions := by
  rw [← Expr.unbound_optionVisits]
  exact Visit.unbound_subset bound _

theorem FilterCall.flatMap_unbound_subset (bound : Finset String) (filters : List FilterCall) :
    filters.flatMap (FilterCall.unbound bound) ⊆
      (filters.flatMap FilterCall.visits).flatMap Visit.mentions := by
  have hvisits := Visit.unbound_subset bound (filters.flatMap FilterCall.visits)
  rw [Visit.unbound_flatMap] at hvisits
  simpa only [FilterCall.unbound_visits] using hvisits

theorem Parameter.flatMap_unbound_subset (bound : Finset String) (params : List Parameter) :
    (params.flatMap fun param => Expr.unboundOption bound param.default) ⊆
      (Parameter.defaultVisits params).flatMap Visit.mentions := by
  rw [← Parameter.unbound_defaultVisits]
  exact Visit.unbound_subset bound _

mutual

/-- What a node reads unbound is read at a visit of the walk over it. -/
theorem Node.unbound_subset (bound : Finset String) :
    (node : Node) → node.unbound bound ⊆ node.visits.flatMap Visit.mentions
  | .text .. => List.nil_subset _
  | .raw .. => List.nil_subset _
  | .comment .. => List.nil_subset _
  | .loopControl .. => List.nil_subset _
  | .expression expr span => expr.unbound_subset bound
  | .evaluate expr span => expr.unbound_subset bound
  | .extendTemplate template span => template.unbound_subset bound
  | .includeTemplate template span => template.unbound_subset bound
  | .importTemplate template name span => template.unbound_subset bound
  | .importNames template names span => template.unbound_subset bound
  | .set targets value span => by
      have htargets := SetTarget.unboundAll_subset bound targets
      have hvalue := value.unbound_subset bound
      rw [Node.unbound, Node.visits, List.flatMap_cons, Visit.mentions, Node.spaces]
      grind
  | .conditional branches none span => by
      have hbranches := Branch.unboundAll_subset bound branches
      rw [Node.unbound, Node.visits, Node.unboundOption, List.flatMap_cons]
      grind
  | .conditional branches (some otherwise) span => by
      have hbranches := Branch.unboundAll_subset bound branches
      have hotherwise := Node.unboundAll_subset_mentions bound otherwise
      simp only [Node.unbound, Node.visits, Node.unboundOption, List.flatMap_append,
        List.flatMap_cons]
      grind
  | .loop names iterable condition recursive body none span => by
      have hiterable := iterable.unbound_subset bound
      have hcondition := Expr.unboundOption_subset_mentions (bound ∪ names.toFinset) condition
      have hbody := Node.unboundAll_subset_mentions (bound ∪ names.toFinset) body
      simp only [Node.unbound, Node.visits, Node.unboundOption, List.flatMap_append,
        List.flatMap_cons]
      grind
  | .loop names iterable condition recursive body (some otherwise) span => by
      have hiterable := iterable.unbound_subset bound
      have hcondition := Expr.unboundOption_subset_mentions (bound ∪ names.toFinset) condition
      have hbody := Node.unboundAll_subset_mentions (bound ∪ names.toFinset) body
      have hotherwise := Node.unboundAll_subset_mentions bound otherwise
      simp only [Node.unbound, Node.visits, Node.unboundOption, List.flatMap_append,
        List.flatMap_cons]
      grind
  | .setBlock name filters body span => by
      have hfilters := FilterCall.flatMap_unbound_subset bound filters
      have hbody := Node.unboundAll_subset_mentions bound body
      simp only [Node.unbound, Node.visits, List.flatMap_append, List.flatMap_cons]
      grind
  | .macroBlock name params body span => by
      have hparams := Parameter.flatMap_unbound_subset bound params
      have hbody := Node.unboundAll_subset_mentions
        (bound ∪ (params.map (·.name)).toFinset ∪ {"caller", "varargs", "kwargs"}) body
      simp only [Node.unbound, Node.visits, List.flatMap_append, List.flatMap_cons]
      grind
  | .callBlock params call body span => by
      have hcall := call.unbound_subset bound
      have hparams := Parameter.flatMap_unbound_subset bound params
      have hbody := Node.unboundAll_subset_mentions (bound ∪ (params.map (·.name)).toFinset) body
      simp only [Node.unbound, Node.visits, List.flatMap_append, List.flatMap_cons]
      grind
  | .withBlock bindings body span => by
      have hbindings :=
        Visit.unbound_subset bound (bindings.flatMap fun binding => binding.2.visits)
      have hbody := Node.unboundAll_subset_mentions (bound ∪ (bindings.map Prod.fst).toFinset) body
      rw [Visit.unbound_flatMap] at hbindings
      simp only [Expr.unbound_visits] at hbindings
      simp only [Node.unbound, Node.visits, List.flatMap_append, List.flatMap_cons]
      grind
  | .filterBlock filters body span => by
      have hfilters := FilterCall.flatMap_unbound_subset bound filters
      have hbody := Node.unboundAll_subset_mentions bound body
      simp only [Node.unbound, Node.visits, List.flatMap_append, List.flatMap_cons]
      grind
  | .block name body span => by
      have hbody := Node.unboundAll_subset_mentions bound body
      simp only [Node.unbound, Node.visits, List.flatMap_cons]
      grind

theorem Node.unboundAll_subset_mentions (bound : Finset String) :
    (nodes : List Node) →
      Node.unboundAll bound nodes ⊆ (Node.listVisits nodes).flatMap Visit.mentions
  | [] => List.nil_subset _
  | node :: rest => by
      have hnode := node.unbound_subset bound
      have hrest := Node.unboundAll_subset_mentions (bound ∪ node.binds) rest
      rw [Node.unboundAll, Node.listVisits, List.flatMap_append]
      grind

theorem Branch.unboundAll_subset (bound : Finset String) :
    (branches : List Branch) →
      Branch.unboundAll bound branches ⊆ (Branch.listVisits branches).flatMap Visit.mentions
  | [] => List.nil_subset _
  | ⟨condition, body⟩ :: rest => by
      have hcondition := condition.unbound_subset bound
      have hbody := Node.unboundAll_subset_mentions bound body
      have hrest := Branch.unboundAll_subset bound rest
      simp only [Branch.unboundAll, Branch.listVisits, List.flatMap_append, List.flatMap_cons]
      grind

end

/-! ## Namespaces that are assigned to -/

namespace Subtree

def spaces : Subtree → List String
  | .node inner => inner.spaces
  | _ => []

/-- The namespaces that are assigned to inside the tree, in the order of the walk. -/
def assigned (tree : Subtree) : List String :=
  tree.all.flatMap spaces

theorem assigned_node (node : Node) :
    (Subtree.node node).assigned = node.spaces ++ node.children.flatMap assigned := by
  rw [assigned, all_eq, List.flatMap_cons, List.flatMap_assoc]
  rfl

theorem assigned_of_visits {tree : Subtree}
    (hvisits : ∀ node, Visit.node node ∉ tree.visits) : tree.assigned = [] := by
  rw [assigned, List.flatMap_eq_nil_iff]
  intro inner hinner
  obtain ⟨visit, hvisit, hsome⟩ := List.mem_filterMap.1 hinner
  cases visit with
  | node node => exact absurd hvisit (hvisits node)
  | nodes count => cases hsome
  | expr value => cases hsome; rfl
  | filter stage => cases hsome; rfl

end Subtree

/-- What is mentioned in a template is a variable of it or a namespace. -/
theorem Node.mem_of_mem_mentions {nodes : List Node} {name : String}
    (hname : name ∈ (Node.listVisits nodes).flatMap Visit.mentions) :
    (∃ occurrence ∈ (nodes.map Subtree.node).flatMap Subtree.occurrences,
      occurrence.1 = name) ∨
      name ∈ (nodes.map Subtree.node).flatMap Subtree.assigned := by
  obtain ⟨visit, hvisit, hmention⟩ := List.mem_flatMap.1 hname
  have hwalk : visit ∈ TemplateVariables.visits nodes := List.mem_cons_of_mem _ hvisit
  unfold Visit.mentions at hmention
  split at hmention
  · next other span =>
      obtain rfl := List.mem_singleton.1 hmention
      rw [← filterMap_identifier?_visits]
      exact .inl ⟨(name, span), List.mem_filterMap.2 ⟨_, hwalk, rfl⟩, rfl⟩
  · next inner =>
      have hinner : Subtree.node inner ∈ (nodes.map Subtree.node).flatMap Subtree.all := by
        rw [← filterMap_visits]
        exact List.mem_filterMap.2 ⟨_, hwalk, rfl⟩
      obtain ⟨tree, htree, hall⟩ := List.mem_flatMap.1 hinner
      exact .inr (List.mem_flatMap.2 ⟨tree, htree, List.mem_flatMap.2 ⟨_, hall, hmention⟩⟩)
  · cases hmention

/-- Nothing that is read from a tag is assigned to inside it. -/
theorem Takes.assigned {tagEnd : Span} {opened : List Punct} {trees : List Subtree}
    {cursor next : Cursor} (htakes : Takes tagEnd opened cursor trees next) :
    trees.flatMap Subtree.assigned = [] := by
  have hexpr (value : Expr) : (Subtree.expr value).assigned = [] :=
    Subtree.assigned_of_visits fun _ => value.node_notMem_visits
  have hfilter (call : FilterCall) : (Subtree.filter call).assigned = [] :=
    Subtree.assigned_of_visits fun _ => call.node_notMem_visits
  induction htakes with
  | stop => rfl
  | lexeme _ _ _ ih => exact ih
  | @read form _ _ _ _ _ hform _ _ ih =>
      rw [List.flatMap_append, ih, List.append_nil]
      cases form with
      | filterCall call => rw [Form.trees, List.flatMap_singleton, hfilter]
      | expression level value => rw [Form.trees, List.flatMap_singleton, hexpr]
      | tuple level value => rw [Form.trees, List.flatMap_singleton, hexpr]
      | _ => cases hform

theorem Token.Holds.assigned {token : Token} {trees : List Subtree}
    (hholds : token.Holds trees) : trees.flatMap Subtree.assigned = [] := by
  have hempty (htrees : trees = []) : trees.flatMap Subtree.assigned = [] := by
    rw [htrees]
    rfl
  cases token with
  | expression tag =>
      obtain ⟨next, -, htakes⟩ := hholds
      exact htakes.assigned
  | block tag =>
      obtain ⟨-, next, -, htakes⟩ := hholds
      exact htakes.assigned
  | _ => exact hempty hholds

namespace Building

def assigned (building : Building) : List String :=
  building.trees.flatMap Subtree.assigned

theorem Steps.assigned {token : Token} {building next : Building}
    (hstep : Steps token building next) {space : String} (hspace : space ∈ next.assigned) :
    space ∈ building.assigned ∨ token.Assigns space := by
  obtain ⟨trees, hholds, hnext | ⟨earlier, node, hearlier, hnext, -, hspaces⟩⟩ := hstep.trees
  · rw [Building.assigned, hnext, List.flatMap_append, hholds.assigned, List.append_nil] at hspace
    exact .inl hspace
  · have hread : building.assigned =
        earlier.flatMap Subtree.assigned ++ node.children.flatMap Subtree.assigned := by
      rw [← List.flatMap_append, ← hearlier, List.flatMap_append, hholds.assigned,
        List.append_nil]
      rfl
    rw [Building.assigned, hnext, List.flatMap_append, List.flatMap_singleton,
      Subtree.assigned_node] at hspace
    rw [hread]
    grind

/-- A namespace of the tree has been assigned to before, or is by one of the tokens. -/
theorem Runs.assigned {building : Building} {tokens : List Token} {nodes : List Node}
    (hruns : Runs building tokens nodes) {space : String}
    (hspace : space ∈ (nodes.map Subtree.node).flatMap Subtree.assigned) :
    space ∈ building.assigned ∨ ∃ token ∈ tokens, token.Assigns space := by
  induction hruns with
  | stop nodes => exact .inl hspace
  | @step token tokens building next nodes hstep _ ih =>
      rcases ih hspace with hbefore | ⟨later, hlater, hassigns⟩
      · rcases hstep.assigned hbefore with hbuilding | hassigns
        · exact .inl hbuilding
        · exact .inr ⟨token, List.mem_cons_self, hassigns⟩
      · exact .inr ⟨later, List.mem_cons_of_mem _ hlater, hassigns⟩

end Building

/-- What a template reads unbound is a name that one of its tokens offers. -/
theorem Node.exists_offers_of_ofSource {source : List Char} {nodes : List Node} {name : String}
    (hok : Node.ofSource source = .ok nodes) (hname : name ∈ Node.unboundAll ∅ nodes) :
    ∃ tokens, Token.ofChars source = .ok tokens ∧ ∃ token ∈ tokens, token.Offers name := by
  rcases Node.exists_runs_of_ofSource hok with ⟨-, rfl⟩ | ⟨body, offset, htokens, hruns⟩
  · cases hname
  obtain ⟨token, htoken, hoffers⟩ : ∃ token ∈ body, token.Offers name := by
    rcases Node.mem_of_mem_mentions (Node.unboundAll_subset_mentions ∅ nodes hname) with
      ⟨occurrence, hoccurrence, rfl⟩ | hspace
    · obtain ⟨token, htoken, hmem⟩ := List.mem_flatMap.1 (hruns.sublist.subset hoccurrence)
      exact ⟨token, htoken, Token.offers_of_occurrence hmem⟩
    · rcases hruns.assigned hspace with hnone | ⟨token, htoken, hassigns⟩
      · cases hnone
      · exact ⟨token, htoken, Token.offers_of_assigns hassigns⟩
  exact ⟨_, htokens, token, List.mem_append_left _ htoken, hoffers⟩

end TemplateVariables
