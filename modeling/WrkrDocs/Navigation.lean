import WrkrDocs.Text

/-!
# The navigation tree

`navigation.ts` declares `NavItem`, a node of the menu with its label, its route and
optional children, and the shipped menu `navigation`.  The type has no depth limit, so a
menu is a forest of any depth, and `children` may be absent as well as empty.  The shipped
menu has two levels, sections and their links, none of them ending with `/`.

The second half fixes what the two renderers draw.  A renderer turns the forest into
section blocks, `SectionView`, each a heading and a list of links, `LinkView`.  The
styling of an element is reduced to the one thing the components compute for it, whether
it carries the active styling; the rest of each class string is fixed.

`NavItem.preorder` lists every node of a tree in pre-order with its depth.  It is the
statement side of the renderers' layout: it walks the whole tree, at every depth, and the
renderers are compared with it.  `forestPreorder_depth_ge` says a subtree's nodes sit no
higher than its root, so cutting the walk of a forest at the depth of its roots leaves the
roots (`forestPreorder_filter_roots`).
-/

namespace WrkrDocs

/-! ## Items -/

/-- `NavItem`: a node of the menu. -/
structure NavItem where
  /-- The label. -/
  title : String
  /-- The route, relative to the site root. -/
  href : String
  /-- The child nodes; JavaScript's `undefined` is `none`. -/
  children : Option (List NavItem)
deriving Repr

/-- `navigation`: the shipped menu, seven sections of links. -/
def navigation : List NavItem := [
  ⟨"Start Here", "/docs", some [
    ⟨"Adopt In One PR", "/docs/adopt_in_one_pr", none⟩,
    ⟨"Quickstart", "/docs/examples/quickstart", none⟩,
    ⟨"Integration Checklist", "/docs/integration_checklist", none⟩,
    ⟨"FAQ", "/docs/faq", none⟩]⟩,
  ⟨"Intent Guides", "/docs/intent/scan-org-repos-for-ai-agents-configs", some [
    ⟨"Scan Org Repos", "/docs/intent/scan-org-repos-for-ai-agents-configs", none⟩,
    ⟨"Detect Headless Risk", "/docs/intent/detect-headless-agent-risk", none⟩,
    ⟨"Generate Evidence", "/docs/intent/generate-compliance-evidence-from-scans", none⟩,
    ⟨"Gate Regressions", "/docs/intent/gate-on-drift-and-regressions", none⟩]⟩,
  ⟨"Technical Foundations", "/docs/architecture", some [
    ⟨"Docs Map", "/docs", none⟩,
    ⟨"Architecture", "/docs/architecture", none⟩,
    ⟨"Mental Model", "/docs/concepts/mental_model", none⟩,
    ⟨"Policy Authoring", "/docs/policy_authoring", none⟩,
    ⟨"Failure Taxonomy", "/docs/failure_taxonomy_exit_codes", none⟩,
    ⟨"Threat Model", "/docs/threat_model", none⟩]⟩,
  ⟨"Trust and Contracts", "/docs/trust/deterministic-guarantees", some [
    ⟨"Deterministic Guarantees", "/docs/trust/deterministic-guarantees", none⟩,
    ⟨"Coverage Matrix", "/docs/trust/detection-coverage-matrix", none⟩,
    ⟨"Proof Verification", "/docs/trust/proof-chain-verification", none⟩,
    ⟨"Contracts and Schemas", "/docs/trust/contracts-and-schemas", none⟩,
    ⟨"Compatibility Matrix", "/docs/contracts/compatibility_matrix", none⟩,
    ⟨"Security and Privacy", "/docs/trust/security-and-privacy", none⟩,
    ⟨"Release Integrity", "/docs/trust/release-integrity", none⟩,
    ⟨"Manifest Spec", "/docs/specs/wrkr-manifest", none⟩]⟩,
  ⟨"Command Reference", "/docs/commands/index", some [
    ⟨"index", "/docs/commands/index", none⟩,
    ⟨"root", "/docs/commands/root", none⟩,
    ⟨"scan", "/docs/commands/scan", none⟩,
    ⟨"report", "/docs/commands/report", none⟩,
    ⟨"score", "/docs/commands/score", none⟩,
    ⟨"verify", "/docs/commands/verify", none⟩,
    ⟨"evidence", "/docs/commands/evidence", none⟩,
    ⟨"regress", "/docs/commands/regress", none⟩,
    ⟨"fix", "/docs/commands/fix", none⟩]⟩,
  ⟨"Positioning", "/docs/positioning", some [
    ⟨"Positioning", "/docs/positioning", none⟩,
    ⟨"Evidence Templates", "/docs/evidence_templates", none⟩,
    ⟨"Operator Playbooks", "/docs/examples/operator-playbooks", none⟩]⟩,
  ⟨"Docs Hub", "/docs", some [
    ⟨"Docs Home", "/docs", none⟩,
    ⟨"LLM Context", "/llms", none⟩,
    ⟨"llms.txt", "/llms.txt", none⟩,
    ⟨"llms-full.txt", "/llms-full.txt", none⟩,
    ⟨"AI Sitemap", "/ai-sitemap.xml", none⟩]⟩]

/-! ## Pre-order -/

mutual
/-- The nodes of a tree in pre-order, each with its depth, the root at `depth`. -/
def NavItem.preorder (depth : Nat) : NavItem → List (Nat × NavItem)
  | item@⟨_, _, children⟩ => (depth, item) :: childrenPreorder (depth + 1) children

/-- The nodes below an item, whose children may be absent. -/
def childrenPreorder (depth : Nat) : Option (List NavItem) → List (Nat × NavItem)
  | none => []
  | some items => forestPreorder depth items

/-- The nodes of a forest, tree after tree, each root at `depth`. -/
def forestPreorder (depth : Nat) : List NavItem → List (Nat × NavItem)
  | [] => []
  | item :: items => item.preorder depth ++ forestPreorder depth items
end

@[simp] theorem forestPreorder_nil (depth : Nat) : forestPreorder depth [] = [] := rfl

@[simp] theorem forestPreorder_cons (depth : Nat) (item : NavItem) (items : List NavItem) :
    forestPreorder depth (item :: items) = item.preorder depth ++ forestPreorder depth items :=
  rfl

theorem NavItem.preorder_eq (depth : Nat) (item : NavItem) :
    item.preorder depth = (depth, item) :: childrenPreorder (depth + 1) item.children := by
  cases item; rfl

mutual
theorem NavItem.preorder_depth_ge (depth : Nat) :
    ∀ item : NavItem, ∀ x ∈ item.preorder depth, depth ≤ x.1
  | ⟨_, _, children⟩, x, hx => by
    rcases List.mem_cons.mp hx with rfl | hx
    · exact Nat.le_refl _
    · exact Nat.le_of_succ_le (childrenPreorder_depth_ge (depth + 1) children x hx)

theorem childrenPreorder_depth_ge (depth : Nat) :
    ∀ children : Option (List NavItem), ∀ x ∈ childrenPreorder depth children, depth ≤ x.1
  | none, _, hx => absurd hx (List.not_mem_nil _)
  | some items, x, hx => forestPreorder_depth_ge depth items x hx

/-- Every node of a forest whose roots sit at `depth` sits at `depth` or deeper. -/
theorem forestPreorder_depth_ge (depth : Nat) :
    ∀ items : List NavItem, ∀ x ∈ forestPreorder depth items, depth ≤ x.1
  | [], _, hx => absurd hx (List.not_mem_nil _)
  | item :: items, x, hx => by
    rcases List.mem_append.mp hx with hx | hx
    · exact NavItem.preorder_depth_ge depth item x hx
    · exact forestPreorder_depth_ge depth items x hx
end

theorem childrenPreorder_eq (depth : Nat) (children : Option (List NavItem)) :
    childrenPreorder depth children = forestPreorder depth (children.getD []) := by
  cases children <;> rfl

/-- Cutting the walk of a forest at the depth of its roots leaves the roots, in order. -/
theorem forestPreorder_filter_roots (depth : Nat) (items : List NavItem) :
    (forestPreorder depth items).filter (fun x => x.1 ≤ depth) =
      items.map fun item => (depth, item) := by
  induction items with
  | nil => rfl
  | cons item items ih =>
    have hdeep :
        (childrenPreorder (depth + 1) item.children).filter (fun x => x.1 ≤ depth) = [] :=
      List.filter_eq_nil_iff.mpr fun x hx => by
        have := childrenPreorder_depth_ge (depth + 1) item.children x hx
        simp only [decide_eq_true_eq]
        omega
    simp [NavItem.preorder_eq, hdeep, ih]

/-! ## What a renderer draws -/

/-- A link as drawn: its text, its target, and whether it has the active styling. -/
structure LinkView where
  /-- The text. -/
  title : String
  /-- The target. -/
  href : String
  /-- Whether the active styling is applied. -/
  active : Bool
deriving DecidableEq, Repr

/-- A section block as drawn: the heading's text and styling, then the links in order. -/
structure SectionView where
  /-- The heading's text. -/
  title : String
  /-- Whether the heading has the active styling. -/
  active : Bool
  /-- The links under the heading. -/
  links : List LinkView
deriving DecidableEq, Repr

end WrkrDocs
