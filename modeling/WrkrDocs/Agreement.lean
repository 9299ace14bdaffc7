import WrkrDocs.Sidebar
import WrkrDocs.Header

/-!
# The two renderers, against each other and against the tree

Inside its `<nav>` each renderer draws a sequence of elements, `Entry`: a heading or a
link, with its text, a link's target, and whether it has the active styling.  The sidebar
and the open drawer are two separate implementations of that sequence.

Both draw `NavItem.outline` of every top-level item: the item's heading, then a link per
child.  The drawer draws exactly that.  The sidebar draws it with active styling added
(`sidebarEntries_plain`, `headerEntries_eq`).  So the two lists agree up to styling, and
they are equal exactly when the sidebar highlights nothing, that is, when the path matches
no child's route (`drawer_agrees_with_sidebar`).  A path that matches some link tells them
apart (`drawer_differs_from_sidebar`).

Against the tree: the outline is the pre-order walk of the forest cut at depth one
(`preorder_outline`).  Neither renderer descends further, so a node at depth two or more
is never drawn (`renderers_draw_two_levels`, `renderers_omit_depth_two`).  The shipped
menu has no such node, so there the cut removes nothing.
-/

namespace WrkrDocs

/-! ## Elements -/

/-- One element inside `<nav>`, in document order. -/
inductive Entry where
  /-- A section heading. -/
  | heading (title : String) (active : Bool)
  /-- A link. -/
  | link (title href : String) (active : Bool)
deriving DecidableEq, Repr

/-- Whether the element has the active styling. -/
def Entry.active : Entry → Bool
  | .heading _ active => active
  | .link _ _ active => active

/-- The element with the active styling taken off. -/
def Entry.plain : Entry → Entry
  | .heading title _ => .heading title false
  | .link title href _ => .link title href false

/-- A section block's elements: the heading, then the links. -/
def SectionView.entries (s : SectionView) : List Entry :=
  .heading s.title s.active :: s.links.map fun l => .link l.title l.href l.active

/-- The elements inside the sidebar's `<nav>`. -/
def sidebarEntries (nav : List NavItem) (pathname : String) : List Entry :=
  (sidebar nav pathname).nav.flatMap SectionView.entries

/-- The elements inside the drawer's `<nav>`, none while it is closed. -/
def headerEntries (nav : List NavItem) (isOpen : Bool) : List Entry :=
  ((header nav isOpen).nav.getD []).flatMap SectionView.entries

/-- An item drawn without styling: its heading, then a link per child. -/
def NavItem.outline (item : NavItem) : List Entry :=
  .heading item.title false ::
    (item.children.getD []).map fun child => .link child.title child.href false

/-- The element drawn for a node of the tree at its depth, without styling. -/
def Entry.ofNode : Nat × NavItem → Entry
  | (0, item) => .heading item.title false
  | (_ + 1, item) => .link item.title item.href false

theorem Entry.plain_eq_self (e : Entry) : e.plain = e ↔ e.active = false := by
  cases e <;> simp [Entry.plain, Entry.active]

theorem Entry.map_plain_eq_self (l : List Entry) :
    l.map Entry.plain = l ↔ ∀ e ∈ l, e.active = false := by
  induction l with
  | nil => simp
  | cons e l ih => simp [Entry.plain_eq_self, ih]

/-! ## Each section block -/

theorem Sidebar.section_entries_plain (pathname : String) (item : NavItem) :
    (Sidebar.section pathname item).entries.map Entry.plain = item.outline := by
  simp [SectionView.entries, Sidebar.section_links, NavItem.outline, Entry.plain]

theorem Header.section_entries (item : NavItem) : (Header.section item).entries = item.outline := by
  simp [SectionView.entries, Header.section_links, NavItem.outline]

/-- A sidebar block has no active element exactly when no child's route matches. -/
theorem Sidebar.section_entries_inactive (pathname : String) (item : NavItem) :
    (∀ e ∈ (Sidebar.section pathname item).entries, e.active = false) ↔
      ∀ child ∈ item.children.getD [],
        ¬ (pathname = child.href ∨ pathname = child.href ++ "/") := by
  simp only [SectionView.entries, List.forall_mem_cons, List.forall_mem_map, Entry.active,
    Bool.eq_false_iff, ne_eq, Sidebar.section_active, Sidebar.section_links,
    Sidebar.navLink_active, not_exists, not_and]
  exact and_self_iff

/-! ## The whole menu -/

/-- The sidebar draws the outline of every item, with styling added. -/
theorem sidebarEntries_plain (nav : List NavItem) (pathname : String) :
    (sidebarEntries nav pathname).map Entry.plain = nav.flatMap NavItem.outline := by
  simp [sidebarEntries, sidebar, List.map_flatMap, List.flatMap_map,
    Sidebar.section_entries_plain]

/-- The open drawer draws the outline of every item and nothing else. -/
theorem headerEntries_eq (nav : List NavItem) :
    headerEntries nav true = nav.flatMap NavItem.outline := by
  simp [headerEntries, header, List.flatMap_map, Header.section_entries]

theorem outline_inactive {nav : List NavItem} :
    ∀ e ∈ nav.flatMap NavItem.outline, e.active = false := by
  intro e he
  obtain ⟨item, -, he⟩ := List.mem_flatMap.mp he
  rcases List.mem_cons.mp he with rfl | he
  · rfl
  · obtain ⟨child, -, rfl⟩ := List.mem_map.mp he
    rfl

/-- The drawer and the sidebar draw the same elements in the same order up to styling; the
drawer styles nothing as active; so the two are equal exactly when the path matches no
child's route. -/
theorem drawer_agrees_with_sidebar (nav : List NavItem) (pathname : String) :
    (headerEntries nav true).map Entry.plain = (sidebarEntries nav pathname).map Entry.plain ∧
      (∀ e ∈ headerEntries nav true, e.active = false) ∧
      (headerEntries nav true = sidebarEntries nav pathname ↔
        ∀ item ∈ nav, ∀ child ∈ item.children.getD [],
          ¬ (pathname = child.href ∨ pathname = child.href ++ "/")) := by
  have hinactive : ∀ e ∈ headerEntries nav true, e.active = false :=
    headerEntries_eq nav ▸ outline_inactive
  refine ⟨?_, hinactive, ?_⟩
  · rw [(Entry.map_plain_eq_self _).mpr hinactive, headerEntries_eq, sidebarEntries_plain]
  · rw [headerEntries_eq, ← sidebarEntries_plain nav pathname, Entry.map_plain_eq_self]
    simp only [sidebarEntries, sidebar, List.flatMap_map, List.forall_mem_flatMap,
      Sidebar.section_entries_inactive]

/-- The two renderers do not draw the same list at every path: at the path `/docs` the
sidebar highlights a link to `/docs` and its heading, the drawer does not. -/
theorem drawer_differs_from_sidebar :
    ¬ ∀ (nav : List NavItem) (pathname : String),
      headerEntries nav true = sidebarEntries nav pathname := by
  intro h
  exact absurd (h [⟨"Docs", "/docs", some [⟨"Home", "/docs", none⟩]⟩] "/docs") (by decide)

/-! ## The renderers and the tree -/

/-- The pre-order walk of a tree cut at depth one is the item's outline. -/
theorem preorder_outline (item : NavItem) :
    ((item.preorder 0).filter (fun x => x.1 ≤ 1)).map Entry.ofNode = item.outline := by
  simp [NavItem.preorder_eq, childrenPreorder_eq, forestPreorder_filter_roots, NavItem.outline,
    Entry.ofNode]

/-- The pre-order walk of a forest cut at depth one is the outline of its items. -/
theorem forestPreorder_outline (nav : List NavItem) :
    ((forestPreorder 0 nav).filter (fun x => x.1 ≤ 1)).map Entry.ofNode =
      nav.flatMap NavItem.outline := by
  induction nav with
  | nil => rfl
  | cons item items ih => simp [List.filter_append, preorder_outline, ih]

/-- Both renderers draw exactly the forest's nodes of depth at most one, in pre-order: a
heading with its title for each top-level item, a link with its title and route for each
child; no deeper node. -/
theorem renderers_draw_two_levels (nav : List NavItem) (pathname : String) :
    (sidebarEntries nav pathname).map Entry.plain =
        ((forestPreorder 0 nav).filter (fun x => x.1 ≤ 1)).map Entry.ofNode ∧
      (headerEntries nav true).map Entry.plain =
        ((forestPreorder 0 nav).filter (fun x => x.1 ≤ 1)).map Entry.ofNode := by
  rw [forestPreorder_outline, sidebarEntries_plain, headerEntries_eq,
    (Entry.map_plain_eq_self _).mpr outline_inactive]
  exact ⟨rfl, rfl⟩

/-- The shipped menu has no node below depth one, so the cut leaves all of it. -/
example : (forestPreorder 0 navigation).all (fun x => x.1 ≤ 1) := by decide

/-- The renderers do not draw every node of every forest: a grandchild is never drawn. -/
theorem renderers_omit_depth_two :
    ¬ ∀ (nav : List NavItem) (pathname : String),
      (sidebarEntries nav pathname).map Entry.plain = (forestPreorder 0 nav).map Entry.ofNode ∧
        (headerEntries nav true).map Entry.plain = (forestPreorder 0 nav).map Entry.ofNode := by
  intro h
  exact absurd (h [⟨"Docs", "/docs", some [⟨"Guides", "/docs/guides",
    some [⟨"Scan", "/docs/guides/scan", none⟩]⟩]⟩] "/").1 (by decide)

end WrkrDocs
