import Mathlib.Data.List.Forall2
import WrkrDocs.Navigation

/-!
# The persistent sidebar

`Sidebar.tsx` draws the menu for wide screens.  `Sidebar` draws one `Section` per
top-level item, and `Section` draws the item's heading over a `NavLink` per child.  Both
read the current path from the router.  `NavLink` gives a link the active styling when the
path is the link's `href` or that `href` followed by one `/`.  `Section` gives its heading
the active styling when some child passes the same test, but it makes the comparison
itself, with its own copy of the expression.

`sidebar_active_iff` says what the sidebar draws over every menu and every path, element
by element against the tree.  The sections correspond one to one, in order, to the
top-level items, and the links of a section to the item's children.  A link shows its
child's title and route, and is active exactly when the path is that route with at most
one `/` added.  A heading shows its item's title, and is active exactly when the path so
matches one of the item's children, which is also exactly when a link under it is active:
the two copies of the comparison agree.  The test is one-sided.  A path without the slash
does not match a route that has one (`sidebar_trailing_slash_href_inactive`).  The router
of this site adds the slash to paths (`trailingSlash` in the Next.js configuration), and
every shipped route is written without it.
-/

namespace WrkrDocs

/-! ## The components -/

/-- `NavLink`: a link to an item, active when the path is its `href`, possibly followed by
one `/`. -/
def Sidebar.navLink (pathname : String) (item : NavItem) : LinkView :=
  { title := item.title
    href := item.href
    active := pathname == item.href || pathname == item.href ++ "/" }

/-- `Section`: an item's heading over a `NavLink` per child.  The heading is active when a
child's `href` matches the path, by its own copy of the comparison. -/
def Sidebar.section (pathname : String) (item : NavItem) : SectionView :=
  { title := item.title
    active := (item.children.map fun children => children.any fun child =>
      pathname == child.href || pathname == child.href ++ "/").getD false
    links := (item.children.map fun children => children.map (Sidebar.navLink pathname)).getD [] }

/-- What `Sidebar` draws: the logo link, the menu, and the two links below the menu. -/
structure SidebarView where
  /-- The logo, a link to the home page whose text is the badge letter `W` and the name. -/
  home : LinkView
  /-- The sections inside `<nav>`. -/
  nav : List SectionView
  /-- The links below the menu. -/
  footer : List LinkView

/-- `Sidebar`: a `Section` for every top-level item of the menu. -/
def sidebar (nav : List NavItem) (pathname : String) : SidebarView :=
  { home := ⟨"W" ++ "Wrkr", "/", false⟩
    nav := nav.map (Sidebar.section pathname)
    footer := [⟨"LLM Context", "/llms", false⟩,
      ⟨"GitHub", "https://github.com/Clyra-AI/wrkr", false⟩] }

/-! ## One spec lemma per component -/

namespace Sidebar

@[simp] theorem navLink_title (pathname : String) (item : NavItem) :
    (navLink pathname item).title = item.title := rfl

@[simp] theorem navLink_href (pathname : String) (item : NavItem) :
    (navLink pathname item).href = item.href := rfl

theorem navLink_active (pathname : String) (item : NavItem) :
    (navLink pathname item).active = true ↔
      pathname = item.href ∨ pathname = item.href ++ "/" := by
  simp [navLink]

@[simp] theorem section_title (pathname : String) (item : NavItem) :
    (Sidebar.section pathname item).title = item.title := rfl

theorem section_links (pathname : String) (item : NavItem) :
    (Sidebar.section pathname item).links = (item.children.getD []).map (navLink pathname) := by
  obtain ⟨_, _, _ | _⟩ := item <;> rfl

theorem section_active (pathname : String) (item : NavItem) :
    (Sidebar.section pathname item).active = true ↔
      ∃ child ∈ item.children.getD [], pathname = child.href ∨ pathname = child.href ++ "/" := by
  obtain ⟨_, _, _ | _⟩ := item <;> simp [Sidebar.section]

/-- The heading's own comparison agrees with the links': the heading is active exactly
when a link under it is. -/
theorem section_active_iff_link (pathname : String) (item : NavItem) :
    (Sidebar.section pathname item).active = true ↔
      ∃ l ∈ (Sidebar.section pathname item).links, l.active = true := by
  simp [section_active, section_links, navLink_active]

end Sidebar

/-! ## Active styling -/

/-- Over every menu and path the sidebar draws a section per top-level item, in order, and
in it a link per child, in order.  A link shows its child's title and route and is active
exactly when the path is the route or the route followed by `/`.  A heading shows its item's
title and is active exactly when the path so matches a child of the item, that is, exactly
when a link under it is active. -/
theorem sidebar_active_iff (nav : List NavItem) (pathname : String) :
    List.Forall₂
      (fun (s : SectionView) (item : NavItem) =>
        s.title = item.title ∧
          List.Forall₂
            (fun (l : LinkView) (child : NavItem) =>
              l.title = child.title ∧ l.href = child.href ∧
                (l.active = true ↔ pathname = child.href ∨ pathname = child.href ++ "/"))
            s.links (item.children.getD []) ∧
          (s.active = true ↔ ∃ child ∈ item.children.getD [],
            pathname = child.href ∨ pathname = child.href ++ "/") ∧
          (s.active = true ↔ ∃ l ∈ s.links, l.active = true))
      (sidebar nav pathname).nav nav := by
  simp only [sidebar, List.forall₂_map_left_iff, List.forall₂_same]
  intro item _
  refine ⟨rfl, ?_, Sidebar.section_active pathname item,
    Sidebar.section_active_iff_link pathname item⟩
  rw [Sidebar.section_links, List.forall₂_map_left_iff, List.forall₂_same]
  exact fun child _ => ⟨rfl, rfl, Sidebar.navLink_active pathname child⟩

/-- With a symmetric test a path without the slash would match a route that has one.  The
code's test is one-sided: at the path `/docs` the link to a child with route `/docs/` is
drawn inactive. -/
theorem sidebar_trailing_slash_href_inactive :
    ¬ ∀ (nav : List NavItem) (pathname : String),
      List.Forall₂
        (fun (s : SectionView) (item : NavItem) =>
          List.Forall₂
            (fun (l : LinkView) (child : NavItem) =>
              l.active = true ↔ pathname = child.href ∨ pathname = child.href ++ "/" ∨
                child.href = pathname ++ "/")
            s.links (item.children.getD []))
        (sidebar nav pathname).nav nav :=
  fun h => absurd (h [⟨"Docs", "/docs", some [⟨"Home", "/docs/", none⟩]⟩] "/docs") (by decide)

end WrkrDocs
