import WrkrDocs.Navigation

/-!
# The collapsible drawer

`Header.tsx` draws the bar for narrow screens: a logo link, a button, and the menu in a
drawer below them.  One boolean, `open`, owned by the component and `false` at first,
decides whether the drawer is drawn.  The button sets it to its negation, and every link in
the drawer sets it to `false` when followed.  The logo link has no handler, so it leaves
the drawer as it is.  The drawer repeats the menu's layout, a heading per top-level item
over a link per child, with no active styling anywhere: the component never reads the
current path.

A link of the drawer can be followed only while the drawer is open
(`DrawerEvent.Enabled.select_open`).  `drawerRun_eq` gives the state after any sequence of
events in closed form: it is open exactly when the toggles since the last followed link of
the drawer, or since the start if there was none, are odd in number, where a start in the
open state counts as one toggle.  Over the sequences the page allows from its first
render, `DrawerRun`, the links followed in the drawer never outnumber the presses of the
button (`DrawerRun.selects_le_toggles`).
-/

namespace WrkrDocs

/-! ## The component -/

/-- A section of the drawer: the item's heading over a link per child, none of them styled
as active. -/
def Header.section (item : NavItem) : SectionView :=
  { title := item.title
    active := false
    links := (item.children.map fun children =>
      children.map fun child => ⟨child.title, child.href, false⟩).getD [] }

/-- What `Header` draws. -/
structure HeaderView where
  /-- The logo, a link to the home page whose text is the badge letter `W` and the name. -/
  home : LinkView
  /-- The text of the button, `Close` or `Menu`. -/
  toggleLabel : String
  /-- The sections inside `<nav>`, drawn only while the drawer is open. -/
  nav : Option (List SectionView)

/-- `Header`: the bar, and the drawer with a section per top-level item when open. -/
def header (nav : List NavItem) (isOpen : Bool) : HeaderView :=
  { home := ⟨"W" ++ "Wrkr", "/", false⟩
    toggleLabel := if isOpen then "Close" else "Menu"
    nav := if isOpen then some (nav.map Header.section) else none }

@[simp] theorem Header.section_title (item : NavItem) : (Header.section item).title = item.title :=
  rfl

@[simp] theorem Header.section_active (item : NavItem) : (Header.section item).active = false :=
  rfl

theorem Header.section_links (item : NavItem) :
    (Header.section item).links =
      (item.children.getD []).map fun child => ⟨child.title, child.href, false⟩ := by
  obtain ⟨_, _, _ | _⟩ := item <;> rfl

/-! ## Events -/

/-- What the user can do to the drawer's state. -/
inductive DrawerEvent where
  /-- Press the button: `setOpen(!open)`. -/
  | toggle
  /-- Follow the drawer's link to `href`: `setOpen(false)`. -/
  | select (href : String)
  /-- Follow the logo link, which has no handler. -/
  | home
deriving DecidableEq, Repr

/-- The state after an event, as its handler sets it. -/
def DrawerEvent.next : DrawerEvent → Bool → Bool
  | .toggle, isOpen => !isOpen
  | .select _, _ => false
  | .home, isOpen => isOpen

/-- An event can happen: the button and the logo always, a link of the drawer only while
the drawer shows it. -/
def DrawerEvent.Enabled (nav : List NavItem) (isOpen : Bool) : DrawerEvent → Prop
  | .toggle => True
  | .select href => ∃ s ∈ (header nav isOpen).nav.getD [], ∃ l ∈ s.links, l.href = href
  | .home => True

/-- A link of the drawer can be followed only while the drawer is open. -/
theorem DrawerEvent.Enabled.select_open {nav : List NavItem} {isOpen : Bool} {href : String}
    (h : (DrawerEvent.select href).Enabled nav isOpen) : isOpen = true := by
  cases isOpen
  · simp [DrawerEvent.Enabled, header] at h
  · rfl

/-- The state after a sequence of events, the first event first. -/
def drawerRun : Bool → List DrawerEvent → Bool
  | isOpen, [] => isOpen
  | isOpen, e :: es => drawerRun (e.next isOpen) es

theorem drawerRun_append_event (isOpen : Bool) (es : List DrawerEvent) (e : DrawerEvent) :
    drawerRun isOpen (es ++ [e]) = e.next (drawerRun isOpen es) := by
  induction es generalizing isOpen with
  | nil => rfl
  | cons e' es ih => exact ih (e'.next isOpen)

/-- Whether an event follows a link of the drawer. -/
def DrawerEvent.isSelect : DrawerEvent → Bool
  | .select _ => true
  | _ => false

/-- The toggles since the last followed link of the drawer, or since the start. -/
def togglesSinceSelect (es : List DrawerEvent) : Nat :=
  (es.reverse.takeWhile fun e => !e.isSelect).count .toggle

/-- After any run the drawer is open exactly when the toggles since the last followed link
are odd in number, counting a start in the open state as one more when no link was
followed.  Following the logo changes nothing. -/
theorem drawerRun_eq (isOpen : Bool) (es : List DrawerEvent) :
    drawerRun isOpen es =
      ((isOpen && !es.any DrawerEvent.isSelect) ^^ (togglesSinceSelect es % 2 == 1)) := by
  induction es using List.reverseRecOn with
  | nil => simp [drawerRun, togglesSinceSelect]
  | append_singleton es e ih =>
    rw [drawerRun_append_event, ih]
    cases e with
    | toggle =>
      have hodd (n : Nat) : ((n + 1) % 2 == 1) = !(n % 2 == 1) := by
        rcases Nat.mod_two_eq_zero_or_one n with h | h <;> simp [Nat.add_mod, h]
      simp [togglesSinceSelect, DrawerEvent.next, DrawerEvent.isSelect, hodd]
    | select href => simp [togglesSinceSelect, DrawerEvent.next, DrawerEvent.isSelect]
    | home => simp [togglesSinceSelect, DrawerEvent.next, DrawerEvent.isSelect]

/-! ## Runs the page allows -/

/-- The sequences of events the page allows from the first render, the drawer closed: each
event is enabled in the state the events before it reach. -/
inductive DrawerRun (nav : List NavItem) : List DrawerEvent → Prop
  | nil : DrawerRun nav []
  | snoc {es : List DrawerEvent} {e : DrawerEvent} :
      DrawerRun nav es → e.Enabled nav (drawerRun false es) → DrawerRun nav (es ++ [e])

/-- Along a run the followed links of the drawer, plus one if the drawer is open, never
outnumber the presses of the button. -/
theorem DrawerRun.selects_add_open_le {nav : List NavItem} {es : List DrawerEvent}
    (h : DrawerRun nav es) :
    es.countP DrawerEvent.isSelect + (drawerRun false es).toNat ≤ es.count .toggle := by
  induction h with
  | nil => simp [drawerRun]
  | @snoc es e _ he ih =>
    rw [drawerRun_append_event]
    cases e with
    | toggle =>
      cases hs : drawerRun false es
      · simpa [hs, DrawerEvent.next, DrawerEvent.isSelect] using ih
      · simp [hs, DrawerEvent.next, DrawerEvent.isSelect] at ih ⊢
        omega
    | select href =>
      simpa [he.select_open, DrawerEvent.next, DrawerEvent.isSelect] using ih
    | home => simpa [DrawerEvent.next, DrawerEvent.isSelect] using ih

/-- Every link followed in the drawer was opened by a press of the button of its own. -/
theorem DrawerRun.selects_le_toggles {nav : List NavItem} {es : List DrawerEvent}
    (h : DrawerRun nav es) : es.countP DrawerEvent.isSelect ≤ es.count .toggle :=
  le_trans (Nat.le_add_right _ _) h.selects_add_open_le

theorem DrawerRun.selects_le_toggles_docs :
    DrawerRun [⟨"Docs", "/docs", some [⟨"Home", "/docs", none⟩]⟩]
        [.toggle, .select "/docs"] ∧
      [DrawerEvent.toggle, .select "/docs"].countP DrawerEvent.isSelect ≤
        [DrawerEvent.toggle, .select "/docs"].count .toggle :=
  have hrun : DrawerRun [⟨"Docs", "/docs", some [⟨"Home", "/docs", none⟩]⟩]
      [.toggle, .select "/docs"] :=
    @DrawerRun.snoc _ [.toggle] (.select "/docs") (@DrawerRun.snoc _ [] .toggle .nil trivial)
      (by simp only [DrawerEvent.Enabled]; decide)
  ⟨hrun, DrawerRun.selects_le_toggles hrun⟩

end WrkrDocs
