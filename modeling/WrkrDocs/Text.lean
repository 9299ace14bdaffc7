import Mathlib.Data.List.Infix

/-!
# Strings as the site reads them

The site builds URLs and compares route paths as JavaScript strings.  A JavaScript string
is a Lean `String` here, and every fact about one is read off its character list
`String.data`: `++` is `String.append`, whose characters are those of the two sides in
order (`String.data_append`), and `===` is `String` equality.

`startsWith` is `String.prototype.startsWith`, the one string method the site calls.
`occurrences pat s` counts the positions of `s` at which `pat` starts, overlapping
occurrences included.

The one real fact is `occurrencesIn_append`.  A count over `a ++ b` is the count over `a`
plus the count over `b` as soon as `NoStraddle pat a` holds: no nonempty tail of `a`
shorter than `pat` is a prefix of `pat`.  Only such a tail can start an occurrence that
runs on into `b`.  `NoStraddle` is decidable, so for the fixed pieces of a URL it is
checked by `decide`.
-/

namespace WrkrDocs

/-! ## `startsWith` -/

/-- `String.prototype.startsWith`: `pre` is a prefix of `s`. -/
def startsWith (s pre : String) : Bool := pre.data.isPrefixOf s.data

theorem startsWith_iff (s pre : String) : startsWith s pre = true ↔ pre.data <+: s.data :=
  List.isPrefixOf_iff_prefix

/-- A string starts with `/` when its first character is `/`. -/
theorem startsWith_slash_iff (s : String) : startsWith s "/" = true ↔ s.data.head? = some '/' := by
  rw [startsWith_iff]
  cases s.data <;> simp [eq_comm]

/-! ## Counting occurrences -/

/-- The positions of a character list at which `pat` starts. -/
def occurrencesIn (pat : List Char) : List Char → Nat
  | [] => 0
  | c :: cs => (if pat <+: c :: cs then 1 else 0) + occurrencesIn pat cs

/-- The number of occurrences of `pat` in `s`, overlapping ones included. -/
def occurrences (pat s : String) : Nat := occurrencesIn pat.data s.data

/-- No occurrence of `pat` starts inside `a` and ends past it. -/
def NoStraddle (pat a : List Char) : Prop :=
  ∀ t ∈ a.tails, t ≠ [] → t.length < pat.length → ¬ t <+: pat

instance (pat a : List Char) : Decidable (NoStraddle pat a) :=
  inferInstanceAs (Decidable (∀ t ∈ a.tails, t ≠ [] → t.length < pat.length → ¬ t <+: pat))

theorem NoStraddle.tail {pat a : List Char} {c : Char} (h : NoStraddle pat (c :: a)) :
    NoStraddle pat a :=
  fun t ht => h t (List.mem_cons_of_mem _ ht)

/-- Whether `pat` starts at a tail `t` of `a` does not depend on what follows `a`, unless
`t` is a proper prefix of `pat`. -/
theorem prefix_append_iff {pat t : List Char} (b : List Char)
    (h : t.length < pat.length → ¬ t <+: pat) : pat <+: t ++ b ↔ pat <+: t := by
  refine ⟨fun hp => ?_, fun hp => hp.trans (List.prefix_append t b)⟩
  by_cases hl : pat.length ≤ t.length
  · exact List.prefix_of_prefix_length_le hp (List.prefix_append t b) hl
  · exact absurd (List.prefix_of_prefix_length_le (List.prefix_append t b) hp (by omega))
      (h (by omega))

/-- Counting over a concatenation: with no straddling occurrence the counts add up. -/
theorem occurrencesIn_append (pat : List Char) {a : List Char} (b : List Char)
    (h : NoStraddle pat a) :
    occurrencesIn pat (a ++ b) = occurrencesIn pat a + occurrencesIn pat b := by
  induction a with
  | nil => simp [occurrencesIn]
  | cons c a ih =>
    have hc := prefix_append_iff b (h (c :: a) (List.mem_cons_self _ _) (List.cons_ne_nil c a))
    rw [List.cons_append, occurrencesIn, occurrencesIn, ← List.cons_append, if_congr hc rfl rfl,
      ih h.tail]
    omega

end WrkrDocs
