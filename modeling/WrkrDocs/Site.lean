import WrkrDocs.Text

/-!
# The site configuration and canonical URLs

`site.ts` holds the deployment's origin and base path and `canonicalUrl`, which every
page calls for the URL it declares as canonical.  The builder puts a `/` in front of a
path whose first character is not one, and then writes origin, base path and path one
after another.

`canonicalUrl_adds_base_path_once` is the law behind "the base path appears exactly once":
the URL holds one occurrence of the base path more than the normalized path does.  Its
statement says when the slash is added by the path's first character, not by the model's
`startsWith` (`startsWith_slash_iff`).  The proof splits the count at the two joins with
`occurrencesIn_append`.  Neither join can hold an occurrence: the origin ends in `o`, and
no tail of `/wrkr` but the whole starts with `/`.
-/

namespace WrkrDocs

/-! ## Configuration -/

/-- `SITE_ORIGIN`: scheme and host of the deployment. -/
def siteOrigin : String := "https://clyra-ai.github.io"

/-- `SITE_BASE_PATH`: the sub-path the site is deployed under. -/
def siteBasePath : String := "/wrkr"

/-- `canonicalUrl`: origin, base path, and the path with a leading `/` added if missing. -/
def canonicalUrl (pathname : String) : String :=
  let normalized := if startsWith pathname "/" then pathname else "/" ++ pathname
  siteOrigin ++ siteBasePath ++ normalized

/-! ## The base path appears once -/

theorem noStraddle_siteOrigin : NoStraddle siteBasePath.data siteOrigin.data := by decide

theorem noStraddle_siteBasePath : NoStraddle siteBasePath.data siteBasePath.data := by decide

/-- The canonical URL is origin, base path and normalized path, and it holds exactly one
occurrence of the base path more than the normalized path: none is formed across a join. -/
theorem canonicalUrl_adds_base_path_once (pathname : String) :
    canonicalUrl pathname = siteOrigin ++ siteBasePath ++
        (if pathname.data.head? = some '/' then pathname else "/" ++ pathname) ∧
      occurrences siteBasePath (canonicalUrl pathname) =
        occurrences siteBasePath
          (if pathname.data.head? = some '/' then pathname else "/" ++ pathname) + 1 := by
  refine ⟨by simp only [canonicalUrl, startsWith_slash_iff], ?_⟩
  have hOrigin : occurrencesIn siteBasePath.data siteOrigin.data = 0 := by decide
  have hBase : occurrencesIn siteBasePath.data siteBasePath.data = 1 := by decide
  simp only [occurrences, canonicalUrl, startsWith_slash_iff, String.data_append,
    List.append_assoc]
  rw [occurrencesIn_append _ _ noStraddle_siteOrigin,
    occurrencesIn_append _ _ noStraddle_siteBasePath, hOrigin, hBase]
  omega

example : canonicalUrl "docs/" = "https://clyra-ai.github.io/wrkr/docs/" ∧
    canonicalUrl "/docs/" = "https://clyra-ai.github.io/wrkr/docs/" := by decide

end WrkrDocs
