/-
Where the query of a link ends up.

A link that is read on a page ends as its own text does, like any other URL.
Only one without a body is the page itself: it keeps the query of the page
unless it has one of its own.
-/
import BillingAccess.Proofs.Url.Ending

namespace BillingAccess.Url

variable {base : Option Url} {page : Url} {ref : Reference} {result : Except Fault Url}

/-- If a URL is read, then it ends as the reference does, or it is the page with
the ending of a reference that has no body. -/
def EndsOn (base : Option Url) (ref : Reference) (result : Except Fault Url) : Prop :=
  ∀ url, result = .ok url → url.EndsAs ref ∨ ∃ page, base = some page ∧ url = page.withoutBody ref

theorem Ends.endsOn (h : Ends ref result) : EndsOn base ref result :=
  fun url hurl => .inl (h url hurl)

theorem endsOn_withoutBody (page : Url) (ref : Reference) :
    EndsOn (some page) ref (.ok (page.withoutBody ref)) := by
  rintro _ ⟨⟩
  exact .inr ⟨page, rfl, rfl⟩

/-- A page that does not count is no page. -/
theorem EndsOn.of_filter (counts : Url → Bool) (h : EndsOn (base.filter counts) ref result) :
    EndsOn base ref result := by
  intro url hurl
  refine (h url hurl).imp_right ?_
  rintro ⟨page, hpage, hsame⟩
  exact ⟨page, (Option.filter_eq_some_iff.mp hpage).1, hsame⟩

theorem endsOn_readRelative (page : Url) (ref : Reference) :
    EndsOn (some page) ref (readRelative page ref) := by
  unfold readRelative
  dsimp only
  split
  case h_1 => exact endsOn_withoutBody page ref
  case h_2 =>
    split
    · exact (ends_readAuthority page.scheme ref _).endsOn
    · split
      · exact (Ends.withPath page ref _).endsOn
      · exact (Ends.withPath page ref _).endsOn

theorem ends_fromRoot (base : Option Url) (ref : Reference) (rest : List Char) :
    Ends ref (readFile.fromRoot ref base rest) := by
  unfold readFile.fromRoot
  split
  · split
    · exact .withPath _ ref _
    · exact .withPath _ ref _
  · exact .withPath _ ref _

theorem endsOn_readFile (base : Option Url) (ref : Reference) :
    EndsOn base ref (readFile base ref) := by
  unfold readFile
  split
  case h_1 =>
    apply Ends.endsOn
    split
    · split
      · split
        · exact ends_readFileAuthority ref _
        · exact ends_fromRoot _ ref _
      · exact ends_fromRoot _ ref _
    · split
      · split
        · exact .withPath _ ref _
        · exact .withPath _ ref _
      · exact .withPath _ ref _
  case h_2 => exact endsOn_withoutBody _ ref
  case h_3 => exact (Ends.withPath _ ref _).endsOn

theorem endsOn_readSchemed (base : Option Url) (scheme : String) (ref : Reference)
    (text : List Char) : EndsOn base ref (readSchemed base scheme ref text) := by
  unfold readSchemed
  dsimp only
  split
  · exact (endsOn_readFile _ { ref with body := text }).of_filter (·.scheme == scheme)
  · split
    · apply EndsOn.of_filter (·.scheme == scheme)
      split
      case h_1 page hsame =>
        rw [hsame]
        split
        · exact endsOn_readRelative page { ref with body := text }
        · exact (ends_readAuthority scheme ref _).endsOn
      case h_2 => exact (ends_readAuthority scheme ref _).endsOn
    · exact (ends_readOther scheme ref text).endsOn

theorem endsOn_readUnschemed (base : Option Url) (ref : Reference) :
    EndsOn base ref (readUnschemed base ref) := by
  unfold readUnschemed
  split
  case h_1 => exact (Ends.error _).endsOn
  case h_2 page =>
    split
    · exact endsOn_withoutBody page ref
    · split
      · exact (Ends.error _).endsOn
      · split
        · exact endsOn_readFile _ ref
        · exact endsOn_readRelative page ref

/-- A link that is read on a page ends as its text does, unless it has no body. -/
theorem endsOn_join (page : Url) (text : String) :
    EndsOn (some page) (.ofText text.toList) (page.join text) := by
  unfold join readFrom
  dsimp only
  split
  · exact endsOn_readSchemed _ _ _ _
  · exact endsOn_readUnschemed _ _

/-- The query of a URL is what a text says behind its first question mark.  If
it says nothing there, the URL has no query or that of the page. -/
structure KeepsQuery (page : Url) (text : List Char) (url : Url) : Prop where
  said : ∀ query, (Reference.ofText text).query = some query →
    url.query = some (queryOf url.scheme query)
  unsaid : (Reference.ofText text).query = none → url.query = none ∨ url.query = page.query

theorem keepsQuery_of_join {text : List Char} {url : Url}
    (h : page.join (String.ofList text) = .ok url) : KeepsQuery page text url := by
  have hends := endsOn_join page (String.ofList text) url h
  rw [String.toList_ofList] at hends
  rcases hends with ⟨hquery, -⟩ | ⟨other, hpage, rfl⟩
  · constructor
    · intro query hsaid
      rw [hquery, hsaid, Option.map_some]
    · intro hunsaid
      rw [hquery, hunsaid]
      exact .inl rfl
  · obtain rfl := Option.some.inj hpage
    have hsame : (page.withoutBody (.ofText text)).scheme = page.scheme := rfl
    have hquery : (page.withoutBody (.ofText text)).query =
        ((Reference.ofText text).query.map (queryOf page.scheme)).or page.query := rfl
    constructor
    · intro query hsaid
      rw [hquery, hsaid, hsame]
      rfl
    · intro hunsaid
      rw [hquery, hunsaid]
      exact .inr rfl

example : (Url.mk "http" "" "" (some (.ipv4 0x7F000001)) (some 8765) (.parts ["callback"])
      none none).join "/callback?code=abc&state=xyz" =
    .ok (.mk "http" "" "" (some (.ipv4 0x7F000001)) (some 8765) (.parts ["callback"])
      (some "code=abc&state=xyz") none) := by
  decide +kernel

end BillingAccess.Url
