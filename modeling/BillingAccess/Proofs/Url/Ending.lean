/-
Where the query and the fragment of a URL come from.

They are what stands behind the first question mark and the first number sign
of the text, whatever scheme it has.  Blanks and tabs are dropped before the
text is cut, but neither of the two marks is, so only a text without marks
becomes a URL without an ending.  Pairs that are added to such a URL are all
that its query says.
-/
import BillingAccess.Url.Edit
import BillingAccess.Proofs.Url.Form
import Mathlib.Data.List.TakeWhile

namespace BillingAccess.Url

/-- The query and the fragment are those of the reference. -/
def EndsAs (url : Url) (ref : Reference) : Prop :=
  url.query = ref.query.map (queryOf url.scheme) ∧ url.fragment = ref.fragment.map fragmentOf

/-- If a URL is read, then it ends as the reference does. -/
def Ends (ref : Reference) (result : Except Fault Url) : Prop :=
  ∀ url, result = .ok url → url.EndsAs ref

namespace Ends

variable {ref : Reference} {α : Type}

theorem withEnding (url : Url) (ref : Reference) : Ends ref (.ok (url.withEnding ref)) := by
  rintro _ ⟨⟩
  exact ⟨rfl, rfl⟩

theorem withPath (url : Url) (ref : Reference) (path : List String) :
    Ends ref (.ok (url.withPath ref path)) := by
  rintro _ ⟨⟩
  exact ⟨rfl, rfl⟩

theorem error (fault : Fault) : Ends ref (.error fault) :=
  fun _ h => nomatch h

theorem bind {first : Except Fault α} {next : α → Except Fault Url}
    (h : ∀ a, Ends ref (next a)) : Ends ref (first >>= next) := by
  cases first with
  | error fault => exact error fault
  | ok a => exact h a

/-- A check that fails, or after which the reading goes on. -/
theorem check {condition : Prop} [Decidable condition] {fault : Fault}
    {next : PUnit → Except Fault Url} (h : Ends ref (next ⟨⟩)) :
    Ends ref (if condition then throw fault >>= next else next ⟨⟩) := by
  split
  · exact error fault
  · exact h

end Ends

theorem ends_readAuthority (scheme : String) (ref : Reference) (text : List Char) :
    Ends ref (readAuthority scheme ref text) := by
  unfold readAuthority
  dsimp only
  apply Ends.check
  apply Ends.bind
  intro host
  apply Ends.check
  -- The port is read if there is one, and what follows is the same.
  split
  all_goals
    apply Ends.bind
    intro port
    apply Ends.check
    exact .withPath _ ref _

theorem ends_readFileAuthority (ref : Reference) (text : List Char) :
    Ends ref (readFileAuthority ref text) := by
  unfold readFileAuthority
  dsimp only
  split
  · exact .withPath _ ref _
  · refine .bind fun host => ?_
    exact .withPath _ ref _

theorem ends_readFile (ref : Reference) : Ends ref (readFile none ref) := by
  unfold readFile
  split
  case h_1 =>
    split
    · split
      · split
        · exact ends_readFileAuthority ref _
        · exact .withPath _ ref _
      · exact .withPath _ ref _
    · exact .withPath _ ref _
  case h_2 hbase => cases hbase
  case h_3 => exact .withPath _ ref _

theorem ends_readOther (scheme : String) (ref : Reference) (text : List Char) :
    Ends ref (readOther scheme ref text) := by
  unfold readOther
  split
  · exact ends_readAuthority scheme ref _
  · exact .withPath _ ref _
  · exact .withEnding _ ref

theorem ends_readSchemed (scheme : String) (ref : Reference) (text : List Char) :
    Ends ref (readSchemed none scheme ref text) := by
  unfold readSchemed
  dsimp only
  split
  · exact ends_readFile { ref with body := text }
  · split
    · exact ends_readAuthority scheme ref _
    · exact ends_readOther scheme ref text

/-- A URL that is read from a text ends as the text does. -/
theorem ends_parse (text : String) : Ends (.ofText text.toList) (parse text) := by
  unfold parse readFrom
  dsimp only
  split
  · exact ends_readSchemed _ _ _
  · exact .error _

theorem cutAt_of_not_mem {mark : Char} {text : List Char} (h : mark ∉ text) :
    cutAt mark text = (text, none) := by
  have hall : text.dropWhile (· != mark) = [] := by
    rw [List.dropWhile_eq_nil_iff]
    exact fun c hc => bne_iff_ne.mpr fun heq => h (heq ▸ hc)
  rw [cutAt, hall]

theorem cutAt_eq_none_iff {mark : Char} {text : List Char} :
    (cutAt mark text).2 = none ↔ mark ∉ text := by
  constructor
  · intro h hmem
    cases hrest : text.dropWhile (· != mark) with
    | nil => simpa using List.dropWhile_eq_nil_iff.mp hrest mark hmem
    | cons c rest =>
        rw [cutAt, hrest] at h
        cases h
  · intro h
    rw [cutAt_of_not_mem h]

theorem mem_dropWhile_iff {p : Char → Bool} {mark : Char} (hp : p mark = false)
    {text : List Char} : mark ∈ text.dropWhile p ↔ mark ∈ text := by
  induction text with
  | nil => rfl
  | cons c rest ih =>
      rw [List.dropWhile_cons]
      split
      case isTrue hc =>
        have hne : mark ≠ c := by
          rintro rfl
          rw [hp] at hc
          cases hc
        rw [ih, List.mem_cons, or_iff_right hne]
      case isFalse => rfl

theorem mem_trimBy_iff {p : Char → Bool} {mark : Char} (hp : p mark = false)
    {text : List Char} : mark ∈ Text.trimBy p text ↔ mark ∈ text := by
  rw [Text.trimBy, List.mem_reverse, mem_dropWhile_iff hp, List.mem_reverse, mem_dropWhile_iff hp]

/-- The text that is cut, without blanks around it and without tabs and line ends. -/
def cleaned (text : List Char) : List Char :=
  (Text.trimBy (fun c => c.toNat ≤ 0x20) text).filter
    fun c => !(c == '\t' || c == '\n' || c == '\r')

theorem mem_cleaned_iff {mark : Char} (hmark : mark = '?' ∨ mark = '#') (text : List Char) :
    mark ∈ cleaned text ↔ mark ∈ text := by
  rw [cleaned, List.mem_filter, mem_trimBy_iff]
  · exact and_iff_left (by rcases hmark with rfl | rfl <;> decide)
  · rcases hmark with rfl | rfl <;> decide

theorem ofText_fragment (text : List Char) :
    (Reference.ofText text).fragment = (cutAt '#' (cleaned text)).2 :=
  rfl

theorem ofText_query (text : List Char) :
    (Reference.ofText text).query = (cutAt '?' (cutAt '#' (cleaned text)).1).2 :=
  rfl

/-- A text has no ending if neither of the marks is in it. -/
theorem ofText_unmarked_iff {text : List Char} :
    (Reference.ofText text).query = none ∧ (Reference.ofText text).fragment = none ↔
      '?' ∉ text ∧ '#' ∉ text := by
  have hquestion := mem_cleaned_iff (Or.inl (Eq.refl '?')) text
  have hnumber := mem_cleaned_iff (Or.inr (Eq.refl '#')) text
  rw [ofText_query, ofText_fragment, cutAt_eq_none_iff, cutAt_eq_none_iff, ← hquestion, ← hnumber]
  apply and_congr_left
  intro hfragment
  rw [cutAt_of_not_mem hfragment]

/-- A URL has neither a query nor a fragment if its text has neither mark. -/
theorem parse_unmarked_iff {text : String} {url : Url} (h : parse text = .ok url) :
    url.query = none ∧ url.fragment = none ↔ '?' ∉ text.toList ∧ '#' ∉ text.toList := by
  obtain ⟨hquery, hfragment⟩ := ends_parse text url h
  rw [hquery, hfragment, Option.map_eq_none_iff, Option.map_eq_none_iff, ofText_unmarked_iff]

/-- Only the query can change. -/
theorem appendPairs_eq (url : Url) (pairs : List (String × String)) :
    ∃ query, url.appendPairs pairs = { url with query := query } := by
  rw [appendPairs]
  split
  · exact ⟨url.query, rfl⟩
  · exact ⟨_, rfl⟩

theorem appendPairs_without_query {url : Url} (h : url.query = none)
    (pairs : List (String × String)) : { url.appendPairs pairs with query := none } = url := by
  obtain ⟨query, hadded⟩ := url.appendPairs_eq pairs
  rw [hadded, ← h]

/-- The pairs that are added to a URL without a query are all that it says. -/
theorem queryPairs_appendPairs {url : Url} (h : url.query = none) (pairs : List (String × String)) :
    (url.appendPairs pairs).queryPairs = pairs := by
  rw [appendPairs]
  split
  case isTrue hnil =>
    rw [queryPairs, h, hnil]
    rfl
  case isFalse =>
    rw [queryPairs, h]
    exact Form.decode_encode pairs

theorem appendPairs_query_eq_none_iff {url : Url} (h : url.query = none)
    {pairs : List (String × String)} : (url.appendPairs pairs).query = none ↔ pairs = [] := by
  rw [appendPairs]
  split
  case isTrue hnil => exact iff_of_true h hnil
  case isFalse hsome => exact iff_of_false (Option.some_ne_none _) hsome

/-- The query says these pairs in their order, and there is none if there is
nothing to say. -/
structure Says (url : Url) (pairs : List (String × String)) : Prop where
  said : url.queryPairs = pairs
  silent : url.query = none ↔ pairs = []

theorem says_appendPairs {url : Url} (h : url.query = none) (pairs : List (String × String)) :
    (url.appendPairs pairs).Says pairs where
  said := queryPairs_appendPairs h pairs
  silent := appendPairs_query_eq_none_iff h

end BillingAccess.Url
