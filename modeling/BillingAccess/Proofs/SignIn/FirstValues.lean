/-
Which values of a redirect count.

Of the pairs that are written into the query and the fragment of a URL, the
first value of a name that is not empty counts, whatever the pairs hold.  An
empty value hides nothing that comes after it, a later one replaces nothing,
and the lifetime of a token is looked for where the token is.
-/
import BillingAccess.Proofs.SignIn.Gate
import BillingAccess.Proofs.Url.Written

namespace BillingAccess.SignIn

open BillingAccess.Url

theorem firstValue?_append (name : String) (pairs more : List (String × String)) :
    firstValue? name (pairs ++ more) = (firstValue? name pairs).or (firstValue? name more) := by
  rw [firstValue?, firstValue?, firstValue?, List.find?_append, Option.map_or]

theorem firstValue?_cons_empty (name other : String) (pairs : List (String × String)) :
    firstValue? name ((other, "") :: pairs) = firstValue? name pairs := by
  rw [firstValue?, firstValue?, List.find?_cons_of_neg]
  simp

theorem Counts.unique {name : String} {pairs : List (String × String)} {value other : Option String}
    (h : Counts name pairs value) (hother : Counts name pairs other) : value = other := by
  rw [counts_iff] at h hother
  rw [h, hother]

/-- An empty value changes nothing for any name. -/
theorem ofPairs_insert_empty (name : String) (front back fragment : List (String × String)) :
    Callback.ofPairs (front ++ (name, "") :: back) fragment =
      Callback.ofPairs (front ++ back) fragment := by
  simp only [Callback.ofPairs, firstValue?_append, firstValue?_cons_empty]

theorem ofUrl_of_bears {url : Url} {query fragment : List (String × String)}
    (h : url.Bears query fragment) : Callback.ofUrl url = Callback.ofPairs query fragment := by
  rw [Callback.ofUrl, h.query, h.fragment, Form.decode_encode, Form.decode_encode]

/-- A callback brings the first values of a query, and of a fragment what the
query leaves open.  The lifetime comes from where the token comes from, and
stands beside it unless none does. -/
structure BringsFirst (query fragment : List (String × String)) (callback : Callback) : Prop
    extends Brings query fragment callback where
  tokenOfQuery : ∀ token, Counts "access_token" query (some token) →
    callback.accessToken = some token ∧ Counts "expires_in" query callback.expiresIn
  tokenOfFragment : ∀ token, Counts "access_token" query none →
    Counts "access_token" fragment (some token) → callback.accessToken = some token ∧
      ∀ lifetime, Counts "expires_in" fragment (some lifetime) →
        callback.expiresIn = some lifetime

theorem bringsFirst_ofPairs (query fragment : List (String × String)) :
    BringsFirst query fragment (Callback.ofPairs query fragment) where
  toBrings := brings_ofPairs query fragment
  tokenOfQuery token htoken := by
    have hsome : ¬Counts "access_token" query none := fun hnone => nomatch htoken.unique hnone
    rw [counts_iff] at htoken
    refine ⟨?_, (brings_ofPairs query fragment).lifetimeInQuery hsome⟩
    rw [Callback.ofPairs, ← htoken, Option.some_or]
  tokenOfFragment token hnone htoken := by
    have hquery := (counts_iff _ _ _).mp hnone
    rw [counts_iff] at htoken
    refine ⟨by rw [Callback.ofPairs, ← hquery, ← htoken, Option.none_or], fun lifetime h => ?_⟩
    rw [counts_iff] at h
    have hbeside := (brings_ofPairs query fragment).lifetimeInFragment hnone
    rw [countsInEither_iff, ← h, Option.some_or] at hbeside
    exact hbeside

/-- Nobody changes what a redirect brings by writing more behind its query, by
writing another fragment, or by writing empty values anywhere. -/
structure Unpolluted (query fragment : List (String × String)) (callback : Callback) : Prop where
  behind : ∀ (later others : List (String × String)) (other : Url),
    other.Bears (query ++ later) others →
    ∀ read ∈ [Callback.code, Callback.state, Callback.error, Callback.errorDescription],
      (read callback).isSome → read (Callback.ofUrl other) = read callback
  within : ∀ (front back : List (String × String)) (name : String) (other : Url),
    query = front ++ back → other.Bears (front ++ (name, "") :: back) fragment →
    Callback.ofUrl other = callback

theorem unpolluted_ofPairs (query fragment : List (String × String)) :
    Unpolluted query fragment (Callback.ofPairs query fragment) where
  behind later others other hbears read hread hsome := by
    have hfirst (name : String) (h : (firstValue? name query).isSome) :
        firstValue? name (query ++ later) = firstValue? name query := by
      rw [firstValue?_append, Option.or_of_isSome h]
    rw [ofUrl_of_bears hbears]
    simp only [List.mem_cons, List.not_mem_nil, or_false] at hread
    rcases hread with rfl | rfl | rfl | rfl <;> exact hfirst _ hsome
  within front back name other hquery hbears := by
    rw [ofUrl_of_bears hbears, ofPairs_insert_empty, hquery]

/-- Whatever pairs are written into the query and the fragment of a URL, it
brings their first values, and no others can be slipped in.  The pairs are so
written in the URL of every address that they stand behind. -/
theorem first_values_count (query fragment : List (String × String)) :
    (∀ url : Url, url.Bears query fragment →
      BringsFirst query fragment (Callback.ofUrl url) ∧
        Unpolluted query fragment (Callback.ofUrl url)) ∧
    ∀ address queryText fragmentText : List Char, Unmarked address →
      Behind '?' query queryText → Behind '#' fragment fragmentText →
      ∀ url, Url.parse (String.ofList (address ++ queryText ++ fragmentText)) = .ok url →
        url.Bears query fragment := by
  refine ⟨fun url hbears => ?_, fun _ _ _ haddress hquery hfragment _ => ?_⟩
  · rw [ofUrl_of_bears hbears]
    exact ⟨bringsFirst_ofPairs query fragment, unpolluted_ofPairs query fragment⟩
  · exact bears_parse haddress hquery hfragment

/-- A state that holds a pair of its own, an empty code before the first one,
and a token in the fragment beside its lifetime. -/
theorem marked_redirect_brings :
    let query := [("code", ""), ("state", "s&code=x#y"), ("code", "c 1"), ("code", "c2"),
      ("expires_in", "1")]
    let fragment := [("state", "t"), ("access_token", "a+b"), ("expires_in", "60")]
    let address := "http://127.0.0.1:8765/callback".toList
    let queryText := '?' :: (Form.encode query).toList
    let fragmentText := '#' :: (Form.encode fragment).toList
    ∃ url, Url.parse (String.ofList (address ++ queryText ++ fragmentText)) = .ok url ∧
      url.Bears query fragment ∧
      Callback.ofUrl url =
        ⟨some "c 1", some "s&code=x#y", none, none, some "a+b", some "60"⟩ ∧
      Counts "code" query (some "c 1") := by
  intro query fragment address queryText fragmentText
  have hsome : (Url.parse (String.ofList (address ++ queryText ++ fragmentText))).isOk = true := by
    decide +kernel
  cases hparse : Url.parse (String.ofList (address ++ queryText ++ fragmentText)) with
  | error fault =>
      rw [hparse] at hsome
      cases hsome
  | ok url =>
      obtain ⟨hbrings, hwritten⟩ := first_values_count query fragment
      have hbears := hwritten address queryText fragmentText ⟨by decide, by decide⟩
        (.pairs query) (.pairs fragment) url hparse
      have hcode : (Callback.ofUrl url).code = some "c 1" := by
        rw [ofUrl_of_bears hbears]
        decide
      refine ⟨url, rfl, hbears, ?_, hcode ▸ (hbrings url hbears).1.code⟩
      rw [ofUrl_of_bears hbears]
      decide

end BillingAccess.SignIn
