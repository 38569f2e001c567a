/-
URLs whose texts go on.

A path can be put behind the text of most URLs: what is read then has the same
scheme, host and port, and its own path ends in what was put there.  The text
has to be without marks, for what stands behind a mark is no path; and it must
not be one whose end is read in another way once something follows it.
-/
import BillingAccess.Proofs.Url.Authority
import BillingAccess.Proofs.Url.Ending

namespace BillingAccess.Url

/-- The two lead to the same peer. -/
structure SameOrigin (url other : Url) : Prop where
  scheme : url.scheme = other.scheme
  host : url.hostText? = other.hostText?
  port : url.port = other.port

instance (url other : Url) : Decidable (SameOrigin url other) :=
  decidable_of_iff
    (url.scheme = other.scheme ∧ url.hostText? = other.hostText? ∧ url.port = other.port)
    ⟨fun ⟨scheme, host, port⟩ => ⟨scheme, host, port⟩,
      fun ⟨scheme, host, port⟩ => ⟨scheme, host, port⟩⟩

theorem SameOrigin.trans {url other third : Url} (h : SameOrigin url other)
    (h' : SameOrigin other third) : SameOrigin url third :=
  ⟨h.scheme.trans h'.scheme, h.host.trans h'.host, h.port.trans h'.port⟩

theorem SameOrigin.withPath (url : Url) (ref : Reference) (path : List String) :
    SameOrigin (url.withPath ref path) url :=
  ⟨rfl, rfl, rfl⟩

theorem SameOrigin.symm {url other : Url} (h : SameOrigin url other) : SameOrigin other url :=
  ⟨h.scheme.symm, h.host.symm, h.port.symm⟩

/-- Where a text is read to that goes on with `tail`: to the same peer, and if
the tail is a link, to a path that ends in it. -/
structure Continues (tail : List Char) (url other : Url) : Prop where
  origin : SameOrigin url other
  path : ∀ link, PagePath link → tail = link.toList → url.path.EndsIn link

theorem Continues.of_origin {url other : Url} (h : SameOrigin url other) :
    Continues [] url other := by
  refine ⟨h, fun link hlink hnil => ?_⟩
  have hslash := hlink.slash
  rw [← hnil] at hslash
  cases hslash

/-- The longer text can be read as well. -/
def ContinuesTo (tail : List Char) (result : Except Fault Url) (other : Url) : Prop :=
  ∃ url, result = .ok url ∧ Continues tail url other

variable {scheme : String} {ref ref' : Reference} {text tail tail' : List Char}
  {pieces pieces' : List (List Char)} {url : Url}

/-! ### Authorities -/

theorem continuesTo_readAuthority (htail : Tail tail pieces) (htail' : Tail tail' pieces')
    (hfollowed : text = ['@'] → Followed ref' tail' → Followed ref tail)
    (h : readAuthority scheme ref (text ++ tail) = .ok url) :
    ContinuesTo tail' (readAuthority scheme ref' (text ++ tail')) url := by
  obtain ⟨front, rest, rfl, hfront, hrest⟩ := exists_unslashed (isSpecial scheme) text
  have hfollowed' :
      front = ['@'] → Followed ref' (rest ++ tail') → Followed ref (rest ++ tail) := by
    intro hat hmore
    cases rest with
    | nil => exact hfollowed (by rw [hat]; rfl) hmore
    | cons c rest => exact .inl (List.cons_ne_nil _ _)
  rw [List.append_assoc] at h ⊢
  obtain ⟨left, hread⟩ := readAuthority_append hfront (hrest.append (htail.opens _))
    (hrest.append (htail'.opens _)) hfollowed' h
  refine ⟨_, hread, .withPath url ref' _, ?_⟩
  rintro link hlink rfl
  rw [← List.append_assoc]
  exact hlink.endsIn_rootedPath _ _

/-- Without a host there is no special URL. -/
theorem readFront_special (hscheme : isSpecial scheme = true) (user : Option (List Char)) :
    readFront scheme user [] = .error .emptyHost := by
  rw [readFront, hscheme]
  rfl

theorem readAuthority_special_ne_ok (hscheme : isSpecial scheme = true) {front : List Char}
    (hfront : Unslashed true front) (hnobody : (cutUser true front).2 = [])
    (htail : Opens true tail) (ref : Reference) (url : Url) :
    readAuthority scheme ref (front ++ tail) ≠ .ok url := by
  rw [← hscheme] at hfront htail hnobody
  rw [readAuthority_append_eq hfront htail, hnobody, readFront_special hscheme]
  split
  · exact nofun
  · exact nofun

theorem readAuthority_nil_ne_ok (hscheme : isSpecial scheme = true) (ref : Reference) (url : Url) :
    readAuthority scheme ref [] ≠ .ok url :=
  readAuthority_special_ne_ok hscheme (nofun : Unslashed true []) rfl (Tail.none.opens true) ref url

/-- Two slashes stand in front of an authority. -/
def hasAuthority (special : Bool) : List Char → Bool
  | a :: b :: _ => isSlash special a && isSlash special b
  | _ => false

theorem exists_of_hasAuthority {special : Bool} (h : hasAuthority special text = true) :
    ∃ a b after, text = a :: b :: after ∧ isSlash special a = true ∧ isSlash special b = true := by
  unfold hasAuthority at h
  split at h
  · rw [Bool.and_eq_true] at h
    exact ⟨_, _, _, rfl, h⟩
  · cases h

theorem length_of_hasAuthority {special : Bool} (h : hasAuthority special text = true) :
    2 ≤ text.length := by
  obtain ⟨a, b, after, rfl, -, -⟩ := exists_of_hasAuthority h
  exact Nat.le_add_left 2 _

theorem FromRoot.hasAuthority {link : String} (h : FromRoot link) (special : Bool) :
    Url.hasAuthority special link.toList = false := by
  obtain ⟨c, after, hlink, hc⟩ := h.exists_cons
  rw [hlink, Url.hasAuthority, Bool.and_eq_false_iff]
  refine .inr ?_
  rw [isSlash, Bool.true_and, Bool.or_eq_false_iff] at hc
  rw [isSlash, hc.1, hc.2, Bool.and_false]
  rfl

/-- Nothing or one slash: another that follows makes room for an authority. -/
def Bare (special : Bool) (text : List Char) : Prop :=
  text = [] ∨ ∃ c, text = [c] ∧ isSlash special c = true

theorem Bare.hasAuthority {special : Bool} (h : Bare special text) :
    hasAuthority special text = false := by
  rcases h with rfl | ⟨c, rfl, -⟩ <;> rfl

/-- The slashes in front are the same, whether the tail is there or not. -/
def Settled (special : Bool) (text tail : List Char) : Prop :=
  tail = [] ∨ ¬Bare special text

theorem Settled.hasAuthority_append {special : Bool} (h : Settled special text tail) :
    Url.hasAuthority special (text ++ tail) = Url.hasAuthority special text := by
  rcases h with rfl | hbare
  · rw [List.append_nil]
  · cases text with
    | nil => exact absurd (.inl rfl) hbare
    | cons a text =>
        cases text with
        | cons b after => rfl
        | nil =>
            have ha : isSlash special a = false :=
              Bool.eq_false_iff.mpr fun ha => hbare (.inr ⟨a, rfl, ha⟩)
            cases tail with
            | nil => rfl
            | cons b tail =>
                rw [List.singleton_append, Url.hasAuthority, ha]
                rfl

/-! ### Files -/

/-- The page of a file on a host; one on a drive has no host. -/
def filePage (ref : Reference) (host : Host) (text : List Char) : Url :=
  let path := walk true [] (cutSlashes true (dropSlash true text))
  { emptyFile with host := some (if startsAtDrive path then .named "" else host) }.withPath ref
    (settleFile path)

theorem readFileAuthority_append {front rest : List Char} (hfront : Unslashed true front)
    (hrest : Opens true rest) (ref : Reference) :
    readFileAuthority ref (front ++ rest) =
      if isDrive true front then .ok (filePage ref (.named "") (front ++ rest))
      else (readFileHost front).map (filePage ref · rest) := by
  have htake : (front ++ rest).takeWhile (!isSlash true ·) = front := by
    rw [takeWhile_append_of_head hrest.head_slash, takeWhile_unslashed hfront]
  have hdrop : (front ++ rest).dropWhile (!isSlash true ·) = rest := by
    rw [dropWhile_append_of_head hrest.head_slash, dropWhile_unslashed hfront, List.nil_append]
  unfold readFileAuthority
  rw [htake, hdrop]
  dsimp only
  split
  · generalize front ++ rest = text
    cases text <;> rfl
  · cases readFileHost front with
    | error fault => rfl
    | ok host => cases rest <;> rfl

/-- Without a host the drive makes no difference. -/
theorem sameOrigin_filePage {host : Host} {text' : List Char}
    (h : host = .named "" ∨ startsAtDrive (walk true [] (cutSlashes true (dropSlash true text))) =
      startsAtDrive (walk true [] (cutSlashes true (dropSlash true text')))) :
    SameOrigin (filePage ref host text) (filePage ref' host text') := by
  refine ⟨rfl, ?_, rfl⟩
  unfold filePage
  dsimp only
  rcases h with rfl | hdrive
  · rw [ite_self, ite_self]
    rfl
  · rw [hdrive]
    rfl

theorem continues_filePage (htail : Tail tail pieces) (htail' : Tail tail' pieces') (host : Host)
    (text : List Char) :
    Continues tail' (filePage ref' host (text ++ tail')) (filePage ref host (text ++ tail)) where
  origin := sameOrigin_filePage (.inr (startsAtDrive_dropSlash htail' htail text))
  path := by
    rintro link hlink rfl
    exact hlink.endsIn_filePath text

theorem continuesTo_readFileAuthority (htail : Tail tail pieces) (htail' : Tail tail' pieces')
    (h : readFileAuthority ref (text ++ tail) = .ok url) :
    ContinuesTo tail' (readFileAuthority ref' (text ++ tail')) url := by
  obtain ⟨front, rest, rfl, hfront, hrest⟩ := exists_unslashed true text
  rw [List.append_assoc, readFileAuthority_append hfront (hrest.append (htail.opens _))] at h
  rw [List.append_assoc, readFileAuthority_append hfront (hrest.append (htail'.opens _))]
  split at h
  case isTrue hdrive =>
    obtain rfl := Except.ok.inj h
    rw [if_pos hdrive, ← List.append_assoc, ← List.append_assoc]
    exact ⟨_, rfl, continues_filePage htail htail' _ _⟩
  case isFalse hdrive =>
    rw [if_neg hdrive]
    cases hhost : readFileHost front with
    | error fault =>
        rw [hhost] at h
        cases h
    | ok host =>
        rw [hhost] at h
        obtain rfl := Except.ok.inj h
        exact ⟨_, rfl, continues_filePage htail htail' _ _⟩

/-- A file without an authority. -/
def plainFile (ref : Reference) (text : List Char) : Url :=
  emptyFile.withPath ref (settleFile (walk true [] (cutSlashes true (dropSlash true text))))

theorem readFile_of_hasAuthority (h : hasAuthority true text = true) (ref : Reference) :
    readFile none { ref with body := text } = readFileAuthority ref (text.drop 2) := by
  obtain ⟨a, b, after, rfl, ha, hb⟩ := exists_of_hasAuthority h
  unfold readFile
  dsimp only
  rw [if_pos ha, if_pos hb]
  rfl

theorem readFile_plain (h : hasAuthority true text = false) (ref : Reference) :
    readFile none { ref with body := text } = .ok (plainFile ref text) := by
  cases text with
  | nil => rfl
  | cons a text =>
      unfold readFile
      dsimp only
      by_cases ha : isSlash true a = true
      · have hdrop : dropSlash true (a :: text) = text := if_pos ha
        rw [if_pos ha, plainFile, hdrop]
        cases text with
        | nil => rfl
        | cons b after =>
            rw [hasAuthority, ha, Bool.true_and] at h
            dsimp only
            rw [if_neg (by rw [h]; exact Bool.false_ne_true)]
            rfl
      · have hdrop : dropSlash true (a :: text) = a :: text := if_neg ha
        rw [if_neg ha, plainFile, hdrop]
        rfl

theorem continues_plainFile (text : List Char) :
    Continues tail' (plainFile ref' (text ++ tail')) (plainFile ref (text ++ tail)) where
  origin := ⟨rfl, rfl, rfl⟩
  path := by
    rintro link hlink rfl
    exact hlink.endsIn_filePath text

theorem continuesTo_readFile (htail : Tail tail pieces) (htail' : Tail tail' pieces')
    (hsettled : Settled true text tail) (hsettled' : Settled true text tail')
    (h : readFile none { ref with body := text ++ tail } = .ok url) :
    ContinuesTo tail' (readFile none { ref' with body := text ++ tail' }) url := by
  have hsame := hsettled.hasAuthority_append
  have hsame' := hsettled'.hasAuthority_append
  cases hauthority : hasAuthority true text with
  | true =>
      have hlength := length_of_hasAuthority hauthority
      rw [hauthority] at hsame hsame'
      rw [readFile_of_hasAuthority hsame, List.drop_append_of_le_length hlength] at h
      rw [readFile_of_hasAuthority hsame', List.drop_append_of_le_length hlength]
      exact continuesTo_readFileAuthority htail htail' h
  | false =>
      rw [hauthority] at hsame hsame'
      rw [readFile_plain hsame] at h
      obtain rfl := Except.ok.inj h
      exact ⟨_, readFile_plain hsame' ref', continues_plainFile text⟩

/-! ### Schemes -/

theorem readOther_of_hasAuthority (h : hasAuthority false text = true) :
    readOther scheme ref text = readAuthority scheme ref (text.drop 2) := by
  obtain ⟨a, b, after, rfl, ha, hb⟩ := exists_of_hasAuthority h
  obtain rfl : a = '/' := by simpa [isSlash] using ha
  obtain rfl : b = '/' := by simpa [isSlash] using hb
  rfl

/-- Without an authority there is a path from the root, or a path without parts. -/
def plainOther (scheme : String) (ref : Reference) : List Char → Url
  | '/' :: after =>
      Url.withPath { scheme := scheme } ref (walk false [] (cutSlashes false after))
  | text =>
      Url.withEnding { scheme := scheme, path := .whole (String.ofList
        (Percent.encode Percent.control text)) } ref

theorem plainOther_whole (h : text.head? ≠ some '/') :
    plainOther scheme ref text =
      Url.withEnding { scheme := scheme, path := .whole (String.ofList
        (Percent.encode Percent.control text)) } ref := by
  rw [plainOther]
  rintro after rfl
  exact h rfl

theorem sameOrigin_plainOther (scheme : String) (ref : Reference) (text : List Char) :
    SameOrigin (plainOther scheme ref text) { scheme := scheme } := by
  unfold plainOther
  split
  · exact ⟨rfl, rfl, rfl⟩
  · exact ⟨rfl, rfl, rfl⟩

theorem readOther_plain (h : hasAuthority false text = false) :
    readOther scheme ref text = .ok (plainOther scheme ref text) := by
  unfold readOther
  split
  case h_1 => cases h
  case h_2 => rfl
  case h_3 hnone =>
    rw [plainOther]
    exact hnone

theorem continues_plainOther (hsettled : Settled false text tail)
    (hsettled' : Settled false text tail') :
    Continues tail' (plainOther scheme ref' (text ++ tail'))
      (plainOther scheme ref (text ++ tail)) := by
  cases text with
  | nil =>
      obtain rfl : tail = [] := hsettled.resolve_right fun h => h (.inl rfl)
      obtain rfl : tail' = [] := hsettled'.resolve_right fun h => h (.inl rfl)
      exact .of_origin ⟨rfl, rfl, rfl⟩
  | cons c text =>
      by_cases hc : c = '/'
      · subst hc
        refine ⟨⟨rfl, rfl, rfl⟩, ?_⟩
        rintro link hlink rfl
        have hpath : (plainOther scheme ref' ('/' :: text ++ link.toList)).path =
            .parts (walk false [] (cutSlashes false (text ++ link.toList))) := rfl
        rw [hpath, hlink.walk_append]
        exact hlink.endsIn_append _
      · have hhead (tail : List Char) : (c :: text ++ tail).head? ≠ some '/' :=
          fun h => hc (Option.some.inj h)
        rw [plainOther_whole (hhead tail), plainOther_whole (hhead tail')]
        refine ⟨⟨rfl, rfl, rfl⟩, ?_⟩
        rintro link hlink rfl
        exact hlink.endsIn_whole (c :: text)

theorem continuesTo_readOther (htail : Tail tail pieces) (htail' : Tail tail' pieces')
    (hsettled : Settled false text tail) (hsettled' : Settled false text tail')
    (hfollowed : text = "//@".toList → Followed ref' tail' → Followed ref tail)
    (h : readOther scheme ref (text ++ tail) = .ok url) :
    ContinuesTo tail' (readOther scheme ref' (text ++ tail')) url := by
  have hsame := hsettled.hasAuthority_append
  have hsame' := hsettled'.hasAuthority_append
  cases hauthority : hasAuthority false text with
  | true =>
      have hlength := length_of_hasAuthority hauthority
      rw [hauthority] at hsame hsame'
      rw [readOther_of_hasAuthority hsame, List.drop_append_of_le_length hlength] at h
      rw [readOther_of_hasAuthority hsame', List.drop_append_of_le_length hlength]
      refine continuesTo_readAuthority htail htail' (fun hat => hfollowed ?_) h
      obtain ⟨a, b, after, rfl, ha, hb⟩ := exists_of_hasAuthority hauthority
      obtain rfl : a = '/' := by simpa [isSlash] using ha
      obtain rfl : b = '/' := by simpa [isSlash] using hb
      exact congrArg _ (congrArg _ hat)
  | false =>
      rw [hauthority] at hsame hsame'
      rw [readOther_plain hsame] at h
      obtain rfl := Except.ok.inj h
      exact ⟨_, readOther_plain hsame', continues_plainOther hsettled hsettled'⟩

/-- The slashes in front of an authority. -/
def isLeading (c : Char) : Bool :=
  c == '/' || c == '\\'

theorem continuesTo_special (hscheme : isSpecial scheme = true) (htail : Tail tail pieces)
    (htail' : Tail tail' pieces')
    (hslashes : (∀ c ∈ tail, c = '/') ∨ text.dropWhile isLeading ≠ [])
    (h : readAuthority scheme ref ((text ++ tail).dropWhile isLeading) = .ok url) :
    ContinuesTo tail' (readAuthority scheme ref' ((text ++ tail').dropWhile isLeading)) url := by
  by_cases hall : text.dropWhile isLeading = []
  · have honly := hslashes.resolve_right fun hmore => hmore hall
    have hnil : (text ++ tail).dropWhile isLeading = [] := by
      rw [List.dropWhile_eq_nil_iff] at hall ⊢
      intro c hc
      rcases List.mem_append.mp hc with htext | hmem
      · exact hall c htext
      · rw [honly c hmem]
        rfl
    rw [hnil] at h
    exact absurd h (readAuthority_nil_ne_ok hscheme ref url)
  · have hdrop (tail : List Char) :
        (text ++ tail).dropWhile isLeading = text.dropWhile isLeading ++ tail := by
      rw [List.dropWhile_append, if_neg (by rwa [List.isEmpty_iff])]
    rw [hdrop] at h ⊢
    refine continuesTo_readAuthority htail htail' (fun hat => ?_) h
    rw [hat] at h
    have hunslashed : Unslashed true ['@'] := by
      intro c hc
      rw [List.mem_singleton.mp hc]
      rfl
    exact absurd h
      (readAuthority_special_ne_ok hscheme hunslashed (by decide) (htail.opens true) ref url)

theorem drop_length_takeWhile (p : Char → Bool) (text : List Char) :
    text.drop (text.takeWhile p).length = text.dropWhile p := by
  induction text with
  | nil => rfl
  | cons c rest ih =>
      rw [List.takeWhile_cons, List.dropWhile_cons]
      split
      · exact ih
      · rfl

theorem readSchemed_none (scheme : String) (ref : Reference) (text : List Char) :
    readSchemed none scheme ref text =
      if scheme = "file" then readFile none { ref with body := text }
      else if isSpecial scheme then readAuthority scheme ref (text.dropWhile isLeading)
      else readOther scheme ref text := by
  rw [← drop_length_takeWhile]
  rfl

/-- What is read of a text is read again when the text goes on. -/
theorem continuesTo_readSchemed (htail : Tail tail pieces) (htail' : Tail tail' pieces')
    (hslashes : (∀ c ∈ tail, c = '/') ∨ text.dropWhile isLeading ≠ [])
    (hsettled : Settled (scheme == "file") text tail)
    (hsettled' : Settled (scheme == "file") text tail')
    (hfollowed : text = "//@".toList → Followed ref' tail' → Followed ref tail)
    (h : readSchemed none scheme ref (text ++ tail) = .ok url) :
    ContinuesTo tail' (readSchemed none scheme ref' (text ++ tail')) url := by
  rw [readSchemed_none] at h ⊢
  by_cases hfile : scheme = "file"
  · rw [if_pos hfile] at h ⊢
    rw [beq_iff_eq.mpr hfile] at hsettled hsettled'
    exact continuesTo_readFile htail htail' hsettled hsettled' h
  · rw [if_neg hfile] at h ⊢
    rw [beq_eq_false_iff_ne.mpr hfile] at hsettled hsettled'
    by_cases hspecial : isSpecial scheme = true
    · rw [if_pos hspecial] at h ⊢
      exact continuesTo_special hspecial htail htail' hslashes h
    · rw [if_neg hspecial] at h ⊢
      exact continuesTo_readOther htail htail' hsettled hsettled' hfollowed h

/-- The path has parts. -/
def HasParts (url : Url) : Prop :=
  ∃ path, url.path = .parts path

theorem hasParts_withPath (url : Url) (ref : Reference) (path : List String) :
    HasParts (url.withPath ref path) :=
  ⟨path, rfl⟩

/-- The scheme is the one that is given, and the host the one that is named. -/
theorem exists_of_readFront {user : Option (List Char)} {read : Url × List Char}
    (h : readFront scheme user text = .ok read) :
    read.1.scheme = scheme ∧ ∃ host, read.1.host = some host ∧
      readHost (isSpecial scheme) (cutHost (isSpecial scheme) false text).1 = .ok host := by
  unfold readFront at h
  dsimp only at h
  split at h
  · cases h
  · rename_i host hhost
    split at h
    · cases h
    · split at h
      · cases h
      · split at h
        · cases h
        · obtain rfl := Except.ok.inj h
          exact ⟨rfl, host, rfl, hhost⟩

/-- Where an authority is read a path is put behind it. -/
theorem exists_of_readAuthority (h : readAuthority scheme ref text = .ok url) :
    ∃ (front : Url) (path : List String),
      front.scheme = scheme ∧ url = front.withPath ref path := by
  rw [readAuthority_eq] at h
  dsimp only at h
  split at h
  · cases h
  · cases hread : readFront scheme (cutUser (isSpecial scheme) text).1
      (cutUser (isSpecial scheme) text).2 with
    | error fault =>
        rw [hread] at h
        cases h
    | ok read =>
        rw [hread] at h
        obtain rfl := Except.ok.inj h
        exact ⟨read.1, _, (exists_of_readFront hread).1, rfl⟩

theorem hasParts_readAuthority (h : readAuthority scheme ref text = .ok url) : HasParts url := by
  obtain ⟨front, path, -, rfl⟩ := exists_of_readAuthority h
  exact hasParts_withPath front ref path

theorem exists_of_readFile (h : readFile none { ref with body := text } = .ok url) :
    ∃ (front : Url) (path : List String),
      front.scheme = "file" ∧ url = front.withPath ref path := by
  cases hauthority : hasAuthority true text with
  | false =>
      rw [readFile_plain hauthority] at h
      obtain rfl := Except.ok.inj h
      exact ⟨_, _, rfl, rfl⟩
  | true =>
      obtain ⟨front, rest, hdrop, hfront, hrest⟩ := exists_unslashed true (text.drop 2)
      rw [readFile_of_hasAuthority hauthority, hdrop, readFileAuthority_append hfront hrest] at h
      split at h
      · obtain rfl := Except.ok.inj h
        exact ⟨_, _, rfl, rfl⟩
      · cases hhost : readFileHost front with
        | error fault =>
            rw [hhost] at h
            cases h
        | ok host =>
            rw [hhost] at h
            obtain rfl := Except.ok.inj h
            exact ⟨_, _, rfl, rfl⟩

theorem hasParts_readFile (h : readFile none { ref with body := text } = .ok url) :
    HasParts url := by
  obtain ⟨front, path, -, rfl⟩ := exists_of_readFile h
  exact hasParts_withPath front ref path

/-- A URL has the scheme of its text. -/
theorem scheme_of_readSchemed (h : readSchemed none scheme ref text = .ok url) :
    url.scheme = scheme := by
  rw [readSchemed_none] at h
  have hauthority {text : List Char} (h : readAuthority scheme ref text = .ok url) :
      url.scheme = scheme := by
    obtain ⟨front, path, hscheme, rfl⟩ := exists_of_readAuthority h
    exact hscheme
  split at h
  case isTrue hfile =>
    obtain ⟨front, path, hscheme, rfl⟩ := exists_of_readFile h
    exact hscheme.trans hfile.symm
  case isFalse =>
    split at h
    · exact hauthority h
    · cases hplain : hasAuthority false text with
      | true =>
          rw [readOther_of_hasAuthority hplain] at h
          exact hauthority h
      | false =>
          rw [readOther_plain hplain] at h
          obtain rfl := Except.ok.inj h
          exact (sameOrigin_plainOther scheme ref text).scheme

/-- Only where neither a host nor slashes are needed has a path no parts. -/
theorem hasParts_readSchemed (h : readSchemed none scheme ref text = .ok url) :
    HasParts url ∨ url.host = none ∧ isSpecial url.scheme = false := by
  rw [readSchemed_none] at h
  split at h
  · exact .inl (hasParts_readFile h)
  · split at h
    case isTrue => exact .inl (hasParts_readAuthority h)
    case isFalse hspecial =>
      rw [Bool.not_eq_true] at hspecial
      cases hauthority : hasAuthority false text with
      | true =>
          rw [readOther_of_hasAuthority hauthority] at h
          exact .inl (hasParts_readAuthority h)
      | false =>
          rw [readOther_plain hauthority] at h
          obtain rfl := Except.ok.inj h
          unfold plainOther
          split
          · exact .inl (hasParts_withPath _ _ _)
          · exact .inr ⟨rfl, hspecial⟩

theorem hasParts_parse {text : String} (h : parse text = .ok url) :
    HasParts url ∨ url.host = none ∧ isSpecial url.scheme = false := by
  rw [parse, readFrom] at h
  split at h
  · exact hasParts_readSchemed h
  · cases h

/-- A URL without a host can do without an authority. -/
def Hostless (scheme : String) : Prop :=
  scheme = "file" ∨ isSpecial scheme = false

theorem continuesTo_plain (hscheme : Hostless scheme)
    (h : hasAuthority (scheme == "file") text = false) (ref : Reference) :
    ContinuesTo text (readSchemed none scheme ref text) { scheme := scheme } := by
  rw [readSchemed_none]
  by_cases hfile : scheme = "file"
  · rw [beq_iff_eq.mpr hfile] at h
    rw [if_pos hfile, readFile_plain h, hfile]
    refine ⟨_, rfl, ⟨rfl, rfl, rfl⟩, ?_⟩
    rintro link hlink rfl
    exact hlink.endsIn_filePath []
  · rw [beq_eq_false_iff_ne.mpr hfile] at h
    have hspecial := hscheme.resolve_left hfile
    rw [if_neg hfile, if_neg (by rw [hspecial]; exact Bool.false_ne_true), readOther_plain h]
    refine ⟨_, rfl, sameOrigin_plainOther scheme ref text, ?_⟩
    rintro link hlink rfl
    have hpath : (plainOther scheme ref link.toList).path =
        .parts (walk false [] (cutSlashes false link.toList.tail)) := by
      rw [hlink.slash]
      rfl
    rw [hpath, hlink.walk_eq]
    exact hlink.endsIn_append []

theorem opens_drop {special : Bool} (h : ∀ c ∈ text, isSlash special c = true) (n : Nat) :
    Opens special (text.drop n) :=
  fun c hc => h c (List.mem_of_mem_drop (List.mem_of_mem_head? hc))

theorem sameOrigin_fileSlashes (hslashes : ∀ c ∈ text, isSlash true c = true)
    (h : readFile none { ref with body := text } = .ok url) :
    SameOrigin url { scheme := "file" } := by
  cases hauthority : hasAuthority true text with
  | false =>
      rw [readFile_plain hauthority] at h
      obtain rfl := Except.ok.inj h
      exact ⟨rfl, rfl, rfl⟩
  | true =>
      have hread := readFileAuthority_append (nofun : Unslashed true [])
        (opens_drop hslashes 2) ref
      rw [readFile_of_hasAuthority hauthority, ← List.nil_append (text.drop 2), hread] at h
      obtain rfl := Except.ok.inj h
      refine ⟨rfl, ?_, rfl⟩
      change (filePage ref (.named "") (text.drop 2)).hostText? = none
      rw [filePage, ite_self]
      rfl

theorem sameOrigin_otherSlashes (hspecial : isSpecial scheme = false)
    (hslashes : ∀ c ∈ text, isSlash false c = true) (h : readOther scheme ref text = .ok url) :
    SameOrigin url { scheme := scheme } := by
  cases hauthority : hasAuthority false text with
  | false =>
      rw [readOther_plain hauthority] at h
      obtain rfl := Except.ok.inj h
      exact sameOrigin_plainOther scheme ref text
  | true =>
      have hopens : Opens (isSpecial scheme) (text.drop 2) := hspecial ▸ opens_drop hslashes 2
      have hread : readAuthority scheme ref ([] ++ text.drop 2) = _ :=
        readAuthority_append_eq nofun hopens
      have hcut : cutUser (isSpecial scheme) [] = (none, []) := rfl
      have hfront : readFront scheme none [] =
          .ok ({ scheme := scheme, host := some (.named "") }, []) := by
        rw [readFront, hspecial]
        rfl
      rw [readOther_of_hasAuthority hauthority, ← List.nil_append (text.drop 2), hread, hcut,
        if_neg (fun h => nomatch h.1), hfront] at h
      obtain rfl := Except.ok.inj h
      exact ⟨rfl, rfl, rfl⟩

/-- A scheme with nothing but slashes behind it leads nowhere in particular. -/
theorem sameOrigin_of_slashes (hslashes : ∀ c ∈ text, isSlash (scheme == "file") c = true)
    (h : readSchemed none scheme ref text = .ok url) :
    Hostless scheme ∧ SameOrigin url { scheme := scheme } := by
  rw [readSchemed_none] at h
  by_cases hfile : scheme = "file"
  · subst hfile
    rw [if_pos rfl] at h
    exact ⟨.inl rfl, sameOrigin_fileSlashes hslashes h⟩
  · rw [beq_eq_false_iff_ne.mpr hfile] at hslashes
    rw [if_neg hfile] at h
    cases hspecial : isSpecial scheme with
    | false =>
        rw [hspecial, if_neg Bool.false_ne_true] at h
        exact ⟨.inr hspecial, sameOrigin_otherSlashes hspecial hslashes h⟩
    | true =>
        have hnil : text.dropWhile isLeading = [] := by
          refine List.dropWhile_eq_nil_iff.mpr fun c hc => ?_
          rcases isSlash_cases (hslashes c hc) with rfl | rfl <;> rfl
        rw [hspecial, if_pos rfl, hnil] at h
        exact absurd h (readAuthority_nil_ne_ok hspecial ref url)

/-! ### Slashes and links at the end -/

theorem continuesTo_of_slashes {n : Nat}
    (hended : ¬Followed ref' [])
    (h : readSchemed none scheme ref (text ++ List.replicate n '/') = .ok url) :
    ContinuesTo [] (readSchemed none scheme ref' text) url := by
  by_cases hbare : Bare (scheme == "file") text
  · have hslashes : ∀ c ∈ text ++ List.replicate n '/', isSlash (scheme == "file") c = true := by
      intro c hc
      rcases List.mem_append.mp hc with htext | hslash
      · rcases hbare with rfl | ⟨d, rfl, hd⟩
        · cases htext
        · rwa [List.mem_singleton.mp htext]
      · rw [List.eq_of_mem_replicate hslash]
        rfl
    obtain ⟨hhostless, horigin⟩ := sameOrigin_of_slashes hslashes h
    obtain ⟨other, hother, hplain, -⟩ := continuesTo_plain hhostless hbare.hasAuthority ref'
    exact ⟨other, hother, .of_origin (hplain.trans horigin.symm)⟩
  · have hread := continuesTo_readSchemed (.replicate n) .none
      (.inl fun c hc => List.eq_of_mem_replicate hc) (.inr hbare) (.inr hbare)
      (fun _ hended' => absurd hended' hended) h
    rwa [List.append_nil] at hread

/-- What is read in another way once a link stands behind it: a user without
the name of a host, or a single slash. -/
def Unfinished (scheme : String) (text : List Char) : Prop :=
  text = "//@".toList ∨ text = ['/'] ∨ scheme = "file" ∧ text = ['\\']

instance (scheme : String) (text : List Char) : Decidable (Unfinished scheme text) :=
  inferInstanceAs (Decidable (_ ∨ _ ∨ _))

theorem Bare.unfinished (h : Bare (scheme == "file") text) (hnonempty : text ≠ []) :
    Unfinished scheme text := by
  rcases h with hempty | ⟨c, rfl, hc⟩
  · exact absurd hempty hnonempty
  rw [isSlash, Bool.or_eq_true, Bool.and_eq_true, beq_iff_eq, beq_iff_eq, beq_iff_eq] at hc
  rcases hc with rfl | ⟨hfile, rfl⟩
  · exact .inr (.inl rfl)
  · exact .inr (.inr ⟨hfile, rfl⟩)

theorem continuesTo_link {n : Nat} (hfinished : ¬Unfinished scheme text)
    (h : readSchemed none scheme ref (text ++ List.replicate n '/') = .ok url) {link : String}
    (hlink : PagePath link) :
    ContinuesTo link.toList (readSchemed none scheme ref' (text ++ link.toList)) url := by
  by_cases hnil : text = []
  · subst hnil
    have hslashes : ∀ c ∈ [] ++ List.replicate n '/', isSlash (scheme == "file") c = true := by
      intro c hc
      rw [List.eq_of_mem_replicate hc]
      rfl
    obtain ⟨hhostless, horigin⟩ := sameOrigin_of_slashes hslashes h
    obtain ⟨page, hpage, hplain, hpath⟩ :=
      continuesTo_plain hhostless (hlink.hasAuthority _) ref'
    exact ⟨page, hpage, hplain.trans horigin.symm, hpath⟩
  · have hsettled : ¬Bare (scheme == "file") text := fun hbare =>
      hfinished (hbare.unfinished hnil)
    exact continuesTo_readSchemed (.replicate n) hlink.tail
      (.inl fun c hc => List.eq_of_mem_replicate hc) (.inr hsettled) (.inr hsettled)
      (fun hat => absurd (.inl hat) hfinished) h

/-- The ending has no say in where a text leads. -/
theorem continuesTo_ending (hfollowed : Followed ref' [] ↔ Followed ref [])
    (h : readSchemed none scheme ref text = .ok url) :
    ContinuesTo [] (readSchemed none scheme ref' text) url := by
  rw [← List.append_nil text] at h ⊢
  exact continuesTo_readSchemed .none .none (.inl nofun) (.inl rfl) (.inl rfl)
    (fun _ => hfollowed.mp) h

end BillingAccess.Url
