/-
Links that go astray.

Texts that are left aside for links are those that no link fits.  Behind a mark
all links have one path.  Behind a user without a host there is no URL, and
behind a single slash the link begins with the name of a host.  A gap that is
cut off belongs to the name of the host, or lets a host count that a drive
hides, once something is put behind it.
-/
import BillingAccess.Proofs.Url.Continuation

namespace BillingAccess.Url

variable {scheme link link' : String} {ref ref' : Reference} {text gap : List Char}
  {url other page page' : Url}

theorem path_eq_of_map {α : Type} {result : Except Fault α} {read read' : α → Url}
    (h : result.map read = .ok url) (h' : result.map read' = .ok other)
    (hpath : ∀ a, (read a).path = (read' a).path) : url.path = other.path := by
  cases result with
  | error fault => cases h
  | ok a =>
      obtain rfl := Except.ok.inj h
      obtain rfl := Except.ok.inj h'
      exact hpath a

theorem path_readAuthority (h : readAuthority scheme ref text = .ok url)
    (h' : readAuthority scheme ref' text = .ok other) : url.path = other.path := by
  rw [readAuthority_eq] at h h'
  dsimp only at h h'
  split at h
  case isTrue => cases h
  case isFalse =>
    split at h'
    case isTrue => cases h'
    case isFalse => exact path_eq_of_map h h' fun _ => rfl

theorem path_readFile (h : readFile none { ref with body := text } = .ok url)
    (h' : readFile none { ref' with body := text } = .ok other) : url.path = other.path := by
  cases hauthority : hasAuthority true text with
  | false =>
      rw [readFile_plain hauthority] at h h'
      obtain rfl := Except.ok.inj h
      obtain rfl := Except.ok.inj h'
      rfl
  | true =>
      obtain ⟨front, rest, hdrop, hfront, hrest⟩ := exists_unslashed true (text.drop 2)
      rw [readFile_of_hasAuthority hauthority, hdrop, readFileAuthority_append hfront hrest] at h h'
      split at h
      case isTrue hdrive =>
        rw [if_pos hdrive] at h'
        obtain rfl := Except.ok.inj h
        obtain rfl := Except.ok.inj h'
        rfl
      case isFalse hdrive =>
        rw [if_neg hdrive] at h'
        exact path_eq_of_map h h' fun _ => rfl

theorem path_readOther (h : readOther scheme ref text = .ok url)
    (h' : readOther scheme ref' text = .ok other) : url.path = other.path := by
  cases hauthority : hasAuthority false text with
  | true =>
      rw [readOther_of_hasAuthority hauthority] at h h'
      exact path_readAuthority h h'
  | false =>
      rw [readOther_plain hauthority] at h h'
      obtain rfl := Except.ok.inj h
      obtain rfl := Except.ok.inj h'
      unfold plainOther
      split <;> rfl

/-- The ending has no say in the path. -/
theorem path_readSchemed (h : readSchemed none scheme ref text = .ok url)
    (h' : readSchemed none scheme ref' text = .ok other) : url.path = other.path := by
  rw [readSchemed_none] at h h'
  split at h
  case isTrue hfile =>
    rw [if_pos hfile] at h'
    exact path_readFile h h'
  case isFalse hfile =>
    rw [if_neg hfile] at h'
    split at h
    case isTrue hspecial =>
      rw [if_pos hspecial] at h'
      exact path_readAuthority h h'
    case isFalse hspecial =>
      rw [if_neg hspecial] at h'
      exact path_readOther h h'

/-- A link behind a mark is a part of the ending. -/
theorem body_append_link (hmarks : ¬Unmarked text) (hlink : PagePath link) :
    (Reference.ofText (text ++ link.toList)).body = (Reference.ofText text).body := by
  obtain ⟨gap, hgap, hstart⟩ := exists_gap text
  have hcleaned : cleaned (text ++ link.toList) = cleaned text ++ (gap ++ link.toList) := by
    rw [cleaned_append_link hlink, hstart, List.append_assoc]
  refine (ofText_append_marked hcleaned ?_ hmarks).1
  rw [List.mem_append, not_or]
  exact ⟨fun hmem => absurd (hgap '#' hmem) (by decide), hlink.unmarked.2⟩

/-- Behind a mark all links have one path. -/
theorem path_parse_marked (hmarks : ¬Unmarked text) (hlink : PagePath link)
    (hlink' : PagePath link') (h : parse (String.ofList text ++ link) = .ok page)
    (h' : parse (String.ofList text ++ link') = .ok page') : page.path = page'.path := by
  rw [ofList_append_link, parse_ofList, body_append_link hmarks hlink] at h
  rw [ofList_append_link, parse_ofList, body_append_link hmarks hlink'] at h'
  cases hsplit : splitScheme? (Reference.ofText text).body with
  | none =>
      rw [hsplit] at h
      cases h
  | some split =>
      rw [hsplit] at h h'
      exact path_readSchemed h h'

/-- None of the two is the end of the other. -/
structure Unlike (link link' : String) : Prop where
  left : ¬link.toList <:+ link'.toList
  right : ¬link'.toList <:+ link.toList

theorem Unlike.not_endsIn (h : Unlike link link') {path : Path} (hends : path.EndsIn link) :
    ¬path.EndsIn link' := by
  rw [Path.endsIn_iff] at hends ⊢
  exact fun hends' => (List.suffix_or_suffix_of_suffix hends hends').elim h.left h.right

/-- Behind two slashes the link starts with the name of a host. -/
def NamesHost (link : String) : Prop :=
  ∀ ⦃scheme ref url⦄, Hostless scheme →
    readSchemed none scheme ref ('/' :: link.toList) = .ok url → url.hostText? ≠ none

theorem authorityOf?_slash (hscheme : Hostless scheme) {c : Char}
    (hc : isSlash (scheme == "file") c = true) (hlink : FromRoot link) :
    authorityOf? scheme (c :: link.toList) = some link.toList.tail := by
  have hauthority : hasAuthority (scheme == "file") (c :: link.toList) = true := by
    rw [hlink.slash, hasAuthority, hc]
    rfl
  have hother : ¬(scheme ≠ "file" ∧ isSpecial scheme = true) := by
    rintro ⟨hfile, hspecial⟩
    rw [hscheme.resolve_left hfile] at hspecial
    cases hspecial
  rw [authorityOf?, if_neg hother, if_pos hauthority, List.drop_succ_cons, List.drop_one]

theorem NamesHost.hostText?_ne_none (h : NamesHost link) (hscheme : Hostless scheme) {c : Char}
    (hc : isSlash (scheme == "file") c = true) (hlink : FromRoot link)
    (hread : readSchemed none scheme ref (c :: link.toList) = .ok url) : url.hostText? ≠ none := by
  apply h hscheme
  rw [readSchemed_authority (authorityOf?_slash hscheme rfl hlink),
    ← readSchemed_authority (authorityOf?_slash hscheme hc hlink)]
  exact hread

/-- A user without a name is no URL once a link stands behind it. -/
theorem readSchemed_at_ne_ok (hlink : FromRoot link) (ref : Reference) (url : Url) :
    readSchemed none scheme ref ("//@".toList ++ link.toList) ≠ .ok url := by
  have hauthority : authorityOf? scheme ("//@".toList ++ link.toList) =
      some (['@'] ++ link.toList) := by
    rw [authorityOf?]
    split
    · rfl
    · exact if_pos (by cases scheme == "file" <;> rfl)
  have hopens (special : Bool) : Opens special link.toList := by
    rw [hlink.slash]
    rintro c ⟨⟩
    rfl
  have hunslashed (special : Bool) : Unslashed special ['@'] := by
    intro c hc
    rw [List.mem_singleton.mp hc]
    cases special <;> rfl
  rw [readSchemed_authority hauthority]
  split
  · have hhost : (readFileHost ['@']).toOption = none := by decide +kernel
    rw [readFileAuthority_append (hunslashed true) (hopens true), if_neg (by decide)]
    intro hread
    cases hresult : readFileHost ['@'] with
    | error fault =>
        rw [hresult] at hread
        cases hread
    | ok host =>
        rw [hresult] at hhost
        cases hhost
  · have hcut : cutUser (isSpecial scheme) ['@'] = (some [], []) := by
      cases isSpecial scheme <;> rfl
    have hfollowed : Followed ref link.toList := .inl (hlink.slash ▸ List.cons_ne_nil _ _)
    rw [readAuthority_append_eq (hunslashed _) (hopens _), if_pos ⟨hcut, hfollowed⟩]
    intro hread
    cases hread

theorem gap_eq_nil_of_bare {special : Bool} (hgap : ∀ c ∈ gap, IsGap c)
    (h : Bare special (text ++ gap)) : gap = [] := by
  by_contra hnonempty
  obtain ⟨c, hc, hlast⟩ := getLast?_gap hgap hnonempty text
  rcases h with hnil | ⟨d, hd, hslash⟩
  · rw [hnil] at hlast
    cases hlast
  · rw [hd] at hlast
    obtain rfl : d = c := Option.some.inj hlast
    rw [isSlash_of_gap hc] at hslash
    cases hslash

/-- Where a link leads to the same peer, the text in front of it is finished. -/
theorem finished_of_page {text : String} (hunmarked : Unmarked text.toList)
    (h : parse text = .ok url) (hlink : PagePath link) (hnames : NamesHost link)
    (hpage : parse (String.ofList (trimmed text) ++ link) = .ok page)
    (horigin : SameOrigin page url) :
    ∀ split ∈ splitScheme? (cleanStart (trimmed text)), ¬Unfinished split.1 split.2 := by
  intro split hsplit hunfinished
  rw [((unmarked_trimmed_iff text).mpr hunmarked).parse_link hlink, hsplit] at hpage
  obtain ⟨gap, hgap, hstart⟩ := exists_gap (trimmed text)
  rw [splitScheme?_cleanStart hgap hstart] at hsplit
  obtain ⟨⟨scheme, rest⟩, hbare, rfl⟩ := Option.map_eq_some_iff.mp hsplit
  dsimp only at hpage hunfinished
  rcases hunfinished with hat | hslash
  · rw [hat] at hpage
    exact readSchemed_at_ne_ok hlink.toFromRoot _ _ hpage
  · obtain ⟨c, hone, hc⟩ : ∃ c, rest ++ gap = [c] ∧ isSlash (scheme == "file") c = true := by
      rcases hslash with hslash | ⟨rfl, hback⟩
      · exact ⟨'/', hslash, rfl⟩
      · exact ⟨'\\', hback, rfl⟩
    have hnil := gap_eq_nil_of_bare hgap (.inr ⟨c, hone, hc⟩)
    obtain ⟨scheme', rest', ref, n, whole, hbare', hwhole, hwholeOrigin⟩ :=
      exists_readSchemed_slashes hunmarked hgap hstart
        (fun _ => .inl ((kept_iff hstart).mpr hnil)) h
    obtain ⟨rfl, rfl⟩ := Prod.mk.inj (Option.some.inj (hbare.symm.trans hbare'))
    rw [hone] at hpage hwhole
    have hslashes : ∀ d ∈ [c] ++ List.replicate n '/', isSlash (scheme == "file") d = true := by
      intro d hd
      rcases List.mem_append.mp hd with hmem | hmem
      · rwa [List.mem_singleton.mp hmem]
      · rw [List.eq_of_mem_replicate hmem]
        rfl
    obtain ⟨hhostless, hnowhere⟩ := sameOrigin_of_slashes hslashes hwhole
    exact hnames.hostText?_ne_none hhostless hc hlink.toFromRoot hpage
      (horigin.trans (hwholeOrigin.symm.trans hnowhere)).host

theorem hostText?_of_host {host : Host} (h : url.host = some host) :
    url.hostText? = if host = .named "" then none else some host.text := by
  rw [hostText?, h]

/-- A gap is seen in the name of a host. -/
theorem hostText?_gap_ne {name : List Char} (hnonempty : gap ≠ [])
    (h : url.host = some (hostOf (name ++ gap))) (h' : other.host = some (hostOf name)) :
    url.hostText? ≠ other.hostText? := by
  have hnamed : hostOf (name ++ gap) ≠ .named "" := by
    intro hempty
    have hnil := Percent.encode_eq_nil_iff.mp
      (String.ofList_eq_empty_iff.mp (Host.named.inj hempty))
    exact hnonempty (List.append_eq_nil_iff.mp hnil).2
  rw [hostText?_of_host h, hostText?_of_host h', if_neg hnamed]
  split
  case isTrue => exact Option.some_ne_none _
  case isFalse =>
    intro hsame
    have htext : Percent.encode Percent.control name =
        Percent.encode Percent.control (name ++ gap) :=
      (String.ofList_inj.mp (Option.some.inj hsame)).symm
    rw [Percent.encode, Percent.encode, List.flatMap_append, List.self_eq_append_right] at htext
    exact hnonempty (Percent.encode_eq_nil_iff.mp htext)

/-- Where no path has begun, a gap makes another host. -/
theorem hostText?_ne_of_not_begun (hgap : ∀ c ∈ gap, IsGap c) (hnonempty : gap ≠ [])
    (hbegun : ¬PathBegun scheme text) (h : readSchemed none scheme ref (text ++ gap) = .ok url)
    (h' : readSchemed none scheme ref' text = .ok other) : url.hostText? ≠ other.hostText? := by
  obtain ⟨rest, -, hopen, hread, hbare⟩ := exists_authority_of_gap hgap hnonempty hbegun h
  have hname := gapInHost_of_readAuthority hgap hnonempty hopen hread
  rw [hbare, ← List.append_nil rest] at h'
  obtain ⟨host, hother, hhost⟩ :=
    host_of_readAuthority (unslashed_of_not_begun hopen) (Tail.none.opens _) h'
  rw [hname.last, readHost, if_neg (ne_true_of_eq_false hname.plain)] at hhost
  obtain rfl := Except.ok.inj (hname.bare.symm.trans hhost)
  exact hostText?_gap_ne hnonempty hname.host hother

/-- With a gap the host counts that was hidden. -/
theorem hostText?_ne_of_hidesHost (hgap : ∀ c ∈ gap, IsGap c) (hnonempty : gap ≠ [])
    (hhides : HidesHost scheme text) (h : readSchemed none scheme ref (text ++ gap) = .ok url)
    (h' : readSchemed none scheme ref' text = .ok other) : url.hostText? ≠ other.hostText? := by
  obtain ⟨hfile, rest, hrest, hdrive⟩ := hhides
  have hgapped : authorityOf? scheme (text ++ gap) = some (rest ++ gap) := by
    rw [authorityOf?_gap hgap, hrest]
    rfl
  rw [readSchemed_authority hgapped, if_pos hfile] at h
  rw [readSchemed_authority hrest, if_pos hfile] at h'
  obtain ⟨front, path, rfl, hfront, hpath⟩ := exists_unslashed true rest
  obtain ⟨hletter, hnamed, halone⟩ := (driveOnHost_append_iff hfront hpath).mp hdrive
  have hslash : path ≠ [] := by
    rintro rfl
    exact absurd halone (by decide)
  rw [List.append_assoc, readFileAuthority_append hfront (hpath.append_of_ne_nil hslash gap),
    if_neg (ne_true_of_eq_false hletter)] at h
  rw [readFileAuthority_append hfront hpath, if_neg (ne_true_of_eq_false hletter)] at h'
  cases hhost : readFileHost front with
  | error fault =>
      rw [hhost] at h
      cases h
  | ok host =>
      rw [hhost] at h h' hnamed
      obtain rfl := Except.ok.inj h
      obtain rfl := Except.ok.inj h'
      have hshown : (filePage ref host (path ++ gap)).host = some host := by
        rw [filePage, dropSlash_append true hslash,
          startsAtDrive_gap_of_alone hgap hnonempty halone]
        rfl
      have hhidden : (filePage ref' host path).host = some (.named "") := by
        rw [filePage, halone.2]
        rfl
      rw [hostText?_of_host hshown, hostText?_of_host hhidden,
        if_neg (fun hempty => hnamed (congrArg Except.ok hempty)), if_pos rfl]
      exact Option.some_ne_none _

/-- So a gap that makes no difference stands behind a path that has begun. -/
theorem begun_of_gap (hgap : ∀ c ∈ gap, IsGap c) (hnonempty : gap ≠ [])
    (h : readSchemed none scheme ref (text ++ gap) = .ok url)
    (h' : readSchemed none scheme ref' text = .ok other) (horigin : SameOrigin url other) :
    PathBegun scheme text ∧ ¬HidesHost scheme text := by
  constructor
  · by_contra hbegun
    exact hostText?_ne_of_not_begun hgap hnonempty hbegun h h' horigin.host
  · intro hhides
    exact hostText?_ne_of_hidesHost hgap hnonempty hhides h h' horigin.host

/-- What is read with a link behind a gap is read without the link. -/
theorem exists_readSchemed_unlinked (hgap : ∀ c ∈ gap, IsGap c) (hnonempty : gap ≠ [])
    (hlink : PagePath link)
    (h : readSchemed none scheme ref (text ++ gap ++ link.toList) = .ok page) :
    ∃ whole, readSchemed none scheme ref (text ++ gap) = .ok whole ∧ SameOrigin whole page := by
  obtain ⟨c, hc, hlast⟩ := getLast?_gap hgap hnonempty text
  have hsettled : ¬Bare (scheme == "file") (text ++ gap) := fun hbare =>
    hnonempty (gap_eq_nil_of_bare hgap hbare)
  have hmore : (text ++ gap).dropWhile isLeading ≠ [] := by
    intro hnil
    have hslash := List.dropWhile_eq_nil_iff.mp hnil c (List.mem_of_getLast? hlast)
    have hno : isLeading c = false := isSlash_of_gap hc true
    rw [hno] at hslash
    cases hslash
  have hnobody : text ++ gap ≠ "//@".toList := by
    intro hat
    rw [hat] at hlast
    obtain rfl := Option.some.inj hlast
    exact absurd hc (by decide)
  have hread : ContinuesTo [] (readSchemed none scheme ref (text ++ gap ++ [])) page :=
    continuesTo_readSchemed hlink.tail .none (.inr hmore) (.inr hsettled) (.inl rfl)
      (fun hat => absurd hat hnobody) h
  rw [List.append_nil] at hread
  obtain ⟨whole, hwhole, hcontinues⟩ := hread
  exact ⟨whole, hwhole, hcontinues.origin⟩

/-- Where a link leads to the same peer, the gap that it stands behind is no part
of the authority. -/
theorem gapApart_of_page {text : String} (hunmarked : Unmarked text.toList)
    (h : parse text = .ok url) (hlink : PagePath link)
    (hpage : parse (String.ofList (trimmed text) ++ link) = .ok page)
    (horigin : SameOrigin page url) (hslashless : trimmed text = text.toList) :
    GapApart (trimmed text) := by
  have hmarks := (unmarked_trimmed_iff text).mpr hunmarked
  obtain ⟨gap, hgap, hstart⟩ := exists_gap (trimmed text)
  by_cases hnil : gap = []
  · exact .inl ((kept_iff hstart).mpr hnil)
  rw [← String.ofList_toList (s := text), ← hslashless] at h
  obtain ⟨scheme, rest, hsplit, hread⟩ := hmarks.exists_split h
  rw [hmarks.parse_link hlink, splitScheme?_cleanStart hgap hstart, hsplit] at hpage
  obtain ⟨whole, hwhole, hwholeOrigin⟩ := exists_readSchemed_unlinked hgap hnil hlink hpage
  refine .inr (.inr fun split hsame => ?_)
  obtain rfl := Option.some.inj (hsplit.symm.trans hsame)
  exact begun_of_gap hgap hnil hwhole hread (hwholeOrigin.trans horigin)

/-- Where the slashes at the end of a text make no difference, neither does the
gap in front of them. -/
theorem gapApart_of_trimmed {text : String} (hslashed : trimmed text ≠ text.toList)
    (h : parse text = .ok url) (h' : parse (String.ofList (trimmed text)) = .ok other)
    (horigin : SameOrigin other url) : GapApart (trimmed text) := by
  obtain ⟨gap, hgap, hstart⟩ := exists_gap (trimmed text)
  by_cases hnil : gap = []
  · exact .inl ((kept_iff hstart).mpr hnil)
  by_cases hmarks : Unmarked (trimmed text)
  case neg => exact .inr (.inl hmarks)
  obtain ⟨scheme, rest, ref, n, hsplit, hread⟩ :=
    exists_split_slashed ((unmarked_trimmed_iff text).mp hmarks) hslashed hgap hstart h
  rw [hmarks.parse_of_split hsplit] at h'
  have hended := not_followed (cleaned (trimmed text))
  obtain ⟨whole, hwhole, hcontinues⟩ := continuesTo_of_slashes hended hread
  refine .inr (.inr fun split hsame => ?_)
  obtain rfl := Option.some.inj (hsplit.symm.trans hsame)
  exact begun_of_gap hgap hnil hwhole h' (hcontinues.origin.trans horigin.symm)

/-- A text is unmarked and sturdy if two links that are unlike lead to its peer. -/
theorem sturdy_of_pages {text : String} (h : parse text = .ok url) (hlink : PagePath link)
    (hlink' : PagePath link') (hunlike : Unlike link link') (hnames : NamesHost link)
    (hpage : parse (String.ofList (trimmed text) ++ link) = .ok page)
    (hpage' : parse (String.ofList (trimmed text) ++ link') = .ok page')
    (horigin : SameOrigin page url) (hends : page.path.EndsIn link)
    (hends' : page'.path.EndsIn link') : Unmarked text.toList ∧ Sturdy text := by
  have hunmarked : Unmarked text.toList := by
    by_contra hmarks
    rw [← unmarked_trimmed_iff] at hmarks
    rw [path_parse_marked hmarks hlink hlink' hpage hpage'] at hends
    exact hunlike.not_endsIn hends hends'
  exact ⟨hunmarked, finished_of_page hunmarked h hlink hnames hpage horigin,
    gapApart_of_page hunmarked h hlink hpage horigin⟩

end BillingAccess.Url
