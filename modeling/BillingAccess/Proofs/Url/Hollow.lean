/-
Gaps where the name of a host is read.

Such a gap belongs to the authority: no port has one and no name of a well-known
scheme.  Other names may end in a gap, and without it they are names as well.
Only if the gap is all there is of the name, a user is left without a host.
-/
import BillingAccess.Proofs.Url.Gap

namespace BillingAccess.Url

variable {scheme : String} {ref ref' : Reference} {special : Bool}
  {text front rest path gap : List Char} {url : Url}

theorem cutHost_of_gap (hgap : ∀ c ∈ gap, IsGap c) (inside : Bool) :
    cutHost special inside gap = (gap, []) := by
  induction gap generalizing inside with
  | nil => rfl
  | cons c gap ih =>
      obtain ⟨hc, hrest⟩ := List.forall_mem_cons.mp hgap
      have hgoes : ¬(isSlash special c || c == ':' && !inside) = true := by
        rw [isSlash_of_gap hc, beq_eq_false_iff_ne.mpr (hc.ne_of_visible (by decide))]
        exact Bool.false_ne_true
      rw [cutHost, if_neg hgoes, ih hrest]

/-- A gap is a part of the name that it stands behind. -/
theorem cutHost_gap (hgap : ∀ c ∈ gap, IsGap c) {inside : Bool}
    (h : (cutHost special inside text).2 = []) :
    cutHost special inside (text ++ gap) = (text ++ gap, []) := by
  induction text generalizing inside with
  | nil => exact cutHost_of_gap hgap inside
  | cons c text ih =>
      rw [cutHost] at h
      rw [List.cons_append, cutHost]
      split
      case isTrue hends =>
        rw [if_pos hends] at h
        cases h
      case isFalse hgoes =>
        rw [if_neg hgoes] at h
        rw [ih h]

/-- No port has a gap behind it. -/
theorem readPort_gap_ne_ok (hgap : ∀ c ∈ gap, IsGap c) (hnonempty : gap ≠ [])
    (hopen : ¬Slashed text) (read : Option Nat × List Char) :
    readPort scheme (text ++ gap) ≠ .ok read := by
  obtain ⟨d, gap, rfl⟩ := List.exists_cons_of_ne_nil hnonempty
  have hd : IsGap d := hgap d List.mem_cons_self
  have hstop : ∀ c ∈ (d :: gap).head?, c.isDigit = false := by
    rintro c ⟨⟩
    simpa using hd.all (p := fun c => !c.isDigit) (by decide)
  have hbad {c : Char} (hc : c ∈ text ∨ IsGap c) : c ≠ '/' ∧ c ≠ '\\' := by
    rcases hc with hmem | hblank
    · exact ⟨fun hsame => hopen (.inl (hsame ▸ hmem)), fun hsame => hopen (.inr (hsame ▸ hmem))⟩
    · exact ⟨hblank.ne_of_visible (by decide), hblank.ne_of_visible (by decide)⟩
  rw [readPort, dropWhile_append_of_head hstop]
  split
  · intro hread
    cases hread
  · cases hrest : text.dropWhile Char.isDigit with
    | nil =>
        rw [List.nil_append]
        dsimp only
        rw [if_pos (hbad (.inr hd))]
        intro hread
        cases hread
    | cons c rest =>
        have hmem : c ∈ text := (List.dropWhile_suffix _).mem (hrest ▸ List.mem_cons_self)
        rw [List.cons_append]
        dsimp only
        rw [if_pos (hbad (.inl hmem))]
        intro hread
        cases hread

/-- Behind a port there is no gap. -/
theorem cutHost_of_readFront_gap {user : Option (List Char)} {read : Url × List Char}
    (hgap : ∀ c ∈ gap, IsGap c) (hnonempty : gap ≠ [])
    (hfront : Unslashed (isSpecial scheme) front)
    (hopen : ¬Slashed (cutHost (isSpecial scheme) false front).2)
    (h : readFront scheme user (front ++ gap) = .ok read) :
    (cutHost (isSpecial scheme) false front).2 = [] := by
  rcases cutHost_rest hfront false with hnil | ⟨port, hcolon⟩
  · exact hnil
  · rw [hcolon] at hopen
    have hplain : ¬Slashed port := fun hslash =>
      hopen (hslash.imp (List.mem_cons_of_mem ':') (List.mem_cons_of_mem ':'))
    have hcut := cutHost_append_of_ne_nil (hcolon ▸ List.cons_ne_nil ':' port) gap
    unfold readFront at h
    rw [hcut, hcolon] at h
    dsimp only at h
    split at h
    · cases h
    · split at h
      · cases h
      · rw [List.cons_append, portBehind] at h
        cases hread : readPort scheme (port ++ gap) with
        | error fault =>
            rw [hread] at h
            cases h
        | ok read => exact absurd hread (readPort_gap_ne_ok hgap hnonempty hplain read)

theorem bracketed?_eq_none_iff (text : List Char) :
    bracketed? text = none ↔ text.head? ≠ some '[' := by
  unfold bracketed?
  split
  case h_1 rest =>
    refine iff_of_false (fun h => ?_) (fun hhead => hhead rfl)
    split at h
    · cases h
    · cases h
  case h_2 hother =>
    refine iff_of_true rfl fun hhead => ?_
    obtain ⟨rest, hrest⟩ := List.head?_eq_some_iff.mp hhead
    exact hother rest hrest

/-- The host whose name this is, where the scheme is none of the well-known ones. -/
def hostOf (text : List Char) : Host :=
  .named (String.ofList (Percent.encode Percent.control text))

/-- Where a gap belongs to the name of a host there is one without the gap. -/
theorem readPlain_of_gap (hgap : ∀ c ∈ gap, IsGap c) (hnonempty : gap ≠ []) {host : Host}
    (h : Host.readPlain (text ++ gap) = .ok host) :
    host = hostOf (text ++ gap) ∧ Host.readPlain text = .ok (hostOf text) := by
  obtain ⟨c, hc, hlast⟩ := getLast?_gap hgap hnonempty text
  rw [Host.readPlain] at h
  rcases bracketed?_of_gap hc hlast with hbare | hopen
  · have hstart : bracketed? text = none := by
      rw [bracketed?_eq_none_iff] at hbare ⊢
      intro hhead
      exact hbare (by rw [List.head?_append, hhead]; rfl)
    rw [hbare] at h
    dsimp only at h
    split at h
    · cases h
    · rename_i hsound
      rw [List.any_append, Bool.or_eq_true, not_or] at hsound
      rw [Host.readPlain, hstart]
      exact ⟨(Except.ok.inj h).symm, if_neg hsound.1⟩
  · rw [hopen] at h
    cases h

/-- A user that is more than nothing or a colon. -/
def NamesUser (user : Option (List Char)) : Prop :=
  ∃ name ∈ user, name ≠ [] ∧ name ≠ [':']

instance (user : Option (List Char)) : Decidable (NamesUser user) :=
  inferInstanceAs (Decidable (∃ name ∈ user, _))

/-- Such a user has a name or a password. -/
theorem namesUser_iff (user : Option (List Char)) :
    (String.ofList (Percent.encode Percent.inUserinfo (cutAt ':' (user.getD [])).1) ≠ "" ∨
        (cutAt ':' (user.getD [])).2.any (· ≠ []) = true) ↔ NamesUser user := by
  rw [ne_eq, String.ofList_eq_empty_iff, Percent.encode_eq_nil_iff]
  cases user with
  | none => decide
  | some text =>
      cases text with
      | nil => decide
      | cons c rest =>
          by_cases hc : c = ':'
          · subst hc
            have hcut : cutAt ':' (':' :: rest) = ([], some rest) := rfl
            simp [hcut, NamesUser]
          · have hcut : (cutAt ':' (c :: rest)).1 ≠ [] := by
              rw [cutAt]
              split
              · exact List.cons_ne_nil _ _
              · rw [List.takeWhile_cons_of_pos (p := (· != ':')) (bne_iff_ne.mpr hc)]
                exact List.cons_ne_nil _ _
            simp [hcut, NamesUser, hc]

/-- A user is named and no host, but for the gap. -/
def Hollow (scheme : String) (text : List Char) : Prop :=
  ∃ rest ∈ authorityOf? scheme text,
    (cutUser (isSpecial scheme) rest).2 = [] ∧ NamesUser (cutUser (isSpecial scheme) rest).1

instance (scheme : String) (text : List Char) : Decidable (Hollow scheme text) :=
  inferInstanceAs (Decidable (∃ rest ∈ authorityOf? scheme text, _))

/-- A name by itself is all that is read, unless it is empty and a user is not. -/
theorem readFront_name {user : Option (List Char)} {host : Host}
    (hcut : cutHost (isSpecial scheme) false front = (front, []))
    (hhost : readHost (isSpecial scheme) front = .ok host) :
    (host = .named "" ∧ NamesUser user ∧ readFront scheme user front = .error .emptyHost) ∨
      ¬(host = .named "" ∧ NamesUser user) ∧ ∃ read, readFront scheme user front = .ok read := by
  rw [← namesUser_iff]
  unfold readFront
  rw [hcut]
  dsimp only
  rw [hhost]
  dsimp only
  rw [if_neg (fun hport => Option.some_ne_none ':' hport.2.symm), portBehind]
  · dsimp only
    split
    case isTrue hnobody => exact .inl ⟨hnobody.1, hnobody.2, rfl⟩
    case isFalse hsomebody => exact .inr ⟨hsomebody, _, rfl⟩
  · exact fun after hnil => List.cons_ne_nil ':' after hnil.symm

/-- No host of a file ends in a gap. -/
theorem readFileAuthority_gap_ne_ok (hgap : ∀ c ∈ gap, IsGap c) (hnonempty : gap ≠ [])
    (hfront : Unslashed true front) (ref : Reference) (url : Url) :
    readFileAuthority ref (front ++ gap) ≠ .ok url := by
  obtain ⟨c, hc, hlast⟩ := getLast?_gap hgap hnonempty front
  have hread := readFileAuthority_append (hfront.append (unslashed_gap hgap true))
    (Tail.none.opens true) ref
  rw [List.append_nil, (named_of_gap hc hlast).not_drive, if_neg Bool.false_ne_true] at hread
  rw [hread, readFileHost, if_neg (List.append_ne_nil_of_right_ne_nil front hnonempty)]
  cases hhost : Host.read (front ++ gap) with
  | error fault => exact nofun
  | ok host => exact absurd hhost (Host.read_ne_ok_of_gap hc hlast host)

/-- The host is the one that is named in front of the path. -/
theorem host_of_readAuthority (hfront : Unslashed (isSpecial scheme) front)
    (hpath : Opens (isSpecial scheme) path)
    (h : readAuthority scheme ref (front ++ path) = .ok url) :
    ∃ host, url.host = some host ∧ readHost (isSpecial scheme)
      (cutHost (isSpecial scheme) false (cutUser (isSpecial scheme) front).2).1 = .ok host := by
  rw [readAuthority_append_eq hfront hpath] at h
  split at h
  · cases h
  · cases hread : readFront scheme (cutUser (isSpecial scheme) front).1
      (cutUser (isSpecial scheme) front).2 with
    | error fault =>
        rw [hread] at h
        cases h
    | ok read =>
        rw [hread] at h
        obtain rfl := Except.ok.inj h
        exact (exists_of_readFront hread).2

/-- The gap belongs to the name of the host, which is the last of the authority. -/
structure GapInHost (scheme : String) (name gap : List Char) (url : Url) : Prop where
  plain : isSpecial scheme = false
  last : cutHost (isSpecial scheme) false name = (name, [])
  bare : Host.readPlain name = .ok (hostOf name)
  host : url.host = some (hostOf (name ++ gap))

/-- Where no path has begun, that is where a gap belongs. -/
theorem gapInHost_of_readAuthority (hgap : ∀ c ∈ gap, IsGap c) (hnonempty : gap ≠ [])
    (hopen : ¬Slashed (behindHost (isSpecial scheme) rest))
    (h : readAuthority scheme ref (rest ++ gap) = .ok url) :
    GapInHost scheme (cutUser (isSpecial scheme) rest).2 gap url := by
  have hrest := unslashed_of_not_begun hopen
  have hall := hrest.append (unslashed_gap hgap _)
  obtain ⟨host, hurl, hhost⟩ := host_of_readAuthority hall (Tail.none.opens _)
    ((List.append_nil (rest ++ gap)).symm ▸ h)
  rw [readAuthority_unslashed hall, cutUser_gap hrest hgap] at h
  rw [cutUser_gap hrest hgap] at hhost
  dsimp only at h hhost
  have hnil : (cutHost (isSpecial scheme) false (cutUser (isSpecial scheme) rest).2).2 = [] := by
    split at h
    · cases h
    · cases hread : readFront scheme (cutUser (isSpecial scheme) rest).1
        ((cutUser (isSpecial scheme) rest).2 ++ gap) with
      | error fault =>
          rw [hread] at h
          cases h
      | ok read =>
          exact cutHost_of_readFront_gap hgap hnonempty (cutUser_unslashed hrest) hopen hread
  rw [cutHost_gap hgap hnil] at hhost
  have hlast := cutHost_gap gap_nil hnil
  rw [List.append_nil] at hlast
  have hplain : isSpecial scheme = false := by
    refine Bool.eq_false_iff.mpr fun hspecial => ?_
    obtain ⟨c, hc, hend⟩ := getLast?_gap hgap hnonempty (cutUser (isSpecial scheme) rest).2
    rw [readHost, if_pos hspecial, if_neg (List.append_ne_nil_of_right_ne_nil _ hnonempty)] at hhost
    exact absurd hhost (Host.read_ne_ok_of_gap hc hend host)
  rw [readHost, if_neg (ne_true_of_eq_false hplain)] at hhost
  obtain ⟨hwhole, hbare⟩ := readPlain_of_gap hgap hnonempty hhost
  exact ⟨hplain, hlast, hbare, hwhole ▸ hurl⟩

/-- Where a gap belongs to an authority, the rest of it is one as well unless it
is hollow. -/
theorem exists_readAuthority_of_gap (hgap : ∀ c ∈ gap, IsGap c) (hnonempty : gap ≠ [])
    (hopen : ¬Slashed (behindHost (isSpecial scheme) rest))
    (hhollow : (cutUser (isSpecial scheme) rest).2 = [] →
      ¬NamesUser (cutUser (isSpecial scheme) rest).1)
    (hended : ¬Followed ref' []) (h : readAuthority scheme ref (rest ++ gap) = .ok url) :
    ∃ other, readAuthority scheme ref' rest = .ok other := by
  have hname := gapInHost_of_readAuthority hgap hnonempty hopen h
  have hhost : readHost (isSpecial scheme) (cutUser (isSpecial scheme) rest).2 =
      .ok (hostOf (cutUser (isSpecial scheme) rest).2) :=
    (if_neg (ne_true_of_eq_false hname.plain)).trans hname.bare
  rw [readAuthority_unslashed (unslashed_of_not_begun hopen),
    if_neg (fun hfollowed => hended hfollowed.2)]
  rcases readFront_name hname.last hhost with ⟨hempty, hnamed, -⟩ | ⟨-, read, hread⟩
  · have hnil := Percent.encode_eq_nil_iff.mp
      (String.ofList_eq_empty_iff.mp (Host.named.inj hempty))
    exact absurd hnamed (hhollow hnil)
  · rw [hread]
    exact ⟨_, rfl⟩

/-- Where no path has begun there is an authority, and none of a file. -/
theorem exists_authority_of_gap (hgap : ∀ c ∈ gap, IsGap c) (hnonempty : gap ≠ [])
    (hbegun : ¬PathBegun scheme text) (h : readSchemed none scheme ref (text ++ gap) = .ok url) :
    ∃ rest, authorityOf? scheme text = some rest ∧ ¬Slashed (behindHost (isSpecial scheme) rest) ∧
      readAuthority scheme ref (rest ++ gap) = .ok url ∧
      ∀ ref', readSchemed none scheme ref' text = readAuthority scheme ref' rest := by
  rw [PathBegun] at hbegun
  push Not at hbegun
  obtain ⟨rest, hrest, hopen⟩ := hbegun
  have hgapped : authorityOf? scheme (text ++ gap) = some (rest ++ gap) := by
    rw [authorityOf?_gap hgap, hrest]
    rfl
  rw [readSchemed_authority hgapped] at h
  have hfile : scheme ≠ "file" := by
    intro hfile
    have hunslashed := unslashed_of_not_begun hopen
    rw [hfile] at hunslashed
    rw [if_pos hfile] at h
    exact readFileAuthority_gap_ne_ok hgap hnonempty hunslashed ref url h
  rw [if_neg hfile] at h
  refine ⟨rest, hrest, hopen, h, fun ref' => ?_⟩
  rw [readSchemed_authority hrest, if_neg hfile]

/-- Where a gap belongs to the authority of a text, what is left without it is
read as well unless that is hollow. -/
theorem exists_readSchemed_of_gap (hgap : ∀ c ∈ gap, IsGap c) (hnonempty : gap ≠ [])
    (hbegun : ¬PathBegun scheme text) (hhollow : ¬Hollow scheme text) (hended : ¬Followed ref' [])
    (h : readSchemed none scheme ref (text ++ gap) = .ok url) :
    ∃ other, readSchemed none scheme ref' text = .ok other ∧ HasParts other := by
  obtain ⟨rest, hrest, hopen, hread, hbare⟩ := exists_authority_of_gap hgap hnonempty hbegun h
  obtain ⟨other, hother⟩ := exists_readAuthority_of_gap hgap hnonempty hopen
    (fun hnil hnamed => hhollow ⟨rest, hrest, hnil, hnamed⟩) hended hread
  rw [hbare]
  exact ⟨other, hother, hasParts_readAuthority hother⟩

/-- A hollow text is none of a URL, although it is with a gap. -/
theorem readSchemed_hollow (hgap : ∀ c ∈ gap, IsGap c) (hnonempty : gap ≠ [])
    (hhollow : Hollow scheme text) (h : readSchemed none scheme ref (text ++ gap) = .ok url) :
    readSchemed none scheme ref' text = .error .emptyHost := by
  obtain ⟨rest, hrest, hnil, hnamed⟩ := hhollow
  have hbegun : ¬PathBegun scheme text := by
    intro hbegun
    have hslash := hbegun rest hrest
    rw [behindHost, hnil] at hslash
    exact absurd hslash (by decide : ¬Slashed [])
  obtain ⟨rest', hrest', hopen, -, hbare⟩ := exists_authority_of_gap hgap hnonempty hbegun h
  obtain rfl : rest = rest' := Option.some.inj (hrest.symm.trans hrest')
  have hfree : ¬(cutUser (isSpecial scheme) rest = (some [], []) ∧ Followed ref' []) := by
    rintro ⟨hcut, -⟩
    rw [hcut] at hnamed
    obtain ⟨name, ⟨⟩, hname, -⟩ := hnamed
    exact hname rfl
  rw [hbare, readAuthority_unslashed (unslashed_of_not_begun hopen), if_neg hfree, hnil]
  have hfront : readFront scheme (cutUser (isSpecial scheme) rest).1 [] = .error .emptyHost := by
    cases hspecial : isSpecial scheme with
    | true => exact readFront_special hspecial _
    | false =>
        have hhost : readHost (isSpecial scheme) [] = .ok (.named "") := by
          rw [hspecial]
          rfl
        rw [← hspecial]
        rcases readFront_name rfl hhost with ⟨-, -, hread⟩ | ⟨hsomebody, -⟩
        · exact hread
        · exact absurd ⟨rfl, hnamed⟩ hsomebody
  rw [hfront]
  rfl

/-- What is left of a URL when the end of its text is: the scheme is the same,
and there is a path with parts wherever there is a host. -/
structure Resembles (url other : Url) : Prop where
  scheme : url.scheme = other.scheme
  parts : isSpecial other.scheme = true ∨ other.hostText? ≠ none → HasParts url

theorem SameOrigin.resembles {other : Url} (h : SameOrigin url other)
    (hread : HasParts url ∨ url.host = none ∧ isSpecial url.scheme = false) :
    Resembles url other where
  scheme := h.scheme
  parts hneeded := by
    refine hread.resolve_right fun ⟨hhost, hspecial⟩ => ?_
    rcases hneeded with hscheme | hnamed
    · rw [h.scheme, hscheme] at hspecial
      cases hspecial
    · rw [← h.host, hostText?, hhost] at hnamed
      exact hnamed rfl

/-- The slashes at the end of a text can be left out, and with them a gap in
front of them, unless what is left is hollow. -/
theorem exists_readSchemed_trimmed {n : Nat} (hgap : ∀ c ∈ gap, IsGap c)
    (hended : ¬Followed ref' []) (hfull : gap ≠ [] → ¬Hollow scheme text)
    (h : readSchemed none scheme ref (text ++ gap ++ List.replicate n '/') = .ok url) :
    ∃ other, readSchemed none scheme ref' text = .ok other ∧ Resembles other url ∧
      (gap = [] ∨ PathBegun scheme text ∧ ¬HidesHost scheme text → SameOrigin other url) := by
  obtain ⟨whole, hwhole, hcontinues⟩ := continuesTo_of_slashes hended h
  have horigin := hcontinues.origin
  have hscheme {other : Url} (hother : readSchemed none scheme ref' text = .ok other) :
      other.scheme = url.scheme :=
    (scheme_of_readSchemed hother).trans (scheme_of_readSchemed h).symm
  by_cases hnil : gap = []
  · rw [hnil, List.append_nil] at hwhole
    exact ⟨whole, hwhole, horigin.resembles (hasParts_readSchemed hwhole), fun _ => horigin⟩
  by_cases hbegun : PathBegun scheme text
  · obtain ⟨other, hother, hsame⟩ := exists_readSchemed_gap hgap gap_nil hbegun hwhole
    rw [List.append_nil] at hother
    refine ⟨other, hother, ⟨hscheme hother, fun hneeded => ?_⟩, fun hapart =>
      (hsame (hapart.resolve_left hnil).2).trans horigin⟩
    -- Only a file hides its host, and its path always has parts.
    by_cases hhides : HidesHost scheme text
    · refine (hasParts_readSchemed hother).resolve_right fun hplain => ?_
      rw [scheme_of_readSchemed hother, hhides.1] at hplain
      cases hplain.2
    · exact (((hsame hhides).trans horigin).resembles (hasParts_readSchemed hother)).parts hneeded
  · obtain ⟨other, hother, hparts⟩ :=
      exists_readSchemed_of_gap hgap hnil hbegun (hfull hnil) hended hwhole
    exact ⟨other, hother, ⟨hscheme hother, fun _ => hparts⟩, fun hapart =>
      absurd (hapart.resolve_left hnil).1 hbegun⟩

end BillingAccess.Url
