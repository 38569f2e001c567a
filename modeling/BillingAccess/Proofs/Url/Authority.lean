/-
What stands before a path is read without it.

The user, the host and the port of a URL are read up to the first slash.  What
stands behind that slash has no say in them, and neither has the ending; the
one thing that counts is whether anything follows a user without a name.
-/
import BillingAccess.Proofs.Url.Paths
import Mathlib.Data.List.TakeWhile

namespace BillingAccess.Url

/-- A text that holds no slash. -/
def Unslashed (special : Bool) (text : List Char) : Prop :=
  ∀ c ∈ text, isSlash special c = false

/-- Nothing, or a slash and more. -/
def Opens (special : Bool) (text : List Char) : Prop :=
  ∀ c ∈ text.head?, isSlash special c = true

section

variable {special : Bool} {front tail : List Char}

theorem isSlash_cases {c : Char} (h : isSlash special c = true) : c = '/' ∨ c = '\\' := by
  rw [isSlash, Bool.or_eq_true, Bool.and_eq_true, beq_iff_eq, beq_iff_eq] at h
  exact h.imp_right And.right

theorem Tail.opens {pieces : List (List Char)} (h : Tail tail pieces) (special : Bool) :
    Opens special tail := by
  cases h with
  | none => exact nofun
  | slash _ _ =>
      rintro c ⟨⟩
      rfl

theorem Opens.append {rest : List Char} (hrest : Opens special rest) (htail : Opens special tail) :
    Opens special (rest ++ tail) := by
  cases rest with
  | nil => exact htail
  | cons c rest => exact hrest

/-- A character that is no slash is not the first of what opens with one. -/
theorem Opens.head?_ne (h : Opens special tail) {c : Char} (hc : isSlash special c = false) :
    tail.head? ≠ some c := by
  intro hhead
  rw [h c hhead] at hc
  cases hc

/-- What stops a run stops it behind a longer text as well. -/
theorem takeWhile_append_of_head {p : Char → Bool} (h : ∀ c ∈ tail.head?, p c = false) :
    (front ++ tail).takeWhile p = front.takeWhile p := by
  induction front with
  | nil =>
      cases tail with
      | nil => rfl
      | cons c tail => exact List.takeWhile_cons_of_neg (by rw [h c rfl]; exact Bool.false_ne_true)
  | cons c front ih => rw [List.cons_append, List.takeWhile_cons, List.takeWhile_cons, ih]

theorem dropWhile_append_of_head {p : Char → Bool} (h : ∀ c ∈ tail.head?, p c = false) :
    (front ++ tail).dropWhile p = front.dropWhile p ++ tail := by
  have hsame : _ ++ _ = front ++ tail := List.takeWhile_append_dropWhile (p := p)
  have hfront : _ ++ _ = front := List.takeWhile_append_dropWhile (p := p)
  rw [takeWhile_append_of_head h] at hsame
  conv at hsame => rhs; rw [← hfront]
  rwa [List.append_assoc, List.append_cancel_left_eq] at hsame

theorem takeWhile_unslashed (h : Unslashed special front) :
    front.takeWhile (!isSlash special ·) = front :=
  List.takeWhile_eq_self_iff.mpr fun c hc => by rw [h c hc]; rfl

theorem dropWhile_unslashed (h : Unslashed special front) :
    front.dropWhile (!isSlash special ·) = [] :=
  List.dropWhile_eq_nil_iff.mpr fun c hc => by rw [h c hc]; rfl

theorem Opens.head_slash (h : Opens special tail) :
    ∀ c ∈ tail.head?, (!isSlash special c) = false :=
  fun c hc => by rw [h c hc]; rfl

theorem Opens.head_no_digit (h : Opens special tail) : ∀ c ∈ tail.head?, c.isDigit = false := by
  intro c hc
  rcases isSlash_cases (h c hc) with rfl | rfl <;> rfl

/-- A text is cut before its first slash. -/
theorem exists_unslashed (special : Bool) (text : List Char) :
    ∃ front rest, text = front ++ rest ∧ Unslashed special front ∧ Opens special rest := by
  refine ⟨text.takeWhile (!isSlash special ·), text.dropWhile (!isSlash special ·),
    List.takeWhile_append_dropWhile.symm, fun c hc => ?_, fun c hc => ?_⟩
  · simpa using List.mem_takeWhile_imp hc
  · have hhead := List.head?_dropWhile_not (!isSlash special ·) text
    rw [hc] at hhead
    simpa using hhead

end

theorem cutUser_append {special : Bool} {front tail : List Char} (hfront : Unslashed special front)
    (htail : Opens special tail) :
    cutUser special (front ++ tail) =
      ((cutUser special front).1, (cutUser special front).2 ++ tail) := by
  rw [cutUser, cutUser, takeWhile_append_of_head htail.head_slash,
    dropWhile_append_of_head htail.head_slash, dropWhile_unslashed hfront]
  dsimp only
  split
  · rw [List.append_nil, List.nil_append]
  · rfl

theorem cutUser_unslashed {special : Bool} {front : List Char} (hfront : Unslashed special front) :
    Unslashed special (cutUser special front).2 := by
  rw [cutUser, takeWhile_unslashed hfront, dropWhile_unslashed hfront]
  dsimp only
  split
  · intro c hc
    rw [List.append_nil, List.mem_reverse] at hc
    exact hfront c (List.mem_reverse.mp ((List.takeWhile_sublist _).subset hc))
  · exact hfront

/-- Nothing but a user without a name. -/
theorem eq_at_of_cutUser {special : Bool} {front : List Char} (hfront : Unslashed special front)
    (h : cutUser special front = (some [], [])) : front = ['@'] := by
  rw [cutUser, takeWhile_unslashed hfront, dropWhile_unslashed hfront] at h
  dsimp only at h
  split at h
  case isFalse => cases h
  case isTrue hat =>
    rw [Prod.mk.injEq, Option.some.injEq, List.append_nil] at h
    obtain ⟨hbefore, hafter⟩ := h
    rw [hafter, List.length_nil, Nat.sub_zero, List.take_eq_nil_iff] at hbefore
    cases front with
    | nil => cases hat
    | cons c rest =>
        obtain rfl : rest = [] := List.eq_nil_of_length_eq_zero (by simpa using hbefore)
        obtain rfl : '@' = c := by simpa using hat
        rfl

theorem cutHost_append {special : Bool} {front tail : List Char} (hfront : Unslashed special front)
    (htail : Opens special tail) (inside : Bool) :
    cutHost special inside (front ++ tail) =
      ((cutHost special inside front).1, (cutHost special inside front).2 ++ tail) := by
  induction front generalizing inside with
  | nil =>
      cases tail with
      | nil => rfl
      | cons c tail =>
          change cutHost special inside (c :: tail) = ([], c :: tail)
          rw [cutHost, htail c rfl]
          rfl
  | cons c front ih =>
      obtain ⟨hc, hrest⟩ := List.forall_mem_cons.mp hfront
      rw [List.cons_append, cutHost, cutHost, hc]
      split
      · rfl
      · rw [ih hrest]

/-- The rest of a host is a port. -/
theorem cutHost_rest {special : Bool} {front : List Char} (hfront : Unslashed special front)
    (inside : Bool) :
    (cutHost special inside front).2 = [] ∨
      ∃ port, (cutHost special inside front).2 = ':' :: port := by
  induction front generalizing inside with
  | nil => exact .inl rfl
  | cons c front ih =>
      obtain ⟨hc, hrest⟩ := List.forall_mem_cons.mp hfront
      rw [cutHost, hc]
      split
      case isTrue hcolon =>
        rw [Bool.false_or, Bool.and_eq_true, beq_iff_eq] at hcolon
        rw [hcolon.1]
        exact .inr ⟨front, rfl⟩
      case isFalse => exact ih hrest _

theorem readPort_append (scheme : String) (text : List Char) {special : Bool} {tail : List Char}
    (htail : Opens special tail) :
    readPort scheme (text ++ tail) =
      (readPort scheme text).map fun (port, rest) => (port, rest ++ tail) := by
  rw [readPort, readPort, takeWhile_append_of_head htail.head_no_digit,
    dropWhile_append_of_head htail.head_no_digit]
  dsimp only
  split
  · rfl
  · cases text.dropWhile Char.isDigit with
    | cons c rest =>
        rw [List.cons_append]
        dsimp only
        split
        · rfl
        · rfl
    | nil =>
        cases tail with
        | nil => rfl
        | cons c tail =>
            have hc := isSlash_cases (htail c rfl)
            rw [List.nil_append]
            dsimp only
            rw [if_neg (by tauto)]
            rfl

/-- The port behind a host, if there is one. -/
def portBehind (scheme : String) : List Char → Except Fault (Option Nat × List Char)
  | ':' :: after => readPort scheme after
  | rest => .ok (none, rest)

/-- What stands before the path, and what is left for the path. -/
def readFront (scheme : String) (user : Option (List Char)) (text : List Char) :
    Except Fault (Url × List Char) :=
  let (username, password) := cutAt ':' (user.getD [])
  let escape := fun part => String.ofList (Percent.encode Percent.inUserinfo part)
  let (hostText, rest) := cutHost (isSpecial scheme) false text
  match readHost (isSpecial scheme) hostText with
  | .error fault => .error fault
  | .ok host =>
      if host = .named "" ∧ rest.head? = some ':' then .error .emptyHost
      else
        match portBehind scheme rest with
        | .error fault => .error fault
        | .ok (port, rest) =>
            if host = .named "" ∧ (escape username ≠ "" ∨ password.any (· ≠ [])) then
              .error .emptyHost
            else .ok ({
              scheme := scheme
              username := escape username
              password := escape (password.getD [])
              host := some host
              port := port }, rest)

/-- Something follows what is read first: more of the text, or an ending. -/
def Followed (ref : Reference) (tail : List Char) : Prop :=
  tail ≠ [] ∨ ref.query.isSome = true ∨ ref.fragment.isSome = true

instance (ref : Reference) (tail : List Char) : Decidable (Followed ref tail) :=
  inferInstanceAs (Decidable (_ ∨ _))

theorem readAuthority_eq (scheme : String) (ref : Reference) (text : List Char) :
    readAuthority scheme ref text =
      let (user, rest) := cutUser (isSpecial scheme) text
      if user = some [] ∧ (rest.head?.any (isSlash (isSpecial scheme)) ∨
          rest = [] ∧ (ref.query.isSome ∨ ref.fragment.isSome)) then .error .emptyHost
      else (readFront scheme user rest).map fun (front, rest) =>
        front.withPath ref (rootedPath (isSpecial scheme) rest) := by
  unfold readAuthority readFront
  dsimp only
  split
  · rfl
  · cases readHost (isSpecial scheme) _ with
    | error fault => rfl
    | ok host =>
        generalize (cutHost (isSpecial scheme) false _).2 = rest
        dsimp only [bind, Except.bind]
        split
        · rfl
        · split
          case h_1 _ after _ =>
            rw [portBehind]
            cases readPort scheme after with
            | error fault => rfl
            | ok port =>
                dsimp only
                split
                · rfl
                · rfl
          case h_2 _ _ hnone =>
            rw [portBehind]
            · dsimp only [pure, Except.pure]
              split
              · rfl
              · rfl
            · exact hnone

theorem portBehind_append (scheme : String) {front tail : List Char} {special : Bool}
    (hfront : front = [] ∨ ∃ port, front = ':' :: port) (htail : Opens special tail) :
    portBehind scheme (front ++ tail) =
      (portBehind scheme front).map fun (port, rest) => (port, rest ++ tail) := by
  rcases hfront with rfl | ⟨port, rfl⟩
  · cases tail with
    | nil => rfl
    | cons c tail =>
        rcases isSlash_cases (htail c rfl) with rfl | rfl <;> rfl
  · exact readPort_append scheme port htail

/-- What is put behind the port or the name of a host is left over with the rest. -/
theorem readFront_append_of {scheme : String} {user : Option (List Char)}
    {text rest tail : List Char}
    (htext : (cutHost (isSpecial scheme) false text).2 = rest)
    (hcut : cutHost (isSpecial scheme) false (text ++ tail) =
      ((cutHost (isSpecial scheme) false text).1, rest ++ tail))
    (hhead : (rest ++ tail).head? = some ':' ↔ rest.head? = some ':')
    (hport : portBehind scheme (rest ++ tail) =
      (portBehind scheme rest).map fun (port, left) => (port, left ++ tail)) :
    readFront scheme user (text ++ tail) =
      (readFront scheme user text).map fun (url, left) => (url, left ++ tail) := by
  unfold readFront
  rw [hcut]
  dsimp only
  rw [htext]
  cases readHost (isSpecial scheme) _ with
  | error fault => rfl
  | ok host =>
      simp only [hhead]
      split
      · rfl
      · rw [hport]
        cases portBehind scheme rest with
        | error fault => rfl
        | ok port =>
            dsimp only [Except.map]
            split
            · rfl
            · rfl

theorem readFront_append {scheme : String} {user : Option (List Char)} {front tail : List Char}
    (hfront : Unslashed (isSpecial scheme) front) (htail : Opens (isSpecial scheme) tail) :
    readFront scheme user (front ++ tail) =
      (readFront scheme user front).map fun (url, rest) => (url, rest ++ tail) := by
  have hrest := cutHost_rest hfront false
  refine readFront_append_of rfl (cutHost_append hfront htail false) ?_
    (portBehind_append scheme hrest htail)
  rcases hrest with hnil | ⟨port, hcolon⟩
  · rw [hnil]
    exact iff_of_false (htail.head?_ne (by cases isSpecial scheme <;> rfl)) nofun
  · rw [hcolon]
    exact Iff.rfl

/-- Something follows a user without a name, and nothing else does. -/
theorem blocked_iff {special : Bool} {ref : Reference} {user : Option (List Char)}
    {rest tail : List Char} (hrest : Unslashed special rest) (htail : Opens special tail) :
    (user = some [] ∧ ((rest ++ tail).head?.any (isSlash special) ∨
        rest ++ tail = [] ∧ (ref.query.isSome ∨ ref.fragment.isSome))) ↔
      (user, rest) = (some [], []) ∧ Followed ref tail := by
  rw [Prod.mk.injEq, and_assoc, Followed]
  apply and_congr_right
  rintro -
  cases rest with
  | nil =>
      cases tail with
      | nil => simp
      | cons c tail => simp [htail c rfl]
  | cons c rest => simp [hrest c List.mem_cons_self]

theorem readAuthority_append_eq {scheme : String} {ref : Reference} {front tail : List Char}
    (hfront : Unslashed (isSpecial scheme) front) (htail : Opens (isSpecial scheme) tail) :
    readAuthority scheme ref (front ++ tail) =
      if cutUser (isSpecial scheme) front = (some [], []) ∧ Followed ref tail then .error .emptyHost
      else
        (readFront scheme (cutUser (isSpecial scheme) front).1
          (cutUser (isSpecial scheme) front).2).map fun (url, rest) =>
            url.withPath ref (rootedPath (isSpecial scheme) (rest ++ tail)) := by
  have hrest := cutUser_unslashed hfront
  rw [readAuthority_eq, cutUser_append hfront htail]
  simp only [blocked_iff hrest htail, readFront_append hrest htail]
  cases readFront scheme (cutUser (isSpecial scheme) front).1
    (cutUser (isSpecial scheme) front).2 <;> rfl

/-- An authority is read in the same way whatever follows it, unless it is a
user without a name and nothing followed it before. -/
theorem readAuthority_append {scheme : String} {ref ref' : Reference} {front tail tail' : List Char}
    (hfront : Unslashed (isSpecial scheme) front) (htail : Opens (isSpecial scheme) tail)
    (htail' : Opens (isSpecial scheme) tail')
    (hfollowed : front = ['@'] → Followed ref' tail' → Followed ref tail) {url : Url}
    (h : readAuthority scheme ref (front ++ tail) = .ok url) :
    ∃ rest, readAuthority scheme ref' (front ++ tail') =
      .ok (url.withPath ref' (rootedPath (isSpecial scheme) (rest ++ tail'))) := by
  rw [readAuthority_append_eq hfront htail] at h
  rw [readAuthority_append_eq hfront htail']
  split at h
  case isTrue => cases h
  case isFalse hfree =>
    have hfree' : ¬(cutUser (isSpecial scheme) front = (some [], []) ∧ Followed ref' tail') :=
      fun ⟨hcut, hmore⟩ => hfree ⟨hcut, hfollowed (eq_at_of_cutUser hfront hcut) hmore⟩
    rw [if_neg hfree']
    cases hread : readFront scheme (cutUser (isSpecial scheme) front).1
      (cutUser (isSpecial scheme) front).2 with
    | error fault =>
        rw [hread] at h
        cases h
    | ok read =>
        rw [hread] at h
        obtain rfl := Except.ok.inj h
        exact ⟨read.2, rfl⟩

end BillingAccess.Url
