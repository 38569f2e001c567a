/-
Which visitor has come back.

What a visitor sends is read line by line up to the first empty line or the
end.  It has come back if these lines are text and the second word of the first
one leads from the redirect URI to the same path.  All others before it are
turned away, and those after it are not received.
-/
import BillingAccess.Proofs.Text.Utf8
import BillingAccess.Proofs.Text.Words
import BillingAccess.Proofs.Url.Joined
import BillingAccess.SignIn.Redirect

namespace BillingAccess.SignIn

/-- The lines of the head of some bytes: those before the first empty one, or
before the end.  The last line need not be ended. -/
inductive HasHead : List UInt8 → List (List UInt8) → Prop
  | line {line rest : List UInt8} {lines : List (List UInt8)} (hline : 0x0A ∉ line)
      (hfilled : Visit.dropReturn line ≠ []) (hrest : HasHead rest lines) :
      HasHead (line ++ 0x0A :: rest) (Visit.dropReturn line :: lines)
  | ended {line rest : List UInt8} (hline : 0x0A ∉ line) (hempty : Visit.dropReturn line = []) :
      HasHead (line ++ 0x0A :: rest) []
  | last {line : List UInt8} (hline : 0x0A ∉ line) (hfilled : Visit.dropReturn line ≠ []) :
      HasHead line [Visit.dropReturn line]
  | nothing {line : List UInt8} (hline : 0x0A ∉ line) (hempty : Visit.dropReturn line = []) :
      HasHead line []

theorem headLines_append {line : List UInt8} (h : 0x0A ∉ line) (rest : List UInt8) :
    Visit.headLines (line ++ 0x0A :: rest) =
      if Visit.dropReturn line = [] then []
      else Visit.dropReturn line :: Visit.headLines rest := by
  rw [Visit.headLines, List.splitOn_append_cons_self_of_not_mem h, List.map_cons,
    List.takeWhile_cons, ← Visit.headLines]
  by_cases hempty : Visit.dropReturn line = []
  · simp [hempty]
  · simp [hempty]

theorem headLines_last {line : List UInt8} (h : 0x0A ∉ line) :
    Visit.headLines line =
      if Visit.dropReturn line = [] then [] else [Visit.dropReturn line] := by
  rw [Visit.headLines, List.splitOn_eq_singleton h, List.map_singleton, List.takeWhile_cons,
    List.takeWhile_nil]
  by_cases hempty : Visit.dropReturn line = []
  · simp [hempty]
  · simp [hempty]

theorem HasHead.headLines_eq {bytes : List UInt8} {lines : List (List UInt8)}
    (h : HasHead bytes lines) : Visit.headLines bytes = lines := by
  induction h with
  | line hline hfilled hrest ih => rw [headLines_append hline, if_neg hfilled, ih]
  | ended hline hempty => rw [headLines_append hline, if_pos hempty]
  | last hline hfilled => rw [headLines_last hline, if_neg hfilled]
  | nothing hline hempty => rw [headLines_last hline, if_pos hempty]

theorem exists_hasHead (bytes : List UInt8) : ∃ lines, HasHead bytes lines := by
  induction hlength : bytes.length using Nat.strong_induction_on generalizing bytes with
  | _ n ih =>
      by_cases hmem : 0x0A ∈ bytes
      · obtain ⟨line, rest, rfl, hline⟩ := List.eq_append_cons_of_mem hmem
        by_cases hempty : Visit.dropReturn line = []
        · exact ⟨_, .ended hline hempty⟩
        · rw [List.length_append, List.length_cons] at hlength
          obtain ⟨lines, hrest⟩ := ih rest.length (by omega) rest rfl
          exact ⟨_, .line hline hempty hrest⟩
      · by_cases hempty : Visit.dropReturn bytes = []
        · exact ⟨_, .nothing hmem hempty⟩
        · exact ⟨_, .last hmem hempty⟩

theorem headLines_eq_iff {bytes : List UInt8} {lines : List (List UInt8)} :
    Visit.headLines bytes = lines ↔ HasHead bytes lines := by
  constructor
  · rintro rfl
    obtain ⟨lines, h⟩ := exists_hasHead bytes
    rwa [h.headLines_eq]
  · exact HasHead.headLines_eq

/-- All lines of the head are text, and the target is the second word of the
first one. -/
inductive Requests (bytes : List UInt8) (target : List Char) : Prop
  | head {first method : List Char} {rest more : List (List Char)}
      (hhead : HasHead bytes ((first :: rest).map Utf8.encode))
      (hwords : Text.HasWords first (method :: target :: more)) : Requests bytes target

theorem mapM_decode?_eq_some_iff {lines : List (List UInt8)} {texts : List (List Char)} :
    lines.mapM Utf8.decode? = some texts ↔ lines = texts.map Utf8.encode := by
  induction lines generalizing texts with
  | nil => cases texts <;> simp
  | cons line rest ih =>
      rw [List.mapM_cons]
      simp only [bind, Option.bind_eq_some_iff, Utf8.decode?_eq_some_iff, ih, pure,
        Option.some.injEq]
      constructor
      · rintro ⟨text, rfl, texts, rfl, rfl⟩
        rfl
      · intro h
        obtain ⟨text, texts, rfl, htext, hrest⟩ := List.map_eq_cons_iff.mp h.symm
        exact ⟨text, htext.symm, texts, hrest.symm, rfl⟩

theorem getElem?_one_eq_some_iff {α : Type} {list : List α} {a : α} :
    list[1]? = some a ↔ ∃ first rest, list = first :: a :: rest := by
  rcases list with _ | ⟨first, _ | ⟨second, rest⟩⟩ <;> simp

theorem target?_eq_some_iff {bytes : List UInt8} {target : List Char} :
    Visit.target? bytes = some (some target) ↔ Requests bytes target := by
  rw [Visit.target?, Option.map_eq_some_iff]
  constructor
  · rintro ⟨texts, hlines, htarget⟩
    obtain ⟨first, hfirst, hword⟩ := Option.bind_eq_some_iff.mp htarget
    obtain ⟨rest, rfl⟩ := List.head?_eq_some_iff.mp hfirst
    obtain ⟨method, more, hwords⟩ := getElem?_one_eq_some_iff.mp hword
    exact .head (headLines_eq_iff.mp (mapM_decode?_eq_some_iff.mp hlines))
      (Text.words_eq_iff.mp hwords)
  · rintro ⟨hhead, hwords⟩
    refine ⟨_, mapM_decode?_eq_some_iff.mpr hhead.headLines_eq, ?_⟩
    rw [List.head?_cons, Option.bind_some, hwords.words_eq]
    rfl

/-- A visitor asks for a target that leads from the redirect URI to an address
with the same path. -/
structure ComesBack (base : Url) (bytes : List UInt8) (target : List Char) (url : Url) : Prop where
  requests : Requests bytes target
  joined : base.join (String.ofList target) = .ok url
  path : url.path.text = base.path.text

theorem ofBytes_eq_back_iff {base url : Url} {bytes : List UInt8} :
    Visit.ofBytes base bytes = .back url ↔ ∃ target, ComesBack base bytes target url := by
  rw [Visit.ofBytes]
  constructor
  · intro h
    cases htarget : Visit.target? bytes with
    | none =>
        rw [htarget] at h
        cases h
    | some found =>
        cases found with
        | none =>
            rw [htarget] at h
            cases h
        | some target =>
            simp only [htarget] at h
            cases hjoin : base.join (String.ofList target) with
            | error fault =>
                rw [hjoin] at h
                cases h
            | ok other =>
                simp only [hjoin] at h
                split at h
                case isTrue hpath =>
                  cases h
                  exact ⟨target, target?_eq_some_iff.mp htarget, hjoin, hpath⟩
                case isFalse => cases h
  · rintro ⟨target, hrequests, hjoined, hpath⟩
    simp only [target?_eq_some_iff.mpr hrequests, hjoined, if_pos hpath]

/-- None of the visitors has come back. -/
def NobodyBack (base : Url) (visitors : List (List UInt8)) : Prop :=
  ∀ bytes ∈ visitors, ∀ target url, ¬ComesBack base bytes target url

theorem nobodyBack_iff {base : Url} {visitors : List (List UInt8)} :
    NobodyBack base visitors ↔
      ∀ bytes ∈ visitors, ∀ url, Visit.ofBytes base bytes ≠ .back url := by
  simp only [NobodyBack, Ne, ofBytes_eq_back_iff, not_exists]
  exact ⟨fun h bytes hbytes url target => h bytes hbytes target url,
    fun h bytes hbytes target url => h bytes hbytes url target⟩

/-- Whether a visitor has come back. -/
def isBack (base : Url) (bytes : List UInt8) : Bool :=
  match Visit.ofBytes base bytes with
  | .back _ => true
  | .elsewhere | .garbled => false

theorem isBack_eq_false_iff {base : Url} {bytes : List UInt8} :
    isBack base bytes = false ↔ ∀ url, Visit.ofBytes base bytes ≠ .back url := by
  rw [isBack]
  cases Visit.ofBytes base bytes <;> simp

instance (base : Url) (visitors : List (List UInt8)) : Decidable (NobodyBack base visitors) :=
  decidable_of_iff (visitors.all (!isBack base ·) = true) <| by
    simp only [List.all_eq_true, Bool.not_eq_true', isBack_eq_false_iff, nobodyBack_iff]

/-- Each visitor is told that nothing is there, or gets no answer. -/
structure TurnedAway (visitors : List (List UInt8)) (replies : List String) : Prop where
  each : replies.length = visitors.length
  reply : ∀ reply ∈ replies, reply = Visit.elsewhere.reply ∨ reply = ""

theorem reply_of_not_back {visit : Visit} (h : ∀ url, visit ≠ .back url) :
    visit.reply = Visit.elsewhere.reply ∨ visit.reply = "" := by
  cases visit with
  | back url => exact absurd rfl (h url)
  | elsewhere => exact .inl rfl
  | garbled => exact .inr rfl

theorem receive_cons_of_not_back {base : Url} {bytes : List UInt8}
    (h : ∀ url, Visit.ofBytes base bytes ≠ .back url) (rest : List (List UInt8)) :
    receive base (bytes :: rest) =
      ((Visit.ofBytes base bytes).reply :: (receive base rest).1, (receive base rest).2) := by
  rw [receive]
  split
  case h_1 url hback => exact absurd hback (h url)
  case h_2 => rfl

theorem receive_append {base : Url} {before : List (List UInt8)} (h : NobodyBack base before)
    (rest : List (List UInt8)) :
    ∃ turned, TurnedAway before turned ∧
      receive base (before ++ rest) = (turned ++ (receive base rest).1, (receive base rest).2) := by
  rw [nobodyBack_iff] at h
  induction before with
  | nil => exact ⟨[], ⟨rfl, nofun⟩, rfl⟩
  | cons bytes before ih =>
      obtain ⟨hnot, hothers⟩ := List.forall_mem_cons.mp h
      obtain ⟨turned, hturned, hreceive⟩ := ih hothers
      refine ⟨(Visit.ofBytes base bytes).reply :: turned, ⟨?_, ?_⟩, ?_⟩
      · rw [List.length_cons, List.length_cons, hturned.each]
      · exact List.forall_mem_cons.mpr ⟨reply_of_not_back hnot, hturned.reply⟩
      · rw [List.cons_append, receive_cons_of_not_back hnot, hreceive]
        rfl

/-- The first visitor that has come back is the last one received. -/
theorem receive_of_comesBack {base url : Url} {before : List (List UInt8)} {bytes : List UInt8}
    {target : List Char} (hbefore : NobodyBack base before) (h : ComesBack base bytes target url)
    (after : List (List UInt8)) :
    ∃ turned, TurnedAway before turned ∧
      receive base (before ++ bytes :: after) =
        (turned ++ [(Visit.back url).reply], some url, after) := by
  obtain ⟨turned, hturned, hreceive⟩ := receive_append hbefore (bytes :: after)
  refine ⟨turned, hturned, ?_⟩
  rw [hreceive, receive, ofBytes_eq_back_iff.mpr ⟨target, h⟩]

theorem receive_of_nobodyBack {base : Url} {visitors : List (List UInt8)}
    (h : NobodyBack base visitors) :
    ∃ turned, TurnedAway visitors turned ∧ receive base visitors = (turned, none, []) := by
  obtain ⟨turned, hturned, hreceive⟩ := receive_append h []
  refine ⟨turned, hturned, ?_⟩
  rw [List.append_nil] at hreceive
  rw [hreceive, receive, List.append_nil]

end BillingAccess.SignIn
