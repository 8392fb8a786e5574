/-
  MeetingRoom/Proofs/Server/BaseAddress.lean
  ==========================================
  **Base addresses, with and without slashes at their end.**

  Slashes are taken off in four places: from the base address of the settings,
  from that of a root of requests, from the path of a request, and from the base
  of the event stream.  They agree because trimming forgets how many slashes
  there were (`trimEnd_append_copies`) and leaves none (`isTrimmed_trimEnd`).

  A scheme loses its own slashes in this way if nothing follows them, so a base
  that still starts with `http://` or `https://` has something after it.
-/
import Mathlib.Data.List.DropRight
import MeetingRoom.Proofs.Session.Question
import MeetingRoom.Server.Address

namespace MeetingRoom

namespace Text

/-! ### Trimming one character -/

def copies (c : Char) (n : Nat) : String := String.ofList (List.replicate n c)

/-- `core` is `s` without the copies of `c` at its end. -/
structure IsTrimmed (c : Char) (s core : String) : Prop where
  parts : ∃ n, s = core ++ copies c n
  last : core.toList.getLast? ≠ some c

theorem trimEnd_append_copies (c : Char) (s : String) (n : Nat) :
    trimEnd c (s ++ copies c n) = trimEnd c s := by
  rw [trimEnd, trimEnd, copies, String.toList_append, String.toList_ofList,
    dropEndWhile_append_of_all]
  intro x hx
  rw [List.eq_of_mem_replicate hx]
  exact beq_self_eq_true c

theorem trimStart_copies_append (c : Char) (s : String) (n : Nat) :
    trimStart c (copies c n ++ s) = trimStart c s := by
  rw [trimStart, trimStart, copies, String.toList_append, String.toList_ofList,
    List.dropWhile_append_of_pos]
  intro x hx
  rw [List.eq_of_mem_replicate hx]
  exact beq_self_eq_true c

theorem isTrimmed_trimEnd (c : Char) (s : String) : IsTrimmed c s (trimEnd c s) := by
  have hcore : (trimEnd c s).toList = s.toList.rdropWhile (· == c) := String.toList_ofList
  constructor
  · have htail : s.toList.rtakeWhile (· == c) =
        List.replicate (s.toList.rtakeWhile (· == c)).length c := by
      refine List.eq_replicate_of_mem ?_
      intro x hx
      exact beq_iff_eq.1 (List.mem_rtakeWhile_imp (p := (· == c)) hx)
    refine ⟨(s.toList.rtakeWhile (· == c)).length, String.toList_inj.1 ?_⟩
    rw [String.toList_append, hcore, copies, String.toList_ofList, ← htail,
      List.rdropWhile_append_rtakeWhile]
  · rw [hcore]
    intro hlast
    have hne : s.toList.rdropWhile (· == c) ≠ [] := by
      intro hnil
      rw [hnil] at hlast
      cases hlast
    have hnot := List.rdropWhile_last_not (· == c) s.toList hne
    rw [List.getLast?_eq_some_getLast hne, Option.some_inj] at hlast
    exact hnot (beq_iff_eq.2 hlast)

theorem trimEnd_of_getLast?_ne {c : Char} {s : String} (h : s.toList.getLast? ≠ some c) :
    trimEnd c s = s := by
  have hself : s.toList.rdropWhile (· == c) = s.toList := by
    rw [List.rdropWhile_eq_self_iff]
    intro hne hlast
    apply h
    rw [List.getLast?_eq_some_getLast hne, beq_iff_eq.1 hlast]
  rw [trimEnd, dropEndWhile_eq_rdropWhile, hself, String.ofList_toList]

end Text

open Text (copies IsTrimmed trimEnd trimStart)

/-! ### Endpoints -/

theorem RestRoot.endpoint_copies_append (r : RestRoot) (path : String)
    (pairs : List (String × String)) (n : Nat) :
    r.endpoint (copies '/' n ++ path) pairs = r.endpoint path pairs := by
  rw [endpoint, endpoint, Text.trimStart_copies_append]

theorem meetingUrl_of_getLast?_ne {wsBase : String} (h : wsBase.toList.getLast? ≠ some '/')
    (symbol query : String) :
    meetingUrl wsBase symbol query =
      addressOf (wsBase ++ "/" ++ "ws/meeting") [("symbol_key", symbol), ("query", query)] := by
  have hpath : wsBase ++ "/ws/meeting" = wsBase ++ "/" ++ "ws/meeting" := by
    rw [String.append_assoc]
    rfl
  rw [meetingUrl, Text.trimEnd_of_getLast?_ne h, hpath]

namespace Config

/-! ### The base of the event stream -/

theorem afterStart?_eq_some_iff {start s rest : String} :
    afterStart? start s = some rest ↔ s = start ++ rest := by
  rw [afterStart?, ← String.length_toList]
  constructor
  · intro h
    split at h
    · rename_i hstart
      obtain ⟨tail, htail⟩ := List.isPrefixOf_iff_prefix.1 hstart
      rw [← htail, List.drop_left, Option.some_inj] at h
      rw [← String.toList_inj, String.toList_append, ← h, String.toList_ofList, htail]
    · cases h
  · rintro rfl
    have hstart : start.toList.isPrefixOf (start ++ rest).toList = true := by
      rw [List.isPrefixOf_iff_prefix, String.toList_append]
      exact List.prefix_append _ _
    rw [if_pos hstart, String.toList_append, List.drop_left, String.ofList_toList]

/-- Texts with different starts are different. -/
theorem append_ne_append {s t : String} (i : Nat) (hs : i < s.toList.length)
    (ht : i < t.toList.length) (hdiffer : s.toList[i]? ≠ t.toList[i]?) (rest other : String) :
    s ++ rest ≠ t ++ other := by
  intro h
  have hlist := congrArg (fun text : String => text.toList[i]?) h
  simp only [String.toList_append, List.getElem?_append_left hs,
    List.getElem?_append_left ht] at hlist
  exact hdiffer hlist

theorem https_append_ne_http_append (rest other : String) :
    "https://" ++ rest ≠ "http://" ++ other :=
  append_ne_append 4 (by decide) (by decide) (by decide) rest other

theorem wss_append_ne_ws_append (rest other : String) : "wss://" ++ rest ≠ "ws://" ++ other :=
  append_ne_append 2 (by decide) (by decide) (by decide) rest other

/-- The two kinds of base addresses that the event stream goes with. -/
theorem wsBase_eq_ok_iff {c : Config} (hunset : c.wsUrl = none) {w : String} :
    c.wsBase = .ok w ↔
      (∃ rest, c.restBase = "https://" ++ rest ∧ w = "wss://" ++ rest) ∨
        ∃ rest, c.restBase = "http://" ++ rest ∧ w = "ws://" ++ rest := by
  have hstarts : ∀ start rest : String,
      c.restBase = start ++ rest ↔ afterStart? start c.restBase = some rest :=
    fun _ _ => afterStart?_eq_some_iff.symm
  rw [wsBase, hunset]
  simp only [hstarts]
  cases hsecure : afterStart? "https://" c.restBase with
  | some rest =>
    -- an address with the one start does not have the other
    have hplain : afterStart? "http://" c.restBase = none := by
      refine Option.eq_none_iff_forall_ne_some.2 ?_
      intro other hother
      rw [afterStart?_eq_some_iff] at hsecure hother
      exact https_append_ne_http_append rest other (hsecure.symm.trans hother)
    rw [hplain]
    simp [eq_comm]
  | none =>
    cases hplain : afterStart? "http://" c.restBase with
    | some rest => simp [eq_comm]
    | none => simp

theorem exists_wsBase_iff {c : Config} (hunset : c.wsUrl = none) :
    (∃ w, c.wsBase = .ok w) ↔
      (∃ rest, c.restBase = "http://" ++ rest) ∨ ∃ rest, c.restBase = "https://" ++ rest := by
  simp only [wsBase_eq_ok_iff hunset]
  constructor
  · rintro ⟨w, ⟨rest, hrest, -⟩ | ⟨rest, hrest, -⟩⟩
    · exact .inr ⟨rest, hrest⟩
    · exact .inl ⟨rest, hrest⟩
  · rintro (⟨rest, hrest⟩ | ⟨rest, hrest⟩)
    · exact ⟨_, .inr ⟨rest, hrest, rfl⟩⟩
    · exact ⟨_, .inl ⟨rest, hrest, rfl⟩⟩

/-- What follows a scheme with its slashes is kept to its last character. -/
theorem getLast?_of_trimmed {s scheme rest : String} (htrimmed : s.toList.getLast? ≠ some '/')
    (hscheme : scheme.toList.getLast? = some '/') (hs : s = scheme ++ rest) :
    rest ≠ "" ∧ ∀ other : String, (other ++ rest).toList.getLast? ≠ some '/' := by
  have hrest : rest ≠ "" := by
    rintro rfl
    rw [hs, String.append_empty] at htrimmed
    exact htrimmed hscheme
  have hlast : ∀ start : String, (start ++ rest).toList.getLast? = rest.toList.getLast? := by
    intro start
    have hne : rest.toList ≠ [] := fun h => hrest (String.toList_eq_nil_iff.1 h)
    rw [String.toList_append, List.getLast?_append_of_ne_nil _ hne]
  refine ⟨hrest, ?_⟩
  intro other
  rw [hlast other, ← hlast scheme, ← hs]
  exact htrimmed

/-- The base of the event stream keeps what follows the scheme. -/
theorem kept_of_wsBase {c : Config} (hunset : c.wsUrl = none) {w : String} (hw : c.wsBase = .ok w) :
    (∃ tail rest, c.restBase = "http" ++ tail ∧ w = "ws" ++ tail ∧
        (tail = "://" ++ rest ∨ tail = "s://" ++ rest) ∧ rest ≠ "") ∧
      ((∃ rest, w = "wss://" ++ rest) ↔ ∃ rest, c.restBase = "https://" ++ rest) ∧
      w.toList.getLast? ≠ some '/' := by
  have htrimmed : c.restBase.toList.getLast? ≠ some '/' :=
    (Text.isTrimmed_trimEnd '/' c.baseUrl).last
  rcases (wsBase_eq_ok_iff hunset).1 hw with ⟨rest, hrest, rfl⟩ | ⟨rest, hrest, rfl⟩
  · obtain ⟨hne, hlast⟩ := getLast?_of_trimmed htrimmed (by decide) hrest
    refine ⟨⟨"s://" ++ rest, rest, ?_, ?_, .inr rfl, hne⟩, ?_, hlast _⟩
    · rw [hrest, ← String.append_assoc]
      rfl
    · rw [← String.append_assoc]
      rfl
    · exact iff_of_true ⟨rest, rfl⟩ ⟨rest, hrest⟩
  · obtain ⟨hne, hlast⟩ := getLast?_of_trimmed htrimmed (by decide) hrest
    refine ⟨⟨"://" ++ rest, rest, ?_, ?_, .inl rfl, hne⟩, iff_of_false ?_ ?_, hlast _⟩
    · rw [hrest, ← String.append_assoc]
      rfl
    · rw [← String.append_assoc]
      rfl
    · rintro ⟨other, hother⟩
      exact wss_append_ne_ws_append other rest hother.symm
    · rintro ⟨other, hother⟩
      exact https_append_ne_http_append other rest (hother.symm.trans hrest)

theorem wsBase_of_wsUrl {c : Config} {url : String} (hset : c.wsUrl = some url) :
    c.wsBase = .ok (trimEnd '/' url) := by
  rw [wsBase, hset]

theorem wsBase_congr {c d : Config} (hrest : d.restBase = c.restBase) (hset : d.wsUrl = c.wsUrl)
    {w : String} : d.wsBase = .ok w ↔ c.wsBase = .ok w := by
  cases hurl : c.wsUrl with
  | some url => rw [wsBase_of_wsUrl hurl, wsBase_of_wsUrl (hset.trans hurl)]
  | none => rw [wsBase_eq_ok_iff hurl, wsBase_eq_ok_iff (hset.trans hurl), hrest]

end Config

/-- **Slashes at the end of a base address make no difference**, nor do slashes at
    the start of a path.  Without an address of its own the event stream goes with
    a base that starts like the web, plain or secure: the scheme is replaced, what
    follows it is kept and is not empty, and one slash stands before the path of
    the stream.  An address of its own is trimmed, and the base has no part in it. -/
theorem base_address_normalised (c : Config) (n : Nat) :
    let longer : Config := { c with baseUrl := c.baseUrl ++ copies '/' n }
    (IsTrimmed '/' c.baseUrl c.restBase ∧ longer.restBase = c.restBase ∧
      (RestRoot.new c.baseUrl).base = c.restBase ∧
      RestRoot.new longer.baseUrl = RestRoot.new c.baseUrl ∧
      RestRoot.ofConfig c = RestRoot.new c.baseUrl ∧
      RestRoot.ofConfig longer = RestRoot.ofConfig c) ∧
    (∀ path pairs, (RestRoot.new longer.baseUrl).endpoint path pairs =
      (RestRoot.new c.baseUrl).endpoint path pairs) ∧
    (∀ (r : RestRoot) path pairs m,
      r.endpoint (copies '/' m ++ path) pairs = r.endpoint path pairs) ∧
    (longer.wsBase = c.wsBase ∨
      ∃ why why', c.wsBase = .error why ∧ longer.wsBase = .error why') ∧
    (c.wsUrl = none →
      ((∃ w, c.wsBase = .ok w) ↔
        (∃ rest, c.restBase = "http://" ++ rest) ∨ ∃ rest, c.restBase = "https://" ++ rest) ∧
      ∀ w, c.wsBase = .ok w →
        (∃ tail rest, c.restBase = "http" ++ tail ∧ w = "ws" ++ tail ∧
          (tail = "://" ++ rest ∨ tail = "s://" ++ rest) ∧ rest ≠ "") ∧
        ((∃ rest, w = "wss://" ++ rest) ↔ ∃ rest, c.restBase = "https://" ++ rest) ∧
        w.toList.getLast? ≠ some '/' ∧
        ∀ symbol query, meetingUrl w symbol query =
          addressOf (w ++ "/" ++ "ws/meeting") [("symbol_key", symbol), ("query", query)]) ∧
    ∀ url, c.wsUrl = some url →
      ∃ w, IsTrimmed '/' url w ∧ ∀ base, { c with baseUrl := base }.wsBase = .ok w := by
  intro longer
  have hrest : longer.restBase = c.restBase := Text.trimEnd_append_copies '/' c.baseUrl n
  have htrimmed : IsTrimmed '/' c.baseUrl c.restBase := Text.isTrimmed_trimEnd '/' c.baseUrl
  have hroot : RestRoot.new longer.baseUrl = RestRoot.new c.baseUrl := congrArg RestRoot.mk hrest
  refine ⟨⟨htrimmed, hrest, rfl, hroot, rfl, congrArg RestRoot.mk hrest⟩, ?_, ?_, ?_, ?_, ?_⟩
  · intro path pairs
    rw [hroot]
  · intro r path pairs m
    exact r.endpoint_copies_append path pairs m
  · have hsame : ∀ w, longer.wsBase = .ok w ↔ c.wsBase = .ok w :=
      fun _ => Config.wsBase_congr hrest rfl
    cases hbase : c.wsBase with
    | ok w => exact .inl ((hsame w).2 hbase)
    | error why =>
      cases hlonger : longer.wsBase with
      | ok w =>
        rw [(hsame w).1 hlonger] at hbase
        cases hbase
      | error why' => exact .inr ⟨why, why', rfl, rfl⟩
  · intro hunset
    refine ⟨Config.exists_wsBase_iff hunset, ?_⟩
    intro w hw
    obtain ⟨hkept, hsecure, hlast⟩ := Config.kept_of_wsBase hunset hw
    exact ⟨hkept, hsecure, hlast, meetingUrl_of_getLast?_ne hlast⟩
  · intro url hset
    refine ⟨trimEnd '/' url, Text.isTrimmed_trimEnd '/' url, ?_⟩
    intro base
    exact Config.wsBase_of_wsUrl hset

end MeetingRoom
