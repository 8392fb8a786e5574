/-
  MeetingRoom/Proofs/Server/Parameters.lean
  =========================================
  **Symbol and question travel in the query, and nowhere else.**

  A base without question mark and number sign gives an address without query
  and fragment, whatever path is put after it.  The parameters are then the whole
  query, written as a form, which is read back as what was put in; the rest of the
  address does not depend on them (`travelInQuery_addressOf`).
-/
import MeetingRoom.Proofs.Json.ReadBack
import MeetingRoom.Proofs.Server.BaseAddress
import MeetingRoom.Proofs.Text.FormEncoding

namespace MeetingRoom

open Json (bind_eq_ok)
open Text (cut)

/-! ### Addresses without query and fragment -/

/-- The text has no sign that starts a query or a fragment. -/
def Unmarked (raw : String) : Prop := ∀ c ∈ raw.toList, c ≠ '?' ∧ c ≠ '#'

instance (raw : String) : Decidable (Unmarked raw) :=
  List.decidableBAll (fun c => c ≠ '?' ∧ c ≠ '#') raw.toList

theorem Unmarked.append {raw more : String} (hraw : Unmarked raw) (hmore : Unmarked more) :
    Unmarked (raw ++ more) := by
  intro c hc
  rw [String.toList_append] at hc
  rcases List.mem_append.1 hc with hc | hc
  · exact hraw c hc
  · exact hmore c hc

theorem Unmarked.trimEnd {raw : String} (hraw : Unmarked raw) (c : Char) :
    Unmarked (Text.trimEnd c raw) := by
  obtain ⟨n, hparts⟩ := (Text.isTrimmed_trimEnd c raw).parts
  intro x hx
  apply hraw x
  rw [hparts, String.toList_append]
  exact List.mem_append_left _ hx

namespace Url

theorem mem_of_mem_cleaned {raw : String} {c : Char} (h : c ∈ cleaned raw) : c ∈ raw.toList := by
  obtain ⟨before, after, hparts, -, -⟩ :=
    Text.exists_eq_append_stripWhile isEdge raw.toList
  have hstripped : c ∈ Text.stripWhile isEdge raw.toList := (List.mem_filter.1 h).1
  rw [hparts]
  exact List.mem_append_left _ (List.mem_append_right _ hstripped)

theorem query_and_fragment_of_parse {raw : String} (hraw : Unmarked raw) {url : Url}
    (h : parse raw = .ok url) : url.query = none ∧ url.fragment = none := by
  have hhash : cut (· == '#') (cleaned raw) = (cleaned raw, none) := by
    refine Text.cut_of_none _ _ ?_
    intro c hc
    exact beq_eq_false_iff_ne.2 (hraw c (mem_of_mem_cleaned hc)).2
  have hmark : cut (· == '?') (cleaned raw) = (cleaned raw, none) := by
    refine Text.cut_of_none _ _ ?_
    intro c hc
    exact beq_eq_false_iff_ne.2 (hraw c (mem_of_mem_cleaned hc)).1
  rw [parse, hhash] at h
  dsimp only at h
  rw [hmark] at h
  dsimp only at h
  split at h
  · cases h
  · obtain ⟨parts, -, hurl⟩ := bind_eq_ok.1 h
    obtain rfl := Except.ok.inj hurl
    exact ⟨rfl, rfl⟩

/-! ### What an address carries -/

/-- The pairs are what the query of the address says as a form, and the query is
    the last part of the address. -/
structure Carries (url : Url) (pairs : List (String × String)) : Prop where
  query : ∃ q, url.query = some q ∧ Text.FormEncoding.decode q = .ok pairs ∧
    (∀ c ∈ q, c ≠ '#') ∧ url.text = String.ofList (url.baseText ++ '?' :: q)

/-- Scheme, host, number of the service, user, path and fragment are the same. -/
structure AgreesBesideQuery (u v : Url) : Prop where
  scheme : u.scheme = v.scheme
  authority : u.authority = v.authority
  path : u.path = v.path
  fragment : u.fragment = v.fragment

theorem carries_withPairs {url : Url} (hquery : url.query = none) (hfragment : url.fragment = none)
    (pairs : List (String × String)) : (url.withPairs pairs).Carries pairs := by
  refine ⟨Text.FormEncoding.encode pairs, ?_, Text.FormEncoding.decode_encode pairs, ?_, ?_⟩
  · rw [withPairs, hquery]
    rfl
  · intro c hc
    exact Text.FormEncoding.ne_hash_of_mem_encode hc
  · rw [text, withPairs, hquery, hfragment]
    simp only [marked, List.append_nil]
    rfl

theorem agreesBesideQuery_withPairs (url : Url) (pairs pairs' : List (String × String)) :
    (url.withPairs pairs).AgreesBesideQuery (url.withPairs pairs') := ⟨rfl, rfl, rfl, rfl⟩

theorem Carries.eq_of_query_eq {u v : Url} {pairs pairs' : List (String × String)}
    (hu : u.Carries pairs) (hv : v.Carries pairs') (h : u.query = v.query) : pairs = pairs' := by
  obtain ⟨q, hq, hpairs, -⟩ := hu.query
  obtain ⟨q', hq', hpairs', -⟩ := hv.query
  obtain rfl : q = q' := Option.some.inj (hq.symm.trans (h.trans hq'))
  exact Except.ok.inj (hpairs.symm.trans hpairs')

end Url

/-! ### Addresses with parameters -/

/-- The address of some parameters carries their pairs.  Other parameters have an
    address as well, which differs in the query and in nothing else. -/
def TravelInQuery {α : Type} (pairs : α → List (String × String))
    (address : α → Except ConfigProblem Url) : Prop :=
  ∀ x url, address x = .ok url →
    url.Carries (pairs x) ∧
      ∀ y, ∃ other, address y = .ok other ∧ other.AgreesBesideQuery url ∧
        (y ≠ x → other.query ≠ url.query)

theorem addressOf_eq_ok_iff {raw : String} {pairs : List (String × String)} {url : Url} :
    addressOf raw pairs = .ok url ↔
      ∃ bare, Url.parse raw = .ok bare ∧ url = bare.withPairs pairs := by
  rw [addressOf]
  cases Url.parse raw with
  | ok bare => simp [eq_comm]
  | error why => simp

theorem travelInQuery_addressOf {raw : String} (hraw : Unmarked raw) {α : Type}
    {pairs : α → List (String × String)} (hpairs : Function.Injective pairs) :
    TravelInQuery pairs fun x => addressOf raw (pairs x) := by
  intro x url h
  obtain ⟨bare, hbare, rfl⟩ := addressOf_eq_ok_iff.1 h
  obtain ⟨hquery, hfragment⟩ := Url.query_and_fragment_of_parse hraw hbare
  have hcarries := Url.carries_withPairs hquery hfragment
  refine ⟨hcarries (pairs x), ?_⟩
  intro y
  refine ⟨bare.withPairs (pairs y), addressOf_eq_ok_iff.2 ⟨bare, hbare, rfl⟩,
    bare.agreesBesideQuery_withPairs _ _, ?_⟩
  intro hne hsame
  exact hne (hpairs ((hcarries (pairs y)).eq_of_query_eq (hcarries (pairs x)) hsame))

def symbolPairs (symbol : String) : List (String × String) := [("symbol_key", symbol)]

def questionPairs (asked : String × String) : List (String × String) :=
  [("symbol_key", asked.1), ("query", asked.2)]

theorem symbolPairs_injective : Function.Injective symbolPairs := by
  intro s t h
  simpa [symbolPairs] using h

theorem questionPairs_injective : Function.Injective questionPairs := by
  intro s t h
  obtain ⟨hsymbol, hquestion⟩ : s.1 = t.1 ∧ s.2 = t.2 := by simpa [questionPairs] using h
  exact Prod.ext hsymbol hquestion

theorem travelInQuery_endpoint {r : RestRoot} (hbase : Unmarked r.base) {path : String}
    (hpath : Unmarked ("/" ++ Text.trimStart '/' path)) {α : Type}
    {pairs : α → List (String × String)} (hpairs : Function.Injective pairs) :
    TravelInQuery pairs fun x => r.endpoint path (pairs x) := by
  refine travelInQuery_addressOf ?_ hpairs
  rw [String.append_assoc]
  exact hbase.append hpath

/-- **What the user types stays within the query.**  For a base without question
    mark and number sign, the address of an event stream and those of the two
    requests carry symbol and question as the whole query, in this order, and agree
    in everything else with the addresses of any other symbol and question. -/
theorem parameters_travel_in_query {base : String} (hbase : Unmarked base) :
    TravelInQuery questionPairs (fun asked => meetingUrl base asked.1 asked.2) ∧
      ∀ r ∈ [RestRoot.mk base, RestRoot.new base],
        TravelInQuery questionPairs (fun asked =>
            r.endpoint "meeting/start" (questionPairs asked)) ∧
          TravelInQuery symbolPairs fun symbol =>
            r.endpoint "meeting/history" (symbolPairs symbol) := by
  constructor
  · exact travelInQuery_addressOf ((hbase.trimEnd '/').append (by decide)) questionPairs_injective
  · intro r hr
    have hroot : Unmarked r.base := by
      simp only [List.mem_cons, List.not_mem_nil, or_false] at hr
      rcases hr with rfl | rfl
      · exact hbase
      · exact hbase.trimEnd '/'
    exact ⟨travelInQuery_endpoint hroot (by decide) questionPairs_injective,
      travelInQuery_endpoint hroot (by decide) symbolPairs_injective⟩

/-- A question full of separators is carried whole. -/
theorem carries_separators :
    Unmarked "http://[::1]:8000/api" ∧
      ∃ url, meetingUrl "http://[::1]:8000/api" "A&query=b" "1+1=2 #%26?老" = .ok url ∧
        url.Carries [("symbol_key", "A&query=b"), ("query", "1+1=2 #%26?老")] := by
  have hbase : Unmarked "http://[::1]:8000/api" := by decide
  have hok : (meetingUrl "http://[::1]:8000/api" "A&query=b" "1+1=2 #%26?老").isOk = true := by
    decide +kernel
  refine ⟨hbase, ?_⟩
  cases h : meetingUrl "http://[::1]:8000/api" "A&query=b" "1+1=2 #%26?老" with
  | error why =>
    rw [h] at hok
    cases hok
  | ok url =>
    exact ⟨url, rfl, ((parameters_travel_in_query hbase).1 ("A&query=b", "1+1=2 #%26?老") url h).1⟩

end MeetingRoom
