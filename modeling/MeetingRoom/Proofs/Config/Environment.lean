/-
  MeetingRoom/Proofs/Config/Environment.lean
  ==========================================
  **The environment has precedence over the settings file.**

  The variables of the environment are applied one after the other to the
  settings so far.  What comes of it depends on two values only, the last one
  given for each of the two addresses (`applyEnvironment_eq`), and an empty value
  is not given at all.  So the order of variables with different names does not
  matter, nor does applying them again.

  The base of the event stream is decided by both layers: it goes with the base
  address of the environment unless the file or the environment gives the stream
  an address of its own.
-/
import Mathlib.Data.List.Induction
import MeetingRoom.Config.File
import MeetingRoom.Proofs.Json.ReadBack
import MeetingRoom.Proofs.Server.BaseAddress

namespace MeetingRoom

open Json (bind_eq_ok mapError_eq_ok)
open Text (trimEnd)

namespace Config

/-! ### Given values -/

/-- The value that a variable gives for a name; an empty value is not given. -/
def given? (name : String) (e : String × String) : Option String :=
  if e.1 = name ∧ e.2 ≠ "" then some e.2 else none

/-- The last value that the environment gives for a name. -/
def lastGiven? (name : String) (es : List (String × String)) : Option String :=
  (es.filterMap (given? name)).getLast?

theorem lastGiven?_append (name : String) (es fs : List (String × String)) :
    lastGiven? name (es ++ fs) = (lastGiven? name fs).or (lastGiven? name es) := by
  rw [lastGiven?, List.filterMap_append, List.getLast?_append]
  rfl

theorem lastGiven?_singleton (name : String) (e : String × String) :
    lastGiven? name [e] = given? name e := by
  cases h : given? name e <;> simp [lastGiven?, h]

/-! ### The order of variables -/

/-- The two sequences differ at most in how variables with different names are
    interleaved. -/
def SameByName (es fs : List (String × String)) : Prop :=
  ∀ name, (es.filter fun e => e.1 = name) = fs.filter fun e => e.1 = name

theorem sameByName_swap {a b : String × String} (h : a.1 ≠ b.1)
    (before after : List (String × String)) :
    SameByName (before ++ a :: b :: after) (before ++ b :: a :: after) := by
  intro name
  simp only [List.filter_append, List.filter_cons]
  by_cases ha : a.1 = name
  · have hb : b.1 ≠ name := fun hb => h (ha.trans hb.symm)
    simp [ha, hb]
  · simp [ha]

theorem lastGiven?_filter (name : String) (es : List (String × String)) :
    lastGiven? name (es.filter fun e => e.1 = name) = lastGiven? name es := by
  rw [lastGiven?, List.filterMap_filter, lastGiven?]
  have hgiven : (fun e => if (decide (e.1 = name)) = true then given? name e else none) =
      given? name := by
    funext e
    by_cases h : e.1 = name <;> simp [given?, h]
  rw [hgiven]

theorem SameByName.lastGiven?_eq {es fs : List (String × String)} (h : SameByName es fs)
    (name : String) : lastGiven? name es = lastGiven? name fs := by
  rw [← lastGiven?_filter, h name, lastGiven?_filter]

/-! ### Applying the environment -/

theorem setVariable_eq (c : Config) (e : String × String) :
    c.setVariable e =
      { c with
        baseUrl := (given? baseUrlVariable e).getD c.baseUrl
        wsUrl := (given? wsUrlVariable e).or c.wsUrl } := by
  have hnames : baseUrlVariable ≠ wsUrlVariable := by decide
  obtain ⟨name, value⟩ := e
  rw [setVariable]
  by_cases hempty : value = ""
  · simp [given?, hempty]
  · have hisEmpty : value.isEmpty = false := by simpa using hempty
    by_cases hbase : name = baseUrlVariable
    · simp [given?, hempty, hbase, hnames]
    · by_cases hws : name = wsUrlVariable
      · simp [given?, hempty, hws, hnames.symm]
      · simp [given?, hbase, hws]

/-- The environment counts by its last values. -/
theorem applyEnvironment_eq (c : Config) (es : List (String × String)) :
    c.applyEnvironment es =
      { c with
        baseUrl := (lastGiven? baseUrlVariable es).getD c.baseUrl
        wsUrl := (lastGiven? wsUrlVariable es).or c.wsUrl } := by
  induction es using List.reverseRecOn with
  | nil => rfl
  | append_singleton es e ih =>
    have hstep : c.applyEnvironment (es ++ [e]) = (c.applyEnvironment es).setVariable e := by
      rw [applyEnvironment, List.foldl_append]
      rfl
    -- what the last variable gives comes before what the others gave
    rw [hstep, ih, setVariable_eq]
    simp only [lastGiven?_append, lastGiven?_singleton, Option.getD_or, Option.or_assoc]

theorem applyEnvironment_append (c : Config) (es fs : List (String × String)) :
    c.applyEnvironment (es ++ fs) = (c.applyEnvironment es).applyEnvironment fs :=
  List.foldl_append

theorem applyEnvironment_twice (c : Config) (es : List (String × String)) :
    (c.applyEnvironment es).applyEnvironment es = c.applyEnvironment es := by
  -- a value that was given last before is the one given last again
  rw [← applyEnvironment_append, applyEnvironment_eq, applyEnvironment_eq c es,
    lastGiven?_append, lastGiven?_append, Option.or_self, Option.or_self]

theorem SameByName.applyEnvironment_eq {es fs : List (String × String)} (h : SameByName es fs)
    (c : Config) : c.applyEnvironment fs = c.applyEnvironment es := by
  rw [Config.applyEnvironment_eq, Config.applyEnvironment_eq, h.lastGiven?_eq, h.lastGiven?_eq]

/-! ### The file -/

/-- The settings file defines the name. -/
def FileDefines (name : String) : Option (String × FileContent) → Prop
  | some (_, .ok bytes) =>
    ∃ text definitions, Text.Utf8.decode bytes = .ok text ∧
      Toml.parse? text = some definitions ∧ ∃ d ∈ definitions, d.1 = name
  | _ => False

/-- A setting that is no address of the stream leaves that address. -/
theorem wsUrl_of_bind {α : Type} {read : Except SettingsProblem α} {put : α → Config}
    {c c' : Config} (h : (read >>= fun a => .ok (put a)) = .ok c')
    (hput : ∀ a, (put a).wsUrl = c.wsUrl) : c'.wsUrl = c.wsUrl := by
  obtain ⟨a, -, hc⟩ := bind_eq_ok.1 h
  cases hc
  exact hput a

theorem wsUrl_of_set {c c' : Config} {d : String × Toml.Node} (h : c.set d = .ok c') :
    c'.wsUrl = none ↔ c.wsUrl = none ∧ d.1 ≠ "ws_url" := by
  simp only [set] at h
  by_cases hws : d.1 = "ws_url"
  · rw [if_neg (by rw [hws]; decide), if_pos hws] at h
    obtain ⟨url, -, hc⟩ := bind_eq_ok.1 h
    cases hc
    simp [hws]
  · have hkept : c'.wsUrl = c.wsUrl := by
      rw [if_neg hws] at h
      split at h
      · exact wsUrl_of_bind h fun _ => rfl
      · split at h
        · exact wsUrl_of_bind h fun _ => rfl
        · split at h
          · exact wsUrl_of_bind h fun _ => rfl
          · cases h
            rfl
    simp [hkept, hws]

theorem wsUrl_of_foldlM_set {definitions : List (String × Toml.Node)} {c c' : Config}
    (h : definitions.foldlM set c = .ok c') :
    c'.wsUrl = none ↔ c.wsUrl = none ∧ ¬ ∃ d ∈ definitions, d.1 = "ws_url" := by
  induction definitions generalizing c with
  | nil =>
    cases h
    simp
  | cons d rest ih =>
    rw [List.foldlM_cons] at h
    obtain ⟨next, hset, hrest⟩ := bind_eq_ok.1 h
    rw [ih hrest, wsUrl_of_set hset]
    simp [and_assoc]

/-- A file that can be used gives the stream an address if and only if it defines
    one. -/
theorem wsUrl_of_ofFile {path : String} {content : FileContent} {c : Config}
    (h : ofFile path content = .ok c) :
    c.wsUrl = none ↔ ¬ FileDefines "ws_url" (some (path, content)) := by
  obtain ⟨bytes, hbytes, hc⟩ := bind_eq_ok.1 h
  obtain rfl := mapError_eq_ok.1 hbytes
  cases htext : Text.Utf8.decode bytes with
  | error _ => simp [htext] at hc
  | ok text =>
    simp only [htext] at hc
    have hparsed := mapError_eq_ok.1 hc
    rw [ofText] at hparsed
    cases hdefinitions : Toml.parse? text with
    | none => simp [hdefinitions] at hparsed
    | some definitions =>
      simp only [hdefinitions] at hparsed
      rw [wsUrl_of_foldlM_set hparsed]
      simp [FileDefines, htext, hdefinitions]

theorem load_eq_map (file : Option (String × FileContent)) (es : List (String × String)) :
    load file es = (load file []).map fun start => start.applyEnvironment es := by
  cases file with
  | none => rfl
  | some given =>
    obtain ⟨path, content⟩ := given
    simp only [load]
    cases ofFile path content <;> rfl

theorem wsUrl_of_load {file : Option (String × FileContent)} {c : Config}
    (h : load file [] = .ok c) : c.wsUrl = none ↔ ¬ FileDefines "ws_url" file := by
  cases file with
  | none =>
    cases h
    simp [FileDefines, applyEnvironment]
  | some given =>
    obtain ⟨path, content⟩ := given
    obtain ⟨start, hstart, hc⟩ := bind_eq_ok.1 h
    cases hc
    exact wsUrl_of_ofFile hstart

/-! ### The base of the event stream -/

/-- The base of the event stream is derived from the base address that the
    environment gives, whichever that is, as long as what the environment says of
    the stream itself stays. -/
def StreamFollowsBase (c : Config) (es : List (String × String)) : Prop :=
  ∀ fs base, lastGiven? wsUrlVariable fs = lastGiven? wsUrlVariable es →
    lastGiven? baseUrlVariable fs = some base →
      (c.applyEnvironment fs).wsBase = ({ baseUrl := base } : Config).wsBase

theorem wsBase_eq_of_unset {c : Config} (h : c.wsUrl = none) :
    c.wsBase = ({ baseUrl := c.baseUrl } : Config).wsBase := by
  have hrest : ({ baseUrl := c.baseUrl } : Config).restBase = c.restBase := rfl
  rw [wsBase, wsBase, h, hrest]

theorem wsUrl_applyEnvironment (c : Config) (es : List (String × String)) :
    (c.applyEnvironment es).wsUrl = (lastGiven? wsUrlVariable es).or c.wsUrl := by
  rw [applyEnvironment_eq]

theorem streamFollowsBase_iff (c : Config) (es : List (String × String)) :
    StreamFollowsBase c es ↔ c.wsUrl = none ∧ lastGiven? wsUrlVariable es = none := by
  constructor
  · intro h
    -- a base address without a scheme is none that a stream goes with
    have hnostream : ∀ w, ({ baseUrl := "x" } : Config).wsBase ≠ .ok w := by
      have hrest : ({ baseUrl := "x" } : Config).restBase = "x" := by decide
      have hsecure : afterStart? "https://" "x" = none := by decide
      have hplain : afterStart? "http://" "x" = none := by decide
      simp [wsBase, hrest, hsecure, hplain]
    have hstream : lastGiven? wsUrlVariable (es ++ [(baseUrlVariable, "x")]) =
        lastGiven? wsUrlVariable es := by
      have hnone : given? wsUrlVariable (baseUrlVariable, "x") = none := by decide
      rw [lastGiven?_append, lastGiven?_singleton, hnone, Option.none_or]
    have hbase : lastGiven? baseUrlVariable (es ++ [(baseUrlVariable, "x")]) = some "x" := by
      have hsome : given? baseUrlVariable (baseUrlVariable, "x") = some "x" := by decide
      rw [lastGiven?_append, lastGiven?_singleton, hsome, Option.some_or]
    have hfollows := h _ "x" hstream hbase
    cases hurl : (c.applyEnvironment (es ++ [(baseUrlVariable, "x")])).wsUrl with
    | some url =>
      rw [wsBase_of_wsUrl hurl] at hfollows
      exact absurd hfollows.symm (hnostream _)
    | none =>
      rw [wsUrl_applyEnvironment, hstream, Option.or_eq_none_iff] at hurl
      exact hurl.symm
  · rintro ⟨hfile, hes⟩ fs base hstream hbase
    have hunset : (c.applyEnvironment fs).wsUrl = none := by
      rw [wsUrl_applyEnvironment, hstream, hes, hfile]
      rfl
    have hgiven : (c.applyEnvironment fs).baseUrl = base := by
      rw [applyEnvironment_eq, hbase]
      rfl
    rw [wsBase_eq_of_unset hunset, hgiven]

/-- **The environment has precedence.**  The two addresses are the last values that
    the environment gives for them, or else those of the settings it is applied to;
    the rest stays.  So the environment may be applied again, or in parts one after
    the other, and the order of variables with different names is no matter.  The
    base of the event stream follows the base address of the environment if and only
    if neither the file nor the environment gives the stream an address of its own;
    otherwise that address counts. -/
theorem environment_overrides_file (c : Config) (es : List (String × String)) :
    ((c.applyEnvironment es).baseUrl = (lastGiven? baseUrlVariable es).getD c.baseUrl ∧
      (c.applyEnvironment es).wsUrl = (lastGiven? wsUrlVariable es).or c.wsUrl ∧
      (c.applyEnvironment es).requestTimeout = c.requestTimeout ∧
      (c.applyEnvironment es).userName = c.userName) ∧
    (c.applyEnvironment es).applyEnvironment es = c.applyEnvironment es ∧
    (∀ fs, c.applyEnvironment (es ++ fs) = (c.applyEnvironment es).applyEnvironment fs) ∧
    (∀ fs, SameByName es fs → c.applyEnvironment fs = c.applyEnvironment es) ∧
    (∀ before a b after, es = before ++ a :: b :: after → a.1 ≠ b.1 →
      c.applyEnvironment (before ++ b :: a :: after) = c.applyEnvironment es) ∧
    (StreamFollowsBase c es ↔ c.wsUrl = none ∧ lastGiven? wsUrlVariable es = none) ∧
    (∀ url, (lastGiven? wsUrlVariable es).or c.wsUrl = some url →
      (c.applyEnvironment es).wsBase = .ok (trimEnd '/' url)) ∧
    ∀ file, load file [] = .ok c →
      load file es = .ok (c.applyEnvironment es) ∧
        (c.wsUrl = none ↔ ¬ FileDefines "ws_url" file) := by
  refine ⟨?_, c.applyEnvironment_twice es, c.applyEnvironment_append es, ?_, ?_,
    c.streamFollowsBase_iff es, ?_, ?_⟩
  · rw [applyEnvironment_eq]
    exact ⟨rfl, rfl, rfl, rfl⟩
  · intro fs h
    exact h.applyEnvironment_eq c
  · rintro before a b after rfl h
    exact (sameByName_swap h before after).applyEnvironment_eq c
  · intro url h
    exact wsBase_of_wsUrl ((c.wsUrl_applyEnvironment es).trans h)
  · intro file hfile
    refine ⟨?_, wsUrl_of_load hfile⟩
    rw [load_eq_map, hfile]
    rfl

/-- An address of the stream in the file outlasts an empty variable for it, and a
    base address in the environment. -/
theorem streamOfFile_outlasts_environment :
    let file : Option (String × FileContent) :=
      some ("meeting.toml", .ok "ws_url = 'ws://stream/'".toUTF8.toList)
    let c : Config := { wsUrl := some "ws://stream/" }
    let es := [(baseUrlVariable, "http://base"), (wsUrlVariable, "")]
    load file [] = .ok c ∧ load file es = .ok (c.applyEnvironment es) ∧
      (c.applyEnvironment es).baseUrl = "http://base" ∧
      (c.applyEnvironment es).wsBase = .ok (trimEnd '/' "ws://stream/") := by
  intro file c es
  have hfile : load (some ("meeting.toml", .ok "ws_url = 'ws://stream/'".toUTF8.toList)) [] =
      .ok { wsUrl := some "ws://stream/" } := by decide +kernel
  obtain ⟨⟨hbase, -⟩, -, -, -, -, -, hstream, hload⟩ := environment_overrides_file c es
  exact ⟨hfile, (hload file hfile).1, hbase, hstream "ws://stream/" rfl⟩

end Config

end MeetingRoom
