import KernelConfig.Settings.Cache

/-!
Serving settings: whatever happens to a process, it is served the settings of the last load that has
succeeded since they were last cleared, and they are loaded only if there are none or a reload is asked
for. A load that fails changes nothing.
-/

set_option autoImplicit false

namespace KernelConfig.SettingsCache

/-! ### Runs -/

/-- What a process does with its settings, and what happens around it. -/
inductive Event where
  | change (files : Files.Tree) (environment : List (String × String))
  | get
  | reload
  | clear

structure Process where
  files : Files.Tree
  environment : List (String × String)
  cache : SettingsCache := {}

/-- An event with the process before and after it, and what the process got. -/
structure Moment where
  event : Event
  before : Process
  answer : Option (Except SettingsFault LoadedSettings)
  after : Process

namespace Process

/-- A load from what is around the process. -/
def load (p : Process) : Except SettingsFault Settings := Settings.load p.files p.environment

def step (p : Process) : Event → Option (Except SettingsFault LoadedSettings) × Process
  | .change files environment => (none, { p with files, environment })
  | .get => let (r, cache) := p.cache.get p.load; (some r, { p with cache })
  | .reload => let (r, cache) := p.cache.reload p.load; (some r, { p with cache })
  | .clear => (none, { p with cache := p.cache.clear })

def moment (p : Process) (e : Event) : Moment := ⟨e, p, (p.step e).1, (p.step e).2⟩

def run : Process → List Event → List Moment
  | _, [] => []
  | p, e :: es => p.moment e :: run (p.step e).2 es

end Process

/-! ### What has been loaded -/

/-- The settings that the process got. -/
def Moment.given? (m : Moment) : Option LoadedSettings := m.answer.bind Except.toOption

/-- Whether the process has got the settings of a load before. -/
def wasGiven (past : List Moment) (number : Nat) : Bool :=
  past.any fun m => m.given?.any (·.number = number)

/-- The settings that a load has made: such as the process has not got before. -/
def Moment.loaded? (m : Moment) (past : List Moment) : Option LoadedSettings :=
  m.given?.filter fun l => !wasGiven past l.number

/-- The settings of the last load since the last clear; the past is given latest first. -/
def lastLoaded : List Moment → Option LoadedSettings
  | [] => none
  | m :: past => match m.event with
    | .clear => none
    | _ => (m.loaded? past).or (lastLoaded past)

/-- A load has been tried from what was around the process. It has made new settings, or its fault is
the answer. -/
def Moment.Loads (m : Moment) (past : List Moment) : Prop :=
  match m.before.load with
  | .ok settings => ∃ l, m.answer = some (.ok l) ∧ l.settings = settings ∧ m.loaded? past = some l
  | .error f => m.answer = some (.error f)

theorem wasGiven_cons (m : Moment) (past : List Moment) (number : Nat) :
    wasGiven (m :: past) number = (m.given?.any (·.number = number) || wasGiven past number) := rfl

theorem lastLoaded_cons {m : Moment} (hm : m.event ≠ .clear) (past : List Moment) :
    lastLoaded (m :: past) = (m.loaded? past).or (lastLoaded past) := by
  rw [lastLoaded]
  split
  · rename_i hclear
    exact absurd hclear hm
  · rfl

/-- How a cache comes from what has happened to it. -/
structure Tracks (past : List Moment) (c : SettingsCache) : Prop where
  current : c.current = lastLoaded past
  /-- The number of the next load is its own. -/
  number_lt : ∀ n, wasGiven past n = true → n < c.loads
  given : ∀ l, c.current = some l → wasGiven past l.number = true

theorem tracks_nil : Tracks [] {} where
  current := rfl
  number_lt n h := by cases h
  given l h := by cases h

namespace Tracks

variable {past : List Moment} {c : SettingsCache} (h : Tracks past c) {m : Moment}

include h

theorem wasGiven_loads : wasGiven past c.loads = false :=
  eq_false_of_ne_true fun hgiven => Nat.lt_irrefl _ (h.number_lt _ hgiven)

theorem cleared (hevent : m.event = .clear) (hgiven : m.given? = none) :
    Tracks (m :: past) c.clear where
  current := by rw [lastLoaded, hevent]; rfl
  number_lt n hn := by
    rw [wasGiven_cons, hgiven] at hn
    exact h.number_lt n hn
  given l hl := by cases hl

/-- What gives the process nothing, and is no clear, leaves the cache. -/
theorem quiet (hevent : m.event ≠ .clear) (hgiven : m.given? = none) : Tracks (m :: past) c where
  current := by rw [lastLoaded_cons hevent, Moment.loaded?, hgiven, h.current]; rfl
  number_lt n hn := by
    rw [wasGiven_cons, hgiven] at hn
    exact h.number_lt n hn
  given l hl := by
    rw [wasGiven_cons, h.given l hl, Bool.or_true]

theorem served {l : LoadedSettings} (hevent : m.event ≠ .clear) (hcurrent : c.current = some l)
    (hgiven : m.given? = some l) : Tracks (m :: past) c where
  current := by
    have hold : m.loaded? past = none := by simp [Moment.loaded?, hgiven, h.given l hcurrent]
    rw [lastLoaded_cons hevent, hold, h.current, Option.none_or]
  number_lt n hn := by
    rw [wasGiven_cons, hgiven, Bool.or_eq_true] at hn
    rcases hn with hn | hn
    · have hnumber : l.number = n := by simpa using hn
      exact hnumber ▸ h.number_lt _ (h.given l hcurrent)
    · exact h.number_lt n hn
  given l' hl := by rw [wasGiven_cons, h.given l' hl, Bool.or_true]

theorem loaded?_eq {settings : Settings} (hgiven : m.given? = some ⟨c.loads, settings⟩) :
    m.loaded? past = some ⟨c.loads, settings⟩ := by
  simp [Moment.loaded?, hgiven, h.wasGiven_loads]

theorem loaded {settings : Settings} (hevent : m.event ≠ .clear)
    (hgiven : m.given? = some ⟨c.loads, settings⟩) :
    Tracks (m :: past) ⟨some ⟨c.loads, settings⟩, c.loads + 1⟩ where
  current := by rw [lastLoaded_cons hevent, h.loaded?_eq hgiven]; rfl
  number_lt n hn := by
    rw [wasGiven_cons, hgiven, Bool.or_eq_true] at hn
    rcases hn with hn | hn
    · have hnumber : c.loads = n := by simpa using hn
      exact hnumber ▸ Nat.lt_succ_self _
    · exact Nat.lt_succ_of_lt (h.number_lt n hn)
  given l hl := by
    cases hl
    simp [wasGiven_cons, hgiven]

end Tracks

/-! ### A moment -/

namespace Process

variable {past : List Moment} {p : Process}

theorem step_get_of_current {l : LoadedSettings} (hl : p.cache.current = some l) :
    p.step .get = (some (.ok l), p) := by
  simp only [step, get, hl]

/-- Where there are no settings, asking for them is asking for a reload. -/
theorem step_get_of_none (hnone : p.cache.current = none) : p.step .get = p.step .reload := by
  simp only [step, get, hnone]

theorem step_reload_of_ok {settings : Settings} (hload : p.load = .ok settings) :
    p.step .reload = (some (.ok ⟨p.cache.loads, settings⟩),
      { p with cache := ⟨some ⟨p.cache.loads, settings⟩, p.cache.loads + 1⟩ }) := by
  simp only [step, reload, hload]

theorem step_reload_of_error {f : SettingsFault} (hload : p.load = .error f) :
    p.step .reload = (some (.error f), p) := by
  simp only [step, reload, hload]

/-- Whatever moment ends as a reload does, loads as a reload does. -/
theorem loads_of_step_eq (h : Tracks past p.cache) {e : Event} (he : p.step e = p.step .reload) :
    (p.moment e).Loads past := by
  rw [Moment.Loads]
  show match p.load with | .ok settings => _ | .error f => _
  cases hload : p.load with
  | error f => simp only [moment, he, step_reload_of_error hload]
  | ok settings =>
    have hanswer : (p.moment e).answer = some (.ok ⟨p.cache.loads, settings⟩) := by
      simp only [moment, he, step_reload_of_ok hload]
    exact ⟨_, hanswer, rfl, h.loaded?_eq (by rw [Moment.given?, hanswer]; rfl)⟩

theorem tracks_of_step_eq (h : Tracks past p.cache) {e : Event} (hevent : e ≠ .clear)
    (he : p.step e = p.step .reload) : Tracks (p.moment e :: past) (p.moment e).after.cache := by
  cases hload : p.load with
  | error f =>
    have hmoment : p.moment e = ⟨e, p, some (.error f), p⟩ := by
      rw [moment, he, step_reload_of_error hload]
    rw [hmoment]
    exact h.quiet hevent rfl
  | ok settings =>
    have hmoment : p.moment e = ⟨e, p, some (.ok ⟨p.cache.loads, settings⟩),
        { p with cache := ⟨some ⟨p.cache.loads, settings⟩, p.cache.loads + 1⟩ }⟩ := by
      rw [moment, he, step_reload_of_ok hload]
    rw [hmoment]
    exact h.loaded hevent rfl

theorem tracks_moment (h : Tracks past p.cache) (e : Event) :
    Tracks (p.moment e :: past) (p.moment e).after.cache := by
  cases e with
  | change files environment => exact h.quiet (by simp [moment]) rfl
  | clear => exact h.cleared rfl rfl
  | reload => exact tracks_of_step_eq h (by simp) rfl
  | get =>
    cases hcurrent : p.cache.current with
    | none => exact tracks_of_step_eq h (by simp) (step_get_of_none hcurrent)
    | some l =>
      have hmoment : p.moment .get = ⟨.get, p, some (.ok l), p⟩ := by
        rw [moment, step_get_of_current hcurrent]
      rw [hmoment]
      exact h.served (by simp) hcurrent rfl

/-- What a process has got, its cache has. -/
theorem current_of_given {e : Event} {l : LoadedSettings} (hl : (p.moment e).given? = some l) :
    (p.moment e).after.cache.current = some l := by
  have hreload : (p.moment .reload).given? = some l →
      (p.moment .reload).after.cache.current = some l := by
    intro hl
    cases hload : p.load with
    | error f =>
      rw [moment, step_reload_of_error hload] at hl
      cases hl
    | ok settings =>
      rw [moment, step_reload_of_ok hload] at hl ⊢
      exact hl
  cases e with
  | change files environment => cases hl
  | clear => cases hl
  | reload => exact hreload hl
  | get =>
    cases hcurrent : p.cache.current with
    | none =>
      rw [moment, step_get_of_none hcurrent] at hl ⊢
      exact hreload hl
    | some l' =>
      rw [moment, step_get_of_current hcurrent] at hl ⊢
      cases hl
      exact hcurrent

end Process

/-- Neither a clear nor a reload that succeeds. -/
def Moment.IsQuiet (m : Moment) : Prop := m.event ≠ .clear ∧ (m.event = .reload → m.given? = none)

namespace Process

variable {past : List Moment} {p : Process}

theorem step_of_isQuiet {e : Event} (he : (p.moment e).IsQuiet) {l : LoadedSettings}
    (hl : p.cache.current = some l) : (p.step e).2.cache = p.cache ∧
      ∀ l', (p.moment e).given? = some l' → l' = l := by
  cases e with
  | change files environment => exact ⟨rfl, fun l' hl' => by cases hl'⟩
  | clear => exact absurd rfl he.1
  | get =>
    rw [moment, step_get_of_current hl]
    exact ⟨rfl, fun l' hl' => by cases hl'; rfl⟩
  | reload =>
    cases hload : p.load with
    | error f =>
      rw [moment, step_reload_of_error hload]
      exact ⟨rfl, fun l' hl' => by cases hl'⟩
    | ok settings =>
      have hnone := he.2 rfl
      rw [moment, step_reload_of_ok hload] at hnone
      cases hnone

theorem step_of_error {e : Event} {f : SettingsFault} (hf : (p.moment e).answer = some (.error f)) :
    e ≠ .clear ∧ (p.step e).2.cache = p.cache := by
  have hreload : (p.moment .reload).answer = some (.error f) → (p.step .reload).2.cache = p.cache := by
    intro hf
    cases hload : p.load with
    | error f => rw [step_reload_of_error hload]
    | ok settings =>
      rw [moment, step_reload_of_ok hload] at hf
      cases hf
  cases e with
  | change files environment => cases hf
  | clear => cases hf
  | reload => exact ⟨by simp, hreload hf⟩
  | get =>
    refine ⟨by simp, ?_⟩
    cases hcurrent : p.cache.current with
    | none =>
      rw [moment, step_get_of_none hcurrent] at hf
      rw [step_get_of_none hcurrent]
      exact hreload hf
    | some l =>
      rw [moment, step_get_of_current hcurrent] at hf
      cases hf

/-! ### A run -/

/-- Each moment of a run is one of the process that it finds, with a cache that comes from the past, and
the rest of the run goes on from there. -/
theorem exists_of_run {es : List Event} {before rest : List Moment} {m : Moment}
    (h : p.run es = before ++ m :: rest) :
    (∃ e, m = m.before.moment e) ∧ (∃ es', rest = m.after.run es') ∧
      ∀ past, Tracks past p.cache → Tracks (before.reverse ++ past) m.before.cache := by
  induction before generalizing p es with
  | nil =>
    cases es with
    | nil => cases h
    | cons e es =>
      cases h
      exact ⟨⟨e, rfl⟩, ⟨es, rfl⟩, fun past hpast => hpast⟩
  | cons x before ih =>
    cases es with
    | nil => cases h
    | cons e es =>
      rw [run, List.cons_append, List.cons.injEq] at h
      obtain ⟨rfl, h⟩ := h
      obtain ⟨hm, hrest, htracks⟩ := ih h
      refine ⟨hm, hrest, fun past hpast => ?_⟩
      simpa using htracks _ (tracks_moment hpast e)

/-- As long as everything is quiet, the process keeps its settings. -/
theorem current_of_run {es : List Event} {before rest : List Moment} {m : Moment}
    (h : p.run es = before ++ m :: rest) {l : LoadedSettings} (hl : p.cache.current = some l)
    (hquiet : ∀ x ∈ before, x.IsQuiet) : m.before.cache.current = some l := by
  induction before generalizing p es with
  | nil =>
    cases es with
    | nil => cases h
    | cons e es =>
      cases h
      exact hl
  | cons x before ih =>
    cases es with
    | nil => cases h
    | cons e es =>
      rw [run, List.cons_append, List.cons.injEq] at h
      obtain ⟨rfl, h⟩ := h
      refine ih h ?_ fun x hx => hquiet x (by simp [hx])
      rw [(step_of_isQuiet (hquiet _ (by simp)) hl).1, hl]

end Process

/-- A moment in the life of a process. Asked for settings, the process gets those of the last load since
the last clear, whatever is around it by then, and nothing is loaded; if there are none, or if a reload is
asked for, they are loaded from what is around it now. A load that fails is the answer and leaves what
there was. The process gets other settings than before only after a clear or a reload that succeeds. -/
theorem last_load_is_served {files : Files.Tree} {environment : List (String × String)}
    {events : List Event} {past future : List Moment} {m : Moment}
    (h : Process.run { files, environment } events = past ++ m :: future) :
    (m.event = .get → ∀ l, lastLoaded past.reverse = some l →
      m.answer = some (.ok l) ∧ m.after.cache = m.before.cache) ∧
    (m.event = .get → lastLoaded past.reverse = none → m.Loads past.reverse) ∧
    (m.event = .reload → m.Loads past.reverse) ∧
    (∀ f, m.answer = some (.error f) → m.after.cache = m.before.cache ∧
      lastLoaded (m :: past.reverse) = lastLoaded past.reverse) ∧
    ∀ earlier x between l l', past = earlier ++ x :: between → x.given? = some l → m.given? = some l' →
      (∀ y ∈ between ++ [m], y.IsQuiet) → l' = l := by
  obtain ⟨⟨e, hm⟩, -, htracks⟩ := Process.exists_of_run h
  have hpast : Tracks past.reverse m.before.cache := by simpa using htracks [] tracks_nil
  refine ⟨fun hget l hl => ?_, fun hget hnone => ?_, fun hreload => ?_, fun f hf => ?_, ?_⟩
  · rw [← hpast.current] at hl
    rw [hm] at hget
    obtain rfl : e = .get := hget
    rw [hm, Process.moment, Process.step_get_of_current hl]
    exact ⟨rfl, rfl⟩
  · rw [← hpast.current] at hnone
    rw [hm] at hget
    obtain rfl : e = .get := hget
    rw [hm]
    exact Process.loads_of_step_eq hpast (Process.step_get_of_none hnone)
  · rw [hm] at hreload
    obtain rfl : e = .reload := hreload
    rw [hm]
    exact Process.loads_of_step_eq hpast rfl
  · have hgiven : m.given? = none := by rw [Moment.given?, hf]; rfl
    rw [hm] at hf
    obtain ⟨hclear, hcache⟩ := Process.step_of_error hf
    refine ⟨?_, ?_⟩
    · rw [hm]
      exact hcache
    · rw [lastLoaded_cons (by rw [hm]; exact hclear), Moment.loaded?, hgiven]
      rfl
  · intro earlier x between l l' hsplit hx hm' hquiet
    rw [hsplit, List.append_assoc, List.cons_append] at h
    obtain ⟨⟨e', hx'⟩, ⟨events', hrest⟩, -⟩ := Process.exists_of_run h
    have hcurrent : x.after.cache.current = some l := by
      rw [hx'] at hx ⊢
      exact Process.current_of_given hx
    have hbefore := Process.current_of_run hrest.symm hcurrent fun y hy => hquiet y (by simp [hy])
    rw [hm] at hm'
    exact (Process.step_of_isQuiet (hm ▸ hquiet m (by simp)) hbefore).2 l' hm'

/-- A load that fails, one that succeeds, a reload that fails as the first load did; the settings are still
those of the one that has succeeded. -/
theorem last_load_is_served_unchanged :
    let p : Process := { files := ⟨[]⟩, environment := [("AUTOKERNEL_MAX_LOAD_DEPTH", "0")] }
    let events : List Event := [.get, .change ⟨[]⟩ [], .get,
      .change ⟨[]⟩ [("AUTOKERNEL_SANDBOX", "no"), ("AUTOKERNEL_MAX_LOAD_DEPTH", "x")], .reload, .get]
    ∃ past m, p.run events = past ++ [m] ∧ m.event = .get ∧ lastLoaded past.reverse = some ⟨0, {}⟩ ∧
      m.answer = some (.ok ⟨0, {}⟩) := by
  intro p events
  let q := (events.take 5).foldl (fun p e => (p.step e).2) p
  have h : p.run events = p.run (events.take 5) ++ [q.moment .get] := rfl
  have hlast : lastLoaded (p.run (events.take 5)).reverse = some ⟨0, {}⟩ := by
    simp only [p, events, List.take, Process.run, Process.moment, Process.step, Process.load, Settings.load,
      Settings.readEnvFile, Files.Tree.readText, Files.Tree.readBytes, String.contains_char_eq]
    decide +kernel
  exact ⟨_, _, h, rfl, hlast, ((last_load_is_served h).1 rfl _ hlast).1⟩

end KernelConfig.SettingsCache
