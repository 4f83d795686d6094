import Mathlib.Data.List.Induction
import KernelConfig.Proofs.Symbol.Calls

/-!
Effects: what befalls the symbols of a table is written down in a log, and each symbol is what the
writes to it since its last reset make of it.
-/

set_option autoImplicit false

namespace KernelConfig

/-- A symbol takes a value, or it is reset. -/
inductive Effect where
  | write (name : String) (value : SymbolValue) (provenance : Provenance)
  | clear (name : String)
  deriving DecidableEq, Repr

/-- A value that a symbol has taken, and where it came from. -/
structure Write where
  value : SymbolValue
  provenance : Provenance
  deriving DecidableEq, Repr

def Effect.writeTo? (name : String) : Effect → Option Write
  | write n value provenance => if n = name then some ⟨value, provenance⟩ else none
  | clear _ => none

/-- The writes to a symbol since its last reset, in order. -/
def writesSinceReset (name : String) (log : List Effect) : List Write :=
  (log.reverse.takeWhile (· ≠ .clear name)).reverse.filterMap (Effect.writeTo? name)

theorem writesSinceReset_append (name : String) (log : List Effect) (e : Effect) :
    writesSinceReset name (log ++ [e]) =
      if e = .clear name then [] else writesSinceReset name log ++ (e.writeTo? name).toList := by
  by_cases he : e = .clear name
  · simp [writesSinceReset, he]
  · cases hw : e.writeTo? name <;> simp [writesSinceReset, he, hw]

/-! ### Symbols -/

namespace Symbol

def undergo (s : Symbol) : Effect → Symbol
  | .write name v p => if name = s.name then s.record v p else s
  | .clear name => if name = s.name then s.reset else s

@[simp] theorem reset_undergo (s : Symbol) (e : Effect) : (s.undergo e).reset = s.reset := by
  cases e <;> simp only [undergo] <;> split <;> rfl

@[simp] theorem reset_foldl_undergo (s : Symbol) (log : List Effect) :
    (log.foldl undergo s).reset = s.reset := by
  induction log generalizing s with
  | nil => rfl
  | cons e log ih => rw [List.foldl_cons, ih, reset_undergo]

@[simp] theorem name_foldl_undergo (s : Symbol) (log : List Effect) :
    (log.foldl undergo s).name = s.name := name_eq_of_reset (reset_foldl_undergo s log)

/-- What a symbol has of its own, besides what a log says: nothing once it has been reset. -/
def before (s : Symbol) (log : List Effect) : Symbol := if .clear s.name ∈ log then s.reset else s

/-- A symbol as a log says: its history has the writes since the last reset, and its value is the one
of the last of them. -/
structure Records (s : Symbol) (log : List Effect) (s' : Symbol) : Prop where
  declaration : s'.reset = s.reset
  history : s'.history =
    ((writesSinceReset s.name log).map (·.provenance)).reverse ++ (s.before log).history
  value : s'.value = ((writesSinceReset s.name log).getLast?.map (·.value)).or (s.before log).value

/-- The induction takes the effects off from the end. -/
theorem records_foldl_undergo (s : Symbol) (log : List Effect) :
    s.Records log (log.foldl undergo s) := by
  induction log using List.reverseRecOn with
  | nil => exact ⟨rfl, by simp [writesSinceReset, before], by simp [writesSinceReset, before]⟩
  | append_singleton log e ih =>
    have hfold : (log ++ [e]).foldl undergo s = (log.foldl undergo s).undergo e := by simp
    rw [hfold]
    cases e with
    | write name v p =>
      have hbefore : s.before (log ++ [.write name v p]) = s.before log := by simp [before]
      by_cases hn : name = s.name
      · subst hn
        refine ⟨?_, ?_, ?_⟩
        · simp
        · simp [writesSinceReset_append, undergo, hbefore, record, Effect.writeTo?, ih.history]
        · simp [writesSinceReset_append, undergo, record, Effect.writeTo?]
      · have hsame : (log.foldl undergo s).undergo (.write name v p) = log.foldl undergo s := by
          simp [undergo, hn]
        have hwrites : writesSinceReset s.name (log ++ [.write name v p]) =
            writesSinceReset s.name log := by
          simp [writesSinceReset_append, Effect.writeTo?, hn]
        exact ⟨by simp, by rw [hsame, hwrites, hbefore, ih.history],
          by rw [hsame, hwrites, hbefore, ih.value]⟩
    | clear name =>
      by_cases hn : name = s.name
      · subst hn
        refine ⟨?_, ?_, ?_⟩
        · simp
        · simp [writesSinceReset_append, undergo, before, reset]
        · simp [writesSinceReset_append, undergo, before, reset]
      · have hbefore : s.before (log ++ [.clear name]) = s.before log := by
          simp [before, Ne.symm hn]
        have hsame : (log.foldl undergo s).undergo (.clear name) = log.foldl undergo s := by
          simp [undergo, hn]
        have hwrites : writesSinceReset s.name (log ++ [.clear name]) =
            writesSinceReset s.name log := by
          simp [writesSinceReset_append, Effect.writeTo?, hn]
        exact ⟨by simp, by rw [hsame, hwrites, hbefore, ih.history],
          by rw [hsame, hwrites, hbefore, ih.value]⟩

namespace Records

variable {s s' : Symbol} {log : List Effect} (h : s.Records log s')

include h

/-- The latest provenance is the one of the write that has produced the value. -/
theorem provenance : s'.history.head? =
    ((writesSinceReset s.name log).getLast?.map (·.provenance)).or (s.before log).history.head? := by
  rw [h.history, List.head?_append, List.head?_reverse, List.getLast?_map]

/-- A symbol without value is one without history, if it has been so before. -/
theorem value_eq_none_iff (hs : s.value = none ↔ s.history = []) :
    s'.value = none ↔ s'.history = [] := by
  have hbefore : (s.before log).value = none ↔ (s.before log).history = [] := by
    unfold before
    split
    · exact ⟨fun _ => rfl, fun _ => rfl⟩
    · exact hs
  rw [h.value, h.history]
  cases hw : writesSinceReset s.name log with
  | nil => simpa using hbefore
  | cons w ws => simp [List.getLast?_cons]

end Records

end Symbol

/-! ### Tables -/

namespace SymbolTable

def undergo (t : SymbolTable) (log : List Effect) : SymbolTable :=
  { t with symbols := t.symbols.map fun s => log.foldl Symbol.undergo s }

/-- The effect of a call, if the symbol takes the value. -/
def accepted? (t : SymbolTable) (c : Call) : Option Effect :=
  match t.symbol? c.name with
  | none => none
  | some s => match Symbol.coerceTo s.type s.range c.value with
    | .ok v => some (.write c.name v c.provenance)
    | .error _ => none

variable {t : SymbolTable}

theorem accepted?_eq_some {c : Call} {e : Effect} : t.accepted? c = some e ↔
    ∃ s v, t.symbol? c.name = some s ∧ Symbol.coerceTo s.type s.range c.value = .ok v ∧
      e = .write c.name v c.provenance := by
  unfold accepted?
  cases t.symbol? c.name with
  | none => simp
  | some s => cases hv : Symbol.coerceTo s.type s.range c.value <;> simp [hv, eq_comm]

theorem accepted?_eq_none {c : Call} : t.accepted? c = none ↔
    ∀ s, t.symbol? c.name = some s → ∃ e, Symbol.coerceTo s.type s.range c.value = .error e := by
  unfold accepted?
  cases t.symbol? c.name with
  | none => simp
  | some s =>
    cases hv : Symbol.coerceTo s.type s.range c.value with
    | ok v => simp [hv]
    | error e => simpa [hv] using ⟨e.1, e.2, rfl⟩

@[simp] theorem undergo_nil (t : SymbolTable) : t.undergo [] = t := by
  simp [undergo]

@[simp] theorem undergo_undergo (t : SymbolTable) (log log' : List Effect) :
    (t.undergo log).undergo log' = t.undergo (log ++ log') := by
  simp [undergo, List.map_map, Function.comp_def]

@[simp] theorem reset_undergo (t : SymbolTable) (log : List Effect) :
    (t.undergo log).reset = t.reset := by
  simp [undergo, reset, Function.comp_def]

theorem distinct_undergo (hd : t.Distinct) (log : List Effect) : (t.undergo log).Distinct :=
  distinct_of_reset (reset_undergo t log).symm hd

theorem symbol?_undergo (t : SymbolTable) (log : List Effect) (name : String) :
    (t.undergo log).symbol? name = (t.symbol? name).map fun s => log.foldl Symbol.undergo s := by
  simp [symbol?, undergo, List.find?_map, Function.comp_def]

/-- Whether a symbol takes a value does not depend on what the table holds. -/
@[simp] theorem accepted?_undergo (t : SymbolTable) (log : List Effect) (c : Call) :
    (t.undergo log).accepted? c = t.accepted? c := by
  unfold accepted?
  rw [symbol?_undergo]
  cases t.symbol? c.name with
  | none => rfl
  | some s =>
    have hreset := Symbol.reset_foldl_undergo s log
    have hrange : (log.foldl Symbol.undergo s).range = s.range := by
      have h : (log.foldl Symbol.undergo s).reset.range = s.reset.range := by rw [hreset]
      exact h
    simp only [Option.map_some, Symbol.type_eq_of_reset hreset, hrange]

/-- The update of a symbol whose name is nowhere else in the table. -/
theorem update_between {before after : List Symbol} {env : List (String × String)} {s s' : Symbol}
    (hd : (⟨before ++ s :: after, env⟩ : SymbolTable).Distinct) (hn : s'.name = s.name) :
    (⟨before ++ s :: after, env⟩ : SymbolTable).update s' = ⟨before ++ s' :: after, env⟩ := by
  simp only [Distinct, names, List.map_append, List.map_cons, List.nodup_append,
    List.nodup_cons] at hd
  obtain ⟨-, ⟨hafter, -⟩, hbefore⟩ := hd
  have hb : before.map (fun old => if old.name = s.name then s' else old) = before := by
    rw [List.map_congr_left (g := id), List.map_id]
    intro old hold
    have hne := hbefore old.name (List.mem_map_of_mem hold) s.name (by simp)
    simp [hne]
  have ha : after.map (fun old => if old.name = s.name then s' else old) = after := by
    rw [List.map_congr_left (g := id), List.map_id]
    intro old hold
    have hne : old.name ≠ s.name := by
      intro h
      exact hafter (h ▸ List.mem_map_of_mem hold)
    simp [hne]
  simp [update, hb, ha, hn]

theorem update_record (hd : t.Distinct) {s : Symbol} (hs : s ∈ t.symbols) (v : SymbolValue)
    (p : Provenance) : t.update (s.record v p) = t.undergo [.write s.name v p] := by
  simp only [update, undergo]
  congr 1
  refine List.map_congr_left fun old hold => ?_
  by_cases hn : old.name = s.name
  · cases eq_of_name_eq hd hold hs hn
    simp [Symbol.undergo, Symbol.record]
  · simp [Symbol.undergo, Symbol.record, hn, Ne.symm hn]

theorem update_reset (hd : t.Distinct) {s : Symbol} (hs : s ∈ t.symbols) :
    t.update s.reset = t.undergo [.clear s.name] := by
  simp only [update, undergo]
  congr 1
  refine List.map_congr_left fun old hold => ?_
  by_cases hn : old.name = s.name
  · cases eq_of_name_eq hd hold hs hn
    simp [Symbol.undergo, Symbol.reset]
  · simp [Symbol.undergo, Symbol.reset, hn, Ne.symm hn]

theorem reset_eq_undergo (t : SymbolTable) : t.reset = t.undergo (t.names.map .clear) := by
  have hclear : ∀ (names : List String) (s : Symbol), (names.map Effect.clear).foldl Symbol.undergo s =
      if s.name ∈ names then s.reset else s := by
    intro names
    induction names with
    | nil => simp
    | cons n names ih =>
      intro s
      have hname : s.reset.name = s.name := rfl
      by_cases hn : n = s.name
      · simp [Symbol.undergo, hn, ih, hname]
      · simp [Symbol.undergo, hn, ih, Ne.symm hn]
  simp only [reset, undergo]
  congr 1
  refine List.map_congr_left fun s hs => ?_
  have hname : s.name ∈ t.names := List.mem_map_of_mem hs
  rw [hclear, if_pos hname]

end SymbolTable

end KernelConfig
