import KernelConfig.Proofs.Apply.Installing
import KernelConfig.Proofs.Apply.Replies

/-!
Globals: which handle a script finds under the globals of a plan, and what can be set through it.
-/

set_option autoImplicit false

namespace KernelConfig

namespace SymbolTable

/-- An update leaves the symbols of other names alone. -/
theorem symbol?_update_of_ne (t : SymbolTable) {s : Symbol} {name : String} (h : name ≠ s.name) :
    (t.update s).symbol? name = t.symbol? name := by
  simp only [update, symbol?]
  induction t.symbols with
  | nil => rfl
  | cons old rest ih =>
    rw [List.map_cons, List.find?_cons, List.find?_cons, ih]
    by_cases hold : old.name = s.name
    · simp [hold, Ne.symm h]
    · rw [if_neg hold]

end SymbolTable

namespace Apply

/-- What is set through a handle is set for the symbol whose name the handle has, and for no other. -/
theorem symbol?_use_setAny (w : Surroundings) (c : Caller) (symbol : String) (rest : List Datum)
    (s : ApplyState) {name : String} (hne : name ≠ symbol) :
    (use w c .setAny (.text symbol :: rest) s).2.table.symbol? name = s.table.symbol? name := by
  have hload : Capability.setAny ≠ .load := by decide
  have hends := use_ends hload w c (.text symbol :: rest) s
  generalize use w c .setAny (.text symbol :: rest) s = result at hends ⊢
  obtain ⟨r, s'⟩ := result
  cases hends with
  | taken sym v t _ hname _ _ hset =>
    obtain ⟨v', -, rfl⟩ := SymbolTable.set_eq_ok.mp hset
    have hsymbol : symbol = sym.name := Option.some.inj hname
    exact SymbolTable.symbol?_update_of_ne _ (hsymbol ▸ hne)
  | _ => rfl

end Apply

namespace Context

open Script Script.Prelude
open Namespace (Binding)

/-- One handle stands under all globals of a binding, and it has the name of the binding's symbol. -/
def Binds (s : Store) (b : Binding) : Prop :=
  ∃ handle, s.table handle = handleTable places b.symbol ∧
    s.index (.table handle) (.text "_name") = .value (.text b.symbol) ∧
    ∀ id ∈ b.identifiers, s.index (.table s.globals) (.text id) = .value (.table handle)

/-- The name of a handle, as the prelude reads it when the handle is called. -/
theorem index_handle {s : Store} {handle : Nat} {symbol : String}
    (h : s.table handle = handleTable places symbol) :
    s.index (.table handle) (.text "_name") = .value (.text symbol) := by
  refine Store.index_field ?_ (by simp [Value.text])
  rw [Store.rawGet, h]
  rfl

theorem index_global {s : Store} (hp : Prepared places s) (id : String) :
    s.index (.table s.globals) (.text id) = .value (s.rawGet places.globals (.text id)) := by
  rw [hp.globals]
  exact Store.index_plain (hp.plain _ (by simp [Places.plain])) _

theorem binds_of_nodup {s : Store} (hp : Prepared places s) {bs : List Binding}
    (hfree : ∀ b ∈ bs, ∀ id ∈ b.identifiers, IsFree id)
    (hnodup : (bs.flatMap Binding.identifiers).Nodup) {b : Binding} (hb : b ∈ bs) :
    Binds (bs.foldl (define places) s) b := by
  have hp' := hp.of_kept (kept_foldl_define hp hfree)
  obtain ⟨before, after, rfl⟩ := List.append_of_mem hb
  obtain ⟨handle, htable, hglobals⟩ := denotes_of_last hp before b after hfree
  refine ⟨handle, htable, index_handle htable, fun id hid => ?_⟩
  -- No later binding generates the global again.
  have hdisjoint := (List.pairwise_cons.mp (List.pairwise_append.mp (List.nodup_flatMap.mp hnodup).2).2.1).1
  rw [index_global hp', hglobals id hid fun b' hb' hid' => hdisjoint b' hb' hid hid']

/-- **Globals are unambiguous as long as no name is another one behind the lead.** Then no global is
generated twice, and once the context of a script has been prepared, each of them stands for the handle
of the symbol that it has been generated for; what is set through this handle changes no other symbol. -/
theorem globals_denote_their_symbols (w : Surroundings) (caller : Caller) (text : String)
    (s : ApplyState) (hlead : Namespace.isIdentifier w.settings.symbolLead = true)
    (hapart : ∀ a ∈ s.table.names, Namespace.isEligible a = true →
      w.settings.symbolLead ++ a ∉ s.table.names)
    (hcount : s.table.names.length < 2 ^ 63)
    (hdone : (prepare w (Context.new w caller text s)).1 = .ok ()) :
    ∃ bs m, Namespace.plan w.settings.symbolLead s.table.names = .ok bs ∧
      (bs.flatMap Binding.identifiers).Nodup ∧
      (prepare w (Context.new w caller text s)).2.machine = some m ∧
      ∀ b ∈ bs, Binds m.store b ∧ ∀ c rest state name, name ≠ b.symbol →
        (Apply.use w c .setAny (.text b.symbol :: rest) state).2.table.symbol? name =
          state.table.symbol? name := by
  obtain ⟨hsilent, hnamespaced⟩ :=
    (prepares_all (w := w)).precedes (Context.new w caller text s) ⟨_, rfl⟩
  obtain ⟨bs, hplan, ⟨m, hm, -, s₀, hp, hstore⟩, -⟩ := hnamespaced () hdone
  have htable : _ = s.table := hsilent.table
  rw [htable] at hplan
  have hnodup := (Namespace.nodup_identifiers_iff hlead hplan).mpr hapart
  -- The list of the bindings is short enough for all of them to be visited.
  have hshort : bs.length < 2 ^ 63 := lt_of_le_of_lt (Namespace.length_plan_le hplan) hcount
  rw [Table.visible_of_lt hshort, List.take_length] at hstore
  refine ⟨bs, m, hplan, hnodup, hm, fun b hb => ⟨?_, fun c rest state name hne =>
    Apply.symbol?_use_setAny w c b.symbol rest state hne⟩⟩
  rw [hstore]
  exact binds_of_nodup hp (isFree_of_plan hplan) hnodup hb

def plainCaller : Caller where
  source := "main.lua"
  loader := none

/-- A name with both globals, one with the long one only, and one without any. -/
def plainStart : ApplyState where
  table := { symbols := [{ name := "FOO", type := .boolean }, { name := "64BIT", type := .boolean },
    { name := "helper", type := .boolean }] }

theorem globals_denote_plain :
    ∃ bs m, Namespace.plan "CONFIG_" plainStart.table.names = .ok bs ∧
      (bs.flatMap Binding.identifiers).Nodup ∧
      (prepare {} (Context.new {} plainCaller "" plainStart)).2.machine = some m ∧
      ∀ b ∈ bs, Binds m.store b ∧ ∀ c rest state name, name ≠ b.symbol →
        (Apply.use {} c .setAny (.text b.symbol :: rest) state).2.table.symbol? name =
          state.table.symbol? name := by
  have hok : (prepare {} (Context.new {} plainCaller "" plainStart)).1.isOk = true := by
    rw [prepare, loadPrelude, chunk_eq, text_eq]
    decide +kernel
  have hdone : (prepare {} (Context.new {} plainCaller "" plainStart)).1 = .ok () := by
    generalize (prepare {} (Context.new {} plainCaller "" plainStart)).1 = r at hok
    cases r with
    | ok _ => rfl
    | error _ => cases hok
  exact globals_denote_their_symbols {} plainCaller "" plainStart (by decide +kernel)
    (by decide +kernel) (by decide +kernel) hdone

/-- When one name is the other one behind the lead, the bare global of the first stands for a handle of
the second. Here the store is the one that the prelude leaves. -/
theorem bare_global_denotes_other_symbol :
    let longer : Binding := ⟨"CONFIG_FOO", "CONFIG_CONFIG_FOO", some "CONFIG_FOO"⟩
    let shorter : Binding := ⟨"FOO", "CONFIG_FOO", some "FOO"⟩
    Namespace.isIdentifier "CONFIG_" = true ∧
    Namespace.plan "CONFIG_" ["FOO", "CONFIG_FOO"] = .ok [longer, shorter] ∧
    ¬ ([longer, shorter].flatMap Binding.identifiers).Nodup ∧
    ∃ left s a handle, executed Prelude.chunk = (left, .ret s a []) ∧
      let s' := [longer, shorter].foldl (define places) s
      s'.index (.table s'.globals) (.text "CONFIG_FOO") = .value (.table handle) ∧
      s'.index (.table handle) (.text "_name") = .value (.text "FOO") := by
  intro longer shorter
  have hplan : Namespace.plan "CONFIG_" ["FOO", "CONFIG_FOO"] = .ok [longer, shorter] := by
    decide +kernel
  obtain ⟨left, s, a, hrun, hp, -⟩ := prelude_executes
  have hfree := isFree_of_plan hplan
  have hp' := hp.of_kept (kept_foldl_define hp hfree)
  obtain ⟨handle, htable, hglobals⟩ := denotes_of_last hp [longer] shorter [] hfree
  refine ⟨by decide +kernel, hplan, by decide +kernel, left, s, a, handle, hrun, ?_,
    index_handle htable⟩
  rw [index_global hp', ← hglobals "CONFIG_FOO" (by decide) (by simp)]
  rfl

end Context

end KernelConfig
