import KernelConfig.Proofs.Apply.Deadline
import KernelConfig.Proofs.Apply.PreludeRun
import KernelConfig.Proofs.Apply.Setup
import KernelConfig.Proofs.Script.Handles

/-!
Preparation of a script: its parts leave the machine as the next one needs it, and nothing that they do
is seen in the table, in the journal or in the fatal fault. The prelude is the first of them.
-/

set_option autoImplicit false

namespace KernelConfig.Context

open Script Script.Prelude

/-! ### Silent parts of a preparation -/

section

variable {α β : Type} {A : Context → Prop} {B : α → Context → Prop} {C : β → Context → Prop}
  {F : Context → Prop}

/-- A part of the preparation has come to its end, and leaves what is wanted, or it has ended with a
fault. -/
def Attains (B : α → Context → Prop) : Except Failure α → Context → Prop
  | .ok a, c => B a c
  | .error (.fault _), _ => True
  | .error (.mishap _), _ => False

/-- A part of the preparation is silent, and does what is wanted unless it ends with a fault. -/
def Prepares (A : Context → Prop) (x : Stepping α) (B : α → Context → Prop) : Prop :=
  ∀ c, A c → Silent c (x c).2 ∧ Attains B (x c).1 (x c).2

theorem Attains.of_ok {r : Except Failure α} {c : Context} (h : Attains B r c) {a : α}
    (ha : r = .ok a) : B a c := by
  subst ha
  exact h

theorem Attains.mono {B' : α → Context → Prop} {r : Except Failure α} {c : Context}
    (h : Attains B r c) (hB : ∀ a c, B a c → B' a c) : Attains B' r c := by
  match r, h with
  | .ok a, h => exact hB a c h
  | .error (.fault _), _ => trivial

theorem Prepares.bind {x : Stepping α} {f : α → Stepping β} (hx : Prepares A x B)
    (hf : ∀ a, Prepares (B a) (f a) C) : Prepares A (x >>= f) C := by
  intro c hc
  obtain ⟨hsilent, hattains⟩ := hx c hc
  rw [bind_run]
  rcases hr : x c with ⟨(e | m) | a, c'⟩ <;> rw [hr] at hsilent hattains
  · exact ⟨hsilent, trivial⟩
  · exact hattains.elim
  · obtain ⟨hsilent', hattains'⟩ := hf a c' hattains
    exact ⟨hsilent.trans hsilent', hattains'⟩

theorem Prepares.mono {A' : Context → Prop} {B' : α → Context → Prop} {x : Stepping α}
    (h : Prepares A x B) (hA : ∀ c, A' c → A c) (hB : ∀ a c, B a c → B' a c) : Prepares A' x B' :=
  fun c hc => ⟨(h c (hA c hc)).1, (h c (hA c hc)).2.mono hB⟩

theorem Prepares.attains {x : Stepping α} (h : Prepares A x B) {c : Context} (hc : A c) :
    Attains B (x c).1 (x c).2 := (h c hc).2

/-- What nothing silent changes holds afterwards. -/
theorem Prepares.frame {x : Stepping α} (h : Prepares A x B)
    (hF : ∀ c c', Silent c c' → F c → F c') :
    Prepares (fun c => F c ∧ A c) x fun a c => F c ∧ B a c := by
  intro c hc
  obtain ⟨hsilent, hattains⟩ := h c hc.2
  refine ⟨hsilent, ?_⟩
  rcases hr : x c with ⟨(e | m) | a, c'⟩ <;> rw [hr] at hsilent hattains
  · trivial
  · exact hattains
  · exact ⟨hF c c' hsilent hc.1, hattains⟩

/-- A part is silent, and does what is wanted if it comes to its end. -/
def Precedes (A : Context → Prop) (x : Stepping α) (B : α → Context → Prop) : Prop :=
  ∀ c, A c → Silent c (x c).2 ∧ ∀ a, (x c).1 = .ok a → B a (x c).2

theorem Prepares.precedes {x : Stepping α} (h : Prepares A x B) : Precedes A x B :=
  fun c hc => ⟨(h c hc).1, fun _ => (h c hc).2.of_ok⟩

theorem prepares_of {p : Prop} {x : Stepping α} (h : p → Prepares A x B) :
    Prepares (fun c => p ∧ A c) x B := fun c hc => h hc.1 c hc.2

theorem prepares_exists {ι : Type} {A : ι → Context → Prop} {x : Stepping α}
    (h : ∀ i, Prepares (A i) x B) : Prepares (fun c => ∃ i, A i c) x B :=
  fun c ⟨i, hc⟩ => h i c hc

theorem prepares_pure (a : α) (h : ∀ c, A c → B a c) : Prepares A (pure a) B :=
  fun c hc => ⟨.refl c, h c hc⟩

theorem prepares_fail (f : Fault) : Prepares A (fail f : Stepping α) B :=
  fun c _ => ⟨.refl c, trivial⟩

theorem prepares_get : Prepares A (get : Stepping Context) fun a c => a = c ∧ A c :=
  fun c hc => ⟨.refl c, rfl, hc⟩

theorem prepares_modify {f : Context → Context} {B : Context → Prop}
    (h : ∀ c, A c → Silent c (f c) ∧ B (f c)) : Prepares A (modify f : Stepping Unit) fun _ => B := h

theorem prepares_advance {B : Context → Prop} (expected next : Stage)
    (h : ∀ c, A c → B { c with stage := next }) :
    Prepares A (advance expected next) fun _ => B := by
  intro c hc
  rw [advance_run]
  split
  · exact ⟨⟨rfl, rfl, rfl, rfl, rfl⟩, h c hc⟩
  · exact ⟨.refl c, trivial⟩

end

/-! ### Machines that are ready -/

/-- The machine of a context has a property. -/
def Holds (P : Machine → Prop) (c : Context) : Prop := ∃ m, c.machine = some m ∧ P m

/-- So it has, and the functions of the prelude are at hand. -/
structure Stands (P : Machine → Prop) (c : Context) : Prop where
  machine : Holds P c
  hooks : c.hooks = some preludeHooks

theorem Stands.mono {P Q : Machine → Prop} {c : Context} (h : Stands P c) (hP : ∀ m, P m → Q m) :
    Stands Q c :=
  ⟨h.machine.imp fun m hm => ⟨hm.1, hP m hm.2⟩, h.hooks⟩

/-- A machine that rests between two calls, with what the prelude has made in its store. -/
structure Ready (H : Option (Value × Nat)) (m : Machine) : Prop where
  rests : Rests H m
  prepared : Prepared places m.store
  watched : Watched H places m.store

section

variable {w : Surroundings} {P Q : Machine → Prop} {H : Option (Value × Nat)}

theorem Rests.withStore {m : Machine} (h : Rests H m) (s : Store) : Rests H { m with store := s } :=
  ⟨h.threads, h.current, h.waiting, h.inHook⟩

theorem Ready.withStore {m : Machine} (h : Ready H m) {s : Store} (hk : Kept places m.store s) :
    Ready H { m with store := s } :=
  ⟨h.rests.withStore s, h.prepared.of_kept hk, h.watched.of_kept hk⟩

theorem prepares_runtime : Prepares (Holds P) runtime fun m c => c.machine = some m ∧ P m := by
  rintro c ⟨m, hm, hP⟩
  rw [runtime_of_machine hm]
  exact ⟨.refl c, hm, hP⟩

theorem prepares_setRuntime {A : Context → Prop} {m : Machine} (h : P m) :
    Prepares A (setRuntime m) fun _ => Holds P :=
  prepares_modify fun _ _ => ⟨⟨rfl, rfl, rfl, rfl, rfl⟩, m, rfl, h⟩

theorem prepares_withStore {f : Store → Store} (h : ∀ m, P m → Q { m with store := f m.store }) :
    Prepares (Stands P) (withStore f) fun _ => Stands Q := by
  rintro c ⟨⟨m, hm, hP⟩, hhooks⟩
  unfold withStore
  rw [bind_run_ok (runtime_of_machine hm)]
  exact ⟨⟨rfl, rfl, rfl, rfl, rfl⟩, ⟨_, rfl, h m hP⟩, hhooks⟩

theorem prepares_hook (name : String) (f : PreludeHooks → Value) :
    Prepares (Stands P) (hook name f) fun v c => v = f preludeHooks ∧ Stands P c := by
  intro c hc
  unfold hook
  rw [bind_run_ok (get_run c), hc.hooks]
  exact ⟨.refl c, rfl, hc⟩

/-- What a call of a function of the prelude leaves, if it can be followed to its end. -/
theorem callInternal_of_runs {R : List Value → Machine → Prop} (failing : String) {f : Value}
    {arguments : List Value} {c : Context} {m : Machine} (hm : c.machine = some m) (hr : Rests H m)
    (h : Runs w (Quiet c) (Returned R) H 0 (Spot.called m.store f arguments)) :
    Quiet c (callInternal w failing f arguments c).2 ∧
      Attains (fun vs => Holds (R vs)) (callInternal w failing f arguments c).1
        (callInternal w failing f arguments c).2 := by
  obtain ⟨r, m', c', hcall, hquiet, hm', hleaves⟩ := callWithin_of_runs Machine.plenty hm hr h
  unfold callInternal call
  rw [bind_run_ok hcall]
  split
  · exact ⟨hquiet, m', hm', hleaves⟩
  · cases hleaves
  · exact ⟨hquiet, trivial⟩

theorem Attains.stands {α : Type} {P : α → Machine → Prop} {r : Except Failure α} {c : Context}
    (h : Attains (fun a => Holds (P a)) r c) (hhooks : c.hooks = some preludeHooks) :
    Attains (fun a => Stands (P a)) r c := by
  match r, h with
  | .ok a, h => exact ⟨h, hhooks⟩
  | .error (.fault _), _ => trivial

theorem prepares_callInternal {R : List Value → Machine → Prop} (failing : String) {f : Value}
    {arguments : List Value} (h : ∀ L m, (∀ c c', L c → Quiet c c' → L c') → P m →
      ∃ H, Rests H m ∧ Runs w L (Returned R) H 0 (Spot.called m.store f arguments)) :
    Prepares (Stands P) (callInternal w failing f arguments) fun vs => Stands (R vs) := by
  rintro c ⟨⟨m, hm, hP⟩, hhooks⟩
  obtain ⟨H, hrests, hruns⟩ := h (Quiet c) m (fun _ _ => Quiet.trans) hP
  obtain ⟨hquiet, hattains⟩ := callInternal_of_runs failing hm hrests hruns
  exact ⟨hquiet.toSilent, hattains.stands (hquiet.hooks.trans hhooks)⟩

end

/-! ### Loading the prelude -/

section

variable {w : Surroundings} {L : Context → Prop} {P : List Value → Machine → Prop}

/-- A function that is executed to its end without a call. -/
theorem Runs.executed {s s' : Store} {id k left : Nat} {args : List Value} {a : Activation}
    (hexecute : Script.execute k s (Activation.enter s id args none false 0 true) =
      (left, .ret s' a []))
    (h : ∀ nesting hook ticks environment, Armed none 0 hook →
      P [] ((⟨s', [.entry], 0, nesting, false, .finished (.ok [])⟩ : Spot).machine hook ticks
        environment)) :
    Runs w L (Returned P) none 0 (Spot.called s (.closure id) args) := by
  refine .call_closure rfl ⟨Nat.lt_of_sub_eq_succ rfl, Nat.lt_of_sub_eq_succ rfl⟩ ?_
  exact .execute rfl rfl hexecute (.returned rfl rfl (h _))

/-- The machine is ready, and some globals have these values. -/
def Offers (globals : List (String × Value)) (m : Machine) : Prop :=
  Ready none m ∧ ∀ e ∈ globals, m.store.getText places.globals e.1 = e.2

theorem prepares_takeGlobal {name : String} {v : Value} {globals : List (String × Value)}
    (hfree : IsFree name) (hother : ∀ e ∈ globals, bytes e.1 ≠ bytes name) :
    Prepares (Holds (Offers ((name, v) :: globals))) (takeGlobal name) fun v' c =>
      v' = v ∧ Holds (Offers globals) c := by
  refine .bind prepares_runtime fun m c ⟨hm, hready, hglobals⟩ => ?_
  have hv : m.store.getText m.store.globals name = v := by
    rw [hready.prepared.globals]
    exact hglobals (name, v) (by simp)
  have hkept : Kept places m.store (m.store.setText m.store.globals name .nil) :=
    .rawSet _ _ _ hfree (inward_nil _)
  refine ⟨⟨rfl, rfl, rfl, rfl, rfl⟩, hv, _, rfl, hready.withStore hkept, fun e he => ?_⟩
  rw [← hglobals e (List.mem_cons_of_mem _ he)]
  exact Store.rawGet_rawSet_of_ne (.inr (hother e he))

/-- A context that has been made for a script. -/
def Fresh (c : Context) : Prop := ∃ environment, c.machine = some (Machine.start environment)

/-- The store in which the prelude is run. -/
def firstStore : Store := (loadChunk Library.initialStore chunk).1

variable {others : List (String × Value)}

theorem prepares_main (failing : String) (hothers : ∀ left s a, Context.executed chunk = (left, .ret s a []) →
      ∀ e ∈ others, s.getText places.globals e.1 = e.2) :
    Prepares (Holds fun m => Rests none m ∧ m.store = firstStore)
      (callInternal w failing (.closure 0) []) fun _ => Holds (Offers (hookGlobals ++ others)) := by
  obtain ⟨left, s, a, hexecute, hp, hglobals⟩ := prelude_executes
  rintro c ⟨m, hm, hrests, hstore⟩
  have hruns : Runs w (Quiet c) (Returned fun _ => Offers (hookGlobals ++ others)) none 0
      (Spot.called m.store (.closure 0) []) := by
    rw [hstore]
    refine .executed hexecute fun nesting hook ticks environment harmed => ?_
    exact ⟨⟨rests_machine harmed rfl ticks environment, hp, .inl rfl⟩,
      List.forall_mem_append.mpr ⟨hglobals, hothers left s a hexecute⟩⟩
  obtain ⟨hquiet, hattains⟩ := callInternal_of_runs failing hm hrests hruns
  exact ⟨hquiet.toSilent, hattains⟩

/-- The functions are taken out of the globals, one after the other; others stay. -/
theorem prepares_takeGlobals
    (hothers : ∀ e ∈ others, ∀ taken ∈ hookGlobals, bytes e.1 ≠ bytes taken.1) :
    Prepares (Holds (Offers (hookGlobals ++ others))) (do
      let wrap ← takeGlobal "__ak_wrap"
      let bindHandleSetter ← takeGlobal "__ak_bind_handle_setter"
      let run ← takeGlobal "__ak_run"
      let setDeadline ← takeGlobal "__ak_set_deadline"
      let defineSymbols ← takeGlobal "__ak_define_symbols"
      modify fun c =>
        { c with hooks := some { wrap, bindHandleSetter, run, setDeadline, defineSymbols } })
      fun _ => Stands (Offers others) := by
  have hfree : ∀ e ∈ hookGlobals, IsFree e.1 := by decide +kernel
  have htake : ∀ (name : String) (v : Value) globals, (name, v) ∈ hookGlobals →
      (∀ e ∈ globals, bytes e.1 ≠ bytes name) →
      Prepares (Holds (Offers ((name, v) :: (globals ++ others)))) (takeGlobal name) fun v' c =>
        v' = v ∧ Holds (Offers (globals ++ others)) c :=
    fun name v globals he hglobals => prepares_takeGlobal (hfree (name, v) he)
      (List.forall_mem_append.mpr ⟨hglobals, fun e hother => hothers e hother _ he⟩)
  refine (htake _ _ (hookGlobals.drop 1) (by simp [hookGlobals]) (by decide +kernel)).bind
    fun wrap => prepares_of ?_
  rintro rfl
  refine (htake _ _ (hookGlobals.drop 2) (by simp [hookGlobals]) (by decide +kernel)).bind
    fun bind => prepares_of ?_
  rintro rfl
  refine (htake _ _ (hookGlobals.drop 3) (by simp [hookGlobals]) (by decide +kernel)).bind
    fun run => prepares_of ?_
  rintro rfl
  refine (htake _ _ (hookGlobals.drop 4) (by simp [hookGlobals]) (by decide +kernel)).bind
    fun set => prepares_of ?_
  rintro rfl
  refine (htake _ _ [] (by simp [hookGlobals]) (by decide +kernel)).bind fun define => prepares_of ?_
  rintro rfl
  exact prepares_modify fun c ⟨m, hm, hoffers⟩ => ⟨⟨rfl, rfl, rfl, rfl, rfl⟩, ⟨m, hm, hoffers⟩, rfl⟩

/-- Loading the prelude leaves the globals that it does not take as the prelude has made them. -/
theorem prepares_loadPrelude_offering
    (hleft : ∀ left s a, Context.executed chunk = (left, .ret s a []) →
      ∀ e ∈ others, s.getText places.globals e.1 = e.2)
    (hothers : ∀ e ∈ others, ∀ taken ∈ hookGlobals, bytes e.1 ≠ bytes taken.1) :
    Prepares Fresh (loadPrelude w) fun _ => Stands (Offers others) := by
  have hadvance : Prepares Fresh (advance .created .preludeLoaded) fun _ => Fresh :=
    prepares_advance _ _ fun c hc => hc
  refine hadvance.bind fun _ c ⟨environment, hm⟩ => ?_
  have hruntime : runtime c = (.ok (Machine.start environment), c) := runtime_of_machine hm
  have hload : loadChunk (Machine.start environment).store chunk = (firstStore, .closure 0) := rfl
  have hrests : Rests none { Machine.start environment with store := firstStore } :=
    ⟨⟨none, ⟨rfl, fun h he => by cases he⟩, rfl⟩, rfl, rfl, rfl⟩
  rw [bind_run_ok hruntime, hload]
  have hset := prepares_setRuntime (A := fun _ => True)
    (P := fun m => Rests none m ∧ m.store = firstStore) ⟨hrests, rfl⟩
  exact hset.bind (fun _ => (prepares_main _ hleft).bind fun _ => prepares_takeGlobals hothers) c trivial

theorem prepares_loadPrelude : Prepares Fresh (loadPrelude w) fun _ => Stands (Ready none) :=
  have hnone : Prepares Fresh (loadPrelude w) fun _ => Stands (Offers []) :=
    prepares_loadPrelude_offering (by simp) (by simp)
  hnone.mono (fun _ hc => hc) fun _ _ ⟨⟨m, hm, hready, _⟩, hhooks⟩ => ⟨⟨m, hm, hready⟩, hhooks⟩

end

end KernelConfig.Context
