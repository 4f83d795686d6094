import KernelConfig.Proofs.Apply.Defining
import KernelConfig.Proofs.Apply.Preparation
import KernelConfig.Proofs.Namespace.Plan

/-!
Installing: the capabilities and the globals of a plan are made known to a script, without anything that
the prelude needs being lost.
-/

set_option autoImplicit false

namespace KernelConfig.Context

open Script Script.Prelude

/-! ### Installing the capabilities -/

section

variable {w : Surroundings} {H : Option (Value × Nat)}

theorem kept_setText {name : String} (h : IsFree name) (s : Store) (id : Nat) {v : Value}
    (hv : Inward places.io v) : Kept places s (s.setText id name v) := .rawSet _ _ _ h hv

theorem kept_foldl {α : Type} {f : Store → α → Store} {as : List α}
    (h : ∀ a ∈ as, ∀ s, Kept places s (f s a)) (s : Store) : Kept places s (as.foldl f s) := by
  induction as generalizing s with
  | nil => exact .refl _ s
  | cons a rest ih =>
    rw [List.forall_mem_cons] at h
    exact (h.1 s).trans (ih h.2 _)

/-! ### Closing the sandbox -/

/-- What the sandbox clears, by the library that has it. -/
def clearedMembers : List (Nat × List String) :=
  [(places.globals, ["io", "dofile", "loadfile", "python"]),
    (places.os, ["execute", "remove", "rename", "exit", "tmpname"]), (places.package, ["loadlib"]),
    (places.debug, ["sethook", "getupvalue", "setupvalue", "upvaluejoin", "getlocal", "setlocal",
      "getregistry"])]

def clear (s : Store) (members : List (Nat × List String)) : Store :=
  members.foldl (fun s e => s.clearAll e.1 e.2) s

/-- The way out that it leaves: the io library among those that are loaded. -/
def leftExits : List (Nat × String) := [(places.loaded, "io")]

theorem isFree_clearedMembers : ∀ e ∈ clearedMembers, ∀ name ∈ e.2, IsFree name := by decide +kernel

theorem kept_clear {members : List (Nat × List String)} (h : ∀ e ∈ members, ∀ name ∈ e.2, IsFree name)
    (s : Store) : Kept places s (clear s members) :=
  kept_foldl (fun e he => kept_foldl fun name hname s =>
    kept_setText (h e he name hname) s e.1 (inward_nil _)) s

/-- In a prepared store, the libraries are where the sandbox looks for them. -/
theorem restrict_eq {s : Store} (hp : Prepared places s) :
    restrict s = (clear s clearedMembers).setText places.package "cpath" (.text "") := by
  unfold restrict
  lift_lets
  intro s₁ inLibrary s₂
  have hfold : ∀ (s : Store) (id : Nat) (names : List String),
      names.foldl (fun s name => s.setText id name .nil) s = s.clearAll id names := fun _ _ _ => rfl
  have hlookup : ∀ (s' : Store) (library : String) (f : Store → Nat → Store) (id : Nat),
      s'.getText s'.globals library = .table id → inLibrary s' library f = f s' id := by
    intro s' library f id hid
    simp only [inLibrary, hid]
  clear_value inLibrary
  -- Nothing that has been cleared before is a library.
  have hlibrary : ∀ {library : String} {id : Nat} (n : Nat) (f : Store → Nat → Store),
      (places.globals, library, Value.table id) ∈ places.fields →
      inLibrary (clear s (clearedMembers.take n)) library f =
        f (clear s (clearedMembers.take n)) id := by
    intro library id n f he
    have hfree : ∀ e ∈ clearedMembers.take n, ∀ name ∈ e.2, IsFree name := fun e he =>
      isFree_clearedMembers e (List.mem_of_mem_take he)
    have hp' := hp.of_kept (kept_clear hfree s)
    generalize clear s (clearedMembers.take n) = s' at hp' ⊢
    refine hlookup s' library f id ?_
    rw [hp'.globals]
    exact hp'.fields _ he
  have hos : (places.globals, "os", Value.table places.os) ∈ places.fields := by simp [Places.fields]
  have hpackage : (places.globals, "package", Value.table places.package) ∈ places.fields := by
    simp [Places.fields]
  have hdebug : (places.globals, "debug", Value.table places.debug) ∈ places.fields := by
    simp [Places.fields]
  have h₁ : s₁ = s.clearAll places.globals ["io", "dofile", "loadfile", "python"] := by
    rw [← hp.globals]
    rfl
  have h₂ : s₂ = clear s clearedMembers := by
    have hos := fun f => hlibrary 1 f hos
    have hpackage := fun f => hlibrary 2 f hpackage
    have hdebug := fun f => hlibrary 3 f hdebug
    simp only [clear, clearedMembers, List.take_succ_cons, List.take_zero, List.foldl_cons,
      List.foldl_nil] at hos hpackage hdebug
    simp only [s₂, restricted, hfold, List.foldl_cons, List.foldl_nil, h₁, hos, hpackage, hdebug,
      clear, clearedMembers]
  rw [h₂]
  exact hlibrary 4 _ hpackage

/-- The sandbox takes nothing away that the prelude needs. -/
theorem kept_restrict {s : Store} (hp : Prepared places s) : Kept places s (restrict s) := by
  have hpath : IsFree "cpath" := by decide +kernel
  rw [restrict_eq hp]
  exact (kept_clear isFree_clearedMembers s).trans (kept_setText hpath _ _ (inward_text _ ""))

theorem confined_clear {exits : List (Nat × String)} {s : Store} (h : Confined places.io exits s)
    (members : List (Nat × List String)) :
    Confined places.io (exits.filter fun e => !members.any fun a => e.1 = a.1 && e.2 ∈ a.2)
      (clear s members) := by
  induction members generalizing exits s with
  | nil => simpa [clear] using h
  | cons a rest ih =>
    have hrest := ih (h.clearAll a.1 a.2)
    rw [List.filter_filter] at hrest
    simpa [clear, Bool.and_comm] using hrest

/-- It takes all away that leads out of a script, except at one place. -/
theorem confined_restrict {s : Store} (hp : Prepared places s) :
    Confined places.io leftExits (restrict s) := by
  have hcleared : Confined places.io leftExits (clear s clearedMembers) :=
    (confined_clear hp.confined clearedMembers).mono (by decide +kernel)
  rw [restrict_eq hp]
  exact hcleared.of_harmless (.rawSet _ _ _ (inward_text _ ""))

/-! ### Functions for the script -/

/-- A property that a prepared store keeps as long as nothing of what the prelude needs is lost. -/
def Stable (I : Store → Prop) : Prop := ∀ s s', Prepared places s → Kept places s s' → I s → I s'

/-- The machine is ready, and its store has a property. -/
def ReadyWith (H : Option (Value × Nat)) (I : Store → Prop) (m : Machine) : Prop := Ready H m ∧ I m.store

/-- A function asks the host for a capability, and raises its errors some functions up. -/
def Grants (s : Store) (f : Nat) (what : Capability) (level : Int64) : Prop :=
  Wraps places s f (.host (.function what.guestName)) (.int level)

/-- Scripts and handles have what they set symbols with: a global, and a variable of the prelude. -/
structure Equipped (s : Store) : Prop where
  symbolSet : ∃ f, s.getText places.globals "symbol_set" = .closure f ∧ Grants s f .setAny 2
  setter : ∃ f, s.cell places.setter = .closure f ∧ Grants s f .setAny 4

theorem Stable.and {I J : Store → Prop} (hI : Stable I) (hJ : Stable J) : Stable fun s => I s ∧ J s :=
  fun s s' hp hk h => ⟨hI s s' hp hk h.1, hJ s s' hp hk h.2⟩

theorem stable_symbolSet : Stable fun s =>
    ∃ f, s.getText places.globals "symbol_set" = .closure f ∧ Grants s f .setAny 2 := by
  rintro s s' - hk ⟨f, hf, hgrants⟩
  refine ⟨f, ?_, hk.wraps hgrants⟩
  rw [hk.fields places.globals (by simp [Places.tables]) "symbol_set" (by simp [fixedKeys]), hf]

theorem stable_equipped : Stable Equipped := by
  rintro s s' hp hk ⟨hsymbolSet, f, hf, hgrants⟩
  refine ⟨stable_symbolSet s s' hp hk hsymbolSet, f, ?_, hk.wraps hgrants⟩
  rw [hk.cells _ hp.setter (hp.changing _ (by simp [Places.changing])).1, hf]

section

variable {I : Store → Prop} (hI : Stable I)

include hI

theorem prepares_withStore_of_kept {f : Store → Store}
    (h : ∀ s, Prepared places s → Kept places s (f s)) :
    Prepares (Stands (ReadyWith H I)) (withStore f) fun _ => Stands (ReadyWith H I) :=
  prepares_withStore fun m hm =>
    have hk := h m.store hm.1.prepared
    ⟨hm.1.withStore hk, hI _ _ hm.1.prepared hk hm.2⟩

/-- What the script gets is a function of the prelude. -/
theorem prepares_wrapped (what : Capability) (level : Int64) :
    Prepares (Stands (ReadyWith none I)) (wrapped w what level) fun v c => ∃ f, v = .closure f ∧
      Stands (ReadyWith none fun s => I s ∧ Grants s f what level) c := by
  refine (prepares_hook _ _).bind fun wrap => prepares_of ?_
  rintro rfl
  refine Prepares.bind (prepares_callInternal
    (R := fun vs m => ∃ f, vs = [.closure f] ∧ ReadyWith none (fun s => I s ∧ Grants s f what level) m) _
    fun L m _ hm => ⟨none, hm.1.rests, ?_⟩) fun vs => prepares_pure _ ?_
  · refine runs_wrap hm.1.prepared _ _ fun s f hook ticks environment hk hwraps harmed => ⟨f, rfl, ?_, ?_⟩
    · exact ⟨rests_machine harmed rfl ticks environment, hm.1.prepared.of_kept hk, .inl rfl⟩
    · exact ⟨hI _ _ hm.1.prepared hk hm.2, hwraps⟩
  · rintro c ⟨⟨m, hm, f, rfl, hready⟩, hhooks⟩
    exact ⟨f, rfl, ⟨m, hm, hready⟩, hhooks⟩

theorem prepares_wrappedMembers (members : List Capability) :
    Prepares (Stands (ReadyWith none I)) (wrappedMembers w members) fun fs c =>
      (∀ e ∈ fs, ∃ id, e.2 = .closure id) ∧ Stands (ReadyWith none I) c := by
  induction members with
  | nil => exact prepares_pure _ fun c hc => ⟨by simp, hc⟩
  | cons what rest ih =>
    refine (prepares_wrapped hI what 2).bind fun v => prepares_exists fun f => prepares_of fun hv => ?_
    refine Prepares.bind (ih.mono (fun c hc => hc.mono fun m hm => ⟨hm.1, hm.2.1⟩) fun _ _ h => h)
      fun fs => ?_
    exact prepares_pure _ fun c hc => ⟨List.forall_mem_cons.mpr ⟨⟨f, hv⟩, hc.1⟩, hc.2⟩

theorem prepares_setGlobal {name : String} (h : IsFree name) (f : Nat) :
    Prepares (Stands (ReadyWith H I)) (setGlobal name (.closure f)) fun _ => Stands (ReadyWith H I) :=
  prepares_withStore_of_kept hI fun s _ => kept_setText h s _ (inward_closure _ f)

end

theorem prepares_setSymbolSet (f : Nat) :
    Prepares (Stands (ReadyWith none fun s => Grants s f .setAny 2)) (setGlobal "symbol_set" (.closure f))
      fun _ => Stands (ReadyWith none fun s =>
        ∃ f, s.getText places.globals "symbol_set" = .closure f ∧ Grants s f .setAny 2) := by
  refine prepares_withStore fun m hm => ?_
  obtain ⟨⟨hrests, hp, hwatched⟩, hgrants⟩ := hm
  have hbound : places.globals < m.store.tables.size := hp.tables _ (by simp [Places.tables])
  rw [hp.globals]
  refine ⟨⟨hrests.withStore _, hp.setSymbolSet (inward_closure _ f), .inl rfl⟩, f, ?_, ?_⟩
  · exact (Store.rawGet_rawSet hbound).trans (if_pos ⟨rfl, rfl⟩)
  · exact hgrants.of_cells rfl (Nat.le_refl _) fun _ _ => rfl

/-- The table of the capabilities has nothing in it that leads out of a script. -/
theorem inward_members (version : String) {members : List (String × Value)}
    (h : ∀ e ∈ members, ∃ id, e.2 = .closure id) :
    (members.foldl (fun (t : Script.Table) e => t.setText e.1 e.2)
      (({} : Script.Table).setText "kernel_version" (.text version))).IsInward places.io := by
  have hall : ∀ t : Script.Table, t.IsInward places.io →
      (members.foldl (fun (t : Script.Table) e => t.setText e.1 e.2) t).IsInward places.io := by
    induction members with
    | nil => exact fun t ht => ht
    | cons e rest ih =>
      rw [List.forall_mem_cons] at h
      obtain ⟨⟨id, hid⟩, hrest⟩ := h
      exact fun t ht => ih hrest _ (ht.set _ (by rw [hid]; exact inward_closure _ id))
  exact hall _ ((Table.inward_empty _).set _ (inward_text _ version))

/-- The machine is ready, whether or not there is a deadline. -/
def IsReady (m : Machine) : Prop := ∃ H, Ready H m

theorem prepares_bindSetter {failing : String} (f : Nat) :
    Prepares (Stands (ReadyWith none fun s =>
        (∃ f, s.getText places.globals "symbol_set" = .closure f ∧ Grants s f .setAny 2) ∧
          Grants s f .setAny 4))
      (callInternal w failing preludeHooks.bindHandleSetter [.closure f])
      fun _ => Stands (ReadyWith none Equipped) := by
  refine prepares_callInternal (R := fun _ => ReadyWith none Equipped) _ fun L m _ hm =>
    ⟨none, hm.1.rests, ?_⟩
  obtain ⟨⟨-, hp, -⟩, ⟨g, hg, hgrants⟩, hsetter⟩ := hm
  refine runs_bindSetter hp _ fun hook ticks environment harmed => ⟨?_, ?_, ?_⟩
  · exact ⟨rests_machine harmed rfl ticks environment, hp.setSetter _, .inl rfl⟩
  -- What the functions have in their variables is not the setter.
  all_goals
    have hcells : ∀ i ∉ places.changing,
        (m.store.setCell places.setter (.closure f)).cell i = m.store.cell i := fun i hi =>
      Store.cell_setCell_of_ne (fun he : i = places.setter => hi (by simp [Places.changing, he])) _ _
    have hsize : m.store.cells.size ≤ (m.store.setCell places.setter (.closure f)).cells.size := by
      simp [Store.setCell]
  · exact ⟨g, hg, hgrants.of_cells rfl hsize hcells⟩
  · refine ⟨f, ?_, hsetter.of_cells rfl hsize hcells⟩
    exact Store.cell_setCell (hp.changing places.setter (by simp [Places.changing])).1 _

theorem prepares_setDeadline {failing : String} {I : Store → Prop} (hI : Stable I) :
    Prepares (Stands (ReadyWith none I)) (callInternal w failing preludeHooks.setDeadline
      [.host (.function deadlineName), .int 10000]) fun _ => Stands fun m => IsReady m ∧ I m.store := by
  refine prepares_callInternal (R := fun _ m => IsReady m ∧ I m.store) _ fun L m hL hm =>
    ⟨none, hm.1.rests, ?_⟩
  have hp := hm.1.prepared
  refine runs_setDeadline hL hp fun s f check hook ticks environment hk ht harmed => ⟨?_, hI _ _ hp hk hm.2⟩
  exact ⟨_, rests_machine harmed rfl ticks environment, hp.of_kept hk, .inr ⟨f, check, rfl, ht⟩⟩

/-- The machine is ready, scripts and handles can set symbols, and a sandbox leaves one way out. -/
structure IsInstalled (w : Surroundings) (m : Machine) : Prop where
  ready : IsReady m
  equipped : Equipped m.store
  confined : w.settings.sandbox = true → Confined places.io leftExits m.store

theorem prepares_sandbox : Prepares (Stands fun m => IsReady m ∧ Equipped m.store)
    (if w.settings.sandbox then withStore restrict else pure ()) fun _ => Stands (IsInstalled w) := by
  split
  · refine prepares_withStore fun m hm => ?_
    obtain ⟨⟨H, hready⟩, hequipped⟩ := hm
    have hp := hready.prepared
    have hconfined := confined_restrict hp
    have hequipped' := stable_equipped _ _ hp (kept_restrict hp) hequipped
    have hready' := hready.withStore (kept_restrict hp)
    generalize restrict m.store = s at hconfined hready' hequipped' ⊢
    exact ⟨⟨H, hready'⟩, hequipped', fun _ => hconfined⟩
  · rename_i hoff
    exact prepares_pure _ fun c hc => hc.mono fun m hm => ⟨hm.1, hm.2, fun hon => absurd hon hoff⟩

theorem prepares_installApi :
    Prepares (Stands (Ready none)) (installApi w) fun _ => Stands (IsInstalled w) := by
  have htrue : Stable fun _ => True := fun _ _ _ _ _ => trivial
  refine Prepares.bind (prepares_advance (B := Stands (ReadyWith none fun _ => True)) _ _ fun c hc =>
    ⟨hc.machine.imp fun m hm => ⟨hm.1, hm.2, trivial⟩, hc.hooks⟩) fun _ => ?_
  refine (prepares_hook _ _).bind fun wrap => prepares_of fun _ => ?_
  refine prepares_get.bind fun c => Prepares.bind
    ((prepares_wrappedMembers htrue _).mono (fun _ h => h.2) fun _ _ h => h) fun members =>
    prepares_of fun hmembers => ?_
  have hfree : ∀ name ∈ ["ak", "load_kconfig"], IsFree name := by decide +kernel
  refine Prepares.bind (prepares_withStore_of_kept htrue fun s hp =>
    (hp.addTable (inward_members _ hmembers)).trans (kept_setText (hfree "ak" (by simp)) _ _
      (inward_table (hp.ne_io (Nat.le_refl _))))) fun _ => ?_
  refine (prepares_wrapped htrue _ _).bind fun set => prepares_exists fun f => prepares_of ?_
  rintro rfl
  refine Prepares.bind ((prepares_setSymbolSet f).mono
    (fun c hc => hc.mono fun m hm => ⟨hm.1, hm.2.2⟩) fun _ _ h => h) fun _ => ?_
  refine (prepares_wrapped stable_symbolSet _ _).bind fun load => prepares_exists fun g =>
    prepares_of ?_
  rintro rfl
  refine Prepares.bind ((prepares_setGlobal stable_symbolSet (hfree "load_kconfig" (by simp)) g).mono
    (fun c hc => hc.mono fun m hm => ⟨hm.1, hm.2.1⟩) fun _ _ h => h) fun _ => ?_
  refine (prepares_hook _ _).bind fun bind => prepares_of ?_
  rintro rfl
  refine (prepares_wrapped stable_symbolSet _ _).bind fun setter => prepares_exists fun k =>
    prepares_of ?_
  rintro rfl
  refine (prepares_bindSetter k).bind fun _ => ?_
  lift_lets
  intro rest
  have hrest : Prepares (Stands fun m => IsReady m ∧ Equipped m.store) (rest ())
      fun _ => Stands (IsInstalled w) := prepares_sandbox
  split
  · refine Prepares.bind (prepares_modify (B := Stands (ReadyWith none Equipped)) fun c hc =>
      ⟨⟨rfl, rfl, rfl, rfl, rfl⟩, hc.machine, hc.hooks⟩) fun _ => ?_
    refine (prepares_hook _ _).bind fun set => prepares_of ?_
    rintro rfl
    exact (prepares_setDeadline stable_equipped).bind fun _ => hrest
  · exact hrest.mono (fun c hc => hc.mono fun m hm => ⟨⟨none, hm.1⟩, hm.2⟩) fun _ _ h => h

end

/-! ### Installing the globals of a plan -/

section

open Namespace (Binding)

theorem bindingTables_eq (s : Store) (bs : List Binding) : bindingTables s bs =
    ({ s with tables := s.tables ++ ((bs.map entryTable).toArray.push
        { items := ((List.range' s.tables.size bs.length).map Value.table).toArray }) },
      .table (s.tables.size + bs.length)) := by
  let entry : Store × Array Value → Binding → Store × Array Value := fun p b =>
    ((p.1.addTable (entryTable b)).1, p.2.push (.table (p.1.addTable (entryTable b)).2))
  let listed : Store × Array Value → Store × Value := fun p =>
    ((p.1.addTable { items := p.2 }).1, .table (p.1.addTable { items := p.2 }).2)
  have hfold : ∀ (bs : List Binding) (s : Store) (items : Array Value), bs.foldl entry (s, items) =
      ({ s with tables := s.tables ++ (bs.map entryTable).toArray },
        items ++ ((List.range' s.tables.size bs.length).map Value.table).toArray) := by
    intro bs
    induction bs with
    | nil => intro s items; simp
    | cons b rest ih =>
      intro s items
      rw [List.foldl_cons, ih]
      simp [Store.addTable, List.range'_succ]
  have hentries := hfold bs s #[]
  show listed (bs.foldl entry (s, #[])) = _
  rw [hentries]
  simp [listed, Store.addTable]

/-- The tables of a plan have texts in them, and other new tables. -/
theorem inward_bindingTables {s : Store} (hp : Prepared places s) (bs : List Binding) :
    ∀ t ∈ (bs.map entryTable).toArray.push
      { items := ((List.range' s.tables.size bs.length).map Value.table).toArray },
      t.IsInward places.io := by
  have hentry : ∀ b, (entryTable b).IsInward places.io := fun b => by
    refine Table.inward_items fun v hv => ?_
    have hbare : Inward places.io ((b.bare.map Value.text).getD (.bool false)) := by
      cases b.bare <;> simp
    simp only [List.mem_cons, List.not_mem_nil, or_false] at hv
    rcases hv with rfl | rfl | rfl
    exacts [inward_text _ _, inward_text _ _, hbare]
  have hlist : ({ items := ((List.range' s.tables.size bs.length).map Value.table).toArray } :
      Script.Table).IsInward places.io := by
    refine Table.inward_items fun v hv => ?_
    obtain ⟨id, hid, rfl⟩ := List.mem_map.mp hv
    exact inward_table (hp.ne_io (List.mem_range'_1.mp hid).1)
  intro t ht
  rcases Array.mem_push.mp ht with hmem | rfl
  · obtain ⟨b, -, rfl⟩ := List.mem_map.mp (List.mem_toArray.mp hmem)
    exact hentry b
  · exact hlist

theorem listed_bindingTables {s : Store} (hp : Prepared places s) (bs : List Binding) :
    ∃ s' list entries, bindingTables s bs = (s', .table list) ∧ Kept places s s' ∧
      Listed places s' bs list entries := by
  refine ⟨_, _, List.range' s.tables.size bs.length, bindingTables_eq s bs,
    hp.moreTables (inward_bindingTables hp bs), ?_⟩
  have hglobals : places.globals < s.tables.size := hp.tables _ (by simp [Places.tables])
  constructor
  · simp [Store.table]
  · simp
  · intro k b hb
    obtain ⟨hk, rfl⟩ := List.getElem?_eq_some_iff.mp hb
    refine ⟨s.tables.size + k, by simp [List.getElem?_range' hk], ?_⟩
    simp [Store.table, Array.getElem?_append_right, List.getElem?_append_left, hk]
  · intro id hid
    simp only [List.mem_cons, List.mem_range'_1] at hid
    simp only [Array.size_append, Array.size_push, List.size_toArray, List.length_map]
    omega

/-- The prelude depends on no global that a plan generates. -/
theorem isFree_of_plan {lead : String} {names : List String} {bs : List Binding}
    (h : Namespace.plan lead names = .ok bs) :
    ∀ b ∈ bs, ∀ id ∈ b.identifiers, IsFree id := by
  obtain ⟨rfl, hids⟩ := Namespace.plan_eq_ok h
  intro b hb id hid key hkey heq
  obtain ⟨name, hname, rfl⟩ := List.mem_map.mp hb
  have hel : Namespace.isEligible id = true := by
    have hel := (Namespace.mem_eligibleNames.mp hname).2
    rcases Namespace.mem_identifiers_bindingOf.mp hid with rfl | ⟨rfl, -⟩
    · exact Namespace.isEligible_append lead hel
    · exact hel
  have hkeys : ∀ key ∈ fixedKeys, Namespace.isEligible key = true → key ∈ Namespace.reserved := by
    decide +kernel
  obtain rfl : key = id := Text.utf8_injective heq
  exact (hids _ hb _ hid).2 (hkeys key hkey hel)

variable {w : Surroundings}

theorem IsInstalled.of_kept {m m' : Machine} (h : IsInstalled w m) (hready : IsReady m')
    (hk : Kept places m.store m'.store) : IsInstalled w m' := by
  obtain ⟨⟨H, hbefore⟩, hequipped, hconfined⟩ := h
  exact ⟨hready, stable_equipped _ _ hbefore.prepared hk hequipped, fun hon =>
    (hconfined hon).of_harmless hk.harmless⟩

/-- The machine has been installed, and the bindings have been defined in it. -/
def Defines (w : Surroundings) (bs : List Binding) (m : Machine) : Prop :=
  IsInstalled w m ∧ ∃ s, Prepared places s ∧
    m.store = (bs.take (Table.visible bs.length)).foldl (define places) s

/-- What the context of a script is like when the script is run. -/
def Namespaced (w : Surroundings) (c : Context) : Prop :=
  ∃ bs, Namespace.plan w.settings.symbolLead c.shared.table.names = .ok bs ∧ Stands (Defines w bs) c

theorem prepares_define {failing : String} {bs : List Binding}
    (hfree : ∀ b ∈ bs, ∀ id ∈ b.identifiers, IsFree id) {list : Nat} :
    Prepares (Stands fun m => IsInstalled w m ∧ ∃ entries, Listed places m.store bs list entries)
      (callInternal w failing preludeHooks.defineSymbols [.table list])
      fun _ => Stands (Defines w bs) := by
  refine prepares_callInternal (R := fun _ => Defines w bs) _ fun L m hL hm => ?_
  obtain ⟨hinstalled, entries, hlisted⟩ := hm
  obtain ⟨H, hready⟩ := hinstalled.ready
  refine ⟨H, hready.rests, ?_⟩
  refine runs_define hL hready.prepared hready.watched hlisted hfree
    fun hook ticks environment harmed => ?_
  have hk : Kept places m.store ((bs.take (Table.visible bs.length)).foldl (define places) m.store) :=
    kept_foldl_define hready.prepared fun b hb => hfree b (List.mem_of_mem_take hb)
  exact ⟨hinstalled.of_kept ⟨H, rests_machine harmed rfl ticks environment,
    hready.prepared.of_kept hk, hready.watched.of_kept hk⟩ hk, m.store, hready.prepared, rfl⟩

theorem prepares_installNamespace :
    Prepares (Stands (IsInstalled w)) (installNamespace w) fun _ => Namespaced w := by
  refine Prepares.bind (prepares_advance (B := Stands (IsInstalled w)) _ _ fun c hc =>
    ⟨hc.machine, hc.hooks⟩) fun _ => ?_
  refine prepares_get.bind fun c => ?_
  cases hplan : Namespace.plan w.settings.symbolLead c.shared.table.names with
  | error f => exact prepares_fail _
  | ok bs =>
    refine Prepares.mono (Prepares.frame (A := Stands (IsInstalled w)) (B := fun _ => Stands (Defines w bs))
      (F := fun c => Namespace.plan w.settings.symbolLead c.shared.table.names = .ok bs)
      ?_ fun c c' h hF => by rw [h.table]; exact hF) ?_ fun _ c h => ⟨bs, h⟩
    swap
    · rintro c' ⟨rfl, hc⟩
      exact ⟨hplan, hc⟩
    -- The tables of the plan are made.
    rintro c ⟨⟨m, hm, hinstalled⟩, hhooks⟩
    obtain ⟨H, hready⟩ := hinstalled.ready
    have hruntime : runtime c = (.ok m, c) := runtime_of_machine hm
    obtain ⟨s, list, entries, htables, hk, hlisted⟩ := listed_bindingTables hready.prepared bs
    have hset : Prepares (fun c => c.hooks = some preludeHooks) (setRuntime { m with store := s })
        fun _ => Stands fun m => IsInstalled w m ∧ ∃ entries, Listed places m.store bs list entries :=
      prepares_modify fun c hc => ⟨⟨rfl, rfl, rfl, rfl, rfl⟩,
        ⟨_, rfl, hinstalled.of_kept ⟨H, hready.withStore hk⟩ hk, entries, hlisted⟩, hc⟩
    dsimp only
    rw [bind_run_ok hruntime, htables]
    refine hset.bind (fun _ => ?_) c hhooks
    refine (prepares_hook _ _).bind fun define => prepares_of ?_
    rintro rfl
    refine (prepares_define (isFree_of_plan hplan)).bind fun _ => prepares_get.bind fun c => ?_
    exact fun c' ⟨_, hc'⟩ => ⟨⟨rfl, rfl, rfl, rfl, rfl⟩, hc'.machine, hc'.hooks⟩

/-- All that is done in a context before its script is run. -/
def prepare (w : Surroundings) : Stepping Unit := do
  loadPrelude w
  installApi w
  installNamespace w

/-- The preparation of a script is silent, and leaves the globals of the plan. -/
theorem prepares_all : Prepares Fresh (prepare w) fun _ => Namespaced w :=
  prepares_loadPrelude.bind fun _ => prepares_installApi.bind fun _ => prepares_installNamespace

end

end KernelConfig.Context
