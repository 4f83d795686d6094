import Mathlib.Data.List.TakeWhile
import Mathlib.Logic.Relation
import KernelConfig.Kernel.Release
import KernelConfig.Proofs.Text.Lines

/-!
Kernel releases: a makefile whose lines define the variables of a release, or do not begin with the name
of one, is read line by line. The first definition of each variable makes the release, and nothing else
in the makefile does.
-/

set_option autoImplicit false

namespace KernelConfig.Kernel

/-! ### Lines -/

def isGap (c : Char) : Bool := c = ' ' || c = '\t'

/-- A line that defines a variable: its name and its value around an equals sign. A value that is not
empty may have a blank behind it, and then whatever follows. -/
structure Definition where
  name : String
  before : List Char
  between : List Char
  value : List Char
  behind : List Char
  name_mem : name ∈ variableNames
  before_gap : ∀ c ∈ before, isGap c = true
  between_gap : ∀ c ∈ between, isGap c = true
  value_solid : ∀ c ∈ value, Text.isBlank c = false
  behind_apart : behind = [] ∨ value ≠ [] ∧ ∃ c rest, behind = c :: rest ∧ Text.isBlank c = true

def Definition.text (d : Definition) : List Char :=
  d.name.toList ++ (d.before ++ '=' :: (d.between ++ (d.value ++ d.behind)))

inductive Line where
  | definition (d : Definition)
  | other (text : List Char) (h : ∀ name ∈ variableNames, ¬ name.toList <+: text)

namespace Line

def text : Line → List Char
  | definition d => d.text
  | other text _ => text

/-- The variable that a line defines, with its value. -/
def assignment? : Line → Option (String × String)
  | definition d => some (d.name, String.ofList d.value)
  | other _ _ => none

def valueOf? (name : String) (l : Line) : Option String :=
  l.assignment?.bind fun a => if a.1 = name then some a.2 else none

def defines (name : String) (l : Line) : Bool := (l.valueOf? name).isSome

end Line

@[simp] theorem Line.valueOf?_definition (d : Definition) (name : String) :
    (definition d).valueOf? name = if d.name = name then some (String.ofList d.value) else none := rfl

@[simp] theorem Line.valueOf?_other (s : List Char) (h : ∀ name ∈ variableNames, ¬ name.toList <+: s)
    (name : String) : (other s h).valueOf? name = none := rfl

/-- The value of a variable in the first line that defines it. -/
def firstValue? (ls : List Line) (name : String) : Option String := ls.findSome? (Line.valueOf? name)

@[simp] theorem firstValue?_cons (l : Line) (ls : List Line) (name : String) :
    firstValue? (l :: ls) name = (l.valueOf? name).or (firstValue? ls name) := by
  rw [firstValue?, List.findSome?_cons]
  cases l.valueOf? name <;> rfl

@[simp] theorem firstValue?_append (ls ls' : List Line) (name : String) :
    firstValue? (ls ++ ls') name = (firstValue? ls name).or (firstValue? ls' name) :=
  List.findSome?_append

/-! ### A line -/

theorem isBlank_of_isGap {c : Char} (h : isGap c = true) : Text.isBlank c = true := by
  simp only [isGap, Bool.or_eq_true, decide_eq_true_eq] at h
  rcases h with rfl | rfl <;> decide

/-- What stands behind a line. -/
def Feeds (tail : List Char) : Prop := tail = [] ∨ ∃ s, tail = '\n' :: s

theorem eq_of_prefix_of_mem_variableNames : ∀ a ∈ variableNames, ∀ b ∈ variableNames,
    a.toList <+: b.toList → a = b := by
  decide

theorem lineFeed_not_mem_variableName : ∀ name ∈ variableNames, '\n' ∉ name.toList := by
  decide

/-- A name at the start of a line does not go past the end of the line. -/
theorem prefix_of_prefix_append {name : String} (hname : name ∈ variableNames) {s tail : List Char}
    (htail : Feeds tail) (h : name.toList <+: s ++ tail) : name.toList <+: s := by
  rcases List.prefix_or_prefix_of_prefix h (List.prefix_append s tail) with hs | ⟨t, ht⟩
  · exact hs
  · rw [← ht, List.prefix_append_right_inj] at h
    cases t with
    | nil => exact ⟨[], by rw [List.append_nil, ← ht, List.append_nil]⟩
    | cons c t =>
      rcases htail with rfl | ⟨u, rfl⟩
      · cases List.prefix_nil.mp h
      · obtain rfl : c = '\n' := (List.cons_prefix_cons.mp h).1
        exact absurd (ht ▸ by simp) (lineFeed_not_mem_variableName name hname)

theorem assignmentOf?_eq_none {s : List Char} {name : String} (h : ¬ name.toList <+: s) :
    assignmentOf? s name = none := by
  rw [assignmentOf?, if_neg (by rwa [List.isPrefixOf_iff_prefix])]

theorem dropWhile_append_of_stop {p : Char → Bool} {u v : List Char} (hu : ∀ c ∈ u, p c = true)
    (hv : ∀ c, v.head? = some c → p c = false) : (u ++ v).dropWhile p = v := by
  rw [List.dropWhile_append_of_pos hu, Text.dropWhile_eq_self hv]

theorem takeWhile_append_of_stop {p : Char → Bool} {u v : List Char} (hu : ∀ c ∈ u, p c = true)
    (hv : ∀ c, v.head? = some c → p c = false) : (u ++ v).takeWhile p = u := by
  rw [List.takeWhile_append_of_pos hu]
  cases v with
  | nil => simp
  | cons c v => simp [hv c rfl]

namespace Definition

variable (d : Definition) {tail : List Char} (htail : Feeds tail)

include htail

/-- Behind a value there is a blank or nothing; behind an empty one the line ends. -/
theorem head?_behind {c : Char} (h : (d.behind ++ tail).head? = some c) :
    Text.isBlank c = true ∧ (d.value = [] → c = '\n') := by
  rcases d.behind_apart with hnone | ⟨hvalue, b, rest, hbehind, hblank⟩
  · rw [hnone, List.nil_append] at h
    rcases htail with rfl | ⟨s, rfl⟩
    · cases h
    · cases h
      exact ⟨by decide, fun _ => rfl⟩
  · rw [hbehind] at h
    cases h
    exact ⟨hblank, fun hempty => absurd hempty hvalue⟩

theorem isGap_head?_value {c : Char} (h : (d.value ++ (d.behind ++ tail)).head? = some c) :
    isGap c = false := by
  cases hvalue : d.value with
  | nil =>
    rw [hvalue, List.nil_append] at h
    rw [(d.head?_behind htail h).2 hvalue]
    decide
  | cons b v =>
    rw [hvalue] at h
    cases h
    have hsolid := d.value_solid c (by simp [hvalue])
    exact eq_false_of_ne_true fun hgap => by simp [isBlank_of_isGap hgap] at hsolid

theorem assignmentOf?_text : assignmentOf? (d.text ++ tail) d.name =
    some ((d.name, String.ofList d.value), d.behind ++ tail) := by
  have hequals : (d.before ++ '=' :: (d.between ++ (d.value ++ (d.behind ++ tail)))).dropWhile
      Text.isBlank = '=' :: (d.between ++ (d.value ++ (d.behind ++ tail))) :=
    dropWhile_append_of_stop (fun c hc => isBlank_of_isGap (d.before_gap c hc))
      fun c hc => by cases hc; decide
  have hgap : (d.between ++ (d.value ++ (d.behind ++ tail))).dropWhile
      (fun c => c = ' ' || c = '\t') = d.value ++ (d.behind ++ tail) :=
    dropWhile_append_of_stop d.between_gap fun c hc => d.isGap_head?_value htail hc
  have hvalue : (d.value ++ (d.behind ++ tail)).takeWhile (fun c => !Text.isBlank c) = d.value :=
    takeWhile_append_of_stop (fun c hc => by simp [d.value_solid c hc])
      fun c hc => by simp [(d.head?_behind htail hc).1]
  have hsplit : d.text ++ tail = d.name.toList ++
      (d.before ++ '=' :: (d.between ++ (d.value ++ (d.behind ++ tail)))) := by
    simp [text]
  have hname : d.name.toList.isPrefixOf (d.text ++ tail) = true := by
    rw [List.isPrefixOf_iff_prefix, hsplit]
    exact List.prefix_append _ _
  rw [assignmentOf?, if_pos hname, hsplit, ← String.length_toList, List.drop_left, hequals]
  simp only [hgap, hvalue, List.drop_left]

end Definition

/-! ### Scanning -/

/-- What a scan of a text finds, the start of it being one of a line or not. -/
def Scans (lineStart : Bool) (s : List Char) (as : List (String × String)) : Prop :=
  ∀ fuel, s.length ≤ fuel → assignmentsFrom fuel lineStart s = as

namespace Scans

variable {s tail : List Char} {as : List (String × String)}

theorem nil (lineStart : Bool) : Scans lineStart [] [] := by
  intro fuel _
  cases fuel <;> rfl

theorem skip {c : Char} (h : Scans (c = '\n') s as) : Scans false (c :: s) as := by
  intro fuel hfuel
  obtain ⟨fuel, rfl⟩ := Nat.exists_eq_add_one_of_ne_zero (Nat.ne_zero_of_lt hfuel)
  exact h fuel (Nat.le_of_succ_le_succ hfuel)

/-- Where no variable is assigned, the start of a line is like any other place. -/
theorem of_unmatched (hs : variableNames.findSome? (assignmentOf? s) = none)
    (h : Scans false s as) : Scans true s as := by
  intro fuel hfuel
  rw [← h fuel hfuel]
  cases fuel with
  | zero => cases s <;> rfl
  | succ fuel =>
    cases s with
    | nil => rfl
    | cons c s =>
      rw [assignmentsFrom, assignmentsFrom, if_pos rfl, hs]
      rfl

theorem take {a : String × String} {rest : List Char}
    (hs : variableNames.findSome? (assignmentOf? s) = some (a, rest)) (hrest : rest.length < s.length)
    (h : Scans false rest as) : Scans true s (a :: as) := by
  intro fuel hfuel
  obtain ⟨fuel, rfl⟩ := Nat.exists_eq_add_one_of_ne_zero (by omega : fuel ≠ 0)
  obtain ⟨c, s, rfl⟩ := List.exists_cons_of_length_pos (by omega : 0 < s.length)
  rw [assignmentsFrom, if_pos rfl, hs]
  dsimp only
  rw [h fuel (by omega)]

theorem append {w : List Char} (hw : '\n' ∉ w) (h : Scans false tail as) :
    Scans false (w ++ tail) as := by
  induction w with
  | nil => exact h
  | cons c w ih =>
    simp only [List.mem_cons, not_or] at hw
    refine skip ?_
    rw [decide_eq_false (Ne.symm hw.1)]
    exact ih hw.2

end Scans

theorem findSome?_of_unique {α β : Type} {f : α → Option β} {l : List α} {a : α} {b : β} (ha : a ∈ l)
    (hb : f a = some b) (hother : ∀ a' ∈ l, a' ≠ a → f a' = none) : l.findSome? f = some b := by
  induction l with
  | nil => cases ha
  | cons x l ih =>
    by_cases hx : x = a
    · rw [List.findSome?_cons, hx, hb]
    · rw [List.findSome?_cons, hother x (by simp) hx]
      exact ih (List.mem_of_ne_of_mem (Ne.symm hx) ha) fun a' ha' => hother a' (by simp [ha'])

namespace Line

/-- A line gives the assignment on it, whatever is behind the line. -/
theorem scans (l : Line) (hl : '\n' ∉ l.text) {tail : List Char} (htail : Feeds tail)
    {as : List (String × String)} (h : Scans false tail as) :
    Scans true (l.text ++ tail) (l.assignment?.toList ++ as) := by
  cases l with
  | other s hs =>
    refine Scans.of_unmatched ?_ (h.append hl)
    refine List.findSome?_eq_none_iff.mpr fun name hname => assignmentOf?_eq_none fun hpre => ?_
    exact hs name hname (prefix_of_prefix_append hname htail hpre)
  | definition d =>
    have hpre : d.name.toList <+: d.text ++ tail := by simp [Definition.text]
    have hfound : variableNames.findSome? (assignmentOf? (d.text ++ tail)) =
        some ((d.name, String.ofList d.value), d.behind ++ tail) := by
      refine findSome?_of_unique d.name_mem (d.assignmentOf?_text htail) fun name hname hne => ?_
      refine assignmentOf?_eq_none fun hpre' => hne ?_
      rcases List.prefix_or_prefix_of_prefix hpre' hpre with hle | hle
      · exact eq_of_prefix_of_mem_variableNames name hname d.name d.name_mem hle
      · exact (eq_of_prefix_of_mem_variableNames d.name d.name_mem name hname hle).symm
    have hbehind : '\n' ∉ d.behind := fun hmem => hl (by simp [text, Definition.text, hmem])
    refine Scans.take hfound ?_ (h.append hbehind)
    simp [text, Definition.text]
    omega

end Line

/-- A text of lines has the assignments on them. -/
theorem scans_lines {s : List Char} {ls : List Line} (h : s.splitOn '\n' = ls.map Line.text) :
    Scans true s (ls.filterMap Line.assignment?) := by
  induction ls generalizing s with
  | nil => exact absurd h (List.splitOn_ne_nil _ _)
  | cons l ls ih =>
    by_cases hfeed : '\n' ∈ s
    · obtain ⟨line, rest, rfl, hline⟩ := List.eq_append_cons_of_mem hfeed
      rw [List.splitOn_append_cons_self_of_not_mem hline, List.map_cons, List.cons.injEq] at h
      obtain ⟨rfl, hrest⟩ := h
      have hscan := l.scans hline (.inr ⟨rest, rfl⟩) (Scans.skip (ih hrest))
      cases hl : l.assignment? <;> simpa [hl] using hscan
    · rw [List.splitOn_eq_singleton hfeed, List.map_cons, List.cons.injEq] at h
      obtain ⟨rfl, hnone⟩ := h
      obtain rfl := List.map_eq_nil_iff.mp hnone.symm
      have hscan := l.scans hfeed (.inl rfl) (Scans.nil false)
      cases hl : l.assignment? <;> simpa [hl] using hscan

/-! ### First definitions -/

theorem lookup_filterMap_assignment? (ls : List Line) (name : String) :
    (ls.filterMap Line.assignment?).lookup name = firstValue? ls name := by
  induction ls with
  | nil => rfl
  | cons l ls ih =>
    cases l with
    | other s h =>
      rw [List.filterMap_cons_none rfl, ih, firstValue?_cons, Line.valueOf?_other, Option.none_or]
    | definition d =>
      by_cases hname : d.name = name
      · simp [Line.assignment?, hname]
      · have hne : (name == d.name) = false := by simpa using Ne.symm hname
        simp [Line.assignment?, hname, hne, ih, List.lookup_cons]

theorem lookup_assignments {text : String} {ls : List Line}
    (h : text.toList.splitOn '\n' = ls.map Line.text) (name : String) :
    (assignments text).lookup name = firstValue? ls name := by
  rw [assignments, scans_lines h text.length (Nat.le_of_eq String.length_toList), lookup_filterMap_assignment?]

/-- The release with the first value of each variable. -/
def joinedRelease (first : String → Option String) : String :=
  ".".intercalate ((["VERSION", "PATCHLEVEL", "SUBLEVEL"].filterMap first).filter (· ≠ ""))
    ++ (first "EXTRAVERSION").getD ""

theorem filter_map_getD (first : String → Option String) (names : List String) :
    (names.map fun name => (first name).getD "").filter (· ≠ "") =
      (names.filterMap first).filter (· ≠ "") := by
  induction names with
  | nil => rfl
  | cons name names ih =>
    rw [List.map_cons, List.filter_cons, ih]
    cases hname : first name <;> simp [hname, List.filter_cons]

theorem releaseOf?_eq {text : String} {ls : List Line}
    (h : text.toList.splitOn '\n' = ls.map Line.text) : releaseOf? text =
      if (firstValue? ls "VERSION").getD "" = "" then none
      else some (joinedRelease (firstValue? ls)) := by
  simp only [releaseOf?, lookup_assignments h, filter_map_getD, joinedRelease]

/-- Changes to a makefile that leave the first definition of each variable as it is. -/
inductive Retouch : List Line → List Line → Prop where
  | insert (before behind : List Line) (s : List Char) (h : ∀ name ∈ variableNames, ¬ name.toList <+: s) :
      Retouch (before ++ behind) (before ++ .other s h :: behind)
  /-- One more definition of a variable, somewhere behind another one of it. -/
  | redefine (before behind : List Line) {d d' : Definition} (hd : .definition d ∈ before)
      (hname : d'.name = d.name) : Retouch (before ++ behind) (before ++ .definition d' :: behind)
  /-- Another order of the lines, in which the definitions of one variable come one after the other as
  before. -/
  | reorder {ls ls' : List Line} (hperm : ls.Perm ls')
      (horder : ∀ name, ls.filter (·.defines name) = ls'.filter (·.defines name)) : Retouch ls ls'

theorem firstValue?_filter (ls : List Line) (name : String) :
    firstValue? (ls.filter (·.defines name)) name = firstValue? ls name := by
  induction ls with
  | nil => rfl
  | cons l ls ih =>
    cases hl : l.valueOf? name with
    | none =>
      rw [List.filter_cons_of_neg (by simp [Line.defines, hl]), ih, firstValue?_cons, hl, Option.none_or]
    | some value =>
      rw [List.filter_cons_of_pos (by simp [Line.defines, hl]), firstValue?_cons, firstValue?_cons, ih]

theorem Retouch.firstValue?_eq {ls ls' : List Line} (h : Retouch ls ls') (name : String) :
    firstValue? ls' name = firstValue? ls name := by
  cases h with
  | insert before behind s h => simp
  | @redefine before behind d d' hd hname =>
    by_cases hdefined : d'.name = name
    · have hfirst : (firstValue? before name).isSome = true := by
        rw [firstValue?, List.findSome?_isSome_iff]
        exact ⟨_, hd, by simp [← hname, hdefined]⟩
      simp [Option.or_of_isSome hfirst]
    · simp [hdefined]
  | reorder hperm horder => rw [← firstValue?_filter, ← horder name, firstValue?_filter]

theorem firstValue?_eq_of_retouched {ls ls' : List Line} (h : Relation.EqvGen Retouch ls ls') :
    firstValue? ls' = firstValue? ls := by
  induction h with
  | rel ls ls' h => exact funext h.firstValue?_eq
  | refl ls => rfl
  | symm ls ls' _ ih => exact ih.symm
  | trans ls ls' ls'' _ _ ih ih' => exact ih'.trans ih

/-! ### Releases -/

theorem release_of_read {files : Files.Tree} {directory : Files.Path} {text : String}
    (h : files.readTextLossy (directory.join ⟨"", ["Makefile"]⟩) = .ok text) :
    release files directory = .ok (releaseOf? text) := by
  rw [release, h]

/-- The release of a makefile whose lines each define a variable or do not begin with the name of one.
There is none where the version is not defined or first defined as empty; else it is made of the first
values. Lines that define nothing, later definitions, and the order of definitions of different variables
make no difference to it. -/
theorem release_reads_first_definitions {files : Files.Tree} {directory : Files.Path} {text : String}
    {ls : List Line} (hread : files.readTextLossy (directory.join ⟨"", ["Makefile"]⟩) = .ok text)
    (hlines : text.toList.splitOn '\n' = ls.map Line.text) :
    let first := firstValue? ls
    (release files directory = .ok none ↔ first "VERSION" = none ∨ first "VERSION" = some "") ∧
    (∀ version, first "VERSION" = some version → version ≠ "" →
      release files directory = .ok (some
        (".".intercalate ((["VERSION", "PATCHLEVEL", "SUBLEVEL"].filterMap first).filter (· ≠ ""))
          ++ (first "EXTRAVERSION").getD ""))) ∧
    ∀ (files' : Files.Tree) (directory' : Files.Path) (text' : String) (ls' : List Line),
      files'.readTextLossy (directory'.join ⟨"", ["Makefile"]⟩) = .ok text' →
      text'.toList.splitOn '\n' = ls'.map Line.text → Relation.EqvGen Retouch ls ls' →
        release files' directory' = release files directory := by
  intro first
  have hrelease := release_of_read hread
  rw [releaseOf?_eq hlines] at hrelease
  refine ⟨?_, fun version hversion hsome => ?_, fun files' directory' text' ls' hread' hlines' h => ?_⟩
  · rw [hrelease]
    cases hversion : firstValue? ls "VERSION" <;> simp [first, hversion]
  · rw [hrelease, if_neg (by rw [show firstValue? ls "VERSION" = some version from hversion]; exact hsome)]
    rfl
  · rw [hrelease, release_of_read hread', releaseOf?_eq hlines', firstValue?_eq_of_retouched h]

/-- A directory with a makefile. -/
def treeOf (makefile : String) : Files.Tree := ⟨[(["linux", "Makefile"], .file (Text.utf8 makefile))]⟩

def versionLine : Definition :=
  ⟨"VERSION", [' '], [' '], ['6'], " # next".toList, by decide, List.forall_mem_singleton.mpr rfl,
    List.forall_mem_singleton.mpr rfl, List.forall_mem_singleton.mpr rfl,
    .inr ⟨by decide, ' ', "# next".toList, by decide, by decide⟩⟩

def levelLine : Definition :=
  ⟨"PATCHLEVEL", ['\t'], [], [], [], by decide, List.forall_mem_singleton.mpr rfl, List.forall_mem_nil _,
    List.forall_mem_nil _, .inl rfl⟩

def laterLine : Definition :=
  ⟨"VERSION", [], [], ['9'], [], by decide, List.forall_mem_nil _, List.forall_mem_nil _,
    List.forall_mem_singleton.mpr rfl, .inl rfl⟩

def commentLine : Line := .other "# VERSION = 5".toList (by decide)

theorem retouched_repeated : Relation.EqvGen Retouch
    [commentLine, .definition versionLine, .definition laterLine, .definition levelLine]
    [.definition levelLine, .definition versionLine] := by
  refine .trans _ [.definition versionLine, .definition laterLine, .definition levelLine] _ ?_ ?_
  · exact .symm _ _ (.rel _ _ (.insert [] _ _ _))
  refine .trans _ [.definition versionLine, .definition levelLine] _ ?_ (.rel _ _ (.reorder ?_ ?_))
  · exact .symm _ _ (.rel _ _ (.redefine [.definition versionLine] _ (d := versionLine) (by simp) rfl))
  · exact .swap _ _ _
  · intro name
    by_cases hversion : "VERSION" = name
    · subst hversion
      rfl
    · simp [List.filter_cons, Line.defines, versionLine, hversion]

/-- The version behind a comment and before another definition of it, which has no effect; then the same
without these two lines and in another order. -/
theorem release_reads_first_definitions_repeated :
    let text := "# VERSION = 5\nVERSION = 6 # next\nVERSION=9\nPATCHLEVEL\t="
    let text' := "PATCHLEVEL\t=\nVERSION = 6 # next"
    release (treeOf text) ⟨"", ["linux"]⟩ = .ok (some "6") ∧
      release (treeOf text') ⟨"", ["linux"]⟩ = release (treeOf text) ⟨"", ["linux"]⟩ := by
  intro text text'
  have hread : (treeOf text).readTextLossy (Files.Path.join ⟨"", ["linux"]⟩ ⟨"", ["Makefile"]⟩) =
      .ok text := by
    simp only [Files.Tree.readTextLossy, Files.Tree.readBytes, String.contains_char_eq]
    decide +kernel
  have hread' : (treeOf text').readTextLossy (Files.Path.join ⟨"", ["linux"]⟩ ⟨"", ["Makefile"]⟩) =
      .ok text' := by
    simp only [Files.Tree.readTextLossy, Files.Tree.readBytes, String.contains_char_eq]
    decide +kernel
  have hlines : text.toList.splitOn '\n' = [commentLine, .definition versionLine,
      .definition laterLine, .definition levelLine].map Line.text := by
    decide +kernel
  have hlines' : text'.toList.splitOn '\n' =
      [.definition levelLine, .definition versionLine].map Line.text := by
    decide +kernel
  have h := release_reads_first_definitions hread hlines
  exact ⟨h.2.1 "6" rfl (by decide), h.2.2 _ _ text' _ hread' hlines' retouched_repeated⟩

end KernelConfig.Kernel
