import KernelConfig.Proofs.Apply.Reload

/-!
Isolation: what the text of one symbol can do to the lines of the others in a dumped file. A text that
stays on its line does nothing to them; a line boundary in it begins a line that can say anything.
-/

set_option autoImplicit false

namespace KernelConfig

open Dotconfig (Document Entry IsWord readLine readLines)

namespace Dotconfig

/-- The entries of a document that are not for the given symbol. -/
def Document.others (d : Document) (name : String) : List Entry := d.entries.filter (·.name ≠ name)

/-- Entries for one symbol between two documents do not show among the others. -/
theorem others_followedBy {name : String} {mine mine' : List Entry}
    (hmine : ∀ e ∈ mine, e.name = name) (hmine' : ∀ e ∈ mine', e.name = name) (before behind : Document) :
    (before.followedBy ((⟨mine, none⟩ : Document).followedBy behind)).others name =
        (before.followedBy ((⟨mine', none⟩ : Document).followedBy behind)).others name ∧
      (before.followedBy ((⟨mine, none⟩ : Document).followedBy behind)).failure =
        (before.followedBy ((⟨mine', none⟩ : Document).followedBy behind)).failure := by
  have hnone : ∀ es : List Entry, (∀ e ∈ es, e.name = name) → es.filter (·.name ≠ name) = [] := by
    intro es hes
    simpa using hes
  have hbehind : ∀ es : List Entry, (⟨es, none⟩ : Document).followedBy behind =
      ⟨es ++ behind.entries, behind.failure⟩ := fun _ => rfl
  rw [hbehind, hbehind]
  unfold Document.followedBy
  split
  · exact ⟨rfl, rfl⟩
  · refine ⟨?_, rfl⟩
    simp only [Document.others, List.filter_append, hnone mine hmine, hnone mine' hmine']

end Dotconfig

namespace SymbolTable

variable {lead : String}

/-- The lines of some symbols, each with a line feed. -/
def dumpChars (lead : String) (symbols : List Symbol) : List Char :=
  (symbols.filterMap (dumpLine lead)).flatMap fun line => line.toList ++ ['\n']

theorem toList_dump (t : SymbolTable) (lead : String) :
    (t.dump lead).toList = dumpChars lead t.symbols := by
  simp [dump, dumpChars, String.toList_join, List.flatMap_map, String.toList_append]

theorem dumpChars_append (before after : List Symbol) :
    dumpChars lead (before ++ after) = dumpChars lead before ++ dumpChars lead after := by
  simp [dumpChars]

theorem dumpChars_ends (symbols : List Symbol) :
    dumpChars lead symbols = [] ∨ ∃ u, dumpChars lead symbols = u ++ ['\n'] := by
  induction symbols using List.reverseRecOn with
  | nil => exact .inl rfl
  | append_singleton symbols s ih =>
    rw [dumpChars_append]
    cases h : dumpLine lead s with
    | none => simpa [dumpChars, h] using ih
    | some line =>
      refine .inr ⟨dumpChars lead symbols ++ line.toList, ?_⟩
      simp [dumpChars, h]

/-- A dump around the line of one symbol; the others may hold anything. -/
theorem read_dump_around {before behind : List Symbol} {env : List (String × String)} {s : Symbol}
    {line : String} {a : Dotconfig.Assignment} (hline : dumpLine lead s = some line)
    (hreads : ReadsAs lead line a) :
    let number := 1 + (Text.lines (dumpChars lead before)).length
    Dotconfig.read lead ((⟨before ++ s :: behind, env⟩ : SymbolTable).dump lead) =
      (readLines lead.toList 1 (Text.lines (dumpChars lead before))).followedBy
        ((⟨[{ a with line := number }], none⟩ : Document).followedBy
          (readLines lead.toList (number + 1) (Text.lines (dumpChars lead behind)))) := by
  intro number
  have hmiddle : dumpChars lead (s :: behind) = line.toList ++ '\n' :: dumpChars lead behind := by
    simp [dumpChars, hline]
  have hlines : Text.lines (dumpChars lead (s :: behind)) =
      [line.toList] ++ Text.lines (dumpChars lead behind) := by
    rw [hmiddle]
    exact Text.linesFrom_append [] line.toList _ hreads.1
  have hone : readLines lead.toList number [line.toList] = ⟨[{ a with line := number }], none⟩ := by
    rw [readLines, hreads.2]
    rfl
  rw [Dotconfig.read, toList_dump, dumpChars_append, Text.lines_append (dumpChars_ends before),
    Dotconfig.readLines_append, hlines, Dotconfig.readLines_append, hone]
  rfl

/-- The line of a string symbol that has been given a text without line boundaries. -/
theorem readsAs_dumpLine_string {s : Symbol} {x : String} (htype : s.type = .string)
    (hl : IsWord lead.toList) (hw : IsWord s.name.toList) (hne : s.name ≠ "") (hx : Text.OnOneLine x)
    (p : Provenance) : ∃ line, dumpLine lead (s.record (.auto x) p) = some line ∧
      ReadsAs lead line ⟨s.name, x, true⟩ := by
  refine ⟨lead ++ s.name ++ "=" ++ Dotconfig.quoteText x, ?_, ?_⟩
  · simp [dumpLine, Symbol.record, htype, SymbolType.isSwitch, Symbol.text, SymbolValue.text]
  · exact readsAs_quoted hl hw (by simp [hne]) hx

theorem set_string {t : SymbolTable} {s : Symbol} (htype : s.type = .string) (x : String)
    (p : Provenance) : t.set s (.auto x) p = .ok (t.update (s.record (.auto x) p)) :=
  set_eq_ok.mpr ⟨.auto x, by rw [htype]; rfl, rfl⟩

/-- A string symbol takes every text, and as long as the texts stay on their lines, what a dumped file
says about the other symbols, and whether it can be read, does not depend on which text it is. -/
theorem dump_isolates_text (lead : String) (hl : IsWord lead.toList) (t : SymbolTable)
    (hd : t.Distinct) (hnames : ∀ name ∈ t.names, name ≠ "" ∧ IsWord name.toList) (s : Symbol)
    (hs : s ∈ t.symbols) (htype : s.type = .string) (x y : String) (hx : Text.OnOneLine x)
    (hy : Text.OnOneLine y) (p q : Provenance) :
    ∃ tx ty, t.set s (.auto x) p = .ok tx ∧ t.set s (.auto y) q = .ok ty ∧
      (Dotconfig.read lead (tx.dump lead)).others s.name =
        (Dotconfig.read lead (ty.dump lead)).others s.name ∧
      (Dotconfig.read lead (tx.dump lead)).failure = (Dotconfig.read lead (ty.dump lead)).failure := by
  obtain ⟨hne, hw⟩ := hnames s.name (List.mem_map_of_mem hs)
  obtain ⟨before, behind, hsplit⟩ := List.append_of_mem hs
  have htable : t = ⟨before ++ s :: behind, t.env⟩ := by rw [← hsplit]
  have hupdate : ∀ s' : Symbol, s'.name = s.name → t.update s' = ⟨before ++ s' :: behind, t.env⟩ := by
    intro s' hname
    rw [htable] at hd ⊢
    exact update_between hd hname
  refine ⟨_, _, set_string htype x p, set_string htype y q, ?_⟩
  rw [hupdate (s.record (.auto x) p) rfl, hupdate (s.record (.auto y) q) rfl]
  obtain ⟨line, hline, hreads⟩ := readsAs_dumpLine_string htype hl hw hne hx p
  obtain ⟨line', hline', hreads'⟩ := readsAs_dumpLine_string htype hl hw hne hy q
  rw [read_dump_around hline hreads, read_dump_around hline' hreads']
  exact Dotconfig.others_followedBy (by simp) (by simp) _ _

/-- A text symbol between two others, one of which holds a text that was not checked. -/
def bannerTable : SymbolTable where
  symbols := [{ name := "DEBUG", type := .boolean }, { name := "BANNER", type := .string },
    { name := "NOTE", type := .auto, value := some (.auto "1\nCONFIG_BANNER=\"") }]

def banner : Symbol where
  name := "BANNER"
  type := .string

theorem dump_isolates_banner : bannerTable.Distinct ∧ banner ∈ bannerTable.symbols ∧
    Text.OnOneLine "say \"hi\"\\" ∧ ∃ tx ty, bannerTable.set banner (.auto "a") ⟨"s", none⟩ = .ok tx ∧
      bannerTable.set banner (.auto "say \"hi\"\\") ⟨"s", none⟩ = .ok ty ∧
      (Dotconfig.read "CONFIG_" (tx.dump "CONFIG_")).others "BANNER" =
        (Dotconfig.read "CONFIG_" (ty.dump "CONFIG_")).others "BANNER" ∧
      (Dotconfig.read "CONFIG_" (tx.dump "CONFIG_")).failure =
        (Dotconfig.read "CONFIG_" (ty.dump "CONFIG_")).failure := by
  have hd : bannerTable.Distinct := by decide
  have hs : banner ∈ bannerTable.symbols := by decide
  have hone : Text.OnOneLine "say \"hi\"\\" := by decide
  exact ⟨hd, hs, hone, dump_isolates_text "CONFIG_" (by decide) bannerTable hd (by decide) banner hs rfl
    "a" _ (by decide) hone _ _⟩

/-- A line boundary in a text is dumped as it is, and what follows it is read as a line of its own. -/
theorem text_sets_other_symbol :
    ∃ tx ty, bannerTable.set banner (.auto "a") ⟨"s", none⟩ = .ok tx ∧
      bannerTable.set banner (.auto "a\"\nCONFIG_DEBUG=y\n#") ⟨"s", none⟩ = .ok ty ∧
      (Dotconfig.read "CONFIG_" (tx.dump "CONFIG_")).others "BANNER" ≠
        (Dotconfig.read "CONFIG_" (ty.dump "CONFIG_")).others "BANNER" ∧
      ⟨⟨"DEBUG", "y", false⟩, 2⟩ ∈ (Dotconfig.read "CONFIG_" (ty.dump "CONFIG_")).others "BANNER" := by
  refine ⟨_, _, set_string rfl _ _, set_string rfl _ _, ?_, ?_⟩ <;> decide +kernel

end SymbolTable

end KernelConfig
