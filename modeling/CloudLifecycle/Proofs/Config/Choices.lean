import CloudLifecycle.Config.Discovery
import Mathlib.Data.Option.NAry
import Mathlib.Data.Prod.Lex

/-!
# Which configuration is chosen

The places at which a configuration may be are the cells of a table, with a row for each directory and a column for each
name. They are said without the list that is searched (`Surroundings.pathAt?`), and come in the order of their rows and, in
one row, of their columns.

1. To go through the rows one after the other is to find the first cell that passes a test, if any does
   (`find?_rows_eq_some_iff`, `find?_rows_eq_none_iff`).
2. So a configuration is found exactly if it is the file that the environment names or, where it names none, the first file
   of the table (`Chosen`, `findConfig_eq_ok_iff`); otherwise the search says what is missing (`findConfig_eq_error_iff`).
3. What was chosen is read, and nothing else is (`loadConfig_of_chosen`).

`discovery_decided` puts these together.
-/

namespace CloudLifecycle

/-! ## The first cell of a table -/

section

variable {α β γ : Type} {f : α → β → γ} {p : γ → Bool} {as : List α} {bs : List β} {table : ℕ × ℕ → Option γ}
  {place place' : ℕ × ℕ} {c c' : γ}

/-- `c` is in the cell at a place, and in no cell before it is anything else that passes the test. -/
structure FirstCell (table : ℕ × ℕ → Option γ) (p : γ → Bool) (place : ℕ × ℕ) (c : γ) : Prop where
  there : table place = some c
  passes : p c = true
  first : ∀ earlier, toLex earlier < toLex place → ∀ other, table earlier = some other → p other = false

/-- Of two cells that are the first, neither is before the other. -/
theorem FirstCell.le (h : FirstCell table p place c) (h' : FirstCell table p place' c') : toLex place ≤ toLex place' := by
  by_contra beyond
  have fails := h.first place' (lt_of_not_ge beyond) c' h'.there
  rw [h'.passes] at fails
  cases fails

theorem FirstCell.unique (h : FirstCell table p place c) (h' : FirstCell table p place' c') : c = c' := by
  obtain rfl : place = place' := toLex.injective (le_antisymm (h.le h') (h'.le h))
  exact Option.some.inj (h.there.symm.trans h'.there)

/-- The table with a row for each of some values and a column for each of others. -/
def cells (f : α → β → γ) (as : List α) (bs : List β) (place : ℕ × ℕ) : Option γ :=
  Option.map₂ f as[place.1]? bs[place.2]?

theorem cells_eq_some_iff :
    cells f as bs place = some c ↔ ∃ a b, as[place.1]? = some a ∧ bs[place.2]? = some b ∧ f a b = c :=
  Option.map₂_eq_some_iff

/-- No cell passes the test exactly if none is found. -/
theorem find?_rows_eq_none_iff :
    (as.flatMap fun a => bs.map (f a)).find? p = none ↔ ∀ place c, cells f as bs place = some c → p c = false := by
  simp only [List.find?_eq_none, List.mem_flatMap, List.mem_map, Bool.not_eq_true, cells_eq_some_iff]
  constructor
  · rintro fails place c ⟨a, b, row, column, rfl⟩
    exact fails _ ⟨a, List.mem_of_getElem? row, b, List.mem_of_getElem? column, rfl⟩
  · rintro fails c ⟨a, row, b, column, rfl⟩
    obtain ⟨i, row⟩ := List.getElem?_of_mem row
    obtain ⟨j, column⟩ := List.getElem?_of_mem column
    exact fails (i, j) _ ⟨a, b, row, column, rfl⟩

/-- The first of one row is before all rows that follow. -/
theorem firstCell_row {a : α} (found : (bs.map (f a)).find? p = some c) :
    ∃ place, FirstCell (cells f (a :: as) bs) p place c := by
  obtain ⟨passes, j, lt, rfl, first⟩ := List.find?_eq_some_iff_getElem.mp found
  rw [List.length_map] at lt
  refine ⟨(0, j), cells_eq_some_iff.mpr ⟨a, bs[j], rfl, List.getElem?_eq_getElem lt, by simp⟩, passes, ?_⟩
  rintro ⟨i', j'⟩ earlier other there
  obtain ⟨a', b', row, column, rfl⟩ := cells_eq_some_iff.mp there
  rw [Prod.Lex.toLex_lt_toLex] at earlier
  obtain ⟨rfl, before⟩ := earlier.resolve_left (Nat.not_lt_zero i')
  obtain rfl : a = a' := Option.some.inj row
  obtain ⟨_, rfl⟩ := List.getElem?_eq_some_iff.mp column
  simpa using first j' before

/-- The first of the rows that follow stays the first if nothing in the row before them passes. -/
theorem FirstCell.cons {a : α} (h : FirstCell (cells f as bs) p place c) (nowhere : (bs.map (f a)).find? p = none) :
    FirstCell (cells f (a :: as) bs) p (place.1 + 1, place.2) c where
  there := h.there
  passes := h.passes
  first := by
    rintro ⟨_ | i, j⟩ earlier other there
    · obtain ⟨a', b, row, column, rfl⟩ := cells_eq_some_iff.mp there
      obtain rfl : a = a' := Option.some.inj row
      rw [List.find?_eq_none] at nowhere
      exact Bool.not_eq_true _ ▸ nowhere _ (List.mem_map_of_mem (List.mem_of_getElem? column))
    · refine h.first (i, j) ?_ other there
      rw [Prod.Lex.toLex_lt_toLex] at earlier ⊢
      simpa using earlier

theorem exists_firstCell (found : (as.flatMap fun a => bs.map (f a)).find? p = some c) :
    ∃ place, FirstCell (cells f as bs) p place c := by
  induction as with
  | nil => cases found
  | cons a as ih =>
    rw [List.flatMap_cons, List.find?_append, Option.or_eq_some_iff] at found
    rcases found with here | ⟨nowhere, later⟩
    · exact firstCell_row here
    · obtain ⟨place, first⟩ := ih later
      exact ⟨_, first.cons nowhere⟩

/-- What is found is the first cell that passes the test. -/
theorem find?_rows_eq_some_iff :
    (as.flatMap fun a => bs.map (f a)).find? p = some c ↔ ∃ place, FirstCell (cells f as bs) p place c := by
  refine ⟨exists_firstCell, ?_⟩
  rintro ⟨place, first⟩
  rcases found : (as.flatMap fun a => bs.map (f a)).find? p with _ | c'
  · have fails := find?_rows_eq_none_iff.mp found place c first.there
    rw [first.passes] at fails
    cases fails
  · obtain ⟨place', first'⟩ := exists_firstCell found
    rw [first.unique first']

end

namespace Surroundings

/-! ## Places of a configuration -/

/-- The directory of a rank: the one that the program is in, a hidden one in that, and the program's own among the
configurations of the user, where there are any. -/
def directoryAt? (s : Surroundings) : ℕ → Option String
  | 0 => some s.currentDirectory
  | 1 => some (joinPath s.currentDirectory ".cloudgate")
  | 2 => s.configDirectory?.map (joinPath · "cloudgate")
  | _ => none

/-- The name of a rank: those of one's own before those that are shared, and those that show before the hidden ones. -/
def nameAt? : ℕ → Option String
  | 0 => some "cloudgate.local.yaml"
  | 1 => some ".cloudgate.local.yaml"
  | 2 => some "cloudgate.yaml"
  | 3 => some ".cloudgate.yaml"
  | _ => none

/-- The path at a place, which is the rank of a directory and the rank of a name. -/
def pathAt? (s : Surroundings) (place : ℕ × ℕ) : Option String :=
  Option.map₂ joinPath (s.directoryAt? place.1) (nameAt? place.2)

/-- A configuration is chosen. -/
inductive Chosen (s : Surroundings) (path : String) : Prop where
  /-- The environment names it. Where else one may be does not matter. -/
  | named (set : s.environment configPathVariable = some path) (there : s.isFile path = true)
  /-- The environment names none, and there is no file at a place before its own. -/
  | found (unset : s.environment configPathVariable = none) (place : ℕ × ℕ)
    (first : FirstCell s.pathAt? s.isFile place path)

/-- The environment names what is no file. -/
def NamedMissing (s : Surroundings) (path : String) : Prop :=
  s.environment configPathVariable = some path ∧ s.isFile path = false

/-- The environment names nothing, and there is no file at any place. -/
def NothingThere (s : Surroundings) : Prop :=
  s.environment configPathVariable = none ∧ ∀ place path, s.pathAt? place = some path → s.isFile path = false

/-- What makes a file no configuration: it holds no text, or its text is none. -/
inductive Unusable (s : Surroundings) (path : String) : ConfigError → Prop where
  | unreadable (noText : s.fileAt path = .unreadable) : Unusable s path .unreadable
  | malformed (content : String) (text : s.fileAt path = .text content)
    (nothing : ∀ config, GatewayConfig.fromYaml content ≠ .ok config) : Unusable s path .malformed

section

variable {s : Surroundings} {path : String} {e : ConfigError}

theorem cells_configCandidates (s : Surroundings) : cells joinPath s.configDirectories configNames = s.pathAt? := by
  funext ⟨row, column⟩
  have directory : s.configDirectories[row]? = s.directoryAt? row := by
    rcases row with _ | _ | _ | row
    · rfl
    · rfl
    all_goals
      unfold configDirectories directoryAt?
      cases s.configDirectory? <;> rfl
  have name : configNames[column]? = nameAt? column := by
    rcases column with _ | _ | _ | _ | column <;> rfl
  rw [cells, directory, name, pathAt?]

/-! ## The search -/

theorem findConfig_of_set (set : s.environment configPathVariable = some path) :
    s.findConfig = if s.isFile path then .ok path else .error (.namedFileMissing path) := by
  rw [findConfig, set]

theorem findConfig_of_unset (unset : s.environment configPathVariable = none) :
    s.findConfig = match s.configCandidates.find? s.isFile with
      | some path => .ok path
      | none => .error .notFound := by
  cases found : s.configCandidates.find? s.isFile <;> simp only [findConfig, unset, found]

theorem find?_configCandidates_eq_some_iff :
    s.configCandidates.find? s.isFile = some path ↔ ∃ place, FirstCell s.pathAt? s.isFile place path := by
  rw [← cells_configCandidates]
  exact find?_rows_eq_some_iff

theorem find?_configCandidates_eq_none_iff :
    s.configCandidates.find? s.isFile = none ↔ ∀ place path, s.pathAt? place = some path → s.isFile path = false := by
  rw [← cells_configCandidates]
  exact find?_rows_eq_none_iff

theorem findConfig_eq_ok_iff : s.findConfig = .ok path ↔ s.Chosen path := by
  constructor
  · intro chosen
    rcases set : s.environment configPathVariable with _ | named
    · rw [findConfig_of_unset set] at chosen
      split at chosen
      · next path' found =>
        cases chosen
        obtain ⟨place, first⟩ := find?_configCandidates_eq_some_iff.mp found
        exact .found set place first
      · cases chosen
    · rw [findConfig_of_set set] at chosen
      split at chosen
      · next there =>
        cases chosen
        exact .named set there
      · cases chosen
  · rintro (⟨set, there⟩ | ⟨unset, place, first⟩)
    · rw [findConfig_of_set set, if_pos there]
    · rw [findConfig_of_unset unset, find?_configCandidates_eq_some_iff.mpr ⟨place, first⟩]

theorem findConfig_eq_error_iff :
    s.findConfig = .error e ↔
      (∃ path, s.NamedMissing path ∧ e = .namedFileMissing path) ∨ (s.NothingThere ∧ e = .notFound) := by
  constructor
  · intro missing
    rcases set : s.environment configPathVariable with _ | named
    · rw [findConfig_of_unset set] at missing
      split at missing
      · cases missing
      · next nowhere =>
        cases missing
        exact .inr ⟨⟨set, find?_configCandidates_eq_none_iff.mp nowhere⟩, rfl⟩
    · rw [findConfig_of_set set] at missing
      split at missing
      · cases missing
      · next absent =>
        cases missing
        exact .inl ⟨named, ⟨set, Bool.not_eq_true _ ▸ absent⟩, rfl⟩
  · rintro (⟨path, ⟨set, absent⟩, rfl⟩ | ⟨⟨unset, nowhere⟩, rfl⟩)
    · rw [findConfig_of_set set, if_neg (ne_true_of_eq_false absent)]
    · rw [findConfig_of_unset unset, find?_configCandidates_eq_none_iff.mpr nowhere]

/-! ## What is read -/

theorem Chosen.isFile (h : s.Chosen path) : s.isFile path = true := by
  rcases h with ⟨_, there⟩ | ⟨_, _, first⟩
  · exact there
  · exact first.passes

/-! ### Three ways in which a search may end -/

theorem search_ends (s : Surroundings) : (∃ path, s.Chosen path) ∨ (∃ path, s.NamedMissing path) ∨ s.NothingThere := by
  rcases ended : s.findConfig with e | path
  · rcases findConfig_eq_error_iff.mp ended with ⟨path, missing, _⟩ | ⟨nothing, _⟩
    · exact .inr (.inl ⟨path, missing⟩)
    · exact .inr (.inr nothing)
  · exact .inl ⟨path, findConfig_eq_ok_iff.mp ended⟩

theorem Chosen.iff_eq (h : s.Chosen path) (path' : String) : s.Chosen path' ↔ path' = path := by
  refine ⟨fun h' => ?_, ?_⟩
  · exact Except.ok.inj ((findConfig_eq_ok_iff.mpr h').symm.trans (findConfig_eq_ok_iff.mpr h))
  · rintro rfl
    exact h

theorem Chosen.not_nothingThere (h : s.Chosen path) : ¬ s.NothingThere := fun nothing =>
  nomatch (findConfig_eq_ok_iff.mpr h).symm.trans (findConfig_eq_error_iff.mpr (.inr ⟨nothing, rfl⟩))

theorem NamedMissing.not_chosen (h : s.NamedMissing path) (path' : String) : ¬ s.Chosen path' := fun chosen =>
  nomatch (findConfig_eq_ok_iff.mpr chosen).symm.trans (findConfig_eq_error_iff.mpr (.inl ⟨path, h, rfl⟩))

theorem NamedMissing.iff_eq (h : s.NamedMissing path) (path' : String) : s.NamedMissing path' ↔ path' = path := by
  refine ⟨fun h' => Option.some.inj (h'.1.symm.trans h.1), ?_⟩
  rintro rfl
  exact h

theorem NamedMissing.not_nothingThere (h : s.NamedMissing path) : ¬ s.NothingThere := fun nothing =>
  nomatch h.1.symm.trans nothing.1

theorem NothingThere.not_chosen (h : s.NothingThere) (path : String) : ¬ s.Chosen path := fun chosen =>
  chosen.not_nothingThere h

/-- What was chosen is read, whatever else there is. -/
theorem loadConfig_of_chosen (h : s.Chosen path) : s.loadConfig = (s.readConfig path).map (·, some path) := by
  rw [loadConfig, findConfig_eq_ok_iff.mpr h]

theorem loadConfig_of_namedMissing (h : s.NamedMissing path) : s.loadConfig = .error (.namedFileMissing path) := by
  rw [loadConfig, findConfig_eq_error_iff.mpr (.inl ⟨path, h, rfl⟩)]

theorem loadConfig_of_nothingThere (h : s.NothingThere) : s.loadConfig = .ok (.standard, none) := by
  rw [loadConfig, findConfig_eq_error_iff.mpr (.inr ⟨h, rfl⟩)]

/-- A configuration is read where it is, and nowhere else. -/
theorem readConfig_eq_ok_iff {config : GatewayConfig} :
    s.readConfig path = .ok config ↔ ∃ content, s.fileAt path = .text content ∧ GatewayConfig.fromYaml content = .ok config := by
  unfold readConfig
  cases s.fileAt path <;> simp

theorem fromYaml_eq_error_iff {content : String} :
    GatewayConfig.fromYaml content = .error e ↔ (∀ config, GatewayConfig.fromYaml content ≠ .ok config) ∧ e = .malformed := by
  unfold GatewayConfig.fromYaml
  split
  · simp
  · cases (Yaml.Document.parse? content).bind GatewayConfig.ofDocument? <;> simp [eq_comm]

/-- A file that was chosen and is no configuration is told of as such. -/
theorem readConfig_eq_error_iff (there : s.isFile path = true) : s.readConfig path = .error e ↔ s.Unusable path e := by
  unfold readConfig
  constructor
  · intro failed
    split at failed
    · next content text =>
      obtain ⟨nothing, rfl⟩ := fromYaml_eq_error_iff.mp failed
      exact .malformed content text nothing
    · next absent =>
      rw [isFile, absent] at there
      cases there
    · next noText =>
      cases failed
      exact .unreadable noText
  · rintro (⟨noText⟩ | ⟨content, text, nothing⟩)
    · rw [noText]
    · rw [text]
      exact fromYaml_eq_error_iff.mpr ⟨nothing, rfl⟩

theorem loadConfig_eq_ok_iff {config : GatewayConfig} {source : Option String} :
    s.loadConfig = .ok (config, source) ↔
      (s.NothingThere ∧ config = .standard ∧ source = none) ∨
        ∃ path content, s.Chosen path ∧ source = some path ∧ s.fileAt path = .text content ∧
          GatewayConfig.fromYaml content = .ok config := by
  rcases s.search_ends with ⟨path, chosen⟩ | ⟨path, missing⟩ | nothing
  · rw [loadConfig_of_chosen chosen]
    simp only [chosen.not_nothingThere, chosen.iff_eq, false_and, false_or]
    constructor
    · intro loaded
      rcases read : s.readConfig path with e | config'
      all_goals
        rw [read] at loaded
        cases loaded
      obtain ⟨content, text, parsed⟩ := readConfig_eq_ok_iff.mp read
      exact ⟨path, content, rfl, rfl, text, parsed⟩
    · rintro ⟨_, content, rfl, rfl, text, parsed⟩
      rw [readConfig_eq_ok_iff.mpr ⟨content, text, parsed⟩]
      rfl
  · rw [loadConfig_of_namedMissing missing]
    simp [missing.not_nothingThere, missing.not_chosen]
  · rw [loadConfig_of_nothingThere nothing]
    simp [nothing, nothing.not_chosen, eq_comm]

theorem loadConfig_eq_error_iff :
    s.loadConfig = .error e ↔
      (∃ path, s.NamedMissing path ∧ e = .namedFileMissing path) ∨ ∃ path, s.Chosen path ∧ s.Unusable path e := by
  rcases s.search_ends with ⟨path, chosen⟩ | ⟨path, missing⟩ | nothing
  · have unmissed : ∀ path, ¬ s.NamedMissing path := fun _ missing => missing.not_chosen path chosen
    rw [loadConfig_of_chosen chosen]
    simp only [unmissed, chosen.iff_eq, false_and, exists_const, false_or, exists_eq_left,
      ← readConfig_eq_error_iff chosen.isFile]
    cases s.readConfig path <;> simp [Except.map]
  · rw [loadConfig_of_namedMissing missing]
    simp [missing.iff_eq, missing.not_chosen, eq_comm]
  · have unmissed : ∀ path, ¬ s.NamedMissing path := fun _ missing => missing.not_nothingThere nothing
    rw [loadConfig_of_nothingThere nothing]
    simp [unmissed, nothing.not_chosen]

end

end Surroundings

/-- **Where a configuration is from.** In all surroundings, whatever the environment says, wherever the program is,
whether or not the user has a place for configurations, and whatever files there are:

1. the path that is found is the one that the environment names, which must be a file, and where it names none the first
file in the order of the directories and, within one, of the names;
2. the search fails exactly if the environment names what is no file, or if it names nothing and there is no file at any
place; the error says which;
3. the standard configuration holds, without a path, exactly in the second of these cases; every other configuration
is the one in the file that is found, and comes with the path of that file;
4. if the file that is found cannot be read, or is no configuration, then that is an error, as is a file that is named and
missing. Nothing is taken in its place. -/
theorem Surroundings.discovery_decided (s : Surroundings) :
    (∀ path, s.findConfig = .ok path ↔ s.Chosen path) ∧
    (∀ e, s.findConfig = .error e ↔
      (∃ path, s.NamedMissing path ∧ e = .namedFileMissing path) ∨ (s.NothingThere ∧ e = .notFound)) ∧
    (∀ config source, s.loadConfig = .ok (config, source) ↔
      (s.NothingThere ∧ config = .standard ∧ source = none) ∨
        ∃ path content, s.Chosen path ∧ source = some path ∧ s.fileAt path = .text content ∧
          GatewayConfig.fromYaml content = .ok config) ∧
    ∀ e, s.loadConfig = .error e ↔
      (∃ path, s.NamedMissing path ∧ e = .namedFileMissing path) ∨ ∃ path, s.Chosen path ∧ s.Unusable path e := by
  refine ⟨fun path => findConfig_eq_ok_iff, fun e => findConfig_eq_error_iff, fun config source => ?_, fun e => ?_⟩
  · exact s.loadConfig_eq_ok_iff
  · exact s.loadConfig_eq_error_iff

/-- The last of the names in one directory counts more than the first of them in the next. -/
example :
    let files := ["/w/.cloudgate/cloudgate.local.yaml", "/w/.cloudgate.yaml"]
    Surroundings.findConfig ⟨fun _ => none, "/w", none, fun path => if path ∈ files then .text "" else .absent⟩ =
      .ok "/w/.cloudgate.yaml" := by
  decide

end CloudLifecycle
