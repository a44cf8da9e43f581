import CloudLifecycle.Proofs.Config.Reload
import Mathlib.Data.List.Forall2

/-!
# Parts of a configuration

A configuration is read from any part of the mapping that is written for it: keys may be missing at every level, stand
in another order, and be among keys that mean nothing. `GatewayConfig.IsPart` says which nodes are such parts, and
`GatewayConfig.part` what is left of the configuration: each setting is its own where its key is kept, and the standard
one where it is not. Only a backend that stands in the list has to keep its id and its profile.
`GatewayConfig.partial_read` says that this is what is read.

The order and the meaningless keys are dealt with once, for every mapping: `Node.IsPart.fields?`. What remains is one
lemma for each record, on which of its fields are there.
-/

namespace CloudLifecycle

open Yaml

/-! ## Parts of a mapping -/

/-- A mapping of entries. -/
def Yaml.Node.ofEntries (entries : List (String × Node)) : Node :=
  .mapping (entries.map fun e => entryNode e.1 e.2)

/-- A mapping in which some of the entries `whole` are kept, in any order, and which may have other entries whose keys
are not among the `names`. -/
def Yaml.Node.IsPart (names : List String) (keep : String → Bool) (whole : List (String × Node)) (n : Node) : Prop :=
  ∃ entries unknown : List (String × Node), n = .ofEntries entries ∧
    (∀ e ∈ unknown, e.1 ∉ names) ∧ entries.Perm (whole.filter (fun e => keep e.1) ++ unknown)

namespace Yaml

/-- The whole mapping is a part of itself. -/
theorem Node.IsPart.whole {names : List String} (entries : List (String × Node)) :
    (Node.ofEntries entries).IsPart names (fun _ => true) entries :=
  ⟨entries, [], rfl, by simp, by simp⟩

/-- The entries that are kept are a part in themselves. -/
theorem Node.IsPart.kept {names : List String} {keep : String → Bool} (entries : List (String × Node)) :
    (Node.ofEntries (entries.filter fun e => keep e.1)).IsPart names keep entries :=
  ⟨entries.filter fun e => keep e.1, [], rfl, by simp, by simp⟩

theorem Document.entries?_ofEntries (d : Document) (entries : List (String × Node)) :
    d.entries? (.ofEntries entries) = some entries := by
  induction entries with
  | nil => rfl
  | cons e entries ih =>
    obtain ⟨key, value⟩ := e
    exact (entries?_cons key value _).trans (congrArg (Option.map ((key, value) :: ·)) ih)

theorem Document.onlyOne?_of_perm {ns : List Node} {n : Option Node} (same : ns.Perm n.toList) :
    onlyOne? ns = some n := by
  cases n with
  | none => rw [List.Perm.eq_nil same]; rfl
  | some n => rw [List.perm_singleton.mp same]; rfl

/-- Where no key is there twice, the values under a key are the one that is found there. -/
theorem values_eq_lookup {entries : List (String × Node)} (distinct : (entries.map (·.1)).Nodup) (name : String) :
    (entries.filter (·.1 = name)).map (·.2) = (entries.lookup name).toList := by
  induction entries with
  | nil => rfl
  | cons e entries ih =>
    obtain ⟨key, value⟩ := e
    obtain ⟨fresh, distinct⟩ := List.nodup_cons.mp distinct
    by_cases same : key = name
    · have others : entries.filter (·.1 = name) = [] :=
        List.filter_eq_nil_iff.mpr fun e mem => by
          simpa [← same] using fun eq => fresh (List.mem_map.mpr ⟨e, mem, eq⟩)
      simp [others, same]
    · have other : (name == key) = false := beq_eq_false_iff_ne.mpr (Ne.symm same)
      simp [same, other, List.lookup_cons, ih distinct]

theorem mapM_eq_some {α β : Type} {read : α → Option β} {as : List α} {bs : List β}
    (each : List.Forall₂ (fun a b => read a = some b) as bs) : as.mapM read = some bs := by
  induction each with
  | nil => rfl
  | cons first _ ih => simp [first, ih]

/-- What is found in a part of a mapping under the names of its fields: the entries that are kept. -/
theorem Node.IsPart.fields? {names : List String} {keep : String → Bool} {whole : List (String × Node)} {n : Node}
    (part : n.IsPart names keep whole) (distinct : (whole.map (·.1)).Nodup) (d : Document) :
    d.fields? names n = some (names.map fun name => if keep name then whole.lookup name else none) := by
  obtain ⟨entries, unknown, rfl, foreign, same⟩ := part
  rw [Document.fields?, Document.entries?_ofEntries]
  refine mapM_eq_some ((List.forall₂_map_right_iff).2 (List.forall₂_same.2 fun name known => ?_))
  apply Document.onlyOne?_of_perm
  have notForeign : unknown.filter (·.1 = name) = [] :=
    List.filter_eq_nil_iff.mpr fun e mem => by
      simpa using fun same : e.1 = name => foreign e mem (same ▸ known)
  have kept : (whole.filter (fun e => keep e.1)).filter (·.1 = name) =
      if keep name then whole.filter (·.1 = name) else [] := by
    rw [List.filter_filter]
    split
    · refine List.filter_congr fun e _ => ?_
      by_cases eq : e.1 = name <;> simp_all
    · refine List.filter_eq_nil_iff.mpr fun e _ => ?_
      by_cases eq : e.1 = name <;> simp_all
  have values : ((whole.filter (fun e => keep e.1) ++ unknown).filter (·.1 = name)).map (·.2) =
      (if keep name then whole.lookup name else none).toList := by
    rw [List.filter_append, notForeign, List.append_nil, kept]
    cases keep name with
    | false => rfl
    | true => exact values_eq_lookup distinct name
  exact values ▸ (same.filter (·.1 = name)).map (·.2)

/-- Reading a field that is there if its key is kept. -/
theorem Document.orElse_kept {α : Type} {read : Node → Option α} {n : Node} {a : α} (default : α) (kept : Bool)
    (reads : read n = some a) :
    Document.orElse default read (if kept then some n else none) = some (if kept then a else default) := by
  cases kept
  · rfl
  · exact reads

end Yaml

/-! ## Parts of the settings -/

namespace DispatchSettings

/-- The entries for the settings of calls. -/
def entries (s : DispatchSettings) : List (String × Node) := [("backend_timeout_ms", .ofNat s.backendTimeoutMs.toNat)]

/-- A part of the mapping for the settings of calls. -/
def IsPart (s : DispatchSettings) (keep : String → Bool) (n : Node) : Prop :=
  n.IsPart ["backend_timeout_ms"] keep s.entries

/-- The settings of calls where their keys are kept, and the standard ones elsewhere. -/
def part (s : DispatchSettings) (keep : String → Bool) : DispatchSettings :=
  ⟨if keep "backend_timeout_ms" then s.backendTimeoutMs else standard.backendTimeoutMs⟩

theorem toNode_isPart (s : DispatchSettings) : s.IsPart (fun _ => true) s.toNode := .whole s.entries

theorem ofNode?_of_isPart {s : DispatchSettings} {keep : String → Bool} {n : Node} (part : s.IsPart keep n)
    (d : Document) : ofNode? d n = some (s.part keep) := by
  have fields : d.fields? ["backend_timeout_ms"] n =
      some [if keep "backend_timeout_ms" then some (.ofNat s.backendTimeoutMs.toNat) else none] :=
    part.fields? (by simp [entries]) d
  have timeout := Document.orElse_kept standard.backendTimeoutMs (keep "backend_timeout_ms")
    (readWord64?_ofNat d s.backendTimeoutMs)
  exact Option.bind_eq_some_iff.mpr ⟨_, fields, Option.bind_eq_some_iff.mpr ⟨_, timeout, rfl⟩⟩

end DispatchSettings

namespace ConvergenceSettings

/-- The entries for the settings of convergences. -/
def entries (s : ConvergenceSettings) : List (String × Node) :=
  [("max_attempts", .ofNat s.maxAttempts.toNat), ("poll_interval_ms", .ofNat s.pollIntervalMs.toNat)]

/-- A part of the mapping for the settings of convergences. -/
def IsPart (s : ConvergenceSettings) (keep : String → Bool) (n : Node) : Prop :=
  n.IsPart ["max_attempts", "poll_interval_ms"] keep s.entries

/-- The settings of convergences where their keys are kept, and the standard ones elsewhere. -/
def part (s : ConvergenceSettings) (keep : String → Bool) : ConvergenceSettings :=
  ⟨if keep "max_attempts" then s.maxAttempts else standard.maxAttempts,
    if keep "poll_interval_ms" then s.pollIntervalMs else standard.pollIntervalMs⟩

theorem toNode_isPart (s : ConvergenceSettings) : s.IsPart (fun _ => true) s.toNode := .whole s.entries

theorem ofNode?_of_isPart {s : ConvergenceSettings} {keep : String → Bool} {n : Node} (part : s.IsPart keep n)
    (d : Document) : ofNode? d n = some (s.part keep) := by
  have fields : d.fields? ["max_attempts", "poll_interval_ms"] n =
      some [if keep "max_attempts" then some (.ofNat s.maxAttempts.toNat) else none,
        if keep "poll_interval_ms" then some (.ofNat s.pollIntervalMs.toNat) else none] :=
    part.fields? (by simp [entries]) d
  have attempts := Document.orElse_kept standard.maxAttempts (keep "max_attempts")
    (readWord32?_ofNat d s.maxAttempts)
  have interval := Document.orElse_kept standard.pollIntervalMs (keep "poll_interval_ms")
    (readWord64?_ofNat d s.pollIntervalMs)
  exact Option.bind_eq_some_iff.mpr ⟨_, fields, Option.bind_eq_some_iff.mpr ⟨_, attempts,
    Option.bind_eq_some_iff.mpr ⟨_, interval, rfl⟩⟩⟩

end ConvergenceSettings

namespace BackendEntry

/-- The entries for a backend. -/
def entries (b : BackendEntry) : List (String × Node) :=
  [("id", .ofText b.id), ("profile", .ofText b.profile)] ++
    match b.displayName with
    | some name => [("display_name", .ofText name)]
    | none => []

/-- A part of the mapping for a backend. -/
def IsPart (b : BackendEntry) (keep : String → Bool) (n : Node) : Prop :=
  n.IsPart ["id", "profile", "display_name"] keep b.entries

/-- The backend without its name, unless the key of its name is kept. -/
def part (b : BackendEntry) (keep : String → Bool) : BackendEntry :=
  { b with displayName := if keep "display_name" then b.displayName else none }

theorem toNode_isPart (b : BackendEntry) : b.IsPart (fun _ => true) b.toNode := by
  obtain ⟨id, profile, name⟩ := b
  cases name <;> exact .whole (entries _)

/-- A backend must have its id and its profile. -/
theorem ofNode?_of_isPart {b : BackendEntry} {keep : String → Bool} {n : Node} (part : b.IsPart keep n)
    (d : Document) : ofNode? d n = if keep "id" && keep "profile" then some (b.part keep) else none := by
  obtain ⟨id, profile, name⟩ := b
  have fields := part.fields? (by cases name <;> simp [entries]) d
  cases keepId : keep "id" <;> cases keepProfile : keep "profile" <;> cases keepName : keep "display_name" <;>
    cases name <;>
    simp [ofNode?, entries, fields, List.lookup_cons, keepId, keepProfile, keepName, BackendEntry.part, Document.orElse]

end BackendEntry

/-! ## Parts of a configuration -/

namespace GatewayConfig

/-- The keys of a configuration that are kept, at every level. -/
structure Kept where
  settings : String → Bool
  dispatch : String → Bool
  convergence : String → Bool
  /-- The keys of the backend at a place in the list. -/
  backend : Nat → String → Bool

/-- All keys. -/
def Kept.all : Kept := ⟨fun _ => true, fun _ => true, fun _ => true, fun _ _ => true⟩

/-- The node of an id that may be left open. -/
def idNode : Option String → Node
  | some id => .ofText id
  | none => .null

/-- The entries for a configuration, whose settings of calls, settings of convergences and backends are nodes. -/
def entries (c : GatewayConfig) (dispatch convergence : Node) (backends : List Node) : List (String × Node) :=
  [("default_backend", idNode c.defaultBackend), ("dispatch", dispatch), ("convergence", convergence),
    ("backends", .sequence backends)]

/-- Parts of the mappings for backends, each at its place. -/
def AreParts (k : Kept) (bs : List (BackendEntry × Nat)) (items : List Node) : Prop :=
  List.Forall₂ (fun b item => b.1.IsPart (k.backend b.2) item) bs items

/-- A part of the mapping for a configuration, in which also the mappings of its settings and of its backends may be
parts. -/
def IsPart (c : GatewayConfig) (k : Kept) (n : Node) : Prop :=
  ∃ dispatch convergence backends, c.dispatch.IsPart k.dispatch dispatch ∧
    c.convergence.IsPart k.convergence convergence ∧ AreParts k c.backends.zipIdx backends ∧
    n.IsPart ["default_backend", "dispatch", "convergence", "backends"] k.settings
      (c.entries dispatch convergence backends)

/-- The configuration where its keys are kept, and the standard one elsewhere. -/
def part (c : GatewayConfig) (k : Kept) : GatewayConfig where
  defaultBackend := if k.settings "default_backend" then c.defaultBackend else standard.defaultBackend
  dispatch := if k.settings "dispatch" then c.dispatch.part k.dispatch else standard.dispatch
  convergence := if k.settings "convergence" then c.convergence.part k.convergence else standard.convergence
  backends :=
    if k.settings "backends" then c.backends.mapIdx fun i b => b.part (k.backend i) else standard.backends

/-- Whether a backend that stands in the list has lost its id or its profile. -/
def Kept.Breaks (k : Kept) (c : GatewayConfig) : Prop :=
  k.settings "backends" = true ∧
    ∃ i < c.backends.length, k.backend i "id" = false ∨ k.backend i "profile" = false

theorem toNode_isPart (c : GatewayConfig) : c.IsPart .all c.toNode := by
  refine ⟨c.dispatch.toNode, c.convergence.toNode, c.backends.map BackendEntry.toNode, c.dispatch.toNode_isPart,
    c.convergence.toNode_isPart, ?_, .whole (c.entries _ _ _)⟩
  have parts : List.Forall₂ (fun b item => b.1.IsPart (fun _ => true) item) c.backends.zipIdx
      (c.backends.zipIdx.map fun b => b.1.toNode) :=
    List.forall₂_map_right_iff.2 (List.forall₂_same.2 fun b _ => b.1.toNode_isPart)
  rwa [← Function.comp_def, ← List.map_map, List.zipIdx_map_fst] at parts

/-- Any keys may be kept. -/
theorem exists_isPart (c : GatewayConfig) (k : Kept) : ∃ n, c.IsPart k n := by
  let kept := fun b : BackendEntry × Nat => Node.ofEntries (b.1.entries.filter fun e => k.backend b.2 e.1)
  have parts : AreParts k c.backends.zipIdx (c.backends.zipIdx.map kept) :=
    List.forall₂_map_right_iff.2 (List.forall₂_same.2 fun b _ => .kept b.1.entries)
  exact ⟨_, _, _, _, .kept c.dispatch.entries, .kept c.convergence.entries, parts, .kept (c.entries _ _ _)⟩

/-! ### Reading parts -/

section Reading

variable {c : GatewayConfig} {k : Kept} {n : Node} {bs : List (BackendEntry × Nat)} {items : List Node}

theorem AreParts.read (parts : AreParts k bs items)
    (whole : ∀ b ∈ bs, k.backend b.2 "id" = true ∧ k.backend b.2 "profile" = true) (d : Document) :
    items.mapM (BackendEntry.ofNode? d) = some (bs.map fun b => b.1.part (k.backend b.2)) := by
  induction parts with
  | nil => rfl
  | cons part _ ih =>
    obtain ⟨⟨id, profile⟩, others⟩ := List.forall_mem_cons.mp whole
    simp [BackendEntry.ofNode?_of_isPart part d, id, profile, ih others]

theorem AreParts.refused (parts : AreParts k bs items)
    (broken : ∃ b ∈ bs, k.backend b.2 "id" = false ∨ k.backend b.2 "profile" = false) (d : Document) :
    items.mapM (BackendEntry.ofNode? d) = none := by
  induction parts with
  | nil => simp at broken
  | cons part _ ih =>
    rw [List.mapM_cons, BackendEntry.ofNode?_of_isPart part d]
    rcases (List.exists_mem_cons_iff _ _ _).mp broken with (id | profile) | others
    · simp [id]
    · simp [profile]
    · split <;> simp [ih others]

/-- The backend that has lost its id or its profile, with its place. -/
theorem Kept.breaks_iff : k.Breaks c ↔ k.settings "backends" = true ∧
    ∃ b ∈ c.backends.zipIdx, k.backend b.2 "id" = false ∨ k.backend b.2 "profile" = false := by
  refine and_congr_right fun _ => ⟨fun ⟨i, inside, broken⟩ => ?_, fun ⟨b, mem, broken⟩ => ?_⟩
  · exact ⟨(c.backends[i], i), List.mem_zipIdx_iff_getElem?.mpr (List.getElem?_eq_getElem inside), broken⟩
  · obtain ⟨inside, -⟩ := List.getElem?_eq_some_iff.mp (List.mem_zipIdx_iff_getElem?.mp mem)
    exact ⟨b.2, inside, broken⟩

/-- The backends in a node. -/
def readBackends? (d : Document) (n : Node) : Option (List BackendEntry) := do
  (← d.items? n).mapM (BackendEntry.ofNode? d)

theorem AreParts.backends (parts : AreParts k c.backends.zipIdx items) (whole : ¬ k.Breaks c) (d : Document) :
    Document.orElse standard.backends (readBackends? d)
      (if k.settings "backends" then some (.sequence items) else none) = some (c.part k).backends := by
  cases kept : k.settings "backends" with
  | false => simp [Document.orElse, part, kept]
  | true =>
    have each : ∀ b ∈ c.backends.zipIdx, k.backend b.2 "id" = true ∧ k.backend b.2 "profile" = true := by
      simpa [Kept.breaks_iff, kept] using whole
    have same : (c.part k).backends = c.backends.zipIdx.map fun b => b.1.part (k.backend b.2) := by
      simp [part, kept, List.mapIdx_eq_zipIdx_map]
    rw [same]
    exact parts.read each d

theorem AreParts.broken (parts : AreParts k c.backends.zipIdx items) (breaks : k.Breaks c) (d : Document) :
    Document.orElse standard.backends (readBackends? d)
      (if k.settings "backends" then some (.sequence items) else none) = none := by
  obtain ⟨kept, broken⟩ := Kept.breaks_iff.mp breaks
  rw [kept]
  exact parts.refused broken d

theorem nullableText?_idNode (d : Document) (id : Option String) : d.nullableText? (idNode id) = some id := by
  cases id <;> simp [idNode]

theorem bind_of_eq_some {α β : Type} {x : Option α} {a : α} {f : α → Option β} (eq : x = some a) :
    (x >>= f) = f a := by
  rw [eq]
  rfl

/-- A part of a configuration is read up to its backends, whatever keys are missing. -/
theorem ofNode?_eq {dispatch convergence : Node} (dispatchPart : c.dispatch.IsPart k.dispatch dispatch)
    (convergencePart : c.convergence.IsPart k.convergence convergence)
    (part : n.IsPart ["default_backend", "dispatch", "convergence", "backends"] k.settings
      (c.entries dispatch convergence items)) (d : Document) :
    ofNode? d n = do
      let backends ← Document.orElse standard.backends (readBackends? d)
        (if k.settings "backends" then some (.sequence items) else none)
      return { c.part k with backends } := by
  have fields : d.fields? ["default_backend", "dispatch", "convergence", "backends"] n =
      some [if k.settings "default_backend" then some (idNode c.defaultBackend) else none,
        if k.settings "dispatch" then some dispatch else none,
        if k.settings "convergence" then some convergence else none,
        if k.settings "backends" then some (.sequence items) else none] :=
    part.fields? (by simp [entries]) d
  have id := Document.orElse_kept standard.defaultBackend (k.settings "default_backend")
    (nullableText?_idNode d c.defaultBackend)
  have calls := Document.orElse_kept standard.dispatch (k.settings "dispatch")
    (DispatchSettings.ofNode?_of_isPart dispatchPart d)
  have watching := Document.orElse_kept standard.convergence (k.settings "convergence")
    (ConvergenceSettings.ofNode?_of_isPart convergencePart d)
  exact (bind_of_eq_some fields).trans
    ((bind_of_eq_some id).trans ((bind_of_eq_some calls).trans (bind_of_eq_some watching)))

theorem ofNode?_of_isPart (part : c.IsPart k n) (d : Document) :
    (¬ k.Breaks c → ofNode? d n = some (c.part k)) ∧ (k.Breaks c → ofNode? d n = none) := by
  obtain ⟨dispatch, convergence, items, dispatchPart, convergencePart, backendParts, part⟩ := part
  rw [ofNode?_eq dispatchPart convergencePart part d]
  constructor
  · intro whole
    rw [backendParts.backends whole d]
    rfl
  · intro breaks
    rw [backendParts.broken breaks d]
    rfl

/-- A text that is not blank and whose document is the node `n`. -/
def IsTextOf (text : String) (n : Node) : Prop :=
  Text.isBlankText text = false ∧ ∃ d, Document.parse? text = some d ∧ d.root = some n

theorem fromYaml_of_isTextOf {text : String} {r : Option GatewayConfig} (shows : IsTextOf text n)
    (reads : ∀ d, ofNode? d n = r) : fromYaml text = (r.map .ok).getD (.error .malformed) := by
  obtain ⟨visible, d, parsed, root⟩ := shows
  have read : ofDocument? d = r := by rw [ofDocument?, root]; exact reads d
  rw [fromYaml, visible, parsed, Option.bind_some, read]
  cases r <;> rfl

/-- The text that is written for a mapping has a colon after its first key, or is a pair of braces. -/
theorem isTextOf_render {entries : List (Node × Node)} (written : (Node.mapping entries).Written) :
    IsTextOf (Node.mapping entries).render (.mapping entries) := by
  refine ⟨?_, _, Document.parse?_render written, rfl⟩
  cases entries with
  | nil => decide
  | cons e es => simp [Text.isBlankText, Node.render, renderEntries, Text.isBlank]

/-- **Part of a configuration is read as that part of it**: what is kept is its own and what is missing is standard, in
whatever order the keys stand and whatever else there is. A backend without its id or its profile is refused. -/
theorem partial_read (part : c.IsPart k n) :
    (∀ text, IsTextOf text n → (¬ k.Breaks c → fromYaml text = .ok (c.part k)) ∧
      (k.Breaks c → fromYaml text = .error .malformed)) ∧
    (n.Written → IsTextOf n.render n) := by
  refine ⟨fun text shows => ⟨fun whole => ?_, fun breaks => ?_⟩, fun written => ?_⟩
  · exact fromYaml_of_isTextOf shows fun d => (ofNode?_of_isPart part d).1 whole
  · exact fromYaml_of_isTextOf shows fun d => (ofNode?_of_isPart part d).2 breaks
  · obtain ⟨dispatch, convergence, items, -, -, -, entries, unknown, rfl, -⟩ := part
    exact isTextOf_render written

end Reading

/-- Two backends, of which the second is the default and has a name of its own. -/
def pair : GatewayConfig :=
  ⟨some "vcloud", ⟨5000⟩, ⟨5, 2000⟩,
    [⟨"paci-eu", "paci", none⟩, ⟨"vcloud", "vcloud", some "vCloud Director"⟩]⟩

/-- The backends without their names, and how many attempts there are. -/
def Kept.nameless : Kept :=
  ⟨fun key => key = "backends" || key = "convergence", fun _ => true, fun key => key = "max_attempts",
    fun _ key => key ≠ "display_name"⟩

/-- The ids of the backends. -/
def Kept.ids : Kept := ⟨fun key => key = "backends", fun _ => true, fun _ => true, fun _ key => key = "id"⟩

def namelessConvergence : Node := .ofEntries [("max_attempts", .ofNat 5)]

def namelessBackends : List Node :=
  [.ofEntries [("profile", .ofText "paci"), ("region", .ofText "eu"), ("id", .ofText "paci-eu")],
    .ofEntries [("id", .ofText "vcloud"), ("profile", .ofText "vcloud")]]

/-- The keys of `Kept.nameless` in another order, and two that mean nothing. -/
def namelessNode : Node :=
  .ofEntries [("version", .ofNat 2), ("backends", .sequence namelessBackends), ("convergence", namelessConvergence)]

def idsNode : Node :=
  .ofEntries [("backends",
    .sequence [.ofEntries [("id", .ofText "paci-eu")], .ofEntries [("id", .ofText "vcloud")]])]

theorem pair_isPart_nameless : pair.IsPart .nameless namelessNode := by
  refine ⟨_, namelessConvergence, namelessBackends, pair.dispatch.toNode_isPart, ⟨_, [], rfl, by simp, .refl _⟩,
    .cons ?paci (.cons ⟨_, [], rfl, by simp, .refl _⟩ .nil), _, [("version", .ofNat 2)], rfl, by simp,
    List.reverse_perm [_, _, _]⟩
  refine ⟨_, [("region", .ofText "eu")], rfl, by simp, ?_⟩
  exact List.perm_append_comm.trans (.refl ([_] ++ [_, _]))

theorem pair_isPart_ids : pair.IsPart .ids idsNode :=
  ⟨_, _, _, pair.dispatch.toNode_isPart, pair.convergence.toNode_isPart,
    .cons ⟨_, [], rfl, by simp, .refl _⟩ (.cons ⟨_, [], rfl, by simp, .refl _⟩ .nil),
    _, [], rfl, by simp, .refl _⟩

theorem namelessNode_written : namelessNode.Written := by
  have convergence : namelessConvergence.Written := .entry (by decide) (.ofNat 5) .noEntry
  have backends : (Node.sequence namelessBackends).Written := by
    refine .sequence (List.forall_mem_cons.mpr ⟨?_, List.forall_mem_singleton.mpr ?_⟩)
    · exact .entry (by decide) (.ofText _) (.entry (by decide) (.ofText _) (.entry (by decide) (.ofText _) .noEntry))
    · exact .entry (by decide) (.ofText _) (.entry (by decide) (.ofText _) .noEntry)
  exact .entry (by decide) (.ofNat 2) (.entry (by decide) backends (.entry (by decide) convergence .noEntry))

theorem idsNode_written : idsNode.Written := by
  refine .entry (by decide) (.sequence (List.forall_mem_cons.mpr ⟨?_, List.forall_mem_singleton.mpr ?_⟩)) .noEntry
  · exact .entry (by decide) (.ofText _) .noEntry
  · exact .entry (by decide) (.ofText _) .noEntry

theorem pair_read :
    fromYaml ("version: 2\nbackends:\n- profile: paci\n  region: eu\n  id: paci-eu\n" ++
      "- id: vcloud\n  profile: vcloud\nconvergence:\n  max_attempts: 5\n") =
      .ok ⟨none, .standard, ⟨5, 10000⟩, [⟨"paci-eu", "paci", none⟩, ⟨"vcloud", "vcloud", none⟩]⟩ ∧
    fromYaml "backends:\n- id: paci-eu\n- id: vcloud\n" = .error .malformed := by
  have reads := partial_read pair_isPart_nameless
  have refuses := partial_read pair_isPart_ids
  have whole : ¬ Kept.nameless.Breaks pair := by simp [Kept.Breaks, Kept.nameless]
  have broken : Kept.ids.Breaks pair := ⟨rfl, 0, by decide, .inr rfl⟩
  have text : namelessNode.render = "version: 2\nbackends:\n- profile: paci\n  region: eu\n  id: paci-eu\n" ++
      "- id: vcloud\n  profile: vcloud\nconvergence:\n  max_attempts: 5\n" := by decide
  have idsText : idsNode.render = "backends:\n- id: paci-eu\n- id: vcloud\n" := by decide
  exact ⟨text ▸ (reads.1 _ (reads.2 namelessNode_written)).1 whole,
    idsText ▸ (refuses.1 _ (refuses.2 idsNode_written)).2 broken⟩

end GatewayConfig

end CloudLifecycle
