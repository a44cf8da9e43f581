import CloudLifecycle.Config.Document
import CloudLifecycle.Proofs.Yaml.Documents

/-!
# Configurations come back

A configuration that is written and read again is the same: `GatewayConfig.fromYaml_toYaml`. No setting is replaced by
its standard value on the way, since all of them are written but the name of a backend that has none, and no name is
taken for nothing or for a number, since a text that could be is in quotes (`Document.nullableText?_ofText`).

That is so with any writer and reader of which the one gives back what the other has put down
(`GatewayConfig.reload_of_readsBack`), and those for YAML are such (`GatewayConfig.readsBack_yaml`).
-/

namespace CloudLifecycle

open Yaml

/-! ## Written settings -/

namespace Yaml.Node.Written

theorem ofText (s : String) : (Node.ofText s).Written := .scalar (styleOf_fits s).1

theorem ofNat (n : Nat) : (Node.ofNat n).Written := .scalar (fits_toString n)

theorem null : Node.null.Written := .scalar ⟨by decide, by decide⟩

theorem noEntry : (Node.mapping []).Written := .mapping (by simp) (by simp)

theorem entry {key : String} {value : Node} {entries : List (Node × Node)}
    (plain : styleOf key = .plain ∧ key.toList.length ≤ 1024) (written : value.Written)
    (others : (Node.mapping entries).Written) : (Node.mapping (entryNode key value :: entries)).Written := by
  have isKey : (Node.ofText key).IsKey := by
    have fits : (styleOf key).Fits key.toList := (styleOf_fits key).1
    rw [plain.1] at fits
    exact ⟨key, congrArg (Node.scalar · none key) plain.1, fits, plain.2⟩
  cases others with
  | mapping keys each =>
    exact .mapping (List.forall_mem_cons.mpr ⟨isKey, keys⟩) (List.forall_mem_cons.mpr ⟨written, each⟩)

end Yaml.Node.Written

theorem DispatchSettings.toNode_written (s : DispatchSettings) : s.toNode.Written :=
  .entry (by decide) (.ofNat _) .noEntry

theorem ConvergenceSettings.toNode_written (s : ConvergenceSettings) : s.toNode.Written :=
  .entry (by decide) (.ofNat _) (.entry (by decide) (.ofNat _) .noEntry)

theorem BackendEntry.toNode_written (b : BackendEntry) : b.toNode.Written := by
  obtain ⟨id, profile, name⟩ := b
  cases name with
  | none => exact .entry (by decide) (.ofText _) (.entry (by decide) (.ofText _) .noEntry)
  | some name =>
    exact .entry (by decide) (.ofText _) (.entry (by decide) (.ofText _) (.entry (by decide) (.ofText _) .noEntry))

theorem GatewayConfig.toNode_written (c : GatewayConfig) : c.toNode.Written := by
  have backends : (Node.sequence (c.backends.map BackendEntry.toNode)).Written :=
    .sequence (List.forall_mem_map.mpr fun b _ => b.toNode_written)
  refine .entry (by decide) ?_ (.entry (by decide) c.dispatch.toNode_written
    (.entry (by decide) c.convergence.toNode_written (.entry (by decide) backends .noEntry)))
  cases c.defaultBackend with
  | none => exact .null
  | some id => exact .ofText id

/-! ## Settings that are read -/

namespace Yaml.Document

variable {d : Document}

@[simp] theorem text?_ofText (s : String) : d.text? (.ofText s) = some s := rfl

/-- A text is never taken for nothing: where it could be, it is in quotes. -/
@[simp] theorem nullableText?_ofText (s : String) : d.nullableText? (.ofText s) = some (some s) := by
  have shown : d.nullableText? (.scalar (styleOf s) none s) = some (some s) := by
    cases style : styleOf s with
    | plain =>
      have ordinary : isSpecial s = false := (styleOf_fits s).2 style
      simp only [isSpecial, Bool.or_eq_false_iff] at ordinary
      simp [nullableText?, resolve, ordinary]
    | _ => rfl
  exact shown

@[simp] theorem nullableText?_null : d.nullableText? .null = some none := rfl

@[simp] theorem natural?_ofNat {limit n : Nat} (small : n < limit) : d.natural? limit (.ofNat n) = some n := by
  show (Yaml.natural? (toString n)).filter (· < limit) = some n
  rw [natural?_toString]
  simp [small]

@[simp] theorem items?_sequence (items : List Node) : d.items? (.sequence items) = some items := rfl

@[simp] theorem entries?_nil : d.entries? (.mapping []) = some [] := rfl

@[simp] theorem entries?_cons (key : String) (value : Node) (entries : List (Node × Node)) :
    d.entries? (.mapping (entryNode key value :: entries)) =
      (d.entries? (.mapping entries)).map ((key, value) :: ·) := by
  simp only [entries?, resolve, entryNode, List.mapM_cons, text?_ofText, Option.map_some]
  rw [Option.map_eq_bind]
  rfl

end Yaml.Document

@[simp] theorem readWord64?_ofNat (d : Document) (n : UInt64) : readWord64? d (.ofNat n.toNat) = some n := by
  simp [readWord64?, Document.natural?_ofNat n.toNat_lt_size]

@[simp] theorem readWord32?_ofNat (d : Document) (n : UInt32) : readWord32? d (.ofNat n.toNat) = some n := by
  simp [readWord32?, Document.natural?_ofNat n.toNat_lt_size]

@[simp] theorem DispatchSettings.ofNode?_toNode (d : Document) (s : DispatchSettings) :
    ofNode? d s.toNode = some s := by
  simp [ofNode?, toNode, Document.fields?, Document.onlyOne?, Document.orElse]

@[simp] theorem ConvergenceSettings.ofNode?_toNode (d : Document) (s : ConvergenceSettings) :
    ofNode? d s.toNode = some s := by
  simp [ofNode?, toNode, Document.fields?, Document.onlyOne?, Document.orElse]

theorem BackendEntry.ofNode?_toNode (d : Document) (b : BackendEntry) : ofNode? d b.toNode = some b := by
  obtain ⟨id, profile, name⟩ := b
  cases name <;> simp [ofNode?, toNode, Document.fields?, Document.onlyOne?, Document.orElse]

@[simp] theorem BackendEntry.mapM_ofNode?_toNode (d : Document) (bs : List BackendEntry) :
    (bs.map toNode).mapM (ofNode? d) = some bs := by
  induction bs with
  | nil => rfl
  | cons b bs ih => simp [ofNode?_toNode, -List.mapM_map, ih]

namespace GatewayConfig

theorem ofNode?_toNode (d : Document) (c : GatewayConfig) : ofNode? d c.toNode = some c := by
  obtain ⟨default, dispatch, convergence, backends⟩ := c
  cases default <;> simp [ofNode?, toNode, Document.fields?, Document.onlyOne?, Document.orElse, -List.mapM_map]

/-! ## Any reader and writer -/

/-- Reads a configuration with any reader of documents. -/
def fromTextBy (read? : String → Option Document) (text : String) : Except ConfigError GatewayConfig :=
  if Text.isBlankText text then .ok standard
  else
    match (read? text).bind ofDocument? with
    | some c => .ok c
    | none => .error .malformed

theorem fromYaml_eq_fromTextBy : fromYaml = fromTextBy Document.parse? := rfl

/-- A reader gives back a node that has been written, and the text is more than blanks. -/
structure ReadsBack (write : Node → String) (read? : String → Option Document) (n : Node) : Prop where
  shown : Text.isBlankText (write n) = false
  read : ∃ d, read? (write n) = some d ∧ d.root = some n

/-- Whatever writer and reader are used, a configuration comes back if its node does. -/
theorem reload_of_readsBack {write : Node → String} {read? : String → Option Document} (c : GatewayConfig)
    (back : ReadsBack write read? c.toNode) : fromTextBy read? (write c.toNode) = .ok c := by
  obtain ⟨shown, d, read, root⟩ := back
  have settings : ofDocument? d = some c := by
    rw [ofDocument?, root]
    exact ofNode?_toNode d c
  rw [fromTextBy, shown, read, Option.bind_some, settings]
  rfl

/-! ## YAML -/

/-- The text of a configuration begins with the name of a setting, so it is never taken for a blank one. -/
theorem isBlankText_toYaml (c : GatewayConfig) : Text.isBlankText c.toYaml = false := by
  have first : ∃ v es, c.toNode = .mapping ((.scalar .plain none "default_backend", v) :: es) := ⟨_, _, rfl⟩
  obtain ⟨v, es, same⟩ := first
  simp [Text.isBlankText, toYaml, same, Node.render, Scan.renderEntries_eq, lead, Scan.entryText, Text.isBlank]

theorem readsBack_yaml (c : GatewayConfig) : ReadsBack Node.render Document.parse? c.toNode where
  shown := isBlankText_toYaml c
  read := ⟨.ofNode c.toNode, Document.parse?_render c.toNode_written, rfl⟩

/-- **A configuration that is written and read again is the same**, whatever its names and numbers are. -/
theorem fromYaml_toYaml (c : GatewayConfig) : fromYaml c.toYaml = .ok c := by
  rw [fromYaml_eq_fromTextBy]
  exact reload_of_readsBack c c.readsBack_yaml

/-- A name that would be read as nothing is in quotes, and an empty list is written as one. -/
example : toYaml { standard with defaultBackend := some "null", backends := [] } =
    "default_backend: 'null'\ndispatch:\n  backend_timeout_ms: 30000\nconvergence:\n  max_attempts: 30\n" ++
      "  poll_interval_ms: 10000\nbackends: []\n" := by
  decide

end GatewayConfig

end CloudLifecycle
