import CloudLifecycle.Proofs.Yaml.Scanned
import CloudLifecycle.Yaml.Content

/-!
# Trees from their tokens

The tokens of a written node are composed to that node (`composed_of_written`), with fuel for four calls per token. What
is read ends where the tokens of the node end, also for a sequence without marks of its own, which goes on as long as
items follow; so nothing may follow such a sequence that could be an item.
-/

namespace CloudLifecycle.Yaml

/-- What is being read, with the tokens `ts` still to come. -/
def Reading.before (r : Reading) (ts : List Token) : Reading := { r with tokens := ts }

/-- Whether a token begins a written node. -/
def Token.beginsNode (indentless : Bool) : Token → Bool
  | .scalar _ _ | .flowSequenceStart | .flowMappingStart | .blockSequenceStart | .blockMappingStart => true
  | .blockEntry => indentless
  | _ => false

theorem Node.Written.exists_tokens {n : Node} (written : n.Written) (indentless : Bool) :
    ∃ t ts, n.tokens indentless = t :: ts ∧ t.beginsNode indentless = true := by
  cases written with
  | scalar => exact ⟨_, _, by rw [Node.tokens], rfl⟩
  | @sequence items each =>
    cases items with
    | nil => exact ⟨_, _, by rw [Node.tokens], rfl⟩
    | cons n ns =>
      cases indentless with
      | false => exact ⟨.blockSequenceStart, _, by rw [Node.tokens, if_neg Bool.false_ne_true], rfl⟩
      | true => exact ⟨.blockEntry, _, by rw [Node.tokens, if_pos rfl, itemTokens], rfl⟩
  | @mapping entries keys each =>
    cases entries with
    | nil => exact ⟨_, _, by rw [Node.tokens], rfl⟩
    | cons e es => exact ⟨_, _, by rw [Node.tokens], rfl⟩

namespace Reader

variable {r : Reading} {t : Token} {ts : List Token} {fuel : Nat} {inBlock indentless : Bool}

theorem bind_read {α β : Type} (x : Reader α) (f : α → Reader β) (r : Reading) :
    (x >>= f) r = (x r).bind fun read => f read.1 read.2 := rfl

theorem peek_before : peek (r.before (t :: ts)) = some (t, r.before (t :: ts)) := rfl

theorem isAt_before (ends : List Token) :
    isAt ends (r.before (t :: ts)) = some (ends.contains t, r.before (t :: ts)) := rfl

theorem accept_other {u : Token} (other : t ≠ u) :
    accept u (r.before (t :: ts)) = some (false, r.before (t :: ts)) := by
  rw [accept, bind_read, peek_before, Option.bind_some, if_neg other]
  rfl

theorem node_scalar {style : ScalarStyle} {text : String} :
    node (fuel + 1) inBlock indentless (r.before (.scalar style text :: ts)) =
      some (.scalar style none text, r.before ts) := by
  rw [node]
  rfl

theorem node_emptySequence :
    node (fuel + 2) inBlock indentless (r.before (.flowSequenceStart :: .flowSequenceEnd :: ts)) =
      some (.sequence [], r.before ts) := by
  rw [node]
  rfl

theorem node_emptyMapping :
    node (fuel + 2) inBlock indentless (r.before (.flowMappingStart :: .flowMappingEnd :: ts)) =
      some (.mapping [], r.before ts) := by
  rw [node]
  rfl

theorem node_blockSequence :
    node (fuel + 1) true indentless (r.before (.blockSequenceStart :: ts)) = blockItems fuel [] (r.before ts) := by
  have same : node (fuel + 1) true indentless (r.before (.blockSequenceStart :: ts)) =
      (blockItems fuel [] (r.before ts)).bind some := by
    rw [node]
    rfl
  rw [same, Option.bind_fun_some]

theorem node_indentless :
    node (fuel + 1) inBlock true (r.before (.blockEntry :: ts)) =
      indentlessItems fuel [] (r.before (.blockEntry :: ts)) := by
  have same : node (fuel + 1) inBlock true (r.before (.blockEntry :: ts)) =
      (indentlessItems fuel [] (r.before (.blockEntry :: ts))).bind some := by
    rw [node]
    rfl
  rw [same, Option.bind_fun_some]

theorem node_blockMapping :
    node (fuel + 1) true indentless (r.before (.blockMappingStart :: ts)) = blockEntries fuel [] (r.before ts) := by
  have same : node (fuel + 1) true indentless (r.before (.blockMappingStart :: ts)) =
      (blockEntries fuel [] (r.before ts)).bind some := by
    rw [node]
    rfl
  rw [same, Option.bind_fun_some]

theorem nodeBefore_of {ends : List Token} (other : t ∉ ends) :
    nodeBefore (fuel + 1) ends inBlock indentless (r.before (t :: ts)) =
      node fuel inBlock indentless (r.before (t :: ts)) := by
  rw [nodeBefore, bind_read, isAt_before, Option.bind_some, if_neg (by simpa using other)]

theorem blockItems_entry {items : List Node} :
    blockItems (fuel + 1) items (r.before (.blockEntry :: ts)) =
      (nodeBefore fuel [.blockEntry, .blockEnd] true false (r.before ts)).bind fun (n, r) =>
        blockItems fuel (n :: items) r := by
  rw [blockItems]
  rfl

theorem blockItems_end {items : List Node} :
    blockItems (fuel + 1) items (r.before (.blockEnd :: ts)) = some (.sequence items.reverse, r.before ts) := by
  rw [blockItems]
  rfl

theorem indentlessItems_entry {items : List Node} :
    indentlessItems (fuel + 1) items (r.before (.blockEntry :: ts)) =
      (nodeBefore fuel [.blockEntry, .key, .value, .blockEnd] true false (r.before ts)).bind fun (n, r) =>
        indentlessItems fuel (n :: items) r := by
  rw [indentlessItems]
  rfl

theorem indentlessItems_end {items : List Node} (other : ts.head? ≠ some .blockEntry) :
    indentlessItems (fuel + 1) items (r.before ts) = some (.sequence items.reverse, r.before ts) := by
  rw [indentlessItems]
  cases ts with
  | nil => rfl
  | cons t ts =>
    have different : t ≠ .blockEntry := fun same => other (congrArg some same)
    rw [bind_read, accept_other different]
    rfl

theorem blockEntries_entry {entries : List (Node × Node)} {style : ScalarStyle} {text : String} :
    blockEntries (fuel + 3) entries (r.before (.key :: .scalar style text :: .value :: ts)) =
      (nodeBefore (fuel + 2) [.key, .value, .blockEnd] true true (r.before ts)).bind fun (v, r) =>
        blockEntries (fuel + 2) ((.scalar style none text, v) :: entries) r := by
  rw [blockEntries]
  rfl

theorem blockEntries_end {entries : List (Node × Node)} :
    blockEntries (fuel + 1) entries (r.before (.blockEnd :: ts)) = some (.mapping entries.reverse, r.before ts) := by
  rw [blockEntries]
  rfl

/-- A node is composed from its tokens with enough fuel, as an item and, where no further item follows, as a value. -/
def Composed (n : Node) : Prop :=
  ∀ {indentless : Bool} {fuel : Nat} {r : Reading} {ts : List Token}, 4 * (n.tokens indentless).length + 2 ≤ fuel →
    (indentless = false ∨ ts.head? ≠ some .blockEntry) →
    node fuel true indentless (r.before (n.tokens indentless ++ ts)) = some (n, r.before ts)

variable (indentless) in
theorem nodeBefore_tokens (ends : List Token) {n : Node} (written : n.Written) (composed : Composed n)
    (ordinary : ∀ t ∈ ends, t.beginsNode indentless = false) (other : indentless = false ∨ ts.head? ≠ some .blockEntry)
    (enough : 4 * (n.tokens indentless).length + 3 ≤ fuel) :
    nodeBefore fuel ends true indentless (r.before (n.tokens indentless ++ ts)) = some (n, r.before ts) := by
  obtain ⟨fuel, rfl⟩ : ∃ m, fuel = m + 1 := ⟨fuel - 1, by omega⟩
  have read := composed (r := r) (by omega : _ ≤ fuel) other
  obtain ⟨t, us, first, begins⟩ := written.exists_tokens indentless
  have goesOn : t ∉ ends := fun mem => absurd begins (by simp [ordinary t mem])
  rw [first, List.cons_append] at read ⊢
  rw [nodeBefore_of goesOn, read]

theorem blockItems_tokens {ns items : List Node} (written : ∀ n ∈ ns, n.Written) (each : ∀ n ∈ ns, Composed n)
    (enough : 4 * (itemTokens ns).length + 1 ≤ fuel) :
    blockItems fuel items (r.before (itemTokens ns ++ .blockEnd :: ts)) =
      some (.sequence (items.reverse ++ ns), r.before ts) := by
  induction ns generalizing fuel items with
  | nil =>
    obtain ⟨fuel, rfl⟩ := Nat.exists_eq_add_of_le' enough
    simpa [itemTokens] using blockItems_end
  | cons n ns ih =>
    simp only [itemTokens, List.length_cons, List.length_append] at enough
    obtain ⟨fuel, rfl⟩ : ∃ m, fuel = m + 1 := ⟨fuel - 1, by omega⟩
    obtain ⟨writtenFirst, writtenOthers⟩ := List.forall_mem_cons.mp written
    obtain ⟨first, others⟩ := List.forall_mem_cons.mp each
    rw [itemTokens, List.cons_append, blockItems_entry, List.append_assoc,
      nodeBefore_tokens false [.blockEntry, .blockEnd] writtenFirst first (by decide) (.inl rfl) (by omega), Option.bind_some]
    exact (ih writtenOthers others (by omega)).trans (by simp)

theorem indentlessItems_tokens {ns items : List Node} (written : ∀ n ∈ ns, n.Written) (each : ∀ n ∈ ns, Composed n)
    (other : ts.head? ≠ some .blockEntry) (enough : 4 * (itemTokens ns).length + 1 ≤ fuel) :
    indentlessItems fuel items (r.before (itemTokens ns ++ ts)) =
      some (.sequence (items.reverse ++ ns), r.before ts) := by
  induction ns generalizing fuel items with
  | nil =>
    obtain ⟨fuel, rfl⟩ := Nat.exists_eq_add_of_le' enough
    simpa [itemTokens] using indentlessItems_end other
  | cons n ns ih =>
    simp only [itemTokens, List.length_cons, List.length_append] at enough
    obtain ⟨fuel, rfl⟩ : ∃ m, fuel = m + 1 := ⟨fuel - 1, by omega⟩
    obtain ⟨writtenFirst, writtenOthers⟩ := List.forall_mem_cons.mp written
    obtain ⟨first, others⟩ := List.forall_mem_cons.mp each
    rw [itemTokens, List.cons_append, indentlessItems_entry, List.append_assoc,
      nodeBefore_tokens false [.blockEntry, .key, .value, .blockEnd] writtenFirst first (by decide) (.inl rfl) (by omega),
      Option.bind_some]
    exact (ih writtenOthers others (by omega)).trans (by simp)

theorem blockEntries_tokens {es entries : List (Node × Node)} (keys : ∀ e ∈ es, e.1.IsKey)
    (written : ∀ e ∈ es, e.2.Written) (each : ∀ e ∈ es, Composed e.2) (enough : 4 * (entryTokens es).length + 1 ≤ fuel) :
    blockEntries fuel entries (r.before (entryTokens es ++ .blockEnd :: ts)) =
      some (.mapping (entries.reverse ++ es), r.before ts) := by
  induction es generalizing fuel entries with
  | nil =>
    obtain ⟨fuel, rfl⟩ := Nat.exists_eq_add_of_le' enough
    simpa [entryTokens] using blockEntries_end
  | cons e es ih =>
    obtain ⟨key, v⟩ := e
    obtain ⟨⟨name, rfl, -⟩, otherKeys⟩ := List.forall_mem_cons.mp keys
    obtain ⟨(writtenFirst : v.Written), writtenOthers⟩ := List.forall_mem_cons.mp written
    obtain ⟨(first : Composed v), others⟩ := List.forall_mem_cons.mp each
    simp only [entryTokens, Node.tokens, List.length_cons, List.length_append] at enough
    obtain ⟨fuel, rfl⟩ : ∃ m, fuel = m + 3 := ⟨fuel - 3, by omega⟩
    -- what follows the value is the next key or the end of the block
    have next : (entryTokens es ++ .blockEnd :: ts).head? ≠ some .blockEntry := by
      cases es with
      | nil => simp [entryTokens]
      | cons e es => simp [entryTokens]
    simp only [entryTokens, Node.tokens, List.cons_append, List.nil_append, List.append_assoc]
    rw [blockEntries_entry,
      nodeBefore_tokens true [.key, .value, .blockEnd] writtenFirst first (by decide) (.inr next) (by omega),
      Option.bind_some]
    exact (ih otherKeys writtenOthers others (by omega)).trans (by simp)

theorem composed_scalar (style : ScalarStyle) (text : String) : Composed (.scalar style none text) := by
  intro indentless fuel r ts enough other
  obtain ⟨fuel, rfl⟩ : ∃ m, fuel = m + 1 := ⟨fuel - 1, by omega⟩
  simpa [Node.tokens] using node_scalar

/-- A sequence is composed up to the mark of its end or, if it has no marks, up to the token that is no item. -/
theorem composed_sequence {items : List Node} (written : ∀ n ∈ items, n.Written) (each : ∀ n ∈ items, Composed n) :
    Composed (.sequence items) := by
  intro indentless fuel r ts enough other
  obtain ⟨fuel, rfl⟩ : ∃ m, fuel = m + 2 := ⟨fuel - 2, by omega⟩
  cases items with
  | nil => simpa [Node.tokens] using node_emptySequence
  | cons n ns =>
    cases indentless with
    | true =>
      have unmarked : Node.tokens true (.sequence (n :: ns)) = itemTokens (n :: ns) := by rw [Node.tokens, if_pos rfl]
      have entry : itemTokens (n :: ns) ++ ts = .blockEntry :: (n.tokens false ++ itemTokens ns ++ ts) := by
        rw [itemTokens, List.cons_append]
      rw [unmarked] at enough ⊢
      rw [entry, node_indentless, ← entry]
      exact indentlessItems_tokens written each (other.resolve_left (by decide)) (by omega)
    | false =>
      have marked : Node.tokens false (.sequence (n :: ns)) =
          .blockSequenceStart :: (itemTokens (n :: ns) ++ [.blockEnd]) := by
        rw [Node.tokens, if_neg Bool.false_ne_true]
      rw [marked] at enough ⊢
      simp only [List.length_cons, List.length_append] at enough
      rw [List.cons_append, node_blockSequence, List.append_assoc]
      exact blockItems_tokens written each (by omega)

theorem composed_mapping {entries : List (Node × Node)} (keys : ∀ e ∈ entries, e.1.IsKey)
    (written : ∀ e ∈ entries, e.2.Written) (each : ∀ e ∈ entries, Composed e.2) : Composed (.mapping entries) := by
  intro indentless fuel r ts enough other
  obtain ⟨fuel, rfl⟩ : ∃ m, fuel = m + 2 := ⟨fuel - 2, by omega⟩
  cases entries with
  | nil => simpa [Node.tokens] using node_emptyMapping
  | cons e es =>
    have marked : Node.tokens indentless (.mapping (e :: es)) =
        .blockMappingStart :: (entryTokens (e :: es) ++ [.blockEnd]) := by rw [Node.tokens]
    rw [marked] at enough ⊢
    simp only [List.length_cons, List.length_append] at enough
    rw [List.cons_append, node_blockMapping, List.append_assoc]
    exact blockEntries_tokens keys written each (by omega)

/-- **A written node is composed from its tokens.** -/
theorem composed_of_written {n : Node} (written : n.Written) : Composed n := by
  induction written with
  | scalar => exact composed_scalar _ _
  | sequence written ih => exact composed_sequence written ih
  | mapping keys written ih => exact composed_mapping keys written ih

end Reader

end CloudLifecycle.Yaml
