import CloudLifecycle.Proofs.Yaml.Steps

/-!
# The tokens of a written document

A tree whose texts have styles that fit them is scanned as its tokens, wherever it is written: after a key, where a
sequence may stand at the column of the key, and after a dash. The induction on the tree carries both (`Scanned`), for
any tokens and blocks before it and any text that may follow it.
-/

namespace CloudLifecycle.Yaml

/-- Whether a node may be the key of an entry: a short plain text. -/
def Node.IsKey (n : Node) : Prop :=
  ∃ text, n = .scalar .plain none text ∧ ScalarStyle.plain.Fits text.toList ∧ text.toList.length ≤ 1024

/-- A tree whose texts have styles that fit them, without tags and aliases. -/
inductive Node.Written : Node → Prop where
  | scalar {style : ScalarStyle} {text : String} (fits : style.Fits text.toList) : Written (.scalar style none text)
  | sequence {items : List Node} (each : ∀ n ∈ items, Written n) : Written (.sequence items)
  | mapping {entries : List (Node × Node)} (keys : ∀ e ∈ entries, e.1.IsKey) (each : ∀ e ∈ entries, Written e.2) :
    Written (.mapping entries)

mutual

/-- The tokens that a node is written as. A sequence at the column of the mapping around it has no marks of its own. -/
def Node.tokens (indentless : Bool) : Node → List Token
  | .scalar style _ text => [.scalar style text]
  | .sequence [] => [.flowSequenceStart, .flowSequenceEnd]
  | .sequence (n :: ns) =>
    if indentless then itemTokens (n :: ns) else .blockSequenceStart :: (itemTokens (n :: ns) ++ [.blockEnd])
  | .mapping [] => [.flowMappingStart, .flowMappingEnd]
  | .mapping (e :: es) => .blockMappingStart :: (entryTokens (e :: es) ++ [.blockEnd])
  | .aliasOf number => [.aliasOf (toString number)]

/-- The tokens of the items of a sequence. -/
def itemTokens : List Node → List Token
  | [] => []
  | n :: ns => .blockEntry :: (n.tokens false ++ itemTokens ns)

/-- The tokens of the entries of a mapping. -/
def entryTokens : List (Node × Node) → List Token
  | [] => []
  | (k, v) :: es => .key :: (k.tokens true ++ .value :: (v.tokens true ++ entryTokens es))

end

namespace Scan

variable {tail : List Char} {k : Nat}

/-- A node is scanned as its tokens, after a key and after a dash. -/
structure Scanned (n : Node) : Prop where
  value : ∀ (tokens : List Token) (outer : List Int) {indent : Nat} {p : Position} {k : Nat} {tail : List Char},
    indent < p.column → Follows indent k tail →
    ∃ l, Passes (renderValue indent n).toList.length
      (outside ((renderValue indent n).toList ++ (spaces k ++ tail)) p tokens indent outer none false)
      (ready tail ⟨l, k⟩ (tokens ++ n.tokens true) indent outer)
  item : ∀ (tokens : List Token) (outer : List Int) {indent : Nat} {p : Position} {k : Nat} {tail : List Char},
    p.column = indent + 1 → Follows indent k tail →
    ∃ l, Passes (renderItem indent n).toList.length
      (outside ((renderItem indent n).toList ++ (spaces k ++ tail)) p tokens indent outer none true)
      (ready tail ⟨l, k⟩ (tokens ++ n.tokens false) indent outer)

theorem atWordEnd_renderValue (indent : Nat) (n : Node) (rest : List Char) :
    atWordEnd ((renderValue indent n).toList ++ rest) = true := by
  rcases n with ⟨_, _, _⟩ | ⟨_ | _⟩ | ⟨_ | _⟩ | _ <;> simp [renderValue, atWordEnd, isSpace, isBreak]

/-- The text of an entry whose key is plain. -/
def entryText (column : Nat) (key : String) (v : Node) : List Char := key.toList ++ ':' :: (renderValue column v).toList

theorem passes_entry {key : String} {v : Node} {column l : Nat} (tokens : List Token) {indent : Int} (outer : List Int)
    (fits : ScalarStyle.plain.Fits key.toList) (short : key.toList.length ≤ 1024) (scanned : Scanned v)
    (there : indent ≤ column) (follows : Follows column k tail) :
    ∃ l', Passes (entryText column key v).length
      (ready (entryText column key v ++ (spaces k ++ tail)) ⟨l, column⟩ tokens indent outer)
      (ready tail ⟨l', k⟩ (tokens ++ opening indent column .blockMappingStart ++
        (.key :: .scalar .plain key :: .value :: v.tokens true)) column (around indent column outer)) := by
  have first : Passes _ (ready (key.toList ++ ':' :: ((renderValue column v).toList ++ (spaces k ++ tail))) ⟨l, column⟩
      tokens indent outer) _ := passes_key fits short there (atWordEnd_renderValue column v _)
  have right : column < (Position.right ⟨l, column⟩ (key.toList.length + 1)).column := by
    simp only [Position.right]
    omega
  obtain ⟨l', second⟩ := scanned.value
    (tokens ++ opening indent column .blockMappingStart ++ [.key, .scalar .plain key, .value]) (around indent column outer) right follows
  rw [String.ofList_toList] at first
  refine ⟨l', ?_⟩
  simpa [entryText, Nat.add_assoc, Nat.add_comm 1] using first.trans second

theorem renderEntries_eq (column : Nat) (inLine : Bool) (key : String) (v : Node) (es : List (Node × Node)) :
    (renderEntries column inLine ((.scalar .plain none key, v) :: es)).toList =
      (lead column inLine).toList ++ (entryText column key v ++ (renderEntries column false es).toList) := by
  simp [renderEntries, renderKey, entryText]

theorem renderEntries_true (column : Nat) (key : String) (v : Node) (es : List (Node × Node)) :
    (renderEntries column true ((.scalar .plain none key, v) :: es)).toList =
      entryText column key v ++ (renderEntries column false es).toList := by
  simp [renderEntries_eq, lead]

theorem renderEntries_false (column : Nat) (e : Node × Node) (es : List (Node × Node)) :
    (renderEntries column false (e :: es)).toList = spaces column ++ (renderEntries column true (e :: es)).toList := by
  obtain ⟨key, v⟩ := e
  simp [renderEntries, lead]

theorem atToken_key {key : String} (fits : ScalarStyle.plain.Fits key.toList) (rest : List Char) :
    AtToken (key.toList ++ rest) := by
  obtain ⟨nonempty, fits⟩ := fits
  obtain ⟨c, cs, same⟩ := List.exists_cons_of_ne_nil nonempty
  rw [same] at fits ⊢
  exact atToken_plain (PlainText.of_fits fits) _

theorem atToken_entries {e : Node × Node} (isKey : e.1.IsKey) (column : Nat) (es : List (Node × Node))
    (rest : List Char) :
    AtToken ((renderEntries column true (e :: es)).toList ++ rest) := by
  obtain ⟨key, v⟩ := e
  obtain ⟨name, rfl, fits, -⟩ := isKey
  rw [renderEntries_true, entryText, List.append_assoc, List.append_assoc]
  exact atToken_key fits _

/-- The entries of a mapping are scanned, from the first key. -/
theorem passes_entries {e : Node × Node} {es : List (Node × Node)} {column l : Nat} (tokens : List Token) {indent : Int}
    (outer : List Int) (keys : ∀ e' ∈ e :: es, e'.1.IsKey) (each : ∀ e' ∈ e :: es, Scanned e'.2)
    (there : indent ≤ column) (follows : Follows column k tail) :
    ∃ l', Passes (renderEntries column true (e :: es)).toList.length
      (ready ((renderEntries column true (e :: es)).toList ++ (spaces k ++ tail)) ⟨l, column⟩ tokens indent outer)
      (ready tail ⟨l', k⟩ (tokens ++ opening indent column .blockMappingStart ++ entryTokens (e :: es)) column
        (around indent column outer)) := by
  induction es generalizing e l tokens indent outer with
  | nil =>
    obtain ⟨key, v⟩ := e
    obtain ⟨name, rfl, fits, short⟩ := keys _ List.mem_cons_self
    obtain ⟨l', passes⟩ := passes_entry tokens outer fits short (each _ List.mem_cons_self) there follows
    refine ⟨l', ?_⟩
    have none : (renderEntries column false []).toList = [] := by simp [renderEntries]
    rw [renderEntries_true, none, List.append_nil]
    simpa [entryTokens, Node.tokens] using passes
  | cons e' es ih =>
    obtain ⟨key, v⟩ := e
    obtain ⟨name, rfl, fits, short⟩ := keys _ List.mem_cons_self
    have others : ∀ e'' ∈ e' :: es, e''.1.IsKey := fun e'' mem => keys e'' (List.mem_cons_of_mem _ mem)
    have next : Follows column column ((renderEntries column true (e' :: es)).toList ++ (spaces k ++ tail)) :=
      ⟨atToken_entries (others _ List.mem_cons_self) column es _, .inr (Int.le_refl _)⟩
    obtain ⟨l₁, first⟩ := passes_entry (l := l) tokens outer fits short (each _ List.mem_cons_self) there next
    obtain ⟨l₂, second⟩ := ih (l := l₁) (tokens ++ opening indent column .blockMappingStart ++
        (.key :: .scalar .plain name :: .value :: v.tokens true)) (around indent column outer) others
      (fun e'' mem => each e'' (List.mem_cons_of_mem _ mem)) (Int.le_refl _)
    refine ⟨l₂, ?_⟩
    rw [renderEntries_true, renderEntries_false]
    have both := (first.trans second).mono
      (n := (entryText column name v ++ (spaces column ++ (renderEntries column true (e' :: es)).toList)).length)
      (by simp)
    simpa [entryTokens, Node.tokens] using both

theorem renderItem_space (indent : Nat) (n : Node) : ∃ cs, (renderItem indent n).toList = ' ' :: cs := by
  rcases n with ⟨_, _, _⟩ | ⟨_ | _⟩ | ⟨_ | _⟩ | _ <;> simp [renderItem]

theorem renderItems_true (column : Nat) (n : Node) (ns : List Node) :
    (renderItems column true (n :: ns)).toList =
      '-' :: ((renderItem column n).toList ++ (renderItems column false ns).toList) := by
  simp [renderItems, lead]

theorem renderItems_false (column : Nat) (n : Node) (ns : List Node) :
    (renderItems column false (n :: ns)).toList = spaces column ++ (renderItems column true (n :: ns)).toList := by
  simp [renderItems, lead]

theorem passes_item {n : Node} {column l : Nat} (tokens : List Token) {indent : Int} (outer : List Int)
    (scanned : Scanned n) (there : indent ≤ column) (follows : Follows column k tail) :
    ∃ l', Passes (1 + (renderItem column n).toList.length)
      (ready ('-' :: ((renderItem column n).toList ++ (spaces k ++ tail))) ⟨l, column⟩ tokens indent outer)
      (ready tail ⟨l', k⟩ (tokens ++ opening indent column .blockSequenceStart ++ (.blockEntry :: n.tokens false)) column
        (around indent column outer)) := by
  obtain ⟨l', second⟩ := scanned.item (p := Position.right ⟨l, column⟩ 1)
    (tokens ++ opening indent column .blockSequenceStart ++ [.blockEntry]) (around indent column outer) rfl follows
  obtain ⟨cs, blank⟩ := renderItem_space column n
  have first : Passes 1 (ready ('-' :: ' ' :: (cs ++ (spaces k ++ tail))) ⟨l, column⟩ tokens indent outer) _ :=
    passes_dash there
  refine ⟨l', ?_⟩
  rw [blank] at second ⊢
  simpa using first.trans second

/-- The items of a sequence are scanned, from the first dash. -/
theorem passes_items {n : Node} {ns : List Node} {column l : Nat} (tokens : List Token) {indent : Int} (outer : List Int)
    (each : ∀ n' ∈ n :: ns, Scanned n') (there : indent ≤ column) (follows : Follows column k tail) :
    ∃ l', Passes (renderItems column true (n :: ns)).toList.length
      (ready ((renderItems column true (n :: ns)).toList ++ (spaces k ++ tail)) ⟨l, column⟩ tokens indent outer)
      (ready tail ⟨l', k⟩ (tokens ++ opening indent column .blockSequenceStart ++ itemTokens (n :: ns)) column
        (around indent column outer)) := by
  induction ns generalizing n l tokens indent outer with
  | nil =>
    obtain ⟨l', passes⟩ := passes_item tokens outer (each n List.mem_cons_self) there follows
    refine ⟨l', ?_⟩
    have none : (renderItems column false []).toList = [] := by simp [renderItems]
    rw [renderItems_true, none, List.append_nil, List.length_cons, Nat.add_comm]
    simpa [itemTokens] using passes
  | cons n' ns ih =>
    have next : Follows column column ((renderItems column true (n' :: ns)).toList ++ (spaces k ++ tail)) := by
      refine ⟨?_, .inr (Int.le_refl _)⟩
      rw [renderItems_true]
      exact ⟨by decide, by decide, by decide, by decide⟩
    obtain ⟨l₁, first⟩ := passes_item (l := l) tokens outer (each n List.mem_cons_self) there next
    obtain ⟨l₂, second⟩ := ih (l := l₁)
      (tokens ++ opening indent column .blockSequenceStart ++ (.blockEntry :: n.tokens false))
      (around indent column outer) (fun n'' mem => each n'' (List.mem_cons_of_mem _ mem)) (Int.le_refl _)
    refine ⟨l₂, ?_⟩
    rw [renderItems_true, renderItems_false]
    have both := (first.trans second).mono
      (n := ('-' :: ((renderItem column n).toList ++ (spaces column ++ (renderItems column true (n' :: ns)).toList))).length)
      (by simp; omega)
    simpa [itemTokens] using both

theorem atToken_scalar {w : Nat} {style : ScalarStyle} {text : String} (fits : style.Fits text.toList)
    (rest : List Char) : AtToken ((writeScalar w style text).toList ++ rest) := by
  cases style with
  | plain =>
    have written : (writeScalar w .plain text).toList ++ rest = text.toList ++ ('\n' :: rest) := by simp [writeScalar]
    rw [written]
    exact atToken_key fits _
  | folded => exact fits.elim
  | _ =>
    simp only [writeScalar, writeSingle, writeDouble, writeBlock, String.toList_ofList, List.cons_append]
    exact ⟨by decide, by decide, by decide, by decide⟩

section Nodes

variable {indent : Nat} {p : Position} {outer : List Int} {keyAllowed : Bool}

/-- A scalar after a key or a dash is scanned as a token. -/
theorem passes_scalar_item (tokens : List Token) {style : ScalarStyle} {text : String} (fits : style.Fits text.toList)
    (right : indent < p.column) (follows : Follows indent k tail) :
    ∃ l, Passes (' ' :: (writeScalar (indent + 2) style text).toList).length
      (outside (' ' :: ((writeScalar (indent + 2) style text).toList ++ (spaces k ++ tail))) p tokens indent outer none
        keyAllowed)
      (ready tail ⟨l, k⟩ (tokens ++ [.scalar style text]) indent outer) := by
  have inside : (indent : Int) < (p.right 1).column := by simp only [Position.right]; omega
  have width : indent + 2 = (max (indent : Int) 0).toNat + 2 := by simp
  obtain ⟨l, passes⟩ := passes_scalar tokens outer keyAllowed fits inside width follows
  exact ⟨l, ((Passes.of_settle (settle_space (atToken_scalar fits _))).trans passes).mono (by simp)⟩

/-- An empty sequence or mapping after a key or a dash is scanned as two tokens. -/
theorem passes_empty_item (tokens : List Token) (isSequence : Bool) (right : indent < p.column)
    (follows : Follows indent k tail) :
    Passes 4
      (outside (' ' :: (if isSequence then '[' else '\x7b') :: (if isSequence then ']' else '\x7d') :: '\n' ::
        (spaces k ++ tail)) p tokens indent outer none keyAllowed)
      (ready tail ⟨p.line + 1, k⟩
        (tokens ++ [if isSequence then .flowSequenceStart else .flowMappingStart,
          if isSequence then .flowSequenceEnd else .flowMappingEnd]) indent outer) := by
  have inside : (indent : Int) < (p.right 1).column := by simp only [Position.right]; omega
  have stands : AtToken ((if isSequence then '[' else '\x7b') :: (if isSequence then ']' else '\x7d') :: '\n' ::
      (spaces k ++ tail)) := by
    cases isSequence <;> exact ⟨by decide, by decide, by decide, by decide⟩
  exact ((Passes.of_settle (settle_space stands)).trans (passes_empty isSequence inside follows.stands)).mono (by decide)

/-- A block on the next line is reached over the end of the line and the blanks before it. -/
theorem passes_below {block rest : List Char} {tokens : List Token} {column : Nat} {t : Scan}
    (stands : AtToken (block ++ rest)) (passes : Passes block.length (ready (block ++ rest) ⟨p.line + 1, column⟩ tokens indent outer) t) :
    Passes ('\n' :: (spaces column ++ block)).length
      (outside ('\n' :: (spaces column ++ block) ++ rest) p tokens indent outer none keyAllowed) t := by
  have reached : Passes 0 (outside ('\n' :: (spaces column ++ (block ++ rest))) p tokens indent outer none keyAllowed)
      (ready (block ++ rest) ⟨p.line + 1, column⟩ tokens indent outer) := .of_settle (settle_newline column stands (by simp))
  rw [List.cons_append, List.append_assoc]
  exact (reached.trans passes).mono (by simp; omega)

/-- A block that begins in the same line is reached over a space. -/
theorem passes_beside {block rest : List Char} {tokens : List Token} {t : Scan} (stands : AtToken (block ++ rest))
    (passes : Passes block.length (ready (block ++ rest) (p.right 1) tokens indent outer) t) :
    Passes (' ' :: block).length (outside (' ' :: block ++ rest) p tokens indent outer none true) t :=
  ((Passes.of_settle (settle_space stands)).trans passes).mono (by simp)

theorem Passes.close {m column : Nat} {s : Scan} {tokens : List Token} {indent : Int}
    (passes : Passes m s (ready tail p tokens column (around indent column outer))) (deeper : indent < column)
    (stands : AtToken tail) (left : p.column < column) :
    Passes m s (ready tail p (tokens ++ [.blockEnd]) indent outer) := by
  rw [around, if_pos deeper] at passes
  exact passes.trans (.of_settle (settle_blockEnd stands (by omega)))

/-- A sequence that is a block of its own is scanned with its marks. -/
theorem passes_sequence {n : Node} {ns : List Node} {column l : Nat} (tokens : List Token) {indent : Int}
    (each : ∀ n' ∈ n :: ns, Scanned n') (deeper : indent < column) (follows : Follows column k tail)
    (left : k < column) :
    ∃ l', Passes (renderItems column true (n :: ns)).toList.length
      (ready ((renderItems column true (n :: ns)).toList ++ (spaces k ++ tail)) ⟨l, column⟩ tokens indent outer)
      (ready tail ⟨l', k⟩ (tokens ++ Node.tokens false (.sequence (n :: ns))) indent outer) := by
  obtain ⟨l', passes⟩ := passes_items (l := l) tokens outer each (Int.le_of_lt deeper) follows
  exact ⟨l', by simpa [Node.tokens, opening, deeper] using passes.close deeper follows.stands left⟩

/-- A mapping is scanned with its marks. -/
theorem passes_mapping {e : Node × Node} {es : List (Node × Node)} {column l : Nat} (tokens : List Token) {indent : Int}
    (indentless : Bool) (keys : ∀ e' ∈ e :: es, e'.1.IsKey) (each : ∀ e' ∈ e :: es, Scanned e'.2)
    (deeper : indent < column) (follows : Follows column k tail) (left : k < column) :
    ∃ l', Passes (renderEntries column true (e :: es)).toList.length
      (ready ((renderEntries column true (e :: es)).toList ++ (spaces k ++ tail)) ⟨l, column⟩ tokens indent outer)
      (ready tail ⟨l', k⟩ (tokens ++ Node.tokens indentless (.mapping (e :: es))) indent outer) := by
  obtain ⟨l', passes⟩ := passes_entries (l := l) tokens outer keys each (Int.le_of_lt deeper) follows
  exact ⟨l', by simpa [Node.tokens, opening, deeper] using passes.close deeper follows.stands left⟩

end Nodes

theorem Follows.deeper {indent : Nat} (h : Follows indent k tail) :
    (indent : Int) < (indent + 2 : Nat) ∧ Follows (indent + 2 : Nat) k tail ∧ k < indent + 2 := by
  obtain ⟨stands, left⟩ := h
  refine ⟨by omega, ⟨stands, left.imp_right fun left => by omega⟩, ?_⟩
  rcases left with ⟨-, rfl⟩ | left <;> omega

theorem scanned_scalar {style : ScalarStyle} {text : String} (fits : style.Fits text.toList) :
    Scanned (.scalar style none text) where
  value tokens outer _ _ _ _ right follows := by
    simpa [renderValue, Node.tokens] using passes_scalar_item tokens fits right follows
  item tokens outer _ _ _ _ right follows := by
    simpa [renderItem, Node.tokens] using passes_scalar_item tokens fits (by omega) follows

theorem scanned_emptySequence : Scanned (.sequence []) where
  value tokens outer _ p _ _ right follows :=
    ⟨p.line + 1, by simpa [renderValue, Node.tokens] using passes_empty_item tokens true right follows⟩
  item tokens outer _ p _ _ right follows :=
    ⟨p.line + 1, by simpa [renderItem, Node.tokens] using passes_empty_item tokens true (by omega) follows⟩

theorem scanned_emptyMapping : Scanned (.mapping []) where
  value tokens outer _ p _ _ right follows :=
    ⟨p.line + 1, by simpa [renderValue, Node.tokens] using passes_empty_item tokens false right follows⟩
  item tokens outer _ p _ _ right follows :=
    ⟨p.line + 1, by simpa [renderItem, Node.tokens] using passes_empty_item tokens false (by omega) follows⟩

/-- After a key, the items of a sequence stand at the column of the key; after a dash, they are a block of their own. -/
theorem scanned_sequence {n : Node} {ns : List Node} (each : ∀ n' ∈ n :: ns, Scanned n') :
    Scanned (.sequence (n :: ns)) := by
  have begins (column : Nat) (rest : List Char) : AtToken ((renderItems column true (n :: ns)).toList ++ rest) := by
    rw [renderItems_true]
    exact ⟨by decide, by decide, by decide, by decide⟩
  constructor
  · intro tokens outer indent p k tail right follows
    have text : (renderValue indent (.sequence (n :: ns))).toList =
        '\n' :: (spaces indent ++ (renderItems indent true (n :: ns)).toList) := by
      simp [renderValue, renderItems_false]
    obtain ⟨l, passes⟩ := passes_items (l := p.line + 1) tokens outer each (Int.le_refl indent) follows
    rw [text]
    exact ⟨l, by simpa [Node.tokens] using passes_below (begins indent _) passes⟩
  · intro tokens outer indent p k tail right follows
    have text : (renderItem indent (.sequence (n :: ns))).toList =
        ' ' :: (renderItems (indent + 2) true (n :: ns)).toList := by simp [renderItem]
    obtain ⟨deeper, further, left⟩ := follows.deeper
    obtain ⟨l, passes⟩ := passes_sequence (l := p.line) tokens each deeper further left
    have there : (⟨p.line, indent + 2⟩ : Position) = p.right 1 := by rw [Position.right, right]
    rw [there] at passes
    rw [text]
    exact ⟨l, passes_beside (begins _ _) passes⟩

theorem scanned_mapping {e : Node × Node} {es : List (Node × Node)} (keys : ∀ e' ∈ e :: es, e'.1.IsKey)
    (each : ∀ e' ∈ e :: es, Scanned e'.2) : Scanned (.mapping (e :: es)) := by
  have begins := atToken_entries (keys e List.mem_cons_self)
  constructor
  · intro tokens outer indent p k tail right follows
    have text : (renderValue indent (.mapping (e :: es))).toList =
        '\n' :: (spaces (indent + 2) ++ (renderEntries (indent + 2) true (e :: es)).toList) := by
      simp [renderValue, renderEntries_false]
    obtain ⟨deeper, further, left⟩ := follows.deeper
    obtain ⟨l, passes⟩ := passes_mapping (l := p.line + 1) tokens true keys each deeper further left
    rw [text]
    exact ⟨l, passes_below (begins _ _ _) passes⟩
  · intro tokens outer indent p k tail right follows
    have text : (renderItem indent (.mapping (e :: es))).toList =
        ' ' :: (renderEntries (indent + 2) true (e :: es)).toList := by simp [renderItem]
    obtain ⟨deeper, further, left⟩ := follows.deeper
    obtain ⟨l, passes⟩ := passes_mapping (l := p.line) tokens false keys each deeper further left
    have there : (⟨p.line, indent + 2⟩ : Position) = p.right 1 := by rw [Position.right, right]
    rw [there] at passes
    rw [text]
    exact ⟨l, passes_beside (begins _ _ _) passes⟩

/-- **A written node is scanned as its tokens.** -/
theorem scanned_of_written {n : Node} (written : n.Written) : Scanned n := by
  induction written with
  | scalar fits => exact scanned_scalar fits
  | @sequence items each ih =>
    cases items with
    | nil => exact scanned_emptySequence
    | cons n ns => exact scanned_sequence ih
  | @mapping entries keys each ih =>
    cases entries with
    | nil => exact scanned_emptyMapping
    | cons e es => exact scanned_mapping keys ih

end Scan

end CloudLifecycle.Yaml
