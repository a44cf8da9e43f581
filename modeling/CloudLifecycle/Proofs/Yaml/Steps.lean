import CloudLifecycle.Proofs.Yaml.Lines
import CloudLifecycle.Yaml.Token

/-!
# Steps through a stream

What one step of the scanner makes of what is written: a key with its colon (`passes_key`), a dash (`passes_dash`), a
scalar (`passes_scalar`) and empty brackets or braces (`passes_empty`). Each of them is followed by the end of its line,
the blanks at the start of the next and the token there, and leaves the stream `ready` at that token; so the steps can
be put one after the other (`Passes.trans`).

Two things happen on the way to a token, and nothing else depends on them: what may have been a key is dropped when its
line is over, and the blocks end that the token stands left of. `settle` is the stream after both.
-/

namespace CloudLifecycle.Yaml

namespace Scan

variable {s t u : Scan}

/-- The stream at its next token, with the blocks ended that the token does not belong to. -/
def settle (s : Scan) : Option Scan := s.toNextToken.dropStaleKeys.map fun s => s.unroll s.position.column

theorem run_succ (steps : Nat) (s : Scan) :
    run (steps + 1) s =
      s.settle.bind fun s => s.next.bind fun s' => if s.rest.isEmpty then some s'.tokens.toList else run steps s' := by
  rw [run, settle]
  cases s.toNextToken.dropStaleKeys <;> rfl

theorem run_congr (same : s.settle = t.settle) (steps : Nat) : run steps s = run steps t := by
  cases steps with
  | zero => rfl
  | succ steps => rw [run_succ, run_succ, same]

/-- The stream `s` becomes `t` in at most so many steps. -/
def Passes (length : Nat) (s t : Scan) : Prop := ∃ steps ≤ length, ∀ more, run (more + steps) s = run more t

theorem Passes.of_settle (same : s.settle = t.settle) : Passes 0 s t :=
  ⟨0, Nat.le_refl 0, fun more => run_congr same more⟩

theorem Passes.step {s' : Scan} (settled : s.settle = some s') (more : s'.rest ≠ []) (next : s'.next = some t) :
    Passes 1 s t := by
  refine ⟨1, Nat.le_refl 1, fun steps => ?_⟩
  rw [run_succ, settled, Option.bind_some, next, Option.bind_some, if_neg (by simpa using more)]

theorem Passes.trans {m n : Nat} (first : Passes m s t) (second : Passes n t u) : Passes (m + n) s u := by
  obtain ⟨i, le, first⟩ := first
  obtain ⟨j, le', second⟩ := second
  refine ⟨i + j, by omega, fun more => ?_⟩
  rw [show more + (i + j) = (more + j) + i by omega, first, second]

theorem Passes.mono {m n : Nat} (h : Passes m s t) (le : m ≤ n) : Passes n s t := by
  obtain ⟨i, le', h⟩ := h
  exact ⟨i, Nat.le_trans le' le, h⟩

/-! ## Streams outside brackets -/

/-- A stream outside brackets and braces. -/
def outside (rest : List Char) (p : Position) (tokens : List Token) (indent : Int) (outer : List Int)
    (key : Option PossibleKey) (keyAllowed : Bool) : Scan :=
  ⟨rest, p, tokens.toArray, 0, indent, outer, [key], keyAllowed⟩

/-- A stream outside brackets and braces in which a key may begin. -/
def ready (rest : List Char) (p : Position) (tokens : List Token) (indent : Int) (outer : List Int) : Scan :=
  outside rest p tokens indent outer none true

variable {rest tail : List Char} {p : Position} {tokens : List Token} {indent : Int} {outer : List Int}
  {key : Option PossibleKey} {keyAllowed : Bool}

theorem skipBlanks_atToken (stands : AtToken rest) : skipBlanks false keyAllowed rest p = (keyAllowed, rest, p) := by
  cases rest with
  | nil => rfl
  | cons c rest =>
    obtain ⟨visible, goesOn, unsigned, -⟩ := stands
    simp only [isSpace, Bool.or_eq_false_iff, decide_eq_false_iff_not] at visible
    simp [skipBlanks, visible, goesOn, unsigned]

theorem skipBlanks_spaces (k : Nat) (rest : List Char) :
    skipBlanks false keyAllowed (spaces k ++ rest) p = skipBlanks false keyAllowed rest (p.right k) :=
  read_spaces (skipBlanks false keyAllowed) (fun rest q _ => by rw [skipBlanks, if_pos (by simp)]) rest

theorem toNextToken_outside (unmarked : rest.head? ≠ some byteOrderMark) :
    (outside rest p tokens indent outer key keyAllowed).toNextToken =
      outside (skipBlanks false keyAllowed rest p).2.1 (skipBlanks false keyAllowed rest p).2.2 tokens indent outer key
        (skipBlanks false keyAllowed rest p).1 := by
  simp [toNextToken, outside, unmarked]

theorem dropStaleKeys_fresh
    (fresh : ∀ k ∈ key, p.line ≤ k.start.line ∧ p.column ≤ k.start.column + 1024) :
    (outside rest p tokens indent outer key keyAllowed).dropStaleKeys =
      some (outside rest p tokens indent outer key keyAllowed) := by
  cases key with
  | none => rfl
  | some k =>
    obtain ⟨line, column⟩ := fresh k rfl
    simp [dropStaleKeys, outside, Nat.not_lt.mpr line, Nat.not_lt.mpr column]

theorem dropStaleKeys_stale (stale : ∀ k ∈ key, k.required = false ∧ k.start.line < p.line) :
    (outside rest p tokens indent outer key keyAllowed).dropStaleKeys =
      some (outside rest p tokens indent outer none keyAllowed) := by
  cases key with
  | none => rfl
  | some k =>
    obtain ⟨optional, past⟩ := stale k rfl
    simp [dropStaleKeys, outside, optional, past]

theorem closeBlocks_of_le {column : Int} {marks : Array Token} (inside : indent ≤ column) :
    closeBlocks column indent outer marks = (indent, outer, marks) := by
  cases outer with
  | nil => rfl
  | cons i outer => rw [closeBlocks, if_neg (by omega)]

theorem unroll_of_le {column : Int} (inside : indent ≤ column) :
    (outside rest p tokens indent outer key keyAllowed).unroll column =
      outside rest p tokens indent outer key keyAllowed := by
  simp [unroll, outside, closeBlocks_of_le inside]

theorem unroll_of_lt {column inner : Int} (left : column < inner) :
    (outside rest p tokens inner (indent :: outer) key keyAllowed).unroll column =
      (outside rest p (tokens ++ [.blockEnd]) indent outer key keyAllowed).unroll column := by
  simp [unroll, outside, closeBlocks, left]

theorem head?_spaces_append (k : Nat) (stands : AtToken tail) : (spaces k ++ tail).head? ≠ some byteOrderMark := by
  cases k with
  | zero =>
    cases tail with
    | nil => simp [spaces]
    | cons c tail => exact fun mark => stands.2.2.2 (Option.some.inj mark)
  | succ k => exact fun mark => absurd (Option.some.inj mark) (by decide)

/-- Blanks before a token of the same line do not matter. -/
theorem settle_spaces (k : Nat) (stands : AtToken tail)
    (fresh : ∀ q ∈ key, p.line ≤ q.start.line ∧ p.column + k ≤ q.start.column + 1024) :
    (outside (spaces k ++ tail) p tokens indent outer key keyAllowed).settle =
      some ((outside tail (p.right k) tokens indent outer key keyAllowed).unroll (p.column + k : Nat)) := by
  rw [settle, toNextToken_outside (head?_spaces_append k stands), skipBlanks_spaces, skipBlanks_atToken stands,
    dropStaleKeys_fresh (by simpa [Position.right] using fresh)]
  rfl

theorem settle_atToken (stands : AtToken tail) :
    (outside tail p tokens indent outer none keyAllowed).settle =
      some ((outside tail p tokens indent outer none keyAllowed).unroll p.column) :=
  settle_spaces 0 stands (by simp)

theorem settle_ready (stands : AtToken tail) :
    (ready tail p tokens indent outer).settle = some ((ready tail p tokens indent outer).unroll p.column) :=
  settle_atToken stands

/-- A space before a token does not matter. -/
theorem settle_space (stands : AtToken tail) :
    (outside (' ' :: tail) p tokens indent outer none keyAllowed).settle =
      (outside tail (p.right 1) tokens indent outer none keyAllowed).settle := by
  rw [settle_atToken stands]
  exact settle_spaces 1 stands (by simp)

/-- A token that belongs to the innermost block is read. -/
theorem Passes.token (stands : AtToken rest) (nonempty : rest ≠ []) (inside : indent ≤ p.column)
    (next : (outside rest p tokens indent outer none keyAllowed).next = some t) :
    Passes 1 (outside rest p tokens indent outer none keyAllowed) t := by
  refine .step ((settle_atToken stands).trans (congrArg some (unroll_of_le inside))) nonempty next

/-- What may have been a key is none when its line is over. -/
theorem settle_stale (stands : AtToken tail) (stale : ∀ q ∈ key, q.required = false ∧ q.start.line < p.line) :
    (outside tail p tokens indent outer key true).settle = (ready tail p tokens indent outer).settle := by
  have unmarked : tail.head? ≠ some byteOrderMark := head?_spaces_append 0 stands
  rw [settle_ready stands, settle, toNextToken_outside unmarked, skipBlanks_atToken stands, dropStaleKeys_stale stale]
  rfl

/-- The end of a line and the blanks at the start of the next lead to the token there. -/
theorem settle_newline (k : Nat) (stands : AtToken tail)
    (stale : ∀ q ∈ key, q.required = false ∧ q.start.line ≤ p.line) :
    (outside ('\n' :: (spaces k ++ tail)) p tokens indent outer key keyAllowed).settle =
      (ready tail ⟨p.line + 1, k⟩ tokens indent outer).settle := by
  have skipped : skipBlanks false keyAllowed ('\n' :: (spaces k ++ tail)) p = (true, tail, ⟨p.line + 1, k⟩) := by
    rw [skipBlanks, if_neg (by simp), if_pos (by decide), skipBlanks_spaces, skipBlanks_atToken stands]
    simp [Position.nextLine, Position.right]
  have past : ∀ q ∈ key, q.required = false ∧ q.start.line < p.line + 1 := fun q mem =>
    ⟨(stale q mem).1, Nat.lt_succ_of_le (stale q mem).2⟩
  rw [settle_ready stands, settle, toNextToken_outside (by simp [byteOrderMark]), skipped, dropStaleKeys_stale past]
  rfl

/-- A block ends before a token that stands left of it. -/
theorem settle_blockEnd {inner : Int} (stands : AtToken tail) (left : p.column < inner) :
    (ready tail p tokens inner (indent :: outer)).settle =
      (ready tail p (tokens ++ [.blockEnd]) indent outer).settle := by
  rw [settle_ready stands, settle_ready stands, ready, unroll_of_lt left]
  rfl

/-! ## Single tokens -/

theorem beginsPlain_of {c : Char} (visible : isSpace c = false) (leading : isLeadingMark c = false)
    (goesOn : c = '?' ∨ c = ':' ∨ c = '-' → atWordEnd rest = false) : beginsPlain false c rest = true := by
  by_cases indicator : c = '?' ∨ c = ':' ∨ c = '-'
  · have more := goesOn indicator
    cases rest with
    | nil => exact absurd more (by decide)
    | cons d rest =>
      have inWord : isSpace d = false := by
        simp only [atWordEnd, Bool.or_eq_false_iff] at more
        exact more.1
      rcases indicator with rfl | rfl | rfl <;> simp [beginsPlain, more, inWord]
  · simp only [isLeadingMark, String.reduceToList] at leading
    simp_all [beginsPlain]

theorem next_plain {c e : Char} {cs : List Char} (plain : PlainText c cs) (dash : e ≠ '-') (dot : e ≠ '.') :
    (outside (c :: (cs ++ e :: rest)) p tokens indent outer key keyAllowed).next =
      (outside (c :: (cs ++ e :: rest)) p tokens indent outer key keyAllowed).plainScalar := by
  obtain ⟨shown, visible, -, unmarked, start, -⟩ := plain
  have noMark : beginsWithDocumentMark (c :: (cs ++ e :: rest)) = false :=
    beginsWithDocumentMark_append unmarked dash dot
  have seen : isSpace c = false := by
    rw [isSpace_of_printable (shown c List.mem_cons_self).1]
    simpa using visible
  simp only [badStart, Bool.or_eq_false_iff] at start
  obtain ⟨leading, start⟩ := start
  have goesOn : c = '?' ∨ c = ':' ∨ c = '-' → atWordEnd (cs ++ e :: rest) = false := by
    rintro (rfl | rfl | rfl) <;> exact atWordEnd_append _ (by simpa using start)
  have begins := beginsPlain_of seen leading goesOn
  simp only [beginsWithDocumentMark, Bool.or_eq_false_iff] at noMark
  simp only [isLeadingMark, String.reduceToList, List.contains_cons, List.contains_nil, Bool.or_eq_false_iff,
    beq_eq_false_iff_ne] at leading
  have noDash : ¬(c = '-' ∧ atWordEnd (cs ++ e :: rest) = true) := by
    rintro ⟨is, ends⟩
    simp [goesOn (.inr (.inr is))] at ends
  have noQuestion : ¬(c = '?' ∧ atWordEnd (cs ++ e :: rest) = true) := by
    rintro ⟨is, ends⟩
    simp [goesOn (.inl is)] at ends
  have noColon : ¬(c = ':' ∧ atWordEnd (cs ++ e :: rest) = true) := by
    rintro ⟨is, ends⟩
    simp [goesOn (.inr (.inl is))] at ends
  simp [next, outside, noMark, leading, noDash, noQuestion, noColon, begins]

theorem beginsWithMark_of_ne {c mark : Char} (other : c ≠ mark) : beginsWithMark mark (c :: rest) = false := by
  rcases rest with _ | ⟨a, _ | ⟨b, rest⟩⟩ <;> simp [beginsWithMark, other]

theorem next_colon (ends : atWordEnd rest = true) :
    (outside (':' :: rest) p tokens indent outer key keyAllowed).next =
      (outside (':' :: rest) p tokens indent outer key keyAllowed).colon := by
  simp [next, outside, beginsWithMark_of_ne, ends]

theorem next_dash :
    (outside ('-' :: ' ' :: rest) p tokens indent outer key keyAllowed).next =
      (outside ('-' :: ' ' :: rest) p tokens indent outer key keyAllowed).dash := by
  have noDashes : beginsWithMark '-' ('-' :: ' ' :: rest) = false := by cases rest <;> simp [beginsWithMark]
  simp [next, outside, beginsWithMark_of_ne, noDashes, atWordEnd, isSpace]

theorem next_quote (isSingle : Bool) :
    (outside ((if isSingle then '\'' else '"') :: rest) p tokens indent outer key keyAllowed).next =
      (outside ((if isSingle then '\'' else '"') :: rest) p tokens indent outer key keyAllowed).quotedScalar isSingle := by
  cases isSingle <;> simp [next, outside, beginsWithMark_of_ne]

theorem next_bar :
    (outside ('|' :: rest) p tokens indent outer key keyAllowed).next =
      (outside ('|' :: rest) p tokens indent outer key keyAllowed).blockScalar false := by
  simp [next, outside, beginsWithMark_of_ne]

theorem next_bracket :
    (outside ('[' :: rest) p tokens indent outer key keyAllowed).next =
      (outside ('[' :: rest) p tokens indent outer key keyAllowed).openFlow .flowSequenceStart := by
  simp [next, outside, beginsWithMark_of_ne]

theorem next_brace :
    (outside ('\x7b' :: rest) p tokens indent outer key keyAllowed).next =
      (outside ('\x7b' :: rest) p tokens indent outer key keyAllowed).openFlow .flowMappingStart := by
  simp [next, outside, beginsWithMark_of_ne]

/-- What is noted about a token that may be a key. -/
def possibleKey (p : Position) (tokens : List Token) (indent : Int) : PossibleKey :=
  ⟨indent = p.column, tokens.length, p⟩

theorem saveKey_outside :
    (outside rest p tokens indent outer none keyAllowed).saveKey =
      some (outside rest p tokens indent outer (if keyAllowed then some (possibleKey p tokens indent) else none)
        keyAllowed) := by
  cases keyAllowed <;> simp [saveKey, dropKey, outside, possibleKey]

theorem plainScalar_outside {read : ScalarRead} (reads : readPlain false (indent + 1) rest p [] .none = some read) :
    (outside rest p tokens indent outer none keyAllowed).plainScalar =
      some (outside read.rest read.position (tokens ++ [.scalar .plain read.text]) indent outer
        (if keyAllowed then some (possibleKey p tokens indent) else none) read.newLine) := by
  simp only [plainScalar, saveKey_outside]
  simp [outside, reads, takeScalar, push]

theorem quotedScalar_outside {isSingle : Bool} {c : Char} {read : ScalarRead}
    (reads : (if isSingle then readSingle rest (p.right 1) [] .none else readDouble rest (p.right 1) [] .none .idle) =
      some read) :
    (outside (c :: rest) p tokens indent outer none keyAllowed).quotedScalar isSingle =
      some (outside read.rest read.position
        (tokens ++ [.scalar (if isSingle then .single else .double) read.text]) indent outer
        (if keyAllowed then some (possibleKey p tokens indent) else none) false) := by
  simp only [quotedScalar, saveKey_outside]
  cases isSingle <;> simp only [Bool.false_eq_true, if_true, if_false] at reads <;>
    simp [outside, reads, takeScalar, push]

theorem blockScalar_outside {c : Char} {read : ScalarRead}
    (reads : readBlock false indent rest (p.right 1) = some read) :
    (outside (c :: rest) p tokens indent outer none keyAllowed).blockScalar false =
      some (ready read.rest read.position (tokens ++ [.scalar .literal read.text]) indent outer) := by
  simp [blockScalar, dropKey, outside, ready, reads, takeScalar, push]

/-- The first entry of a block begins it. -/
def opening (indent : Int) (column : Nat) (mark : Token) : List Token := if indent < column then [mark] else []

/-- The columns of the blocks around an entry at a column. -/
def around (indent : Int) (column : Nat) (outer : List Int) : List Int :=
  if indent < column then indent :: outer else outer

@[simp] theorem opening_self (column : Nat) (mark : Token) : opening column column mark = [] := by simp [opening]

@[simp] theorem around_self (column : Nat) (outer : List Int) : around column column outer = outer := by simp [around]

theorem dash_outside (there : indent ≤ p.column) :
    (ready ('-' :: rest) p tokens indent outer).dash =
      some (outside rest (p.right 1) (tokens ++ opening indent p.column .blockSequenceStart ++ [.blockEntry])
        p.column (around indent p.column outer) none true) := by
  by_cases opens : indent < p.column
  · simp [dash, ready, outside, roll, opening, around, opens, Int.not_le.mpr opens, insertAt, dropKey, push, skip]
  · have same : indent = p.column := by omega
    simp [dash, ready, outside, roll, same, dropKey, push, skip]

theorem colon_outside {q : Position} {scalar : Token} (there : indent ≤ q.column) :
    (outside (':' :: rest) p (tokens ++ [scalar]) indent outer (some (possibleKey q tokens indent)) false).colon =
      some (outside rest (p.right 1)
        (tokens ++ opening indent q.column .blockMappingStart ++ [.key, scalar, .value])
        q.column (around indent q.column outer) none false) := by
  by_cases opens : indent < q.column
  · simp [colon, outside, possibleKey, roll, opening, around, opens, Int.not_le.mpr opens, insertAt, push, skip]
  · have same : indent = q.column := by omega
    simp [colon, outside, possibleKey, roll, same, insertAt, push, skip]

/-! ## What the tokens of a document are read from -/

theorem atToken_plain {c : Char} {cs : List Char} (plain : PlainText c cs) (rest : List Char) : AtToken (c :: rest) := by
  obtain ⟨printable, inLine⟩ := plain.shown c List.mem_cons_self
  have leading := plain.start
  simp only [badStart, Bool.or_eq_false_iff] at leading
  refine ⟨?_, isAnyBreak_of_printable printable ▸ inLine, ?_, ?_⟩
  · rw [isSpace_of_printable printable]
    simpa using plain.visible
  · rintro rfl
    exact absurd leading.1 (by decide)
  · rintro rfl
    exact absurd printable (by decide)

/-- A key is read with its colon. The first key of a block begins it. -/
theorem passes_key {cs : List Char} (fits : ScalarStyle.plain.Fits cs) (short : cs.length ≤ 1024)
    (there : indent ≤ p.column) (ends : atWordEnd rest = true) :
    Passes (cs.length + 1) (ready (cs ++ ':' :: rest) p tokens indent outer)
      (outside rest (p.right (cs.length + 1))
        (tokens ++ opening indent p.column .blockMappingStart ++
          [.key, .scalar .plain (String.ofList cs), .value])
        p.column (around indent p.column outer) none false) := by
  have read : readPlain false (indent + 1) (cs ++ ':' :: rest) p [] .none =
      some ⟨String.ofList cs, ':' :: rest, p.right cs.length, false⟩ := by
    rw [readPlain_text fits (by omega) (by decide) (by decide), readPlain_colon ends, List.reverse_reverse]
  obtain ⟨nonempty, fits⟩ := fits
  obtain ⟨c, cs, rfl⟩ := List.exists_cons_of_ne_nil nonempty
  have plain := PlainText.of_fits fits
  have scalar : Passes 1 (ready (c :: cs ++ ':' :: rest) p tokens indent outer) _ :=
    .token (atToken_plain plain _) (List.cons_ne_nil _ _) there
      ((next_plain plain (by decide) (by decide)).trans (plainScalar_outside read))
  have colonFirst : AtToken (':' :: rest) := ⟨by decide, by decide, by decide, by decide⟩
  have right : (p.right (c :: cs).length).column = p.column + (cs.length + 1) := rfl
  have colon : Passes 1 (outside (':' :: rest) (p.right (c :: cs).length)
      (tokens ++ [.scalar .plain (String.ofList (c :: cs))]) indent outer (some (possibleKey p tokens indent)) false) _ :=
    .step ((settle_spaces 0 colonFirst (by
        rintro q ⟨rfl⟩
        simp only [List.length_cons] at short
        exact ⟨Nat.le_refl _, by simp only [possibleKey, right]; omega⟩)).trans
      (congrArg some (unroll_of_le (by omega)))) (List.cons_ne_nil _ _) ((next_colon ends).trans (colon_outside there))
  exact ((scalar.trans colon).mono (by simp))

section Scalars

variable {w k : Nat} {text : String}

theorem possibleKey_stale (inside : indent < p.column) :
    ∀ q ∈ (if keyAllowed then some (possibleKey p tokens indent) else none),
      q.required = false ∧ q.start = p := by
  intro q mem
  cases keyAllowed with
  | false => exact absurd mem (Option.not_mem_none q)
  | true =>
    cases mem
    exact ⟨by simpa [possibleKey] using Int.ne_of_lt inside, rfl⟩

theorem passes_plain (fits : ScalarStyle.plain.Fits text.toList) (inside : indent < p.column) (stands : AtToken tail)
    (left : tail ≠ [] → (k : Int) ≤ indent) :
    Passes 1 (outside (text.toList ++ '\n' :: (spaces k ++ tail)) p tokens indent outer none keyAllowed)
      (ready tail ⟨p.line + 1, k⟩ (tokens ++ [.scalar .plain text]) indent outer) := by
  have read : readPlain false (indent + 1) (text.toList ++ '\n' :: (spaces k ++ tail)) p [] .none =
      some ⟨text, tail, ⟨p.line + 1, k⟩, true⟩ := by
    rw [readPlain_text fits (by omega) (by decide) (by decide),
      readPlain_end stands fun more => by have := left more; omega]
    simp [Position.right]
  obtain ⟨nonempty, fits⟩ := fits
  obtain ⟨c, cs, same⟩ := List.exists_cons_of_ne_nil nonempty
  rw [same] at fits read ⊢
  have plain := PlainText.of_fits fits
  show Passes (1 + 0) _ _
  refine .trans (.token (atToken_plain plain _) (List.cons_ne_nil _ _) (Int.le_of_lt inside)
    ((next_plain plain (by decide) (by decide)).trans (plainScalar_outside read))) (.of_settle (settle_stale stands ?_))
  intro q mem
  obtain ⟨optional, start⟩ := possibleKey_stale inside q mem
  exact ⟨optional, start ▸ Nat.lt_succ_self _⟩

theorem passes_quoted (isSingle : Bool) {read : ScalarRead} (inside : indent < p.column) (stands : AtToken tail)
    (reads : (if isSingle then readSingle rest (p.right 1) [] .none else readDouble rest (p.right 1) [] .none .idle) =
      some read)
    (after : read.rest = '\n' :: (spaces k ++ tail)) (further : p.line ≤ read.position.line) :
    Passes 1 (outside ((if isSingle then '\'' else '"') :: rest) p tokens indent outer none keyAllowed)
      (ready tail ⟨read.position.line + 1, k⟩
        (tokens ++ [.scalar (if isSingle then .single else .double) read.text]) indent outer) := by
  have stands' : AtToken ((if isSingle then '\'' else '"') :: rest) := by
    cases isSingle <;> exact ⟨by decide, by decide, by decide, by decide⟩
  show Passes (1 + 0) _ _
  refine .trans (.token stands' (List.cons_ne_nil _ _) (Int.le_of_lt inside)
    ((next_quote isSingle).trans (quotedScalar_outside reads)))
    (.of_settle ?_)
  rw [after]
  refine settle_newline k stands fun q mem => ?_
  obtain ⟨optional, start⟩ := possibleKey_stale inside q mem
  exact ⟨optional, start ▸ further⟩

theorem passes_block {read : ScalarRead} (inside : indent < p.column)
    (reads : readBlock false indent rest (p.right 1) = some read) :
    Passes 1 (outside ('|' :: rest) p tokens indent outer none keyAllowed)
      (ready read.rest read.position (tokens ++ [.scalar .literal read.text]) indent outer) :=
  .token ⟨by decide, by decide, by decide, by decide⟩ (List.cons_ne_nil _ _) (Int.le_of_lt inside)
    (next_bar.trans (blockScalar_outside reads))

/-- What follows a node of a block on a later line: the end of the stream, or a token that does not stand right of the
block's column. -/
structure Follows (indent : Int) (k : Nat) (tail : List Char) : Prop where
  stands : AtToken tail
  left : tail = [] ∧ k = 0 ∨ (k : Int) ≤ indent

/-- A scalar is read as it is written. -/
theorem passes_scalar (tokens : List Token) (outer : List Int) (keyAllowed : Bool) {style : ScalarStyle}
    (fits : style.Fits text.toList) (inside : indent < p.column) (column : w = (max indent 0).toNat + 2)
    (follows : Follows indent k tail) :
    ∃ l, Passes 1
      (outside ((writeScalar w style text).toList ++ (spaces k ++ tail)) p tokens indent outer none keyAllowed)
      (ready tail ⟨l, k⟩ (tokens ++ [.scalar style text]) indent outer) := by
  obtain ⟨stands, left⟩ := follows
  have whole : String.ofList text.toList = text := String.ofList_toList
  cases style with
  | plain =>
    have written : (writeScalar w .plain text).toList ++ (spaces k ++ tail) =
        text.toList ++ '\n' :: (spaces k ++ tail) := by simp [writeScalar]
    have near : tail ≠ [] → (k : Int) ≤ indent := fun more => left.resolve_left fun none => more none.1
    rw [written]
    exact ⟨p.line + 1, passes_plain fits inside stands near⟩
  | single =>
    have written : (writeScalar w .single text).toList ++ (spaces k ++ tail) =
        '\'' :: (quotedBody w false text.toList ++ '\'' :: '\n' :: (spaces k ++ tail)) := by
      simp [writeScalar, writeSingle_eq]
    obtain ⟨q, further, reads⟩ := readSingle_text (p.right 1) ('\n' :: (spaces k ++ tail)) (by omega : 0 < w) fits
      (Nat.succ_pos _) (by simp)
    rw [written]
    rw [whole] at reads
    exact ⟨q.line + 1, passes_quoted true inside stands reads rfl further⟩
  | double =>
    have written : (writeScalar w .double text).toList ++ (spaces k ++ tail) =
        '"' :: (text.toList.flatMap escapeDouble ++ '"' :: '\n' :: (spaces k ++ tail)) := by
      simp [writeScalar, writeDouble]
    obtain ⟨q, further, reads⟩ := readDouble_text text.toList (p.right 1) ('\n' :: (spaces k ++ tail)) (Nat.succ_pos _)
    rw [written]
    rw [whole] at reads
    exact ⟨q.line + 1, passes_quoted false inside stands reads rfl further⟩
  | literal =>
    have written : (writeScalar w .literal text).toList ++ (spaces k ++ tail) =
        '|' :: (blockMarks text.toList ++ '\n' :: (indented w true text.toList ++
          ((if text.toList.getLast?.any isAnyBreak then [] else ['\n']) ++ (spaces k ++ tail)))) := by
      simp [writeScalar, writeBlock]
    obtain ⟨⟨line, _⟩, further, rfl, reads⟩ := readBlock_text (p.right 1) fits column stands (by omega : k < w)
    rw [written]
    rw [whole] at reads
    exact ⟨line, passes_block inside reads⟩
  | folded => exact fits.elim

/-- A dash is read. The first of a block begins it. -/
theorem passes_dash (there : indent ≤ p.column) :
    Passes 1 (ready ('-' :: ' ' :: rest) p tokens indent outer)
      (outside (' ' :: rest) (p.right 1)
        (tokens ++ opening indent p.column .blockSequenceStart ++ [.blockEntry])
        p.column (around indent p.column outer) none true) :=
  .token ⟨by decide, by decide, by decide, by decide⟩ (List.cons_ne_nil _ _) there (next_dash.trans (dash_outside there))

/-- A stream after an opening bracket or brace. -/
def opened (rest : List Char) (p : Position) (tokens : List Token) (indent : Int) (outer : List Int)
    (key : Option PossibleKey) : Scan :=
  ⟨rest, p, tokens.toArray, 1, indent, outer, [none, key], true⟩

theorem openFlow_outside {c : Char} {t : Token} :
    (outside (c :: rest) p tokens indent outer none keyAllowed).openFlow t =
      some (opened rest (p.right 1) (tokens ++ [t]) indent outer
        (if keyAllowed then some (possibleKey p tokens indent) else none)) := by
  simp only [openFlow, saveKey_outside]
  simp [outside, opened, push, skip]

theorem settle_opened {c : Char} (mark : c = ']' ∨ c = '\x7d')
    (fresh : ∀ q ∈ key, p.line ≤ q.start.line ∧ p.column ≤ q.start.column + 1024) :
    (opened (c :: rest) p tokens indent outer key).settle = some (opened (c :: rest) p tokens indent outer key) := by
  have skipped : skipBlanks true true (c :: rest) p = (true, c :: rest, p) := by
    rcases mark with rfl | rfl <;> simp [skipBlanks, isBreak]
  have unmarked : c ≠ byteOrderMark := by rcases mark with rfl | rfl <;> decide
  have kept : (opened (c :: rest) p tokens indent outer key).dropStaleKeys =
      some (opened (c :: rest) p tokens indent outer key) := by
    cases key with
    | none => rfl
    | some k =>
      obtain ⟨line, column⟩ := fresh k rfl
      simp [dropStaleKeys, opened, Nat.not_lt.mpr line, Nat.not_lt.mpr column]
  have there : (opened (c :: rest) p tokens indent outer key).toNextToken =
      opened (c :: rest) p tokens indent outer key := by
    simp [toNextToken, opened, unmarked, skipped]
  rw [settle, there, kept]
  simp [opened, unroll]

theorem next_closed (isSequence : Bool) :
    (opened ((if isSequence then ']' else '\x7d') :: rest) p tokens indent outer key).next =
      some (outside rest (p.right 1) (tokens ++ [if isSequence then .flowSequenceEnd else .flowMappingEnd]) indent outer key
        false) := by
  cases isSequence <;> simp [next, opened, beginsWithMark_of_ne, closeFlow, dropKey, push, skip, outside]

theorem next_open (isSequence : Bool) :
    (outside ((if isSequence then '[' else '\x7b') :: rest) p tokens indent outer none keyAllowed).next =
      some (opened rest (p.right 1)
        (tokens ++ [if isSequence then .flowSequenceStart else .flowMappingStart]) indent outer
        (if keyAllowed then some (possibleKey p tokens indent) else none)) := by
  cases isSequence
  · exact next_brace.trans openFlow_outside
  · exact next_bracket.trans openFlow_outside

/-- An empty sequence or mapping is read. -/
theorem passes_empty (isSequence : Bool) (inside : indent < p.column) (stands : AtToken tail) :
    Passes 2
      (outside ((if isSequence then '[' else '\x7b') :: (if isSequence then ']' else '\x7d') :: '\n' ::
        (spaces k ++ tail)) p tokens indent outer none keyAllowed)
      (ready tail ⟨p.line + 1, k⟩
        (tokens ++ [if isSequence then .flowSequenceStart else .flowMappingStart,
          if isSequence then .flowSequenceEnd else .flowMappingEnd]) indent outer) := by
  have begins : AtToken ((if isSequence then '[' else '\x7b') :: (if isSequence then ']' else '\x7d') :: '\n' ::
      (spaces k ++ tail)) := by
    cases isSequence <;> exact ⟨by decide, by decide, by decide, by decide⟩
  have mark : (if isSequence then ']' else '\x7d') = ']' ∨ (if isSequence then ']' else '\x7d') = '\x7d' := by
    cases isSequence
    · exact .inr rfl
    · exact .inl rfl
  show Passes (1 + (1 + 0)) _ _
  refine .trans (.token begins (List.cons_ne_nil _ _) (Int.le_of_lt inside) (next_open isSequence))
    (.trans (.step (settle_opened mark ?_) (List.cons_ne_nil _ _) (next_closed isSequence)) (.of_settle ?_))
  · intro q mem
    obtain ⟨-, start⟩ := possibleKey_stale inside q mem
    rw [start]
    exact ⟨Nat.le_refl _, Nat.add_le_add_left (by decide) _⟩
  · rw [List.append_assoc]
    refine settle_newline k stands fun q mem => ?_
    obtain ⟨optional, start⟩ := possibleKey_stale inside q mem
    exact ⟨optional, start ▸ Nat.le_refl _⟩

end Scalars

/-! ## The end of the stream -/

theorem run_end (more : Nat) : run (more + 1) (ready [] p tokens indent []) = some (tokens ++ [.streamEnd]) := by
  rw [run_succ, settle_ready atToken_nil]
  simp [ready, outside, unroll, closeBlocks, next, finish, dropKey, push]

theorem run_end_block (more : Nat) (left : p.column = 0) :
    run (more + 1) (ready [] p tokens 0 [-1]) = some (tokens ++ [.blockEnd, .streamEnd]) := by
  rw [run_succ, settle_ready atToken_nil]
  simp [ready, outside, unroll, closeBlocks, next, finish, dropKey, push, left]

end Scan

end CloudLifecycle.Yaml
