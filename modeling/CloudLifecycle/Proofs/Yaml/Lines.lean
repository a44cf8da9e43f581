import CloudLifecycle.Proofs.Yaml.Scalars

/-!
# Blocks of lines come back

A text that is written as a block of lines is read as the text (`readBlock_text`). Three things have to come out right:
the column of the block, which the marks say where the first line does not show it; the empty lines, which may stand
left of that column; and the breaks at the end, which are chomped as the marks say.
-/

namespace CloudLifecycle.Yaml

theorem indented_append (indent : Nat) (lineStart : Bool) (cs ds : List Char) :
    indented indent lineStart (cs ++ ds) =
      indented indent lineStart cs ++ indented indent (cs.getLast?.elim lineStart isAnyBreak) ds := by
  induction cs generalizing lineStart with
  | nil => rfl
  | cons c cs ih =>
    cases ends : isAnyBreak c <;> simp [indented, ih, elim_getLast?_cons lineStart c cs, ends]

/-- How the breaks at the end of a text are kept. -/
def chompingOf (cs : List Char) : Chomping :=
  match cs.reverse with
  | [] => .strip
  | [c] => if isAnyBreak c then .keep else .strip
  | c :: d :: _ => if isAnyBreak c then if isAnyBreak d then .keep else .clip else .strip

/-- Whether the marks of a block say its indentation. -/
def needsHint (cs : List Char) : Bool := cs.head?.any fun c => c = ' ' || isAnyBreak c

/-- The mark of a chomping. -/
def Chomping.mark : Chomping → List Char
  | .strip => ['-']
  | .clip => []
  | .keep => ['+']

theorem blockMarks_eq (cs : List Char) :
    blockMarks cs = (if needsHint cs then ['2'] else []) ++ (chompingOf cs).mark := by
  unfold blockMarks needsHint chompingOf
  dsimp only
  congr 1
  rcases cs.reverse with _ | ⟨c, _ | ⟨d, cs⟩⟩
  · rfl
  · cases ends : isAnyBreak c <;> simp [ends, Chomping.mark]
  · cases ends : isAnyBreak c <;> cases twice : isAnyBreak d <;> simp [ends, twice, Chomping.mark]

theorem readBlockMarks_written (hint : Bool) (chomping : Chomping) (rest : List Char) :
    readBlockMarks ((if hint then ['2'] else []) ++ chomping.mark ++ '\n' :: rest) =
      some (chomping, if hint then 2 else 0, (if hint then 1 else 0) + chomping.mark.length, '\n' :: rest) := by
  cases hint <;> cases chomping <;> cases rest <;> rfl

/-- A block whose lines are read, after its marks. -/
def BlockState.start (indent : Option Nat) : BlockState := ⟨indent, 0, [], [], [], false, false⟩

theorem readBlock_written (parent : Int) (cs rest : List Char) (p : Position) :
    readBlock false parent (blockMarks cs ++ '\n' :: rest) p =
      readBlockLines false (chompingOf cs) (max 1 (parent + 1).toNat) rest p.nextLine
        (.start (if needsHint cs then some ((max parent 0).toNat + 2) else none)) := by
  rw [blockMarks_eq, readBlock, readBlockMarks_written]
  cases needsHint cs <;> rfl

namespace BlockState

/-- Whether the text `done` has been read of a block, up to a place inside a line or to the end of one. -/
structure Has (s : BlockState) (done : List Char) : Prop where
  whole : s.emptyLines ++ (s.lineBreak ++ s.text) = done.reverse
  inside : s.inLine = true → s.lineBreak = [] ∧ s.emptyLines = []

theorem Has.text_eq {s : BlockState} {done : List Char} (h : s.Has done) (inLine : s.inLine = true) :
    s.text = done.reverse := by
  obtain ⟨noBreak, noLines⟩ := h.inside inLine
  simpa [noBreak, noLines] using h.whole

end BlockState

section Literal

variable {chomping : Chomping} {least w : Nat} {cs rest done : List Char} {s : BlockState} {p : Position}

theorem readBlockLines_indentation {k : Nat} (outside : s.inLine = false)
    (left : s.indent = none ∨ s.indent = some w ∧ p.column + k ≤ w) (rest : List Char) :
    readBlockLines false chomping least (spaces k ++ rest) p s =
      readBlockLines false chomping least rest (p.right k) s := by
  refine read_spaces (fun rest p => readBlockLines false chomping least rest p s) (fun rest q column => ?_) rest
  rw [readBlockLines, if_neg (by simp [outside])]
  rcases left with unknown | ⟨known, left⟩
  · simp [unknown]
  · simp [known, show q.column < w by omega]

/-- A line of a block ends. -/
theorem readBlockLines_break {c : Char} (chomping : Chomping) (least : Nat) (p : Position) (rest : List Char)
    (ends : isBreak c = true) (has : s.Has done) :
    ∃ s', readBlockLines false chomping least (c :: rest) p s = readBlockLines false chomping least rest p.nextLine s' ∧
      s'.Has (done ++ [c]) ∧ s'.inLine = false ∧ s'.indent = s.indent ∧
      (s.inLine = true → s'.text = done.reverse ∧ s'.lineBreak = [c]) := by
  cases inLine : s.inLine with
  | true =>
    obtain ⟨noBreak, noLines⟩ := has.inside inLine
    refine ⟨{ s with lineBreak := [c], inLine := false }, by rw [readBlockLines, if_pos inLine, if_pos ends],
      ⟨?_, fun inside => absurd inside Bool.false_ne_true⟩,
      rfl, rfl, fun _ => ⟨has.text_eq inLine, rfl⟩⟩
    simp [noLines, has.text_eq inLine]
  | false =>
    have noSpace : c ≠ ' ' := by rintro rfl; exact absurd ends (by decide)
    have noTab : c ≠ '\t' := by rintro rfl; exact absurd ends (by decide)
    refine ⟨{ s with deepest := max s.deepest p.column, emptyLines := c :: s.emptyLines }, ?_, ⟨?_, ?_⟩, inLine, rfl,
      fun inside => absurd inside (by simp)⟩
    · rw [readBlockLines, if_neg (by simp [inLine])]
      simp [noSpace, noTab, ends]
    · simp [has.whole]
    · simp [inLine]

/-- The column of a block is known, or will be at the next character. -/
def BlockState.StandsAt (s : BlockState) (least w : Nat) (c : Char) : Prop :=
  s.indent = some w ∨ s.indent = none ∧ s.deepest = 0 ∧ least ≤ w ∧ c ≠ ' '

/-- A character of a block is read, in a line or at the start of one. -/
theorem readBlockLines_char {c : Char} (chomping : Chomping) (rest : List Char) (printable : isPrintable c = true)
    (goesOn : isBreak c = false) (has : s.Has done) (start : s.inLine = false → p.column = 0 ∧ s.StandsAt least w c) :
    ∃ s' q, readBlockLines false chomping least (lineLead w (!s.inLine) ++ c :: rest) p s =
        readBlockLines false chomping least rest q s' ∧
      q.line = p.line ∧ s'.Has (done ++ [c]) ∧ s'.inLine = true ∧ (s.inLine = false → s'.indent = some w) ∧
      (s.inLine = true → s'.indent = s.indent) := by
  cases inLine : s.inLine with
  | true =>
    obtain ⟨noBreak, noLines⟩ := has.inside inLine
    refine ⟨{ s with text := c :: s.text }, p.right 1, ?_, rfl, ⟨?_, fun _ => ⟨noBreak, noLines⟩⟩, inLine,
      fun outside => absurd outside (by simp), fun _ => rfl⟩
    · show readBlockLines false chomping least (c :: rest) p s = _
      rw [readBlockLines, if_pos inLine, if_neg (by simp [goesOn])]
    · simp [noBreak, noLines, has.text_eq inLine]
  | false =>
    obtain ⟨column, placed⟩ := start inLine
    have noTab : c ≠ '\t' := by rintro rfl; exact absurd printable (by decide)
    have there : (p.right w).column = w := by simp [Position.right, column]
    have indentation : s.indent = none ∨ s.indent = some w ∧ p.column + w ≤ w := by
      rcases placed with known | ⟨unknown, -⟩
      · exact .inr ⟨known, by omega⟩
      · exact .inl unknown
    refine ⟨{ s with indent := some w, deepest := max s.deepest w }.beginLine false c, (p.right w).right 1, ?_, rfl,
      ⟨?_, fun _ => ⟨rfl, rfl⟩⟩, rfl, fun _ => rfl,
      fun inside => absurd inside (by simp)⟩
    · show readBlockLines false chomping least (spaces w ++ c :: rest) p s = _
      rw [readBlockLines_indentation inLine indentation, readBlockLines, if_neg (by simp [inLine])]
      rcases placed with known | ⟨unknown, deepest, low, visible⟩
      · simp [known, there, noTab, goesOn]
      · simp [unknown, there, noTab, goesOn, visible, deepest, Nat.max_eq_left low]
    · simp [BlockState.beginLine, has.whole]

/-- A block may go on with a text whose lines stand at column `w`: that is its column, or none is known so far and the
first line shows it. -/
def BlockState.MayTake (s : BlockState) (least w : Nat) (cs : List Char) : Prop :=
  s.indent = some w ∨ s.inLine = false ∧ s.indent = none ∧ s.deepest = 0 ∧ least ≤ w ∧ needsHint cs = false

/-- The lines of a text are read as they are written. -/
theorem readBlockLines_lines (chomping : Chomping) (rest : List Char) (shown : ∀ c ∈ cs, isPrintable c = true)
    (has : s.Has done) (start : s.inLine = false → p.column = 0) (known : s.MayTake least w cs) :
    ∃ s' q, readBlockLines false chomping least (indented w (!s.inLine) cs ++ rest) p s =
        readBlockLines false chomping least rest q s' ∧
      p.line ≤ q.line ∧ s'.Has (done ++ cs) ∧ (!s'.inLine) = cs.getLast?.elim (!s.inLine) isAnyBreak ∧
      (s'.inLine = false → q.column = 0) ∧ (cs ≠ [] ∨ s.indent = some w → s'.indent = some w) := by
  induction cs generalizing done s p with
  | nil => exact ⟨s, p, rfl, Nat.le_refl _, by simpa using has, rfl, start, by simp⟩
  | cons c cs ih =>
    have printable : isPrintable c = true := shown c List.mem_cons_self
    have others : ∀ c ∈ cs, isPrintable c = true := fun d mem => shown d (List.mem_cons_of_mem _ mem)
    have last (b : Bool) := elim_getLast?_cons b c cs
    cases ends : isAnyBreak c with
    | true =>
      have indent : s.indent = some w := by
        rcases known with known | ⟨-, -, -, -, unhinted⟩
        · exact known
        · simp [needsHint, ends] at unhinted
      obtain ⟨s₁, first, has₁, outside, same, -⟩ := readBlockLines_break chomping least p (indented w true cs ++ rest)
        (isAnyBreak_of_printable printable ▸ ends) has
      obtain ⟨s₂, q, others, further, has₂, lastOne, column, there⟩ :=
        ih (p := p.nextLine) others has₁ (fun _ => rfl) (.inl (same.trans indent))
      refine ⟨s₂, q, ?_, by simp [Position.nextLine] at further; omega, by simpa using has₂, ?_, column,
        fun _ => there (.inr (same.trans indent))⟩
      · rw [indented, if_pos ends, List.cons_append, first, ← others, outside]
        rfl
      · rw [lastOne, last, ends, outside]
        rfl
    | false =>
      have placed : s.inLine = false → p.column = 0 ∧ s.StandsAt least w c := by
        refine fun outside => ⟨start outside, known.imp_right ?_⟩
        rintro ⟨-, unknown, deepest, low, unhinted⟩
        have visible : c ≠ ' ' := by rintro rfl; simp [needsHint] at unhinted
        exact ⟨unknown, deepest, low, visible⟩
      obtain ⟨s₁, r, first, sameLine, has₁, inside, fresh, same⟩ := readBlockLines_char chomping
        (indented w false cs ++ rest) printable (isAnyBreak_of_printable printable ▸ ends) has placed
      have indent : s₁.indent = some w := by
        cases inLine : s.inLine with
        | true =>
          rcases known with known | ⟨outside, -⟩
          · exact (same inLine).trans known
          · exact absurd inLine (by simp [outside])
        | false => exact fresh inLine
      obtain ⟨s₂, q, others, further, has₂, lastOne, column, there⟩ :=
        ih (p := r) others has₁ (by simp [inside]) (.inl indent)
      refine ⟨s₂, q, ?_, by omega, by simpa using has₂, ?_, column, fun _ => there (.inr indent)⟩
      · rw [indented, if_neg (by simp [ends])]
        rw [inside] at others
        simpa [lineLead] using first.trans others
      · rw [lastOne, last, ends, inside]
        rfl

theorem readBlockLines_end {k : Nat} {tail : List Char} (chomping : Chomping) (least : Nat) (outside : s.inLine = false)
    (known : s.indent = some w) (column : p.column = 0) (stands : AtToken tail) (left : k < w) :
    readBlockLines false chomping least (spaces k ++ tail) p s = some ⟨s.finish chomping, tail, p.right k, false⟩ := by
  rw [readBlockLines_indentation outside (.inr ⟨known, by omega⟩)]
  cases tail with
  | nil => rw [readBlockLines]
  | cons c tail =>
    obtain ⟨visible, goesOn, -⟩ := stands
    have there : (p.right k).column = k := by simp [Position.right, column]
    simp only [isSpace, Bool.or_eq_false_iff, decide_eq_false_iff_not] at visible
    rw [readBlockLines, if_neg (by simp [outside])]
    simp [visible, goesOn, known, there, Nat.ne_of_lt left]

theorem chompingOf_concat (cs : List Char) (c : Char) :
    chompingOf (cs ++ [c]) =
      if isAnyBreak c then if cs.getLast?.elim true isAnyBreak then .keep else .clip else .strip := by
  unfold chompingOf
  rw [List.reverse_append, List.getLast?_eq_head?_reverse]
  cases cs.reverse <;> rfl

/-- Where the last line of a text is ended by a break, the block has the text and that break. -/
theorem readBlockLines_ended {k : Nat} {tail : List Char} {c : Char} (chomping : Chomping)
    (shown : ∀ c ∈ cs, isPrintable c = true) (goesOn : cs.getLast?.elim true isAnyBreak = false)
    (ends : isBreak c = true) (has : s.Has []) (outside : s.inLine = false) (column : p.column = 0) (known : s.MayTake least w cs)
    (stands : AtToken tail) (left : k < w) :
    ∃ (s' : BlockState) (q : Position), p.line ≤ q.line ∧ q.column = k ∧ s'.text = cs.reverse ∧ s'.lineBreak = [c] ∧
      readBlockLines false chomping least (indented w true cs ++ c :: (spaces k ++ tail)) p s =
        some ⟨s'.finish chomping, tail, q, false⟩ := by
  have nonempty : cs ≠ [] := by rintro rfl; exact absurd goesOn (by decide)
  obtain ⟨s₁, q, lines, further, has₁, inLine, -, there⟩ := readBlockLines_lines chomping (c :: (spaces k ++ tail)) shown
    has (fun _ => column) known
  rw [outside] at lines inLine
  have inside : s₁.inLine = true := by simpa using inLine.trans goesOn
  obtain ⟨s₂, last, -, outside₂, same, text⟩ := readBlockLines_break chomping least q (spaces k ++ tail) ends has₁
  obtain ⟨text, lineBreak⟩ := text inside
  have ended := readBlockLines_end chomping least outside₂ (same.trans (there (.inl nonempty)))
    (rfl : q.nextLine.column = 0) stands left
  exact ⟨s₂, q.nextLine.right k, by simp [Position.right, Position.nextLine]; omega,
    by simp [Position.right, Position.nextLine], text, lineBreak, lines.trans (last.trans ended)⟩

/-- The lines of a text, with the breaks at its end as they are chomped, make up the text. -/
theorem readBlockLines_text {k : Nat} {tail : List Char} (nonempty : cs ≠ []) (shown : ∀ c ∈ cs, isPrintable c = true)
    (has : s.Has []) (outside : s.inLine = false) (column : p.column = 0) (known : s.MayTake least w cs)
    (stands : AtToken tail) (left : k < w) :
    ∃ q : Position, p.line ≤ q.line ∧ q.column = k ∧
      readBlockLines false (chompingOf cs) least (indented w true cs ++
        ((if cs.getLast?.any isAnyBreak then [] else ['\n']) ++ (spaces k ++ tail))) p s =
        some ⟨String.ofList cs, tail, q, false⟩ := by
  obtain ⟨cs, c, rfl⟩ := (List.eq_nil_or_concat' cs).resolve_left nonempty
  rw [List.getLast?_concat, chompingOf_concat]
  cases ends : isAnyBreak c with
  | false =>
    -- the text ends in its last line, and the break after it is not part of it
    obtain ⟨s', q, further, there, text, -, read⟩ := readBlockLines_ended .strip shown (by simpa using ends)
      (by decide : isBreak '\n' = true) has outside column known stands left
    refine ⟨q, further, there, ?_⟩
    rw [if_neg Bool.false_ne_true, Option.any_some, if_neg (by simp [ends])]
    refine read.trans ?_
    simp [BlockState.finish, text]
  | true =>
    cases twice : cs.getLast?.elim true isAnyBreak with
    | true =>
      -- the text ends in empty lines, which are all kept
      obtain ⟨s₁, q, lines, further, has₁, inLine, start, there⟩ :=
        readBlockLines_lines .keep (spaces k ++ tail) shown has (fun _ => column) known
      have outside₁ : s₁.inLine = false := by simpa [ends] using inLine
      have ended := readBlockLines_end .keep least outside₁ (there (.inl nonempty)) (start outside₁) stands left
      rw [outside] at lines
      refine ⟨q.right k, further, by simp [Position.right, start outside₁], ?_⟩
      rw [if_pos rfl, if_pos rfl, Option.any_some, if_pos ends, List.nil_append]
      refine (lines.trans ended).trans ?_
      simp [BlockState.finish, has₁.whole]
    | false =>
      -- the text ends in the one break after its last line
      have shownBefore : ∀ c ∈ cs, isPrintable c = true := fun d mem => shown d (List.mem_append_left _ mem)
      have goesOn : s.MayTake least w cs := by
        cases cs with
        | nil => exact absurd twice (by decide)
        | cons d ds => exact known
      obtain ⟨s', q, further, there, text, lineBreak, read⟩ := readBlockLines_ended .clip shownBefore twice
        (isAnyBreak_of_printable (shown c (by simp)) ▸ ends) has outside column goesOn stands left
      have body : indented w true (cs ++ [c]) = indented w true cs ++ [c] := by
        rw [indented_append]
        simp [indented, ends]
      refine ⟨q, further, there, ?_⟩
      rw [body, if_pos rfl, if_neg Bool.false_ne_true, Option.any_some, if_pos ends, List.nil_append, List.append_assoc]
      refine read.trans ?_
      simp [BlockState.finish, text, lineBreak]

theorem BlockState.has_start (indent : Option Nat) : (BlockState.start indent).Has [] :=
  ⟨rfl, fun inside => absurd inside Bool.false_ne_true⟩

/-- A text that is written as a block of lines is read back, and the reader stands where the block is over. -/
theorem readBlock_text {parent : Int} {k : Nat} {tail : List Char} (p : Position) (fits : ScalarStyle.literal.Fits cs)
    (indent : w = (max parent 0).toNat + 2) (stands : AtToken tail) (left : k < w) :
    ∃ q : Position, p.line < q.line ∧ q.column = k ∧
      readBlock false parent (blockMarks cs ++ '\n' :: (indented w true cs ++
        ((if cs.getLast?.any isAnyBreak then [] else ['\n']) ++ (spaces k ++ tail)))) p =
        some ⟨String.ofList cs, tail, q, false⟩ := by
  obtain ⟨nonempty, fits⟩ := fits
  simp only [fitsBlock, needsEscapes, Bool.and_eq_true, Bool.not_eq_true', Bool.or_eq_false_iff, List.any_eq_false,
    Bool.not_eq_false] at fits
  have known : (BlockState.start (if needsHint cs then some ((max parent 0).toNat + 2) else none)).MayTake
      (max 1 (parent + 1).toNat) w cs := by
    cases hint : needsHint cs with
    | true => exact .inl (by simp [BlockState.start, indent])
    | false => exact .inr ⟨rfl, rfl, rfl, by omega, hint⟩
  obtain ⟨q, further, column, read⟩ := readBlockLines_text (p := p.nextLine) nonempty fits.1.1 (BlockState.has_start _)
    rfl rfl known stands left
  exact ⟨q, by simp [Position.nextLine] at further; omega, column, (readBlock_written _ _ _ _).trans read⟩

end Literal

end CloudLifecycle.Yaml
