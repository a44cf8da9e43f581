import CloudLifecycle.Proofs.Yaml.Digits
import CloudLifecycle.Proofs.Yaml.Styles

/-!
# Scalars come back

What is written for a text in a style that fits it is read to its end, and read as the text: `readPlain_text` with what
may come after a plain text, `readSingle_text` and `readDouble_text`. Between quotes, breaks and blanks are held back in
a gap until the next character shows; so each induction over a text speaks of the gap before it.
-/

namespace CloudLifecycle.Yaml

/-! ## Characters that show -/

theorem isSpace_of_printable {c : Char} (shown : isPrintable c = true) : isSpace c = decide (c = ' ') := by
  have untabbed : c ≠ '\t' := by rintro rfl; exact absurd shown (by decide)
  simp [isSpace, untabbed]

theorem isAnyBreak_of_printable {c : Char} (shown : isPrintable c = true) : isAnyBreak c = isBreak c := by
  have noReturn : c ≠ '\r' := by rintro rfl; exact absurd shown (by decide)
  have noNext : c ≠ '\u0085' := by rintro rfl; exact absurd shown (by decide)
  simp [isAnyBreak, noReturn, noNext]

theorem atWordEnd_append {cs : List Char} (rest : List Char) (goesOn : atGap cs = false) :
    atWordEnd (cs ++ rest) = false := by
  cases cs with
  | nil => exact absurd goesOn (by decide)
  | cons c cs =>
    simp only [atGap, isAnyBreak, Bool.or_eq_false_iff] at goesOn
    simp [atWordEnd, goesOn]

theorem Position.right_right (p : Position) (m n : Nat) : (p.right m).right n = p.right (m + n) := by
  simp [right, Nat.add_assoc]

/-- A reader that passes over each of some spaces passes over all of them. -/
theorem read_spaces {α : Type} (read : List Char → Position → α) {k : Nat} {p : Position}
    (passes : ∀ rest q, q.column < p.column + k → read (' ' :: rest) q = read rest (q.right 1)) (rest : List Char) :
    read (spaces k ++ rest) p = read rest (p.right k) := by
  induction k generalizing p with
  | zero => rfl
  | succ k ih =>
    have first : spaces (k + 1) = ' ' :: spaces k := rfl
    have right : (p.right 1).column = p.column + 1 := rfl
    rw [first, List.cons_append, passes _ p (by omega), ih fun rest q left => passes rest q (by omega),
      Position.right_right, Nat.add_comm]

/-- Whether a token begins here, or the stream ends: there is no blank, comment or line break, nor a mark of the byte
order. -/
def AtToken : List Char → Prop
  | [] => True
  | c :: _ => isSpace c = false ∧ isBreak c = false ∧ c ≠ '#' ∧ c ≠ byteOrderMark

theorem atToken_nil : AtToken [] := trivial

/-! ## Gaps in a line -/

@[simp] theorem Gap.folded_none : Gap.none.folded = [] := rfl

theorem Gap.broken_addSpace {gap : Gap} (unbroken : gap.broken = false) (c : Char) :
    (gap.addSpace c).broken = false := by
  simp [addSpace, unbroken]

theorem Gap.folded_addSpace {gap : Gap} (unbroken : gap.broken = false) (c : Char) :
    (gap.addSpace c).folded = c :: gap.folded := by
  simp [addSpace, folded, unbroken]

/-! ## Plain scalars -/

section Plain

variable {cs rest text : List Char} {gap : Gap} {p : Position} {indent : Int} {before : Char}

theorem readPlain_space :
    readPlain false indent (' ' :: rest) p text gap =
      readPlain false indent rest (p.right 1) text (gap.addSpace ' ') := by
  rw [readPlain, if_neg (by decide), if_pos (by decide), if_neg (by simp)]

theorem readPlain_char {c : Char} (goesOn : isBreak c = false) (visible : isSpace c = false)
    (colon : c = ':' → atWordEnd rest = false) (unmarked : p.column = 0 → beginsWithDocumentMark (c :: rest) = false)
    (inLine : gap = .none ∨ gap.broken = false ∧ c ≠ '#' ∧ indent ≤ p.column) :
    readPlain false indent (c :: rest) p text gap =
      readPlain false indent rest (p.right 1) (c :: (gap.folded ++ text)) .none := by
  have inside : ((gap.broken || !gap.spaces.isEmpty) && (c = '#' || (!false && p.column < indent)) ||
      (p.column = 0 && beginsWithDocumentMark (c :: rest))) = false := by
    rcases inLine with rfl | ⟨-, unsigned, deep⟩
    · simpa [Gap.none] using unmarked
    · have right : ¬ (p.column : Int) < indent := by omega
      simpa [unsigned, right] using unmarked
  rw [readPlain, if_neg (by simp [goesOn]), if_neg (by simp [visible])]
  simp only [inside]
  rw [if_neg (by simp), if_neg (by simp), if_neg (by simpa using colon)]

/-- In a line, a plain scalar is read to its end. -/
theorem readPlain_line (shown : ∀ c ∈ cs, isPrintable c = true ∧ isAnyBreak c = false)
    (unmarked : hasInnerMark before cs = false) (last : cs.getLast? ≠ some ' ') (inside : 0 < p.column)
    (deep : indent ≤ p.column) (unbroken : gap.broken = false) (gapped : gap ≠ .none → before = ' ')
    (closed : cs = [] → gap = .none) :
    readPlain false indent (cs ++ rest) p text gap =
      readPlain false indent rest (p.right cs.length) (cs.reverse ++ (gap.folded ++ text)) .none := by
  induction cs generalizing before p text gap with
  | nil =>
    cases closed rfl
    simp [Position.right]
  | cons c cs ih =>
    obtain ⟨printable, inLine⟩ := shown c List.mem_cons_self
    have others : ∀ c ∈ cs, isPrintable c = true ∧ isAnyBreak c = false := fun c mem =>
      shown c (List.mem_cons_of_mem _ mem)
    simp only [hasInnerMark, Bool.or_eq_false_iff] at unmarked
    obtain ⟨⟨colon, sign⟩, unmarked⟩ := unmarked
    have goesOn : isBreak c = false := isAnyBreak_of_printable printable ▸ inLine
    have next : (p.right 1).right cs.length = p.right (cs.length + 1) := by rw [Position.right_right, Nat.add_comm]
    have right : (p.right 1).column = p.column + 1 := rfl
    have ends : cs ≠ [] → cs.getLast? ≠ some ' ' := by
      intro more
      rwa [List.getLast?_cons_of_ne_nil more] at last
    rw [List.cons_append]
    by_cases blank : c = ' '
    · subst blank
      have more : cs ≠ [] := by rintro rfl; exact last rfl
      rw [readPlain_space, ih others unmarked (ends more) (by omega) (by omega) (Gap.broken_addSpace unbroken ' ')
        (fun _ => rfl) (fun empty => absurd empty more), next, Gap.folded_addSpace unbroken]
      simp
    · have visible : isSpace c = false := by rw [isSpace_of_printable printable]; simpa using blank
      have first : gap = .none ∨ gap.broken = false ∧ c ≠ '#' ∧ indent ≤ p.column := by
        by_cases open' : gap = .none
        · exact .inl open'
        · cases gapped open'
          have unsigned : c ≠ '#' := by simpa [isSpace] using sign
          exact .inr ⟨unbroken, unsigned, deep⟩
      have wordGoesOn : c = ':' → atWordEnd (cs ++ rest) = false := by
        rintro rfl
        exact atWordEnd_append rest (by simpa using colon)
      have lastOne : cs.getLast? ≠ some ' ' := by
        by_cases more : cs = []
        · simp [more]
        · exact ends more
      rw [readPlain_char goesOn visible wordGoesOn (by omega) first,
        ih others unmarked lastOne (by omega) (by omega) rfl (fun open' => absurd rfl open') (fun _ => rfl), next]
      simp

theorem printable_of_fitsSingle (fits : fitsSingle cs = true) : ∀ c ∈ cs, isPrintable c = true := by
  simp only [fitsSingle, needsEscapes, Bool.and_eq_true, Bool.not_eq_true', Bool.or_eq_false_iff, List.any_eq_false,
    Bool.not_eq_false] at fits
  exact fits.1.1

/-- What makes it possible to write a text plain. -/
structure PlainText (c : Char) (cs : List Char) : Prop where
  shown : ∀ d ∈ c :: cs, isPrintable d = true ∧ isAnyBreak d = false
  visible : c ≠ ' '
  last : (c :: cs).getLast? ≠ some ' '
  unmarked : beginsLikeMark (c :: cs) = false
  start : badStart c cs = false
  inner : hasInnerMark c cs = false

theorem PlainText.of_fits {c : Char} (fits : fitsPlain (c :: cs) = true) : PlainText c cs := by
  simp only [fitsPlain, Bool.and_eq_true, Bool.not_eq_true', decide_eq_true_eq, List.any_eq_false,
    Bool.not_eq_true] at fits
  obtain ⟨⟨⟨⟨⟨⟨single, inLine⟩, visible⟩, last⟩, unmarked⟩, start⟩, inner⟩ := fits
  exact ⟨fun d mem => ⟨printable_of_fitsSingle single d mem, inLine d mem⟩, visible, last, unmarked, start, inner⟩

theorem beginsWithMark_append {e : Char} (mark : Char) (unmarked : [mark, mark, mark].isPrefixOf cs = false)
    (other : e ≠ mark) : beginsWithMark mark (cs ++ e :: rest) = false := by
  match cs with
  | [] => rcases rest with _ | ⟨a, _ | ⟨b, rest⟩⟩ <;> simp [beginsWithMark, other]
  | [a] => cases rest <;> simp [beginsWithMark, other]
  | [a, b] => simp [beginsWithMark, other]
  | a :: b :: d :: cs =>
    have one : ¬(a = mark ∧ b = mark ∧ d = mark) := by
      rintro ⟨rfl, rfl, rfl⟩
      simp [List.isPrefixOf] at unmarked
    simpa [beginsWithMark] using fun a b d => absurd ⟨a, b, d⟩ one

theorem beginsWithDocumentMark_append {e : Char} (unmarked : beginsLikeMark cs = false) (dash : e ≠ '-')
    (dot : e ≠ '.') :
    beginsWithDocumentMark (cs ++ e :: rest) = false := by
  simp only [beginsLikeMark, Bool.or_eq_false_iff] at unmarked
  simp only [beginsWithDocumentMark, Bool.or_eq_false_iff]
  exact ⟨beginsWithMark_append _ unmarked.1 dash, beginsWithMark_append _ unmarked.2 dot⟩

/-- A plain text is read up to what ends it. -/
theorem readPlain_text {e : Char} (fits : ScalarStyle.plain.Fits cs) (deep : indent ≤ p.column + 1) (dash : e ≠ '-')
    (dot : e ≠ '.') :
    readPlain false indent (cs ++ e :: rest) p [] .none =
      readPlain false indent (e :: rest) (p.right cs.length) cs.reverse .none := by
  obtain ⟨nonempty, fits⟩ := fits
  obtain ⟨c, cs, rfl⟩ := List.exists_cons_of_ne_nil nonempty
  obtain ⟨shown, visible, last, unmarked, start, inner⟩ := PlainText.of_fits fits
  obtain ⟨printable, inLine⟩ := shown c List.mem_cons_self
  have goesOn : isBreak c = false := isAnyBreak_of_printable printable ▸ inLine
  have seen : isSpace c = false := by rw [isSpace_of_printable printable]; simpa using visible
  have undivided : beginsWithDocumentMark (c :: (cs ++ e :: rest)) = false :=
    beginsWithDocumentMark_append unmarked dash dot
  have wordGoesOn : c = ':' → atWordEnd (cs ++ e :: rest) = false := by
    rintro rfl
    exact atWordEnd_append _ (by simpa [badStart, isLeadingMark] using start)
  have ends : cs.getLast? ≠ some ' ' := by
    cases cs with
    | nil => simp
    | cons d cs => simpa using last
  have right : (p.right 1).column = p.column + 1 := rfl
  have next : (p.right 1).right cs.length = p.right (cs.length + 1) := by rw [Position.right_right, Nat.add_comm]
  rw [List.cons_append, readPlain_char goesOn seen wordGoesOn (fun _ => undivided) (.inl rfl),
    readPlain_line (fun d mem => shown d (List.mem_cons_of_mem _ mem)) inner ends (by omega) (by omega) rfl
      (fun broken => absurd rfl broken) (fun _ => rfl), next]
  simp

theorem readPlain_colon (ends : atWordEnd rest = true) :
    readPlain false indent (':' :: rest) p text .none = some ⟨String.ofList text.reverse, ':' :: rest, p, false⟩ := by
  rw [readPlain, if_neg (by decide), if_neg (by decide)]
  simp [beginsWithDocumentMark, ends, Gap.none]

theorem readPlain_indentation {k : Nat} (broken : gap.broken = true) (rest : List Char) :
    readPlain false indent (spaces k ++ rest) p text gap = readPlain false indent rest (p.right k) text gap := by
  have same : gap.addSpace ' ' = gap := by simp [Gap.addSpace, broken]
  exact read_spaces (fun rest p => readPlain false indent rest p text gap)
    (fun rest q _ => by rw [readPlain_space, same]) rest

theorem readPlain_end {k : Nat} {tail : List Char} (stands : AtToken tail) (left : tail ≠ [] → (k : Int) < indent) :
    readPlain false indent ('\n' :: (spaces k ++ tail)) p text .none =
      some ⟨String.ofList text.reverse, tail, ⟨p.line + 1, k⟩, true⟩ := by
  rw [readPlain, if_pos (by decide)]
  rw [readPlain_indentation (by rfl)]
  have there : p.nextLine.right k = ⟨p.line + 1, k⟩ := by simp [Position.right, Position.nextLine]
  rw [there]
  cases tail with
  | nil => rfl
  | cons c tail =>
    obtain ⟨visible, goesOn, -⟩ := stands
    have before := left (List.cons_ne_nil _ _)
    rw [readPlain, if_neg (by simp [goesOn]), if_neg (by simp [visible])]
    simp [Gap.addBreak, Gap.none, before]

end Plain

/-! ## Single quotes -/

namespace Gap

/-- Whether nothing is folded in a gap: the breaks in it are none that count as a space. -/
structure Whole (g : Gap) : Prop where
  kept : g.broken = true → ∃ d, g.firstBreak = some d ∧ d ≠ '\n'

variable {g : Gap}

theorem Whole.of_unbroken (unbroken : g.broken = false) : g.Whole := ⟨by simp [unbroken]⟩

theorem broken_addBreak (g : Gap) (c : Char) : (g.addBreak c).broken = true := by
  unfold addBreak
  split
  · assumption
  · rfl

theorem Whole.addBreak (h : g.Whole) {c : Char} (other : c ≠ '\n') : (g.addBreak c).Whole := by
  refine ⟨fun _ => ?_⟩
  cases broken : g.broken with
  | true => simpa [Gap.addBreak, broken] using h.kept broken
  | false => exact ⟨c, by simp [Gap.addBreak, broken], other⟩

theorem Whole.folded_of_broken (h : g.Whole) (broken : g.broken = true) :
    ∃ d, g.firstBreak = some d ∧ g.folded = g.moreBreaks ++ [d] := by
  obtain ⟨d, first, other⟩ := h.kept broken
  refine ⟨d, first, ?_⟩
  simp only [folded, broken, if_true, first]

theorem Whole.folded_addBreak (h : g.Whole) {c : Char} (other : c ≠ '\n') (tight : g.broken = false → g.spaces = []) :
    (g.addBreak c).folded = c :: g.folded := by
  obtain ⟨d, first, folded⟩ := (h.addBreak other).folded_of_broken (g.broken_addBreak c)
  rw [folded]
  cases broken : g.broken with
  | true =>
    obtain ⟨d', first', folded'⟩ := h.folded_of_broken broken
    simp_all [Gap.addBreak]
  | false => simp_all [Gap.addBreak, Gap.folded]

end Gap

section Single

variable {cs rest text : List Char} {gap : Gap} {p : Position}

theorem readSingle_space :
    readSingle (' ' :: rest) p text gap = readSingle rest (p.right 1) text (gap.addSpace ' ') := by
  simp [readSingle, isBreak, isSpace]

theorem readSingle_break {c : Char} (ends : isBreak c = true) :
    readSingle (c :: rest) p text gap = readSingle rest p.nextLine text (gap.addBreak c) := by
  have unquoted : c ≠ '\'' := by rintro rfl; exact absurd ends (by decide)
  simp [readSingle, unquoted, ends]

theorem readSingle_char {c : Char} (unquoted : c ≠ '\'') (goesOn : isBreak c = false) (visible : isSpace c = false)
    (inside : 0 < p.column) :
    readSingle (c :: rest) p text gap = readSingle rest (p.right 1) (c :: (gap.folded ++ text)) .none := by
  have column : p.column ≠ 0 := Nat.ne_of_gt inside
  simp [readSingle, unquoted, goesOn, visible, column]

theorem readSingle_quote :
    readSingle ('\'' :: '\'' :: rest) p text gap = readSingle rest (p.right 2) ('\'' :: (gap.folded ++ text)) .none := by
  rw [readSingle]

theorem readSingle_end (closed : rest.head? ≠ some '\'') (inside : 0 < p.column) :
    readSingle ('\'' :: rest) p text gap =
      some ⟨String.ofList (gap.folded ++ text).reverse, rest, p.right 1, false⟩ := by
  have column : p.column ≠ 0 := Nat.ne_of_gt inside
  cases rest with
  | nil => simp [readSingle, column, isBreak, isSpace]
  | cons c rest =>
    have other : c ≠ '\'' := fun quote => closed (congrArg some quote)
    simp [readSingle, column, isBreak, isSpace, other]

theorem readSingle_indentation {k : Nat} (broken : gap.broken = true) (rest : List Char) :
    readSingle (spaces k ++ rest) p text gap = readSingle rest (p.right k) text gap := by
  have same : gap.addSpace ' ' = gap := by simp [Gap.addSpace, broken]
  exact read_spaces (fun rest p => readSingle rest p text gap) (fun rest q _ => by rw [readSingle_space, same]) rest

/-- The indentation of a line, where one begins. -/
def lineLead (indent : Nat) (lineStart : Bool) : List Char := if lineStart then spaces indent else []

/-- What is written between single quotes for a text, from the start of a line or from inside one. -/
def quotedBody (indent : Nat) (lineStart : Bool) (cs : List Char) : List Char :=
  indented indent lineStart (cs.flatMap fun c => if c = '\'' then ['\'', '\''] else [c]) ++
    lineLead indent (cs.getLast?.elim lineStart isAnyBreak)

theorem writeSingle_eq (indent : Nat) (cs : List Char) :
    writeSingle indent cs = '\'' :: (quotedBody indent false cs ++ ['\'']) := by
  have last : cs.getLast?.any isAnyBreak = cs.getLast?.elim false isAnyBreak := by cases cs.getLast? <;> rfl
  simp [writeSingle, quotedBody, lineLead, last]

theorem elim_getLast?_cons (lineStart : Bool) (c : Char) (cs : List Char) :
    (c :: cs).getLast?.elim lineStart isAnyBreak = cs.getLast?.elim (isAnyBreak c) isAnyBreak := by
  rw [List.getLast?_cons]
  cases cs.getLast? <;> rfl

theorem quotedBody_cons (indent : Nat) (lineStart : Bool) (c : Char) (cs : List Char) :
    quotedBody indent lineStart (c :: cs) =
      if isAnyBreak c then c :: quotedBody indent true cs
      else lineLead indent lineStart ++
        ((if c = '\'' then ['\'', '\''] else [c]) ++ quotedBody indent false cs) := by
  have last := elim_getLast?_cons lineStart c cs
  have plainQuote : isAnyBreak '\'' = false := by decide
  by_cases quote : c = '\''
  · subst quote
    simp [quotedBody, last, indented, plainQuote, lineLead]
  · cases ends : isAnyBreak c <;> simp [quotedBody, last, indented, quote, lineLead, ends]

theorem readSingle_lead {indent : Nat} (pos : 0 < indent) (inside : gap.broken = false → 0 < p.column)
    (rest text : List Char) :
    ∃ q : Position, q.line = p.line ∧ 0 < q.column ∧
      readSingle (lineLead indent gap.broken ++ rest) p text gap = readSingle rest q text gap := by
  cases broken : gap.broken with
  | true => exact ⟨p.right indent, rfl, by simp [Position.right]; omega, readSingle_indentation broken rest⟩
  | false => exact ⟨p, rfl, inside broken, rfl⟩

/-- A visible character is read as it is written, alone or doubled. -/
theorem readSingle_written {c : Char} (rest text : List Char) (gap : Gap) (goesOn : isBreak c = false)
    (visible : isSpace c = false) (inside : 0 < p.column) :
    ∃ q : Position, q.line = p.line ∧ 0 < q.column ∧
      readSingle ((if c = '\'' then ['\'', '\''] else [c]) ++ rest) p text gap =
        readSingle rest q (c :: (gap.folded ++ text)) .none := by
  split
  · next quote =>
    subst quote
    exact ⟨p.right 2, rfl, Nat.succ_pos _, readSingle_quote⟩
  · next unquoted => exact ⟨p.right 1, rfl, Nat.succ_pos _, readSingle_char unquoted goesOn visible inside⟩

theorem readSingle_body {indent : Nat} (p : Position) (text : List Char) (gap : Gap) (pos : 0 < indent)
    (shown : ∀ c ∈ cs, isPrintable c = true) (oneLine : '\n' ∉ cs)
    (trailing : hasPair (· = ' ') isAnyBreak cs = false) (leading : hasPair isAnyBreak (· = ' ') cs = false)
    (whole : gap.Whole) (inside : gap.broken = false → 0 < p.column) (start : gap.broken = true → cs.head? ≠ some ' ')
    (tight : gap.broken = false → gap.spaces ≠ [] → ∀ c ∈ cs.head?, isAnyBreak c = false)
    (closed : rest.head? ≠ some '\'') :
    ∃ q : Position, p.line ≤ q.line ∧
      readSingle (quotedBody indent gap.broken cs ++ '\'' :: rest) p text gap =
        some ⟨String.ofList ((gap.folded ++ text).reverse ++ cs), rest, q, false⟩ := by
  induction cs generalizing p text gap with
  | nil =>
    obtain ⟨q, sameLine, column, read⟩ := readSingle_lead pos inside ('\'' :: rest) text
    refine ⟨q.right 1, Nat.le_of_eq sameLine.symm, ?_⟩
    simpa [quotedBody, indented] using read.trans (readSingle_end closed column)
  | cons c cs ih =>
    obtain ⟨before, noTrailing⟩ := hasPair_cons.mp trailing
    obtain ⟨after, noLeading⟩ := hasPair_cons.mp leading
    have printable : isPrintable c = true := shown c List.mem_cons_self
    have others : ∀ c ∈ cs, isPrintable c = true := fun d mem => shown d (List.mem_cons_of_mem _ mem)
    have sameLine : '\n' ∉ cs := fun mem => oneLine (List.mem_cons_of_mem _ mem)
    rw [quotedBody_cons]
    cases ends : isAnyBreak c with
    | true =>
      have other : c ≠ '\n' := by rintro rfl; exact oneLine List.mem_cons_self
      have alone : gap.broken = false → gap.spaces = [] := fun unbroken =>
        by_contra fun some => absurd ends (by simp [tight unbroken some c rfl])
      obtain ⟨q, further, read⟩ := ih p.nextLine text (gap.addBreak c) others sameLine noTrailing noLeading
        (whole.addBreak other) (by simp [gap.broken_addBreak]) (fun _ space => by simpa [space] using after ends)
        (by simp [gap.broken_addBreak])
      rw [gap.broken_addBreak, whole.folded_addBreak other alone] at read
      refine ⟨q, by simp [Position.nextLine] at further; omega, ?_⟩
      rw [if_pos rfl, List.cons_append, readSingle_break (isAnyBreak_of_printable printable ▸ ends), read]
      simp
    | false =>
      have goesOn : isBreak c = false := isAnyBreak_of_printable printable ▸ ends
      rw [if_neg Bool.false_ne_true]
      by_cases blank : c = ' '
      · subst blank
        have unbroken : gap.broken = false := Bool.eq_false_iff.mpr fun broken => start broken rfl
        have stays := Gap.broken_addSpace unbroken ' '
        obtain ⟨q, further, read⟩ := ih (p.right 1) text (gap.addSpace ' ') others sameLine noTrailing
          noLeading (.of_unbroken stays) (fun _ => Nat.succ_pos _) (by simp [stays]) (fun _ _ => before rfl)
        rw [stays, Gap.folded_addSpace unbroken] at read
        refine ⟨q, further, ?_⟩
        rw [unbroken, if_neg (by decide)]
        show readSingle (' ' :: (quotedBody indent false cs ++ '\'' :: rest)) p text gap = _
        rw [readSingle_space, read]
        simp
      · have visible : isSpace c = false := by rw [isSpace_of_printable printable]; simpa using blank
        obtain ⟨r, sameAsBefore, column, lead⟩ := readSingle_lead pos inside
          ((if c = '\'' then ['\'', '\''] else [c]) ++ (quotedBody indent false cs ++ '\'' :: rest)) text
        obtain ⟨r', sameAsLead, column', char⟩ := readSingle_written (quotedBody indent false cs ++ '\'' :: rest) text
          gap goesOn visible column
        obtain ⟨q, further, read⟩ := ih r' (c :: (gap.folded ++ text)) .none others sameLine noTrailing noLeading
          (.of_unbroken rfl) (fun _ => column') (fun broken => absurd broken Bool.false_ne_true) (fun _ broken => absurd rfl broken)
        refine ⟨q, sameAsBefore ▸ sameAsLead ▸ further, ?_⟩
        simp only [List.append_assoc]
        rw [lead, char]
        refine read.trans ?_
        simp

/-- A text in single quotes is read to its end. -/
theorem readSingle_text {indent : Nat} (p : Position) (rest : List Char) (pos : 0 < indent)
    (fits : ScalarStyle.single.Fits cs) (inside : 0 < p.column) (closed : rest.head? ≠ some '\'') :
    ∃ q : Position, p.line ≤ q.line ∧
      readSingle (quotedBody indent false cs ++ '\'' :: rest) p [] .none = some ⟨String.ofList cs, rest, q, false⟩ := by
  obtain ⟨oneLine, fits⟩ := fits
  have shown := printable_of_fitsSingle fits
  simp only [fitsSingle, needsEscapes, Bool.and_eq_true, Bool.not_eq_true', Bool.or_eq_false_iff] at fits
  exact readSingle_body p [] .none pos shown oneLine fits.1.2 fits.2 (.of_unbroken rfl) (fun _ => inside)
    (fun broken => absurd broken Bool.false_ne_true) (fun _ broken => absurd rfl broken) closed

end Single

/-! ## Double quotes -/

section Double

variable {cs rest text : List Char} {gap : Gap} {p : Position}

theorem charOf?_toNat (c : Char) : charOf? c.toNat = some c := by
  have valid : c.toNat.isValidChar := c.valid
  simp [charOf?, valid]

theorem readDouble_digits {ds : List Char} {v n : Nat} {e : Char} (nonempty : ds ≠ [])
    (number : hexNumber? v ds = some n) (char : charOf? n = some e) :
    readDouble (ds ++ rest) p text gap (.digits ds.length v) =
      readDouble rest (p.right ds.length) (e :: text) gap .idle := by
  induction ds generalizing v p with
  | nil => exact absurd rfl nonempty
  | cons d ds ih =>
    cases digit : hexValue? d with
    | none => simp [hexNumber?, digit] at number
    | some value =>
      rw [hexNumber?_cons ds digit] at number
      have next : (p.right 1).right ds.length = p.right (ds.length + 1) := by rw [Position.right_right, Nat.add_comm]
      rw [List.cons_append, readDouble]
      cases ds with
      | nil =>
        cases number
        simp [digit, char]
      | cons d' ds =>
        rw [digit]
        exact (ih (List.cons_ne_nil _ _) number).trans (by rw [next]; rfl)

theorem readDouble_space :
    readDouble (' ' :: rest) p text gap .idle = readDouble rest (p.right 1) text (gap.addSpace ' ') .idle := by
  simp [readDouble, isBreak, isSpace]

theorem readDouble_char {c : Char} (unquoted : c ≠ '"') (unescaped : c ≠ '\\') (goesOn : isBreak c = false)
    (visible : isSpace c = false) (inside : 0 < p.column) :
    readDouble (c :: rest) p text gap .idle = readDouble rest (p.right 1) (c :: (gap.folded ++ text)) .none .idle := by
  have column : p.column ≠ 0 := Nat.ne_of_gt inside
  simp [readDouble, unquoted, unescaped, goesOn, visible, column]

theorem readDouble_escaped {c e : Char} (goesOn : isBreak c = false) (stands : escaped? c = some e) :
    readDouble ('\\' :: c :: rest) p text gap .idle =
      readDouble rest (p.right 2) (e :: (gap.folded ++ text)) .none .idle := by
  rw [readDouble, if_neg (by simp [goesOn])]
  simp [stands]

theorem readDouble_codePoint {c e : Char} {k : Nat} (pos : 0 < k) (goesOn : isBreak c = false)
    (other : escaped? c = none) (length : escapeLength? c = some k) (fits : e.toNat < Nat.pow 16 k) :
    readDouble (['\\', c] ++ capitalHex k e.toNat ++ rest) p text gap .idle =
      readDouble rest ((p.right 2).right k) (e :: (gap.folded ++ text)) .none .idle := by
  have digits : (capitalHex k e.toNat).length = k := length_capitalHex pos fits
  have nonempty : capitalHex k e.toNat ≠ [] := List.ne_nil_of_length_pos (by omega)
  have read : readDouble (capitalHex k e.toNat ++ rest) (p.right 2) (gap.folded ++ text) .none
      (.digits (capitalHex k e.toNat).length 0) = _ :=
    readDouble_digits nonempty (hexNumber?_capitalHex k e.toNat) (charOf?_toNat e)
  rw [digits] at read
  show readDouble ('\\' :: c :: (capitalHex k e.toNat ++ rest)) p text gap .idle = _
  rw [readDouble, if_neg (by simp [goesOn])]
  simpa only [other, length] using read

theorem readDouble_end (inside : 0 < p.column) :
    readDouble ('"' :: rest) p text gap .idle =
      some ⟨String.ofList (gap.folded ++ text).reverse, rest, p.right 1, false⟩ := by
  have column : p.column ≠ 0 := Nat.ne_of_gt inside
  simp [readDouble, column, isBreak, isSpace]

/-- A character that shows is read as it is written, alone or escaped. -/
theorem readDouble_written {c : Char} (rest text : List Char) (gap : Gap) (other : c ≠ ' ') (inside : 0 < p.column) :
    ∃ q : Position, q.line = p.line ∧ 0 < q.column ∧
      readDouble (escapeDouble c ++ rest) p text gap .idle =
        readDouble rest q (c :: (gap.folded ++ text)) .none .idle := by
  simp only [escapeDouble]
  split
  iterate 14 exact ⟨p.right 2, rfl, Nat.succ_pos _, readDouble_escaped (by decide) rfl⟩
  next line _ _ _ _ quote slash _ separator paragraph =>
    have goesOn : isBreak c = false := by
      simpa [isBreak] using (⟨⟨line, separator⟩, paragraph⟩ : (c ≠ '\n' ∧ c ≠ '\u2028') ∧ c ≠ '\u2029')
    split_ifs with printable byte word
    · have visible : isSpace c = false := by rw [isSpace_of_printable printable]; simpa using other
      exact ⟨p.right 1, rfl, Nat.succ_pos _, readDouble_char quote slash goesOn visible inside⟩
    · exact ⟨(p.right 2).right 2, rfl, Nat.succ_pos _,
        readDouble_codePoint (by decide) (by decide) rfl rfl (Nat.lt_of_le_of_lt byte (by decide))⟩
    · exact ⟨(p.right 2).right 4, rfl, Nat.succ_pos _,
        readDouble_codePoint (by decide) (by decide) rfl rfl (Nat.lt_of_le_of_lt word (by decide))⟩
    · have top : c.toNat < 0x110000 := by
        rcases c.valid with low | ⟨-, high⟩
        · exact Nat.lt_trans low (by decide)
        · exact high
      exact ⟨(p.right 2).right 8, rfl, Nat.succ_pos _,
        readDouble_codePoint (by decide) (by decide) rfl rfl (Nat.lt_trans top (by decide))⟩

theorem readDouble_body (p : Position) (text : List Char) (gap : Gap) (inside : 0 < p.column)
    (unbroken : gap.broken = false) :
    ∃ q : Position, p.line ≤ q.line ∧
      readDouble (cs.flatMap escapeDouble ++ '"' :: rest) p text gap .idle =
        some ⟨String.ofList ((gap.folded ++ text).reverse ++ cs), rest, q, false⟩ := by
  induction cs generalizing p text gap with
  | nil => exact ⟨p.right 1, Nat.le_refl _, by simpa using readDouble_end inside⟩
  | cons c cs ih =>
    rw [List.flatMap_cons, List.append_assoc]
    by_cases blank : c = ' '
    · subst blank
      obtain ⟨q, further, read⟩ := ih (p.right 1) text (gap.addSpace ' ') (Nat.succ_pos _)
        (Gap.broken_addSpace unbroken ' ')
      refine ⟨q, further, ?_⟩
      show readDouble (' ' :: (cs.flatMap escapeDouble ++ '"' :: rest)) p text gap .idle = _
      rw [readDouble_space, read, Gap.folded_addSpace unbroken]
      simp
    · obtain ⟨r, sameLine, column, char⟩ := readDouble_written (cs.flatMap escapeDouble ++ '"' :: rest) text gap blank
        inside
      obtain ⟨q, further, read⟩ := ih r (c :: (gap.folded ++ text)) .none column rfl
      refine ⟨q, sameLine ▸ further, ?_⟩
      rw [char, read]
      simp

/-- A text in double quotes is read to its end. -/
theorem readDouble_text (cs : List Char) (p : Position) (rest : List Char) (inside : 0 < p.column) :
    ∃ q : Position, p.line ≤ q.line ∧
      readDouble (cs.flatMap escapeDouble ++ '"' :: rest) p [] .none .idle = some ⟨String.ofList cs, rest, q, false⟩ :=
  readDouble_body p [] .none inside rfl

end Double

end CloudLifecycle.Yaml
