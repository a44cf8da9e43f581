import CloudLifecycle.Proofs.Yaml.Composed
import CloudLifecycle.Proofs.Yaml.Shown

/-!
# Written documents come back

What is written is parsed as the tree that was written, for every tree of which each text has a style that fits it.

## Main statements

* `Token.scan_render`: a written document is scanned as its tokens;
* `Document.parse?_render`: a written document is parsed as its tree.
-/

namespace CloudLifecycle.Yaml

/-! ## From the text to the tokens -/

theorem plainBreaks_of_shows {cs : List Char} (shown : Shows cs) : plainBreaks cs = cs := by
  induction cs with
  | nil => rfl
  | cons c cs ih =>
    obtain ⟨printable, others⟩ := shows_cons.mp shown
    have noReturn : c ≠ '\r' := by rintro rfl; exact absurd printable (by decide)
    have noNext : c ≠ '\u0085' := by rintro rfl; exact absurd printable (by decide)
    simp [plainBreaks, noReturn, noNext, ih others]

theorem isAllowed_of_printable {c : Char} (printable : isPrintable c = true) : isAllowed c = true := by
  have valid : c.toNat < 0xD800 ∨ 0xDFFF < c.toNat ∧ c.toNat < 0x110000 := c.valid
  simp only [isPrintable, Bool.or_eq_true, Bool.and_eq_true, decide_eq_true_eq] at printable
  simp only [isAllowed, Bool.or_eq_true, Bool.and_eq_true, decide_eq_true_eq]
  omega

namespace Scan

theorem run_of_passes {cs : List Char} {t : Scan} {tokens : List Token} (passes : Passes cs.length (start cs) t)
    (ends : ∀ more, run (more + 1) t = some tokens) : run (cs.length + 1) (start cs) = some tokens := by
  obtain ⟨steps, le, passes⟩ := passes
  rw [show cs.length + 1 = (cs.length - steps + 1) + steps by omega, passes, ends]

theorem append_end (cs : List Char) : cs ++ (spaces 0 ++ []) = cs := List.append_nil cs

/-- A written document is scanned to its end. -/
theorem run_render {n : Node} (written : n.Written) :
    run (n.render.toList.length + 1) (start n.render.toList) = some (n.tokens false ++ [.streamEnd]) := by
  have ends : Follows (0 : Nat) 0 [] := ⟨atToken_nil, .inl ⟨rfl, rfl⟩⟩
  have top : (-1 : Int) < (0 : Nat) := by decide
  cases written with
  | @scalar style text fits =>
    have passes : ∃ l, Passes 1 (ready ((writeScalar 2 style text).toList ++ (spaces 0 ++ [])) ⟨0, 0⟩ [] (-1) [])
        (ready [] ⟨l, 0⟩ [.scalar style text] (-1) []) :=
      passes_scalar [] [] true fits top (by decide) ⟨atToken_nil, .inl ⟨rfl, rfl⟩⟩
    obtain ⟨l, passes⟩ := passes
    rw [append_end] at passes
    have nonempty : 1 ≤ (writeScalar 2 style text).toList.length := by
      cases style <;> simp [writeScalar, writeSingle, writeDouble, writeBlock]
    exact run_of_passes (passes.mono nonempty) fun more => run_end more
  | @sequence items each =>
    cases items with
    | nil =>
      have passes : Passes 2 (ready ['[', ']', '\n'] ⟨0, 0⟩ [] (-1) [])
          (ready [] ⟨1, 0⟩ [.flowSequenceStart, .flowSequenceEnd] (-1) []) :=
        passes_empty (k := 0) true top atToken_nil
      have text : (Node.sequence []).render.toList = ['[', ']', '\n'] := by decide
      rw [text]
      exact run_of_passes (passes.mono (by decide)) fun more => run_end more
    | cons n ns =>
      obtain ⟨l, passes⟩ := passes_items (l := 0) [] [] (fun n mem => scanned_of_written (each n mem))
        (Int.le_of_lt top) ends
      rw [append_end] at passes
      exact run_of_passes passes fun more => (run_end_block more rfl).trans (by simp [Node.tokens, opening])
  | @mapping entries keys each =>
    cases entries with
    | nil =>
      have passes : Passes 2 (ready ['\x7b', '\x7d', '\n'] ⟨0, 0⟩ [] (-1) [])
          (ready [] ⟨1, 0⟩ [.flowMappingStart, .flowMappingEnd] (-1) []) :=
        passes_empty (k := 0) false top atToken_nil
      have text : (Node.mapping []).render.toList = ['\x7b', '\x7d', '\n'] := by decide
      rw [text]
      exact run_of_passes (passes.mono (by decide)) fun more => run_end more
    | cons e es =>
      obtain ⟨l, passes⟩ := passes_entries (l := 0) [] [] keys (fun e mem => scanned_of_written (each e mem))
        (Int.le_of_lt top) ends
      rw [append_end] at passes
      exact run_of_passes passes fun more => (run_end_block more rfl).trans (by simp [Node.tokens, opening])

end Scan

/-- **A written document is scanned as its tokens.** -/
theorem Token.scan_render {n : Node} (written : n.Written) :
    Token.scan n.render = some (n.tokens false ++ [.streamEnd]) := by
  have shown := written.shows
  have unmarked : n.render.toList.head? ≠ some byteOrderMark := by
    intro mark
    exact absurd (shown _ (List.mem_of_mem_head? mark)) (by decide)
  have allowed : n.render.toList.all isAllowed = true :=
    List.all_eq_true.mpr fun c mem => isAllowed_of_printable (shown c mem)
  simp only [Token.scan]
  rw [if_neg unmarked, if_pos allowed, plainBreaks_of_shows shown]
  exact Scan.run_render written

/-! ## From the tokens to the tree -/

/-- What is being read, where the standard handles have been added. -/
def Reading.withDefaults (r : Reading) : Reading :=
  { r with handles := r.handles ++ [("!", "!"), ("!!", "tag:yaml.org,2002:")] }

namespace Reader

/-- A document without directives is the node that begins it. -/
theorem stream_node {r s : Reading} {t : Token} {ts : List Token} {fuel : Nat} {n : Node}
    (begins : t.beginsNode false = true)
    (read : node (fuel + 1) true false (r.withDefaults.before (t :: ts)) = some (n, s.before [.streamEnd])) :
    stream (fuel + 1) (r.before (t :: ts)) = some (some n, s.before []) := by
  have bare : stream (fuel + 1) (r.before (t :: ts)) =
      (node (fuel + 1) true false (r.withDefaults.before (t :: ts))).bind fun root =>
        (documentEnds (fuel + 1) root.2).bind fun marks => (expect .streamEnd marks.2).bind fun last =>
          some (some root.1, last.2) := by
    cases t with
    | scalar | flowSequenceStart | flowMappingStart | blockSequenceStart | blockMappingStart => rfl
    | _ => cases begins
  rw [bare, read]
  rfl

end Reader

/-- A written node is composed as the root of a document. -/
theorem Document.ofTokens?_tokens {n : Node} (written : n.Written) :
    Document.ofTokens? (n.tokens false ++ [.streamEnd]) = some (.ofNode n) := by
  obtain ⟨t, ts, first, begins⟩ := written.exists_tokens false
  let r : Reading := ⟨[], [], [], [], []⟩
  let tokens := n.tokens false ++ [.streamEnd]
  have enough : 4 * (n.tokens false).length + 2 ≤ 4 * tokens.length + 3 + 1 := by
    simp only [tokens, List.length_append]
    omega
  have read : Reader.node (4 * tokens.length + 3 + 1) true false (r.withDefaults.before tokens) =
      some (n, r.withDefaults.before [.streamEnd]) := Reader.composed_of_written written enough (.inl rfl)
  have reads : Reader.stream (4 * tokens.length + 3 + 1) (r.before tokens) =
      some (some n, r.withDefaults.before []) := by
    simp only [tokens, first, List.cons_append] at read ⊢
    exact Reader.stream_node begins read
  have run : (Reader.stream (4 * tokens.length + 4)).run ⟨tokens, [], [], [], []⟩ = some (some n, r.withDefaults.before []) :=
    reads
  simp only [ofTokens?]
  rw [run]
  rfl

/-- **A written document is parsed as its tree.** -/
theorem Document.parse?_render {n : Node} (written : n.Written) : Document.parse? n.render = some (.ofNode n) := by
  rw [parse?, Token.scan_render written, Option.bind_some, ofTokens?_tokens written]

end CloudLifecycle.Yaml
