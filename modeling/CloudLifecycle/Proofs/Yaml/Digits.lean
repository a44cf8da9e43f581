import CloudLifecycle.Yaml.Printer

/-!
# Numbers in digits

Reading a number from its digits gives the number: in a base up to sixteen, in decimal digits as a plain scalar is
written, and in the capital hexadecimal digits of an escape.
-/

namespace CloudLifecycle.Yaml

theorem hexValue?_digitChar {d : Nat} (h : d < 16) : hexValue? d.digitChar = some d := by
  revert d
  decide

theorem hexValue?_toUpper_digitChar {d : Nat} (h : d < 16) : hexValue? d.digitChar.toUpper = some d := by
  revert d
  decide

theorem digitValue?_digitChar {base d : Nat} (top : base ≤ 16) (h : d < base) :
    digitValue? base d.digitChar = some d := by
  simp [digitValue?, hexValue?_digitChar (Nat.lt_of_lt_of_le h top), h]

/-- Digits that each stand for themselves make up the number whose digits they are. -/
theorem foldlM_toDigits {base : Nat} (value : Char → Option Nat) (low : 1 < base)
    (reads : ∀ d < base, value d.digitChar = some d) (n : Nat) :
    (Nat.toDigits base n).foldlM (fun m c => (value c).map (base * m + ·)) 0 = some n := by
  induction n using Nat.strongRecOn with
  | ind n ih =>
    rw [Nat.toDigits_eq_if low]
    split
    · next small => simp [reads n small]
    · have lower : n / base < n := Nat.div_lt_self (by omega) low
      have digit : value (n % base).digitChar = some (n % base) := reads _ (Nat.mod_lt n (by omega))
      rw [List.foldlM_append, ih _ lower]
      simp [digit, Nat.div_add_mod]

theorem exists_digitChar {base n : Nat} {c : Char} (low : 1 < base) (mem : c ∈ Nat.toDigits base n) :
    ∃ d < base, c = d.digitChar := by
  induction n using Nat.strongRecOn with
  | ind n ih =>
    rw [Nat.toDigits_eq_if low] at mem
    split at mem
    · next small => exact ⟨n, small, List.mem_singleton.mp mem⟩
    · rcases List.mem_append.mp mem with before | last
      · exact ih (n / base) (Nat.div_lt_self (by omega) low) before
      · exact ⟨n % base, Nat.mod_lt n (by omega), List.mem_singleton.mp last⟩

/-! ## Decimal digits -/

theorem head?_toDigits_ne_zero {base n : Nat} (low : 1 < base) (pos : 0 < n) :
    (Nat.toDigits base n).head? ≠ some '0' := by
  induction n using Nat.strongRecOn with
  | ind n ih =>
    rw [Nat.toDigits_eq_if low]
    split
    · simpa using Nat.ne_of_gt pos
    · have lower : n / base < n := Nat.div_lt_self pos low
      have positive : 0 < n / base := Nat.div_pos (by omega) (by omega)
      have before : (Nat.toDigits base (n / base)).head? ≠ none := by simp
      cases same : (Nat.toDigits base (n / base)).head? with
      | none => exact absurd same before
      | some c =>
        rw [List.head?_append, same, Option.some_or, ← same]
        exact ih _ lower positive

theorem isPaddedNumber_of_digits {cs : List Char} (digits : ∀ c ∈ cs, c.isDigit = true) (first : cs.head? ≠ some '0') :
    isPaddedNumber cs = false := by
  cases cs with
  | nil => rfl
  | cons c rest =>
    have digit : c.isDigit = true := digits c List.mem_cons_self
    have nonzero : c ≠ '0' := fun zero => first (congrArg some zero)
    unfold isPaddedNumber
    split
    · next sign => cases sign; exact absurd digit (by decide)
    · next sign => cases sign; exact absurd digit (by decide)
    · dsimp only
      split
      · next zero => cases zero; exact absurd rfl nonzero
      · rfl

theorem naturalIn?_toDigits (n : Nat) : naturalIn? 10 (Nat.toDigits 10 n) = some n := by
  unfold naturalIn?
  split
  · next empty => exact absurd empty Nat.toDigits_ne_nil
  · exact foldlM_toDigits _ (by decide) (fun d small => digitValue?_digitChar (by decide) small) n

theorem unsignedDigits?_toDigits (n : Nat) : unsignedDigits? (Nat.toDigits 10 n) = some n := by
  have digits : ∀ c ∈ Nat.toDigits 10 n, c.isDigit = true := fun c => Nat.isDigit_of_mem_toDigits (by decide) (by decide)
  have first : 0 < n → (Nat.toDigits 10 n).head? ≠ some '0' := head?_toDigits_ne_zero (by decide)
  have zero : n = 0 → Nat.toDigits 10 n = ['0'] := by rintro rfl; rfl
  have unpadded : isPaddedNumber (Nat.toDigits 10 n) = false := by
    rcases Nat.eq_zero_or_pos n with none | some
    · rw [zero none]
      rfl
    · exact isPaddedNumber_of_digits digits (first some)
  unfold unsignedDigits?
  split
  · simp_all
  · simp_all
  · simp_all
  · rw [unpadded]
    exact naturalIn?_toDigits n

theorem natural?_toString (n : Nat) : natural? (toString n) = some n := by
  have digits : ∀ c ∈ Nat.toDigits 10 n, c.isDigit = true := fun c => Nat.isDigit_of_mem_toDigits (by decide) (by decide)
  unfold natural?
  rw [Nat.toString_eq_repr, Nat.toList_repr]
  split
  · next rest signed =>
    rw [signed] at digits
    exact absurd (digits '+' List.mem_cons_self) (by decide)
  · exact unsignedDigits?_toDigits n

/-! ## Hexadecimal digits -/

/-- The number that hexadecimal digits make after the digits of another number. -/
def hexNumber? (n : Nat) (cs : List Char) : Option Nat := cs.foldlM (fun n c => (hexValue? c).map (16 * n + ·)) n

theorem hexNumber?_cons {n d : Nat} {c : Char} (cs : List Char) (digit : hexValue? c = some d) :
    hexNumber? n (c :: cs) = hexNumber? (16 * n + d) cs := by
  simp [hexNumber?, digit]

theorem hexNumber?_capitals (n : Nat) : hexNumber? 0 ((Nat.toDigits 16 n).map Char.toUpper) = some n := by
  rw [hexNumber?, List.foldlM_map]
  exact foldlM_toDigits (fun c => hexValue? c.toUpper) (by decide) (fun d => hexValue?_toUpper_digitChar) n

theorem length_capitalHex {k n : Nat} (pos : 0 < k) (fits : n < Nat.pow 16 k) : (capitalHex k n).length = k := by
  have short : (Nat.toDigits 16 n).length ≤ k := (Nat.length_toDigits_le_iff (by decide) pos).mpr fits
  simp [capitalHex, short]

theorem hexNumber?_capitalHex (k n : Nat) : hexNumber? 0 (capitalHex k n) = some n := by
  simp only [capitalHex]
  induction k - ((Nat.toDigits 16 n).map Char.toUpper).length with
  | zero => exact hexNumber?_capitals n
  | succ zeros ih =>
    rw [List.replicate_succ, List.cons_append, hexNumber?_cons _ (by rfl : hexValue? '0' = some 0)]
    exact ih

end CloudLifecycle.Yaml
