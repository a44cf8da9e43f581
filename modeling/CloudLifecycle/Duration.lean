/-!
# Durations

Spans of time in whole nanoseconds, and how they are written: in the largest unit of which they hold at
least one, with as many decimals as are needed.
-/

namespace CloudLifecycle

/-- A span of time. -/
structure Duration where
  nanos : Nat
  deriving DecidableEq, Repr, Inhabited

namespace Duration

/-- No time at all. -/
def zero : Duration := ⟨0⟩

/-- A span of `n` seconds. -/
def ofSeconds (n : Nat) : Duration := ⟨n * 1000000000⟩

/-- A span of `n` milliseconds. -/
def ofMillis (n : Nat) : Duration := ⟨n * 1000000⟩

/-- The whole milliseconds in a span. -/
def millis (d : Duration) : Nat := d.nanos / 1000000

instance : LE Duration := ⟨fun a b => a.nanos ≤ b.nanos⟩
instance : LT Duration := ⟨fun a b => a.nanos < b.nanos⟩
instance (a b : Duration) : Decidable (a ≤ b) := inferInstanceAs (Decidable (a.nanos ≤ b.nanos))
instance (a b : Duration) : Decidable (a < b) := inferInstanceAs (Decidable (a.nanos < b.nanos))
instance : Add Duration := ⟨fun a b => ⟨a.nanos + b.nanos⟩⟩

/-- The shortest span that is too long to be held: `2 ^ 64` seconds. -/
def limit : Duration := ofSeconds UInt64.size

/-- The whole seconds in a span. -/
def seconds (d : Duration) : Nat := d.nanos / 1000000000

/-- What a span has beyond its whole seconds, in nanoseconds. -/
def subsecond (d : Duration) : Nat := d.nanos % 1000000000

/-- A number of seconds, when it is small enough to be held. -/
def holdSeconds? (n : Nat) : Option Nat := if n < UInt64.size then some n else none

theorem holdSeconds?_eq_some_iff {n k : Nat} : holdSeconds? n = some k ↔ n < UInt64.size ∧ n = k := by
  simp [holdSeconds?]

/-- `n` times the span `d`, when that is short enough to be held. Its seconds and the rest of it are multiplied apart, and
whole seconds are carried over from the rest. -/
def times? (d : Duration) (n : Nat) : Option Duration := do
  let rest := d.subsecond * n
  let whole ← holdSeconds? (d.seconds * n)
  let total ← holdSeconds? (whole + rest / 1000000000)
  return ⟨total * 1000000000 + rest % 1000000000⟩

/-- Nothing is lost where seconds are carried over. -/
theorem carried_eq (d : Duration) (n : Nat) :
    (d.seconds * n + d.subsecond * n / 1000000000) * 1000000000 + d.subsecond * n % 1000000000 = d.nanos * n := by
  calc (d.seconds * n + d.subsecond * n / 1000000000) * 1000000000 + d.subsecond * n % 1000000000
    _ = d.seconds * n * 1000000000 + (d.subsecond * n / 1000000000 * 1000000000 + d.subsecond * n % 1000000000) := by
      rw [Nat.add_mul, Nat.add_assoc]
    _ = (d.seconds * 1000000000 + d.subsecond) * n := by rw [Nat.div_add_mod', Nat.add_mul, Nat.mul_right_comm]
    _ = d.nanos * n := by rw [seconds, subsecond, Nat.div_add_mod']

/-- A repeated span is the exact product, and is missing just when that product reaches the limit. -/
theorem times?_eq_some_iff {d e : Duration} {n : Nat} :
    d.times? n = some e ↔ e.nanos = d.nanos * n ∧ e < limit := by
  have exactly := d.carried_eq n
  have rest := Nat.mod_lt (d.subsecond * n) (Nat.succ_pos 999999999)
  have limited : e < limit ↔ e.nanos < UInt64.size * 1000000000 := Iff.rfl
  simp only [times?, Option.bind_eq_bind, Option.bind_eq_some_iff, holdSeconds?_eq_some_iff, Option.pure_def,
    Option.some.injEq, limited]
  generalize d.seconds * n = whole, d.subsecond * n / 1000000000 = carry, d.subsecond * n % 1000000000 = parts,
    UInt64.size = size, d.nanos * n = product at *
  constructor
  · rintro ⟨_, ⟨_, rfl⟩, _, ⟨fits, rfl⟩, rfl⟩
    refine ⟨exactly, ?_⟩
    show (whole + carry) * 1000000000 + parts < size * 1000000000
    omega
  · rintro ⟨same, fits⟩
    exact ⟨whole, ⟨by omega, rfl⟩, whole + carry, ⟨by omega, rfl⟩, congrArg mk (exactly.trans same.symm)⟩

/-- `k` decimal digits that stand for `n`, without the zeros at the end. -/
def fractionDigits (k n : Nat) : List Char :=
  let digits := Nat.toDigits 10 n
  let padded := List.replicate (k - digits.length) '0' ++ digits
  (padded.reverse.dropWhile (· = '0')).reverse

/-- `whole` units and `part` of the `10 ^ k` parts of the next one. -/
def decimalText (whole k part : Nat) : String :=
  if part = 0 then toString whole
  else toString whole ++ "." ++ String.ofList (fractionDigits k part)

/-- The text of a span: `30s`, `1.5s`, `250ms`, `1.001µs`, `0ns`. -/
def text (d : Duration) : String :=
  let n := d.nanos
  if 1000000000 ≤ n then decimalText (n / 1000000000) 9 (n % 1000000000) ++ "s"
  else if 1000000 ≤ n then decimalText (n / 1000000) 6 (n % 1000000) ++ "ms"
  else if 1000 ≤ n then decimalText (n / 1000) 3 (n % 1000) ++ "µs"
  else toString n ++ "ns"

end Duration

end CloudLifecycle
