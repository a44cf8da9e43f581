/-!
# Made-up ids

Ids of new resources have the form of a random UUID: 122 free bits in 32 hexadecimal digits, with the marks of
version 4 in their places. A source numbers the ids that it gives out from a seed on.
-/

namespace CloudLifecycle

/-- The last `k` hexadecimal digits of `n`, with zeros in front if there are fewer. -/
def hexText (k n : Nat) : String :=
  let digits := Nat.toDigits 16 (n % Nat.pow 16 k)
  String.ofList (List.replicate (k - digits.length) '0' ++ digits)

/-- The id with the free bits of `n`. -/
def uuidText (n : Nat) : String :=
  let low := n % Nat.pow 2 62
  let mid := n >>> 62
  let high := n >>> 74
  hexText 8 (high >>> 16) ++ "-" ++ hexText 4 high ++ "-4" ++ hexText 3 mid ++ "-" ++
    hexText 4 (0x8000 + low >>> 48) ++ "-" ++ hexText 12 low

/-- A source of ids. -/
structure IdSource where
  seed : Nat
  /-- The number of ids given out. -/
  issued : Nat
  deriving DecidableEq, Repr

namespace IdSource

/-- The id given out after `n` others. -/
def nth (source : IdSource) (n : Nat) : String := uuidText (source.seed + n)

/-- The next id. -/
def next (source : IdSource) : String × IdSource :=
  (source.nth source.issued, { source with issued := source.issued + 1 })

/-- The ids given out so far, in that order. -/
def given (source : IdSource) : List String := (List.range source.issued).map source.nth

end IdSource

end CloudLifecycle
