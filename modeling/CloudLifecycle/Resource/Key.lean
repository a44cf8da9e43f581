import CloudLifecycle.Resource.Kind

/-!
# Identity of resources

A resource is known by its backend, its kind and the id that the backend gave it. Within one backend the
last two are enough.
-/

namespace CloudLifecycle

/-- A resource within one backend. -/
structure ResourceRef where
  kind : ResourceKind
  id : String
  deriving DecidableEq, Repr, Inhabited

/-- A resource among all backends. -/
structure ResourceKey where
  backend : String
  kind : ResourceKind
  id : String
  deriving DecidableEq, Repr, Inhabited

namespace ResourceRef

/-- References are ordered by kind and then by id. -/
instance : Ord ResourceRef := ⟨compareLex (compareOn kind) (compareOn id)⟩

instance : Std.TransOrd ResourceRef :=
  inferInstanceAs (Std.TransCmp (compareLex (compareOn kind) (compareOn id)))

instance : Std.LawfulEqOrd ResourceRef where
  eq_of_compare {a b} h := by
    obtain ⟨hk, hi⟩ := compareLex_eq_eq.1 (show compareLex (compareOn kind) (compareOn id) a b = .eq from h)
    cases a
    cases b
    exact congr (congrArg mk (Std.LawfulEqOrd.eq_of_compare hk)) (Std.LawfulEqOrd.eq_of_compare hi)

end ResourceRef

namespace ResourceKey

/-- Keys are ordered by backend, then by kind, then by id. -/
instance : Ord ResourceKey := ⟨compareLex (compareOn backend) (compareLex (compareOn kind) (compareOn id))⟩

instance : Std.TransOrd ResourceKey :=
  inferInstanceAs (Std.TransCmp
    (compareLex (compareOn backend) (compareLex (compareOn kind) (compareOn id))))

instance : Std.LawfulEqOrd ResourceKey where
  eq_of_compare {a b} h := by
    obtain ⟨hb, h⟩ := compareLex_eq_eq.1
      (show compareLex (compareOn backend) (compareLex (compareOn kind) (compareOn id)) a b = .eq from h)
    obtain ⟨hk, hi⟩ := compareLex_eq_eq.1 h
    cases a
    cases b
    exact congr (congr (congrArg mk (Std.LawfulEqOrd.eq_of_compare hb)) (Std.LawfulEqOrd.eq_of_compare hk))
      (Std.LawfulEqOrd.eq_of_compare hi)

/-- The part of a key that the backend itself knows. -/
def ref (k : ResourceKey) : ResourceRef := ⟨k.kind, k.id⟩

/-- The text of a key, its parts between colons. -/
def text (k : ResourceKey) : String := k.backend ++ ":" ++ k.kind.name ++ ":" ++ k.id

instance : ToString ResourceKey := ⟨text⟩

/-- Keys in ascending order. -/
def sort (keys : List ResourceKey) : List ResourceKey :=
  keys.mergeSort fun a b => (compare a b).isLE

end ResourceKey

end CloudLifecycle
