import CloudLifecycle.Config.Settings
import CloudLifecycle.Wire.Records

/-!
# What is sent comes back

Every record that travels is read back from its wire form as it was (`Wire.round_trips`). A record is read member by
member, so it comes back if the values of its fields do:

1. texts, numbers, choices and lists come back, and so does what may be absent, unless it would be written like nothing
   at all (`Lawful`, `NeverNull`);
2. of an object only the members with the names of the fields count (`Json.member?_cons`), and the object of a record has
   these;
3. a member that may be left out may as well be null, and in both cases there is nothing in its field (`Omissible`).
-/

namespace CloudLifecycle

/-! ## Members of objects -/

namespace Json

@[simp] theorem member?_nil (name : String) : (Json.obj []).member? name = none := rfl

@[simp] theorem member?_append (before after : List (String × Json)) (name : String) :
    (Json.obj (before ++ after)).member? name =
      ((Json.obj after).member? name).or ((Json.obj before).member? name) := by
  simp only [member?, List.reverse_append, List.find?_append, Option.map_or]

@[simp] theorem member?_cons (own name : String) (value : Json) (members : List (String × Json)) :
    (Json.obj ((own, value) :: members)).member? name =
      ((Json.obj members).member? name).or (if own = name then some value else none) := by
  rw [← List.singleton_append, member?_append]
  by_cases same : own = name <;> simp [member?, same]

end Json

namespace CapabilitySet

theorem contains_foldl_insert (names : List String) (c : CapabilitySet) (name : String) :
    (names.foldl insert c).contains name = true ↔ name ∈ names ∨ c.contains name = true := by
  induction names generalizing c with
  | nil => simp
  | cons head names ih =>
    rw [List.foldl_cons, ih, contains_insert, List.mem_cons, or_left_comm, or_assoc, eq_comm]

theorem contains_ofList (names : List String) (name : String) : (ofList names).contains name = true ↔ name ∈ names := by
  rw [ofList, contains_foldl_insert]
  simp [empty, contains]

theorem mem_toList {c : CapabilitySet} {name : String} : name ∈ c.toList ↔ c.contains name = true := by
  simp [toList, contains]

theorem ext {c c' : CapabilitySet} (same : ∀ name, c.contains name = true ↔ c'.contains name = true) : c = c' := by
  cases c
  cases c'
  exact congrArg mk (Std.ExtTreeSet.ext_mem fun name => same name)

/-- A set is made of its names again. -/
theorem ofList_toList (c : CapabilitySet) : ofList c.toList = c :=
  ext fun name => (contains_ofList c.toList name).trans mem_toList

theorem pairwise_toList (c : CapabilitySet) : c.toList.Pairwise (· < ·) := by
  have ordered : c.toList.Pairwise fun a b => compare a b = .lt := Std.ExtTreeSet.ordered_toList
  exact ordered.imp compareOfLessAndEq_eq_lt.mp

end CapabilitySet

namespace Wire

/-! ## Plain values -/

/-- A type whose values are read back from their wire forms. -/
class Lawful (α : Type) [Wire α] : Prop where
  decode_encode : ∀ a : α, decode (encode a) = some a

/-- A type with a value in every wire form, so that none is taken for an absent one. -/
class NeverNull (α : Type) [Wire α] : Prop where
  encode_ne_null : ∀ a : α, encode a ≠ Json.null

export Lawful (decode_encode)
export NeverNull (encode_ne_null)

instance : Lawful Json := ⟨fun _ => rfl⟩

instance : Lawful String := ⟨decode_string⟩

instance : Lawful Bool := ⟨decode_bool⟩

instance : Lawful UInt16 where
  decode_encode n := by
    have fits : decodeNat UInt16.size (.int n.toNat) = some n.toNat := decodeNat_ofNat n.toNat_lt
    calc decode (encode n) = (decodeNat UInt16.size (.int n.toNat)).map UInt16.ofNat := rfl
      _ = some n := by rw [fits, Option.map_some, UInt16.ofNat_toNat]

instance : Lawful UInt32 where
  decode_encode n := by
    have fits : decodeNat UInt32.size (.int n.toNat) = some n.toNat := decodeNat_ofNat n.toNat_lt
    calc decode (encode n) = (decodeNat UInt32.size (.int n.toNat)).map UInt32.ofNat := rfl
      _ = some n := by rw [fits, Option.map_some, UInt32.ofNat_toNat]

instance : Lawful UInt64 where
  decode_encode n := by
    have fits : decodeNat UInt64.size (.int n.toNat) = some n.toNat := decodeNat_ofNat n.toNat_lt
    calc decode (encode n) = (decodeNat UInt64.size (.int n.toNat)).map UInt64.ofNat := rfl
      _ = some n := by rw [fits, Option.map_some, UInt64.ofNat_toNat]

instance {α : Type} [Wire α] [Lawful α] : Lawful (List α) := ⟨decode_list decode_encode⟩

instance : NeverNull String := ⟨nofun⟩

theorem decode_some {α : Type} [Wire α] [Lawful α] [NeverNull α] (a : α) :
    (decode (encode a) : Option (Option α)) = some (some a) := by
  have back := decode_encode a
  have there := encode_ne_null a
  generalize encode a = j at back there ⊢
  cases j with
  | null => exact absurd rfl there
  | bool | int | str | arr | obj => exact congrArg (Option.map some) back

instance {α : Type} [Wire α] [Lawful α] [NeverNull α] : Lawful (Option α) where
  decode_encode
    | none => rfl
    | some a => decode_some a

/-! ## Choices -/

instance : Lawful ResourceKind := ⟨ResourceKind.ofName?_name⟩

instance : Lawful LifecycleState := ⟨LifecycleState.ofName?_name⟩

instance : Lawful ErrorCategory := ⟨ErrorCategory.ofName?_name⟩

instance : Lawful SideEffect := ⟨SideEffect.ofName?_name⟩

instance : NeverNull LifecycleState := ⟨nofun⟩

instance : Lawful CapabilitySet where
  decode_encode c := by
    calc decode (encode c) = (decode (encode c.toList) : Option (List String)).map CapabilitySet.ofList := rfl
      _ = some c := by rw [decode_encode, Option.map_some, CapabilitySet.ofList_toList]

/-! ## Fields -/

@[simp] theorem required_encode {α : Type} [Wire α] [Lawful α] (a : α) : required (some (encode a)) = some a := decode_encode a

@[simp] theorem defaulting_encode {α : Type} [Wire α] [Lawful α] (a default : α) :
    defaulting default (some (encode a)) = some a := decode_encode a

@[simp] theorem nullable_encode {α : Type} [Wire α] [Lawful α] [NeverNull α] (o : Option α) :
    nullable (o.map encode) = some o := by
  cases o with
  | none => rfl
  | some a => exact decode_some a

@[simp] theorem nullable_encode_option {α : Type} [Wire α] [Lawful α] [NeverNull α] (o : Option α) :
    nullable (some (encode o)) = some o := decode_encode o

@[simp] theorem member?_member? {α : Type} [Wire α] (own name : String) (o : Option α) :
    (Json.obj (member? own o)).member? name = if own = name then o.map encode else none := by
  cases o with
  | none => exact (ite_self none).symm
  | some a => exact (Json.member?_cons own name (encode a) []).trans (Option.none_or)

/-! ## Records -/

instance : Lawful ResourceKey where
  decode_encode k := by
    calc decode (encode k) = (do
          return ⟨← required (some (encode k.backend)), ← required (some (encode k.kind)),
            ← required (some (encode k.id))⟩) := rfl
      _ = some k := by simp only [required_encode]; rfl

instance : Lawful Credentials where
  decode_encode c := by
    calc decode (encode c) = (do
          return ⟨← required (some (encode c.user)), ← required (some (encode c.password))⟩) := rfl
      _ = some c := by simp only [required_encode]; rfl

instance : Lawful Operation where
  decode_encode o := by
    calc decode (encode o) = (do
          return ⟨← required (some (encode o.kind)), ← required (some (encode o.action))⟩) := rfl
      _ = some o := by simp only [required_encode]; rfl

instance : Lawful Payload where
  decode_encode p := by
    calc decode (encode p) = (do
          return ⟨← required (some (encode p.credentials)), ← required (some (encode p.body))⟩) := rfl
      _ = some p := by simp only [required_encode]; rfl

instance : Lawful Receipt where
  decode_encode r := by
    calc decode (encode r) = (do
          return ⟨← required (some (encode r.id)), ← required (some (encode r.rawStatus))⟩) := rfl
      _ = some r := by simp only [required_encode]; rfl

instance : Lawful ActionRequest where
  decode_encode r := by
    calc decode (encode r) = (do
          return ⟨← required (some (encode r.backend)), ← required (some (encode r.kind)),
            ← required (some (encode r.resourceId)), ← required (some (encode r.action)),
            ← required (some (encode r.credentials)), ← required (some (encode r.body))⟩) := rfl
      _ = some r := by simp only [required_encode]; rfl

instance : Lawful CreateRequest where
  decode_encode r := by
    calc decode (encode r) = (do
          return ⟨← required (some (encode r.backend)), ← required (some (encode r.kind)),
            ← required (some (encode r.credentials)), ← required (some (encode r.body))⟩) := rfl
      _ = some r := by simp only [required_encode]; rfl

instance : Lawful ActionError where
  decode_encode e := by
    calc decode (encode e) = (do
          return ⟨← required (some (encode e.category)), ← required (some (encode e.sideEffect)),
            ← required (some (encode e.message))⟩) := rfl
      _ = some e := by simp only [required_encode]; rfl

instance : NeverNull ActionError := ⟨nofun⟩

/-! ## Settings -/

/-- How an object is read as the settings of calls. -/
theorem decode_dispatch (members : List (String × Json)) :
    (decode (.obj members) : Option DispatchSettings) = (do
      return ⟨← defaulting DispatchSettings.standard.backendTimeoutMs
        ((Json.obj members).member? "backend_timeout_ms")⟩) := rfl

/-- How an object is read as the settings of convergences. -/
theorem decode_convergence (members : List (String × Json)) :
    (decode (.obj members) : Option ConvergenceSettings) = (do
      return ⟨← defaulting ConvergenceSettings.standard.maxAttempts ((Json.obj members).member? "max_attempts"),
        ← defaulting ConvergenceSettings.standard.pollIntervalMs
          ((Json.obj members).member? "poll_interval_ms")⟩) := rfl

/-- How an object is read as a configuration. -/
theorem decode_config (members : List (String × Json)) :
    (decode (.obj members) : Option GatewayConfig) = (do
      return ⟨← nullable ((Json.obj members).member? "default_backend"),
        ← defaulting .standard ((Json.obj members).member? "dispatch"),
        ← defaulting .standard ((Json.obj members).member? "convergence"),
        ← defaulting GatewayConfig.standard.backends ((Json.obj members).member? "backends")⟩) := rfl

instance : Lawful DispatchSettings where
  decode_encode d := (decode_dispatch _).trans (by simp)

instance : Lawful ConvergenceSettings where
  decode_encode c := (decode_convergence _).trans (by simp)

/-! ## Fields that may be left out -/

/-- A field of a record that may be left out. It is left out if there is nothing in it; an object without it is read like
one that gives it as null; and from neither is anything read into it. -/
structure Omissible {α β : Type} [Wire α] (name : String) (value : α → Option β) : Prop where
  leftOut : ∀ a, value a = none → (encode a).member? name = none
  alike : ∀ members, (Json.obj members).member? name = none →
    (decode (.obj (members ++ [(name, .null)])) : Option α) = decode (.obj members)
  nothing : ∀ members a, (Json.obj members).member? name = none ∨ (Json.obj members).member? name = some .null →
    decode (.obj members) = some a → value a = none

/-- How an object is read as a result. -/
theorem decode_result (members : List (String × Json)) :
    (decode (.obj members) : Option ActionResult) = (do
      return ⟨← required ((Json.obj members).member? "success"), ← nullable ((Json.obj members).member? "new_state"),
        ← required ((Json.obj members).member? "status_hint"), ← nullable ((Json.obj members).member? "resource_id"),
        ← nullable ((Json.obj members).member? "error")⟩) := rfl

/-- How an object is read as a backend of a configuration. -/
theorem decode_backend (members : List (String × Json)) :
    (decode (.obj members) : Option BackendEntry) = (do
      return ⟨← required ((Json.obj members).member? "id"), ← required ((Json.obj members).member? "profile"),
        ← nullable ((Json.obj members).member? "display_name")⟩) := rfl

instance : Lawful ActionResult where
  decode_encode r := (decode_result _).trans (by simp)

instance : Lawful BackendEntry where
  decode_encode b := (decode_backend _).trans (by simp)

instance : Lawful GatewayConfig where
  decode_encode c := (decode_config _).trans (by simp)

theorem nullable_of_null {β : Type} [Wire β] {o : Option Json} (h : o = none ∨ o = some .null) :
    nullable o = some (none : Option β) := by
  rcases h with rfl | rfl <;> rfl

theorem eq_none_of_null {β : Type} [Wire β] {o : Option Json} {value : Option β} (h : o = none ∨ o = some .null)
    (read : nullable o = some value) : value = none :=
  Option.some.inj (read.symm.trans (nullable_of_null h))

/-- What is read into the fields of a result that may be absent. -/
theorem nullables_of_result {members : List (String × Json)} {r : ActionResult} (read : decode (.obj members) = some r) :
    nullable ((Json.obj members).member? "new_state") = some r.newState ∧
      nullable ((Json.obj members).member? "resource_id") = some r.resourceId ∧
      nullable ((Json.obj members).member? "error") = some r.error := by
  simp only [decode_result, Option.bind_eq_bind, Option.bind_eq_some_iff] at read
  obtain ⟨_, _, _, newState, _, _, _, resourceId, _, error, built⟩ := read
  cases built
  exact ⟨newState, resourceId, error⟩

theorem nullable_of_backend {members : List (String × Json)} {b : BackendEntry} (read : decode (.obj members) = some b) :
    nullable ((Json.obj members).member? "display_name") = some b.displayName := by
  simp only [decode_backend, Option.bind_eq_bind, Option.bind_eq_some_iff] at read
  obtain ⟨_, _, _, _, _, displayName, built⟩ := read
  cases built
  exact displayName

theorem omissible_newState : Omissible "new_state" ActionResult.newState where
  leftOut r nothing := by
    show (Json.obj _).member? _ = _
    simp [nothing]
  alike members absent := by
    simp [decode_result, nullable_of_null (.inl absent), nullable_of_null (.inr rfl)]
  nothing members r h read := eq_none_of_null h (nullables_of_result read).1

theorem omissible_resourceId : Omissible "resource_id" ActionResult.resourceId where
  leftOut r nothing := by
    show (Json.obj _).member? _ = _
    simp [nothing]
  alike members absent := by
    simp [decode_result, nullable_of_null (.inl absent), nullable_of_null (.inr rfl)]
  nothing members r h read := eq_none_of_null h (nullables_of_result read).2.1

theorem omissible_error : Omissible "error" ActionResult.error where
  leftOut r nothing := by
    show (Json.obj _).member? _ = _
    simp [nothing]
  alike members absent := by
    simp [decode_result, nullable_of_null (.inl absent), nullable_of_null (.inr rfl)]
  nothing members r h read := eq_none_of_null h (nullables_of_result read).2.2

theorem omissible_displayName : Omissible "display_name" BackendEntry.displayName where
  leftOut b nothing := by
    show (Json.obj _).member? _ = _
    simp [nothing]
  alike members absent := by
    simp [decode_backend, nullable_of_null (.inl absent), nullable_of_null (.inr rfl)]
  nothing members b h read := eq_none_of_null h (nullable_of_backend read)

/-- **What is sent comes back.** Whatever the texts, numbers, bodies and choices in them are, and whatever is absent:

1. requests, payloads, results and their errors, operations, keys, receipts, credentials, sets of capabilities, and
   configurations with their backends are read back from their wire forms as they were;
2. a field that is left out when there is nothing in it may as well be null, and either way nothing is read into it;
3. a set of capabilities travels as the list of its names, in strictly ascending order. -/
theorem round_trips :
    ((∀ r : ActionRequest, decode (encode r) = some r) ∧
      (∀ r : CreateRequest, decode (encode r) = some r) ∧
      (∀ p : Payload, decode (encode p) = some p) ∧
      (∀ r : ActionResult, decode (encode r) = some r) ∧
      (∀ e : ActionError, decode (encode e) = some e) ∧
      (∀ o : Operation, decode (encode o) = some o) ∧
      (∀ k : ResourceKey, decode (encode k) = some k) ∧
      (∀ r : Receipt, decode (encode r) = some r) ∧
      (∀ c : Credentials, decode (encode c) = some c) ∧
      (∀ c : CapabilitySet, decode (encode c) = some c) ∧
      (∀ b : BackendEntry, decode (encode b) = some b) ∧
      ∀ c : GatewayConfig, decode (encode c) = some c) ∧
    (Omissible "new_state" ActionResult.newState ∧ Omissible "resource_id" ActionResult.resourceId ∧
      Omissible "error" ActionResult.error ∧ Omissible "display_name" BackendEntry.displayName) ∧
    ∀ c : CapabilitySet, ∃ names : List String, encode c = .arr (names.map .str) ∧ names.Pairwise (· < ·) ∧
      ∀ name, name ∈ names ↔ c.contains name = true := by
  refine ⟨?_, ⟨omissible_newState, omissible_resourceId, omissible_error, omissible_displayName⟩, fun c => ?_⟩
  · exact ⟨decode_encode, decode_encode, decode_encode, decode_encode, decode_encode, decode_encode, decode_encode,
      decode_encode, decode_encode, decode_encode, decode_encode, decode_encode⟩
  · exact ⟨c.toList, rfl, c.pairwise_toList, fun _ => CapabilitySet.mem_toList⟩

end Wire

end CloudLifecycle
