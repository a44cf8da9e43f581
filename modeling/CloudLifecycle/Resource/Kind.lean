import CloudLifecycle.Text.Blank
import CloudLifecycle.Text.LetterCase
import Std.Data.ExtTreeMap

/-!
# Kinds of resources

What a backend manages falls into six kinds. Each has one name in small letters; a reader may write it in
any case, with dashes for underscores and with blanks around it.
-/

namespace CloudLifecycle

/-- The category of a managed resource. -/
inductive ResourceKind where
  /-- A virtual server, written `instance`. -/
  | server
  | image
  | network
  | volume
  | system
  | loadBalancer
  deriving DecidableEq, Repr, Inhabited

namespace ResourceKind

/-- Every kind, in its usual order. -/
def all : List ResourceKind := [server, image, network, volume, system, loadBalancer]

/-- The place of a kind in `all`. -/
def index : ResourceKind → Nat
  | server => 0
  | image => 1
  | network => 2
  | volume => 3
  | system => 4
  | loadBalancer => 5

/-- The name under which a kind is written. -/
def name : ResourceKind → String
  | server => "instance"
  | image => "image"
  | network => "network"
  | volume => "volume"
  | system => "system"
  | loadBalancer => "load_balancer"

/-- The word for a kind in diagnostics. -/
def word : ResourceKind → String
  | server => "Instance"
  | image => "Image"
  | network => "Network"
  | volume => "Volume"
  | system => "System"
  | loadBalancer => "LoadBalancer"

instance : ToString ResourceKind := ⟨name⟩

theorem mem_all (k : ResourceKind) : k ∈ all := by cases k <;> decide

theorem index_inj {k l : ResourceKind} (h : k.index = l.index) : k = l := by
  cases k <;> cases l <;> simp_all [index]

theorem name_inj {k l : ResourceKind} (h : k.name = l.name) : k = l := by
  cases k <;> cases l <;> first | rfl | exact absurd h (by decide)

/-- Kinds are ordered by their place in `all`. -/
instance : Ord ResourceKind := ⟨compareOn index⟩

instance : Std.TransOrd ResourceKind := inferInstanceAs (Std.TransCmp (compareOn index))

instance : Std.LawfulEqOrd ResourceKind where
  eq_of_compare {k l} h := index_inj (Std.LawfulEqOrd.eq_of_compare (a := k.index) (b := l.index) h)

/-- The kind that is named so exactly. -/
def ofName? (s : String) : Option ResourceKind := all.find? (·.name = s)

theorem ofName?_name (k : ResourceKind) : ofName? k.name = some k := by cases k <;> decide

end ResourceKind

/-- A text that names no kind. -/
structure UnknownKind where
  text : String
  deriving DecidableEq, Repr

/-- What a reader is told about a text that names no kind. -/
def UnknownKind.message (e : UnknownKind) : String := "Unknown resource kind: " ++ e.text

namespace ResourceKind

/-- A text as the names are compared: trimmed, in small letters, with underscores for dashes. -/
def foldName (s : String) : String :=
  String.ofList ((Text.asciiLower (Text.trim s)).toList.map fun c => if c = '-' then '_' else c)

/-- Reads a kind. -/
def parse (s : String) : Except UnknownKind ResourceKind :=
  match ofName? (foldName s) with
  | some k => .ok k
  | none => .error ⟨s⟩

end ResourceKind

end CloudLifecycle
