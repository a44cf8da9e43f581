import CloudLifecycle.Action.Request
import CloudLifecycle.Action.Result
import CloudLifecycle.Backend.Fleet
import CloudLifecycle.Timestamp
import CloudLifecycle.Wire.Basic

/-!
# Wire forms of the gateway's records

Requests, results, keys and resources as JSON. What a result does not have is left out of its object.
-/

namespace CloudLifecycle

open Wire

instance : Wire ResourceKind := ⟨fun k => .str k.name, decodeChoice ResourceKind.ofName?⟩

instance : Wire LifecycleState := ⟨fun s => .str s.name, decodeChoice LifecycleState.ofName?⟩

instance : Wire ErrorCategory := ⟨fun c => .str c.name, decodeChoice ErrorCategory.ofName?⟩

instance : Wire SideEffect := ⟨fun e => .str e.name, decodeChoice SideEffect.ofName?⟩

instance : Wire CapabilitySet where
  encode c := .ofStrings c.toList
  decode j := (decode j : Option (List String)).map CapabilitySet.ofList

instance : Wire ResourceKey where
  encode k := .obj [("backend", encode k.backend), ("kind", encode k.kind), ("id", encode k.id)]
  decode j := do
    match ← fields? ["backend", "kind", "id"] j with
    | [backend, kind, id] => return ⟨← required backend, ← required kind, ← required id⟩
    | _ => none

instance : Wire Credentials where
  encode c := .obj [("user", encode c.user), ("password", encode c.password)]
  decode j := do
    match ← fields? ["user", "password"] j with
    | [user, password] => return ⟨← required user, ← required password⟩
    | _ => none

instance : Wire Operation where
  encode o := .obj [("kind", encode o.kind), ("action", encode o.action)]
  decode j := do
    match ← fields? ["kind", "action"] j with
    | [kind, action] => return ⟨← required kind, ← required action⟩
    | _ => none

instance : Wire Payload where
  encode p := .obj [("credentials", encode p.credentials), ("body", p.body)]
  decode j := do
    match ← fields? ["credentials", "body"] j with
    | [credentials, body] => return ⟨← required credentials, ← required body⟩
    | _ => none

instance : Wire Receipt where
  encode r := .obj [("id", encode r.id), ("raw_status", encode r.rawStatus)]
  decode j := do
    match ← fields? ["id", "raw_status"] j with
    | [id, raw] => return ⟨← required id, ← required raw⟩
    | _ => none

instance : Wire ActionRequest where
  encode r := .obj
    [("backend", encode r.backend), ("kind", encode r.kind), ("resource_id", encode r.resourceId),
      ("action", encode r.action), ("credentials", encode r.credentials), ("body", r.body)]
  decode j := do
    match ← fields? ["backend", "kind", "resource_id", "action", "credentials", "body"] j with
    | [backend, kind, id, action, credentials, body] =>
      return ⟨← required backend, ← required kind, ← required id, ← required action, ← required credentials,
        ← required body⟩
    | _ => none

instance : Wire CreateRequest where
  encode r := .obj
    [("backend", encode r.backend), ("kind", encode r.kind), ("credentials", encode r.credentials),
      ("body", r.body)]
  decode j := do
    match ← fields? ["backend", "kind", "credentials", "body"] j with
    | [backend, kind, credentials, body] =>
      return ⟨← required backend, ← required kind, ← required credentials, ← required body⟩
    | _ => none

instance : Wire ActionError where
  encode e := .obj
    [("category", encode e.category), ("side_effect", encode e.sideEffect), ("message", encode e.message)]
  decode j := do
    match ← fields? ["category", "side_effect", "message"] j with
    | [category, sideEffect, message] =>
      return ⟨← required category, ← required sideEffect, ← required message⟩
    | _ => none

instance : Wire ActionResult where
  encode r := .obj
    ([("success", encode r.success)] ++ member? "new_state" r.newState ++ [("status_hint", encode r.statusHint)] ++
      member? "resource_id" r.resourceId ++ member? "error" r.error)
  decode j := do
    match ← fields? ["success", "new_state", "status_hint", "resource_id", "error"] j with
    | [success, newState, statusHint, resourceId, error] =>
      return ⟨← required success, ← nullable newState, ← required statusHint, ← nullable resourceId,
        ← nullable error⟩
    | _ => none

/-- A resource together with the moments at which it was made and last changed, as it is stored and sent. -/
structure StoredResource where
  resource : Resource
  createdAt : Timestamp
  updatedAt : Timestamp

instance : Wire Timestamp where
  encode t := .str t.text
  decode
    | .str s => Timestamp.parse? s
    | _ => none

/-- Attributes, from an object. -/
def decodeAttributes : Option Json → Option (Std.ExtTreeMap String Json)
  | some (.obj members) => some (members.foldl (fun m a => m.insert a.1 a.2) ∅)
  | _ => none

/-- Attributes, in ascending order of their names. -/
def encodeAttributes (attributes : Std.ExtTreeMap String Json) : Json := .obj attributes.toList

instance : Wire StoredResource where
  encode s := .obj
    [("id", encode s.resource.id), ("kind", encode s.resource.kind), ("backend", encode s.resource.backend),
      ("raw_status", encode s.resource.rawStatus), ("attributes", encodeAttributes s.resource.attributes),
      ("created_at", encode s.createdAt), ("updated_at", encode s.updatedAt)]
  decode j := do
    match ← fields? ["id", "kind", "backend", "raw_status", "attributes", "created_at", "updated_at"] j with
    | [id, kind, backend, raw, attributes, createdAt, updatedAt] =>
      let resource : Resource :=
        ⟨← required id, ← required kind, ← required backend, ← required raw, ← decodeAttributes attributes⟩
      return ⟨resource, ← required createdAt, ← required updatedAt⟩
    | _ => none

end CloudLifecycle
