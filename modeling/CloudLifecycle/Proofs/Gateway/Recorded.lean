import CloudLifecycle.Gateway.Dispatch

/-!
# Recorded fleets

A fleet around another one that writes down every lookup and every call it is asked for. It answers as the other
one does and changes it in the same way (`dispatch_bare`, `finishAction_bare`), so that what the record shows of a
gateway's work holds of that work over any fleet, recorded or not.

A call is written down when it is sent off. Its landing is no further request: the backend was called before.
-/

namespace CloudLifecycle

/-- What a gateway asks of its fleet, as far as the backends notice. -/
inductive Ask where
  | lookup (key : ResourceKey)
  | call (call : Call)
  deriving DecidableEq, Repr

namespace Ask

/-- The resource that is looked up. -/
def key? : Ask → Option ResourceKey
  | lookup key => some key
  | call _ => none

/-- The call that is sent off. -/
def call? : Ask → Option Call
  | lookup _ => none
  | call c => some c

@[simp] theorem key?_lookup (key : ResourceKey) : (lookup key).key? = some key := rfl

@[simp] theorem key?_call (c : Call) : (call c).key? = none := rfl

@[simp] theorem call?_lookup (key : ResourceKey) : (lookup key).call? = none := rfl

@[simp] theorem call?_call (c : Call) : (call c).call? = some c := rfl

end Ask

/-- A fleet with the record of what it was asked, the earliest first. -/
structure Recorded (σ : Type) where
  fleet : σ
  record : List Ask

/-- The desk without the record. -/
def Desk.bare {σ : Type} (desk : Desk (Recorded σ)) : Desk σ := ⟨desk.guards, desk.fleet.fleet⟩

/-- A desk with an empty record. -/
def Desk.recording {σ : Type} (desk : Desk σ) : Desk (Recorded σ) := ⟨desk.guards, ⟨desk.fleet, []⟩⟩

section

variable {σ φ : Type} [Fleet σ φ]

instance : Fleet (Recorded σ) φ where
  capabilities r := Fleet.capabilities r.fleet
  find r key :=
    let (answer, fleet) := Fleet.find r.fleet key
    (answer, ⟨fleet, r.record ++ [.lookup key]⟩)
  launch r call :=
    let (sent, fleet) := Fleet.launch r.fleet call
    (sent, ⟨fleet, r.record ++ [.call call]⟩)
  land r flight :=
    let (answer, fleet) := Fleet.land r.fleet flight
    (answer, ⟨fleet, r.record⟩)

namespace Gateway

/-- What becomes of a call that is sent off on one desk and lands on another: the backend's answer, unless it has been
given up by then. -/
def reply (g : Gateway) (call : Call) (sent later : Desk σ) : Option (BackendResult Receipt) :=
  let (time, flight) := (Fleet.launch sent.fleet call).1
  if time ≤ g.timeout then some (Fleet.land later.fleet flight).1 else none

theorem reply_of_flight {g : Gateway} {call : Call} {sent : Desk σ} {flight : φ}
    (h : (g.call call sent).1.1 = some flight) (later : Desk σ) :
    g.reply call sent later = some (Fleet.land later.fleet flight).1 := by
  simp only [Gateway.call, apply_ite Prod.fst, Option.ite_none_right_eq_some, Option.some.injEq] at h
  obtain ⟨inTime, rfl⟩ := h
  exact if_pos inTime

theorem reply_of_givenUp {g : Gateway} {call : Call} {sent : Desk σ} (h : (g.call call sent).1.1 = none)
    (later : Desk σ) : g.reply call sent later = none := by
  simp only [Gateway.call, apply_ite Prod.fst, ite_eq_right_iff, reduceCtorEq, imp_false] at h
  exact if_neg h

theorem judge_bare (g : Gateway) (request : ActionRequest) (machine : Machine) (desk : Desk (Recorded σ)) :
    g.judge request machine desk.bare =
      ((g.judge request machine desk).1, (g.judge request machine desk).2.bare) := by
  cases h : g.admission desk.guards machine request (Fleet.find desk.fleet request.key).1 with
  | refused result =>
    have hb : g.admission desk.bare.guards machine request (Fleet.find desk.bare.fleet request.key).1 =
        .refused result := h
    rw [judge_of_refused h, judge_of_refused hb]
    rfl
  | admitted =>
    have hb : g.admission desk.bare.guards machine request (Fleet.find desk.bare.fleet request.key).1 =
        .admitted := h
    rw [judge_of_admitted h, judge_of_admitted hb]
    rfl

/-- A record changes nothing about the beginning of an action. -/
theorem dispatch_bare (g : Gateway) (request : ActionRequest) (desk : Desk (Recorded σ)) :
    g.dispatch request desk.bare = ((g.dispatch request desk).1, (g.dispatch request desk).2.bare) := by
  have he : g.enter request desk.bare.fleet = g.enter request desk.fleet := rfl
  unfold dispatch
  rw [he]
  cases g.enter request desk.fleet with
  | error result => rfl
  | ok machine => exact judge_bare g request machine desk

/-- A record changes nothing about the end of an action. -/
theorem finishAction_bare (g : Gateway) (request : ActionRequest) (flight : Option φ)
    (desk : Desk (Recorded σ)) :
    g.finishAction request flight desk.bare =
      ((g.finishAction request flight desk).1, (g.finishAction request flight desk).2.bare) := by
  cases flight <;> rfl

end Gateway

end

end CloudLifecycle
