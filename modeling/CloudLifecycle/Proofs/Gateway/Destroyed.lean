import CloudLifecycle.Backend.Builtin
import CloudLifecycle.Proofs.Gateway.Resting

/-!
# Destroyed resources

A destroyed resource does not always stay destroyed. Two things may still move it (`Restless.moves_again`):

1. while it is under guard it counts as pending, and a server or a system that is pending may be destroyed, once more
   if need be; what the backend reports then need not be the status that it had;
2. a call that was sent off before the resource was destroyed may land afterwards.

Apart from these it does (`destroyed_rests`): without a call on its way, nothing moves the resource before an action
gets through to it, and no other can than one that destroys it while it is under guard.
-/

namespace CloudLifecycle

open Gateway

/-- The resource to which an action gets through with an event. -/
def Event.reached? : Event → Option ResourceKey
  | .reached request => some request.key
  | .acted _ _ | .provisioned _ _ | .claimed _ | .refused _ | .ended _ _ | .stated _ _ | .listed _ _ | .cleared _ _ => none

/-! ## Actions that do not get through -/

namespace Traffic

variable {g : Gateway} {t : Traffic (Recorded Park) Flight} {move : Move (Recorded Park)}

/-- Before a park of simulated backends an action about which no call is on its way ends with a precondition that does
not hold. -/
theorem Orderly.precondition (orderly : Orderly g t) {request : ActionRequest} {result : ActionResult}
    (shown : (Traffic.step g move t).1 = some (.acted request result))
    (idle : ∀ job ∈ t.jobs, job.call?.bind Call.key? ≠ some request.key) :
    ∃ category, result.category? = some category ∧ category.isPrecondition = true := by
  rcases cases_of_acted shown with barred | ⟨_, _, _, _, refused⟩ | ⟨_, _, _, at_place, _⟩
  · exact (refusal_of_enter barred).2
  · exact (refusal_of_admission refused).2 (orderly.simulated.finds request.key).ne_error
  · exact absurd rfl (idle _ (List.mem_of_getElem? at_place))

/-- **Destroyed resources.** Before a park of simulated backends that do not change by themselves, with the standard
machines and whatever else goes on: a resource has come to a status that is terminal for its machine and from which its
profile does not move on, no call about it is on its way, and no new resource gets its id. Then

1. as long as no action on it gets through, its status does not change, its backend receives no call about it, and
   every action on it ends with a precondition that does not hold;
2. the first action that gets through, if any does, is one that destroys a server or a system which is under guard
   at that time.

The answer of the lookup for an action, the judgement on it and the call are one step of a run (`Gateway.judge`). So this
does not speak of an action that is held up between these, and is sent off when another one has destroyed the resource
meanwhile. -/
theorem destroyed_rests (g : Gateway) (standard : g.catalog = .standard) (desk : Desk (Recorded Park))
    (simulated : desk.fleet.fleet.Simulated) (earlier later : List (Move (Recorded Park)))
    (calm : ∀ move ∈ earlier ++ later, move.isDrift = false) (key : ResourceKey) (profile : Profile) (raw : String)
    (machine : Machine)
    (plays : (run g earlier (begin desk)).2.desk.fleet.fleet.profile? key.backend = some profile)
    (held : (run g earlier (begin desk)).2.desk.fleet.fleet.rawStatus? key = some raw)
    (still : profile.nextStatus? raw = none) (found : g.catalog.get? key.kind = some machine)
    (terminal : machine.isTerminal (g.normalizer.normalize key.backend raw) = true)
    (idle : ∀ job ∈ (run g earlier (begin desk)).2.jobs, job.call?.bind Call.key? ≠ some key)
    (unmade : ∀ event ∈ (run g later (run g earlier (begin desk)).2).1, event.made? ≠ some key) :
    let t := (run g earlier (begin desk)).2
    let events := (run g later t).1
    let t' := (run g later t).2
    ((∀ event ∈ events, event.reached? ≠ some key) →
      t'.desk.fleet.fleet.rawStatus? key = some raw ∧
      (∃ asked, t'.desk.fleet.record = t.desk.fleet.record ++ asked ∧
        ∀ call ∈ asked.filterMap Ask.call?, call.key? ≠ some key) ∧
      ∀ request result, .acted request result ∈ events → request.key = key →
        ∃ category, result.category? = some category ∧ category.isPrecondition = true) ∧
    ∀ before request after, events = before ++ .reached request :: after → request.key = key →
      (∀ event ∈ before, event.reached? ≠ some key) →
        request.action = "destroy" ∧ (key.kind = .server ∨ key.kind = .system) ∧
        ∃ moves, moves <+: later ∧ (run g moves t).1 = before ∧
          (run g moves t).2.desk.guards.get? key = some .converging := by
  intro t events t'
  obtain ⟨calm_earlier, calm_later⟩ := List.forall_mem_append.mp calm
  have orderly : Orderly g t := ((Orderly.of_begin simulated).run calm_earlier).1
  have final : Final g key profile raw fun _ => False := ⟨still, ⟨machine, found, terminal⟩, nofun⟩
  have rests : Rests key profile raw (fun _ => False) t :=
    ⟨plays, held, fun job mem about => absurd about (idle job mem)⟩
  refine ⟨fun unreached => ?_, ?_⟩
  · obtain ⟨rests', asked, recorded, calls⟩ := rests.run final orderly standard calm_later unmade
      fun request mem on _ => unreached _ mem (congrArg some on)
    refine ⟨rests'.held, ⟨asked, recorded, fun call mem about => ?_⟩, ?_⟩
    · obtain ⟨_, no, _⟩ := calls call mem about
      exact no
    · rintro request result mem rfl
      obtain ⟨before, after, split⟩ := List.append_of_mem mem
      obtain ⟨moves, move, _, _, shown, orderly', rests''⟩ := rests.at_event final orderly standard calm_later unmade
        split fun request' mem' on _ =>
          unreached (.reached request') (by rw [split]; exact List.mem_append_left _ mem') (congrArg some on)
      refine orderly'.precondition shown fun job there about => ?_
      obtain ⟨_, _, _, no⟩ := rests''.calls job there about
      exact no
  · intro before request after split on unreached
    obtain ⟨moves, move, part, seen, shown, orderly', rests'⟩ :=
      rests.at_event final orderly standard calm_later unmade split fun request' mem on' _ =>
        unreached _ mem (congrArg some on')
    obtain ⟨guarded, destroys, kind⟩ := rests'.reached final orderly' standard shown on
    exact ⟨destroys, kind, moves, part, seen, guarded⟩

end Traffic

/-! ## Resources that move again -/

namespace Restless

open Solo

/-- A backend that reports the progress of operations. -/
def progressive : SimulatedBackend := .new .paci

/-- The server is destroyed under guard, and the look for an action that is refused shows the end of that. -/
def destroyed : List (Move (Recorded Park)) :=
  [order progressive, .resume 0] ++ (ask progressive "destroy" ++ [.resume 1]) ++ ask progressive "start"

/-- A backend whose calls take their time, and which starts its servers in the end. -/
def slow : SimulatedBackend :=
  (SimulatedBackend.new (Profile.mock.reporting "post_create" "running")).withLatency (.ofMillis 100)

/-- While the call that destroys the server is on its way, its convergence finds that it has come up, and sends off the
call that finishes it. The former lands first. -/
def overtaken : List (Move (Recorded Park)) := [order slow, .resume 0, .resume 0] ++ ask slow "destroy" ++ [.resume 0, .resume 1]

/-- Two servers are destroyed, in a status from which nothing leads away, and yet both move again: the one because it is
destroyed once more under its guard, the other without any further request. -/
theorem moves_again :
    (let t := (Traffic.run (gateway progressive) destroyed (.begin (desk progressive))).2
      let t' := (Traffic.run (gateway progressive) (ask progressive "destroy" ++ [.resume 1]) t).2
      t.desk.fleet.fleet.rawStatus? (server progressive) = some "DELETED" ∧
        progressive.profile.nextStatus? "DELETED" = none ∧
        (gateway progressive).normalizer.normalize progressive.profile.id "DELETED" = .finish ∧
        t.desk.guards.get? (server progressive) = some .converging ∧
        t'.desk.fleet.record.filterMap Ask.call? =
          t.desk.fleet.record.filterMap Ask.call? ++ [actionCall (request progressive "destroy")] ∧
        t'.desk.fleet.fleet.rawStatus? (server progressive) = some "DELETE_IN_PROGRESS") ∧
    (let t := (Traffic.run (gateway slow) overtaken (.begin (desk slow))).2
      let t' := (Traffic.run (gateway slow) [.resume 0] t).2
      t.desk.fleet.fleet.rawStatus? (server slow) = some "deleted" ∧
        slow.profile.nextStatus? "deleted" = none ∧
        (gateway slow).normalizer.normalize slow.profile.id "deleted" = .finish ∧
        t'.desk.fleet.fleet.rawStatus? (server slow) = some "running") ∧
    (Catalog.standard.get? .server).map (·.isTerminal .finish) = some true := by
  decide +kernel

/-- The machine for servers. -/
def machine : Machine := (Catalog.standard.get? .server).get (by decide)

/-- A backend that destroys at once. -/
def prompt : SimulatedBackend := .new .mock

/-- The server is destroyed under guard. -/
def struck : List (Move (Recorded Park)) := [order prompt, .resume 0] ++ (ask prompt "destroy" ++ [.resume 1])

/-- A server that was destroyed under guard is not started any more. -/
theorem stays_deleted :
    let t := (Traffic.run (gateway prompt) struck (.begin (desk prompt))).2
    t.desk.guards.get? (server prompt) = some .converging ∧
      t.desk.fleet.fleet.rawStatus? (server prompt) = some "deleted" ∧
      (Traffic.run (gateway prompt) (ask prompt "start") t).2.desk.fleet.fleet.rawStatus? (server prompt) =
        some "deleted" := by
  have reached : (let t := (Traffic.run (gateway prompt) struck (.begin (desk prompt))).2
      t.desk.guards.get? (server prompt) = some .converging ∧
      t.desk.fleet.fleet.profile? "mock" = some prompt.profile ∧
      t.desk.fleet.fleet.rawStatus? (server prompt) = some "deleted" ∧
      (∀ job ∈ t.jobs, job.call?.bind Call.key? ≠ some (server prompt)) ∧
      (∀ event ∈ (Traffic.run (gateway prompt) (ask prompt "start") t).1,
        event.made? ≠ some (server prompt) ∧ event.reached? ≠ some (server prompt)) ∧
      machine.isTerminal ((gateway prompt).normalizer.normalize "mock" "deleted") = true) := by
    decide +kernel
  obtain ⟨guarded, plays, held, idle, later, terminal⟩ := reached
  refine ⟨guarded, held, ?_⟩
  have rests := Traffic.destroyed_rests (gateway prompt) rfl (desk prompt) (simulated_park prompt) struck
    (ask prompt "start") (by decide) (server prompt) prompt.profile "deleted" machine plays held (by decide)
    (Option.some_get _).symm terminal idle fun event mem => (later event mem).1
  exact (rests.1 fun event mem => (later event mem).2).1

end Restless

end CloudLifecycle
