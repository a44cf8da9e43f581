import CloudLifecycle.Lifecycle.Machine

/-!
# The catalog of machines

At most one machine for each kind, and the machines that the gateway uses where nothing else is said: servers,
systems, networks and load balancers have one, images and volumes have none.
-/

namespace CloudLifecycle

/-- The machines by kind. -/
structure Catalog where
  machines : Std.ExtTreeMap ResourceKind Machine

namespace Catalog

/-- No machine at all. -/
def empty : Catalog := ⟨∅⟩

instance : Inhabited Catalog := ⟨empty⟩

/-- The catalog with one more machine, in place of any for its kind. -/
def insert (c : Catalog) (m : Machine) : Catalog := ⟨c.machines.insert m.kind m⟩

/-- The catalog of some machines. -/
def ofList (ms : List Machine) : Catalog := ms.foldl insert empty

/-- The machine for a kind. -/
def get? (c : Catalog) (kind : ResourceKind) : Option Machine := c.machines[kind]?

/-- The kinds that have a machine, in their usual order. -/
def kinds (c : Catalog) : List ResourceKind := c.machines.keys

theorem get?_insert (c : Catalog) (m : Machine) (kind : ResourceKind) :
    (c.insert m).get? kind = if m.kind = kind then some m else c.get? kind := by
  simp [insert, get?, Std.ExtTreeMap.getElem?_insert]

end Catalog

namespace Lifecycle

/-- Servers come up stopped, and may be destroyed before they have come up. -/
def serverDraft : MachineDraft :=
  MachineDraft.start .server .start
    |>.on .start "create" .pending
    |>.automatically .pending .stopped
    |>.on .pending "destroy" .finish
    |>.on .stopped "start" .running
    |>.on .running "reboot" .running
    |>.on .running "stop" .stopping
    |>.automatically .stopping .stopped
    |>.on .stopped "destroy" .finish

/-- Systems may in addition be paused and suspended. -/
def systemDraft : MachineDraft :=
  MachineDraft.start .system .start
    |>.on .start "create" .pending
    |>.automatically .pending .stopped
    |>.on .pending "destroy" .finish
    |>.on .stopped "start" .running
    |>.on .running "restart" .running
    |>.on .running "stop" .stopping
    |>.automatically .stopping .stopped
    |>.on .running "pause" .paused
    |>.on .paused "start" .running
    |>.on .running "suspend" .suspended
    |>.on .suspended "start" .running
    |>.on .stopped "destroy" .finish

/-- Networks stop at once. -/
def networkDraft : MachineDraft :=
  MachineDraft.start .network .start
    |>.on .start "create" .pending
    |>.automatically .pending .stopped
    |>.on .stopped "start" .running
    |>.on .running "stop" .stopped
    |>.on .running "suspend" .suspended
    |>.on .suspended "start" .running
    |>.on .stopped "destroy" .finish

/-- Load balancers come up running and never stop. -/
def loadBalancerDraft : MachineDraft :=
  MachineDraft.start .loadBalancer .start
    |>.on .start "create" .pending
    |>.automatically .pending .running
    |>.on .running "register" .running
    |>.on .running "unregister" .running
    |>.on .running "destroy" .finish

/-- The machine of a draft that has no fault; a draft with one has none. -/
def machines (drafts : List MachineDraft) : List Machine :=
  drafts.filterMap fun d => (Machine.build d).toOption

/-- The drafts of the standard machines. -/
def standardDrafts : List MachineDraft := [serverDraft, systemDraft, networkDraft, loadBalancerDraft]

end Lifecycle

/-- The standard machines. -/
def Catalog.standard : Catalog := .ofList (Lifecycle.machines Lifecycle.standardDrafts)

end CloudLifecycle
