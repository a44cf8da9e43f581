import CloudLifecycle.Backend.Profile
import CloudLifecycle.Text.Lowercase

/-!
# Built-in profiles

Three families of backends: PACI, which reports the progress of operations; vCloud, which reports power states as
numbers; and a plain one for trying the gateway out.
-/

namespace CloudLifecycle

namespace Profile

/-- The status words of PACI. -/
def paciTable : StatusTable :=
  StatusTable.empty
    |>.map "CREATE" .start
    |>.map "CREATION_IN_PROGRESS" .pending
    |>.map "CREATED" .stopped
    |>.mapAll ["START_IN_PROGRESS", "STARTED"] .running
    |>.map "STOP_IN_PROGRESS" .stopping
    |>.map "STOPPED" .stopped
    |>.map "DELETE_IN_PROGRESS" .stopping
    |>.map "DELETED" .finish

/-- PACI. -/
def paci : Profile :=
  new "paci" "PACI" paciTable
    |>.supports .server ["create", "start", "stop", "destroy"]
    |>.supports .loadBalancer ["create", "register", "unregister", "destroy"]
    |>.createdAs "CREATION_IN_PROGRESS"
    |>.createdKindAs .loadBalancer "STARTED"
    |>.progress "CREATION_IN_PROGRESS" "CREATED"
    |>.progress "START_IN_PROGRESS" "STARTED"
    |>.progress "STOP_IN_PROGRESS" "STOPPED"
    |>.progress "DELETE_IN_PROGRESS" "DELETED"
    |>.reporting "start" "START_IN_PROGRESS"
    |>.reporting "stop" "STOP_IN_PROGRESS"
    |>.reporting "destroy" "DELETE_IN_PROGRESS"
    |>.reporting "register" "STARTED"
    |>.reporting "unregister" "STARTED"

/-- The status words of vCloud, of which only two numbers keep their meaning. -/
def vcloudTable : StatusTable :=
  StatusTable.empty
    |>.mapAll ["4", "POWERED_ON"] .running
    |>.mapAll ["8", "POWERED_OFF"] .stopped
    |>.map "DELETED" .finish
    |>.withFallback .pending

/-- vCloud. -/
def vcloud : Profile :=
  new "vcloud" "VMware vCloud" vcloudTable
    |>.supports .server ["create", "start", "stop", "reboot", "destroy"]
    |>.createdAs "0"
    |>.progress "0" "1"
    |>.progress "1" "8"
    |>.reporting "start" "4"
    |>.reporting "reboot" "4"
    |>.reporting "stop" "8"
    |>.reporting "destroy" "DELETED"

/-- The status words of the plain profile. -/
def mockTable : StatusTable :=
  StatusTable.empty
    |>.mapAll ["creating", "provisioning"] .pending
    |>.map "running" .running
    |>.map "stopping" .stopping
    |>.map "stopped" .stopped
    |>.map "paused" .paused
    |>.map "suspended" .suspended
    |>.map "deleted" .finish

/-- The plain profile, with every kind that has a standard machine. -/
def mock : Profile :=
  new "mock" "In-memory mock" mockTable
    |>.supports .server ["create", "start", "stop", "reboot", "destroy", "post_create"]
    |>.supports .system ["create", "start", "stop", "restart", "pause", "suspend", "destroy"]
    |>.supports .network ["create", "start", "stop", "suspend", "destroy"]
    |>.supports .loadBalancer ["create", "register", "unregister", "destroy"]
    |>.createdAs "creating"
    |>.createdKindAs .loadBalancer "provisioning"
    |>.progress "creating" "stopped"
    |>.progress "provisioning" "running"
    |>.progress "stopping" "stopped"
    |>.reporting "start" "running"
    |>.reporting "reboot" "running"
    |>.reporting "restart" "running"
    |>.reporting "register" "running"
    |>.reporting "unregister" "running"
    |>.reporting "stop" "stopping"
    |>.reporting "pause" "paused"
    |>.reporting "suspend" "suspended"
    |>.reporting "destroy" "deleted"

/-- The names of the built-in profiles. -/
def builtinNames : List String := ["paci", "vcloud", "mock"]

/-- The built-in profile of exactly that name. -/
def ofName? (name : String) : Option Profile :=
  if name = "paci" then some paci
  else if name = "vcloud" then some vcloud
  else if name = "mock" then some mock
  else none

end Profile

/-- A name, in small letters and without blanks around it, that no built-in profile has. -/
structure UnknownProfile where
  name : String
  deriving DecidableEq, Repr

/-- What a reader is told about a name that no built-in profile has. -/
def UnknownProfile.message (e : UnknownProfile) : String :=
  "Unknown backend profile: " ++ e.name ++ " (available: paci, vcloud, mock)"

/-- Finds a built-in profile by its name in any case, with blanks around it. -/
def Profile.find (name : String) : Except UnknownProfile Profile :=
  let folded := Text.lowercase (Text.trim name)
  match Profile.ofName? folded with
  | some p => .ok p
  | none => .error ⟨folded⟩

end CloudLifecycle
