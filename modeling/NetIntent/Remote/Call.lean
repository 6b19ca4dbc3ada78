import NetIntent.Failure
import NetIntent.Policy.Group
import NetIntent.Policy.Realization
import NetIntent.Policy.VirtualServer
import NetIntent.Policy.SubnetPort

/-!
The calls that operations make on the remote side, and the type of answer that each call has when it
succeeds.
-/

namespace NetIntent

inductive Call where
  | patchServer (id : String) (server : VirtualServer)
  | getServer (id : String)
  | deleteServer (id : String)
  | patchPort (subnet id : String) (port : SubnetPort)
  | getPort (subnet id : String)
  | deletePort (subnet id : String)
  | getGroup (domain group : String)
  | patchGroup (domain group : String) (value : Group)
  /-- The realized entities behind an intent path. -/
  | entities (path : String)
  | pods
  deriving DecidableEq

abbrev Call.Answer : Call → Type
  | patchServer .. | deleteServer _ | patchPort .. | deletePort .. | patchGroup .. => Unit
  | getServer _ => VirtualServer
  | getPort .. => SubnetPort
  | getGroup .. => Group
  | entities _ => Realization.Response
  | pods => List Pod

/-- What comes back from a call. -/
abbrev Call.Reply (c : Call) : Type := Except ClientError c.Answer

end NetIntent
