import NetIntent.Text.Quoted

/-!
Policy paths such as `/orgs/default/projects/p1/vpcs/v1/subnets/s1`. A path is read segment by
segment; slashes at its end are ignored except in a project path.
-/

namespace NetIntent

inductive PathError where
  | notProject (path : String)
  | notPolicy (path : String)
  deriving DecidableEq

def PathError.message : PathError → String
  | .notProject path => "invalid NSX project path: " ++ Text.quoted path
  | .notPolicy path => "invalid NSX policy path: " ++ Text.quoted path

namespace Path

/-- A text cut at every slash; the text between two slashes may be empty. -/
def segments : List Char → List (List Char)
  | [] => [[]]
  | c :: rest =>
    if c = '/' then [] :: segments rest
    else
      match segments rest with
      | [] => [[c]]
      | first :: others => (c :: first) :: others

def withoutEndSlashes (cs : List Char) : List Char := (cs.reverse.dropWhile (· == '/')).reverse

/-- What stands before and after the last slash. -/
def cutLast (cs : List Char) : Option (List Char × List Char) :=
  let tail := cs.reverse.takeWhile (· != '/')
  match cs.reverse.dropWhile (· != '/') with
  | [] => none
  | _ :: front => some (front.reverse, tail.reverse)

def virtualServers : String := "/infra/lb-virtual-servers"

def virtualServer (id : String) : String := virtualServers ++ "/" ++ id

/-- The last segment of a path without its end slashes, unless that is empty. -/
def lastSegment (path : String) : Option String :=
  let trimmed := withoutEndSlashes path.toList
  let last := (trimmed.reverse.takeWhile (· != '/')).reverse
  if last.isEmpty then none else some (String.ofList last)

/-- The organisation and the project of `/orgs/<organisation>/projects/<project>`. -/
def projectIds (path : String) : Except PathError (String × String) :=
  match segments path.toList with
  | [[], orgs, org, projects, project] =>
    if orgs = "orgs".toList ∧ projects = "projects".toList ∧ org ≠ [] ∧ project ≠ [] then
      .ok (String.ofList org, String.ofList project)
    else .error (.notProject path)
  | _ => .error (.notProject path)

/-- The parent of `<parent>/<collection>/<id>`, which is an absolute path. -/
def parent (path : String) : Except PathError String :=
  match cutLast (withoutEndSlashes path.toList) with
  | some (front, id) =>
    match cutLast front with
    | some ('/' :: rest, collection) =>
      if id ≠ [] ∧ collection ≠ [] then .ok (String.ofList ('/' :: rest))
      else .error (.notPolicy path)
    | _ => .error (.notPolicy path)
  | none => .error (.notPolicy path)

/-- The path of a port below its subnet. -/
def subnetPort (subnet id : String) : String :=
  String.ofList (withoutEndSlashes subnet.toList) ++ "/ports/" ++ id

end Path

end NetIntent
