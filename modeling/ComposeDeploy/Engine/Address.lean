/-
How engines are reached.

A list of hosts stands in one text with commas between them. `Connection.reach`
says at which name an engine is reached, or why it cannot be: a socket file
must be there and, for a secured connection, all three certificate files must
be readable. Nothing is sent while a connection is set up.
-/

import ComposeDeploy.Error
import ComposeDeploy.Text.Blank

namespace ComposeDeploy

/-- The value of an environment variable, if it is set. -/
abbrev Environment := String → Option String

/-- What can be told of files without reading them. -/
structure Files where
  exist : String → Bool
  readable : String → Bool

/-- How to reach one engine or several. -/
structure Connection where
  /-- One host, or several with commas between them. -/
  host : String
  /-- Whether the connection is secured. -/
  tls : Bool
  authority : Option String
  certificate : Option String
  key : Option String
  deriving DecidableEq, Repr

/-! ### Hosts -/

/-- The hosts of a list; blank parts count for nothing, and a list without any
host means the local engine, whose host is empty. -/
def hostsOf (hosts : String) : List String :=
  let named := ((Text.split hosts ',').map Text.trim).filter (· ≠ "")
  if named.isEmpty then [""] else named

/-! ### Files -/

/-- A path with the home directory in the place of a leading tilde. -/
def resolveHome (env : Environment) (path : String) : String :=
  match Text.afterStart "~" path, env "HOME" with
  | some rest, some home => home ++ rest
  | _, _ => path

/-- The path of a file in a directory. -/
def inDirectory (directory file : String) : String :=
  if directory.toList.getLast?.all (· == '/') then directory ++ file
  else directory ++ "/" ++ file

/-- The path of a certificate file: the explicit one, else that of the name
`file` in the directory of the environment or of the home directory. -/
def certificatePath (env : Environment) (explicit : Option String) (file : String) : String :=
  match explicit.filter (· ≠ "") with
  | some path => resolveHome env path
  | none =>
    match (env "DOCKER_CERT_PATH").filter (· ≠ "") with
    | some directory => inDirectory (resolveHome env directory) file
    | none => inDirectory (resolveHome env "~/.docker") file

namespace Connection

/-- The path of the certificate of the authority. -/
def authorityFile (env : Environment) (c : Connection) : String :=
  certificatePath env c.authority "ca.pem"

/-- The path of the client's certificate. -/
def certificateFile (env : Environment) (c : Connection) : String :=
  certificatePath env c.certificate "cert.pem"

/-- The path of the client's key. -/
def keyFile (env : Environment) (c : Connection) : String :=
  certificatePath env c.key "key.pem"

/-! ### Connecting -/

/-- What sockets are written with. -/
def socketScheme : String := "unix://"

/-- The socket of the local engine. -/
def defaultSocket : String := "/var/run/docker.sock"

/-- Takes the first mark of a socket out of a path, wherever it stands. -/
def withoutScheme (path : List Char) : List Char :=
  match Text.stripStart socketScheme.toList path with
  | some rest => rest
  | none =>
    match path with
    | [] => []
    | c :: rest => c :: withoutScheme rest

/-- The socket of the local engine, unless the environment names another. -/
def localSocket (env : Environment) : String :=
  ((env "DOCKER_HOST").bind (Text.afterStart socketScheme)).getD defaultSocket

/-- The path of the socket that a host means, if it means one. -/
def socketPath? (env : Environment) (host : String) : Option String :=
  if host = "" then some (localSocket env)
  else (Text.afterStart socketScheme host).map fun path =>
    String.ofList (withoutScheme path.toList)

/-- The first certificate file that cannot be read. -/
def unreadable? (env : Environment) (files : Files) (c : Connection) : Option String :=
  [c.authorityFile env, c.certificateFile env, c.keyFile env].find? fun path =>
    !files.readable path

/-- The name under which one engine is reached. -/
def reach (env : Environment) (files : Files) (c : Connection) : Except Error String :=
  let host := Text.trim c.host
  match socketPath? env host with
  | some path =>
    if files.exist path then .ok (if host = "" then "local" else host)
    else .error (.client (.socket path))
  | none =>
    match if c.tls then unreadable? env files c else none with
    | some path => .error (.client (.certificate path))
    | none => .ok host

/-- The names of the engines of a list of hosts, in order; the first that
cannot be reached fails all. -/
def reachAll (env : Environment) (files : Files) (c : Connection) : Except Error (List String) :=
  (hostsOf c.host).mapM fun host => { c with host }.reach env files

/-- The files that `reachAll` may look at. -/
def paths (env : Environment) (c : Connection) : List String :=
  (hostsOf c.host).filterMap (socketPath? env) ++
    [c.authorityFile env, c.certificateFile env, c.keyFile env]

end Connection

end ComposeDeploy
