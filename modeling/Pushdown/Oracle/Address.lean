import Pushdown.Text.Find

/-!
Database addresses. Thin-driver addresses, which name a service or a system identifier, are
turned into addresses of the client; any other address is left as it is.
-/
namespace Pushdown.Oracle

inductive AddressFault
  | service (url : String)
  | sid (url : String)
  deriving DecidableEq, Repr

def AddressFault.message : AddressFault → String
  | .service url => "Invalid Oracle service URL: " ++ url
  | .sid url => "Invalid Oracle SID URL: " ++ url

def thinScheme : String := "jdbc:oracle:thin:@"

def clientScheme : String := "oracle+oracledb://"

/-- Host and port, a slash, and the service, none of them empty. -/
def serviceAddress? (target : List Char) : Option String :=
  match Text.cutAt (· == '/') target with
  | (hostPort, some service) =>
    if hostPort.isEmpty || service.isEmpty then none
    else some (clientScheme ++ String.ofList hostPort ++ "/?service_name="
      ++ String.ofList service)
  | (_, none) => none

/-- Host, port and system identifier between colons, none of them empty. -/
def sidAddress? (target : List Char) : Option String :=
  match target.splitOn ':' with
  | [host, port, sid] =>
    if host.isEmpty || port.isEmpty || sid.isEmpty then none
    else some (clientScheme ++ String.ofList host ++ ":" ++ String.ofList port ++ "/"
      ++ String.ofList sid)
  | _ => none

def clientAddress (url : String) : Except AddressFault String :=
  match Text.afterPrefix? thinScheme.toList url.toList with
  | none => .ok url
  | some ('/' :: '/' :: target) =>
    match serviceAddress? target with
    | some address => .ok address
    | none => .error (.service url)
  | some target =>
    match sidAddress? target with
    | some address => .ok address
    | none => .error (.sid url)

end Pushdown.Oracle
