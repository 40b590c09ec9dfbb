import MetadataGateway.Net.Address

/-!
# The machine

What the gateway can reach depends on the machine that it runs on. A machine is known by what comes
of reaching an endpoint from it.
-/

namespace MetadataGateway.Net

open Number

/-- What a connection is opened to. -/
inductive Endpoint where
  | tcp (host : String) (port : Nat)
  /-- A socket of the same machine, by its path. -/
  | socket (path : String)
deriving DecidableEq, Repr

/-- Why an endpoint is not reached. -/
inductive Unreached where
  | networkUnreachable
  | refused
  | noSuchSocket
  /-- A socket has no empty path. -/
  | invalidSocket
  /-- The name of a machine has no address. -/
  | unresolved
  /-- No name of a machine has the character that ends texts for the system. -/
  | nulInName
  | pathTooLong
  | invalidPort
  | invalidAddress
deriving DecidableEq, Repr

/-- The wording of the reason. -/
def Unreached.message : Unreached → String
  | .networkUnreachable => "Network is unreachable (os error 101)"
  | .refused => "Connection refused (os error 111)"
  | .noSuchSocket => "No such file or directory (os error 2)"
  | .invalidSocket => "Invalid argument (os error 22)"
  | .unresolved =>
    "failed to lookup address information: Temporary failure in name resolution"
  | .nulInName => "file name contained an unexpected NUL byte"
  | .pathTooLong => "path must be shorter than SUN_LEN"
  | .invalidPort => "invalid port value"
  | .invalidAddress => "invalid socket address"

namespace Endpoint

/-- The longest path of a socket, in octets. -/
def maxPath : Nat := 107

/-- The socket at a path. -/
def ofPath (path : String) : Except Unreached Endpoint :=
  if maxPath < path.utf8ByteSize then .error .pathTooLong else .ok (.socket path)

/-- What an address leads to: the name of a machine, and a port behind its last colon. -/
def ofAddress (address : String) : Except Unreached Endpoint :=
  let text := address.toList.reverse
  let port := (text.takeWhile (· != ':')).reverse
  let host := ((text.dropWhile (· != ':')).drop 1).reverse
  if !text.contains ':' then .error .invalidAddress
  else
    match readInteger 0 65535 port with
    | .error _ => .error .invalidPort
    | .ok n =>
      if host.contains '\x00' then .error .nulInName
      else .ok (.tcp (String.ofList host) n.toNat)

end Endpoint

/-- A machine: what comes of reaching an endpoint from it. -/
structure Machine where
  reach : Endpoint → Except Unreached Unit

namespace Machine

/-- Whether the name of a machine has an address without anyone being asked for it. -/
def isKnown (host : String) : Bool :=
  let text := host.toList
  text.map Char.toLower == "localhost".toList || isNumeric text || isBracketed text
where
  /-- Whether a text is an address of version 4 in its loose spelling. -/
  isNumeric (text : List Char) : Bool :=
    let parts := text.splitOn '.'
    (ip4Loose? parts).isSome && parts.all fun part => part.getLast?.any (·.toLower != 'x')
  /-- Whether a text is an address of version 6 in brackets. -/
  isBracketed : List Char → Bool
    | '[' :: rest => rest.getLast? == some ']' && (ip6? rest.dropLast).isSome
    | _ => false

/-- A machine without a network, on which there are some sockets and other files. Nothing answers
at a file that is no socket. -/
def isolated (sockets files : List String) : Machine where
  reach
    | .tcp host _ => .error (if isKnown host then .networkUnreachable else .unresolved)
    | .socket path =>
      if path = "" then .error .invalidSocket
      else if sockets.contains path then .ok ()
      else if files.contains path then .error .refused
      else .error .noSuchSocket

end Machine

end MetadataGateway.Net
