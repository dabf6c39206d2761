import WorkspacePool.Url.Domain
import WorkspacePool.Url.Ipv6

/-!
Hosts, and why a text is no URL. With a well-known scheme a host is an address or a domain name;
with any other it is an address in brackets or plain text.
-/

namespace WorkspacePool.Url

/-- Why a text is no URL. -/
inductive Fault where
  | relative
  | emptyHost
  | domain
  | hostCharacter
  | ipv4
  | ipv6
  | port
deriving DecidableEq, Repr

namespace Fault

def message : Fault → String
  | .relative => "relative URL without a base"
  | .emptyHost => "empty host"
  | .domain => "invalid international domain name"
  | .hostCharacter => "invalid domain character"
  | .ipv4 => "invalid IPv4 address"
  | .ipv6 => "invalid IPv6 address"
  | .port => "invalid port number"

end Fault

inductive Host where
  | domain (name : String)
  | text (name : String)
  | ipv4 (address : Nat)
  | ipv6 (pieces : List Nat)
deriving DecidableEq, Repr

namespace Host

/-- The address between brackets, for a text that starts with one. -/
def readBracketed (text : List Char) : Except Fault Host :=
  match text.reverse with
  | ']' :: inner =>
      match Ipv6.read? (inner.reverse.drop 1) with
      | some pieces => .ok (.ipv6 pieces)
      | none => .error .ipv6
  | _ => .error .ipv6

/-- The host of a URL with a well-known scheme. -/
def readSpecial (text : List Char) : Except Fault Host :=
  if text.head? = some '[' then readBracketed text
  else
    match String.fromUTF8? (Percent.decode text).toByteArray with
    | none => .error .domain
    | some decoded =>
        match Domain.read? decoded.toList with
        | none => .error .domain
        | some [] => .error .emptyHost
        | some name =>
            if Ipv4.endsInNumber name then
              match Ipv4.read? name with
              | some address => .ok (.ipv4 address)
              | none => .error .ipv4
            else .ok (.domain (String.ofList name))

/-- Characters that no host may hold. -/
def isForbidden (character : Char) : Bool :=
  ['\x00', '\t', '\n', '\r', ' ', '#', '/', ':', '<', '>', '?', '@', '[', '\\', ']', '^',
    '|'].contains character

/-- The host of a URL with any other scheme. -/
def readOther (text : List Char) : Except Fault Host :=
  if text.head? = some '[' then readBracketed text
  else if text.any isForbidden then .error .hostCharacter
  else .ok (.text (String.ofList (Percent.encode (fun _ => false) text)))

end Host

end WorkspacePool.Url
