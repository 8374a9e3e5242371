/-
Bootmux.Router.ConnectProxy — the CONNECT proxy of the router up to the
point where it connects (`http_connect_proxy.c`).

A client is the bytes that `recv` hands out one at a time, up to where
it fails. `header` is the buffer as far as it is filled; the C string in
it ends at the first NUL. `handleClient` returns what `getaddrinfo` is
asked for, and nothing where the client gets an error instead.

The log lines, the sockets and the relay are left out.

The request is refused if the header is too long or is cut off, if the first
line is not that of a CONNECT, or if the authority is not a host and the
port 443. The endpoint is what the router announces of itself to the iPhone.
-/
import Bootmux.Bmx1.Wire
import Bootmux.Lib.Search

namespace Bootmux.Router

open Bootmux.Bmx1
open Bootmux.Lib

def proxyPort : Nat := 3128
def proxyHeaderMax : Nat := 4096

def crlf : Bytes := [carriageReturn, newline]
def doubleCrlf : Bytes := [carriageReturn, newline, carriageReturn, newline]

/-! ## The functions of `string.h` -/

def strstr (value pattern : Bytes) : Option Nat := Search.find pattern (cString value)

/-- `strncmp(..) == 0`. -/
def strncmp (a b : Bytes) (n : Nat) : Bool := decide ((cString a).take n = (cString b).take n)

def memchr (value : Bytes) (c : UInt8) (n : Nat) : Option Nat := Search.firstIndex c (value.take n)

def memrchr (value : Bytes) (c : UInt8) (n : Nat) : Option Nat := Search.lastIndex c (value.take n)

/-! ## The request -/

def hasControl (value : Bytes) : Bool := value.any fun c => c < 0x20 || c == 0x7F

def parseConnect (header : Bytes) (hostSize : Nat) : Option Bytes :=
  match strstr header crlf with
  | none => none
  | some lineEnd =>
      if !strncmp header (ascii "CONNECT ") 8 then none
      else
        let authority := header.drop 8
        match memchr authority 0x20 (lineEnd - 8) with
        | none => none
        | some space =>
            if space = 0 || space ≥ hostSize then none
            else if hasControl (authority.take space) ||
                (memchr authority 0x40 space).isSome then none
            else if authority.head? = some 0x5B || (memchr authority 0x5B space).isSome ||
                (memchr authority 0x5D space).isSome then none
            else
              match memrchr authority 0x3A space with
              | none => none
              | some colon =>
                  if colon = 0 ||
                      !strncmp (authority.drop (colon + 1)) (ascii "443") (space - colon - 1) ||
                      space - colon - 1 ≠ 3 then none
                  else
                    let host := authority.take colon
                    if host.head? = some 0 then none else some host

/-- The loop of `recv_header`. -/
def recvHeaderLoop (header : Bytes) : Bytes → Option Bytes
  | [] => none
  | received :: rest =>
      if header.length + 1 < proxyHeaderMax then
        let header := header ++ [received]
        if 4 ≤ header.length && (strstr header doubleCrlf).isSome then some header
        else recvHeaderLoop header rest
      else none

def recvHeader (client : Bytes) : Option Bytes := recvHeaderLoop [] client

/-- `recv_header` followed by `parse_connect`, with `char host[256]`. -/
def acceptConnect (client : Bytes) : Option Bytes :=
  (recvHeader client).bind fun header => parseConnect header 256

/-- The host and the service `getaddrinfo` is asked for. -/
def handleClient (client : Bytes) : Option (Bytes × Bytes) :=
  (acceptConnect client).map fun host => (host, ascii "443")

/-! ## The endpoint -/

structure HttpProxy where
  task : Bool
  listening : Bool
  boundAddress : UInt32
  deriving DecidableEq, Repr

/-- `bootmux_http_proxy_is_ready`. -/
def HttpProxy.isReady (p : HttpProxy) : Bool := p.task && p.listening && p.boundAddress != 0

/-- The bytes of an address as they stand in memory, first octet first. -/
def addressOctets (address : UInt32) : List Nat :=
  [address.toNat % 256, address.toNat / 256 % 256, address.toNat / 65536 % 256,
    address.toNat / 16777216]

/-- `inet_ntoa`. -/
def inetNtoa (address : UInt32) : Bytes :=
  List.intercalate (ascii ".") ((addressOctets address).map decimal)

/-- What `snprintf` makes of the address and the port. -/
def endpointText (address : UInt32) : Bytes :=
  inetNtoa address ++ ascii ":" ++ decimal proxyPort

/-- `bootmux_http_proxy_get_endpoint`. -/
def HttpProxy.getEndpoint (p : HttpProxy) (bufferSize : Nat) : Option Bytes :=
  if bufferSize = 0 || !p.isReady then none
  else if (endpointText p.boundAddress).length ≥ bufferSize then none
  else some (endpointText p.boundAddress)

end Bootmux.Router
