/-
  Where servers listen.
-/
import TableService.Error
import TableService.Settings.Basic
import TableService.Url.Basic

namespace TableService.Server

/-- Where a server listens. -/
inductive Endpoint where
  /-- At a socket among the files; the path in bytes. -/
  | socket (path : List UInt8)
  /-- At a port of a host. -/
  | port (host : String) (number : Nat)
  deriving DecidableEq, Repr

/-- The bytes of a text. -/
def bytesOf (s : String) : List UInt8 := s.toUTF8.toList

/-- A socket at a path. -/
def Endpoint.ofPath (path : String) : Endpoint := .socket (bytesOf path)

end TableService.Server
