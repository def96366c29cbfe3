import LocalRecords.Socket.SocketType
import LocalRecords.Word

namespace LocalRecords

inductive Layer
  | standard
  | file
  | environment
  | commandLine
  deriving DecidableEq, Repr

def Layer.name : Layer → String
  | standard => "default"
  | file => "config file"
  | environment => "environment"
  | commandLine => "CLI"

abbrev Environment := String → Option String

structure Account where
  uid : Nat
  home : Bytes
  deriving DecidableEq, Repr

structure Overrides where
  path : Option Bytes := none
  kind : Option SocketType := none
  backlog : Option Int32 := none
  deriving DecidableEq, Repr

def Overrides.isSet (o : Overrides) : Bool :=
  o.path.isSome || o.kind.isSome || o.backlog.isSome

end LocalRecords
