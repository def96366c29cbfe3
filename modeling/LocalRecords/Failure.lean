import LocalRecords.IoError
import LocalRecords.Text.Quoted

namespace LocalRecords

inductive Step
  | create | bind | listen | accept | connect | read | write | close | shutdown | unlink | send
  | recv | socketpair | sockopt
  deriving DecidableEq, Repr

namespace Step

def name : Step → String
  | create => "create"
  | bind => "bind"
  | listen => "listen"
  | accept => "accept"
  | connect => "connect"
  | read => "read"
  | write => "write"
  | close => "close"
  | shutdown => "shutdown"
  | unlink => "unlink"
  | send => "send"
  | recv => "recv"
  | socketpair => "socketpair"
  | sockopt => "sockopt"

def all : List Step :=
  [create, bind, listen, accept, connect, read, write, close, shutdown, unlink, send, recv,
   socketpair, sockopt]

end Step

inductive PathFault
  | empty
  | containsNul (path : Bytes)
  | described (text : String)
  deriving DecidableEq, Repr

def PathFault.message : PathFault → String
  | empty => "path is empty"
  | containsNul path => Text.quote path ++ " contains a NUL byte"
  | described text => text

inductive Unsupported
  | acceptOnDatagram
  | inlineJournal
  | described (text : String)
  deriving DecidableEq, Repr

def Unsupported.message : Unsupported → String
  | acceptOnDatagram => "accept on a datagram socket"
  | inlineJournal => "journal-fd records carry no inline payload"
  | described text => text

inductive Field
  | payload
  | metadata
  | record
  | described (text : String)
  deriving DecidableEq, Repr

def Field.name : Field → String
  | payload => "payload"
  | metadata => "metadata"
  | record => "record"
  | described text => text

inductive FrameFault
  | version (found : UInt16)
  | missingDelimiter (after : Field)
  | descriptorsTruncated (accepted : Nat)
  | described (text : String)
  deriving DecidableEq, Repr

def FrameFault.message : FrameFault → String
  | version found => s!"unsupported protocol version {found.toNat}"
  | missingDelimiter after => "missing delimiter after " ++ after.name
  | descriptorsTruncated accepted => s!"descriptors truncated, at most {accepted} accepted"
  | described text => text

inductive Failure
  | longPath (len max : Nat)
  | badPath (fault : PathFault)
  | refused (step : Step) (source : IoError)
  | cutShort (sent total : Nat) (source : IoError)
  | noSegment (index : Nat)
  | unsupported (operation : Unsupported)
  | outside (offset len capacity : Nat)
  | unknownType (code : UInt16)
  | oversize (field : Field) (len max : Nat)
  | malformed (fault : FrameFault)
  deriving DecidableEq, Repr

namespace Failure

def message : Failure → String
  | longPath len max => s!"socket path is {len} bytes, limit is {max}"
  | badPath fault => "invalid socket path: " ++ fault.message
  | refused step source => step.name ++ " failed: " ++ source.message
  | cutShort sent total source =>
    s!"send failed after {sent} of {total} bytes: " ++ source.message
  | noSegment index => s!"unsupported segment type at index {index}"
  | unsupported operation => "unsupported operation: " ++ operation.message
  | outside offset len capacity =>
    s!"range {offset}+{len} out of bounds for buffer of {capacity} bytes"
  | unknownType code => s!"unknown message type {code.toNat}"
  | oversize field len max => field.name ++ s!" of {len} bytes exceeds limit of {max}"
  | malformed fault => "malformed frame: " ++ fault.message

def step? : Failure → Option Step
  | refused step _ => some step
  | cutShort .. => some .send
  | _ => none

def isFatal : Failure → Bool
  | cutShort .. => true
  | _ => false

def source? : Failure → Option IoError
  | refused _ source => some source
  | cutShort _ _ source => some source
  | _ => none

def ioKind : Failure → IoKind
  | longPath .. => .invalidInput
  | badPath _ => .invalidInput
  | outside .. => .invalidInput
  | noSegment _ => .invalidInput
  | unsupported _ => .unsupported
  | refused _ source => source.kind
  | cutShort _ _ source => source.kind
  | unknownType _ => .invalidData
  | oversize .. => .invalidData
  | malformed _ => .invalidData

/-- A failure as an error of the operating system: the error behind it, or one with its text. -/
def toIo (e : Failure) : IoError :=
  e.source?.getD (.described e.ioKind e.message)

end Failure

end LocalRecords
