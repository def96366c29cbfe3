import LocalRecords.Text.Lowercase

namespace LocalRecords

inductive SocketType
  | datagram
  | stream
  deriving DecidableEq, Repr

namespace SocketType

def standard : SocketType := .stream

def connects : SocketType → Bool
  | datagram => false
  | stream => true

def name : SocketType → String
  | datagram => "datagram"
  | stream => "stream"

/-- Reads a kind in any mixture of cases; `dgram` is short for `datagram`. The error is the text
in lower case. -/
def parse (s : String) : Except String SocketType :=
  match Text.lowercase s with
  | "stream" => .ok stream
  | "datagram" => .ok datagram
  | "dgram" => .ok datagram
  | other => .error other

def parseMessage (text : String) : String := s!"unknown socket kind '{text}'"

end SocketType

end LocalRecords
