import LocalRecords.Host.Calls
import LocalRecords.Socket.Lifecycle

namespace LocalRecords

def Host.kernel (meanwhile : Host → Host) : Kernel Host where
  socket := Host.socket
  bind := Host.bind
  listen := Host.listen
  accept h d := (meanwhile h).accept d
  connect := Host.connect
  close h d := (h.close d, h.permit .close)

namespace Socket

def listen (h : Host) (path : Bytes) (kind : SocketType) (backlog : Int32) :
    Host × Except Failure Socket :=
  (Host.kernel id).listenAt h path kind backlog

def accept (h : Host) (s : Socket) : Host × Except Failure Socket :=
  (Host.kernel id).acceptOn h s

def connect (h : Host) (path : Bytes) (kind : SocketType) : Host × Except Failure Socket :=
  (Host.kernel id).connectTo h path kind

def serveOne (h : Host) (path : Bytes) (kind : SocketType) (meanwhile : Host → Host) :
    Host × Except Failure Socket :=
  (Host.kernel meanwhile).serveOne h path kind

def pair (h : Host) (kind : SocketType) : Host × Except Failure (Socket × Socket) :=
  let r := h.pair kind
  (r.1, match r.2 with
    | .error e => .error (.refused .socketpair e)
    | .ok (a, b) => .ok (⟨a, kind⟩, ⟨b, kind⟩))

def close (h : Host) (s : Socket) : Host × Except Failure Unit :=
  let r := (Host.kernel id).close h s.descriptor
  (r.1, r.2.mapError (.refused .close))

def endReading (h : Host) (s : Socket) : Host × Except Failure Unit :=
  let r := h.shutdown s.descriptor true false
  (r.1, r.2.mapError (.refused .shutdown))

def endWriting (h : Host) (s : Socket) : Host × Except Failure Unit :=
  let r := h.shutdown s.descriptor false true
  (r.1, r.2.mapError (.refused .shutdown))

def setSendRoom (h : Host) (s : Socket) (bytes : Nat) : Host × Except Failure Unit :=
  let r := h.setSendRoom s.descriptor bytes
  (r.1, r.2.mapError (.refused .sockopt))

def knowsPeer (h : Host) (s : Socket) : Except Failure Bool :=
  match h.socket? s.descriptor with
  | .error e => .error (.refused .sockopt e)
  | .ok (_, e) => .ok e.knowsPeer

def sink (s : Socket) : Sink Host := Host.sink s.descriptor s.kind

def source (s : Socket) : Source Host := Host.source s.descriptor

def receiver (s : Socket) : Receiver Host := Host.receiver s.descriptor

end Socket

end LocalRecords
