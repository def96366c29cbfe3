import LocalRecords.Host.Basic
import LocalRecords.Message.Sink
import LocalRecords.Socket.Address
import LocalRecords.Socket.Receiver

/-!
The system calls on local sockets. A call gives the host after it and its answer; one that would
wait answers that it would.
-/

namespace LocalRecords.Host

def permit (h : Host) (step : Step) : Except IoError Unit :=
  match h.refuse step with
  | some e => .error e
  | none => .ok ()

def socket (h : Host) (kind : SocketType) : Host × Except IoError Nat :=
  match h.permit .create with
  | .error e => (h, .error e)
  | .ok () =>
    let (h, id) := h.addEndpoint { kind := kind }
    let (h, d) := h.install (.endpoint id)
    (h, .ok d)

def pair (h : Host) (kind : SocketType) : Host × Except IoError (Nat × Nat) :=
  match h.permit .socketpair with
  | .error e => (h, .error e)
  | .ok () =>
    let (h, a) := h.addEndpoint { kind := kind, knowsPeer := true }
    let (h, b) := h.addEndpoint { kind := kind, knowsPeer := true, peer := some a }
    let h := h.modifyEndpoint a fun e => { e with peer := some b }
    let (h, da) := h.install (.endpoint a)
    let (h, db) := h.install (.endpoint b)
    (h, .ok (da, db))

def standardMode : Nat := 0o755

def bind (h : Host) (d : Nat) (address : Address) : Host × Except IoError Unit :=
  let result : Except IoError Host := do
    h.permit .bind
    let (id, _) ← h.socket? d
    let place ← h.files.locateNew address.path
    -- Whatever stands there keeps the place, be it a socket that nobody holds any more.
    if (h.files.at? place).isSome then .error .addressInUse
    if Path.endsInSlash address.path then .error .noEntry
    return { h with files := h.files.put place (.socket id standardMode) }
  match result with
  | .error e => (h, .error e)
  | .ok h => (h, .ok ())

def listen (h : Host) (d : Nat) (_backlog : Int32) : Host × Except IoError Unit :=
  let result : Except IoError Host := do
    h.permit .listen
    let (id, e) ← h.socket? d
    return h.setEndpoint id { e with isListening := true, knowsPeer := true }
  match result with
  | .error e => (h, .error e)
  | .ok h => (h, .ok ())

def boundAt (h : Host) (address : Address) : Except IoError (Nat × Endpoint) := do
  match ← h.files.find address.path with
  | .socket owner _ =>
    match h.endpoint? owner with
    | some e => return (owner, e)
    | none => .error .connectionRefused
  | _ => .error .connectionRefused

def joinStream (h : Host) (id owner : Nat) : Host :=
  let (h, other) := h.addEndpoint { kind := .stream, peer := some id, knowsPeer := true }
  let h := h.modifyEndpoint id fun e => { e with peer := some other, knowsPeer := true }
  h.modifyEndpoint owner fun e => { e with waiting := e.waiting ++ [other] }

def connect (h : Host) (d : Nat) (address : Address) : Host × Except IoError Unit :=
  let result : Except IoError Host := do
    h.permit .connect
    let (id, e) ← h.socket? d
    let (owner, o) ← h.boundAt address
    if o.kind ≠ e.kind then .error .wrongSocketType
    match e.kind with
    | .datagram => return h.setEndpoint id { e with peer := some owner }
    | .stream =>
      -- The connection is there before anyone accepts it; bytes can be sent on it at once.
      if !o.isListening || o.readShut then .error .connectionRefused
      return h.joinStream id owner
  match result with
  | .error e => (h, .error e)
  | .ok h => (h, .ok ())

def accept (h : Host) (d : Nat) : Host × Except IoError Nat :=
  let result : Except IoError (Host × Nat) := do
    h.permit .accept
    let (id, e) ← h.socket? d
    if e.kind = .datagram then .error .notSupported
    if !e.isListening then .error .invalidArgument
    match e.waiting with
    | [] => .error (if e.readShut then .invalidArgument else .wouldBlock)
    | w :: rest => return (h.setEndpoint id { e with waiting := rest }).install (.endpoint w)
  match result with
  | .error e => (h, .error e)
  | .ok (h, d) => (h, .ok d)

def shutdown (h : Host) (d : Nat) (read write : Bool) : Host × Except IoError Unit :=
  match h.socket? d with
  | .error e => (h, .error e)
  | .ok (id, e) =>
    let h := h.setEndpoint id
      { e with readShut := e.readShut || read, writeShut := e.writeShut || write }
    match e.kind, e.peer with
    | .stream, some p =>
      (h.modifyEndpoint p fun o =>
        { o with readShut := o.readShut || write, writeShut := o.writeShut || read }, .ok ())
    | _, _ => (h, .ok ())

-- Sending and receiving

/-- The most that is granted to a socket for what it sends, and the least it has. -/
def maxSendRoom : Nat := 212992

@[inherit_doc maxSendRoom]
def minSendRoom : Nat := 4608

def setSendRoom (h : Host) (d : Nat) (bytes : Nat) : Host × Except IoError Unit :=
  if Word.count 4 / 2 ≤ bytes then
    (h, .error (.described .invalidInput "send buffer size overflows c_int"))
  else
    match h.socket? d with
    | .error e => (h, .error e)
    | .ok (id, e) =>
      let size := max (2 * min bytes maxSendRoom) minSendRoom
      (h.setEndpoint id { e with sendRoom := size }, .ok ())

def deliver (h : Host) (id : Nat) (ps : List Packet) : Host :=
  h.modifyEndpoint id fun e => { e with inbox := e.inbox ++ ps }

def sendStream (h : Host) (e : Endpoint) (bytes : Bytes) (passed : List Resource) :
    Host × Except IoError Nat :=
  match e.peer with
  | none => (h, .error .notConnected)
  | some p =>
    if e.writeShut then (h, .error .brokenPipe)
    else if bytes.isEmpty then (h, .ok 0)
    else
      match h.endpoint? p with
      | none => (h, .error .brokenPipe)
      | some o =>
        if o.readShut then (h, .error .brokenPipe)
        else (h.deliver p (packets e.packetLen passed bytes), .ok bytes.length)

/-- Sends a datagram. One that finds its receiver gone ends the connection, and what the sender had
not read is lost. -/
def sendDatagram (h : Host) (id : Nat) (e : Endpoint) (bytes : Bytes) (passed : List Resource) :
    Host × Except IoError Nat :=
  match e.peer with
  | none => (h, .error .notConnected)
  | some p =>
    if e.maxDatagram < bytes.length then (h, .error .messageTooLong)
    else if e.writeShut then (h, .error .brokenPipe)
    else
      match h.endpoint? p with
      | none => (h.setEndpoint id { e with peer := none, inbox := [] }, .error .connectionRefused)
      | some o =>
        if o.readShut then (h, .error .brokenPipe)
        else (h.deliver p [⟨bytes, passed⟩], .ok bytes.length)

def passedBy (h : Host) : Option Bytes → Except IoError (List Resource)
  | none => .ok []
  | some control =>
    match Control.requested control with
    | none => .error .invalidArgument
    | some numbers =>
      match numbers.mapM fun n => h.resource? n.toNat with
      | none => .error .badDescriptor
      | some rs => .ok rs

def send (h : Host) (d : Nat) (offer : Offer) : Host × Except IoError Nat :=
  match h.socket? d with
  | .error e => (h, .error e)
  | .ok (id, e) =>
    match h.passedBy offer.control with
    | .error x => (h, .error x)
    | .ok rs =>
      match e.kind with
      | .stream => h.sendStream e offer.bytes rs
      | .datagram => h.sendDatagram id e offer.bytes rs

def receive (h : Host) (d : Nat) (n : Nat) : Host × Except IoError Packet :=
  match h.socket? d with
  | .error e => (h, .error e)
  | .ok (id, e) =>
    let r := e.take n
    (h.setEndpoint id r.1, r.2)

def isReadable (h : Host) (d : Nat) : Bool :=
  match h.socket? d with
  | .ok (_, e) => e.isReadable
  | .error _ => true

-- What the calls answer

theorem isInterrupted_of_socket? {h : Host} {d : Nat} {e : IoError}
    (he : h.socket? d = .error e) : e.isInterrupted = false := by
  unfold socket? at he
  split at he
  · cases he; decide
  · cases he; decide
  · split at he
    · cases he; decide
    · cases he

theorem isInterrupted_of_passedBy {h : Host} {c : Option Bytes} {e : IoError}
    (he : h.passedBy c = .error e) : e.isInterrupted = false := by
  unfold passedBy at he
  split at he
  · cases he
  split at he
  · cases he; decide
  split at he
  · cases he; decide
  · cases he

theorem isInterrupted_of_sendStream {h : Host} {e : Endpoint} {bytes : Bytes}
    {rs : List Resource} {x : IoError} (hx : (h.sendStream e bytes rs).2 = .error x) :
    x.isInterrupted = false := by
  unfold sendStream at hx
  repeat' split at hx
  all_goals cases hx
  all_goals decide

theorem isInterrupted_of_sendDatagram {h : Host} {id : Nat} {e : Endpoint} {bytes : Bytes}
    {rs : List Resource} {x : IoError} (hx : (h.sendDatagram id e bytes rs).2 = .error x) :
    x.isInterrupted = false := by
  unfold sendDatagram at hx
  repeat' split at hx
  all_goals cases hx
  all_goals decide

/-- No send of a host is interrupted. -/
theorem isInterrupted_of_send {h : Host} {d : Nat} {o : Offer} {x : IoError}
    (hx : (h.send d o).2 = .error x) : x.isInterrupted = false := by
  unfold send at hx
  split at hx
  next he => cases hx; exact isInterrupted_of_socket? he
  split at hx
  next he => cases hx; exact isInterrupted_of_passedBy he
  split at hx
  · exact isInterrupted_of_sendStream hx
  · exact isInterrupted_of_sendDatagram hx

theorem isInterrupted_of_receive {h : Host} {d n : Nat} {x : IoError}
    (hx : (h.receive d n).2 = .error x) : x.isInterrupted = false := by
  unfold receive at hx
  split at hx
  next he => cases hx; exact isInterrupted_of_socket? he
  · exact Endpoint.isInterrupted_of_take hx

/-- A host returns no more bytes than were asked for. -/
theorem length_of_receive {h : Host} {d n : Nat} {p : Packet} (hp : (h.receive d n).2 = .ok p) :
    p.data.length ≤ n := by
  unfold receive at hp
  split at hp
  · cases hp
  · exact Endpoint.length_of_take hp

-- Sockets as sinks, sources and receivers

def sink (d : Nat) (kind : SocketType) : Sink Host where
  sendsDatagrams := !kind.connects
  send h offer := h.send d offer
  patience _ := 0
  patience_lt h o e he hi := by
    rw [isInterrupted_of_send he] at hi
    cases hi

def source (d : Nat) : Source Host where
  read h n := ((h.receive d n).1, (h.receive d n).2.map Packet.data)
  length_le h n bytes hb := by
    rcases hr : (h.receive d n).2 with e | p
    · rw [hr] at hb
      cases hb
    · rw [hr] at hb
      cases hb
      exact length_of_receive hr
  patience _ := 0
  patience_lt h n e he hi := by
    rcases hr : (h.receive d n).2 with x | p
    · rw [hr] at he
      cases he
      rw [isInterrupted_of_receive hr] at hi
      cases hi
    · rw [hr] at he
      cases he

/-- How many more descriptors there can be. Their numbers are words of 4 bytes that are not
negative. -/
def descriptorsLeft (h : Host) : Nat := Word.count 4 / 2 - h.freshDescriptor

/-- A socket as something that receipts come from. The first of the descriptors that come along are
installed, as many as there is room for, and their numbers stand in the control data. -/
def receiver (d : Nat) : Receiver Host where
  receive h n room :=
    match h.receive d n with
    | (h, .error e) => (h, .error e)
    | (h, .ok p) =>
      let fitting := min (Control.capacity room) h.descriptorsLeft
      let r := h.installAll (p.passed.take fitting)
      (r.1, .ok ⟨p.data, Control.encode (r.2.map UInt32.ofNat), fitting < p.passed.length⟩)
  close := close
  patience _ := 0
  patience_lt h n room e he hi := by
    rcases hr : h.receive d n with ⟨h', x | p⟩
    · rw [hr] at he
      cases he
      rw [isInterrupted_of_receive (congrArg Prod.snd hr)] at hi
      cases hi
    · rw [hr] at he
      cases he

end LocalRecords.Host
