import LocalRecords.Proofs.Host.Descriptors
import LocalRecords.Proofs.Socket.Link

namespace LocalRecords

def queuedBytes (ps : List Packet) : Bytes := ps.flatMap Packet.data

structure Packet.Plain (p : Packet) : Prop where
  data : p.data ≠ []
  passed : p.passed = []

/-- The packets of some bytes carry these bytes, in order, and nothing else. -/
theorem packets_plain (size : Nat) (bytes : Bytes) :
    queuedBytes (packets size [] bytes) = bytes ∧ ∀ p ∈ packets size [] bytes, p.Plain := by
  generalize hpassed : ([] : List Resource) = passed
  fun_induction packets size passed bytes with
  | case1 passed bytes hempty =>
    exact ⟨(List.isEmpty_iff.mp hempty).symm, fun _ hp => absurd hp List.not_mem_nil⟩
  | case2 passed bytes hsome hsize =>
    refine ⟨List.flatMap_singleton _ _, fun p hp => ?_⟩
    rw [List.mem_singleton.mp hp]
    exact ⟨fun h => hsome (List.isEmpty_iff.mpr h), hpassed.symm⟩
  | case3 passed bytes hsome hsize ih =>
    obtain ⟨hbytes, hplain⟩ := ih rfl
    constructor
    · rw [queuedBytes] at hbytes
      rw [queuedBytes, List.flatMap_cons, hbytes]
      exact List.take_append_drop size bytes
    · intro p hp
      rcases List.mem_cons.mp hp with rfl | hp
      · refine ⟨fun h => ?_, hpassed.symm⟩
        have hlen := congrArg List.length h
        rw [List.length_take, List.length_nil] at hlen
        omega
      · exact hplain p hp

/-- Bytes are read from the front of the packets, and some if some are asked for and there. -/
theorem takeStream_plain {ps : List Packet} (hps : ∀ p ∈ ps, p.Plain) (n : Nat) :
    let r := takeStream ps n
    queuedBytes ps = r.1.data ++ queuedBytes r.2 ∧ r.1.passed = [] ∧ (∀ p ∈ r.2, p.Plain) ∧
      (0 < n → r.1.data = [] → ps = []) := by
  induction ps generalizing n with
  | nil => exact ⟨rfl, rfl, fun _ hp => absurd hp List.not_mem_nil, fun _ _ => rfl⟩
  | cons p rest ih =>
    have hp := hps p List.mem_cons_self
    have hrest : ∀ q ∈ rest, q.Plain := fun q hq => hps q (List.mem_cons_of_mem p hq)
    have hcons : queuedBytes (p :: rest) = p.data ++ queuedBytes rest := List.flatMap_cons
    rw [takeStream]
    by_cases hleft : (p.data.drop n).isEmpty = true
    · rw [if_pos hleft]
      split
      · exact ⟨hcons, hp.passed, hrest, fun _ hd => absurd hd hp.data⟩
      · obtain ⟨hbytes, hpassed, hmore, -⟩ := ih hrest (n - p.data.length)
        refine ⟨?_, hpassed, hmore, fun _ hd => absurd (List.append_eq_nil_iff.mp hd).1 hp.data⟩
        rw [hcons, hbytes, List.append_assoc]
    · rw [if_neg hleft]
      refine ⟨?_, hp.passed, ?_, fun hn hd => ?_⟩
      · have hagain : queuedBytes (⟨p.data.drop n, []⟩ :: rest) =
            p.data.drop n ++ queuedBytes rest := List.flatMap_cons
        rw [hcons, hagain, ← List.append_assoc, List.take_append_drop]
      · intro q hq
        rcases List.mem_cons.mp hq with rfl | hq
        · exact ⟨fun h => hleft (List.isEmpty_iff.mpr h), rfl⟩
        · exact hrest q hq
      · rcases List.take_eq_nil_iff.mp hd with hzero | hnil
        · exact absurd hn (by rw [hzero]; exact Nat.lt_irrefl 0)
        · exact absurd hnil hp.data

/-- One end of a connection, with nothing but bytes in its inbox. -/
structure Endpoint.Faces (e : Endpoint) (peer : Nat) : Prop where
  kind : e.kind = .stream
  listening : e.isListening = false
  peer : e.peer = some peer
  plain : ∀ p ∈ e.inbox, p.Plain

/-- An end of a connection gives bytes from the front of its inbox, and an end only once it is shut.
-/
theorem Endpoint.Faces.take {e : Endpoint} {peer : Nat} (he : e.Faces peer) (n : Nat) :
    (e.take n).1.Faces peer ∧ ((e.take n).1.readShut = true → e.readShut = true) ∧
      match (e.take n).2 with
      | .error _ => queuedBytes (e.take n).1.inbox = queuedBytes e.inbox
      | .ok p =>
        queuedBytes e.inbox = p.data ++ queuedBytes (e.take n).1.inbox ∧ p.passed = [] ∧
          (0 < n → p.data = [] → e.inbox = [] ∧ e.readShut = true) := by
  rw [Endpoint.take, he.kind]
  cases hinbox : e.inbox with
  | nil =>
    dsimp only
    rw [he.listening, if_neg Bool.false_ne_true, Endpoint.idle]
    split
    · refine ⟨⟨he.kind, he.listening, he.peer, he.plain⟩, fun h => h, ?_⟩
      exact congrArg queuedBytes hinbox
    · split
      next hshut =>
        refine ⟨he, fun h => h, ?_, rfl, fun _ _ => ⟨rfl, hshut⟩⟩
        rw [hinbox]
        rfl
      · exact ⟨he, fun h => h, congrArg queuedBytes hinbox⟩
  | cons p rest =>
    dsimp only
    obtain ⟨hbytes, hpassed, hplain, hsome⟩ := takeStream_plain (hinbox ▸ he.plain) n
    refine ⟨⟨rfl, he.listening, he.peer, hplain⟩, fun h => h, hbytes, hpassed, fun hn hd => ?_⟩
    exact absurd (hsome hn hd) (List.cons_ne_nil p rest)

namespace Host

theorem modifyEndpoint_eq {h : Host} {id : Nat} {e : Endpoint} (he : h.endpoint? id = some e)
    (f : Endpoint → Endpoint) : h.modifyEndpoint id f = h.setEndpoint id (f e) := by
  rw [modifyEndpoint, he]

/-- A pair is two endpoints that are each other's peers, and a new descriptor for each of them. -/
theorem pair_eq (h : Host) (hok : h.permit .socketpair = .ok ()) (kind : SocketType) :
    ∃ made : Host,
      h.pair kind =
          (((made.install (.endpoint h.fresh)).1.install (.endpoint (h.fresh + 1))).1,
            .ok (made.freshDescriptor, (made.install (.endpoint h.fresh)).1.freshDescriptor)) ∧
        made.endpoint? h.fresh =
          some { kind := kind, knowsPeer := true, peer := some (h.fresh + 1) } ∧
        made.endpoint? (h.fresh + 1) =
          some { kind := kind, knowsPeer := true, peer := some h.fresh } := by
  let e : Endpoint := { kind := kind, knowsPeer := true }
  let o : Endpoint := { kind := kind, knowsPeer := true, peer := some h.fresh }
  let both := ((h.addEndpoint e).1.addEndpoint o).1
  have hfirst : both.endpoint? h.fresh = some e := by
    have hne : (h.fresh == h.fresh + 1) = false := beq_false_of_ne (Nat.succ_ne_self _).symm
    rw [endpoint?]
    change List.lookup h.fresh ((h.fresh + 1, o) :: (h.fresh, e) :: h.endpoints) = some e
    rw [List.lookup_cons, hne, List.lookup_cons_self]
  have hsecond : both.endpoint? (h.fresh + 1) = some o := List.lookup_cons_self
  refine ⟨both.setEndpoint h.fresh { e with peer := some (h.fresh + 1) }, ?_, ?_, ?_⟩
  · rw [← modifyEndpoint_eq hfirst fun e => { e with peer := some (h.fresh + 1) }, pair, hok]
    rfl
  · exact endpoint?_setEndpoint hfirst _
  · rw [endpoint?_setEndpoint_eq, if_neg (Nat.succ_ne_self _)]
    exact hsecond

theorem shutdown_of_stream {h : Host} {d id p : Nat} {e : Endpoint}
    (hs : h.socket? d = .ok (id, e)) (hk : e.kind = .stream) (hp : e.peer = some p)
    (read write : Bool) :
    h.shutdown d read write =
      (Host.modifyEndpoint
          (h.setEndpoint id
            { e with readShut := e.readShut || read, writeShut := e.writeShut || write }) p
          fun o => { o with readShut := o.readShut || write, writeShut := o.writeShut || read },
        .ok ()) := by
  rw [shutdown, hs]
  dsimp only
  split
  next p' hpeer =>
    rw [hp] at hpeer
    cases hpeer
    rfl
  next hnot => exact (hnot p hk hp).elim

end Host

namespace Socket

def link (ends : Side → Socket) : Link Host where
  kind := (ends .first).kind
  sink side := (ends side).sink
  source side := (ends side).source
  receiver side := (ends side).receiver
  shut side half h :=
    h.shutdown (ends side).descriptor (half = .reading) (half = .writing)

/-- Receiving on a link is receiving on its socket. -/
theorem step_receive_link (ends : Side → Socket) (h : Host) {side : Side}
    (hk : (ends side).kind = (ends .first).kind) (capacity maxDescriptors : Nat) :
    (link ends).step h side (.receive capacity maxDescriptors) =
      match receive h (ends side) capacity maxDescriptors with
      | (h', .error e) => (h', .failed e)
      | (h', .ok r) => (h', .brought r.reading r.bytes) := by
  have hlink : ((link ends).receiver side).receiveInto (link ends).kind h capacity maxDescriptors =
      receive h (ends side) capacity maxDescriptors := by
    rw [receive, hk]
    rfl
  rw [Link.step, hlink]
  rcases receive h (ends side) capacity maxDescriptors with ⟨h', e | r⟩
  · rfl
  · rfl

/-- Shutting a half on a link is shutting it on its socket. -/
theorem step_shut_link (ends : Side → Socket) (h : Host) (side : Side) (half : Half) :
    (link ends).step h side (.shut half) =
      match (match half with | .reading => endReading | .writing => endWriting) h (ends side) with
      | (h', .error e) => (h', .failed e)
      | (h', .ok ()) => (h', .shut) := by
  cases half with
  | reading =>
    have hlink : (link ends).shut side .reading h =
        h.shutdown (ends side).descriptor true false := rfl
    rw [Link.step, hlink]
    dsimp only [endReading]
    rcases h.shutdown (ends side).descriptor true false with ⟨h', e | ⟨⟩⟩
    · rfl
    · rfl
  | writing =>
    have hlink : (link ends).shut side .writing h =
        h.shutdown (ends side).descriptor false true := rfl
    rw [Link.step, hlink]
    dsimp only [endWriting]
    rcases h.shutdown (ends side).descriptor false true with ⟨h', e | ⟨⟩⟩
    · rfl
    · rfl

structure Joined (ends : Side → Socket) (h : Host) (id : Side → Nat) (e : Side → Endpoint) :
    Prop where
  apart : ∀ side, id side.other ≠ id side
  found : ∀ side, h.socket? (ends side).descriptor = .ok (id side, e side)
  faces : ∀ side, (e side).Faces (id side.other)

def view (ends : Side → Socket) : View Host where
  isUp h := ∃ id e, Joined ends h id e
  queued side h :=
    match h.socket? (ends side).descriptor with
    | .ok (_, e) => queuedBytes e.inbox
    | .error _ => []
  ended side h := ∃ id e, h.socket? (ends side).descriptor = .ok (id, e) ∧ e.readShut = true

variable {ends : Side → Socket} {h h' : Host} {id : Side → Nat} {e : Side → Endpoint}

namespace Joined

theorem isUp (hj : Joined ends h id e) : (view ends).isUp h := ⟨id, e, hj⟩

theorem queued (hj : Joined ends h id e) (side : Side) :
    (view ends).queued side h = queuedBytes (e side).inbox := by
  rw [view]
  dsimp only
  rw [hj.found]

/-- Nothing more can come for a side exactly if its reading half is shut. -/
theorem ended_iff (hj : Joined ends h id e) (side : Side) :
    (view ends).ended side h ↔ (e side).readShut = true := by
  constructor
  · rintro ⟨n, o, hfound, hshut⟩
    rw [hj.found] at hfound
    cases hfound
    exact hshut
  · exact fun hshut => ⟨_, _, hj.found side, hshut⟩

theorem endpoint? (hj : Joined ends h id e) (side : Side) :
    h.endpoint? (id side) = some (e side) := Host.endpoint?_of_socket? (hj.found side)

/-- One end of a connection is changed and still is one. -/
theorem set (hj : Joined ends h id e) (side : Side) {o : Endpoint} (ho : o.Faces (id side.other)) :
    Joined ends (h.setEndpoint (id side) o) id fun each => if each = side then o else e each := by
  refine ⟨hj.apart, fun each => ?_, fun each => ?_⟩
  · have hr := Host.resource?_of_socket? (hj.found each)
    rw [← h.resource?_setEndpoint (id side) o] at hr
    apply Host.socket?_eq_ok hr
    rw [Host.endpoint?_setEndpoint_eq, hj.endpoint?, hj.endpoint?]
    by_cases heach : each = side
    · rw [if_pos (congrArg id heach), if_pos heach]
      rfl
    · have hne : id each ≠ id side := by
        rw [Side.eq_other_of_ne heach]
        exact hj.apart side
      rw [if_neg hne, if_neg heach]
  · by_cases heach : each = side
    · rw [if_pos heach, heach]
      exact ho
    · rw [if_neg heach]
      exact hj.faces each

theorem queued_set (hj : Joined ends h id e) (side : Side) {o : Endpoint}
    (ho : o.Faces (id side.other)) (each : Side) :
    (view ends).queued each (h.setEndpoint (id side) o) =
      if each = side then queuedBytes o.inbox else queuedBytes (e each).inbox := by
  rw [(hj.set side ho).queued]
  split
  · rfl
  · rfl

/-- Nothing ends where an end is changed that is not shut for reading by it. -/
theorem ended_set (hj : Joined ends h id e) (side : Side) {o : Endpoint}
    (ho : o.Faces (id side.other)) (hshut : o.readShut = true → (e side).readShut = true)
    (each : Side) (he : (view ends).ended each (h.setEndpoint (id side) o)) :
    (view ends).ended each h := by
  rw [(hj.set side ho).ended_iff] at he
  rw [hj.ended_iff]
  split at he
  next heach =>
    rw [heach]
    exact hshut he
  · exact he

/-- An end that is changed without its bytes moves none. -/
theorem rests_set (hj : Joined ends h id e) (side : Side) {o : Endpoint}
    (ho : o.Faces (id side.other)) (hbytes : queuedBytes o.inbox = queuedBytes (e side).inbox)
    (hshut : o.readShut = true → (e side).readShut = true) :
    (view ends).Rests h (h.setEndpoint (id side) o) := by
  refine ⟨(hj.set side ho).isUp, fun each => ?_, hj.ended_set side ho hshut⟩
  rw [hj.queued_set side ho, hj.queued]
  split
  next heach => rw [heach, hbytes]
  · rfl

/-- Receiving on one of the ends. -/
theorem receive (hj : Joined ends h id e) (side : Side) (n : Nat) :
    (view ends).Answered h (fun h' p => (view ends).Takes side n p.data h h' ∧ p.passed = [])
      (h.receive (ends side).descriptor n) := by
  obtain ⟨hfaces, hshut, htake⟩ := (hj.faces side).take n
  have hlen (p : Packet) : ((e side).take n).2 = .ok p → p.data.length ≤ n :=
    Endpoint.length_of_take
  rw [Host.receive, hj.found]
  dsimp only
  rcases hanswer : (e side).take n with ⟨o, x | p⟩
  · rw [hanswer] at hfaces hshut htake
    exact hj.rests_set side hfaces htake hshut
  · rw [hanswer] at hfaces hshut htake hlen
    obtain ⟨hbytes, hpassed, hempty⟩ := htake
    refine ⟨⟨(hj.set side hfaces).isUp, ?_, ?_, hj.ended_set side hfaces hshut, hlen p rfl, ?_⟩,
      hpassed⟩
    · rw [hj.queued, hj.queued_set side hfaces, if_pos rfl]
      exact hbytes
    · rw [hj.queued, hj.queued_set side hfaces, if_neg side.other_ne]
    · intro hn hd
      obtain ⟨hinbox, hended⟩ := hempty hn hd
      rw [hj.queued, hinbox, hj.ended_iff]
      exact ⟨rfl, hended⟩

/-- Sending bytes from one of the ends. -/
theorem send (hj : Joined ends h id e) (side : Side) (bytes : Bytes) :
    (view ends).Answered h (fun h' n => (view ends).Adds side (bytes.take n) h h')
      (h.send (ends side).descriptor ⟨[bytes], none⟩) := by
  have hoffer : (⟨[bytes], none⟩ : Offer).bytes = bytes := List.append_nil bytes
  rw [Host.send, hj.found, Host.passedBy]
  dsimp only
  rw [(hj.faces side).kind, hoffer]
  dsimp only
  rw [Host.sendStream, (hj.faces side).peer]
  dsimp only
  by_cases hshut : (e side).writeShut = true
  · rw [if_pos hshut]
    exact .refl hj.isUp
  rw [if_neg hshut]
  by_cases hnone : bytes.isEmpty = true
  · rw [if_pos hnone]
    refine ⟨hj.isUp, ?_, rfl, fun _ he => he⟩
    rw [List.take_zero, List.append_nil]
  rw [if_neg hnone, hj.endpoint?]
  dsimp only
  by_cases hclosed : (e side.other).readShut = true
  · rw [if_pos hclosed]
    exact .refl hj.isUp
  rw [if_neg hclosed]
  obtain ⟨hbytes, hplain⟩ := packets_plain (e side).packetLen bytes
  have hother := hj.faces side.other
  have hfaces : ({ e side.other with
      inbox := (e side.other).inbox ++ packets (e side).packetLen [] bytes } : Endpoint).Faces
      (id side.other.other) :=
    ⟨hother.kind, hother.listening, hother.peer, fun p hp =>
      (List.mem_append.mp hp).elim (hother.plain p) (hplain p)⟩
  rw [Host.deliver, Host.modifyEndpoint_eq (hj.endpoint? side.other)]
  refine ⟨(hj.set side.other hfaces).isUp, ?_, ?_,
    hj.ended_set side.other hfaces fun hended => hended⟩
  · rw [hj.queued_set side.other hfaces, hj.queued, if_pos rfl, List.take_length]
    exact List.flatMap_append.trans (congrArg _ hbytes)
  · rw [hj.queued_set side.other hfaces, hj.queued, if_neg side.other_ne.symm]

/-- Shutting halves of one of the ends. -/
theorem shut (hj : Joined ends h id e) (side : Side) (half : Half) :
    (view ends).Answered h (fun h' _ => (view ends).Shuts side half h h')
      (h.shutdown (ends side).descriptor (half = .reading) (half = .writing)) := by
  have hfaces := hj.faces side
  have hother := hj.faces side.other
  have hj₁ := hj.set side
    (o := { e side with
      readShut := (e side).readShut || decide (half = .reading)
      writeShut := (e side).writeShut || decide (half = .writing) })
    ⟨hfaces.kind, hfaces.listening, hfaces.peer, hfaces.plain⟩
  have hfound := hj₁.endpoint? side.other
  rw [if_neg side.other_ne] at hfound
  have hj₂ := hj₁.set side.other
    (o := { e side.other with
      readShut := (e side.other).readShut || decide (half = .writing)
      writeShut := (e side.other).writeShut || decide (half = .reading) })
    ⟨hother.kind, hother.listening, hother.peer, hother.plain⟩
  rw [Host.shutdown_of_stream (hj.found side) hfaces.kind hfaces.peer,
    Host.modifyEndpoint_eq hfound]
  refine ⟨hj₂.isUp, fun each => ?_, fun each => ?_⟩
  · rw [hj₂.queued, hj.queued]
    by_cases hother : each = side.other
    · rw [if_pos hother, hother]
    rw [if_neg hother]
    by_cases hside : each = side
    · rw [if_pos hside, hside]
    · rw [if_neg hside]
  · rw [hj₂.ended_iff, hj.ended_iff]
    by_cases hother : each = side.other
    · rw [if_pos hother, Bool.or_eq_true, decide_eq_true_iff, hother]
      exact Or.imp_right fun hhalf => .inr ⟨hhalf, side.other_other.symm⟩
    rw [if_neg hother]
    have hside : each = side := (Side.eq_other_of_ne hother).trans side.other_other
    rw [if_pos hside, Bool.or_eq_true, decide_eq_true_iff, hside]
    exact Or.imp_right fun hhalf => .inl ⟨hhalf, rfl⟩

end Joined

/-- The sockets of a host do what is asked of the kernel of a stream. -/
theorem isStream_link (hk : (ends .first).kind = .stream) : (link ends).IsStream (view ends) where
  kind := hk
  send side bytes hup := by
    obtain ⟨id, e, hj⟩ := hup
    exact hj.send side bytes
  read {h} side n hup := by
    obtain ⟨id, e, hj⟩ := hup
    have hreceive := hj.receive side n
    have hread : ((link ends).source side).read h n = ((h.receive (ends side).descriptor n).1,
        (h.receive (ends side).descriptor n).2.map Packet.data) := rfl
    rw [hread]
    rcases hcame : h.receive (ends side).descriptor n with ⟨h', x | p⟩
    · rw [hcame] at hreceive
      exact hreceive
    · rw [hcame] at hreceive
      exact hreceive.1
  receive {h} side n room hup := by
    obtain ⟨id, e, hj⟩ := hup
    have hreceive := hj.receive side n
    have hreceiver : (link ends).receiver side = Host.receiver (ends side).descriptor := rfl
    rw [hreceiver, Host.receiver]
    dsimp only
    rcases hcame : h.receive (ends side).descriptor n with ⟨h', x | p⟩
    · rw [hcame] at hreceive
      exact hreceive
    · rw [hcame] at hreceive
      obtain ⟨htakes, hpassed⟩ := hreceive
      dsimp only
      -- Nothing came along, so nothing is left out and the table stays as it is.
      rw [hpassed, List.take_nil]
      exact ⟨htakes, rfl⟩
  shut side half hup := by
    obtain ⟨id, e, hj⟩ := hup
    exact hj.shut side half

/-- Two sockets that were just made by one call are connected; nothing waits, and nothing ended. -/
theorem fresh_pair {first second : Socket} (hp : pair h .stream = (h', .ok (first, second))) :
    first.kind = .stream ∧ (view (Side.pick first second)).Fresh h' := by
  have hok : h.permit .socketpair = .ok () := by
    cases hpermit : h.permit .socketpair with
    | ok => rfl
    | error x =>
      rw [pair, Host.pair, hpermit] at hp
      cases hp
  obtain ⟨made, hpair, hfirst, hsecond⟩ := h.pair_eq hok .stream
  rw [pair, hpair] at hp
  cases hp
  rw [← made.endpoint?_install (.endpoint h.fresh),
    ← Host.endpoint?_install _ (.endpoint (h.fresh + 1))] at hfirst hsecond
  have hne : made.freshDescriptor ≠ (made.install (.endpoint h.fresh)).1.freshDescriptor :=
    Nat.ne_of_lt (Host.lt_freshDescriptor _ List.mem_cons_self)
  have hj : Joined (Side.pick ⟨made.freshDescriptor, .stream⟩
      ⟨(made.install (.endpoint h.fresh)).1.freshDescriptor, .stream⟩)
      ((made.install (.endpoint h.fresh)).1.install (.endpoint (h.fresh + 1))).1
      (Side.pick h.fresh (h.fresh + 1))
      (Side.pick { kind := .stream, knowsPeer := true, peer := some (h.fresh + 1) }
        { kind := .stream, knowsPeer := true, peer := some h.fresh }) := by
    refine ⟨fun side => ?_, fun side => ?_, fun side => ?_⟩
    · cases side with
      | first => exact Nat.succ_ne_self _
      | second => exact (Nat.succ_ne_self _).symm
    · cases side with
      | first =>
        refine Host.socket?_eq_ok ?_ hfirst
        exact (Host.resource?_install_of_ne _ _ hne).trans (made.resource?_install _)
      | second => exact Host.socket?_eq_ok (Host.resource?_install _ _) hsecond
    · cases side with
      | first => exact ⟨rfl, rfl, rfl, fun _ hp => absurd hp List.not_mem_nil⟩
      | second => exact ⟨rfl, rfl, rfl, fun _ hp => absurd hp List.not_mem_nil⟩
  refine ⟨rfl, hj.isUp, fun side => ?_, fun side => ?_⟩
  · rw [hj.queued]
    cases side with
    | first => rfl
    | second => rfl
  · rw [hj.ended_iff]
    cases side with
    | first => exact Bool.false_ne_true
    | second => exact Bool.false_ne_true

end Socket

end LocalRecords
