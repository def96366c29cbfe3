import LocalRecords.Proofs.Lookup
import LocalRecords.Socket.Receive

namespace LocalRecords

namespace Host

theorem endpoint?_setEndpoint_eq (h : Host) (id other : Nat) (e : Endpoint) :
    (h.setEndpoint id e).endpoint? other =
      if other = id then (h.endpoint? id).map fun _ => e else h.endpoint? other :=
  lookup_update h.endpoints id other e

theorem endpoint?_setEndpoint {h : Host} {id : Nat} {e : Endpoint} (he : h.endpoint? id = some e)
    (e' : Endpoint) : (h.setEndpoint id e').endpoint? id = some e' := by
  rw [endpoint?_setEndpoint_eq, if_pos rfl, he]
  rfl

theorem endpoint?_of_socket? {h : Host} {d id : Nat} {e : Endpoint}
    (hs : h.socket? d = .ok (id, e)) : h.endpoint? id = some e := by
  rw [socket?] at hs
  split at hs
  · cases hs
  · cases hs
  · split at hs
    · cases hs
    next he =>
      cases hs
      exact he

theorem socket?_eq_ok {h : Host} {d id : Nat} {e : Endpoint}
    (hr : h.resource? d = some (.endpoint id)) (he : h.endpoint? id = some e) :
    h.socket? d = .ok (id, e) := by
  rw [socket?, hr]
  dsimp only
  rw [he]

theorem resource?_of_socket? {h : Host} {d id : Nat} {e : Endpoint}
    (hs : h.socket? d = .ok (id, e)) : h.resource? d = some (.endpoint id) := by
  rw [socket?] at hs
  split at hs
  · cases hs
  · cases hs
  next hr =>
    split at hs
    · cases hs
    · cases hs
      exact hr

theorem resource?_setEndpoint (h : Host) (id : Nat) (e : Endpoint) (d : Nat) :
    (h.setEndpoint id e).resource? d = h.resource? d := rfl

theorem endpoint?_install (h : Host) (r : Resource) (id : Nat) :
    (h.install r).1.endpoint? id = h.endpoint? id := rfl

/-- What a descriptor that was just made stands for. -/
theorem resource?_install (h : Host) (r : Resource) :
    (h.install r).1.resource? (h.install r).2 = some r := List.lookup_cons_self

/-- A datagram that waits is received, as far as it fits, and what was passed with it. -/
theorem receive_of_datagram {h : Host} {d id : Nat} {e : Endpoint} {p : Packet}
    {rest : List Packet} (hs : h.socket? d = .ok (id, e)) (hk : e.kind = .datagram)
    (hi : e.inbox = p :: rest) (n : Nat) :
    h.receive d n = (h.setEndpoint id { e with inbox := rest }, .ok ⟨p.data.take n, p.passed⟩) := by
  have htake : e.take n = ({ e with inbox := rest }, .ok ⟨p.data.take n, p.passed⟩) := by
    obtain ⟨kind, _, _, _, inbox⟩ := e
    cases hk
    cases hi
    rfl
  rw [receive, hs]
  dsimp only
  rw [htake]

theorem isReadable_of_inbox {h : Host} {d id : Nat} {e : Endpoint} {p : Packet}
    {rest : List Packet} (hs : h.socket? d = .ok (id, e)) (hi : e.inbox = p :: rest) :
    h.isReadable d = true := by
  rw [isReadable, hs]
  dsimp only
  rw [Endpoint.isReadable, hi]
  rfl

end Host

end LocalRecords
