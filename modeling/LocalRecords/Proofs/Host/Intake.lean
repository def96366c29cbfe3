import LocalRecords.Proofs.Host.Kernel
import LocalRecords.Proofs.Socket.Intake

namespace LocalRecords.Host

def intake (d : Nat) : Intake Host Resource where
  table := resource?
  attached h n :=
    match (h.receive d n).2 with
    | .ok p => p.passed
    | .error _ => []
  left := descriptorsLeft

def waiting (d : Nat) (h : Host) : List Bytes :=
  match h.socket? d with
  | .ok (_, e) => if e.kind = .datagram then e.inbox.map Packet.data else []
  | .error _ => []

theorem descriptorsLeft_congr {h h' : Host} (hd : h'.descriptors = h.descriptors) :
    h'.descriptorsLeft = h.descriptorsLeft := by
  rw [descriptorsLeft, descriptorsLeft, freshDescriptor, freshDescriptor, hd]

theorem endpoints_installAll (h : Host) (rs : List Resource) :
    (h.installAll rs).1.endpoints = h.endpoints := by
  induction rs generalizing h with
  | nil => rfl
  | cons r rs ih => exact ih (h.install r).1

theorem openFiles_installAll (h : Host) (rs : List Resource) :
    (h.installAll rs).1.openFiles = h.openFiles := by
  induction rs generalizing h with
  | nil => rfl
  | cons r rs ih => exact ih (h.install r).1

theorem socket?_installAll {h : Host} {d id : Nat} {e : Endpoint}
    (hs : h.socket? d = .ok (id, e)) (rs : List Resource) :
    (h.installAll rs).1.socket? d = .ok (id, e) := by
  have hi := (h.installed_installAll rs).1
  have hr := resource?_of_socket? hs
  have hold : d ∉ (h.installAll rs).2 := by
    intro hmem
    rw [hi.fresh d hmem] at hr
    cases hr
  refine socket?_eq_ok ((hi.others d hold).trans hr) ?_
  rw [endpoint?, endpoints_installAll]
  exact endpoint?_of_socket? hs

/-- The numbers of descriptors that there can be are found again in words. -/
theorem map_toNat_installAll {h : Host} {rs : List Resource}
    (hroom : rs.length ≤ h.descriptorsLeft) :
    ((h.installAll rs).2.map UInt32.ofNat).map UInt32.toNat = (h.installAll rs).2 := by
  obtain ⟨hi, hbelow⟩ := h.installed_installAll rs
  rw [List.map_map]
  refine (List.map_congr_left fun d hd => ?_).trans (List.map_id _)
  have hlt := hbelow d hd
  have hsome : 0 < rs.length := hi.length_eq ▸ List.length_pos_of_mem hd
  have hbound : d < Word.count 4 := by
    rw [descriptorsLeft] at hroom
    omega
  exact UInt32.toNat_ofNat_of_lt' hbound

/-- No receipt of a host is interrupted, so it is made once. -/
theorem receiveThrough_receiver (d : Nat) (h : Host) (n room : Nat) :
    (receiver d).receiveThrough h n room = (receiver d).receive h n room := by
  have hnot {s : Host} {e : IoError} (hr : (receiver d).receive h n room = (s, .error e)) :
      ¬e.isInterrupted = true := by
    have hlt := (receiver d).patience_lt h n room e (congrArg Prod.snd hr)
    exact fun hi => Nat.not_lt_zero _ (hlt hi)
  rw [Receiver.receiveThrough]
  split
  next hr => exact hr.symm
  next hr =>
    rw [dif_neg (hnot hr)]
    exact hr.symm

/-- A socket of a host installs descriptors as far as there is room, and closes them one by one. -/
theorem keeps_receiver (d : Nat) : (receiver d).Keeps (intake d) where
  receive h n room := by
    have hkept := h.descriptors_receive d n
    have hnot {e : IoError} (he : (h.receive d n).2 = .error e) : ¬e.isInterrupted = true := by
      rw [isInterrupted_of_receive he]
      exact Bool.false_ne_true
    have hattached : (intake d).attached h n =
        match (h.receive d n).2 with
        | .ok p => p.passed
        | .error _ => [] := rfl
    rw [receiver]
    dsimp only
    rcases hr : h.receive d n with ⟨h', e | p⟩
    · rw [hr] at hkept hnot
      exact ⟨resource?_congr hkept, fun hi => absurd hi (hnot rfl)⟩
    rw [hr] at hkept hattached
    have hleft : h'.descriptorsLeft = h.descriptorsLeft := descriptorsLeft_congr hkept
    let fitting := min (Control.capacity room) h'.descriptorsLeft
    have hi := (h'.installed_installAll (p.passed.take fitting)).1
    have hroom : (p.passed.take fitting).length ≤ h'.descriptorsLeft :=
      Nat.le_trans (List.length_take_le _ _) (Nat.min_le_right _ _)
    have hnumbers := map_toNat_installAll hroom
    have hlength : ((h'.installAll (p.passed.take fitting)).2.map UInt32.ofNat).length =
        min fitting p.passed.length := by
      rw [List.length_map, hi.length_eq, List.length_take]
    refine ⟨_, ?_, ?_, rfl, ?_⟩
    · rw [hlength, hattached]
      change min (min (Control.capacity room) h'.descriptorsLeft) p.passed.length =
        min (min (Control.capacity room) h.descriptorsLeft) p.passed.length
      rw [hleft]
    · rw [hlength, hattached, hnumbers]
      have htake : p.passed.take (min fitting p.passed.length) = p.passed.take fitting := by
        rw [← List.take_take, List.take_length]
      have htable : (intake d).table h = h'.resource? := (resource?_congr hkept).symm
      rw [htable, htake]
      exact hi
    · rw [hlength, hattached]
      dsimp only
      rw [decide_eq_true_iff]
      omega
  close h d := h.resource?_close d

theorem exists_of_waiting {d : Nat} {h : Host} {datagram : Bytes} {rest : List Bytes}
    (hw : waiting d h = datagram :: rest) :
    ∃ id e p ps, h.socket? d = .ok (id, e) ∧ e.kind = .datagram ∧ e.inbox = p :: ps ∧
      p.data = datagram ∧ ps.map Packet.data = rest := by
  rw [waiting] at hw
  rcases hs : h.socket? d with x | ⟨id, e⟩
  · rw [hs] at hw
    cases hw
  rw [hs] at hw
  dsimp only at hw
  split at hw
  next hk =>
    obtain ⟨p, ps, hinbox, hp, hps⟩ := List.map_eq_cons_iff.mp hw
    exact ⟨id, e, p, ps, rfl, hk, hinbox, hp, hps⟩
  · cases hw

/-- A datagram that waits at a socket comes as far as there is room for it. Of the host only its
inbox and the table of descriptors change. -/
theorem receiver_of_datagram {h : Host} {d id : Nat} {e : Endpoint} {p : Packet}
    {ps : List Packet} (hs : h.socket? d = .ok (id, e)) (hk : e.kind = .datagram)
    (hi : e.inbox = p :: ps) (n room : Nat) :
    ∃ installed receipt,
      (receiver d).receive h n room =
        (((h.setEndpoint id { e with inbox := ps }).installAll installed).1, .ok receipt) ∧
      receipt.bytes = p.data.take n := by
  rw [receiver]
  dsimp only
  rw [receive_of_datagram hs hk hi]
  exact ⟨_, _, rfl, rfl⟩

/-- A socket of a host gives one datagram at a time, as far as there is room. -/
theorem isDatagram_receiver (d : Nat) : (receiver d).IsDatagram (waiting d) where
  failed {h h' n room x} hr hne := by
    obtain ⟨datagram, rest, hw⟩ := List.exists_cons_of_ne_nil hne
    obtain ⟨id, e, p, ps, hs, hk, hi, -, -⟩ := exists_of_waiting hw
    obtain ⟨installed, receipt, hcame, -⟩ := receiver_of_datagram hs hk hi n room
    rw [hcame] at hr
    cases hr
  brought {h h' n room r} hr {datagram rest} hw := by
    obtain ⟨id, e, p, ps, hs, hk, hi, rfl, rfl⟩ := exists_of_waiting hw
    obtain ⟨installed, receipt, hcame, hbytes⟩ := receiver_of_datagram hs hk hi n room
    rw [hcame] at hr
    cases hr
    refine ⟨hbytes, ?_⟩
    have hleft : (h.setEndpoint id { e with inbox := ps }).socket? d =
        .ok (id, { e with inbox := ps }) :=
      socket?_eq_ok ((h.resource?_setEndpoint _ _ _).trans (resource?_of_socket? hs))
        (endpoint?_setEndpoint (endpoint?_of_socket? hs) _)
    rw [waiting, socket?_installAll hleft]
    exact if_pos hk

/-- Receiving a datagram takes it out of the inbox and leaves the open files alone. -/
theorem endpoint?_of_receiveThrough {h before : Host} {d id n room : Nat} {e : Endpoint}
    {p : Packet} {rest : List Packet} {receipt : Receipt} (hs : h.socket? d = .ok (id, e))
    (hk : e.kind = .datagram) (hi : e.inbox = p :: rest)
    (hcame : (receiver d).receiveThrough h n room = (before, .ok receipt)) :
    before.endpoint? id = some { e with inbox := rest } ∧ before.openFiles = h.openFiles := by
  obtain ⟨installed, receipt', hreceive, -⟩ := receiver_of_datagram hs hk hi n room
  rw [receiveThrough_receiver, hreceive] at hcame
  cases hcame
  refine ⟨?_, openFiles_installAll _ _⟩
  rw [endpoint?, endpoints_installAll]
  exact endpoint?_setEndpoint (endpoint?_of_socket? hs) _

end LocalRecords.Host
