import LocalRecords.Proofs.Host.Intake
import LocalRecords.Proofs.Server.Connection
import LocalRecords.Proofs.Settings.Bounds
import LocalRecords.Server.Service

namespace LocalRecords

variable {δ : Type}

namespace Cargo

theorem bytes_take (c : Cargo δ) (n : Nat) : bytes (c.take n) = (bytes c).take n := List.map_take

/-- What is passed comes with the first of the bytes, however few of them are taken. -/
theorem attached_take_load (things : List δ) {bs : Bytes} (hb : bs ≠ []) {n : Nat} (hn : 0 < n) :
    attached ((load things bs).take n) = things := by
  cases bs with
  | nil => exact absurd rfl hb
  | cons b bs =>
    cases n with
    | zero => exact absurd hn (Nat.lt_irrefl 0)
    | succ n => simp [load, attached, ← List.map_take]

end Cargo

namespace Connection

/-- What is handed on of the first `n` bytes of a parcel: the parcel if that is all of it, else
nothing. -/
theorem ofDatagram_take {p : Parcel δ} {limits : Limits} (hf : p.Fits limits) {n : Nat}
    (hn : 0 < n) :
    let r := ofDatagram limits (p.record.encode.take n) p.passed.toList
    (p.record.encode.length ≤ n → r.deliveries = [p.delivery] ∧ r.connection.queue = []) ∧
    (n < p.record.encode.length →
      r.deliveries = [] ∧ r.connection.queue = p.passed.toList) := by
  intro r
  have hbytes : Cargo.bytes (p.cargo.take n) = p.record.encode.take n := by
    rw [Cargo.bytes_take, Parcel.bytes_cargo]
  have hattached : Cargo.attached (p.cargo.take n) = p.passed.toList :=
    Cargo.attached_take_load _ hf.encode_ne_nil hn
  have hlen : (p.cargo.take n).length = min n p.record.encode.length := by
    rw [List.length_take, p.length_cargo]
  have hholds := (holds_new (δ := δ) limits).push (p.cargo.take n)
  have hone : ([p].flatMap Parcel.cargo) = p.cargo := List.flatMap_singleton _ _
  have hpart : [] ++ p.cargo.take n <+: [p].flatMap Parcel.cargo := by
    rw [hone, List.nil_append]
    exact List.take_prefix n p.cargo
  have hfits : ∀ q ∈ [p], q.Fits limits := by
    intro q hq
    rw [List.mem_singleton.mp hq]
    exact hf
  obtain ⟨done, left, rest, hparts, hheld, hshort, hdeliveries, herror, hrest⟩ :=
    handOn_of_prefix hholds hfits hpart
  rw [hbytes, hattached] at hdeliveries hrest
  have hr : r.deliveries = done.map Parcel.delivery := hdeliveries
  have hqueue : r.connection.queue = Cargo.attached rest := hrest.queue
  rw [hr, hqueue]
  rw [List.nil_append] at hheld
  cases done with
  | nil =>
    have hleft : left = [p] := hparts.symm
    have hall : p.cargo.take n = rest := hheld
    have hlt : rest.length < p.cargo.length := hshort p (by rw [hleft]; rfl)
    rw [← hall, hlen, p.length_cargo] at hlt
    refine ⟨fun hle => ?_, fun _ => ⟨rfl, ?_⟩⟩
    · omega
    · rw [← hall, hattached]
  | cons q done =>
    have hq : p = q ∧ [] = done ++ left := by
      rw [List.cons_append] at hparts
      exact List.cons.inj hparts
    obtain ⟨rfl, hnil⟩ := hq
    have hdone : done = [] := (List.append_eq_nil_iff.mp hnil.symm).1
    rw [hdone, List.flatMap_singleton] at hheld
    have hsum := congrArg List.length hheld
    rw [hlen, List.length_append, p.length_cargo] at hsum
    refine ⟨fun hle => ?_, fun hlt => ?_⟩
    · have hrestnil : rest = [] := List.length_eq_zero_iff.mp (by omega)
      rw [hdone, hrestnil]
      exact ⟨rfl, rfl⟩
    · omega

/-- To its receiver what was passed with a parcel is known by a descriptor of its own. -/
theorem ofDatagram_take_known {p : Parcel δ} {limits : Limits} (hf : p.Fits limits)
    {descriptor : Option Nat} (hsame : descriptor.toList.length = p.passed.toList.length) {n : Nat}
    (hn : 0 < n) :
    let r := ofDatagram limits (p.record.encode.take n) descriptor.toList
    (p.record.encode.length ≤ n →
      r.deliveries = [⟨p.record.received, descriptor⟩] ∧ r.connection.queue = []) ∧
    (n < p.record.encode.length →
      r.deliveries = [] ∧ r.connection.queue = descriptor.toList) := by
  let q : Parcel Nat := ⟨p.record, p.built, p.journal, p.paired, fun _ => descriptor.getD 0⟩
  have hq : q.passed = descriptor := by
    change p.journal.map (fun _ => descriptor.getD 0) = descriptor
    rw [Parcel.passed] at hsame
    cases hj : p.journal with
    | none =>
      rw [hj] at hsame
      cases descriptor with
      | none => rfl
      | some d => cases hsame
    | some number =>
      rw [hj] at hsame
      cases descriptor with
      | none => cases hsame
      | some d => rfl
  have hdatagram := ofDatagram_take (p := q) ⟨hf.within, hf.size_le⟩ hn
  rwa [Parcel.delivery, hq] at hdatagram

end Connection

namespace Record

/-- A record within limits is no longer than the longest that they allow. -/
theorem length_encode_le {r : Record} (hb : r.Built) {limits : Limits} (hw : r.Within limits) :
    r.encode.length ≤ limits.longest := by
  have hr := hb.regular hw
  have hm : r.header.metadataLen.toNat ≤ limits.metadata.toNat := by
    rw [metadataLen_header hw]
    exact hw.metadata_le
  rw [length_encode hr, Header.recordSize, Limits.longest]
  by_cases hp : r.header.type.hasPayload = true
  · have hl : r.payload.length = r.header.payloadLen.toNat := hr.payload.trans (if_pos hp)
    have hle := hw.payload_le
    rw [if_pos hp]
    omega
  · rw [if_neg hp]
    omega

end Record

namespace Settings

variable {c : Settings}

/-- A parcel within settings that were validated fits: 64 bits count its bytes. -/
theorem fits_of_validate (hv : c.validate = .ok ()) {p : Parcel δ}
    (hw : p.record.Within c.limits) : p.Fits c.limits := by
  have hlen := p.record.length_encode_le p.built hw
  exact ⟨hw, Nat.le_trans hlen (longest_le_of_validate hv)⟩

end Settings

theorem toList_head?_of_length_le_one {α : Type} {as : List α} (h : as.length ≤ 1) :
    as.head?.toList = as := by
  cases as with
  | nil => rfl
  | cons a more =>
    have hnone : more = [] :=
      List.length_eq_zero_iff.mp (Nat.le_zero.mp (Nat.le_of_succ_le_succ h))
    rw [hnone]
    rfl

/-- A parcel waits to be received as a datagram, and there can be a descriptor for what is passed
with it. -/
structure Arrives {σ ρ : Type} (intake : Intake σ ρ) (waiting : σ → List Bytes) (n : Nat)
    (p : Parcel ρ) (rest : List Bytes) (s : σ) : Prop where
  waiting : waiting s = p.record.encode :: rest
  attached : intake.attached s n = p.passed.toList
  left : p.passed.toList.length ≤ intake.left s

namespace Service

/-- A server of datagrams on a host. At its end of the socket, `e`, a datagram waits, and others
behind it. -/
structure Faces (h : Host) (sv : Service) (id : Nat) (e : Endpoint) (packet : Packet)
    (rest : List Packet) : Prop where
  kind : sv.settings.kind = .datagram
  held : h.socket? sv.socket.descriptor = .ok (id, e)
  endpoint : e.kind = .datagram
  inbox : e.inbox = packet :: rest

variable {h : Host} {sv : Service} {id : Nat} {e : Endpoint} {rest : List Packet}

theorem work?_of_faces {packet : Packet} (hf : Faces h sv id e packet rest) :
    work? h sv = some (readDatagram h sv) := by
  have hreadable := Host.isReadable_of_inbox hf.held hf.inbox
  rw [work?, hf.kind, if_neg (by decide), if_pos hreadable]

variable {p : Parcel Resource}

/-- A datagram that waits at the end of a server on a host arrives at its receiver. -/
theorem Faces.arrives (hf : Faces h sv id e ⟨p.record.encode, p.passed.toList⟩ rest)
    (hleft : p.passed.toList.length ≤ h.descriptorsLeft) (n : Nat) :
    Arrives (Host.intake sv.socket.descriptor) (Host.waiting sv.socket.descriptor) n p
      (rest.map Packet.data) h where
  waiting := by
    rw [Host.waiting, hf.held]
    dsimp only
    rw [if_pos hf.endpoint, hf.inbox]
    rfl
  attached := by
    have hcame := Host.receive_of_datagram hf.held hf.endpoint hf.inbox n
    rw [Host.intake]
    dsimp only
    rw [hcame]
  left := hleft

end Service

namespace Receiver

variable {σ ρ η : Type} {receiver : Receiver σ} {intake : Intake σ ρ} {waiting : σ → List Bytes}
  {c : Settings} {p : Parcel ρ} {rest : List Bytes} {s : σ}

/-- The bytes of a parcel are received as far as they fit, and what is passed with it has a
descriptor then. -/
theorem receiveInto_of_arrives (hk : receiver.Keeps intake) (hd : receiver.IsDatagram waiting)
    {n : Nat} (ha : Arrives intake waiting n p rest s) {limit : Nat} (hl : 0 < limit) :
    ∃ (before : σ) (receipt : Receipt) (descriptor : Option Nat),
      receiver.receiveThrough s n (Control.room (min limit Control.maxDescriptors)) =
        (before, .ok receipt) ∧
      waiting before = rest ∧
      Installed (intake.table s) (intake.table before) p.passed.toList descriptor.toList ∧
      receiver.receiveInto .datagram s n limit =
        (before, .ok ⟨.data (p.record.encode.take n).length, p.record.encode.take n,
          descriptor.toList⟩) := by
  have hinto := receiveInto_of_keeps hk .datagram s n limit
  obtain ⟨before, receipt, hcame, hbytes, hrest⟩ := receiveThrough_of_waiting hd ha.waiting n
    (Control.room (min limit Control.maxDescriptors))
  dsimp only at hinto
  rw [hcame] at hinto
  obtain ⟨numbers, hn, hanswer⟩ := hinto
  have hone : p.passed.toList.length ≤ 1 := Option.length_toList_le
  have hlength : numbers.length = p.passed.toList.length := by
    have hcount := hn.length_eq
    have hmax : 0 < min limit Control.maxDescriptors := by
      rw [Control.maxDescriptors]
      omega
    have hleft := ha.left
    rw [ha.attached, Control.capacity_room] at hcount
    omega
  have hwhole : ¬receipt.isTruncated = true := by
    rw [hn.isTruncated, ha.attached]
    omega
  have hreading : (if n = 0 then Reading.data 0 else .ofCount .datagram receipt.bytes.length) =
      .data (p.record.encode.take n).length := by
    rw [hbytes]
    split
    next hzero => rw [hzero, List.take_zero, List.length_nil]
    · exact if_neg fun h => Bool.false_ne_true h.2
  have hdescriptor : (numbers.map UInt32.toNat).head?.toList = numbers.map UInt32.toNat := by
    apply toList_head?_of_length_le_one
    rw [List.length_map]
    omega
  have hinstalled := hn.installed
  rw [ha.attached, hlength, List.take_length, ← hdescriptor] at hinstalled
  rw [if_neg hwhole, hreading, hbytes, ← hdescriptor] at hanswer
  exact ⟨before, receipt, _, hcame, hrest, hinstalled, hanswer⟩

/-- A receipt that brought bytes is taken for a datagram of its own. -/
theorem serveDatagram_of_received {before : σ} {k : Nat} {bytes : Bytes} {descriptors : List Nat}
    (hreceive : receiver.receiveInto .datagram s c.readSize.toNat Server.maxDescriptorsPerRead =
      (before, .ok ⟨.data k, bytes, descriptors⟩)) (hk : k ≠ 0)
    (handle : σ → Delivery Nat → σ × η) :
    receiver.serveDatagram handle c s =
      let handover := Connection.ofDatagram c.limits bytes descriptors
      let handled := handleEach handle before handover.deliveries
      (receiver.closeAll handled.1 handover.connection.queue, handled.2) := by
  obtain ⟨k, rfl⟩ := Nat.exists_eq_succ_of_ne_zero hk
  rw [serveDatagram, hreceive]
  rfl

/-- What is handed on of a parcel that came as one datagram. -/
theorem serveDatagram_of_arrives (hk : receiver.Keeps intake) (hd : receiver.IsDatagram waiting)
    (hv : c.validate = .ok ()) (hw : p.record.Within c.limits)
    (ha : Arrives intake waiting c.readSize.toNat p rest s) (handle : σ → Delivery Nat → σ × η) :
    ∃ (before : σ) (receipt : Receipt) (descriptor : Option Nat),
      receiver.receiveThrough s c.readSize.toNat (Control.room Server.maxDescriptorsPerRead) =
        (before, .ok receipt) ∧
      waiting before = rest ∧
      Installed (intake.table s) (intake.table before) p.passed.toList descriptor.toList ∧
      (p.record.encode.length ≤ c.readSize.toNat →
        receiver.serveDatagram handle c s =
          ((handle before ⟨p.record.received, descriptor⟩).1,
            [(handle before ⟨p.record.received, descriptor⟩).2])) ∧
      (c.readSize.toNat < p.record.encode.length →
        receiver.serveDatagram handle c s = (receiver.closeAll before descriptor.toList, [])) := by
  obtain ⟨hsize, -, -⟩ := Settings.bounds_of_validate hv
  have hfits := Settings.fits_of_validate hv hw
  have hlimit : 0 < Server.maxDescriptorsPerRead := by decide
  obtain ⟨before, receipt, descriptor, hcame, hrest, hinstalled, hreceive⟩ :=
    receiveInto_of_arrives hk hd ha hlimit
  have hcount : (p.record.encode.take c.readSize.toNat).length ≠ 0 := by
    have hne : 0 < p.record.encode.length := List.length_pos_iff.mpr hfits.encode_ne_nil
    rw [List.length_take]
    omega
  have hdatagram := Connection.ofDatagram_take_known hfits hinstalled.length_eq hsize
  have hserve := serveDatagram_of_received hreceive hcount handle
  refine ⟨before, receipt, descriptor, hcame, hrest, hinstalled, fun hle => ?_, fun hlt => ?_⟩
  · obtain ⟨hdeliveries, hqueue⟩ := hdatagram.1 hle
    dsimp only at hserve hdeliveries hqueue
    rw [hserve, hdeliveries, hqueue]
    rfl
  · obtain ⟨hdeliveries, hqueue⟩ := hdatagram.2 hlt
    dsimp only at hserve hdeliveries hqueue
    rw [hserve, hdeliveries, hqueue]
    rfl

/-- Over a kernel that gives of a datagram what there is room for and loses its end: of one record
that comes as a datagram, and what is passed with it, the handler is called exactly once with this
record and with a descriptor for what was passed, if the read buffer has room for the record. Of a
longer record, although it is within the limits, the handler is not called at all, and the
descriptor is closed. -/
theorem datagram_handled_iff_fits (hk : receiver.Keeps intake) (hd : receiver.IsDatagram waiting)
    (hv : c.validate = .ok ()) (hw : p.record.Within c.limits)
    (ha : Arrives intake waiting c.readSize.toNat p rest s)
    (handle : σ → Delivery Nat → σ × η) :
    let r := receiver.serveDatagram handle c s
    (p.record.encode.length ≤ c.readSize.toNat →
      ∃ (before : σ) (descriptor : Option Nat),
        waiting before = rest ∧
        Installed (intake.table s) (intake.table before) p.passed.toList descriptor.toList ∧
        r = ((handle before ⟨p.record.received, descriptor⟩).1,
          [(handle before ⟨p.record.received, descriptor⟩).2])) ∧
    (c.readSize.toNat < p.record.encode.length →
      r.2 = [] ∧ intake.table r.1 = intake.table s) := by
  intro r
  obtain ⟨before, -, descriptor, -, hrest, hinstalled, hshort, hlong⟩ :=
    serveDatagram_of_arrives hk hd hv hw ha handle
  refine ⟨fun hle => ⟨before, descriptor, hrest, hinstalled, hshort hle⟩, fun hlt => ?_⟩
  have hr : r = (receiver.closeAll before descriptor.toList, []) := hlong hlt
  rw [hr]
  exact ⟨rfl, table_closeAll_of_installed hk hinstalled⟩

/-- A journal behind a descriptor, in a read buffer that has room for just this record. -/
theorem datagram_handled_iff_fits_journal :
    let settings : Settings := { path := [0x73], kind := .datagram, readSize := 26 }
    let p : Parcel Resource := ⟨.behindDescriptor 4 [9], .behindDescriptor _ _, some 5,
      by simp; rfl, fun _ => .file 1⟩
    let e : Endpoint := { kind := .datagram, inbox := [⟨p.record.encode, p.passed.toList⟩] }
    let h : Host :=
      { endpoints := [(0, e)], openFiles := [(1, { content := [1, 2, 3, 4, 5] })],
        descriptors := [(3, .endpoint 0)], fresh := 2 }
    let sv : Service :=
      { settings := settings, socket := ⟨3, .datagram⟩,
        table := { limits := settings.limits, owner := 0 } }
    (Host.receiver 3).Keeps (Host.intake 3) ∧ (Host.receiver 3).IsDatagram (Host.waiting 3) ∧
      settings.validate = .ok () ∧ p.record.Within settings.limits ∧
      Arrives (Host.intake 3) (Host.waiting 3) settings.readSize.toNat p [] h ∧
      ∃ r, Service.work? h sv = some r ∧
        r.2.handled.map (fun x => (x.connection, x.record)) = [(1, p.record.received)] := by
  intro settings p e h sv
  have hk := Host.keeps_receiver 3
  have hd := Host.isDatagram_receiver 3
  have hv : settings.validate = .ok () := rfl
  have hw : p.record.Within settings.limits := ⟨by decide, by decide⟩
  have hf : Service.Faces h sv 0 e ⟨p.record.encode, p.passed.toList⟩ [] := ⟨rfl, rfl, rfl, rfl⟩
  have ha := hf.arrives (by decide) settings.readSize.toNat
  have hlen : p.record.encode.length ≤ settings.readSize.toNat := by decide
  have hhandled := datagram_handled_iff_fits hk hd hv hw ha fun h d =>
    Service.handle h Service.firstNumber d
  obtain ⟨before, descriptor, -, -, hr⟩ := hhandled.1 hlen
  refine ⟨hk, hd, hv, hw, ha, _, Service.work?_of_faces hf, ?_⟩
  rw [Service.readDatagram]
  change List.map _ ((Host.receiver 3).serveDatagram _ settings h).2 = _
  rw [hr]
  cases descriptor with
  | none => rfl
  | some d => rfl

end Receiver

namespace Service

variable {h : Host} {sv : Service} {id : Nat} {e : Endpoint} {rest : List Packet}
  {p : Parcel Resource}

/-- What a server on a host handles of a parcel that came as one datagram. -/
theorem handled_of_faces (hv : sv.settings.validate = .ok ())
    (hw : p.record.Within sv.settings.limits)
    (hf : Faces h sv id e ⟨p.record.encode, p.passed.toList⟩ rest)
    (hleft : p.passed.toList.length ≤ h.descriptorsLeft) :
    (p.record.encode.length ≤ sv.settings.readSize.toNat →
      ∃ (before : Host) (descriptor : Option Nat),
        before.endpoint? id = some { e with inbox := rest } ∧
        before.openFiles = h.openFiles ∧ descriptor.map before.resource? = p.passed.map some ∧
        (readDatagram h sv).2.handled = sv.handled ++
          [(handle before firstNumber ⟨p.record.received, descriptor⟩).2]) ∧
    (sv.settings.readSize.toNat < p.record.encode.length →
      (readDatagram h sv).2.handled = sv.handled) := by
  obtain ⟨before, receipt, descriptor, hcame, -, hinstalled, hshort, hlong⟩ :=
    Receiver.serveDatagram_of_arrives (Host.keeps_receiver _) (Host.isDatagram_receiver _) hv hw
      (hf.arrives hleft _) fun h d => handle h firstNumber d
  obtain ⟨hgone, hfiles⟩ :=
    Host.endpoint?_of_receiveThrough hf.held hf.endpoint hf.inbox hcame
  have hread : (readDatagram h sv).2.handled = sv.handled ++
      ((Host.receiver sv.socket.descriptor).serveDatagram (fun h d => handle h firstNumber d)
        sv.settings h).2 := rfl
  refine ⟨fun hle => ⟨before, descriptor, hgone, hfiles, ?_, ?_⟩, fun hlt => ?_⟩
  · have hfound := congrArg List.head? hinstalled.found
    rwa [List.head?_map, List.head?_map, Option.head?_toList, Option.head?_toList] at hfound
  · rw [hread, hshort hle]
  · rw [hread, hlong hlt]
    exact List.append_nil _

/-- With all settings but the kind as they are by default, a record of 65,537 bytes is lost. -/
theorem datagram_not_handled_of_long :
    let settings : Settings := { path := [0x73], kind := .datagram }
    let record : Record := .inline .log (List.replicate 65507 0x61) []
    let e : Endpoint := { kind := .datagram, inbox := [⟨record.encode, []⟩] }
    let h : Host := { endpoints := [(0, e)], descriptors := [(3, .endpoint 0)], fresh := 1 }
    let sv : Service :=
      { settings := settings, socket := ⟨3, .datagram⟩,
        table := { limits := settings.limits, owner := 0 } }
    settings.validate = .ok () ∧ record.Built ∧ record.Within settings.limits ∧
      Faces h sv 0 e ⟨record.encode, []⟩ [] ∧ ∃ r, work? h sv = some r ∧ r.2.handled = [] := by
  intro settings record e h sv
  have hv : settings.validate = .ok () := rfl
  have hpayload : record.payload.length = 65507 := List.length_replicate
  have hlimit : settings.limits.payload.toNat = 10485760 := rfl
  have hw : record.Within settings.limits := by
    refine ⟨?_, Nat.zero_le _⟩
    rw [hpayload, hlimit]
    decide
  let p : Parcel Resource := ⟨record, .inline _ _ _, none, by decide, fun _ => .file 0⟩
  have hf : Faces h sv 0 e ⟨p.record.encode, p.passed.toList⟩ [] := ⟨rfl, rfl, rfl, rfl⟩
  have hregular := p.built.regular hw
  have htype : p.record.header.type.hasPayload = true := rfl
  have hcarried : p.record.payload.length = p.record.header.payloadLen.toNat :=
    hregular.payload.trans (if_pos htype)
  have hannounced : p.record.header.payloadLen.toNat = 65507 := hcarried.symm.trans hpayload
  have hsize : p.record.header.recordSize = Header.size +
      (p.record.header.payloadLen.toNat + delimiter.length) + 0 + delimiter.length := rfl
  have hlong : settings.readSize.toNat < p.record.encode.length := by
    rw [Record.length_encode hregular, hsize, hannounced]
    decide
  have hlost := (handled_of_faces hv hw hf (Nat.zero_le _)).2 hlong
  exact ⟨hv, p.built, hw, hf, _, work?_of_faces hf, hlost⟩

end Service

end LocalRecords
