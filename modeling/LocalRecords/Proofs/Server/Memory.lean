import LocalRecords.Proofs.Record.Buffer
import LocalRecords.Proofs.Server.Connection
import LocalRecords.Settings.Basic

namespace LocalRecords.Connection

variable {δ : Type}

theorem drained_receive {c : Connection δ} {limits : Limits} (hc : c.decoder.Drained limits)
    (bytes : Bytes) (descriptors : List δ) (hok : (c.receive bytes descriptors).error = none) :
    (c.receive bytes descriptors).connection.decoder.Drained limits := by
  have hlimits : (c.decoder.push bytes).limits = limits := by
    rw [Decoder.limits_push, hc.limits]
  rw [receive, handOn_eq_decodeAll] at hok ⊢
  rw [← hlimits]
  exact Decoder.drained_of_decodeAll (Decoder.sound_push hc.sound bytes) hok

/-- Between two reads every whole record was taken from the decoder. -/
theorem drained_receiveAll {limits : Limits} (reads : List (Bytes × List δ)) {c : Connection δ}
    (hc : c.decoder.Drained limits) (hok : (c.receiveAll reads).error = none) :
    (c.receiveAll reads).connection.decoder.Drained limits := by
  -- On the reads: each one starts and ends with a drained decoder.
  induction reads generalizing c with
  | nil => exact hc
  | cons r rs ih =>
    have hfirst := receive_ok_of_receiveAll hok
    rw [receiveAll_of_ok hfirst] at hok ⊢
    exact ih (drained_receive hc r.1 r.2 hfirst) hok

/-- What a connection keeps is bounded by its settings. However many reads it has worked off, it
waits with less than one record unread, and once the next read is pushed the buffer, what was
returned of it included, holds less than two records, or one and 4096 bytes, and the read. -/
theorem receiveAll_bounded (settings : Settings) (reads : List (Bytes × List δ))
    (hok : ((new settings.limits).receiveAll reads).error = none) :
    let d := ((new settings.limits).receiveAll reads).connection.decoder
    let longest := Header.size + 2 * delimiter.length + settings.limits.payload.toNat +
      settings.limits.metadata.toNat
    (∀ bytes : Bytes, bytes.length ≤ settings.readSize.toNat →
      (d.push bytes).buffer.size ≤ longest + max 4096 longest + settings.readSize.toNat) ∧
    d.decode = .ok none ∧ d.available < longest ∧
    ∀ d' : Decoder, d'.limits = settings.limits → d'.decode = .ok none → d'.available < longest := by
  intro d longest
  have hd : d.Drained settings.limits :=
    drained_receiveAll reads (Decoder.drained_new settings.limits) hok
  have hlt : d.available < longest := hd.available_lt
  refine ⟨fun bytes hbytes => ?_, hd.decode, hlt, fun d' hlimits hnone => ?_⟩
  · calc (d.push bytes).buffer.size
        ≤ d.available + max Decoder.minDropped d.available + bytes.length :=
          Decoder.size_push_le hd.sound bytes
      _ ≤ longest + max 4096 longest + settings.readSize.toNat := by
          rw [Decoder.minDropped]
          omega
  · have h := Decoder.available_lt_longest hnone
    rw [hlimits] at h
    exact h

/-- A record in two reads, and after it most of another one of the largest size that is allowed. -/
theorem receiveAll_bounded_cut :
    let settings : Settings :=
      { path := [0x2F, 0x73], readSize := 24, limits := { payload := 4, metadata := 0 } }
    let reads : List (Bytes × List Nat) :=
      [([1, 0, 1, 0, 0, 0, 0, 0, 0, 0, 0, 0, 0, 0, 0, 0, 0, 0, 0, 0, 0x42, 0x52, 0x45, 0x41], []),
       ([0x4B, 0x42, 0x52, 0x45, 0x41, 0x4B, 1, 0, 1, 0, 4, 0, 0, 0, 0, 0, 0, 0, 0, 0, 0, 0, 0, 0],
        [7]),
       ([0, 0, 9, 9, 9, 9, 0x42, 0x52, 0x45, 0x41, 0x4B, 0x42, 0x52, 0x45, 0x41], [])]
    let r := (new settings.limits).receiveAll reads
    r.error = none ∧ r.connection.decoder.available < 34 ∧
      ∀ bytes : Bytes, bytes.length ≤ 24 →
        (r.connection.decoder.push bytes).buffer.size ≤ 34 + 4096 + 24 := by
  intro settings reads r
  have hok : r.error = none := by decide +kernel
  obtain ⟨hpush, -, hlt, -⟩ := receiveAll_bounded settings reads hok
  exact ⟨hok, hlt, hpush⟩

end LocalRecords.Connection
