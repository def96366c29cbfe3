import LocalRecords.Proofs.Record.Emission
import LocalRecords.Proofs.Server.Table

namespace LocalRecords

variable {σ δ : Type}

structure Dispatch (σ δ : Type) where
  parcel : Parcel δ
  sending : Sending σ

namespace Dispatch

def IsSent (d : Dispatch σ δ) : Prop := ∃ n, d.sending.outcome = .ok n

def cargo (d : Dispatch σ δ) : Cargo δ := d.sending.cargo d.parcel.table

end Dispatch

def Sink.dispatch (sink : Sink σ) (t : σ) : List (Parcel δ) → List (Dispatch σ δ)
  | [] => []
  | p :: parcels =>
    let d : Dispatch σ δ := ⟨p, sink.emitWith t p.record p.journal.toList⟩
    d :: sink.dispatch d.sending.state parcels

namespace Sink

variable (sink : Sink σ)

/-- A parcel that is reported as sent has put its cargo on the way. -/
theorem emitWith_cargo_of_sent (hs : sink.Honest) (t : σ) {p : Parcel δ} {limits : Limits}
    (hf : p.Fits limits) {n : Nat}
    (hsent : (sink.emitWith t p.record p.journal.toList).outcome = .ok n) :
    (sink.emitWith t p.record p.journal.toList).cargo p.table = p.cargo := by
  have hone : p.journal.toList.length ≤ Control.maxDescriptors :=
    Nat.le_trans Option.length_toList_le (by decide)
  have hpassed : p.journal.toList.map p.table = p.passed.toList := by
    rw [Parcel.passed, Option.toList_map]
  have htaken : (sink.emitWith t p.record p.journal.toList).taken = p.record.encode := by
    cases sink.emitWith_leaves hs t hf.regular p.journal.toList with
    | record outcome taken regular => rw [taken, Record.encode_eq_received]
    | nothing e outcome harmless taken =>
      rw [hsent] at outcome
      cases outcome
    | part e outcome fatal start short =>
      rw [hsent] at outcome
      cases outcome
  rw [sink.emitWith_cargo p.table hs t p.record hone, hpassed, htaken, Parcel.cargo]

/-- Parcels that are all reported as sent have put their cargoes on the way, in order. -/
theorem dispatch_cargo (hs : sink.Honest) {limits : Limits} {parcels : List (Parcel δ)}
    (hf : ∀ p ∈ parcels, p.Fits limits) {t : σ} (hsent : ∀ d ∈ sink.dispatch t parcels, d.IsSent) :
    (sink.dispatch t parcels).flatMap Dispatch.cargo = parcels.flatMap Parcel.cargo := by
  induction parcels generalizing t with
  | nil => rfl
  | cons p parcels ih =>
    rw [dispatch] at hsent ⊢
    dsimp only at hsent ⊢
    obtain ⟨n, hn⟩ := hsent _ List.mem_cons_self
    have hmore := ih (fun q hq => hf q (List.mem_cons_of_mem p hq))
      (fun d hd => hsent d (List.mem_cons_of_mem _ hd))
    rw [List.flatMap_cons, List.flatMap_cons, hmore, Dispatch.cargo,
      sink.emitWith_cargo_of_sent hs t (hf p List.mem_cons_self) hn]

end Sink

namespace Server

/-- However the reads of a connection cut what was sent to it, and whatever happens to the others
meanwhile, its records are handed on in order, each with the descriptor that was passed along with
it, if one was. Then no descriptor waits and no byte is unread. -/
theorem run_pairs_descriptors {sink : Sink σ} (hs : sink.Honest) (t : σ)
    {parcels : List (Parcel δ)} {s : Server δ} {id : ConnectionNumber} {events : List (Event δ)}
    (hnew : s.find? id = some (.new s.limits)) (hf : ∀ p ∈ parcels, p.Fits s.limits)
    (hsent : ∀ d ∈ sink.dispatch t parcels, d.IsSent) (hend : .ended id ∉ events)
    (hcut : Cargo.BroughtBy ((sink.dispatch t parcels).flatMap Dispatch.cargo) (reads id events)) :
    let r := s.run events
    r.deliveriesOf id = parcels.map Parcel.delivery ∧
      (∃ c, r.server.find? id = some c ∧ c.queue = [] ∧ c.decoder.available = 0) ∧
      (r.server.step (.ended id)).unclaimed = [] := by
  intro r
  obtain ⟨pieces, hpieces, hreads⟩ := hcut
  rw [sink.dispatch_cargo hs hf hsent] at hpieces
  have hshort : ∀ p ∈ parcels.head?, ([] : Cargo δ).length < p.cargo.length := by
    intro p hp
    have hfits := hf p (List.mem_of_mem_head? hp)
    rw [p.length_cargo]
    exact List.length_pos_iff.mpr hfits.encode_ne_nil
  obtain ⟨hdeliveries, hok, hholds⟩ :=
    Connection.receiveAll_of_pieces pieces (Connection.holds_new s.limits) hf hpieces hshort
  rw [← hreads] at hdeliveries hok hholds
  obtain ⟨hfind, hserved⟩ := run_serves hnew hend hok
  have hqueue := hholds.queue
  refine ⟨hserved.trans hdeliveries, ⟨_, hfind, hqueue, ?_⟩, ?_⟩
  · rw [Decoder.available_eq_length, hholds.unread]
    rfl
  · change ((r.server.find? id).map Connection.queue).getD [] = []
    rw [hfind, Option.map_some, Option.getD_some, hqueue]
    rfl

/-- The first descriptor comes before the rest of its journal, and that comes with the second. In
between another connection brings what is no record. -/
theorem run_pairs_descriptors_acrossReads :
    let sink := (Script.sink false).capped
    let table : DescriptorNumber → Nat := fun d => d.toNat + 100
    let log : Parcel Nat := ⟨.inline .log [7, 8] [], .inline _ _ _, none, by decide, table⟩
    let journal (d : DescriptorNumber) : Parcel Nat :=
      ⟨.behindDescriptor 4096 [9], .behindDescriptor _ _, some d, by simp; rfl, table⟩
    let parcels := [log, journal 5, journal 6]
    let server := ({ limits := {}, owner := 0 } : Server Nat).step (.arrived (some 0) true) |>.server
    let cargo := parcels.flatMap Parcel.cargo
    let first := cargo.take 25
    let second := (cargo.drop 25).take 27
    let third := (cargo.drop 25).drop 27
    let events : List (Event Nat) :=
      [.received 1 (Cargo.bytes first) (Cargo.attached first), .arrived (some 0) true,
        .received 1 (Cargo.bytes second) (Cargo.attached second),
        .received 2 (List.replicate 20 9) [3], .stopped,
        .received 1 (Cargo.bytes third) (Cargo.attached third)]
    sink.Honest ∧ server.find? 1 = some (.new server.limits) ∧
      (∀ p ∈ parcels, p.Fits server.limits) ∧
      (∀ d ∈ sink.dispatch [.accept 5, .fail (.os 4)] parcels, d.IsSent) ∧
      .ended 1 ∉ events ∧
      Cargo.BroughtBy ((sink.dispatch [.accept 5, .fail (.os 4)] parcels).flatMap Dispatch.cargo)
        (reads 1 events) ∧
      (server.run events).deliveriesOf 1 =
        [⟨log.record.received, none⟩, ⟨(journal 5).record.received, some 105⟩,
          ⟨(journal 6).record.received, some 106⟩] := by
  intro sink table log journal parcels server cargo first second third events
  have hs : sink.Honest := (Script.sink false).honest_capped
  have hnew : server.find? 1 = some (.new server.limits) := rfl
  have hf : ∀ p ∈ parcels, p.Fits server.limits := by
    intro p hp
    simp only [parcels, List.mem_cons, List.not_mem_nil, or_false] at hp
    rcases hp with rfl | rfl | rfl <;> exact ⟨⟨by decide, by decide⟩, by decide⟩
  have houtcomes : (sink.dispatch [.accept 5, .fail (.os 4)] parcels).map (·.sending.outcome) =
      [.ok 32, .ok 26, .ok 26] := by
    cbv
  have hsent : ∀ d ∈ sink.dispatch [.accept 5, .fail (.os 4)] parcels, d.IsSent := by
    intro d hd
    have hmem : d.sending.outcome ∈
        (sink.dispatch [.accept 5, .fail (.os 4)] parcels).map (·.sending.outcome) :=
      List.mem_map_of_mem hd
    rw [houtcomes] at hmem
    simp only [List.mem_cons, List.not_mem_nil, or_false] at hmem
    rcases hmem with h | h | h <;> exact ⟨_, h⟩
  have hend : .ended 1 ∉ events := by simp [events]
  have hcut : Cargo.BroughtBy
      ((sink.dispatch [.accept 5, .fail (.os 4)] parcels).flatMap Dispatch.cargo)
      (reads 1 events) := by
    refine ⟨[first, second, third], ?_, rfl⟩
    rw [sink.dispatch_cargo hs hf hsent]
    simp only [first, second, third, List.flatten_cons, List.flatten_nil, List.append_nil,
      List.take_append_drop]
    rfl
  exact ⟨hs, hnew, hf, hsent, hend, hcut, (run_pairs_descriptors hs _ hnew hf hsent hend hcut).1⟩

end Server

end LocalRecords
