import Mathlib.Logic.Function.Basic
import LocalRecords.Proofs.Socket.Walk
import LocalRecords.Socket.Receiver

namespace LocalRecords

variable {σ ρ : Type}

/-- Some descriptors are new in a table, each for one of some things, and nothing else is. -/
structure Installed (before after : Nat → Option ρ) (things : List ρ) (descriptors : List Nat) :
    Prop where
  found : descriptors.map after = things.map some
  fresh : ∀ d ∈ descriptors, before d = none
  distinct : descriptors.Nodup
  others : ∀ d, d ∉ descriptors → after d = before d

theorem Installed.length_eq {before after : Nat → Option ρ} {things : List ρ}
    {descriptors : List Nat} (hi : Installed before after things descriptors) :
    descriptors.length = things.length := by
  have hfound := congrArg List.length hi.found
  rwa [List.length_map, List.length_map] at hfound

/-- What a kernel keeps for a receiver, as far as descriptors are concerned. -/
structure Intake (σ ρ : Type) where
  table : σ → Nat → Option ρ
  /-- What comes along with a receipt of so many bytes at most. -/
  attached : σ → Nat → List ρ
  /-- How many more descriptors there can be. -/
  left : σ → Nat

namespace Intake

variable (intake : Intake σ ρ)

structure Fails (e : IoError) (s s' : σ) : Prop where
  table : intake.table s' = intake.table s
  again : e.isInterrupted = true →
    intake.attached s' = intake.attached s ∧ intake.left s' = intake.left s

/-- Of what comes along as much is installed as there is room for, and it is told whether something
was left out. -/
structure Installs (n room : Nat) (s s' : σ) (r : Receipt) (numbers : List DescriptorNumber) :
    Prop where
  length_eq : numbers.length =
    min (min (Control.capacity room) (intake.left s)) (intake.attached s n).length
  installed : Installed (intake.table s) (intake.table s')
    ((intake.attached s n).take numbers.length) (numbers.map UInt32.toNat)
  control : r.control = Control.encode numbers
  isTruncated : r.isTruncated = true ↔ numbers.length < (intake.attached s n).length

def Answered (n room : Nat) (s : σ) : σ × Except IoError Receipt → Prop
  | (s', .error e) => intake.Fails e s s'
  | (s', .ok r) => ∃ numbers, intake.Installs n room s s' r numbers

variable {intake}

/-- A receipt that follows an interrupted one answers for both. -/
theorem Answered.after_interruption {n room : Nat} {s s' : σ} {e : IoError}
    {r : σ × Except IoError Receipt} (h' : intake.Answered n room s' r)
    (h : intake.Fails e s s') (he : e.isInterrupted = true) : intake.Answered n room s r := by
  obtain ⟨hattached, hleft⟩ := h.again he
  rcases r with ⟨s'', e' | r⟩
  · refine ⟨h'.table.trans h.table, fun he' => ?_⟩
    obtain ⟨hattached', hleft'⟩ := h'.again he'
    exact ⟨hattached'.trans hattached, hleft'.trans hleft⟩
  · obtain ⟨numbers, hlength, hinstalled, hcontrol, htruncated⟩ := h'
    rw [hattached, hleft] at hlength
    rw [hattached, h.table] at hinstalled
    rw [hattached] at htruncated
    exact ⟨numbers, hlength, hinstalled, hcontrol, htruncated⟩

end Intake

namespace Receiver

/-- What is asked of a kernel that descriptors are received from. -/
structure Keeps (receiver : Receiver σ) (intake : Intake σ ρ) : Prop where
  receive : ∀ s n room, intake.Answered n room s (receiver.receive s n room)
  close : ∀ s d, intake.table (receiver.close s d) = Function.update (intake.table s) d none

/-- What is asked of a kernel that datagrams are received from: the one that waits first comes as
far as there is room for it, and its end is lost. -/
structure IsDatagram (receiver : Receiver σ) (waiting : σ → List Bytes) : Prop where
  failed : ∀ {s s' n room e}, receiver.receive s n room = (s', .error e) → waiting s ≠ [] →
    e.isInterrupted = true ∧ waiting s' = waiting s
  brought : ∀ {s s' n room r}, receiver.receive s n room = (s', .ok r) →
    ∀ {datagram rest}, waiting s = datagram :: rest →
      r.bytes = datagram.take n ∧ waiting s' = rest

variable {receiver : Receiver σ} {intake : Intake σ ρ}

/-- A receipt that is made again while it is interrupted keeps what one call keeps. -/
theorem answered_receiveThrough (hk : receiver.Keeps intake) (s : σ) (n room : Nat) :
    intake.Answered n room s (receiver.receiveThrough s n room) := by
  fun_induction Receiver.receiveThrough receiver s n room with
  | case1 s s' r h =>
    have hreceive := hk.receive s n room
    rwa [h] at hreceive
  | case2 s s' e h hi ih =>
    have hreceive := hk.receive s n room
    rw [h] at hreceive
    exact ih.after_interruption hreceive hi
  | case3 s s' e h hi =>
    have hreceive := hk.receive s n room
    rwa [h] at hreceive

/-- A datagram that waits comes, cut to the room there is, and only its successors wait then. -/
theorem receiveThrough_of_waiting {waiting : σ → List Bytes} (hd : receiver.IsDatagram waiting)
    {s : σ} {datagram : Bytes} {rest : List Bytes} (hs : waiting s = datagram :: rest)
    (n room : Nat) :
    ∃ s' r, receiver.receiveThrough s n room = (s', .ok r) ∧ r.bytes = datagram.take n ∧
      waiting s' = rest := by
  have hsome {t : σ} (ht : waiting t = datagram :: rest) : waiting t ≠ [] := by
    rw [ht]
    exact List.cons_ne_nil _ _
  fun_induction Receiver.receiveThrough receiver s n room with
  | case1 s s' r h => exact ⟨s', r, rfl, hd.brought h hs⟩
  | case2 s s' e h hi ih => exact ih ((hd.failed h (hsome hs)).2.trans hs)
  | case3 s s' e h hi => exact absurd (hd.failed h (hsome hs)).1 hi

theorem table_closeAll (hk : receiver.Keeps intake) (s : σ) (descriptors : List Nat) (d : Nat) :
    intake.table (receiver.closeAll s descriptors) d =
      if d ∈ descriptors then none else intake.table s d := by
  induction descriptors generalizing s with
  | nil => exact (if_neg List.not_mem_nil).symm
  | cons first descriptors ih =>
    have hrest := ih (receiver.close s first)
    rw [hk.close] at hrest
    rw [closeAll, List.foldl_cons]
    refine hrest.trans ?_
    by_cases hmem : d ∈ descriptors
    · rw [if_pos hmem, if_pos (List.mem_cons_of_mem first hmem)]
    rw [if_neg hmem]
    by_cases hd : d = first
    · rw [hd, Function.update_self, if_pos List.mem_cons_self]
    · rw [Function.update_of_ne hd, if_neg (List.not_mem_cons_of_ne_of_not_mem hd hmem)]

/-- Closing what was installed undoes it. -/
theorem table_closeAll_of_installed (hk : receiver.Keeps intake) {s s' : σ} {things : List ρ}
    {descriptors : List Nat}
    (hi : Installed (intake.table s) (intake.table s') things descriptors) :
    intake.table (receiver.closeAll s' descriptors) = intake.table s := by
  funext d
  rw [table_closeAll hk]
  by_cases hd : d ∈ descriptors
  · rw [if_pos hd, hi.fresh d hd]
  · rw [if_neg hd, hi.others d hd]

end Receiver

namespace Control

/-- Room is made for an even number of descriptors. -/
theorem capacity_room (limit : Nat) : capacity (room limit) = limit + limit % 2 := by
  rw [capacity, room, space, headLen, align]
  split
  · omega
  · omega

end Control

namespace Receiver

variable {receiver : Receiver σ} {intake : Intake σ ρ}

/-- The descriptors that a receipt installs are found again in its control data. -/
theorem receiveInto_of_keeps (hk : receiver.Keeps intake) (kind : SocketType) (s : σ)
    (capacity maxDescriptors : Nat) :
    let limit := min maxDescriptors Control.maxDescriptors
    let answer := receiver.receiveInto kind s capacity maxDescriptors
    match receiver.receiveThrough s capacity (Control.room limit) with
    | (s', .error e) => answer = (s', .error (.refused .recv e)) ∧ intake.Fails e s s'
    | (s', .ok r) => ∃ numbers, intake.Installs capacity (Control.room limit) s s' r numbers ∧
      answer =
        if r.isTruncated then
          (receiver.closeAll s' (numbers.map UInt32.toNat),
            .error (.malformed (.descriptorsTruncated limit)))
        else
          (s', .ok ⟨if capacity = 0 then .data 0 else .ofCount kind r.bytes.length, r.bytes,
            numbers.map UInt32.toNat⟩) := by
  intro limit answer
  have hanswered := answered_receiveThrough hk s capacity (Control.room limit)
  have hanswer : answer = receiver.receiveInto kind s capacity maxDescriptors := rfl
  rw [receiveInto] at hanswer
  dsimp only at hanswer
  rcases hcame : receiver.receiveThrough s capacity (Control.room limit) with ⟨s', e | r⟩
  · rw [hcame] at hanswer hanswered
    exact ⟨hanswer, hanswered⟩
  rw [hcame] at hanswer hanswered
  obtain ⟨numbers, hn⟩ := hanswered
  have hfew : numbers.length < 2 ^ 29 := by
    have hlength := hn.length_eq
    have hmax : limit ≤ 253 := Nat.min_le_right _ _
    rw [Control.capacity_room] at hlength
    omega
  dsimp only at hanswer
  rw [hn.control, Control.collect_encode hfew] at hanswer
  exact ⟨numbers, hn, hanswer⟩

end Receiver

end LocalRecords
