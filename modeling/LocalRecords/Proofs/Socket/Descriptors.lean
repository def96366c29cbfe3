import LocalRecords.Proofs.Host.Intake

namespace LocalRecords

namespace Receiver

variable {σ ρ : Type} {receiver : Receiver σ} {intake : Intake σ ρ}

/-- Over a kernel that installs descriptors as far as there is room for them, whatever its state:
with a limit that is even no more than that are handed out, and all that came; with an odd one there
may be one more. If still more came it is an error and none is handed out. -/
theorem receive_limits_descriptors (hk : receiver.Keeps intake) (kind : SocketType) (s : σ)
    (capacity maxDescriptors : Nat) :
    let limit := min maxDescriptors Control.maxDescriptors
    let answer := receiver.receiveInto kind s capacity maxDescriptors
    match (receiver.receiveThrough s capacity (Control.room limit)).2 with
    | .error e =>
      answer.2 = .error (.refused .recv e) ∧ intake.table answer.1 = intake.table s
    | .ok receipt =>
      if (intake.attached s capacity).length ≤ min (limit + limit % 2) (intake.left s) then
        ∃ r, answer.2 = .ok r ∧ r.bytes = receipt.bytes ∧
          r.descriptors.length ≤ limit + limit % 2 ∧
          Installed (intake.table s) (intake.table answer.1) (intake.attached s capacity)
            r.descriptors
      else
        answer.2 = .error (.malformed (.descriptorsTruncated limit)) ∧
          intake.table answer.1 = intake.table s := by
  intro limit answer
  have hinto := receiveInto_of_keeps hk kind s capacity maxDescriptors
  dsimp only at hinto
  rcases hcame : receiver.receiveThrough s capacity (Control.room limit) with ⟨s', e | receipt⟩
  · rw [hcame] at hinto
    obtain ⟨hanswer, hfails⟩ := hinto
    have hthis : answer = (s', .error (.refused .recv e)) := hanswer
    rw [hthis]
    exact ⟨rfl, hfails.table⟩
  rw [hcame] at hinto
  obtain ⟨numbers, hn, hanswer⟩ := hinto
  have hlength := hn.length_eq
  rw [Control.capacity_room] at hlength
  dsimp only
  by_cases hfits : (intake.attached s capacity).length ≤ min (limit + limit % 2) (intake.left s)
  · have hall : numbers.length = (intake.attached s capacity).length := by omega
    have hwhole : ¬receipt.isTruncated = true := by
      rw [hn.isTruncated]
      omega
    have hinstalled := hn.installed
    rw [hall, List.take_length] at hinstalled
    rw [if_neg hwhole] at hanswer
    have hthis : answer = _ := hanswer
    rw [if_pos hfits, hthis]
    refine ⟨_, rfl, rfl, ?_, hinstalled⟩
    rw [hinstalled.length_eq]
    omega
  · have hcut : receipt.isTruncated = true := by
      rw [hn.isTruncated]
      omega
    rw [if_pos hcut] at hanswer
    have hthis : answer = _ := hanswer
    rw [if_neg hfits, hthis]
    exact ⟨rfl, table_closeAll_of_installed hk hn.installed⟩

/-- Of a host, with two files under way: a receipt that accepts one descriptor gets both, and one
that accepts none gets none. -/
theorem receive_limits_descriptors_twoFiles :
    let opened := (({} : Host).openFile { content := [1] }).1.openFile { content := [2] }
    let h := ((opened.1.pair .stream).1.send 5 ⟨[[9]], some (Control.encode [3, 4])⟩).1
    let one := (Host.receiver 6).receiveInto .stream h 256 1
    let none := (Host.receiver 6).receiveInto .stream h 256 0
    (Host.receiver 6).Keeps (Host.intake 6) ∧
      (∃ r, one.2 = .ok r ∧ r.bytes = [9] ∧
        Installed h.resource? one.1.resource? [.file 0, .file 1] r.descriptors) ∧
      none.2 = .error (.malformed (.descriptorsTruncated 0)) ∧
      none.1.resource? = h.resource? := by
  intro opened h one none
  have hk := Host.keeps_receiver 6
  have hattached : (Host.intake 6).attached h 256 = [.file 0, .file 1] := by decide +kernel
  have htaken : ((Host.receiver 6).receiveThrough h 256
      (Control.room (min 1 Control.maxDescriptors))).2 =
        .ok ⟨[9], Control.encode [7, 8], false⟩ := by
    decide +kernel
  have hleft : ((Host.receiver 6).receiveThrough h 256
      (Control.room (min 0 Control.maxDescriptors))).2 = .ok ⟨[9], [], true⟩ := by
    decide +kernel
  have hone := receive_limits_descriptors hk .stream h 256 1
  have hnone := receive_limits_descriptors hk .stream h 256 0
  dsimp only at hone hnone
  rw [htaken, hattached] at hone
  rw [hleft, hattached] at hnone
  dsimp only at hone hnone
  rw [if_pos (by decide +kernel)] at hone
  rw [if_neg (by decide +kernel)] at hnone
  obtain ⟨r, hr, hbytes, -, hinstalled⟩ := hone
  exact ⟨hk, ⟨r, hr, hbytes, hinstalled⟩, hnone⟩

end Receiver

namespace Socket

/-- Of two files that were passed with one byte a receipt that accepts one descriptor gets both. -/
theorem receive_exceeds_oddLimit :
    let opened := (({} : Host).openFile { content := [1] }).1.openFile { content := [2] }
    let made := opened.1.pair .stream
    let sent := made.1.send 5 ⟨[[9]], some (Control.encode [3, 4])⟩
    made.2.toOption = some (5, 6) ∧ sent.2.toOption = some 1 ∧
      (receive sent.1 ⟨6, .stream⟩ 256 1).2.toOption = some ⟨.data 1, [9], [7, 8]⟩ ∧
      min 1 Control.maxDescriptors < [7, 8].length := by
  decide +kernel

end Socket

end LocalRecords
