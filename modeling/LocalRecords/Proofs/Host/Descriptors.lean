import LocalRecords.Proofs.Host.Receiving
import LocalRecords.Proofs.Socket.Intake

namespace LocalRecords.Host

theorem lt_freshDescriptor (h : Host) {d : Nat} (hd : d ∈ h.descriptors.map Prod.fst) :
    d < h.freshDescriptor := by
  rw [freshDescriptor]
  generalize h.descriptors.map Prod.fst = used at hd
  induction used with
  | nil => cases hd
  | cons n used ih =>
    rw [List.foldr_cons]
    rcases List.mem_cons.mp hd with rfl | hd
    · omega
    · have := ih hd
      omega

/-- A fresh descriptor is not in use. -/
theorem resource?_freshDescriptor (h : Host) : h.resource? h.freshDescriptor = none := by
  rw [resource?, List.lookup_eq_none_iff]
  intro p hp
  have hlt := h.lt_freshDescriptor (List.mem_map_of_mem hp)
  exact bne_iff_ne.mpr (Nat.ne_of_gt hlt)

theorem resource?_install_of_ne (h : Host) (r : Resource) {d : Nat} (hd : d ≠ h.freshDescriptor) :
    (h.install r).1.resource? d = h.resource? d := by
  rw [resource?, install, List.lookup_cons, beq_false_of_ne hd]
  rfl

theorem freshDescriptor_install (h : Host) (r : Resource) :
    (h.install r).1.freshDescriptor = h.freshDescriptor + 1 := by
  have hmax : max h.freshDescriptor ((h.descriptors.map Prod.fst).foldr max 2) =
      h.freshDescriptor := Nat.max_eq_left (Nat.le_succ _)
  exact congrArg (· + 1) hmax

/-- Each descriptor that is installed has a number of its own above those that were in use. -/
theorem installed_installAll (h : Host) (rs : List Resource) :
    Installed h.resource? (h.installAll rs).1.resource? rs (h.installAll rs).2 ∧
      ∀ d ∈ (h.installAll rs).2, d < h.freshDescriptor + rs.length := by
  induction rs generalizing h with
  | nil =>
    exact ⟨⟨rfl, fun _ hd => (List.not_mem_nil hd).elim, List.nodup_nil, fun _ _ => rfl⟩,
      fun _ hd => (List.not_mem_nil hd).elim⟩
  | cons r rs ih =>
    obtain ⟨hrest, hbelow⟩ := ih (h.install r).1
    rw [freshDescriptor_install] at hbelow
    have hnew : (h.install r).1.resource? h.freshDescriptor = some r := h.resource?_install r
    generalize hmore : (h.install r).1.installAll rs = more at hrest hbelow
    have hall : h.installAll (r :: rs) = (more.1, h.freshDescriptor :: more.2) := by
      rw [← hmore]
      rfl
    -- What is installed later is new to a host that has the first one already.
    have hfirst : h.freshDescriptor ∉ more.2 := by
      intro hmem
      rw [hrest.fresh _ hmem] at hnew
      cases hnew
    have hne {d : Nat} (hd : d ∈ more.2) : d ≠ h.freshDescriptor := by
      rintro rfl
      exact hfirst hd
    rw [hall]
    refine ⟨⟨?_, ?_, List.nodup_cons.mpr ⟨hfirst, hrest.distinct⟩, ?_⟩, ?_⟩
    · rw [List.map_cons, List.map_cons, hrest.found, hrest.others _ hfirst, hnew]
    · intro d hd
      rcases List.mem_cons.mp hd with rfl | hd
      · exact h.resource?_freshDescriptor
      · rw [← h.resource?_install_of_ne r (hne hd)]
        exact hrest.fresh d hd
    · intro d hd
      obtain ⟨hnot, hmore⟩ := not_or.mp (mt List.mem_cons.mpr hd)
      rw [hrest.others d hmore, h.resource?_install_of_ne r hnot]
    · intro d hd
      rw [List.length_cons]
      rcases List.mem_cons.mp hd with rfl | hd
      · omega
      · have := hbelow d hd
        omega

/-- Receiving by itself installs nothing. -/
theorem descriptors_receive (h : Host) (d n : Nat) :
    (h.receive d n).1.descriptors = h.descriptors := by
  rw [receive]
  split
  · rfl
  · rfl

end LocalRecords.Host
