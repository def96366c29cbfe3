import LocalRecords.Proofs.Host.Descriptors
import LocalRecords.Proofs.Lookup
import LocalRecords.Proofs.Socket.Kernel
import LocalRecords.Socket.Basic

namespace LocalRecords.Host

theorem ok_of_bind {α β : Type} {x : Except IoError α} {f : α → Except IoError β} {b : β}
    (h : x >>= f = .ok b) : ∃ a, f a = .ok b := by
  cases x with
  | error e => cases h
  | ok a => exact ⟨a, h⟩

theorem resource?_congr {h h' : Host} (hd : h'.descriptors = h.descriptors) :
    h'.resource? = h.resource? := by
  funext d
  rw [resource?, resource?, hd]

theorem resource?_install_eq (h : Host) (r : Resource) :
    (h.install r).1.resource? = Function.update h.resource? h.freshDescriptor (some r) := by
  funext d
  by_cases hd : d = h.freshDescriptor
  · rw [hd, Function.update_self]
    exact h.resource?_install r
  · rw [Function.update_of_ne hd, resource?_install_of_ne h r hd]

theorem opens_install {h h' : Host} (hd : h'.descriptors = h.descriptors) (r : Resource) :
    Kernel.Opens resource? h ((h'.install r).1, .ok (h'.install r).2) := by
  rw [Kernel.Opens, ← resource?_congr hd]
  exact ⟨h'.resource?_freshDescriptor, r, h'.resource?_install_eq r⟩

theorem opens_socket (h : Host) (kind : SocketType) :
    Kernel.Opens resource? h (h.socket kind) := by
  rw [socket]
  split
  · rfl
  · exact opens_install rfl _

theorem opens_accept (h : Host) (d : Nat) : Kernel.Opens resource? h (h.accept d) := by
  rw [accept]
  dsimp only
  split
  · rfl
  next h' d' hr =>
    obtain ⟨-, hr⟩ := ok_of_bind hr
    obtain ⟨⟨id, e⟩, hr⟩ := ok_of_bind hr
    dsimp only at hr
    split at hr
    · cases hr
    split at hr
    · cases hr
    split at hr
    · cases hr
    · cases hr
      exact opens_install rfl _

theorem descriptors_bind (h : Host) (d : Nat) (address : Address) :
    (h.bind d address).1.descriptors = h.descriptors := by
  rw [bind]
  dsimp only
  split
  · rfl
  next h' hr =>
    obtain ⟨-, hr⟩ := ok_of_bind hr
    obtain ⟨own, hr⟩ := ok_of_bind hr
    obtain ⟨place, hr⟩ := ok_of_bind hr
    split at hr
    · cases hr
    split at hr
    · cases hr
    · cases hr
      rfl

theorem descriptors_listen (h : Host) (d : Nat) (backlog : Int32) :
    (h.listen d backlog).1.descriptors = h.descriptors := by
  rw [listen]
  dsimp only
  split
  · rfl
  next h' hr =>
    obtain ⟨-, hr⟩ := ok_of_bind hr
    obtain ⟨own, hr⟩ := ok_of_bind hr
    cases hr
    rfl

theorem descriptors_modifyEndpoint (h : Host) (id : Nat) (f : Endpoint → Endpoint) :
    (h.modifyEndpoint id f).descriptors = h.descriptors := by
  rw [modifyEndpoint]
  split
  · rfl
  · rfl

theorem descriptors_joinStream (h : Host) (id owner : Nat) :
    (h.joinStream id owner).descriptors = h.descriptors := by
  rw [joinStream]
  dsimp only
  rw [descriptors_modifyEndpoint, descriptors_modifyEndpoint]
  rfl

theorem descriptors_connect (h : Host) (d : Nat) (address : Address) :
    (h.connect d address).1.descriptors = h.descriptors := by
  rw [connect]
  dsimp only
  split
  · rfl
  next h' hr =>
    obtain ⟨-, hr⟩ := ok_of_bind hr
    obtain ⟨⟨id, e⟩, hr⟩ := ok_of_bind hr
    obtain ⟨⟨owner, o⟩, hr⟩ := ok_of_bind hr
    dsimp only at hr
    split at hr
    · cases hr
    split at hr
    · cases hr
      rfl
    · split at hr
      · cases hr
      · cases hr
        exact h.descriptors_joinStream id owner

theorem descriptors_leavePeer (h : Host) (e : Endpoint) (unread : Bool) :
    (h.leavePeer e unread).descriptors = h.descriptors := by
  rw [leavePeer]
  split
  · exact h.descriptors_modifyEndpoint _ _
  · rfl

theorem descriptors_drop (h : Host) (id : Nat) (isAccepted : Bool) :
    (h.drop id isAccepted).descriptors = h.descriptors := by
  rw [drop]
  split
  · rfl
  · exact descriptors_leavePeer _ _ _

theorem descriptors_release (h : Host) (id : Nat) :
    (h.release id).descriptors = h.descriptors := by
  rw [release]
  split
  · rfl
  next e _ =>
    rw [← h.descriptors_drop id true]
    generalize h.drop id true = dropped
    induction e.waiting generalizing dropped with
    | nil => rfl
    | cons w waiting ih => rw [List.foldl_cons, ih, descriptors_drop]

/-- Closing takes away that descriptor and no other. -/
theorem resource?_close (h : Host) (d : Nat) :
    (h.close d).resource? = Function.update h.resource? d none := by
  funext other
  rw [close]
  split
  next hnone =>
    by_cases hd : other = d
    · rw [hd, Function.update_self, hnone]
    · rw [Function.update_of_ne hd]
  next r _ =>
    have hremoved (h' : Host) (hd : h'.descriptors = h.descriptors.filter fun p => p.1 ≠ d) :
        h'.resource? other = Function.update h.resource? d none other := by
      rw [resource?, hd, lookup_remove, Function.update_apply]
      rfl
    apply hremoved
    split
    · dsimp only
      split
      · rfl
      · exact descriptors_release _ _
    · rfl

/-- What others do while someone waits for a connection is not done to the table of who waits. -/
theorem keeps_kernel {meanwhile : Host → Host}
    (hothers : ∀ h : Host, (meanwhile h).resource? = h.resource?) :
    (Host.kernel meanwhile).Keeps resource? where
  socket h kind := h.opens_socket kind
  accept h d := by
    have hopens := (meanwhile h).opens_accept d
    change Kernel.Opens resource? h ((meanwhile h).accept d)
    rcases hr : (meanwhile h).accept d with ⟨h', e | made⟩
    · rw [hr] at hopens
      exact Eq.trans hopens (hothers h)
    · rw [hr, Kernel.Opens, hothers] at hopens
      exact hopens
  bind h d address := resource?_congr (h.descriptors_bind d address)
  listen h d backlog := resource?_congr (h.descriptors_listen d backlog)
  connect h d address := resource?_congr (h.descriptors_connect d address)
  close h d := h.resource?_close d

end LocalRecords.Host
