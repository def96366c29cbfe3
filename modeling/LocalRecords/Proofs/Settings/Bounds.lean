import LocalRecords.Proofs.Record.Buffer
import LocalRecords.Settings.Basic

namespace LocalRecords.Settings

variable {c : Settings}

structure OthersPass (c : Settings) : Prop where
  backlog : 0 ≤ c.backlog
  readSize : c.readSize ≠ 0
  payload : c.limits.payload.toNat ≤ Limits.maxLimit
  metadata : c.limits.metadata.toNat ≤ Limits.maxLimit

/-- The path of checked settings has a byte and no more than fit into an address. -/
theorem validate_eq_ok_iff :
    c.validate = .ok () ↔
      (1 ≤ c.path.length ∧ c.path.length ≤ Address.longest) ∧ c.OthersPass := by
  have hfault : c.validate = .ok () ↔ c.fault? = none := by
    rw [validate]
    cases c.fault? <;> simp
  rw [hfault, fault?]
  constructor
  · intro hnone
    repeat' split at hnone
    all_goals cases hnone
    next hpath hlong hbacklog hread hpayload hmetadata =>
      have hpos : 1 ≤ c.path.length :=
        List.length_pos_iff.mpr fun hnil => hpath (List.isEmpty_iff.mpr hnil)
      exact ⟨⟨hpos, Nat.not_lt.mp hlong⟩, Int32.not_lt.mp hbacklog, hread,
        Nat.not_lt.mp hpayload, Nat.not_lt.mp hmetadata⟩
  · rintro ⟨⟨hpos, hshort⟩, hothers⟩
    have hpath : ¬ c.path.isEmpty = true := by
      rw [List.isEmpty_iff]
      exact List.length_pos_iff.mp hpos
    rw [if_neg hpath, if_neg (Nat.not_lt.mpr hshort), if_neg (Int32.not_lt.mpr hothers.backlog),
      if_neg hothers.readSize, if_neg (Nat.not_lt.mpr hothers.payload),
      if_neg (Nat.not_lt.mpr hothers.metadata)]

theorem bounds_of_validate (hv : c.validate = .ok ()) :
    0 < c.readSize.toNat ∧ c.limits.payload.toNat ≤ Limits.maxLimit ∧
      c.limits.metadata.toNat ≤ Limits.maxLimit := by
  obtain ⟨-, hothers⟩ := validate_eq_ok_iff.mp hv
  refine ⟨Nat.pos_of_ne_zero fun hzero => ?_, hothers.payload, hothers.metadata⟩
  exact hothers.readSize (UInt64.toNat_inj.mp hzero)

/-- Under limits that were checked 64 bits count every record. -/
theorem longest_le_of_validate (hv : c.validate = .ok ()) : c.limits.longest ≤ maxU64 := by
  obtain ⟨-, hpayload, hmetadata⟩ := bounds_of_validate hv
  have hmax : Header.size + 2 * delimiter.length + Limits.maxLimit + Limits.maxLimit ≤ maxU64 := by
    decide
  rw [Limits.longest]
  omega

end LocalRecords.Settings
