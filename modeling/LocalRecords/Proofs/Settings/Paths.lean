import LocalRecords.Proofs.Settings.Bounds
import LocalRecords.Proofs.Socket.Address
import LocalRecords.Server.Service

namespace LocalRecords

/-- A server does not start where its path is no address, whatever else it finds. -/
theorem Service.start_of_noAddress {settings : Settings} {e : Failure}
    (he : Address.ofPath settings.path = .error e) (h : Host) (user : Nat) :
    ∃ after fault, Service.start h settings user = (after, .error fault) := by
  have hlisten (h : Host) :
      Socket.listen h settings.path settings.kind settings.backlog = (h, .error e) := by
    rw [Socket.listen, Kernel.listenAt, he]
  rw [Service.start]
  -- What is at the path is cleared away first, and that may fail for reasons of its own.
  rcases Service.prepare h settings.path with ⟨h, fault | ⟨⟩⟩
  · exact ⟨h, fault, rfl⟩
  · have hbind : ∃ fault, Service.bind h settings = (h, .error fault) := by
      rw [Service.bind, hlisten]
      exact ⟨_, rfl⟩
    obtain ⟨fault, hbind⟩ := hbind
    refine ⟨(Service.cleanUp h settings.path).1, fault, ?_⟩
    dsimp only
    rw [hbind]

namespace Settings

variable {c : Settings}

/-- What is found of a path when settings are checked that are in order otherwise, and when an
address is made of it. -/
inductive Verdicts (p : Bytes) :
    Except SettingsFailure Unit → Except Failure Address.Resolution → Prop
  | tooLong (hlong : Address.longest < p.length) :
      Verdicts p (.error (.invalid (.longPath p.length)))
        (.error (.longPath p.length Address.longest))
  | empty (hnil : p = []) : Verdicts p (.error (.invalid .emptyPath)) (.error (.badPath .empty))
  | zero (hle : p.length ≤ Address.longest) (hzero : 0 ∈ p) :
      Verdicts p (.ok ()) (.error (.badPath (.containsNul p)))
  | name (hpos : 1 ≤ p.length) (hle : p.length ≤ Address.longest) (hzero : 0 ∉ p)
      (r : Address.Resolution) : Verdicts p (.ok ()) (.ok r)

/-- Both looks at a path of settings that are in order otherwise, case by case. -/
theorem verdicts (hothers : c.OthersPass) :
    Verdicts c.path c.validate (Address.resolve c.path) := by
  have hvalid (hpos : 1 ≤ c.path.length) (hle : c.path.length ≤ Address.longest) :
      c.validate = .ok () :=
    validate_eq_ok_iff.mpr ⟨⟨hpos, hle⟩, hothers⟩
  have hresolves := Address.resolves c.path
  generalize Address.resolve c.path = resolved at hresolves
  -- The check asks for emptiness first and for the length then, the address the other way round.
  cases hresolves with
  | tooLong hlong =>
    have hsome : ¬ c.path.isEmpty = true := by
      intro hempty
      rw [List.isEmpty_iff.mp hempty] at hlong
      cases hlong
    have hvalidate : c.validate = .error (.invalid (.longPath c.path.length)) := by
      rw [validate, fault?, if_neg hsome, if_pos hlong]
    exact hvalidate ▸ .tooLong hlong
  | empty hnil =>
    have hvalidate : c.validate = .error (.invalid .emptyPath) := by
      rw [validate, fault?, if_pos (List.isEmpty_iff.mpr hnil)]
    exact hvalidate ▸ .empty hnil
  | zero hle hzero =>
    have hpos : 1 ≤ c.path.length := List.length_pos_of_mem hzero
    exact hvalid hpos hle ▸ .zero hle hzero
  | name hpos hle hzero => exact hvalid hpos hle ▸ .name hpos hle hzero _

/-- Of settings that are in order otherwise, a path is refused when they are checked only if it is
refused for the same reason when an address is made of it. The two agree unless the path has a zero
byte and is not too long. Then it passes the check but makes no address, and on no host does a
server start with it. -/
theorem validate_agrees_iff (hothers : c.OthersPass) :
    Verdicts c.path c.validate (Address.resolve c.path) ∧
      ((c.validate = .ok () ↔ ∃ r, Address.resolve c.path = .ok r) ↔
        ¬ (c.path.length ≤ Address.longest ∧ 0 ∈ c.path)) ∧
      (c.validate = .ok () → 0 ∈ c.path → ∀ h user,
        ∃ after fault, Service.start h c user = (after, .error fault)) := by
  have hverdicts := verdicts hothers
  refine ⟨hverdicts, ?_, ?_⟩
  · generalize Address.resolve c.path = resolved at hverdicts
    generalize c.validate = checked at hverdicts
    cases hverdicts with
    | tooLong hlong => simp [Nat.not_le.mpr hlong]
    | empty hnil => simp [hnil]
    | zero hle hzero => simp [hle, hzero]
    | name hpos hle hzero r => simp [hzero]
  · intro hv hzero h user
    have hle := (validate_eq_ok_iff.mp hv).1.2
    have hresolve : Address.resolve c.path = .error (.badPath (.containsNul c.path)) :=
      Address.resolve_eq_error_iff.mpr (.inr (.inr ⟨hle, hzero, rfl⟩))
    have hno : Address.ofPath c.path = .error (.badPath (.containsNul c.path)) := by
      rw [Address.ofPath, hresolve]
      rfl
    exact Service.start_of_noAddress hno h user

/-- A path of the greatest length, all of whose bytes have the high bit set, passes both times. With
a zero for its last byte it passes the check only. -/
theorem validate_agrees_iff_longest :
    let c : Settings := { path := List.replicate 107 0xFF }
    let d : Settings := { path := List.replicate 106 0xFF ++ [0] }
    c.OthersPass ∧ c.validate = .ok () ∧ (∃ r, Address.resolve c.path = .ok r) ∧
      d.OthersPass ∧ d.validate = .ok () ∧
      ∀ h user, ∃ after fault, Service.start h d user = (after, .error fault) := by
  intro c d
  have hc : c.OthersPass := ⟨by decide, by decide, by decide, by decide⟩
  have hd : d.OthersPass := ⟨by decide, by decide, by decide, by decide⟩
  have hcv : c.validate = .ok () := validate_eq_ok_iff.mpr ⟨⟨by decide, by decide⟩, hc⟩
  have hdv : d.validate = .ok () := validate_eq_ok_iff.mpr ⟨⟨by decide, by decide⟩, hd⟩
  obtain ⟨-, hagree, -⟩ := validate_agrees_iff hc
  obtain ⟨-, -, hstart⟩ := validate_agrees_iff hd
  have hresolves := (hagree.mpr (by decide)).mp hcv
  exact ⟨hc, hcv, hresolves, hd, hdv, hstart hdv (by decide)⟩

/-- A name, then a zero: the settings pass the check, and their path is no address. -/
theorem validate_accepts_zero :
    let c : Settings := { path := [0x61, 0] }
    c.OthersPass ∧ c.validate = .ok () ∧
      Address.resolve c.path = .error (.badPath (.containsNul [0x61, 0])) ∧
      ¬ (c.validate = .ok () ↔ ∃ r, Address.resolve c.path = .ok r) := by
  intro c
  have hothers : c.OthersPass := ⟨by decide, by decide, by decide, by decide⟩
  have hvalid : c.validate = .ok () := validate_eq_ok_iff.mpr ⟨⟨by decide, by decide⟩, hothers⟩
  have hrefused : Address.resolve c.path = .error (.badPath (.containsNul [0x61, 0])) :=
    Address.resolve_eq_error_iff.mpr (.inr (.inr ⟨by decide, by decide, rfl⟩))
  refine ⟨hothers, hvalid, hrefused, ?_⟩
  intro hiff
  obtain ⟨r, hr⟩ := hiff.mp hvalid
  rw [hrefused] at hr
  cases hr

end Settings

end LocalRecords
