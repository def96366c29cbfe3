import LocalRecords.Proofs.Message.Calls

namespace LocalRecords

variable {σ τ α β : Type}

/-- Answers without the interruptions among some others: seen through `view` an interrupted call
has changed nothing, and every other one is answered as before. -/
structure Calms (answer : σ → α → σ × Except IoError β) (calm : τ → α → τ × Except IoError β)
    (view : σ → τ) : Prop where
  ok : ∀ {s s' a b}, answer s a = (s', .ok b) → calm (view s) a = (view s', .ok b)
  failed : ∀ {s s' a e}, answer s a = (s', .error e) → e.isInterrupted = false →
    calm (view s) a = (view s', .error e)
  interrupted : ∀ {s s' a e}, answer s a = (s', .error e) → e.isInterrupted = true →
    view s' = view s

def Exchange.isInterrupted (c : Exchange) : Bool :=
  match c.answer with
  | .ok _ => false
  | .error e => e.isInterrupted

theorem Exchange.isInterrupted_of_not (offer : Offer) {e : IoError} (h : ¬e.isInterrupted = true) :
    (⟨offer, .error e⟩ : Exchange).isInterrupted = false := Bool.eq_false_of_not_eq_true h

theorem Exchange.taken_of_isInterrupted {c : Exchange} (h : c.isInterrupted = true) :
    c.taken = [] := by
  rcases c with ⟨offer, e | n⟩
  · rfl
  · cases h

def settled (calls : List Exchange) : List Exchange := calls.filter (!·.isInterrupted)

theorem settled_append (front calls : List Exchange) :
    settled (front ++ calls) = settled front ++ settled calls :=
  List.filter_append front calls

theorem settled_cons_of_isInterrupted {c : Exchange} (h : c.isInterrupted = true)
    (calls : List Exchange) : settled (c :: calls) = settled calls :=
  List.filter_cons_of_neg (by simp [h])

theorem settled_cons_of_not {c : Exchange} (h : c.isInterrupted = false)
    (calls : List Exchange) : settled (c :: calls) = c :: settled calls :=
  List.filter_cons_of_pos (by simp [h])

/-- What was taken was taken by calls that were not interrupted. -/
theorem taken_settled (calls : List Exchange) :
    (settled calls).flatMap Exchange.taken = calls.flatMap Exchange.taken := by
  induction calls with
  | nil => rfl
  | cons c calls ih =>
    rcases h : c.isInterrupted with _ | _
    · rw [settled_cons_of_not h, List.flatMap_cons, List.flatMap_cons, ih]
    · rw [settled_cons_of_isInterrupted h, List.flatMap_cons, c.taken_of_isInterrupted h, ih]
      rfl

/-- Every interrupted call is followed by one that makes the same offer. -/
def Repeated : List Exchange → Prop
  | [] => True
  | c :: calls =>
    (c.isInterrupted = true → ∃ d ∈ calls.head?, d.offer = c.offer) ∧ Repeated calls

theorem repeated_nil : Repeated [] := trivial

theorem repeated_single {c : Exchange} (hc : c.isInterrupted = false) : Repeated [c] :=
  ⟨fun hi => absurd hi (by simp [hc]), repeated_nil⟩

theorem Repeated.append {front calls : List Exchange} (hf : Repeated front)
    (hc : Repeated calls) : Repeated (front ++ calls) := by
  induction front with
  | nil => exact hc
  | cons c front ih =>
    rw [List.cons_append, Repeated]
    refine ⟨fun hi => ?_, ih hf.2⟩
    obtain ⟨d, hd, ho⟩ := hf.1 hi
    refine ⟨d, ?_, ho⟩
    rw [List.head?_append, Option.mem_def.mp hd]
    rfl

/-- A run that no interruption ended: each interrupted call was made again, and no interruption
stands behind an error. -/
structure Perseveres (calls : List Exchange) (outcome : Except Failure α) : Prop where
  repeated : Repeated calls
  cause : ∀ e, outcome = .error e → ∀ cause ∈ e.source?, cause.isInterrupted = false

@[simp] theorem source?_failedAfter (sent total : Nat) (source : IoError) :
    (failedAfter sent total source).source? = some source := by
  rw [failedAfter]
  split <;> rfl

theorem perseveres_of_ok {calls : List Exchange} (h : Repeated calls) (a : α) :
    Perseveres calls (.ok a : Except Failure α) :=
  ⟨h, fun e he => by cases he⟩

/-- A failure with a cause that is no interruption. -/
theorem perseveres_of_error {calls : List Exchange} (h : Repeated calls) {e : Failure}
    (he : ∀ cause ∈ e.source?, cause.isInterrupted = false) :
    Perseveres calls (.error e : Except Failure α) :=
  ⟨h, fun e' he' => by cases he'; exact he⟩

theorem Perseveres.cons {calls : List Exchange} {outcome : Except Failure α} {c : Exchange}
    (hc : c.isInterrupted = true → ∃ d ∈ calls.head?, d.offer = c.offer)
    (h : Perseveres calls outcome) : Perseveres (c :: calls) outcome :=
  ⟨⟨hc, h.repeated⟩, h.cause⟩

theorem Perseveres.append {front calls : List Exchange} {outcome : Except Failure α}
    (hf : Repeated front) (h : Perseveres calls outcome) (f : α → β) :
    Perseveres (front ++ calls) (outcome.map f) := by
  refine ⟨hf.append h.repeated, fun e he => ?_⟩
  rcases ho : outcome with e' | a
  · rw [ho] at he
    cases he
    exact h.cause e ho
  · rw [ho] at he
    cases he

def Sending.calmed (view : σ → τ) (r : Sending σ) : Sending τ where
  state := view r.state
  calls := settled r.calls
  outcome := r.outcome

theorem Sending.calmed_after_of_isInterrupted {view : σ → τ} {c : Exchange}
    (hc : c.isInterrupted = true) (r : Sending σ) :
    (Sending.after c r).calmed view = r.calmed view := by
  rw [calmed, calmed, after, settled_cons_of_isInterrupted hc]

theorem Sending.calmed_after_of_not {view : σ → τ} {c : Exchange}
    (hc : c.isInterrupted = false) (r : Sending σ) :
    (Sending.after c r).calmed view = .after c (r.calmed view) := by
  rw [calmed, calmed, after, after, settled_cons_of_not hc]

theorem Remainder.ofParts_congr {sink : Sink σ} {calm : Sink τ}
    (hd : calm.sendsDatagrams = sink.sendsDatagrams) (parts : List Bytes) :
    ofParts calm parts = ofParts sink parts := by
  rw [ofParts, ofParts, hd]

namespace Sink

variable {sink : Sink σ} {calm : Sink τ} {view : σ → τ}

/-- While something is left to send the next call offers just what is pending. -/
theorem head_sendRest {already total : Nat} {s : σ} {pending : Remainder}
    {control : Option Bytes} (hd : ¬(pending.isDone = true ∧ control = none)) (sent : Nat) :
    ∃ d ∈ (sink.sendRest already total s pending control sent).calls.head?,
      d.offer = ⟨pending.slices, control⟩ := by
  rcases hcall : sink.send s ⟨pending.slices, control⟩ with ⟨s', e | n⟩
  · rw [sendRest_of_error hd hcall]
    split <;> exact ⟨_, rfl, rfl⟩
  · rw [sendRest_of_ok hd hcall]
    split <;> exact ⟨_, rfl, rfl⟩

/-- No interruption ends a message: the same offer is made again after it. -/
theorem sendRest_perseveres (sink : Sink σ) (already total : Nat) (s : σ)
    (pending : Remainder) (control : Option Bytes) (sent : Nat) :
    Perseveres (sink.sendRest already total s pending control sent).calls
      (sink.sendRest already total s pending control sent).outcome := by
  fun_induction Sink.sendRest with
  | case1 s pending control sent hd => exact perseveres_of_ok repeated_nil sent
  | case2 s pending control sent hd offer s' n hcall hz =>
    exact perseveres_of_error (repeated_single rfl) (by simp [IoError.isInterrupted, IoError.kind])
  | case3 s pending control sent hd offer s' n hcall hz left ih =>
    exact ih.cons (by simp [Exchange.isInterrupted])
  | case4 s pending control sent hd offer s' e hcall hi ih =>
    exact ih.cons fun _ => head_sendRest hd sent
  | case5 s pending control sent hd offer s' e hcall hi =>
    have he : e.isInterrupted = false := by simpa using hi
    have hc : (⟨offer, .error e⟩ : Exchange).isInterrupted = false := he
    exact perseveres_of_error (repeated_single hc) (by simpa using he)

/-- On a sink without the interruptions the rest of a message comes out as it does with them. -/
theorem sendRest_calmed (h : Calms sink.send calm.send view) (already total : Nat) (s : σ)
    (pending : Remainder) (control : Option Bytes) (sent : Nat) :
    calm.sendRest already total (view s) pending control sent =
      (sink.sendRest already total s pending control sent).calmed view := by
  -- Along the calls that may be interrupted: the calm run makes those that are not.
  fun_induction Sink.sendRest with
  | case1 s pending control sent hd => exact sendRest_of_done hd
  | case2 s pending control sent hd offer s' n hcall hz =>
    rw [sendRest_of_ok hd (h.ok hcall), if_pos hz]
    rfl
  | case3 s pending control sent hd offer s' n hcall hz left ih =>
    rw [sendRest_of_ok hd (h.ok hcall), if_neg hz, Sending.calmed_after_of_not rfl, ← ih]
  | case4 s pending control sent hd offer s' e hcall hi ih =>
    have hc : (⟨offer, .error e⟩ : Exchange).isInterrupted = true := hi
    rw [Sending.calmed_after_of_isInterrupted hc, ← ih, h.interrupted hcall hi]
  | case5 s pending control sent hd offer s' e hcall hi =>
    have he : e.isInterrupted = false := by simpa using hi
    have hc : (⟨offer, .error e⟩ : Exchange).isInterrupted = false := he
    rw [sendRest_of_error hd (h.failed hcall he), if_neg hi, Sending.calmed, settled_cons_of_not hc]
    rfl

theorem sendPiece_perseveres (sink : Sink σ) (s : σ) (parts : List Bytes)
    (control : Option Bytes) (already total : Nat) :
    Perseveres (sink.sendPiece s parts control already total).calls
      (sink.sendPiece s parts control already total).outcome :=
  sink.sendRest_perseveres already total s _ _ 0

theorem sendPiece_calmed (h : Calms sink.send calm.send view)
    (hd : calm.sendsDatagrams = sink.sendsDatagrams) (s : σ) (parts : List Bytes)
    (control : Option Bytes) (already total : Nat) :
    calm.sendPiece (view s) parts control already total =
      (sink.sendPiece s parts control already total).calmed view := by
  rw [sendPiece, sendPiece, Remainder.ofParts_congr hd]
  exact sendRest_calmed h already total s _ _ 0

theorem offerOnce_perseveres (sink : Sink σ) (s : σ) (offer : Offer) :
    Perseveres (sink.offerOnce s offer).calls (sink.offerOnce s offer).outcome := by
  fun_induction Sink.offerOnce with
  | case1 => exact perseveres_of_ok (repeated_single rfl) _
  | case2 s s' e hcall hi ih =>
    refine ih.cons fun _ => ?_
    rcases hnext : sink.send s' offer with ⟨s'', e' | n⟩
    · rw [offerOnce_of_error hnext]
      split <;> exact ⟨_, rfl, rfl⟩
    · rw [offerOnce_of_ok hnext]
      exact ⟨_, rfl, rfl⟩
  | case3 s s' e hcall hi =>
    have he : e.isInterrupted = false := by simpa using hi
    have hc : (⟨offer, .error e⟩ : Exchange).isInterrupted = false := he
    exact perseveres_of_error (repeated_single hc) (by simpa [Failure.source?] using he)

theorem offerOnce_calmed (h : Calms sink.send calm.send view) (s : σ) (offer : Offer) :
    calm.offerOnce (view s) offer = (sink.offerOnce s offer).calmed view := by
  fun_induction Sink.offerOnce with
  | case1 s s' n hcall => exact offerOnce_of_ok (h.ok hcall)
  | case2 s s' e hcall hi ih =>
    have hc : (⟨offer, .error e⟩ : Exchange).isInterrupted = true := hi
    rw [Sending.calmed_after_of_isInterrupted hc, ← ih, h.interrupted hcall hi]
  | case3 s s' e hcall hi =>
    have he : e.isInterrupted = false := by simpa using hi
    have hc : (⟨offer, .error e⟩ : Exchange).isInterrupted = false := he
    rw [offerOnce_of_error (h.failed hcall he), if_neg hi, Sending.calmed, settled_cons_of_not hc]
    rfl

end Sink

end LocalRecords
