import LocalRecords.Socket.Receive

/-!
Two sockets that are connected to one another, over whatever kernel: the calls that are made on
either of them, their answers, and the log of both. What is asked of the kernel is that bytes wait
in a queue for either side, and that a call takes from the front or adds to the end of it.
-/

namespace LocalRecords

inductive Side
  | first
  | second
  deriving DecidableEq, Repr

def Side.other : Side → Side
  | first => second
  | second => first

def Side.pick {α : Type} (a b : α) : Side → α
  | first => a
  | second => b

theorem Side.other_other (side : Side) : side.other.other = side := by
  cases side with
  | first => rfl
  | second => rfl

theorem Side.other_ne (side : Side) : side.other ≠ side := by
  cases side with
  | first => exact Side.noConfusion
  | second => exact Side.noConfusion

theorem Side.eq_other_of_ne {a b : Side} (h : a ≠ b) : a = b.other := by
  cases a with
  | first =>
    cases b with
    | first => exact absurd rfl h
    | second => rfl
  | second =>
    cases b with
    | first => rfl
    | second => exact absurd rfl h

inductive Half
  | reading
  | writing
  deriving DecidableEq, Repr

/-- Two sockets and what their kernel does on their calls, with a state `σ` of both. -/
structure Link (σ : Type) where
  kind : SocketType
  sink : Side → Sink σ
  source : Side → Source σ
  receiver : Side → Receiver σ
  shut : Side → Half → σ → σ × Except IoError Unit

inductive Call
  | write (buffer : Bytes) (offset len : Nat)
  | read (buffer : Bytes) (offset len : Nat)
  | receive (capacity maxDescriptors : Nat)
  | shut (half : Half)
  deriving DecidableEq, Repr

def Call.asked : Call → Nat
  | write _ _ _ => 0
  | read _ _ len => len
  | receive capacity _ => capacity
  | shut _ => 0

inductive Answer
  | failed (e : Failure)
  | wrote (count : Nat)
  /-- What the call says that it read, and the buffer after it from where it was to read to. -/
  | brought (reading : Reading) (bytes : Bytes)
  | shut
  deriving DecidableEq, Repr

structure Entry where
  side : Side
  call : Call
  answer : Answer
  deriving DecidableEq, Repr

namespace Entry

def accepted (e : Entry) : Bytes :=
  match e.call, e.answer with
  | .write buffer offset len, .wrote count => ((buffer.drop offset).take len).take count
  | _, _ => []

def returned (e : Entry) : Bytes :=
  match e.answer with
  | .brought (.data count) bytes => bytes.take count
  | _ => []

theorem accepted_of_not_wrote {e : Entry} (h : ∀ count, e.answer ≠ .wrote count) :
    e.accepted = [] := by
  rw [accepted]
  split
  next hanswer => exact absurd hanswer (h _)
  · rfl

end Entry

def bytesOf (f : Entry → Bytes) (side : Side) (log : List Entry) : Bytes :=
  log.flatMap fun e => if e.side = side then f e else []

def accepted (side : Side) (log : List Entry) : Bytes := bytesOf Entry.accepted side log

def returned (side : Side) (log : List Entry) : Bytes := bytesOf Entry.returned side log

def HasShut (side : Side) (half : Half) (log : List Entry) : Prop :=
  ⟨side, .shut half, .shut⟩ ∈ log

theorem bytesOf_append (f : Entry → Bytes) (side : Side) (log more : List Entry) :
    bytesOf f side (log ++ more) = bytesOf f side log ++ bytesOf f side more :=
  List.flatMap_append

theorem bytesOf_singleton (f : Entry → Bytes) (side : Side) (e : Entry) :
    bytesOf f side [e] = if e.side = side then f e else [] :=
  List.flatMap_singleton _ _

namespace Link

variable {σ : Type}

def step (link : Link σ) (s : σ) (side : Side) : Call → σ × Answer
  | .write buffer offset len =>
    match writeRange (link.sink side) s buffer offset len with
    | (s', .error e) => (s', .failed e)
    | (s', .ok count) => (s', .wrote count)
  | .read buffer offset len =>
    match readRange (link.source side) link.kind s buffer offset len with
    | (s', _, .error e) => (s', .failed e)
    | (s', after, .ok reading) => (s', .brought reading (after.drop offset))
  | .receive capacity maxDescriptors =>
    match (link.receiver side).receiveInto link.kind s capacity maxDescriptors with
    | (s', .error e) => (s', .failed e)
    | (s', .ok r) => (s', .brought r.reading r.bytes)
  | .shut half =>
    match link.shut side half s with
    | (s', .error e) => (s', .failed (.refused .shutdown e))
    | (s', .ok ()) => (s', .shut)

def run (link : Link σ) (s : σ) : List (Side × Call) → σ × List Entry
  | [] => (s, [])
  | c :: calls =>
    let first := link.step s c.1 c.2
    let rest := link.run first.1 calls
    (rest.1, ⟨c.1, c.2, first.2⟩ :: rest.2)

end Link

-- What is asked of the kernel

/-- What a kernel keeps for two sockets, as far as bytes are concerned. -/
structure View (σ : Type) where
  /-- They are connected, and no descriptors are under way. -/
  isUp : σ → Prop
  /-- The bytes that wait for a side to read them. -/
  queued : Side → σ → Bytes
  /-- No more bytes can come for a side. -/
  ended : Side → σ → Prop

namespace View

variable {σ : Type}

structure Fresh (view : View σ) (s : σ) : Prop where
  isUp : view.isUp s
  queued : ∀ side, view.queued side s = []
  ended : ∀ side, ¬view.ended side s

structure Rests (view : View σ) (s s' : σ) : Prop where
  isUp : view.isUp s'
  queued : ∀ side, view.queued side s' = view.queued side s
  ended : ∀ side, view.ended side s' → view.ended side s

/-- A side takes bytes from the front of its queue, `n` at most; none of those that it asks for only
if none are there and none can come. -/
structure Takes (view : View σ) (side : Side) (n : Nat) (bytes : Bytes) (s s' : σ) : Prop where
  isUp : view.isUp s'
  queued : view.queued side s = bytes ++ view.queued side s'
  other : view.queued side.other s' = view.queued side.other s
  ended : ∀ each, view.ended each s' → view.ended each s
  length_le : bytes.length ≤ n
  empty : 0 < n → bytes = [] → view.queued side s = [] ∧ view.ended side s

structure Adds (view : View σ) (side : Side) (bytes : Bytes) (s s' : σ) : Prop where
  isUp : view.isUp s'
  queued : view.queued side.other s' = view.queued side.other s ++ bytes
  own : view.queued side s' = view.queued side s
  ended : ∀ each, view.ended each s' → view.ended each s

/-- A side shuts a half: reading ends for itself, or writing and with it reading for the other. -/
structure Shuts (view : View σ) (side : Side) (half : Half) (s s' : σ) : Prop where
  isUp : view.isUp s'
  queued : ∀ each, view.queued each s' = view.queued each s
  ended : ∀ each, view.ended each s' →
    view.ended each s ∨ half = .reading ∧ side = each ∨ half = .writing ∧ side = each.other

/-- A call that the kernel fails moves nothing; what one does that it answers is given. -/
def Answered (view : View σ) (s : σ) {α : Type} (done : σ → α → Prop) :
    σ × Except IoError α → Prop
  | (s', .error _) => view.Rests s s'
  | (s', .ok a) => done s' a

variable {view : View σ} {side : Side} {s s' s'' : σ}

theorem Rests.refl (h : view.isUp s) : view.Rests s s := ⟨h, fun _ => rfl, fun _ he => he⟩

theorem Rests.trans (h : view.Rests s s') (h' : view.Rests s' s'') : view.Rests s s'' where
  isUp := h'.isUp
  queued each := (h'.queued each).trans (h.queued each)
  ended each he := h.ended each (h'.ended each he)

theorem Takes.after_rests {n : Nat} {bytes : Bytes} (h' : view.Takes side n bytes s' s'')
    (h : view.Rests s s') : view.Takes side n bytes s s'' where
  isUp := h'.isUp
  queued := (h.queued side).symm.trans h'.queued
  other := h'.other.trans (h.queued side.other)
  ended each he := h.ended each (h'.ended each he)
  length_le := h'.length_le
  empty hn hb := by
    obtain ⟨hqueued, hended⟩ := h'.empty hn hb
    exact ⟨(h.queued side).symm.trans hqueued, h.ended side hended⟩

theorem Adds.after_rests {bytes : Bytes} (h' : view.Adds side bytes s' s'')
    (h : view.Rests s s') : view.Adds side bytes s s'' where
  isUp := h'.isUp
  queued := by rw [h'.queued, h.queued]
  own := h'.own.trans (h.queued side)
  ended each he := h.ended each (h'.ended each he)

theorem Answered.after_rests {α : Type} {done done' : σ → α → Prop} {r : σ × Except IoError α}
    (h' : view.Answered s' done' r) (h : view.Rests s s')
    (hdone : ∀ s'' a, done' s'' a → done s'' a) : view.Answered s done r := by
  rcases r with ⟨s'', e | a⟩
  · exact h.trans h'
  · exact hdone s'' a h'

end View

namespace Link

variable {σ : Type}

/-- What is asked of the kernel of a stream. Writing may take less than was offered, and reading
less than was asked for. -/
structure IsStream (link : Link σ) (view : View σ) : Prop where
  kind : link.kind = .stream
  send : ∀ {s : σ} (side : Side) (bytes : Bytes), view.isUp s →
    view.Answered s (fun s' n => view.Adds side (bytes.take n) s s')
      ((link.sink side).send s ⟨[bytes], none⟩)
  read : ∀ {s : σ} (side : Side) (n : Nat), view.isUp s →
    view.Answered s (fun s' bytes => view.Takes side n bytes s s') ((link.source side).read s n)
  receive : ∀ {s : σ} (side : Side) (n room : Nat), view.isUp s →
    view.Answered s (fun s' r => view.Takes side n r.bytes s s' ∧ r.isTruncated = false)
      ((link.receiver side).receive s n room)
  shut : ∀ {s : σ} (side : Side) (half : Half), view.isUp s →
    view.Answered s (fun s' _ => view.Shuts side half s s') (link.shut side half s)

variable {link : Link σ} {view : View σ}

namespace IsStream

/-- Sending, made again while it is interrupted, adds the bytes it counts to the queue of the other
side. -/
theorem sendThrough (hl : link.IsStream view) (side : Side) (bytes : Bytes) {s : σ}
    (hs : view.isUp s) :
    view.Answered s (fun s' n => view.Adds side (bytes.take n) s s')
      ((link.sink side).sendThrough s bytes) := by
  fun_induction Sink.sendThrough (link.sink side) s bytes with
  | case1 s s' n h =>
    have hsend := hl.send side bytes hs
    rwa [h] at hsend
  | case2 s s' e h hi ih =>
    have hsend := hl.send side bytes hs
    rw [h] at hsend
    have hrests : view.Rests s s' := hsend
    exact (ih hrests.isUp).after_rests hrests fun _ _ hadds => hadds.after_rests hrests
  | case3 s s' e h hi =>
    have hsend := hl.send side bytes hs
    rwa [h] at hsend

/-- Reading, made again while it is interrupted, takes what it returns from the front of the queue.
-/
theorem readThrough (hl : link.IsStream view) (side : Side) (n : Nat) {s : σ}
    (hs : view.isUp s) :
    view.Answered s (fun s' bytes => view.Takes side n bytes s s')
      ((link.source side).readThrough s n) := by
  fun_induction Source.readThrough (link.source side) s n with
  | case1 s s' bytes h =>
    have hread := hl.read side n hs
    rwa [h] at hread
  | case2 s s' e h hi ih =>
    have hread := hl.read side n hs
    rw [h] at hread
    have hrests : view.Rests s s' := hread
    exact (ih hrests.isUp).after_rests hrests fun _ _ htakes => htakes.after_rests hrests
  | case3 s s' e h hi =>
    have hread := hl.read side n hs
    rwa [h] at hread

theorem receiveThrough (hl : link.IsStream view) (side : Side) (n room : Nat) {s : σ}
    (hs : view.isUp s) :
    view.Answered s (fun s' r => view.Takes side n r.bytes s s' ∧ r.isTruncated = false)
      ((link.receiver side).receiveThrough s n room) := by
  fun_induction Receiver.receiveThrough (link.receiver side) s n room with
  | case1 s s' r h =>
    have hreceive := hl.receive side n room hs
    rwa [h] at hreceive
  | case2 s s' e h hi ih =>
    have hreceive := hl.receive side n room hs
    rw [h] at hreceive
    have hrests : view.Rests s s' := hreceive
    exact (ih hrests.isUp).after_rests hrests fun _ _ hr => ⟨hr.1.after_rests hrests, hr.2⟩
  | case3 s s' e h hi =>
    have hreceive := hl.receive side n room hs
    rwa [h] at hreceive

end IsStream

end Link

end LocalRecords
